import CodeGauge.Grammar.Convert
import CodeGauge.Grammar.Snippet
import CodeGauge.Language

/-!
Front ends read the source of a language through a parser. A registry tells which front end a
language has. A front end is instantiated when it is first asked for, and that instance stays.
-/
namespace CodeGauge

/-- A parser gives nothing for a source that it cannot parse. -/
abbrev Parser := Text → Option ParseTree

structure FrontEnd where
  grammar : Grammar
  /-- None when the parser cannot be built. -/
  parser : Option Parser

namespace FrontEnd

def isAvailable (f : FrontEnd) : Bool := f.parser.isSome

def parse (f : FrontEnd) (source : Text) : Option ParseTree :=
  match f.parser with
  | some parser => parser source
  | none => none

/-- The syntax tree of a snippet, when it can be parsed. -/
def convertSnippet? (f : FrontEnd) (text name : Text) : Option SyntaxNode :=
  let source := f.grammar.prepare text
  (f.parse source).map fun root => f.grammar.convertSnippet source root name

end FrontEnd

/-- What is registered for each normalized language, in the order of the first registration, and the
instances that exist. -/
structure FrontEndRegistry where
  registered : List (Text × FrontEnd)
  instances : List (Text × FrontEnd)

namespace FrontEndRegistry

/-- Registers a front end under the normalized language. A language keeps its place and its
instance. -/
def register (r : FrontEndRegistry) (language : Text) (f : FrontEnd) : FrontEndRegistry :=
  let language := Language.normalize language
  if (r.registered.lookup language).isSome then
    { r with
      registered := r.registered.map fun entry =>
        if entry.1 = language then (language, f) else entry }
  else { r with registered := r.registered ++ [(language, f)] }

/-- The instance of a language, which is made and kept when there is none yet. One whose parser
could not be built is kept too, but never given out. -/
def get (r : FrontEndRegistry) (language : Text) : Option FrontEnd × FrontEndRegistry :=
  let language := Language.normalize language
  match r.instances.lookup language with
  | some f => (if f.isAvailable then some f else none, r)
  | none =>
    match r.registered.lookup language with
    | some f =>
      (if f.isAvailable then some f else none,
        { r with instances := r.instances ++ [(language, f)] })
    | none => (none, r)

/-- The front end of a language, if it has one that works. -/
def find? (r : FrontEndRegistry) (language : Text) : Option FrontEnd :=
  (r.get language).1

def supportedLanguages (r : FrontEndRegistry) : List Text :=
  r.registered.map Prod.fst

def isSupported (r : FrontEndRegistry) (language : Text) : Bool :=
  r.supportedLanguages.contains (Language.normalize language)

/-- The three grammars with the given parsers, all of them instantiated. -/
def ofParsers (parser : Grammar → Option Parser) : FrontEndRegistry :=
  let frontEnds := [Grammar.java, .javascript, .python].map fun g => (g.language, ⟨g, parser g⟩)
  ⟨frontEnds, frontEnds⟩

end FrontEndRegistry

end CodeGauge
