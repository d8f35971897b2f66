import CodeGauge.Block.Find
import CodeGauge.CodeUnit
import CodeGauge.FrontEnd.Registry
import CodeGauge.Text.Lines

/-!
The code units of a source file: the one around a position, all of them, or the one that a snippet
is. A language with a front end is read through its parse tree; any other is read as text.
-/
namespace CodeGauge

namespace CodeUnit

/-- What stands for a missing name in an identifier. -/
def anonymous : Text := "<anonymous>"

/-- `language:name`, for a unit whose line is not known. -/
def idOf (language name : Text) : Text :=
  language ++ (":" : Text) ++ if name.isEmpty then anonymous else name

/-- `language:name@line`. -/
def idAt (language name : Text) (line : Int) : Text :=
  idOf language name ++ ("@" : Text) ++ Text.ofInt line

/-- The unit of a block found in text. -/
def ofBlock (language : Text) (b : Block) : CodeUnit where
  id := language ++ (":" : Text) ++ b.name ++ ("@" : Text) ++ Text.ofInt b.startLine
  language := language
  text := b.text
  name := b.name

end CodeUnit

/-- A parsed source file: what was handed to the parser, and how many lines were put in front. -/
structure ParsedSource where
  grammar : Grammar
  prepared : Text
  root : ParseTree
  rowOffset : Nat

namespace ParsedSource

/-- Prepares and parses a source file. -/
def ofSource? (f : FrontEnd) (source : Text) : Option ParsedSource :=
  let prepared := f.grammar.prepare source
  (f.parse prepared).map fun root => ⟨f.grammar, prepared, root, f.grammar.rowOffset source⟩

/-- The unit of a node. Its line counts from one in the source. -/
def unitOf (p : ParsedSource) (language : Text) (s : Site) : CodeUnit :=
  let name := p.grammar.unitName p.prepared s
  { id := CodeUnit.idAt language name ((s.node.startPoint p.prepared).row - p.rowOffset + 1)
    language := language
    text := s.node.text p.prepared
    tree := some (p.grammar.convertUnit p.prepared s)
    name := name }

/-- The unit around a line, counted from one, and a column. -/
def unitAt? (p : ParsedSource) (language : Text) (line column : Int) : Option CodeUnit :=
  (p.grammar.unitAt? p.prepared p.root ⟨line - 1 + p.rowOffset, column⟩).map (p.unitOf language)

def units (p : ParsedSource) (language : Text) : List CodeUnit :=
  (p.grammar.units p.root).map (p.unitOf language)

end ParsedSource

namespace Block

/-- The latest of the blocks that span a line. -/
def innermost? (line : Int) (blocks : List Block) : Option Block :=
  (blocks.filter fun b => b.startLine ≤ line && line ≤ b.endLine).foldl
    (fun best b =>
      match best with
      | none => some b
      | some best => if best.startLine < b.startLine then some b else some best)
    none

/-- The blocks in the order of their first lines. -/
def inOrder (blocks : List Block) : List Block :=
  blocks.mergeSort fun a b => a.startLine ≤ b.startLine

end Block

namespace CodeUnit

/-- The unit around a line, counted from one, and a column, counted from zero. A line outside the
source has none. -/
def locate (frontEnds : FrontEndRegistry) (source language : Text) (line : Int)
    (column : Int := 0) : Option CodeUnit :=
  let language := Language.normalize language
  if line < 1 || (source.lines.length : Int) < line then none
  else
    match frontEnds.find? language with
    | some f =>
      match ParsedSource.ofSource? f source with
      | some parsed => parsed.unitAt? language line column
      | none => none
    | none => (Block.innermost? line (Block.find source)).map (ofBlock language)

/-- All functions of a source file. -/
def locateAll (frontEnds : FrontEndRegistry) (source language : Text) : List CodeUnit :=
  let language := Language.normalize language
  match frontEnds.find? language with
  | some f =>
    match ParsedSource.ofSource? f source with
    | some parsed => parsed.units language
    | none => []
  | none => (Block.inOrder (Block.find source)).map (ofBlock language)

/-- The unit of a snippet. A missing name is taken from the tree, or else from the first header in
the text. -/
def ofSnippet (frontEnds : FrontEndRegistry) (text language : Text) (name id : Text := []) :
    CodeUnit :=
  let language := Language.normalize language
  let tree : Option SyntaxNode :=
    match frontEnds.find? language with
    | some f => f.convertSnippet? text name
    | none => none
  let name :=
    match tree with
    | some root => if name.isEmpty then root.name else name
    | none => name
  let name :=
    if name.isEmpty then
      match Block.find text with
      | b :: _ => b.name
      | [] => []
    else name
  { id := if id.isEmpty then idOf language name else id
    language, text, tree, name }

end CodeUnit

end CodeGauge
