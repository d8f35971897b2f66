import CodeGauge.CodeUnit
import CodeGauge.Metrics.Basic
import CodeGauge.Pattern.Caseless
import CodeGauge.Pattern.Search
import CodeGauge.Text.Digit
import CodeGauge.Text.Lines

/-!
Metrics of raw text, for units without a syntax tree. The lines are read in order with a running
loop depth; allocations and stream operations are out of sight and stay at zero.
-/
namespace CodeGauge.TextScan

open Pattern

def commentPrefixes : List Text :=
  ["//", "#", "/*", "*"]

def isComment (line : Text) : Bool :=
  commentPrefixes.any (·.isPrefixOf line)

/-- The trimmed lines that are neither blank nor comments. -/
def codeLines (text : Text) : List Text :=
  (text.lines.map Text.trim).filter fun line => !line.isEmpty && !isComment line

def loopWords : List Text :=
  ["for", "while", "forEach", "map", "filter", "reduce", "loop", "each", "times"]

def loopPatterns : List Pattern :=
  [border ++ anyWord loopWords ++ border,
    border ++ "for" ++ many1 isBlank ++ many (· != '\n') ++ border ++ "in" ++ border,
    "." ++ anyWord ["forEach", "map", "filter"] ++ border]

def isLoopLine (line : Text) : Bool :=
  loopPatterns.any (·.foundIn line)

/-- A closing brace or the word `end`. -/
def closing : Pattern :=
  Pattern.alt "\x7d" ("end" ++ border)

def isClosingLine (line : Text) : Bool :=
  closing.matchesAt (.first line)

def sortingWords : Pattern :=
  border ++
    anyOf (["sort", "sorted", "quicksort", "mergesort", "heapsort", "timsort"].map
      fun word => caseless word.toList) ++ border

def permutationWords : Pattern :=
  border ++
    anyOf (["permut", "permute", "permutation", "permutations"].map
      fun word => caseless word.toList) ++ border

/-- An assignment whose right side multiplies or divides by two; no comparison and no arrow. -/
def halvingAssignment : Pattern :=
  notAfter (isOneOf "=!<>") ++ "=" ++ notBefore (isOneOf "=>") ++ span .shortest (· != ';') ++
    one (isOneOf "/*") ++ blanks ++ "2" ++ border

/-- An assignment that divides, multiplies or shifts in place. -/
def compoundAssignment : Pattern :=
  one isWord ++ blanks ++ anyWord ["//", "/", "*", ">>", "<<"] ++ "=" ++ blanks ++ one isDigit

/-- A call of a logarithm, by itself or from a mathematics module. -/
def logarithmCall : Pattern :=
  Pattern.alt (border ++ anyWord ["Math", "math", "std", "numpy", "np", "Mathf"] ++ ".")
      (notAfter fun c => isWord c || c == '.') ++
    one (isOneOf "lL") ++ "og" ++ opt (anyWord ["2", "10", "1p"]) ++ blanks ++ "("

/-- A shift operator with an operand on either side. -/
def shift : Pattern :=
  one isWord ++ blanks ++ Pattern.alt (">>" ++ opt ">") "<<" ++ blanks ++ one isWord

def logarithmicPatterns : List Pattern :=
  [halvingAssignment, compoundAssignment, logarithmCall, shift]

/-- A call of `name` that is not part of a longer name. -/
def callOf (name : Text) : Pattern :=
  notAfter isNamePart ++ .literal name ++ blanks ++ "("

/-- Words that cannot be the result type in front of a declared name. -/
def statementWords : List Text :=
  ["return", "await", "yield", "throw", "else", "elif", "if", "while", "for", "not", "new", "case",
    "when", "assert", "print", "echo"]

/-- A header that declares `name`: behind a function keyword, as a bound value, or behind modifiers
and a result type. -/
def declarationOf (name : Text) : Pattern :=
  anyOf
    [border ++ anyWord ["fun", "fn", "func", "def", "function", "sub"] ++ border ++
        span .shortest (· != '=') ++ notAfter isNamePart ++ .literal name ++ border,
      border ++ anyWord ["const", "let", "var", "val"] ++ many1 isBlank ++ .literal name ++ border,
      textStart ++ notAt (anyWord statementWords ++ border) ++
        (let modifier := many1 (fun c => isNamePart c || isOneOf ":<>*&,[]@" c) ++ many1 isBlank
        modifier ++ star .longest modifier) ++
        .literal name ++ blanks ++ "("]

/-- What has been read so far: the metrics, the loop depth, and whether the header that declares the
function has gone by. -/
structure Reading where
  metrics : Metrics := { mode := .text }
  depth : Int := 0
  headerSeen : Bool := false
deriving Repr, DecidableEq

namespace Reading

/-- A loop line opens a level; a closing line ends one, when there is one to end. -/
def noteNesting (s : Reading) (line : Text) : Reading :=
  let s :=
    if isLoopLine line then
      { s with
        metrics :=
          { s.metrics with
            loopCount := s.metrics.loopCount + 1
            maxNestedDepth := max s.metrics.maxNestedDepth (s.depth + 1) }
        depth := s.depth + 1 }
    else s
  if isClosingLine line then { s with depth := max 0 (s.depth - 1) } else s

/-- Counts a line with a self-call, and once more a line with several. In the header only what
follows the declared name is a call. -/
def noteSelfCalls (name : Text) (s : Reading) (line : Text) : Reading :=
  if name.isEmpty then s
  else
    let calls := (callOf name).findAll line
    let header := if s.headerSeen then none else (declarationOf name).search? line
    let calls : List Match :=
      match header with
      | some m => calls.filter fun call => m.stop.offset ≤ call.start.offset
      | none => calls
    { s with
      metrics :=
        { s.metrics with
          recursiveCalls := s.metrics.recursiveCalls + if 1 ≤ calls.length then 1 else 0
          doubleRecursiveCalls :=
            s.metrics.doubleRecursiveCalls + if 2 ≤ calls.length then 1 else 0 }
      headerSeen := s.headerSeen || header.isSome }

def noteKeywords (s : Reading) (line : Text) : Reading :=
  { s with
    metrics :=
      { s.metrics with
        hasSortingPattern := s.metrics.hasSortingPattern || sortingWords.foundIn line
        hasFactorialPattern := s.metrics.hasFactorialPattern || permutationWords.foundIn line
        hasLogarithmicPattern :=
          s.metrics.hasLogarithmicPattern || logarithmicPatterns.any (·.foundIn line) } }

/-- Reads one line of code. -/
def noteLine (name : Text) (s : Reading) (line : Text) : Reading :=
  ((s.noteNesting line).noteSelfCalls name line).noteKeywords line

end Reading

/-- The metrics of a text that declares `name`; an empty name has no self-calls. -/
def metrics (text name : Text) : Metrics :=
  ((codeLines text).foldl (Reading.noteLine name) {}).metrics

end CodeGauge.TextScan

namespace CodeGauge

def CodeUnit.textMetrics (u : CodeUnit) : Metrics :=
  TextScan.metrics u.text u.name

end CodeGauge
