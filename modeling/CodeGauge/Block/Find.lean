import CodeGauge.Block.Extent

/-!
The function blocks of a source text, found by their headers. Keyword headers are looked for first,
then arrow functions, then methods, and a line opens one block at most.
-/
namespace CodeGauge

/-- A function found by reading text. Lines are counted by line feeds, from one on. -/
structure Block where
  name : Text
  startLine : Nat
  endLine : Nat
  text : Text
deriving Repr, DecidableEq

namespace Block

/-- The line that a place is on. -/
def lineOf (place : Cursor) : Nat :=
  place.behind.count '\n' + 1

/-- The block behind a header, when the header opens one. -/
def ofHeader? (shape : HeaderShape) (m : Match) : Option Block :=
  if controlKeywords.contains (m.part .name) then none
  else if shape = .method && !m.declaresMethod then none
  else
    match (Body.ofHeader shape m).extent? m.start with
    | some text =>
      let startLine := lineOf m.start
      let endLine := startLine + (text.reverse.dropWhile (· == '\n')).count '\n'
      some ⟨m.part .name, startLine, endLine, text.trimEnd⟩
    | none => none

/-- Adds a block unless one that starts on the same line is there. -/
def addNew (blocks : List Block) (block : Block) : List Block :=
  if blocks.any (·.startLine = block.startLine) then blocks else blocks ++ [block]

/-- The blocks behind all headers of one shape, in the order of the source. -/
def ofShape (source : Text) (shape : HeaderShape) : List Block :=
  (shape.pattern.findAll source).filterMap (ofHeader? shape)

/-- The blocks of a source text in the order in which they are found. -/
def find (source : Text) : List Block :=
  ([HeaderShape.keyword, .arrow, .method].flatMap (ofShape source)).foldl addNew []

end Block

end CodeGauge
