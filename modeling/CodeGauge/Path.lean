import CodeGauge.Text.Basic

/-!
File paths: names between slashes. Empty names and single dots say nothing and are dropped.
-/
namespace CodeGauge

structure Path where
  /-- What the path starts with: nothing, one slash, or two. -/
  root : Text
  names : List Text
deriving Repr, DecidableEq

namespace Path

/-- Exactly two leading slashes stay; any other number of them is one. -/
def rootOf : Text → Text
  | '/' :: '/' :: '/' :: _ => ['/']
  | '/' :: '/' :: _ => ['/', '/']
  | '/' :: _ => ['/']
  | _ => []

def ofText (text : Text) : Path :=
  ⟨rootOf text,
    (Text.pieces '/' text).filter fun name => !name.isEmpty && name ≠ ['.']⟩

/-- The path as it is printed; a single dot when nothing is left. -/
def toText (p : Path) : Text :=
  if p.root.isEmpty && p.names.isEmpty then ['.'] else p.root ++ Text.join ['/'] p.names

/-- The end of the file name from its last dot on, unless the dot is the first or last character. -/
def extension (p : Path) : Text :=
  match p.names.getLast? with
  | none => []
  | some name =>
    let afterDot := name.afterLast '.'
    if afterDot.isEmpty || name.length ≤ afterDot.length + 1 then [] else '.' :: afterDot

end Path

end CodeGauge
