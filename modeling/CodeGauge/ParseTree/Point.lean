import CodeGauge.ParseTree.Basic

/-!
Rows and columns of a parse tree, and the nodes on the way down to a point. Rows are separated by
line feeds and columns count bytes, both from zero on.
-/
namespace CodeGauge

structure Point where
  row : Int
  column : Int
deriving Repr, DecidableEq

namespace Point

/-- Points are compared by row, then by column. -/
def before (p q : Point) : Bool :=
  p.row < q.row || (p.row = q.row && p.column < q.column)

/-- The point of a byte offset. -/
def ofOffset (source : Text) (offset : Nat) : Point :=
  let passed := source.byteSlice 0 offset
  ⟨passed.count '\n', (passed.afterLast '\n').byteLength + (offset - passed.byteLength)⟩

end Point

namespace ParseTree

def startPoint (source : Text) (n : ParseTree) : Point :=
  .ofOffset source n.label.start

def stopPoint (source : Text) (n : ParseTree) : Point :=
  .ofOffset source n.label.stop

/-- Whether the node lies before the point: it ends before it, or at it without being empty. -/
def endsBefore (source : Text) (p : Point) (n : ParseTree) : Bool :=
  let start := n.startPoint source
  let stop := n.stopPoint source
  stop.before p || (stop = p && start ≠ stop)

mutual

/-- The nodes from a node down to the innermost one at the point. Of the children the first that
does not lie before the point counts, unless it starts behind it. -/
def pathTo (source : Text) (p : Point) (parent : Option ParseTree) : ParseTree → List Site
  | .node label children =>
    ⟨parent, .node label children⟩ :: pathAmong source p (.node label children) children

def pathAmong (source : Text) (p : Point) (parent : ParseTree) : List ParseTree → List Site
  | [] => []
  | n :: rest =>
    if n.endsBefore source p then pathAmong source p parent rest
    else if p.before (n.startPoint source) then []
    else pathTo source p (some parent) n

end

end ParseTree

end CodeGauge
