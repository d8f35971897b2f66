import CodeGauge.Syntax.Node

/-!
Walking a tree: every node before its children, and the children from left to right. The walk keeps
the subtrees that are still to be visited, nearest first.
-/
namespace CodeGauge.SyntaxNode

mutual

/-- The number of nodes of a tree. -/
def count : SyntaxNode → Nat
  | .node _ children => countAll children + 1

/-- The number of nodes of all the trees. -/
def countAll : List SyntaxNode → Nat
  | [] => 0
  | n :: rest => n.count + countAll rest

end

theorem countAll_append (ns ms : List SyntaxNode) :
    countAll (ns ++ ms) = countAll ns + countAll ms := by
  induction ns with
  | nil => simp [countAll]
  | cons n ns ih => simp [countAll, ih, Nat.add_assoc]

/-- The nodes of the pending trees in the order in which they are visited. -/
def walkFrom : (pending : List SyntaxNode) → List SyntaxNode
  | [] => []
  | n :: rest => n :: walkFrom (n.children ++ rest)
termination_by pending => countAll pending
decreasing_by
  cases n
  simp only [children, countAll_append, countAll, count]
  omega

/-- A node and all its descendants, each before its children. -/
def walk (n : SyntaxNode) : List SyntaxNode :=
  walkFrom [n]

/-- The nodes of the walk whose kind is wanted. -/
def findAll (n : SyntaxNode) (kinds : List NodeKind) : List SyntaxNode :=
  n.walk.filter (kinds.contains ·.kind)

def loops (n : SyntaxNode) : List SyntaxNode :=
  n.findAll [.forLoop, .forEach, .whileLoop, .doWhile]

def calls (n : SyntaxNode) : List SyntaxNode :=
  n.findAll [.call]

/-- The calls of exactly `name`. -/
def callsTo (n : SyntaxNode) (name : Text) : List SyntaxNode :=
  n.walk.filter (·.label.isCallTo name)

end CodeGauge.SyntaxNode
