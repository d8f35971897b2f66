import CodeGauge.Text.Utf8

/-!
Parse trees as a parser hands them over: nodes with a grammar type and a byte range of the source,
some of them named, some with a field in their parent.
-/
namespace CodeGauge

structure ParseLabel where
  /-- The name that the grammar gives to nodes of this sort. -/
  type : Text
  /-- The offset of the first byte. -/
  start : Nat
  /-- The offset behind the last byte. -/
  stop : Nat
  named : Bool := true
  field : Option Text := none
deriving Repr, DecidableEq, Inhabited

inductive ParseTree where
  | node (label : ParseLabel) (children : List ParseTree)
deriving Repr, Inhabited

namespace ParseTree

def label : ParseTree → ParseLabel
  | .node label _ => label

def children : ParseTree → List ParseTree
  | .node _ children => children

def type (n : ParseTree) : Text := n.label.type

/-- The piece of the source that the node covers. -/
def text (source : Text) (n : ParseTree) : Text :=
  source.byteSlice n.label.start n.label.stop

def namedChildren (n : ParseTree) : List ParseTree :=
  n.children.filter (·.label.named)

/-- The children with a field, in order. -/
def childrenWith (n : ParseTree) (field : Text) : List ParseTree :=
  n.children.filter (·.label.field = some field)

/-- The first child with a field. -/
def child? (n : ParseTree) (field : Text) : Option ParseTree :=
  n.children.find? (·.label.field = some field)

/-- The text of the first child with a field; empty without one. -/
def childText (source : Text) (n : ParseTree) (field : Text) : Text :=
  match n.child? field with
  | some child => child.text source
  | none => []

end ParseTree

/-- A node of a tree together with its parent; the root has none. -/
structure Site where
  parent : Option ParseTree
  node : ParseTree
deriving Repr

namespace ParseTree

mutual

/-- The node and its descendants, each before its children and with its parent. -/
def sites (parent : Option ParseTree) : ParseTree → List Site
  | .node label children =>
    ⟨parent, .node label children⟩ :: sitesAll (.node label children) children

def sitesAll (parent : ParseTree) : List ParseTree → List Site
  | [] => []
  | n :: rest => sites (some parent) n ++ sitesAll parent rest

end

/-- The node and its descendants, each before its children. -/
def descendants (n : ParseTree) : List ParseTree :=
  (n.sites none).map Site.node

end ParseTree

end CodeGauge
