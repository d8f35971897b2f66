import CodeGauge.Text.Basic

/-!
The syntax tree of a code unit, in terms that no particular language owns. Every analysis asks a
node for its kind or walks the tree; none knows a grammar.
-/
namespace CodeGauge

inductive NodeKind where
  | unit
  | function
  | forLoop
  | forEach
  | whileLoop
  | doWhile
  | call
  | allocation
  | declaration
  | string
  | other
deriving Repr, DecidableEq, Inhabited

namespace NodeKind

def all : List NodeKind :=
  [unit, function, forLoop, forEach, whileLoop, doWhile, call, allocation, declaration, string,
    other]

def label : NodeKind → Text
  | unit => "unit"
  | function => "function"
  | forLoop => "for"
  | forEach => "foreach"
  | whileLoop => "while"
  | doWhile => "do_while"
  | call => "call"
  | allocation => "allocation"
  | declaration => "declaration"
  | string => "string"
  | other => "other"

def isLoop : NodeKind → Bool
  | forLoop | forEach | whileLoop | doWhile => true
  | _ => false

/-- Loops whose condition and update decide how often they run. -/
def isCounted : NodeKind → Bool
  | forLoop | whileLoop | doWhile => true
  | _ => false

end NodeKind

/-- What a node says about itself. Which fields mean something depends on the kind:
a function and a declaration have a `name`; a counted loop has in `iteration` its condition, update
and body; a call has its callee as `name` and the text before the final dot as `receiver`; an
allocation has the allocated type as `name`; a string has its content as `value`, and a declaration
the content of the string literal that it starts from, if it does. -/
structure NodeLabel where
  kind : NodeKind
  text : Text := []
  name : Text := []
  receiver : Text := []
  iteration : Text := []
  value : Option Text := none
deriving Repr, DecidableEq, Inhabited

inductive SyntaxNode where
  | node (label : NodeLabel) (children : List SyntaxNode)
deriving Repr, Inhabited

namespace SyntaxNode

def label : SyntaxNode → NodeLabel
  | .node label _ => label

def children : SyntaxNode → List SyntaxNode
  | .node _ children => children

def kind (n : SyntaxNode) : NodeKind := n.label.kind

def text (n : SyntaxNode) : Text := n.label.text

def name (n : SyntaxNode) : Text := n.label.name

def isLoop (n : SyntaxNode) : Bool := n.kind.isLoop

end SyntaxNode

/-- Whether this is a call of exactly `name`; nothing calls an empty name. -/
def NodeLabel.isCallTo (l : NodeLabel) (name : Text) : Bool :=
  l.kind = .call && !name.isEmpty && l.name = name

end CodeGauge
