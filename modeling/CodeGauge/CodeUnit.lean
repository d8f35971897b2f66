import CodeGauge.Syntax.Node
import CodeGauge.Text.Case

/-!
The piece of source that is analysed as a whole: one function, method or declaration.
-/
namespace CodeGauge

/-- One function-sized piece of source. The tree is there when the language could be parsed. -/
structure CodeUnit where
  id : Text
  language : Text
  text : Text
  tree : Option SyntaxNode := none
  name : Text := []
deriving Repr

namespace CodeUnit

def hasStructure (u : CodeUnit) : Bool := u.tree.isSome

/-- The text in which keywords are looked for. -/
def lowerText (u : CodeUnit) : Text := u.text.lower

def size (u : CodeUnit) : Nat := u.text.length

end CodeUnit

end CodeGauge
