import CodeGauge.Grammar.Literal
import CodeGauge.ParseTree.Point

/-!
The code units of a parse tree: functions, and declarations where no function is near.
-/
namespace CodeGauge.Grammar

/-- Whether a node is a function; one without a name of its own counts when its parent names it. -/
def isUnit (g : Grammar) (s : Site) : Bool :=
  if g.anonymousTypes.contains s.node.type then
    match s.parent with
    | some parent => g.namingTypes.contains parent.type
    | none => false
  else g.functionTypes.contains s.node.type

/-- Whether a node is a declaration that may stand alone. -/
def isDeclarationUnit (g : Grammar) (n : ParseTree) : Bool :=
  g.declarationUnitTypes.contains n.type

/-- The fields of a naming parent that may hold the name, the first one first. -/
def nameFields : List Text :=
  ["name", "key", "left", "property"]

/-- The part of a text after its last dot. -/
def lastComponent (text : Text) : Text :=
  text.afterLast '.'

/-- The name of a unit: what the parent calls an anonymous function, the first name that a
declaration declares, or the name of a function. -/
def unitName (g : Grammar) (source : Text) (s : Site) : Text :=
  if g.anonymousTypes.contains s.node.type then
    match s.parent with
    | some parent =>
      match nameFields.findSome? parent.child? with
      | some name => lastComponent (name.text source)
      | none => []
    | none => []
  else if g.isDeclarationUnit s.node then
    let names := (s.node.descendants.filter fun n => g.declarationTypes.contains n.type).map
      (g.declaredName source)
    (names.find? (!·.isEmpty)).getD []
  else s.node.childText source "name"

/-- The functions of a tree, each before those inside it. -/
def units (g : Grammar) (root : ParseTree) : List Site :=
  (root.sites none).filter g.isUnit

/-- The declarations of a tree that may stand alone. -/
def declarationUnits (g : Grammar) (root : ParseTree) : List Site :=
  (root.sites none).filter (g.isDeclarationUnit ·.node)

/-- The innermost function around a point, or the innermost declaration when there is none. -/
def unitAt? (g : Grammar) (source : Text) (root : ParseTree) (p : Point) : Option Site :=
  let inward := (root.pathTo source p none).reverse
  match inward.find? g.isUnit with
  | some s => some s
  | none => inward.find? (g.isDeclarationUnit ·.node)

/-- The unit that a snippet is about: the function with the given name, the first function, or the
first declaration. -/
def mainUnit? (g : Grammar) (source : Text) (root : ParseTree) (name : Text) : Option Site :=
  let functions := g.units root
  let named := if name.isEmpty then none else functions.find? (g.unitName source · = name)
  match named, functions with
  | some s, _ => some s
  | none, s :: _ => some s
  | none, [] => (g.declarationUnits root).head?

end CodeGauge.Grammar
