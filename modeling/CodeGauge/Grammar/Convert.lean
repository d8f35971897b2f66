import CodeGauge.Grammar.Unit

/-!
From parse trees to syntax trees. Nodes without a meaning of their own stay as plain nodes, unnamed
nodes are left out, and what lies too deep is cut off. A comprehension becomes a chain of nested
loops.

Nothing else stops a conversion: a limit to the depth of calls, which a tree could reach above the
level where it is cut off, is left out.
-/
namespace CodeGauge.Grammar

/-- Nodes deeper than this are cut off. -/
def maxTreeDepth : Nat := 400

/-- The label of a converted node. -/
def labelOf (g : Grammar) (source : Text) (n : ParseTree) : NodeLabel :=
  let kind := g.kindOf source n
  match kind with
  | .string => { kind, text := n.text source, value := some (g.stringValue source n) }
  | .other => { kind }
  | .forLoop | .whileLoop | .doWhile =>
    { kind, text := n.text source, iteration := g.iterationText source n }
  | .call =>
    let (name, receiver) := g.nameAndReceiver source n
    { kind, text := n.text source, name, receiver }
  | .allocation => { kind, text := n.text source, name := g.allocatedType source n }
  | .declaration =>
    { kind, text := n.text source, name := g.declaredName source n
      value := g.declaredValue? source n }
  | .unit | .function | .forEach => { kind, text := n.text source }

/-- The label of a comprehension, which keeps its text even when it builds no collection. -/
def comprehensionLabel (g : Grammar) (source : Text) (n : ParseTree) : NodeLabel :=
  let kind := g.kindOf source n
  { kind, text := n.text source
    name := if kind = .allocation then g.allocatedType source n else [] }

/-- Whether a child of a comprehension is one of its clauses. -/
def isClause (n : ParseTree) : Bool :=
  n.label.named && (n.type = ("for_in_clause" : Text) || n.type = ("if_clause" : Text))

/-- Puts a converted clause around what follows it: a loop encloses it, a condition stands before
it. Every loop has the text of the whole comprehension. -/
def enclose (text : Text) (clause : SyntaxNode) (inner : List SyntaxNode) : List SyntaxNode :=
  if clause.kind = .forEach then [.node { kind := .forEach, text } (clause.children ++ inner)]
  else clause :: inner

/-- The body and the clauses of a comprehension, from its children and their conversions: each
clause encloses the clauses after it, and the body is inside all of them. -/
def nestClauses (text : Text) (converted : List (ParseTree × SyntaxNode)) : List SyntaxNode :=
  let body := (converted.find? (·.1.label.field = some ("body" : Text))).map Prod.snd
  let clauses := (converted.filter (isClause ·.1)).map Prod.snd
  clauses.foldr (enclose text) body.toList

mutual

/-- Converts a node that lies `depth` levels below the root. -/
def convertNode (g : Grammar) (source : Text) (depth : Nat) : ParseTree → SyntaxNode
  | .node label children =>
    let n := ParseTree.node label children
    if maxTreeDepth < depth then .node { kind := .other } []
    else if g.comprehensionTypes.contains label.type then
      .node (g.comprehensionLabel source n)
        (nestClauses (n.text source) (convertAll g source (depth + 1) children))
    else if g.kindOf source n = .string then .node (g.labelOf source n) []
    else
      .node (g.labelOf source n)
        (((convertAll g source (depth + 1) children).filter (·.1.label.named)).map Prod.snd)

/-- Nodes that lie `depth` levels below the root, each with its conversion. -/
def convertAll (g : Grammar) (source : Text) (depth : Nat) :
    List ParseTree → List (ParseTree × SyntaxNode)
  | [] => []
  | n :: rest => (n, convertNode g source depth n) :: convertAll g source depth rest

end

/-- Converts a node that becomes the root of a unit's tree. -/
def convertRoot (g : Grammar) (source : Text) (kind : NodeKind) (name : Text) (n : ParseTree) :
    SyntaxNode :=
  let converted := g.convertNode source 0 n
  .node
    { kind, text := n.text source
      name := if name.isEmpty then converted.name else name
      value := converted.label.value }
    converted.children

/-- Converts a function or a declaration. -/
def convertUnit (g : Grammar) (source : Text) (s : Site) : SyntaxNode :=
  g.convertRoot source (if g.isDeclarationUnit s.node then .declaration else .function)
    (g.unitName source s) s.node

/-- Converts the unit that a snippet is about, or the whole snippet when it has none. -/
def convertSnippet (g : Grammar) (source : Text) (root : ParseTree) (name : Text) : SyntaxNode :=
  match g.mainUnit? source root name with
  | some s => g.convertUnit source s
  | none => g.convertRoot source .unit [] root

end CodeGauge.Grammar
