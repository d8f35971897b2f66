import CodeGauge.ParseTree.Basic
import CodeGauge.Syntax.Node

/-!
The three grammars whose parse trees can be read, and what their node types stand for.
-/
namespace CodeGauge

inductive Grammar where
  | java
  | javascript
  | python
deriving Repr, DecidableEq

namespace Grammar

def language : Grammar → Text
  | java => "java"
  | javascript => "javascript"
  | python => "python"

/-- Functions that have no name of their own. -/
def anonymousTypes : Grammar → List Text
  | javascript => ["arrow_function", "function_expression", "function"]
  | _ => []

/-- Parents that give a name to an anonymous function. -/
def namingTypes : Grammar → List Text
  | javascript => ["variable_declarator", "pair", "assignment_expression", "field_definition"]
  | _ => []

/-- Functions with a name of their own. -/
def functionTypes : Grammar → List Text
  | java => ["method_declaration", "constructor_declaration", "compact_constructor_declaration"]
  | javascript =>
    ["function_declaration", "generator_function_declaration", "method_definition"]
  | python => ["function_definition"]

/-- Declarations of fields, variables and constants, which may stand alone as a unit. -/
def declarationUnitTypes : Grammar → List Text
  | java => ["field_declaration", "constant_declaration", "local_variable_declaration"]
  | javascript => ["lexical_declaration", "variable_declaration", "field_definition"]
  | python => ["assignment"]

def loopTypes : Grammar → List (Text × NodeKind)
  | java =>
    [("for_statement", .forLoop), ("enhanced_for_statement", .forEach),
      ("while_statement", .whileLoop), ("do_statement", .doWhile)]
  | javascript =>
    [("for_statement", .forLoop), ("for_in_statement", .forEach),
      ("while_statement", .whileLoop), ("do_statement", .doWhile)]
  | python =>
    [("for_statement", .forEach), ("for_in_clause", .forEach), ("while_statement", .whileLoop)]

def callTypes : Grammar → List Text
  | java => ["method_invocation"]
  | javascript => ["call_expression"]
  | python => ["call"]

/-- Displays and comprehensions with the collection that they build. -/
def collectionTypes : List (Text × Text) :=
  [("list", "List"), ("list_comprehension", "List"), ("dictionary", "Map"),
    ("dictionary_comprehension", "Map"), ("set", "Set"), ("set_comprehension", "Set")]

/-- Functions with the collection that they construct. -/
def collectionConstructors : List (Text × Text) :=
  [("list", "List"), ("dict", "Map"), ("set", "Set"), ("frozenset", "Set"),
    ("defaultdict", "Map"), ("OrderedDict", "Map"), ("Counter", "Map"), ("deque", "List")]

def comprehensionTypes : Grammar → List Text
  | python =>
    ["list_comprehension", "set_comprehension", "dictionary_comprehension",
      "generator_expression"]
  | _ => []

def allocationTypes : Grammar → List Text
  | java => ["object_creation_expression"]
  | javascript => ["new_expression"]
  | python => collectionTypes.map Prod.fst

def declarationTypes : Grammar → List Text
  | java => ["variable_declarator"]
  | javascript => ["variable_declarator", "field_definition"]
  | python => ["assignment"]

def stringTypes : Grammar → List Text
  | java => ["string_literal", "text_block"]
  | javascript => ["string", "template_string"]
  | python => ["string", "concatenated_string"]

/-- The fields of a counted loop that decide how often it runs. -/
def iterationFields : Grammar → List Text
  | java => ["condition", "update", "body"]
  | javascript => ["condition", "increment", "body"]
  | python => ["condition", "body"]

/-- The field that holds the called function, the type of its node when it is a member of an object,
and the fields of the member's name and of the object. -/
structure Callee where
  field : Text
  memberType : Text
  memberField : Text
  objectField : Text

def callee : Grammar → Option Callee
  | java => none
  | javascript => some ⟨"function", "member_expression", "property", "object"⟩
  | python => some ⟨"function", "attribute", "attribute", "object"⟩

/-- The name that a call calls, and the text before its final dot. -/
def nameAndReceiver (g : Grammar) (source : Text) (call : ParseTree) : Text × Text :=
  match g.callee with
  | none => (call.childText source "name", call.childText source "object")
  | some callee =>
    match call.child? callee.field with
    | none => ([], [])
    | some function =>
      if function.type = callee.memberType then
        (function.childText source callee.memberField,
          function.childText source callee.objectField)
      else (function.text source, [])

/-- The collection that a call constructs. -/
def constructedCollection? (g : Grammar) (source : Text) (n : ParseTree) : Option Text :=
  if g = python && g.callTypes.contains n.type then
    collectionConstructors.lookup (g.nameAndReceiver source n).1
  else none

/-- What a node of the parse tree stands for. -/
def kindOf (g : Grammar) (source : Text) (n : ParseTree) : NodeKind :=
  if (g.constructedCollection? source n).isSome then .allocation
  else
    match g.loopTypes.lookup n.type with
    | some kind => kind
    | none =>
      if g.callTypes.contains n.type then .call
      else if g.allocationTypes.contains n.type then .allocation
      else if g.declarationTypes.contains n.type then .declaration
      else if g.stringTypes.contains n.type then .string
      else .other

/-- The type that an allocation builds. -/
def allocatedType (g : Grammar) (source : Text) (n : ParseTree) : Text :=
  match g with
  | java =>
    match n.child? "type" with
    | none => []
    | some type =>
      match type.namedChildren with
      | raw :: _ => if type.type = ("generic_type" : Text) then raw.text source else type.text source
      | [] => type.text source
  | javascript => n.childText source "constructor"
  | python =>
    match g.constructedCollection? source n with
    | some collection => collection
    | none => (collectionTypes.lookup n.type).getD []

/-- The texts of the condition, update and body of a counted loop, on lines of their own. -/
def iterationText (g : Grammar) (source : Text) (n : ParseTree) : Text :=
  Text.join ['\n'] ((g.iterationFields.flatMap n.childrenWith).map (·.text source))

end Grammar

end CodeGauge
