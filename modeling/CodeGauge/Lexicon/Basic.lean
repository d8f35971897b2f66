import CodeGauge.Lexicon.Message
import CodeGauge.Pattern.Search
import CodeGauge.Text.Digit

/-!
The spellings that the rules look for in one language. A rule is written once; a lexicon only says
how things are written. Every marker is looked for in lower-cased text.
-/
namespace CodeGauge

structure Lexicon where
  language : Text
  /-- Where a loop begins, for units without a tree. -/
  loopPattern : Pattern
  /-- Calls that run their argument once per element. -/
  iterationCalls : List Text := []
  queryMarkers : List Text := []
  chainRequired : List Text := []
  /-- Operations that count as a chain when all of one group occur. -/
  chainPairs : List (List Text) := []
  chainOps : List Text := []
  chainMinOps : Nat := 3
  lazyMarkers : List Text := []
  listenerAdd : List Text :=
    ["addlistener", "addobserver", "subscribe", "add_listener", "add_observer"]
  listenerRemove : List Text :=
    ["removelistener", "removeobserver", "unsubscribe", "dispose", "remove_listener",
      "remove_observer"]
  threadStart : List (List Text) := []
  threadStop : List Text := []
  uiMarkers : List Text := []
  uiNames : List Text := []
  blockingMarkers : List Text := []
  /-- Allocations of collections; every pattern captures a size. -/
  collectionAllocation : List Pattern := []
  /-- Allocations of arrays; every pattern captures a size. -/
  arrayAllocation : List Pattern := []
  boxedTypes : List Text := []
  boxedAccess : List Text := []
  concatMarkers : List Text := ["+"]
  fileMarkers : List Text := []
  pathValidation : List Text := []
  randomPattern : Pattern := Pattern.anyOf []
  commandMarkers : List Text := []
  htmlOutput : List Text := []
  externalInput : List Text := []
  escapingMarkers : List Text := []
  /-- Wordings of the language's own. -/
  messages : List (MessageKey × Text) := []

namespace Lexicon

/-- The language's own wording, or the general one. -/
def template (lex : Lexicon) (key : MessageKey) : Template :=
  match lex.messages.lookup key with
  | some text => .plain text
  | none => key.template

/-- The message with the given key. Without values its template is shown as it is; values that the
template does not use are ignored. -/
def message (lex : Lexicon) (key : Text) (values : List (Text × Text)) :
    Except MessageError Text :=
  match MessageKey.all.find? (·.label = key) with
  | none => .error (.unknownKey key)
  | some key =>
    match lex.template key, values with
    | template, [] => .ok template.unfilled
    | .plain text, _ => .ok text
    | template, values =>
      match values.lookup Template.sizeName with
      | some size => .ok (template.withSize size)
      | none => .error (.missingValue Template.sizeName)

end Lexicon

namespace Pattern

/-- A number with underscores between its digits, captured as a size. -/
def size : Pattern :=
  capture .size (one isDigit ++ many fun c => isDigit c || c == '_')

/-- The type arguments of a constructor, or none. -/
def typeArguments : Pattern :=
  opt ("<" ++ many (isNoneOf "()") ++ ">")

end Pattern

end CodeGauge
