import CodeGauge.Text.Quoted

/-!
JSON values whose objects keep the order of their fields, and their printed form.
-/
namespace CodeGauge

inductive Json where
  | null
  | bool (b : Bool)
  | int (n : Int)
  | text (t : Text)
  | array (items : List Json)
  | object (fields : List (Text × Json))
deriving Inhabited

namespace Json

/-- A character inside a JSON string. -/
def escapeChar (c : Char) : Text :=
  if c = '"' || c = '\\' then ['\\', c]
  else if c = '\n' then ['\\', 'n']
  else if c = '\r' then ['\\', 'r']
  else if c = '\t' then ['\\', 't']
  else if c.toNat = 0x8 then ['\\', 'b']
  else if c.toNat = 0xC then ['\\', 'f']
  else if c.toNat < 0x20 then '\\' :: 'u' :: Text.hex 4 c.toNat
  else [c]

def renderText (t : Text) : Text :=
  '"' :: t.flatMap escapeChar ++ ['"']

/-- A line break and two spaces for each level. -/
def newline (level : Nat) : Text :=
  '\n' :: List.replicate (2 * level) ' '

/-- Printed entries between brackets, each on a line of its own. -/
def enclose (opening closing : Char) (level : Nat) (entries : List Text) : Text :=
  if entries.isEmpty then [opening, closing]
  else
    opening :: newline (level + 1) ++ Text.join (',' :: newline (level + 1)) entries ++
      newline level ++ [closing]

mutual

/-- The printed form of a value whose first line is already indented to `level`. -/
def render (level : Nat) : Json → Text
  | null => "null"
  | bool b => if b then "true" else "false"
  | int n => Text.ofInt n
  | text t => renderText t
  | array items => enclose '[' ']' level (renderItems (level + 1) items)
  | object fields => enclose '\x7b' '\x7d' level (renderFields (level + 1) fields)

def renderItems (level : Nat) : List Json → List Text
  | [] => []
  | item :: rest => render level item :: renderItems level rest

def renderFields (level : Nat) : List (Text × Json) → List Text
  | [] => []
  | (key, value) :: rest =>
    (renderText key ++ (": " : Text) ++ render level value) :: renderFields level rest

end

end Json

end CodeGauge
