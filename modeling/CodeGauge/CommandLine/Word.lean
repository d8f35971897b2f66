import CodeGauge.CommandLine.Misuse

/-!
What each word of a command line is by itself: a switch, perhaps with something attached to its
name, an argument, or the separator behind which all words are arguments.
-/
namespace CodeGauge.CommandLine

/-- What is written in one word with the name of a switch. -/
structure Attachment where
  text : Text
  /-- Whether an equals sign stands between the name and the text. -/
  byEquals : Bool
deriving Repr, DecidableEq

inductive Word where
  | argument (text : Text)
  | separator
  | switch (s : Switch) (short : Bool) (attached : Option Attachment)
  | unknown (text : Text)
deriving Repr, DecidableEq

/-- Whether a text is a dash with a number, whole or with digits behind a decimal point, perhaps
with a line feed at its end. -/
def isNegativeNumber (text : Text) : Bool :=
  match text with
  | '-' :: body =>
    let number := if body.getLast? = some '\n' then body.dropLast else body
    let fraction := number.dropWhile isDigit
    match fraction with
    | [] => !number.isEmpty
    | c :: digits => c == '.' && !digits.isEmpty && digits.all isDigit
  | _ => false

namespace Word

def separatorText : Text := "--"

/-- The part before the first equals sign, and the part after it when there is one. -/
def cutAtEquals (text : Text) : Text × Option Text :=
  let name := text.takeWhile (· != '=')
  (name, (text.drop name.length).tail?)

/-- Whether a name has one dash only. -/
def isShort (name : Text) : Bool :=
  !separatorText.isPrefixOf name

/-- A word with a dash that calls no switch: numbers and words with a space are arguments. -/
def ofOther (text : Text) : Word :=
  if isNegativeNumber text || text.contains ' ' then .argument text else .unknown text

/-- A word with two dashes: an unambiguous beginning of a name stands for the name. -/
def ofLong (text : Text) : Except Misuse Word :=
  let (start, value) := cutAtEquals text
  match Switch.startingWith start with
  | [] => .ok (ofOther text)
  | [(_, s)] => .ok (.switch s false (value.map (⟨·, true⟩)))
  | several => .error (.ambiguous text (several.map Prod.fst))

/-- A word with one dash: what follows a short name is attached to it. -/
def ofShort (text : Text) : Word :=
  match Switch.ofName? (text.take 2) with
  | some s => .switch s true (some ⟨text.drop 2, false⟩)
  | none => ofOther text

/-- A word that is not behind a separator. -/
def ofText (text : Text) : Except Misuse Word :=
  if text.head? ≠ some '-' then .ok (.argument text)
  else
    match Switch.ofName? text, cutAtEquals text with
    | some s, _ => .ok (.switch s (isShort text) none)
    | none, (name, value) =>
      if text.length = 1 then .ok (.argument text)
      else
        match Switch.ofName? name, value with
        | some s, some value => .ok (.switch s (isShort name) (some ⟨value, true⟩))
        | _, _ => if isShort text then .ok (ofShort text) else ofLong text

/-- All words. Behind the first separator there are only arguments. -/
def ofTexts : List Text → Except Misuse (List Word)
  | [] => .ok []
  | text :: rest =>
    if text = separatorText then .ok (.separator :: rest.map .argument)
    else do
      let word ← ofText text
      let words ← ofTexts rest
      return word :: words

end Word

end CodeGauge.CommandLine
