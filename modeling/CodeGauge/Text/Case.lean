import CodeGauge.Text.Basic
import CodeGauge.Text.Property
import CodeGauge.Text.Table.Case

/-!
Lower and upper case of whole texts. One character may become several, and a capital sigma becomes
the final form where it ends a word.
-/
namespace CodeGauge

/-- Moves a number by the first run that covers it. -/
def Text.Table.shift (n : Nat) : List Text.Table.CaseRun → Nat
  | [] => n
  | run :: rest => if run.covers n then (n + run.shift).toNat else Text.Table.shift n rest

/-- Lower case of a character on its own. -/
def lowerChar (c : Char) : Text :=
  let n := c.toNat
  if n < 0x80 then [c.toLower]
  else if n = 0x130 then ['i', '\u0307']
  else [Char.ofNat (Text.Table.shift n Text.Table.lower)]

/-- Upper case of a character. -/
def upperChar (c : Char) : Text :=
  let n := c.toNat
  if n < 0x80 then [c.toUpper]
  else
    match Text.Table.upperSequence.lookup n with
    | some sequence => sequence
    | none => [Char.ofNat (Text.Table.shift n Text.Table.upper)]

/-- Whether the nearest character that a word's case does not pass over has a case. -/
def meetsCased (text : Text) : Bool :=
  match text.dropWhile fun c => Text.Table.inRanges c.toNat Text.Table.caseIgnorable with
  | [] => false
  | c :: _ => Text.Table.inRanges c.toNat Text.Table.cased

namespace Text

/-- Lower case of `text`, where `behind` is the reversed text before it. -/
def lowerFrom (behind : Text) : Text → Text
  | [] => []
  | c :: rest =>
    let lowered :=
      if c = 'Σ' then [if meetsCased behind && !meetsCased rest then 'ς' else 'σ']
      else lowerChar c
    lowered ++ lowerFrom (c :: behind) rest

def lower (text : Text) : Text :=
  lowerFrom [] text

def upper (text : Text) : Text :=
  text.flatMap upperChar

end Text

end CodeGauge
