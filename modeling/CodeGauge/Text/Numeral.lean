import CodeGauge.Text.Blank
import CodeGauge.Text.Digit

/-!
Integers written in text: an optional sign and decimal digits of any script, with single
underscores allowed between digits and white space around the whole. The information separators do
not count as white space here. Numerals of more than 4300 digits are refused.
-/
namespace CodeGauge

/-- Why a text is no integer. -/
inductive NumeralError where
  | malformed
  | tooLong (digits : Nat)
deriving Repr, DecidableEq

namespace Numeral

/-- The longest numeral that is read. -/
def maxDigits : Nat := 4300

def isPadding (c : Char) : Bool :=
  isBlank c && !(0x1C ≤ c.toNat && c.toNat ≤ 0x1F)

/-- The digit values of a numeral; `afterDigit` tells whether an underscore may come next. -/
def digits? (afterDigit : Bool) : Text → Option (List Nat)
  | [] => if afterDigit then some [] else none
  | c :: rest =>
    if c == '_' then if afterDigit then digits? false rest else none
    else
      match digitValue? c with
      | none => none
      | some d => (digits? true rest).map (d :: ·)

/-- The number that a list of decimal digits denotes. -/
def value (digits : List Nat) : Nat :=
  digits.foldl (fun n d => 10 * n + d) 0

/-- The number denoted by a text of digits and underscores. -/
def parseNat (text : Text) : Except NumeralError Nat :=
  match digits? false text with
  | none => .error .malformed
  | some digits =>
    if digits.length > maxDigits then .error (.tooLong digits.length) else .ok (value digits)

/-- The integer that a text denotes. -/
def parse (text : Text) : Except NumeralError Int :=
  let body := ((text.dropWhile isPadding).reverse.dropWhile isPadding).reverse
  match body with
  | '-' :: digits => (parseNat digits).map fun n => -(n : Int)
  | '+' :: digits => (parseNat digits).map Int.ofNat
  | digits => (parseNat digits).map Int.ofNat

end Numeral

def NumeralError.message : NumeralError → Text
  | malformed => "invalid literal for an integer"
  | tooLong digits =>
    ("Exceeds the limit (4300 digits) for integer string conversion: value has " : Text) ++
      Text.ofInt digits ++
      (" digits; use sys.set_int_max_str_digits() to increase the limit" : Text)

end CodeGauge
