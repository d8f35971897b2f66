/-!
Text is a list of code points: sizes, positions and columns all count code points. This module
holds the questions about a text that need no knowledge of its characters.
-/
namespace CodeGauge

/-- A sequence of code points. -/
abbrev Text := List Char

instance : Coe String Text := ⟨String.toList⟩

namespace Text

/-- Whether `needle` stands somewhere in a text. -/
def occursIn (needle : Text) : Text → Bool
  | [] => needle.isEmpty
  | c :: rest => needle.isPrefixOf (c :: rest) || occursIn needle rest

/-- Whether one of the needles stands somewhere in the text. -/
def containsAny (text : Text) (needles : List Text) : Bool :=
  needles.any (occursIn · text)

/-- Whether every needle stands somewhere in the text. -/
def containsAll (text : Text) (needles : List Text) : Bool :=
  needles.all (occursIn · text)

/-- Occurrences of `needle` after the next `skip` characters, none overlapping another. -/
def occurrencesFrom (needle : Text) : Nat → Text → Nat
  | _, [] => 0
  | skip + 1, _ :: rest => occurrencesFrom needle skip rest
  | 0, c :: rest =>
    if needle.isPrefixOf (c :: rest) then occurrencesFrom needle (needle.length - 1) rest + 1
    else occurrencesFrom needle 0 rest

/-- How many occurrences of a non-empty `needle` a left-to-right reading meets when it passes over
each one whole. -/
def occurrences (needle text : Text) : Nat :=
  occurrencesFrom needle 0 text

/-- The part of the text before the first occurrence of `needle`. -/
def beforeFirst? (needle : Text) : Text → Option Text
  | [] => if needle.isEmpty then some [] else none
  | c :: rest =>
    if needle.isPrefixOf (c :: rest) then some []
    else
      match beforeFirst? needle rest with
      | some before => some (c :: before)
      | none => none

/-- The part of the text after the last `mark`; the whole text when there is none. -/
def afterLast (mark : Char) (text : Text) : Text :=
  (text.reverse.takeWhile (· != mark)).reverse

/-- The piece before the first separator, and the pieces after it. -/
def cut (separator : Char) : Text → Text × List Text
  | [] => ([], [])
  | c :: rest =>
    let (first, others) := cut separator rest
    if c = separator then ([], first :: others) else (c :: first, others)

/-- The pieces between separators. There is always at least one. -/
def pieces (separator : Char) (text : Text) : List Text :=
  (cut separator text).1 :: (cut separator text).2

/-- The texts with `separator` between neighbours. -/
def join (separator : Text) (texts : List Text) : Text :=
  separator.intercalate texts

/-- The decimal digits of an integer, after a minus sign when it is negative. -/
def ofInt (n : Int) : Text :=
  (toString n).toList

/-- Lexicographic order by code point. -/
def precedes : Text → Text → Bool
  | [], _ => true
  | _ :: _, [] => false
  | a :: s, b :: t => a.toNat < b.toNat || (a == b && precedes s t)

end Text

end CodeGauge
