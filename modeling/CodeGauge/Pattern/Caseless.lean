import CodeGauge.Pattern.Basic

/-!
Words matched without regard to case.
-/
namespace CodeGauge.Pattern

/-- Whether `c` is the lower-case ASCII letter in some case. The dotted capital and the dotless
small i, the long s and the Kelvin sign are cases of their letters too. -/
def isCaseOf (letter c : Char) : Bool :=
  c.toLower == letter ||
    match letter with
    | 'i' => c == '\u0130' || c == '\u0131'
    | 's' => c == '\u017F'
    | 'k' => c == '\u212A'
    | _ => false

/-- A word of lower-case ASCII letters in any case. -/
def caseless (word : Text) : Pattern :=
  word.foldr (fun letter rest => one (isCaseOf letter) ++ rest) empty

end CodeGauge.Pattern
