/-!
Look-up in the tables of character properties.
-/
namespace CodeGauge.Text.Table

/-- Whether a number lies in one of the increasing closed ranges. -/
def inRanges (n : Nat) : List (Nat × Nat) → Bool
  | [] => false
  | (first, last) :: rest => if n < first then false else n ≤ last || inRanges n rest

end CodeGauge.Text.Table
