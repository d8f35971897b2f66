import CodeGauge.Proofs.Text.Blank
import CodeGauge.Text.Numeral
import Mathlib.Algebra.Group.Nat.Defs

/-!
Integers written in decimal and read again. A numeral that is not too long reads back as the integer
it was written for, with nothing blank in it.
-/
namespace CodeGauge

theorem toNat_mem_of_isDigit {c : Char} (h : c.isDigit = true) : 48 ≤ c.toNat ∧ c.toNat ≤ 57 :=
  Char.isDigit_iff_toNat.mp h

theorem digitValue?_of_isDigit {c : Char} (h : c.isDigit = true) :
    digitValue? c = some (c.toNat - '0'.toNat) := by
  have hrange := toNat_mem_of_isDigit h
  rw [digitValue?, if_pos (by omega), if_pos h]
  rfl

theorem isBlank_of_isDigit {c : Char} (h : c.isDigit = true) : isBlank c = false := by
  have hrange := toNat_mem_of_isDigit h
  simp only [isBlank, Bool.or_eq_false_iff, Bool.and_eq_false_iff, decide_eq_false_iff_not,
    beq_eq_false_iff_ne]
  omega

theorem isDigit_of_isBlank {c : Char} (h : isBlank c = true) : isDigit c = false :=
  eq_false_of_isBlank (by decide +kernel) h

namespace Text

theorem ofInt_eq (n : Int) :
    ofInt n =
      if 0 ≤ n then Nat.toDigits 10 n.toNat else '-' :: Nat.toDigits 10 (-n).toNat := by
  rw [ofInt, Int.toString_eq_repr, Int.repr_eq_if]
  split
  · exact Nat.toList_repr
  · rw [String.toList_append, Nat.toList_repr]
    rfl

theorem isBlank_of_mem_toDigits {n : Nat} {c : Char} (h : c ∈ Nat.toDigits 10 n) :
    isBlank c = false :=
  isBlank_of_isDigit (Nat.isDigit_of_mem_toDigits (by decide) (by decide) h)

/-- No white space stands in a numeral. -/
theorem isBlank_of_mem_ofInt {n : Int} {c : Char} (h : c ∈ ofInt n) : isBlank c = false := by
  rw [ofInt_eq] at h
  split at h
  · exact isBlank_of_mem_toDigits h
  · rcases List.mem_cons.mp h with rfl | h
    · decide
    · exact isBlank_of_mem_toDigits h

end Text

namespace Numeral

/-- In a row of digits each one stands for its own value. -/
theorem digits?_eq_filterMap {digits : Text} (afterDigit : Bool)
    (h : ∀ c ∈ digits, isDigit c = true) (hne : afterDigit = true ∨ digits ≠ []) :
    digits? afterDigit digits = some (digits.filterMap digitValue?) := by
  induction digits generalizing afterDigit with
  | nil =>
    rw [digits?, if_pos (hne.resolve_right fun hnil => hnil rfl)]
    rfl
  | cons c rest ih =>
    obtain ⟨hc, hrest⟩ := List.forall_mem_cons.mp h
    have hplain : (c == '_') = false := by
      rw [beq_eq_false_iff_ne]
      rintro rfl
      exact absurd hc (by decide)
    obtain ⟨value, hvalue⟩ := Option.isSome_iff_exists.mp hc
    rw [digits?, hplain, if_neg Bool.false_ne_true, List.filterMap_cons_some hvalue]
    simp only [hvalue, ih true hrest (Or.inl rfl), Option.map_some]

/-- A row of digits is read unless it is too long. -/
theorem parseNat_of_isDigit {digits : Text} (h : ∀ c ∈ digits, isDigit c = true)
    (hne : digits ≠ []) : parseNat digits =
      if maxDigits < digits.length then .error (.tooLong digits.length)
      else .ok (value (digits.filterMap digitValue?)) := by
  have hlength : (digits.filterMap digitValue?).length = digits.length := by
    rw [List.length_filterMap_eq_countP, List.countP_eq_length]
    exact h
  simp only [parseNat, digits?_eq_filterMap false h (Or.inr hne), hlength, gt_iff_lt]

theorem filterMap_digitValue? {digits : Text} (h : ∀ c ∈ digits, c.isDigit = true) :
    digits.filterMap digitValue? = digits.map fun c => c.toNat - '0'.toNat := by
  rw [← List.filterMap_eq_map]
  exact List.filterMap_congr fun c hc => digitValue?_of_isDigit (h c hc)

theorem value_map_toNat (digits : Text) :
    value (digits.map fun c => c.toNat - '0'.toNat) = Nat.ofDigitChars 10 digits 0 := by
  rw [value, List.foldl_map, Nat.ofDigitChars_eq_foldl]

theorem parseNat_toDigits {n : Nat} (h : n < 10 ^ maxDigits) :
    parseNat (Nat.toDigits 10 n) = .ok n := by
  have hlength : (Nat.toDigits 10 n).length ≤ maxDigits :=
    (Nat.length_toDigits_le_iff (by decide) (by decide)).mpr h
  have hdigit : ∀ c ∈ Nat.toDigits 10 n, c.isDigit = true :=
    fun c hc => Nat.isDigit_of_mem_toDigits (by decide) (by decide) hc
  have hread : ∀ c ∈ Nat.toDigits 10 n, isDigit c = true :=
    fun c hc => Option.isSome_of_eq_some (digitValue?_of_isDigit (hdigit c hc))
  rw [parseNat_of_isDigit hread Nat.toDigits_ne_nil, if_neg (Nat.not_lt.mpr hlength),
    filterMap_digitValue? hdigit, value_map_toNat, Nat.ofDigitChars_ten_toDigits]

/-- Padding is white space, so a text without any is read as it stands. -/
theorem dropWhile_isPadding {text : Text} (h : ∀ c ∈ text, isBlank c = false) :
    text.dropWhile isPadding = text := by
  cases text with
  | nil => rfl
  | cons c rest =>
    have hc : isPadding c = false := by rw [isPadding, h c List.mem_cons_self, Bool.false_and]
    exact List.dropWhile_cons_of_neg (Bool.eq_false_iff.mp hc)

/-- Every integer that is not too long is read back. -/
theorem parse_ofInt {n : Int} (h : n.natAbs < 10 ^ maxDigits) : parse (Text.ofInt n) = .ok n := by
  have hbody : (((Text.ofInt n).dropWhile isPadding).reverse.dropWhile isPadding).reverse =
      Text.ofInt n := by
    have hplain : ∀ c ∈ Text.ofInt n, isBlank c = false := fun c => Text.isBlank_of_mem_ofInt
    rw [dropWhile_isPadding hplain,
      dropWhile_isPadding fun c hc => hplain c (List.mem_reverse.mp hc), List.reverse_reverse]
  rw [parse, hbody, Text.ofInt_eq]
  by_cases hsign : 0 ≤ n
  · rw [if_pos hsign]
    have hread := parseNat_toDigits (n := n.toNat) (by omega)
    -- a first digit is no sign
    have hdigit (c : Char) (hc : c ∈ Nat.toDigits 10 n.toNat) : c.isDigit = true :=
      Nat.isDigit_of_mem_toDigits (by decide) (by decide) hc
    split
    · rename_i hminus
      exact absurd (hdigit '-' (hminus ▸ List.mem_cons_self)) (by decide)
    · rename_i hplus
      exact absurd (hdigit '+' (hplus ▸ List.mem_cons_self)) (by decide)
    · rw [hread]
      exact congrArg Except.ok (Int.toNat_of_nonneg hsign)
  · rw [if_neg hsign]
    have hread := parseNat_toDigits (n := (-n).toNat) (by omega)
    have hvalue : -((-n).toNat : Int) = n := by omega
    simp only [hread]
    exact congrArg Except.ok hvalue

end Numeral

end CodeGauge
