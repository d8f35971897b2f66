import CodeGauge.Text.Case

/-!
Lower case is final. No character that it puts into a text is one that it would change again, so a
text in lower case stays what it is, and so does every part of it. Of the context that decides the
shape of a sigma nothing is left, since there is no capital sigma any more.
-/
namespace CodeGauge

namespace Text.Table

/-- Whether a run moves none of the numbers from `first` to `last`, of which only every second one
counts when they are sparse. -/
def CaseRun.misses (run : CaseRun) (first last : Nat) (sparse : Bool) : Bool :=
  Nat.blt last run.first || Nat.blt run.last first ||
    (sparse && run.step == 2 && (first - run.first) % 2 == 1)

theorem CaseRun.covers_eq_false {run : CaseRun} {first last n : Nat} {sparse : Bool}
    (hmisses : run.misses first last sparse = true) (hfirst : first ≤ n) (hlast : n ≤ last)
    (hsparse : sparse = true → (n - first) % 2 = 0) : run.covers n = false := by
  rw [Bool.eq_false_iff]
  intro hcovers
  simp only [covers, Bool.and_eq_true, decide_eq_true_eq, beq_iff_eq] at hcovers
  obtain ⟨⟨hfrom, hto⟩, hstep⟩ := hcovers
  simp only [misses, Bool.or_eq_true, Nat.blt_eq, Bool.and_eq_true, beq_iff_eq] at hmisses
  rcases hmisses with (hbelow | habove) | ⟨⟨hsparse', htwo⟩, hodd⟩
  · omega
  · omega
  · have heven := hsparse hsparse'
    rw [htwo] at hstep
    omega

/-- Whether no run moves any of the numbers that this one moves others to, and no other rule applies
to them. -/
def CaseRun.isFinal (run : CaseRun) : Bool :=
  let first := (run.first + run.shift).toNat
  let last := (run.last + run.shift).toNat
  Nat.blt 0x5A first && (Nat.blt last 0x130 || Nat.blt 0x130 first) &&
    lower.all fun other => other.misses first last (run.step == 2 || run.first == run.last)

theorem isFinal_of_mem_lower : ∀ run ∈ lower, run.isFinal = true := by
  have hall : lower.all CaseRun.isFinal = true := by decide +kernel
  exact List.all_eq_true.mp hall

/-- A number that lower case knows no further change for. The capital letters of ASCII lie below
it, and U+0130 has a rule of its own. -/
structure IsFinal (n : Nat) : Prop where
  above : 0x5A < n
  ne_dotted : n ≠ 0x130
  uncovered : ∀ run ∈ lower, run.covers n = false

theorem shift_eq_self {n : Nat} {runs : List CaseRun}
    (h : ∀ run ∈ runs, run.covers n = false) : shift n runs = n := by
  induction runs with
  | nil => rfl
  | cons run rest ih =>
    obtain ⟨hrun, hrest⟩ := List.forall_mem_cons.mp h
    rw [shift, hrun, if_neg Bool.false_ne_true, ih hrest]

/-- A number is moved by a run that covers it, or by none. -/
theorem exists_shift_eq (n : Nat) (runs : List CaseRun) :
    (∃ run ∈ runs, run.covers n = true ∧ shift n runs = (n + run.shift).toNat) ∨
      ∀ run ∈ runs, run.covers n = false := by
  induction runs with
  | nil => exact Or.inr fun run hrun => absurd hrun List.not_mem_nil
  | cons run rest ih =>
    rw [shift]
    cases hcovers : run.covers n with
    | true => exact Or.inl ⟨run, List.mem_cons_self, hcovers, if_pos rfl⟩
    | false =>
      rw [if_neg Bool.false_ne_true]
      rcases ih with ⟨other, hother, hmoves⟩ | hnone
      · exact Or.inl ⟨other, List.mem_cons_of_mem run hother, hmoves⟩
      · exact Or.inr (List.forall_mem_cons.mpr ⟨hcovers, hnone⟩)

theorem isFinal_of_covers {run : CaseRun} {n : Nat} (hrun : run ∈ lower)
    (hcovers : run.covers n = true) : IsFinal (n + run.shift).toNat := by
  have hfinal := isFinal_of_mem_lower run hrun
  simp only [CaseRun.isFinal, Bool.and_eq_true, Nat.blt_eq, Bool.or_eq_true,
    List.all_eq_true] at hfinal
  obtain ⟨⟨habove, hdotted⟩, hmisses⟩ := hfinal
  simp only [CaseRun.covers, Bool.and_eq_true, decide_eq_true_eq, beq_iff_eq] at hcovers
  obtain ⟨⟨hfrom, hto⟩, hstep⟩ := hcovers
  refine ⟨by omega, by omega, ?_⟩
  intro other hother
  refine CaseRun.covers_eq_false (hmisses other hother) (by omega) (by omega) ?_
  intro hsparse
  simp only [Bool.or_eq_true, beq_iff_eq] at hsparse
  rcases hsparse with htwo | hsingle
  · rw [htwo] at hstep
    omega
  · omega

/-- Wherever lower case moves a number beyond ASCII to, it moves it no further. -/
theorem isFinal_shift {n : Nat} (hascii : ¬n < 0x80) (hdotted : n ≠ 0x130) :
    IsFinal (shift n lower) := by
  rcases exists_shift_eq n lower with ⟨run, hrun, hcovers, heq⟩ | hnone
  · rw [heq]
    exact isFinal_of_covers hrun hcovers
  · rw [shift_eq_self hnone]
    exact ⟨by omega, hdotted, hnone⟩

end Text.Table

/-- A character that lower case leaves as it is, wherever it stands. -/
def IsLower (c : Char) : Prop :=
  c ≠ 'Σ' ∧ lowerChar c = [c]

instance (c : Char) : Decidable (IsLower c) :=
  inferInstanceAs (Decidable (_ ∧ _))

theorem isLower_ofNat {n : Nat} (h : Text.Table.IsFinal n) : IsLower (Char.ofNat n) := by
  by_cases hascii : n < 0x80
  · have hall : ∀ n < 0x80, 0x5A < n → IsLower (Char.ofNat n) := by decide +kernel
    exact hall n hascii h.above
  · by_cases hvalid : n.isValidChar
    · have hcode : (Char.ofNat n).toNat = n := by
        rw [Char.ofNat, dif_pos hvalid]
        rfl
      constructor
      · intro hsigma
        rw [hsigma] at hcode
        have hcovered : ∃ run ∈ Text.Table.lower, run.covers 'Σ'.toNat = true := by decide +kernel
        obtain ⟨run, hrun, hcovers⟩ := hcovered
        rw [hcode, h.uncovered run hrun] at hcovers
        exact Bool.false_ne_true hcovers
      · simp only [lowerChar, hcode, if_neg hascii, if_neg h.ne_dotted,
          Text.Table.shift_eq_self h.uncovered]
    · -- a number that is no code point stands for U+0000
      rw [Char.ofNat, dif_neg hvalid]
      decide

/-- Whatever lower case makes of a character, it leaves as it is. -/
theorem isLower_of_mem_lowerChar {c d : Char} (h : d ∈ lowerChar c) : IsLower d := by
  simp only [lowerChar] at h
  split at h
  · rename_i hascii
    have hall : ∀ n < 0x80, IsLower (Char.ofNat n).toLower := by decide +kernel
    obtain rfl := List.mem_singleton.mp h
    rw [← Char.ofNat_toNat c]
    exact hall c.toNat hascii
  · rename_i hascii
    split at h
    · -- U+0130 is the one character that becomes two
      have hletter : IsLower 'i' := by decide +kernel
      have hdot : IsLower '\u0307' := by decide +kernel
      rcases List.mem_cons.mp h with rfl | hlast
      · exact hletter
      · obtain rfl := List.mem_singleton.mp hlast
        exact hdot
    · rename_i hdotted
      obtain rfl := List.mem_singleton.mp h
      exact isLower_ofNat (Text.Table.isFinal_shift hascii hdotted)

namespace Text

theorem isLower_of_mem_lowerFrom {behind text : Text} {d : Char} (h : d ∈ lowerFrom behind text) :
    IsLower d := by
  induction text generalizing behind with
  | nil => exact absurd h List.not_mem_nil
  | cons c rest ih =>
    rw [lowerFrom] at h
    rcases List.mem_append.mp h with hhere | hlater
    · split at hhere
      · have hsigmas : IsLower 'ς' ∧ IsLower 'σ' := by decide +kernel
        obtain rfl := List.mem_singleton.mp hhere
        split
        · exact hsigmas.1
        · exact hsigmas.2
      · exact isLower_of_mem_lowerChar hhere
    · exact ih hlater

theorem isLower_of_mem_lower {text : Text} {c : Char} (h : c ∈ text.lower) : IsLower c :=
  isLower_of_mem_lowerFrom h

theorem lowerFrom_eq_self {text : Text} (behind : Text) (h : ∀ c ∈ text, IsLower c) :
    lowerFrom behind text = text := by
  induction text generalizing behind with
  | nil => rfl
  | cons c rest ih =>
    obtain ⟨⟨hsigma, hchar⟩, hrest⟩ := List.forall_mem_cons.mp h
    rw [lowerFrom, if_neg hsigma, hchar, ih (c :: behind) hrest, List.singleton_append]

theorem lower_eq_self {text : Text} (h : ∀ c ∈ text, IsLower c) : text.lower = text :=
  lowerFrom_eq_self [] h

/-- Lower-casing a text twice is lower-casing it once. -/
theorem lower_lower (text : Text) : text.lower.lower = text.lower :=
  lower_eq_self fun _ h => isLower_of_mem_lower h

end Text

end CodeGauge
