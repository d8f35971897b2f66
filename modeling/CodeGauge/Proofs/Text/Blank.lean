import CodeGauge.Text.Blank
import CodeGauge.Text.Word
import Mathlib.Data.List.DropRight

/-!
White space at the end of a text. Names hold no white space, so trimming the end of a text keeps
every beginning that ends in a name; and where the last line is not blank, it keeps all line feeds.
-/
namespace CodeGauge

/-- The code points of all white space. -/
def blankCodes : List Nat :=
  [0x9, 0xA, 0xB, 0xC, 0xD, 0x1C, 0x1D, 0x1E, 0x1F, 0x20, 0x85, 0xA0, 0x1680, 0x2000, 0x2001,
    0x2002, 0x2003, 0x2004, 0x2005, 0x2006, 0x2007, 0x2008, 0x2009, 0x200A, 0x2028, 0x2029, 0x202F,
    0x205F, 0x3000]

theorem toNat_mem_blankCodes {c : Char} (h : isBlank c = true) : c.toNat ∈ blankCodes := by
  simp only [isBlank, Bool.or_eq_true, Bool.and_eq_true, decide_eq_true_eq, beq_iff_eq] at h
  simp only [blankCodes, List.mem_cons, List.not_mem_nil, or_false]
  omega

/-- A class that none of these code points is in holds no white space. -/
theorem eq_false_of_isBlank {accepts : Char → Bool}
    (hall : ∀ n ∈ blankCodes, accepts (Char.ofNat n) = false) {c : Char} (h : isBlank c = true) :
    accepts c = false := by
  have hc := hall c.toNat (toNat_mem_blankCodes h)
  rwa [Char.ofNat_toNat] at hc

theorem isBlank_of_isIndent {c : Char} (h : isIndent c = true) : isBlank c = true := by
  rw [isIndent, Bool.or_eq_true, beq_iff_eq, beq_iff_eq] at h
  rcases h with rfl | rfl <;> decide

theorem isWord_of_isBlank {c : Char} (h : isBlank c = true) : isWord c = false :=
  eq_false_of_isBlank (by decide +kernel) h

theorem isNamePart_of_isBlank {c : Char} (h : isBlank c = true) : isNamePart c = false := by
  rw [isNamePart, isWord_of_isBlank h, Bool.false_or, beq_eq_false_iff_ne]
  rintro rfl
  exact absurd h (by decide)

theorem isNamePart_of_isWord {c : Char} (h : isWord c = true) : isNamePart c = true :=
  Bool.or_eq_true_iff.mpr (Or.inl h)

theorem isBlank_of_isNamePart {c : Char} (h : isNamePart c = true) : isBlank c = false := by
  refine Bool.eq_false_iff.mpr fun hblank => ?_
  exact Bool.false_ne_true ((isNamePart_of_isBlank hblank).symm.trans h)

/-- Whatever begins a name can also continue it. -/
theorem isNamePart_of_isNameStart {c : Char} (h : isNameStart c = true) : isNamePart c = true := by
  rw [isNameStart, Bool.or_eq_true, Bool.or_eq_true, beq_iff_eq, beq_iff_eq] at h
  rcases h with (hletter | rfl) | rfl
  · have hascii : c.toNat < 0x80 := by
      have hrange : (decide (c.val ≥ 'A'.val ∧ c.val ≤ 'Z'.val) ||
          (decide (c.val ≥ 'a'.val) && decide (c.val ≤ 'z'.val))) = true := hletter
      simp only [Bool.or_eq_true, Bool.and_eq_true, decide_eq_true_eq, ge_iff_le,
        UInt32.le_iff_toNat_le] at hrange
      have hcode : c.toNat = c.val.toNat := rfl
      have hupper : 'Z'.val.toNat = 90 := rfl
      have hlower : 'z'.val.toNat = 122 := rfl
      omega
    simp [isNamePart, isWord, hascii, Char.isAlphanum, hletter]
  · decide
  · decide

namespace Text

theorem rdropWhile_append {α : Type} {p : α → Bool} {before last : List α}
    (h : ∃ c ∈ last, p c = false) :
    (before ++ last).rdropWhile p = before ++ last.rdropWhile p := by
  obtain ⟨c, hc, hp⟩ := h
  have hkept : (last.reverse.dropWhile p).isEmpty = false := by
    rw [List.isEmpty_eq_false_iff]
    intro hnil
    have hall := List.dropWhile_eq_nil_iff.mp hnil c (List.mem_reverse.mpr hc)
    exact Bool.false_ne_true (hp.symm.trans hall)
  rw [List.rdropWhile, List.reverse_append, List.dropWhile_append, hkept, if_neg (by decide),
    List.reverse_append, List.reverse_reverse, List.rdropWhile]

/-- What is dropped from the end of a text is not part of a beginning that loses nothing. -/
theorem prefix_rdropWhile {α : Type} {p : α → Bool} {word text : List α} (h : word <+: text)
    (hword : word.rdropWhile p = word) : word <+: text.rdropWhile p := by
  obtain ⟨rest, rfl⟩ := h
  induction rest using List.reverseRecOn with
  | nil => simp only [List.append_nil, hword, List.prefix_rfl]
  | append_singleton rest c ih =>
    rw [← List.append_assoc]
    by_cases hc : p c = true
    · rw [List.rdropWhile_concat_pos p _ c hc]
      exact ih
    · rw [List.rdropWhile_concat_neg p _ c hc, List.append_assoc]
      exact List.prefix_append word _

theorem lt_length_rdropWhile {α : Type} {p : α → Bool} {l l' : List α} (h : l <+: l') {n : Nat}
    {x : α} (hn : n < l.length) (hx : l'[n]? = some x) (hp : p x = false) :
    n < (l.rdropWhile p).length := by
  obtain ⟨hn', rfl⟩ := List.getElem?_eq_some_iff.mp hx
  have hkept : l.take (n + 1) <+: l.rdropWhile p := by
    apply prefix_rdropWhile (List.take_prefix _ l)
    rw [List.take_succ_eq_append_getElem hn, h.getElem hn]
    exact List.rdropWhile_concat_neg p _ _ (by simp [hp])
  have hlength := hkept.length_le
  rw [List.length_take] at hlength
  omega

/-- The last line of the text is not blank. -/
def EndsInCode (text : Text) : Prop :=
  ∃ before last, text = before ++ last ∧ '\n' ∉ last ∧ ∃ c ∈ last, isBlank c = false

/-- No line feed is lost with the white space behind the last line. -/
theorem EndsInCode.count_rdropWhile {text : Text} (h : text.EndsInCode) {drops : Char → Bool}
    (hdrops : ∀ c, drops c = true → isBlank c = true) :
    (text.rdropWhile drops).count '\n' = text.count '\n' := by
  obtain ⟨before, last, rfl, hlast, c, hc, hblank⟩ := h
  have hkept : ∃ c ∈ last, drops c = false := by
    refine ⟨c, hc, Bool.eq_false_iff.mpr ?_⟩
    intro hdrop
    exact Bool.false_ne_true (hblank.symm.trans (hdrops c hdrop))
  have hnone : '\n' ∉ last.rdropWhile drops :=
    fun hmem => hlast ((List.rdropWhile_prefix drops last).subset hmem)
  rw [rdropWhile_append hkept, List.count_append, List.count_append,
    List.count_eq_zero.mpr hlast, List.count_eq_zero.mpr hnone]

theorem trimEnd_eq_rdropWhile (text : Text) : text.trimEnd = text.rdropWhile isBlank :=
  rfl

theorem EndsInCode.count_trimEnd {text : Text} (h : text.EndsInCode) :
    text.trimEnd.count '\n' = text.count '\n' :=
  h.count_rdropWhile fun _ hc => hc

/-- A trimmed text does not end in white space. -/
theorem isBlank_getLast?_trimEnd (text : Text) {c : Char} (h : text.trimEnd.getLast? = some c) :
    isBlank c = false := by
  have hne : text.trimEnd ≠ [] := by
    intro hnil
    exact absurd h (by simp [hnil])
  rw [List.getLast?_eq_some_getLast hne, Option.some.injEq] at h
  exact h ▸ Bool.eq_false_iff.mpr (List.rdropWhile_last_not isBlank text hne)

/-- Trimming takes nothing off a beginning that does not end in white space. -/
theorem prefix_trimEnd_iff {word text : Text} {c : Char} (hlast : word.getLast? = some c)
    (hc : isBlank c = false) : word <+: text.trimEnd ↔ word <+: text := by
  rw [trimEnd_eq_rdropWhile]
  constructor
  · intro h
    exact h.trans (List.rdropWhile_prefix isBlank text)
  · intro h
    apply prefix_rdropWhile h
    obtain ⟨front, rfl⟩ := List.getLast?_eq_some_iff.mp hlast
    exact List.rdropWhile_concat_neg isBlank front c (by simp [hc])

theorem mem_of_mem_trim {text : Text} {c : Char} (h : c ∈ text.trim) : c ∈ text := by
  rw [trim, trimEnd_eq_rdropWhile, trimStart] at h
  exact (List.dropWhile_sublist isBlank).subset ((List.rdropWhile_prefix isBlank _).subset h)

/-- What is not blank is not trimmed. -/
theorem trim_eq_self {text : Text} (h : ∀ c ∈ text, isBlank c = false) : text.trim = text := by
  have hkept {text : Text} (h : ∀ c ∈ text, isBlank c = false) : text.dropWhile isBlank = text := by
    cases text with
    | nil => rfl
    | cons c rest =>
      exact List.dropWhile_cons_of_neg (Bool.eq_false_iff.mp (h c List.mem_cons_self))
  rw [trim, trimStart, hkept h, trimEnd, hkept fun c hc => h c (List.mem_reverse.mp hc),
    List.reverse_reverse]

theorem trim_blank_append {pad : Text} (h : ∀ c ∈ pad, isBlank c = true) (text : Text) :
    (pad ++ text).trim = text.trim := by
  rw [trim, trimStart, List.dropWhile_append_of_pos h]
  rfl

theorem trimEnd_append_blank (text : Text) {pad : Text} (h : ∀ c ∈ pad, isBlank c = true) :
    (text ++ pad).trimEnd = text.trimEnd := by
  rw [trimEnd, List.reverse_append,
    List.dropWhile_append_of_pos fun c hc => h c (List.mem_reverse.mp hc)]
  rfl

theorem trim_append_blank (text : Text) {pad : Text} (h : ∀ c ∈ pad, isBlank c = true) :
    (text ++ pad).trim = text.trim := by
  rw [trim, trimStart, List.dropWhile_append, trim, trimStart]
  split
  · rename_i hempty
    rw [List.isEmpty_iff.mp hempty, List.dropWhile_eq_nil_iff.mpr h]
  · exact trimEnd_append_blank _ h

/-- What stands in front of a character that is not blank is kept at the end. -/
theorem trimEnd_append_cons (front : Text) {c : Char} (hc : isBlank c = false) (rest : Text) :
    Text.trimEnd (front ++ c :: rest) = front ++ c :: Text.trimEnd rest := by
  have hkept : (c :: front.reverse).dropWhile isBlank = c :: front.reverse :=
    List.dropWhile_cons_of_neg (Bool.eq_false_iff.mp hc)
  have hdrop : (rest.reverse ++ c :: front.reverse).dropWhile isBlank =
      rest.reverse.dropWhile isBlank ++ c :: front.reverse := by
    rw [List.dropWhile_append, hkept]
    split
    · rename_i hempty
      rw [List.isEmpty_iff.mp hempty, List.nil_append]
    · rfl
  rw [trimEnd, List.reverse_append, List.reverse_cons, List.append_assoc, List.singleton_append,
    hdrop, List.reverse_append, List.reverse_cons, List.reverse_reverse, List.append_assoc,
    List.singleton_append, trimEnd]

theorem exists_trimEnd_eq (text : Text) : ∃ trail, text = text.trimEnd ++ trail ∧
    ∀ c ∈ trail, isBlank c = true := by
  refine ⟨text.rtakeWhile isBlank, ?_, fun _ hc => List.mem_rtakeWhile_imp hc⟩
  rw [trimEnd_eq_rdropWhile, List.rdropWhile_append_rtakeWhile]

/-- Trimming a text takes white space off its two ends. -/
theorem exists_trim_eq (text : Text) : ∃ lead trail, text = lead ++ (text.trim ++ trail) ∧
    (∀ c ∈ lead, isBlank c = true) ∧ ∀ c ∈ trail, isBlank c = true := by
  obtain ⟨trail, hend, htrail⟩ := text.trimStart.exists_trimEnd_eq
  refine ⟨text.takeWhile isBlank, trail, ?_, fun _ hc => List.mem_takeWhile_imp hc, htrail⟩
  rw [trim, ← hend, trimStart, List.takeWhile_append_dropWhile]

/-- Trimming a text twice is trimming it once. -/
theorem trim_trim (text : Text) : text.trim.trim = text.trim := by
  have hstart : text.trim.trimStart = text.trim := by
    cases htrim : text.trim with
    | nil => rfl
    | cons c rest =>
      have hprefix : text.trim <+: text.trimStart := List.rdropWhile_prefix isBlank text.trimStart
      obtain ⟨after, hafter⟩ := hprefix
      have hhead := List.head?_dropWhile_not isBlank text
      rw [← trimStart, ← hafter, htrim] at hhead
      exact List.dropWhile_cons_of_neg (Bool.eq_false_iff.mp hhead)
  rw [trim, hstart, trim, trimEnd_eq_rdropWhile, trimEnd_eq_rdropWhile, List.rdropWhile_idempotent]

end Text

end CodeGauge
