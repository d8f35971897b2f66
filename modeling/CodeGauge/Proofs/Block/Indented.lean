import CodeGauge.Proofs.Block.Extent

/-!
The lines that belong to a header by their depth. They are the first lines below it, as many as go
with the header one after the other, so a beginning of the text is part of the block as long as all
lines that it goes on over do.
-/
namespace CodeGauge

namespace Text

/-- Whether a line goes with a header indented by `base`. -/
def GoesWith (base : Nat) (line : Text) : Prop :=
  line.isAllBlank = true ∨ base < line.indentation

/-- Whether a line closes the part behind a header indented by `base`. -/
def ClosesPart (base : Nat) (line : Text) : Prop :=
  line.indentation = base ∧
    ("end" ++ Pattern.border : Pattern).matchesAt (.first line.trim) = true

instance (base : Nat) (line : Text) : Decidable (line.GoesWith base) :=
  inferInstanceAs (Decidable (_ ∨ _))

instance (base : Nat) (line : Text) : Decidable (line.ClosesPart base) :=
  inferInstanceAs (Decidable (_ ∧ _))

end Text

variable {base : Nat} {line : Text}

theorem indentedLines_of_goesWith (h : line.GoesWith base) (rest : List Text) :
    indentedLines base (line :: rest) = line :: indentedLines base rest := by
  rw [indentedLines, if_pos]
  simpa [Text.GoesWith] using h

theorem indentedLines_of_closesPart (h : ¬line.GoesWith base) (hcloses : line.ClosesPart base)
    (rest : List Text) : indentedLines base (line :: rest) = [line] := by
  rw [indentedLines, if_neg, if_pos]
  · simpa [Text.ClosesPart] using hcloses
  · simpa [Text.GoesWith] using h

theorem indentedLines_of_not (h : ¬line.GoesWith base) (hcloses : ¬line.ClosesPart base)
    (rest : List Text) : indentedLines base (line :: rest) = [] := by
  rw [indentedLines, if_neg, if_neg]
  · simpa [Text.ClosesPart] using hcloses
  · simpa [Text.GoesWith] using h

theorem indentedLines_eq_self {lines : List Text} (h : ∀ line ∈ lines, line.GoesWith base) :
    indentedLines base lines = lines := by
  induction lines with
  | nil => rfl
  | cons line rest ih =>
    obtain ⟨hline, hrest⟩ := List.forall_mem_cons.mp h
    rw [indentedLines_of_goesWith hline, ih hrest]

/-- The first `n` lines belong to a header when each of them goes with it; the last one may be the
line that closes its part. -/
theorem le_length_indentedLines_iff {n : Nat} {lines : List Text} :
    n ≤ (indentedLines base lines).length ↔ ∀ i < n, ∃ line ∈ lines[i]?,
      Text.GoesWith base line ∨ i + 1 = n ∧ Text.ClosesPart base line := by
  induction lines generalizing n with
  | nil =>
    cases n with
    | zero => simp
    | succ n =>
      rw [Nat.forall_lt_succ_left]
      simp [indentedLines]
  | cons line rest ih =>
    cases n with
    | zero => simp
    | succ n =>
      simp only [Nat.forall_lt_succ_left, List.getElem?_cons_zero, List.getElem?_cons_succ,
        Option.mem_some_iff, exists_eq_left', Nat.add_right_cancel_iff, ← ih]
      by_cases hgoes : line.GoesWith base
      · simp [indentedLines_of_goesWith hgoes, hgoes]
      · by_cases hcloses : line.ClosesPart base
        · rw [indentedLines_of_closesPart hgoes hcloses]
          simp [hgoes, hcloses]
          omega
        · simp [indentedLines_of_not hgoes hcloses, hgoes, hcloses]

/-- What begins a text and does not end in white space is part of its block when the lines that it
goes on over are. -/
theorem prefix_indentedBlock_iff {word text : Text} {c : Char} (h : word <+: text)
    (hlast : word.getLast? = some c) (hc : isBlank c = false) : word <+: indentedBlock text ↔
      ∀ i < word.count '\n', ∃ line ∈ (Text.pieces '\n' text)[i + 1]?,
        line.GoesWith (Text.indentation text.firstLine) ∨
          i + 1 = word.count '\n' ∧ line.ClosesPart (Text.indentation text.firstLine) := by
  have hfeed : c ≠ '\n' := by
    rintro rfl
    exact absurd hc (by decide)
  have hblock : indentedBlock text =
      Text.join ['\n'] ((Text.pieces '\n' text).take ((linesBelow text).length + 1)) := by
    rw [indentedBlock_eq_join, ← List.length_cons,
      ← List.prefix_iff_eq_take.mp (lines_prefix_pieces text)]
  obtain ⟨line, hline, hmem⟩ := Text.exists_mem_getElem?_pieces h hlast hfeed
  simp only [Text.pieces, List.getElem?_cons_succ]
  rw [hblock, Text.prefix_join_take_pieces_iff h, ← le_length_indentedLines_iff, linesBelow]
  constructor
  · intro hle
    exact hle.trans (List.rdropWhile_prefix _ _).length_le
  · intro hle
    -- the last of these lines holds the character, so it is not dropped as blank
    cases hn : word.count '\n' with
    | zero => exact Nat.zero_le _
    | succ n =>
      rw [hn] at hle hline
      apply Text.lt_length_rdropWhile (indentedLines_prefix_self _ _) hle hline
      exact List.all_eq_false.mpr ⟨c, hmem, by simp [hc]⟩

end CodeGauge
