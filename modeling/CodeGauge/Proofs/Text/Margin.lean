import CodeGauge.Grammar.Snippet
import CodeGauge.Proofs.Text.Pieces

/-!
Taking the shared margin off a text. The shared margin is the longest run of spaces and tabs that
every line begins with, lines of nothing else apart. Without it the text has the same lines, each
with its characters as many columns further to the left as the margin is wide.
-/
namespace CodeGauge

namespace Text

/-- Joining shorter texts gives no longer text. -/
theorem length_join_map_le {separator : Text} {texts : List Text} {f : Text → Text}
    (h : ∀ text ∈ texts, (f text).length ≤ text.length) :
    (join separator (texts.map f)).length ≤ (join separator texts).length := by
  induction texts with
  | nil => exact Nat.le_refl _
  | cons text rest ih =>
    obtain ⟨htext, hrest⟩ := List.forall_mem_cons.mp h
    have hlater := ih hrest
    cases rest with
    | nil => simpa [join] using htext
    | cons next rest =>
      simp only [join, List.map_cons, List.intercalate_cons_cons, List.length_append] at hlater ⊢
      omega

theorem prefix_commonStart_iff {word s t : Text} :
    word <+: commonStart s t ↔ word <+: s ∧ word <+: t := by
  induction word generalizing s t with
  | nil => simp only [List.nil_prefix, and_self]
  | cons c word ih =>
    cases s with
    | nil => simp [commonStart]
    | cons a s =>
      cases t with
      | nil => simp [commonStart]
      | cons b t =>
        rw [commonStart]
        by_cases hab : a = b
        · subst hab
          rw [if_pos rfl, List.cons_prefix_cons, List.cons_prefix_cons, List.cons_prefix_cons, ih]
          exact and_and_left
        · rw [if_neg hab, List.prefix_nil, List.cons_prefix_cons, List.cons_prefix_cons]
          constructor
          · intro hnil
            exact absurd hnil (List.cons_ne_nil c word)
          · rintro ⟨⟨rfl, -⟩, rfl, -⟩
            exact absurd rfl hab

theorem prefix_margin_iff {word line : Text} :
    word <+: line.margin ↔ word <+: line ∧ ∀ c ∈ word, isIndent c = true := by
  induction word generalizing line with
  | nil => simp
  | cons c word ih =>
    cases line with
    | nil => simp [margin]
    | cons x line =>
      have hrest : word <+: margin line ↔ word <+: line ∧ ∀ c ∈ word, isIndent c = true := ih
      rw [margin] at hrest ⊢
      by_cases hx : isIndent x = true
      · rw [List.takeWhile_cons_of_pos hx, List.cons_prefix_cons, List.cons_prefix_cons, hrest,
          List.forall_mem_cons]
        constructor
        · rintro ⟨rfl, hword, hindent⟩
          exact ⟨⟨rfl, hword⟩, hx, hindent⟩
        · rintro ⟨⟨rfl, hword⟩, -, hindent⟩
          exact ⟨rfl, hword, hindent⟩
      · rw [List.takeWhile_cons_of_neg hx, List.prefix_nil, List.cons_prefix_cons]
        constructor
        · intro hnil
          exact absurd hnil (List.cons_ne_nil c word)
        · rintro ⟨⟨rfl, -⟩, hindent⟩
          exact absurd (hindent c List.mem_cons_self) hx

/-- The common margin is the longest run of spaces and tabs that all lines begin with. -/
theorem prefix_commonMargin_iff {word : Text} {lines : List Text} (hne : lines ≠ []) :
    word <+: commonMargin lines ↔
      (∀ line ∈ lines, word <+: line) ∧ ∀ c ∈ word, isIndent c = true := by
  induction lines with
  | nil => exact absurd rfl hne
  | cons line rest ih =>
    cases rest with
    | nil => rw [commonMargin, prefix_margin_iff, List.forall_mem_singleton]
    | cons next rest =>
      have hstep : commonMargin (line :: next :: rest) =
          commonStart line.margin (commonMargin (next :: rest)) := rfl
      have hlater := ih (List.cons_ne_nil next rest)
      rw [hstep, prefix_commonStart_iff, prefix_margin_iff, hlater,
        List.forall_mem_cons (a := line)]
      constructor
      · rintro ⟨⟨hline, hindent⟩, hrest, -⟩
        exact ⟨⟨hline, hrest⟩, hindent⟩
      · rintro ⟨⟨hline, hrest⟩, hindent⟩
        exact ⟨⟨hline, hindent⟩, hrest, hindent⟩

/-- Whether there is more on a line than spaces and tabs. -/
def isUnblank (line : Text) : Bool :=
  !line.all isIndent

/-- What all lines of a text begin with, lines of spaces and tabs only apart. -/
def sharedMargin (text : Text) : Text :=
  commonMargin ((pieces '\n' text).filter isUnblank)

/-- The line without a margin of this width; empty when it has nothing but spaces and tabs. -/
def unindent (width : Nat) (line : Text) : Text :=
  if line.isUnblank then line.drop width else []

theorem unindent_of_isUnblank {line : Text} (h : line.isUnblank = true) (width : Nat) :
    unindent width line = line.drop width :=
  if_pos h

theorem unindent_of_blank {line : Text} (h : line.isUnblank = false) (width : Nat) :
    unindent width line = [] :=
  if_neg (by rw [h]; exact Bool.false_ne_true)

theorem drop_unindent_zero (width : Nat) (line : Text) :
    (unindent 0 line).drop width = unindent width line := by
  cases h : line.isUnblank with
  | true => rw [unindent_of_isUnblank h, unindent_of_isUnblank h, List.drop_zero]
  | false => rw [unindent_of_blank h, unindent_of_blank h, List.drop_nil]

/-- The lines that count for the margin are the same before and after the others become empty. -/
theorem filter_map_unindent (lines : List Text) :
    (lines.map (unindent 0)).filter (!·.isEmpty) = lines.filter isUnblank := by
  induction lines with
  | nil => rfl
  | cons line rest ih =>
    rw [List.map_cons]
    cases h : line.isUnblank with
    | true =>
      have hkept : (!line.isEmpty) = true := by
        cases line with
        | nil => exact absurd h (by decide)
        | cons c rest => rfl
      rw [unindent_of_isUnblank h, List.drop_zero, List.filter_cons, if_pos hkept, ih,
        List.filter_cons_of_pos h]
    | false =>
      rw [unindent_of_blank h, List.filter_cons_of_neg (by decide),
        List.filter_cons_of_neg (Bool.eq_false_iff.mp h), ih]

theorem dedent_eq (text : Text) : text.dedent =
    join ['\n'] ((pieces '\n' text).map (unindent text.sharedMargin.length)) := by
  have hzero : (fun line : Text => if line.all isIndent then [] else line) = unindent 0 := by
    funext line
    cases h : line.all isIndent with
    | true => rw [unindent_of_blank (by rw [isUnblank, h]; rfl), if_pos rfl]
    | false =>
      rw [unindent_of_isUnblank (by rw [isUnblank, h]; rfl), List.drop_zero,
        if_neg Bool.false_ne_true]
  have hdrop (width : Nat) : (fun line : Text => line.drop width) ∘ unindent 0 = unindent width :=
    funext (drop_unindent_zero width)
  rw [dedent, hzero, filter_map_unindent, List.map_map, hdrop, sharedMargin]

theorem length_unindent_le (width : Nat) (line : Text) :
    (unindent width line).length ≤ line.length := by
  cases h : line.isUnblank with
  | true =>
    rw [unindent_of_isUnblank h, List.length_drop]
    exact Nat.sub_le _ _
  | false =>
    rw [unindent_of_blank h]
    exact Nat.zero_le _

theorem length_dedent_le (text : Text) : text.dedent.length ≤ text.length := by
  rw [dedent_eq]
  calc (join ['\n'] ((pieces '\n' text).map (unindent text.sharedMargin.length))).length
      ≤ (join ['\n'] (pieces '\n' text)).length :=
        length_join_map_le fun line _ => length_unindent_le _ line
    _ = text.length := by rw [join_pieces]

/-- The lines of a text without its margin are its lines without the margin. -/
theorem pieces_dedent (text : Text) : pieces '\n' text.dedent =
    (pieces '\n' text).map (unindent text.sharedMargin.length) := by
  rw [dedent_eq]
  refine pieces_join ?_ ?_
  · exact fun hnil => pieces_ne_nil '\n' text (List.map_eq_nil_iff.mp hnil)
  · intro line hline hmem
    obtain ⟨whole, hwhole, rfl⟩ := List.mem_map.mp hline
    have hnone := not_mem_of_mem_pieces hwhole
    cases h : whole.isUnblank with
    | true =>
      rw [unindent_of_isUnblank h] at hmem
      exact hnone (List.mem_of_mem_drop hmem)
    | false =>
      rw [unindent_of_blank h] at hmem
      exact absurd hmem List.not_mem_nil

theorem sharedMargin_prefix {text line : Text} (hline : line ∈ pieces '\n' text)
    (h : line.isUnblank = true) : text.sharedMargin <+: line := by
  have hmem : line ∈ (pieces '\n' text).filter isUnblank := List.mem_filter.mpr ⟨hline, h⟩
  have hne := List.ne_nil_of_mem hmem
  exact ((prefix_commonMargin_iff hne).mp (List.prefix_refl _)).1 line hmem

/-- The character in a row and a column of a text, both counted from zero. -/
def charAt? (text : Text) (row column : Nat) : Option Char :=
  match (pieces '\n' text)[row]? with
  | some cells => cells[column]?
  | none => none

/-- On a line with more than spaces and tabs, a character moves to the left by the width of the
margin. -/
theorem charAt?_dedent {text line : Text} {row : Nat} (hline : (pieces '\n' text)[row]? = some line)
    (h : line.isUnblank = true) (column : Nat) :
    text.dedent.charAt? row column = text.charAt? row (column + text.sharedMargin.length) := by
  have hdedent : (pieces '\n' text.dedent)[row]? =
      some (line.drop text.sharedMargin.length) := by
    rw [pieces_dedent, List.getElem?_map, hline, Option.map_some, unindent_of_isUnblank h]
  rw [charAt?, charAt?, hdedent, hline]
  simp only [List.getElem?_drop, Nat.add_comm]

/-- Where the first occurrence begins, the text goes on with it. -/
theorem exists_eq_of_beforeFirst? {needle text before : Text}
    (h : beforeFirst? needle text = some before) : ∃ rest, text = before ++ (needle ++ rest) := by
  induction text generalizing before with
  | nil =>
    rw [beforeFirst?] at h
    split at h
    · rename_i hempty
      obtain rfl := Option.some.inj h
      exact ⟨[], by rw [List.isEmpty_iff.mp hempty]; rfl⟩
    · exact absurd h (by simp)
  | cons c rest ih =>
    rw [beforeFirst?] at h
    split at h
    · rename_i hhere
      obtain rfl := Option.some.inj h
      obtain ⟨after, hafter⟩ := List.isPrefixOf_iff_prefix.mp hhere
      exact ⟨after, hafter.symm⟩
    · cases hlater : beforeFirst? needle rest with
      | none => exact absurd h (by simp [hlater])
      | some later =>
        rw [hlater] at h
        obtain rfl := Option.some.inj h
        obtain ⟨after, rfl⟩ := ih hlater
        exact ⟨after, rfl⟩

end Text

/-- Nothing is put in front of a source whose margin is taken off. -/
theorem Grammar.rowOffset_python (source : Text) : Grammar.python.rowOffset source = 0 := by
  rw [rowOffset, prepare]
  split
  · rename_i before hbefore
    obtain ⟨rest, heq⟩ := Text.exists_eq_of_beforeFirst? hbefore
    have hlength := congrArg List.length heq
    -- the source is at least as long as what it occurs in, so nothing precedes it
    have hle := Text.length_dedent_le source
    rw [List.length_append, List.length_append] at hlength
    have hnil : before = [] := List.length_eq_zero_iff.mp (by omega)
    rw [hnil, List.count_nil]
  · rfl

end CodeGauge
