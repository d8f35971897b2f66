import CodeGauge.Block.Extent
import CodeGauge.Proofs.Block.Header
import CodeGauge.Proofs.Text.Pieces

/-!
The extent of a function is a stretch of the source: it begins where the header begins, nothing is
left out, the name is on its first line, and its last line is not blank.
-/
namespace CodeGauge

namespace Text

theorem prefix_firstLine {word text : Text} (h : word <+: text) (hword : '\n' ∉ word) :
    word <+: text.firstLine := by
  obtain ⟨rest, rfl⟩ := h
  rw [firstLine, List.takeWhile_append_of_pos]
  · exact List.prefix_append word _
  · intro c hc
    rw [bne_iff_ne]
    rintro rfl
    exact hword hc

theorem prefix_firstLine_iff {word text : Text} (h : word <+: text) :
    word <+: text.firstLine ↔ '\n' ∉ word := by
  constructor
  · intro hword hmem
    exact absurd (List.mem_takeWhile_imp (hword.subset hmem)) (by decide)
  · exact prefix_firstLine h

theorem endsInCode_firstLine {text : Text} (h : text.firstLine.isAllBlank = false) :
    text.firstLine.EndsInCode := by
  obtain ⟨c, hc, hblank⟩ := List.all_eq_false.mp h
  refine ⟨[], text.firstLine, rfl, ?_, c, hc, Bool.eq_false_iff.mpr hblank⟩
  intro hmem
  exact absurd (List.mem_takeWhile_imp hmem) (by decide)

end Text

theorem closeBraces_eq_some {depth : Nat} {text body : Text}
    (h : closeBraces depth text = some body) :
    body <+: text ∧ ∃ inside, body = inside ++ ['\x7d'] := by
  induction text generalizing depth body with
  | nil => exact absurd h (by simp [closeBraces])
  | cons c rest ih =>
    rw [closeBraces] at h
    by_cases hclosed : c = '\x7d' ∧ depth ≤ 1
    · rw [if_pos hclosed] at h
      obtain rfl := Option.some.inj h
      exact ⟨⟨rest, rfl⟩, [], hclosed.1 ▸ rfl⟩
    · rw [if_neg hclosed] at h
      cases hinner : closeBraces
          (if c = '\x7b' then depth + 1 else if c = '\x7d' then depth - 1 else depth) rest with
      | none => exact absurd h (by simp [hinner])
      | some inner =>
        simp only [hinner, Option.some.injEq] at h
        subst h
        obtain ⟨hbegins, inside, rfl⟩ := ih hinner
        exact ⟨(List.prefix_cons_inj c).mpr hbegins, c :: inside, rfl⟩

/-- A block in braces ends in the one that closes it. -/
theorem bracedBlock?_eq_some {text block : Text} (h : bracedBlock? text = some block) :
    block <+: text ∧ ∃ inside, block = inside ++ ['\x7d'] := by
  cases text with
  | nil => exact absurd h (by simp [bracedBlock?])
  | cons c rest =>
    rw [bracedBlock?] at h
    by_cases hc : c = '\x7b'
    · cases hbody : closeBraces 1 rest with
      | none => exact absurd h (by simp [hbody])
      | some body =>
        rw [if_pos hc, hbody] at h
        obtain rfl := Option.some.inj h
        obtain ⟨hbegins, inside, rfl⟩ := closeBraces_eq_some hbody
        exact ⟨(List.prefix_cons_inj c).mpr hbegins, c :: inside, rfl⟩
    · exact absurd h (by simp [hc])

theorem indentedLines_prefix_self (base : Nat) (lines : List Text) :
    indentedLines base lines <+: lines := by
  induction lines with
  | nil => exact List.prefix_refl _
  | cons line rest ih =>
    rw [indentedLines]
    split
    · exact (List.prefix_cons_inj line).mpr ih
    · split
      · exact ⟨rest, rfl⟩
      · exact List.nil_prefix

/-- The lines below the first one that go with it, up to the last that is not blank. -/
def linesBelow (text : Text) : List Text :=
  (indentedLines (Text.indentation text.firstLine) (Text.cut '\n' text).2).rdropWhile
    Text.isAllBlank

theorem indentedBlock_eq_join (text : Text) :
    indentedBlock text = Text.join ['\n'] (text.firstLine :: linesBelow text) := by
  rw [linesBelow, Text.firstLine, ← Text.cut_fst_eq_takeWhile]
  rfl

theorem lines_prefix_pieces (text : Text) :
    text.firstLine :: linesBelow text <+: Text.pieces '\n' text := by
  rw [Text.firstLine, ← Text.cut_fst_eq_takeWhile, Text.pieces, List.prefix_cons_inj]
  exact (List.rdropWhile_prefix _ _).trans (indentedLines_prefix_self _ _)

theorem isAllBlank_getLast?_linesBelow {text line : Text}
    (h : (linesBelow text).getLast? = some line) : line.isAllBlank = false := by
  have hne : linesBelow text ≠ [] := by
    intro hnil
    exact absurd h (by simp [hnil])
  rw [List.getLast?_eq_some_getLast hne, Option.some.injEq] at h
  exact h ▸ Bool.eq_false_iff.mpr (List.rdropWhile_last_not Text.isAllBlank _ hne)

theorem indentedBlock_prefix_self (text : Text) : indentedBlock text <+: text := by
  have hlines : Text.join ['\n'] (text.firstLine :: linesBelow text) <+:
      Text.join ['\n'] (Text.pieces '\n' text) :=
    Text.join_prefix_join (List.cons_ne_nil _ _) (lines_prefix_pieces text)
  rw [Text.join_pieces] at hlines
  rw [indentedBlock_eq_join]
  exact hlines

/-- The header line is part of its block. -/
theorem firstLine_prefix_indentedBlock (text : Text) : text.firstLine <+: indentedBlock text := by
  have hline : Text.join ['\n'] [text.firstLine] <+:
      Text.join ['\n'] (text.firstLine :: linesBelow text) :=
    Text.join_prefix_join (List.cons_ne_nil _ _) (List.prefix_append [text.firstLine] _)
  rw [Text.join, List.intercalate_singleton] at hline
  rw [indentedBlock_eq_join]
  exact hline

/-- What goes with a header line that is not blank ends in it, or in a line that is not blank
either. -/
theorem endsInCode_indentedBlock {text : Text} (h : text.firstLine.isAllBlank = false) :
    (indentedBlock text).EndsInCode := by
  have hends (before : Text) {last : Text} (hpiece : last ∈ text.firstLine :: linesBelow text)
      (hlast : last.isAllBlank = false) : (before ++ last).EndsInCode := by
    obtain ⟨c, hc, hblank⟩ := List.all_eq_false.mp hlast
    have hfeed := Text.not_mem_of_mem_pieces ((lines_prefix_pieces text).subset hpiece)
    exact ⟨before, last, rfl, hfeed, c, hc, by simpa using hblank⟩
  rw [indentedBlock_eq_join]
  rcases List.eq_nil_or_concat' (linesBelow text) with hnil | ⟨others, last, hlines⟩
  · rw [hnil, Text.join, List.intercalate_singleton]
    exact hends [] List.mem_cons_self h
  · obtain ⟨before, hjoin⟩ := Text.exists_join_concat ['\n'] last (text.firstLine :: others)
    rw [hlines, ← List.cons_append, hjoin]
    apply hends before
    · rw [hlines]
      exact List.mem_cons_of_mem _ List.mem_concat_self
    · exact isAllBlank_getLast?_linesBelow (hlines ▸ List.getLast?_concat)

namespace HeaderShape.ReadsName

variable {shape : HeaderShape} {m : Match} {lead rest : Text} {place : Cursor}

theorem prefix_firstLine (h : ReadsName shape m lead place rest) :
    lead ++ m.part .name <+: m.start.ahead.firstLine := by
  apply Text.prefix_firstLine
  · exact h.passes.1 ▸ List.prefix_append _ _
  · exact h.same_line

/-- The name makes the header line one that is not blank. -/
theorem firstLine_not_blank (h : ReadsName shape m lead place rest) :
    Text.isAllBlank m.start.ahead.firstLine = false := by
  obtain ⟨c, hc⟩ := List.exists_mem_of_ne_nil _ h.ne_nil
  rw [Text.isAllBlank, List.all_eq_false]
  exact ⟨c, h.prefix_firstLine.subset (List.mem_append_right lead hc), by simp [h.not_blank c hc]⟩

end HeaderShape.ReadsName

namespace Body

theorem exists_passes_of_scan {depth : Nat} {behind ahead : Text} {brace : Cursor}
    (h : scan depth behind ahead = braced brace) :
    ∃ word, (⟨behind, ahead⟩ : Cursor).Passes word brace := by
  induction ahead generalizing depth behind with
  | nil => exact absurd h (by simp [scan])
  | cons c rest ih =>
    have hfurther {depth : Nat} (h : scan depth (c :: behind) rest = braced brace) :
        ∃ word, (⟨behind, c :: rest⟩ : Cursor).Passes word brace := by
      obtain ⟨word, hword⟩ := ih h
      exact ⟨c :: word, hword.cons⟩
    rw [scan] at h
    split_ifs at h
    · exact hfurther h
    · exact hfurther h
    · exact hfurther h
    · obtain rfl := Body.braced.inj h
      exact ⟨[], Cursor.Passes.refl _⟩
    · exact hfurther h

variable {shape : HeaderShape} {source : Text} {m : Match}

/-- The block in braces behind a header is reached by reading on from any place inside it. -/
theorem exists_passes_of_ofHeader {place brace : Cursor} {header : Text}
    (hheader : place.Passes header m.stop) (hne : shape = .method → header ≠ [])
    (h : ofHeader shape m = braced brace) : ∃ word, place.Passes word brace := by
  cases shape with
  | keyword =>
    obtain ⟨word, hword⟩ := exists_passes_of_scan h
    exact ⟨header ++ word, hheader.trans hword⟩
  | arrow =>
    rw [ofHeader] at h
    split at h
    · obtain rfl := Body.braced.inj h
      have hspaces : m.stop.Passes (m.stop.ahead.takeWhile isIndent)
          ⟨(m.stop.ahead.takeWhile isIndent).reverse ++ m.stop.behind,
            m.stop.ahead.dropWhile isIndent⟩ :=
        ⟨List.takeWhile_append_dropWhile.symm, rfl⟩
      exact ⟨_, hheader.trans hspaces⟩
    · exact absurd h (by simp)
  | method =>
    -- the brace is the last character of the header
    obtain ⟨word, last, rfl⟩ := (List.eq_nil_or_concat' header).resolve_left (hne rfl)
    obtain ⟨behind, hbehind, hword⟩ := hheader.step_back
    rw [ofHeader, hbehind] at h
    obtain rfl := Body.braced.inj h
    exact ⟨word, hword⟩

/-- The text of a function begins where its header begins, has the name on its first line and does
not end in a blank line. -/
theorem extent?_eq_some {text : Text} (hm : shape.pattern.Finds source m)
    (h : (ofHeader shape m).extent? m.start = some text) :
    text <+: m.start.ahead ∧ text.EndsInCode ∧
      ∃ lead, '\n' ∉ lead ++ m.part .name ∧ lead ++ m.part .name <+: text := by
  obtain ⟨lead, place, rest, hname⟩ := HeaderShape.exists_readsName hm
  have hline := hname.prefix_firstLine
  have hcode := hname.firstLine_not_blank
  cases hbody : ofHeader shape m with
  | braced brace =>
    obtain ⟨word, hword⟩ := exists_passes_of_ofHeader hname.goes_on hname.rest_ne_nil hbody
    have hall := hname.passes.trans hword
    rw [hbody, extent?, hall.upTo_eq] at h
    cases hblock : bracedBlock? brace.ahead with
    | none => exact absurd h (by simp [hblock])
    | some block =>
      obtain ⟨hbegins, inside, rfl⟩ := bracedBlock?_eq_some hblock
      rw [hblock] at h
      obtain rfl := Option.some.inj h
      refine ⟨?_, ?_, lead, hname.same_line, ?_⟩
      · rw [hall.1]
        exact (List.prefix_append_right_inj _).mpr hbegins
      · rw [← List.append_assoc]
        exact ⟨_, ['\x7d'], rfl, by decide, '\x7d', List.mem_cons_self, by decide⟩
      · rw [List.append_assoc]
        exact List.prefix_append _ _
  | indented =>
    rw [hbody] at h
    obtain rfl := Option.some.inj h
    exact ⟨indentedBlock_prefix_self _, endsInCode_indentedBlock hcode, lead, hname.same_line,
      hline.trans (firstLine_prefix_indentedBlock _)⟩
  | expression =>
    rw [hbody] at h
    obtain rfl := Option.some.inj h
    exact ⟨List.takeWhile_prefix _, Text.endsInCode_firstLine hcode, lead, hname.same_line, hline⟩
  | absent =>
    rw [hbody] at h
    exact absurd h (by simp [extent?])

end Body

end CodeGauge
