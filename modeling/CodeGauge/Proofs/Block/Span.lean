import CodeGauge.Locate
import CodeGauge.Proofs.Block.Find
import CodeGauge.Proofs.Text.Lines

/-!
The lines that the blocks of a source span. Every block ends on a line of the source, whatever else
than line feeds ends lines there.
-/
namespace CodeGauge.Block

/-- The line lies between the first and the last line of the block. -/
def Spans (b : Block) (line : Int) : Prop :=
  (b.startLine : Int) ≤ line ∧ line ≤ b.endLine

instance (b : Block) (line : Int) : Decidable (b.Spans line) :=
  inferInstanceAs (Decidable (_ ∧ _))

section Find

variable {source : Text} {b : Block}

theorem startLine_pos (h : b ∈ find source) : 0 < b.startLine := by
  obtain ⟨before, -, -, -, hstart⟩ := (liesIn_of_mem_find h).stretch
  rw [hstart]
  exact Nat.zero_lt_succ _

/-- The last line of a block holds a character of the source that is no line feed. -/
theorem exists_split_of_mem_find (h : b ∈ find source) :
    ∃ before c after, source = before ++ c :: after ∧ c ≠ '\n' ∧
      b.endLine = before.count '\n' + 1 := by
  have hlies := liesIn_of_mem_find h
  obtain ⟨before, after, hsource, -, hstart⟩ := hlies.stretch
  have hne : b.text ≠ [] := by
    intro hnil
    exact absurd hlies.not_blank (by simp [hnil, Text.isAllBlank])
  obtain ⟨kept, c, hlast⟩ := (List.eq_nil_or_concat' _).resolve_left hne
  have hc : c ≠ '\n' := by
    rintro rfl
    exact absurd (hlies.trimmed '\n' (by rw [hlast, List.getLast?_concat])) (by decide)
  refine ⟨before ++ kept, c, after, ?_, hc, ?_⟩
  · rw [hsource, hlast]
    simp only [List.append_assoc, List.cons_append, List.nil_append]
  · have hcount : (kept ++ [c]).count '\n' = kept.count '\n' := by
      rw [List.count_append, List.count_cons_of_ne hc, List.count_nil, Nat.add_zero]
    rw [hlies.endLine_eq, hstart, hlast, hcount, List.count_append]
    omega

/-- No block ends behind the last line, in the wide sense, of the source. -/
theorem endLine_le_length_lines (h : b ∈ find source) : b.endLine ≤ source.lines.length := by
  obtain ⟨before, c, after, rfl, hc, hend⟩ := exists_split_of_mem_find h
  rw [hend]
  exact Text.count_lt_length_linesFrom [] before after hc

/-- The lines that a block spans are lines of the source. -/
theorem Spans.line_mem {line : Int} (hspans : b.Spans line) (h : b ∈ find source) :
    1 ≤ line ∧ line ≤ source.lines.length := by
  obtain ⟨hstart, hend⟩ := hspans
  have hpos := startLine_pos h
  have hlength := endLine_le_length_lines h
  omega

end Find

section Innermost

/-- The later one of two blocks. -/
def later (best : Option Block) (b : Block) : Option Block :=
  match best with
  | none => some b
  | some best => if best.startLine < b.startLine then some b else some best

theorem exists_foldl_later (best : Block) (blocks : List Block) :
    ∃ b, blocks.foldl later (some best) = some b ∧ b ∈ best :: blocks ∧
      ∀ b' ∈ best :: blocks, b'.startLine ≤ b.startLine := by
  induction blocks generalizing best with
  | nil => exact ⟨best, rfl, List.mem_cons_self, by simp⟩
  | cons next rest ih =>
    by_cases hnext : best.startLine < next.startLine
    · obtain ⟨b, hb, hmem, hlatest⟩ := ih next
      refine ⟨b, ?_, List.mem_cons_of_mem best hmem, ?_⟩
      · rw [List.foldl_cons, later, if_pos hnext]
        exact hb
      · intro b' hb'
        rcases List.mem_cons.mp hb' with rfl | hb'
        · exact hnext.le.trans (hlatest next List.mem_cons_self)
        · exact hlatest b' hb'
    · obtain ⟨b, hb, hmem, hlatest⟩ := ih best
      refine ⟨b, ?_, ?_, ?_⟩
      · rw [List.foldl_cons, later, if_neg hnext]
        exact hb
      · rcases List.mem_cons.mp hmem with rfl | hmem
        · exact List.mem_cons_self
        · exact List.mem_cons_of_mem best (List.mem_cons_of_mem next hmem)
      · intro b' hb'
        rcases List.mem_cons.mp hb' with rfl | hb'
        · exact hlatest b' List.mem_cons_self
        · rcases List.mem_cons.mp hb' with rfl | hb'
          · exact (Nat.le_of_not_lt hnext).trans (hlatest best List.mem_cons_self)
          · exact hlatest b' (List.mem_cons_of_mem best hb')

variable {line : Int} {blocks : List Block}

theorem innermost?_eq (line : Int) (blocks : List Block) :
    innermost? line blocks =
      (blocks.filter fun b => b.startLine ≤ line && line ≤ b.endLine).foldl later none :=
  rfl

theorem mem_filter_spans {b : Block} :
    (b ∈ blocks.filter fun b => b.startLine ≤ line && line ≤ b.endLine) ↔
      b ∈ blocks ∧ b.Spans line := by
  rw [List.mem_filter, Bool.and_eq_true, decide_eq_true_iff, decide_eq_true_iff, Spans]

theorem isSome_innermost?_iff :
    (innermost? line blocks).isSome ↔ ∃ b ∈ blocks, b.Spans line := by
  rw [innermost?_eq]
  constructor
  · intro h
    cases hspanning : blocks.filter fun b => b.startLine ≤ line && line ≤ b.endLine with
    | nil => exact absurd h (by simp [hspanning])
    | cons b rest =>
      have hb : b ∈ blocks ∧ b.Spans line := mem_filter_spans.mp (hspanning ▸ List.mem_cons_self)
      exact ⟨b, hb⟩
  · rintro ⟨b, hb⟩
    obtain ⟨first, rest, hspanning⟩ := List.exists_cons_of_ne_nil
      (List.ne_nil_of_mem (mem_filter_spans.mpr hb))
    obtain ⟨latest, hlatest, -⟩ := exists_foldl_later first rest
    rw [hspanning, List.foldl_cons, later, hlatest]
    rfl

theorem innermost?_eq_some {b : Block} (h : innermost? line blocks = some b) :
    b ∈ blocks ∧ b.Spans line ∧ ∀ b' ∈ blocks, b'.Spans line → b'.startLine ≤ b.startLine := by
  rw [innermost?_eq] at h
  cases hspanning : blocks.filter fun b => b.startLine ≤ line && line ≤ b.endLine with
  | nil => exact absurd h (by simp [hspanning])
  | cons first rest =>
    obtain ⟨latest, hfold, hmem, hlatest⟩ := exists_foldl_later first rest
    rw [hspanning, List.foldl_cons, later, hfold] at h
    obtain rfl := Option.some.inj h
    rw [← hspanning] at hmem hlatest
    obtain ⟨hb, hspans⟩ := mem_filter_spans.mp hmem
    exact ⟨hb, hspans, fun b' hb' hspans' => hlatest b' (mem_filter_spans.mpr ⟨hb', hspans'⟩)⟩

theorem innermost?_cons_of_not_spans {b : Block} (h : ¬b.Spans line) (blocks : List Block) :
    innermost? line (b :: blocks) = innermost? line blocks := by
  rw [innermost?_eq, innermost?_eq, List.filter_cons_of_neg]
  simpa [Spans] using h

/-- The innermost block of a source opens behind every other one that spans the line. -/
theorem innermost?_find_eq_some {source : Text} {b : Block}
    (h : innermost? line (find source) = some b) :
    b ∈ find source ∧ b.Spans line ∧
      ∀ b' ∈ find source, b'.Spans line → b' ≠ b → b'.startLine < b.startLine := by
  obtain ⟨hb, hspans, hlatest⟩ := innermost?_eq_some h
  refine ⟨hb, hspans, ?_⟩
  intro b' hb' hspans' hne
  apply lt_of_le_of_ne (hlatest b' hb' hspans')
  intro hline
  exact hne (List.inj_on_of_nodup_map (nodup_startLine_find source) hb' hb hline)

theorem exists_getElem?_inOrder {b : Block} (h : innermost? line blocks = some b) :
    ∃ i : Nat, (inOrder blocks)[i]? = some b :=
  List.mem_iff_getElem?.mp (List.mem_mergeSort.mpr (innermost?_eq_some h).1)

end Innermost

end CodeGauge.Block
