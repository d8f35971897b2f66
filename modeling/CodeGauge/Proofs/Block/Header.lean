import CodeGauge.Block.Header
import CodeGauge.Proofs.Pattern.Capture
import CodeGauge.Proofs.Text.Blank

/-!
Where the name of a header stands. A header begins at the start of a line, and its name, which is
not empty and holds no white space, is on that line.
-/
namespace CodeGauge.HeaderShape

open Pattern

theorem avoids_name {starts : Char → Bool} (hstarts : ∀ c, starts c = true → isBlank c = false)
    {c : Char} (hc : isBlank c = true) : (one starts ++ many isNamePart).avoids c = true := by
  have hfirst : starts c = false :=
    Bool.eq_false_iff.mpr fun hstart => Bool.false_ne_true ((hstarts c hstart).symm.trans hc)
  change (!starts c && !isNamePart c) = true
  rw [hfirst, isNamePart_of_isBlank hc]
  rfl

theorem isBlank_of_isNameStart {c : Char} (h : isNameStart c = true) : isBlank c = false :=
  isBlank_of_isNamePart (isNamePart_of_isNameStart h)

/-- Each shape captures one name. No line feed comes before it, and a method goes on behind it. -/
theorem exists_captured (shape : HeaderShape) :
    ∃ c, shape.pattern.captured? = some c ∧ c.part = .name ∧
      (c.before.isPlain = true ∧ c.body.isPlain = true ∧ c.after.isPlain = true) ∧
      c.before.avoids '\n' = true ∧ c.body.consumes = true ∧
      (∀ x, isBlank x = true → c.body.avoids x = true) ∧
      (shape = method → c.after.consumes = true) := by
  cases shape with
  | keyword =>
    refine ⟨_, rfl, rfl, by decide, by decide, by decide, ?_, by decide⟩
    intro x hx
    exact avoids_name (fun _ => isBlank_of_isNameStart) hx
  | arrow =>
    refine ⟨_, rfl, rfl, by decide, by decide, by decide, ?_, by decide⟩
    intro x hx
    exact avoids_name (fun _ => isBlank_of_isNameStart) hx
  | method =>
    refine ⟨_, rfl, rfl, by decide, by decide, by decide, ?_, by decide⟩
    intro x hx
    refine avoids_name ?_ hx
    intro c hc
    rcases Bool.or_eq_true_iff.mp hc with hstart | htilde
    · exact isBlank_of_isNameStart hstart
    · rw [eq_of_beq htilde]
      decide

/-- How a match reads its name: behind `lead`, on the first line, up to a place from where it reads
`rest`. -/
structure ReadsName (shape : HeaderShape) (m : Match) (lead : Text) (place : Cursor) (rest : Text) :
    Prop where
  passes : m.start.Passes (lead ++ m.part .name) place
  goes_on : place.Passes rest m.stop
  same_line : '\n' ∉ lead ++ m.part .name
  ne_nil : m.part .name ≠ []
  not_blank : ∀ c ∈ m.part .name, isBlank c = false
  /-- A method reads its parameters and a brace. -/
  rest_ne_nil : shape = method → rest ≠ []

variable {shape : HeaderShape} {source : Text} {m : Match}

theorem exists_readsName (hm : shape.pattern.Finds source m) :
    ∃ lead place rest, ReadsName shape m lead place rest := by
  obtain ⟨c, hc, hpart, hplain, hfeed, hconsumes, hblank, hafter⟩ := exists_captured shape
  obtain ⟨lead, start, stop, rest, hlead, hname, hrest⟩ := hm.exists_part hc hplain
  rw [hpart] at hname
  refine ⟨lead, stop, rest, ?_⟩
  constructor
  case passes => exact hlead.passes.trans hname.passes
  case goes_on => exact hrest.passes
  case same_line =>
    intro hmem
    rcases List.mem_append.mp hmem with hmem | hmem
    · exact hlead.not_mem '\n' hfeed hmem
    · exact hname.not_mem '\n' (hblank '\n' (by decide)) hmem
  case ne_nil => exact hname.ne_nil hconsumes
  case not_blank =>
    intro x hx
    rw [Bool.eq_false_iff]
    intro hxblank
    exact hname.not_mem x (hblank x hxblank) hx
  case rest_ne_nil =>
    intro hmethod
    exact hrest.ne_nil (hafter hmethod)

theorem isLineStart_of_finds (hm : shape.pattern.Finds source m) : m.start.isLineStart = true := by
  have hinitial : shape.pattern.initial = lineStart := by
    cases shape <;> rfl
  obtain ⟨middle, hways⟩ := hm.ways.initial
  rw [hinitial] at hways
  exact hways.1

/-- What stands before a header are whole lines. -/
theorem exists_lines_before (hm : shape.pattern.Finds source m) :
    ∃ before, source = before ++ m.start.ahead ∧ m.start.behind = before.reverse ∧
      (before = [] ∨ ∃ lines, before = lines ++ ['\n']) := by
  obtain ⟨before, hsource, hbehind⟩ := hm.start_in
  rw [Cursor.first, List.append_nil] at hbehind
  refine ⟨before, hsource, hbehind, ?_⟩
  rcases List.eq_nil_or_concat' before with rfl | ⟨lines, c, rfl⟩
  · exact Or.inl rfl
  · have hstart := isLineStart_of_finds hm
    rw [List.reverse_concat] at hbehind
    rw [Cursor.isLineStart, hbehind] at hstart
    exact Or.inr ⟨lines, eq_of_beq hstart ▸ rfl⟩

end CodeGauge.HeaderShape
