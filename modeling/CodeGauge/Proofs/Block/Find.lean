import CodeGauge.Block.Find
import CodeGauge.Proofs.Block.Extent
import Mathlib.Data.List.Nodup

/-!
The blocks of a source. No two of them open on one line; each is a stretch of the source from the
start of a line on, and the lines that it claims are the ones that this stretch takes up. The white
space at its end is trimmed after its lines are counted, but no line feed is lost with it, since the
last line is not blank.
-/
namespace CodeGauge.Block

theorem ofHeader?_eq_some {shape : HeaderShape} {m : Match} {b : Block}
    (h : ofHeader? shape m = some b) :
    m.part .name ∉ controlKeywords ∧ (shape = .method → m.declaresMethod = true) ∧
      ∃ text, (Body.ofHeader shape m).extent? m.start = some text ∧
        b = ⟨m.part .name, lineOf m.start,
          lineOf m.start + (text.rdropWhile (· == '\n')).count '\n', text.trimEnd⟩ := by
  rw [ofHeader?] at h
  split_ifs at h with hkeyword hcall
  cases htext : (Body.ofHeader shape m).extent? m.start with
  | none => exact absurd h (by simp [htext])
  | some text =>
    rw [htext] at h
    obtain rfl := Option.some.inj h
    refine ⟨?_, ?_, text, rfl, ?_⟩
    · simpa using hkeyword
    · simpa using hcall
    · rw [List.rdropWhile, List.count_reverse]

/-- No line feed is lost with the empty lines behind a function, since there are none. -/
theorem count_of_extent? {shape : HeaderShape} {source text : Text} {m : Match}
    (hm : shape.pattern.Finds source m)
    (h : (Body.ofHeader shape m).extent? m.start = some text) :
    (text.rdropWhile (· == '\n')).count '\n' = text.count '\n' := by
  apply (Body.extent?_eq_some hm h).2.1.count_rdropWhile
  intro c hc
  exact eq_of_beq hc ▸ rfl

/-- So the lines of a block are those of its whole text. -/
theorem ofHeader?_eq_map {shape : HeaderShape} {source : Text} {m : Match}
    (hm : shape.pattern.Finds source m) : ofHeader? shape m =
      if controlKeywords.contains (m.part .name) then none
      else if shape = .method && !m.declaresMethod then none
      else ((Body.ofHeader shape m).extent? m.start).map fun text =>
        ⟨m.part .name, lineOf m.start, lineOf m.start + text.count '\n', text.trimEnd⟩ := by
  rw [ofHeader?]
  cases htext : (Body.ofHeader shape m).extent? m.start with
  | none => rfl
  | some text =>
    have hcount := count_of_extent? hm htext
    rw [List.rdropWhile, List.count_reverse] at hcount
    simp only [hcount, Option.map_some]

section Adding

variable {blocks others : List Block} {b : Block}

theorem mem_foldl_addNew (h : b ∈ others.foldl addNew blocks) : b ∈ blocks ∨ b ∈ others := by
  induction others generalizing blocks with
  | nil => exact Or.inl h
  | cons other rest ih =>
    rcases ih h with h | h
    · rw [addNew] at h
      split at h
      · exact Or.inl h
      · rcases List.mem_append.mp h with h | h
        · exact Or.inl h
        · exact Or.inr (List.mem_cons.mpr (Or.inl (List.mem_singleton.mp h)))
    · exact Or.inr (List.mem_cons_of_mem other h)

/-- A block is added only where none starts. -/
theorem nodup_startLine_addNew (h : (blocks.map startLine).Nodup) :
    ((addNew blocks b).map startLine).Nodup := by
  rw [addNew]
  by_cases hany : blocks.any (·.startLine = b.startLine)
  · rw [if_pos hany]
    exact h
  · rw [if_neg hany, List.map_append, List.map_singleton, List.nodup_append]
    refine ⟨h, List.pairwise_singleton _ _, ?_⟩
    rintro line hline _ hb rfl
    obtain ⟨b', hb', rfl⟩ := List.mem_map.mp hline
    exact hany (List.any_eq_true.mpr ⟨b', hb', decide_eq_true (List.mem_singleton.mp hb)⟩)

theorem nodup_startLine_foldl_addNew (h : (blocks.map startLine).Nodup) :
    ((others.foldl addNew blocks).map startLine).Nodup := by
  induction others generalizing blocks with
  | nil => exact h
  | cons other rest ih => exact ih (nodup_startLine_addNew h)

end Adding

/-- A line opens one block at most. -/
theorem nodup_startLine_find (source : Text) : ((find source).map startLine).Nodup :=
  nodup_startLine_foldl_addNew List.nodup_nil

/-- How a block lies in a source. -/
structure LiesIn (b : Block) (source : Text) : Prop where
  /-- The text is a stretch of the source, from the first character of the first line on. -/
  stretch : ∃ before after, source = before ++ b.text ++ after ∧
    (before = [] ∨ ∃ lines, before = lines ++ ['\n']) ∧ b.startLine = before.count '\n' + 1
  not_blank : b.text.isAllBlank = false
  trimmed : ∀ c, b.text.getLast? = some c → isBlank c = false
  endLine_eq : b.endLine = b.startLine + b.text.count '\n'
  name_ne_nil : b.name ≠ []
  name_infix : b.name <:+: b.text.firstLine
  not_keyword : b.name ∉ controlKeywords

section Find

variable {source : Text} {b : Block}

theorem exists_header_of_mem_find (h : b ∈ find source) :
    ∃ shape m, shape.pattern.Finds source m ∧ ofHeader? shape m = some b := by
  rcases mem_foldl_addNew h with hnil | h
  · exact absurd hnil List.not_mem_nil
  · obtain ⟨shape, -, hshape⟩ := List.mem_flatMap.mp h
    obtain ⟨m, hm, hb⟩ := List.mem_filterMap.mp hshape
    exact ⟨shape, m, Pattern.finds_of_mem_findAll hm, hb⟩

/-- Trimming leaves the line of the name alone, since a name holds no white space. -/
theorem prefix_firstLine_trimEnd {lead name text : Text} (h : lead ++ name <+: text)
    (hline : '\n' ∉ lead ++ name) (hne : name ≠ []) (hname : ∀ c ∈ name, isBlank c = false) :
    lead ++ name <+: text.trimEnd.firstLine := by
  refine Text.prefix_firstLine (Text.prefix_rdropWhile h ?_) hline
  obtain ⟨first, last, rfl⟩ := (List.eq_nil_or_concat' name).resolve_left hne
  have hlast := hname last List.mem_concat_self
  rw [← List.append_assoc, List.rdropWhile_concat_neg isBlank _ _ (by simp [hlast])]

theorem liesIn_of_mem_find (h : b ∈ find source) : b.LiesIn source := by
  obtain ⟨shape, m, hm, hb⟩ := exists_header_of_mem_find h
  obtain ⟨hkeyword, -, text, htext, rfl⟩ := ofHeader?_eq_some hb
  obtain ⟨hbegins, hcode, lead, hsame, hprefix⟩ := Body.extent?_eq_some hm htext
  obtain ⟨_, _, _, hname⟩ := HeaderShape.exists_readsName hm
  have hline := prefix_firstLine_trimEnd hprefix hsame hname.ne_nil hname.not_blank
  refine ⟨?stretch, ?not_blank, ?trimmed, ?endLine, hname.ne_nil, ?name, hkeyword⟩
  case stretch =>
    obtain ⟨before, hsource, hbehind, hbefore⟩ := HeaderShape.exists_lines_before hm
    obtain ⟨after, hafter⟩ := (List.rdropWhile_prefix isBlank text).trans hbegins
    refine ⟨before, after, ?_, hbefore, ?_⟩
    · rw [hsource, ← hafter, List.append_assoc, Text.trimEnd_eq_rdropWhile]
    · rw [lineOf, hbehind, List.count_reverse]
  case not_blank =>
    obtain ⟨c, hc⟩ := List.exists_mem_of_ne_nil _ hname.ne_nil
    have hmem := (List.takeWhile_prefix _).subset (hline.subset (List.mem_append_right lead hc))
    exact List.all_eq_false.mpr ⟨c, hmem, by simp [hname.not_blank c hc]⟩
  case trimmed =>
    intro c hc
    exact Text.isBlank_getLast?_trimEnd text hc
  case endLine =>
    rw [count_of_extent? hm htext, hcode.count_trimEnd]
  case name => exact (List.suffix_append lead _).isInfix.trans hline.isInfix

end Find

/-- The blocks of a source start on different lines, and each lies in the source as it says. -/
theorem find_lies_in_source (source : Text) :
    ((find source).map startLine).Nodup ∧ ∀ b ∈ find source, b.LiesIn source := by
  constructor
  · exact nodup_startLine_find source
  · intro b hb
    exact liesIn_of_mem_find hb

namespace Mixed

/-- A function by indentation with blank lines behind it, and a method in braces. -/
def source : Text :=
  "x = 1\ndef f(a):\n  return a  \n\n  \nclass C \x7b\n  int g() const \x7b\n  \x7d\n\x7d"

def function : Block := ⟨"f", 2, 3, "def f(a):\n  return a"⟩

def method : Block := ⟨"g", 7, 8, "  int g() const \x7b\n  \x7d"⟩

theorem find_source : find source = [function, method] := by
  decide +kernel

end Mixed

open Mixed in
theorem find_lies_in_source_of_function_and_method :
    function.LiesIn source ∧ method.LiesIn source ∧ function.startLine ≠ method.startLine := by
  have hfunction : function ∈ find source := find_source ▸ List.mem_cons_self
  have hmethod : method ∈ find source :=
    find_source ▸ List.mem_cons_of_mem function List.mem_cons_self
  obtain ⟨hlines, hlies⟩ := find_lies_in_source source
  rw [find_source] at hlines
  refine ⟨hlies function hfunction, hlies method hmethod, ?_⟩
  intro heq
  exact (List.nodup_cons.mp hlines).1 (heq ▸ List.mem_cons_self)

end CodeGauge.Block
