import CodeGauge.Proofs.Metrics.BlockText
import CodeGauge.Proofs.Pattern.Search
import Mathlib.Data.List.Induction
import Mathlib.Order.Bounds.Basic

/-!
The depth of any text, told by its stretches of lines. The depth that runs along with the lines
never falls below zero; so it is the greatest surplus of loop lines over closing lines in a last
stretch, and the highest depth is the greatest surplus in any stretch, where the closing of the last
line comes too late to count.
-/
namespace CodeGauge.TextScan

/-- A closing line begins with a brace or with the word `end`. -/
theorem isClosingLine_iff {line : Text} :
    isClosingLine line = true ↔
      ['\x7d'] <+: line ∨ "end".toList <+: line ∧ (line.drop 3).head?.any isWord = false := by
  have hafter {place : Cursor} (h : (Cursor.first line).Passes "end".toList place) :
      place.isAfter isWord = true := by
    rw [Cursor.isAfter, h.2]
    rfl
  rw [isClosingLine, Pattern.matchesAt_iff_ways rfl]
  constructor
  · rintro ⟨s, ⟨hbrace, -⟩ | ⟨middle, ⟨hend, -⟩, hborder, rfl⟩⟩
    · exact Or.inl ⟨s.place.ahead, hbrace.1.symm⟩
    · have hline : line = "end".toList ++ s.place.ahead := hend.1
      have hfree := (Cursor.isWordBorder_iff (hafter hend)).mp hborder
      refine Or.inr ⟨⟨s.place.ahead, hline.symm⟩, ?_⟩
      rw [hline]
      exact hfree
  · rintro (⟨rest, rfl⟩ | ⟨⟨rest, rfl⟩, hrest⟩)
    · exact ⟨⟨⟨['\x7d'], rest⟩, []⟩, Or.inl ⟨⟨rfl, rfl⟩, rfl⟩⟩
    · have hend : (Cursor.first ("end".toList ++ rest)).Passes "end".toList
          ⟨"end".toList.reverse, rest⟩ := ⟨rfl, rfl⟩
      have hborder := (Cursor.isWordBorder_iff (hafter hend)).mpr hrest
      let place : Progress := ⟨⟨"end".toList.reverse, rest⟩, []⟩
      exact ⟨place, Or.inr ⟨place, ⟨hend, rfl⟩, hborder, rfl⟩⟩

/-- The lines of code, told by what a line must not begin with. -/
theorem codeLines_eq (text : Text) : codeLines text = (text.lines.map Text.trim).filter fun line =>
    line ≠ [] ∧ ∀ mark ∈ (["//", "#", "/*", "*"] : List Text), ¬mark <+: line := by
  refine List.filter_congr fun line _ => ?_
  have hcomment : ¬isComment line = true ↔ ∀ mark ∈ commentPrefixes, ¬mark <+: line := by
    simp only [isComment, List.any_eq_true, List.isPrefixOf_iff_prefix, not_exists, not_and]
  rw [Bool.eq_iff_iff, Bool.and_eq_true, Bool.not_eq_true', List.isEmpty_eq_false_iff,
    Bool.not_eq_true', ← Bool.not_eq_true, hcomment, decide_eq_true_iff]
  rfl

/-- By how much the lines that open a loop outnumber those that close one in a last stretch. -/
def openLevels (opens closes : Text → Bool) (lines : List Text) : Set Int :=
  {level | ∃ segment, segment <:+ lines ∧ level = segment.countP opens - segment.countP closes}

/-- By how much the lines that open a loop outnumber, in a stretch, those that close one before its
last line; and zero. -/
def peaks (opens closes : Text → Bool) (lines : List Text) : Set Int :=
  {level | level = 0 ∨ ∃ segment line, segment ++ [line] <:+: lines ∧
    level = (segment ++ [line]).countP opens - segment.countP closes}

section Stretches

variable {opens closes : Text → Bool} {lines : List Text} {level highest : Int}

/-- A last stretch is empty, or it is a last stretch of the lines before and the line. -/
theorem isGreatest_openLevels_concat (h : IsGreatest (openLevels opens closes lines) level)
    (line : Text) : IsGreatest (openLevels opens closes (lines ++ [line]))
      (max 0 (level + [line].countP opens - [line].countP closes)) := by
  obtain ⟨⟨segment, hsegment, hlevel⟩, hgreatest⟩ := h
  constructor
  · rcases Int.le_total 0 (level + [line].countP opens - [line].countP closes) with hpos | hneg
    · rw [Int.max_eq_right hpos]
      refine ⟨segment ++ [line], List.suffix_concat_iff.mpr (Or.inr ⟨segment, rfl, hsegment⟩), ?_⟩
      rw [List.countP_append, List.countP_append]
      omega
    · rw [Int.max_eq_left hneg]
      exact ⟨[], List.nil_suffix, rfl⟩
  · rintro other ⟨stretch, hstretch, rfl⟩
    rcases List.suffix_concat_iff.mp hstretch with rfl | ⟨front, rfl, hfront⟩
    · exact Int.le_max_left _ _
    · have hle := hgreatest ⟨front, hfront, rfl⟩
      rw [List.countP_append, List.countP_append]
      omega

/-- A stretch that is new ends in the line. -/
theorem isGreatest_peaks_concat (h : IsGreatest (peaks opens closes lines) highest)
    (hopen : IsGreatest (openLevels opens closes lines) level) (line : Text) :
    IsGreatest (peaks opens closes (lines ++ [line]))
      (max highest (level + [line].countP opens)) := by
  obtain ⟨⟨segment, hsegment, hlevel⟩, hlevels⟩ := hopen
  constructor
  · rcases Int.le_total highest (level + [line].countP opens) with hle | hle
    · rw [Int.max_eq_right hle]
      refine Or.inr ⟨segment, line, List.infix_concat_iff.mpr (Or.inl ?_), ?_⟩
      · exact List.suffix_concat_iff.mpr (Or.inr ⟨segment, rfl, hsegment⟩)
      · rw [List.countP_append]
        omega
    · rw [Int.max_eq_left hle]
      rcases h.1 with hzero | ⟨front, last, hfront, heq⟩
      · exact Or.inl hzero
      · exact Or.inr ⟨front, last, List.infix_concat_iff.mpr (Or.inr hfront), heq⟩
  · rintro other (rfl | ⟨front, last, hstretch, rfl⟩)
    · exact Int.le_trans (h.2 (Or.inl rfl)) (Int.le_max_left _ _)
    rcases List.infix_concat_iff.mp hstretch with hnew | hold
    · rcases List.suffix_concat_iff.mp hnew with hnil | ⟨front', heq, hfront⟩
      · exact absurd hnil (by simp)
      · obtain ⟨rfl, hlast⟩ := List.append_inj' heq rfl
        obtain rfl := List.singleton_inj.mp hlast
        have hle := hlevels ⟨front, hfront, rfl⟩
        rw [List.countP_append]
        omega
    · exact Int.le_trans (h.2 (Or.inr ⟨front, last, hold, rfl⟩)) (Int.le_max_left _ _)

end Stretches

namespace Reading

variable {s : Reading} (name : Text)

/-- What one line does to the count, the highest depth and the depth. -/
theorem At.noteLine_of_le {loops highest level : Nat} (h : s.At loops highest level)
    (hle : level ≤ highest) (line : Text) :
    (s.noteLine name line).At (loops + [line].countP isLoopLine)
      (max highest (level + [line].countP isLoopLine))
      (level + [line].countP isLoopLine - [line].countP isClosingLine) := by
  apply At.noteLine
  rw [noteNesting, List.countP_singleton, List.countP_singleton]
  cases isLoopLine line <;> cases isClosingLine line
  all_goals
    simp only [Bool.false_eq_true, if_true, if_false]
    refine ⟨?_, ?_, ?_⟩
  all_goals
    simp only [h.loopCount, h.maxNestedDepth, h.depth]
    omega

/-- After all lines the depth is the greatest open level, the highest depth the greatest peak. -/
theorem exists_at_foldl (lines : List Text) :
    ∃ highest level : Nat,
      (lines.foldl (Reading.noteLine name) {}).At (lines.countP isLoopLine) highest level ∧
        level ≤ highest ∧ IsGreatest (openLevels isLoopLine isClosingLine lines) level ∧
        IsGreatest (peaks isLoopLine isClosingLine lines) highest := by
  induction lines using List.reverseRecOn with
  | nil =>
    refine ⟨0, 0, ⟨rfl, rfl, rfl⟩, Nat.le_refl 0, ⟨⟨[], List.nil_suffix, rfl⟩, ?_⟩, Or.inl rfl, ?_⟩
    · rintro other ⟨segment, hsegment, rfl⟩
      rw [List.suffix_nil.mp hsegment]
      exact Int.le_refl 0
    · rintro other (rfl | ⟨segment, line, hsegment, -⟩)
      · exact Int.le_refl 0
      · exact absurd (List.infix_nil.mp hsegment) (by simp)
  | append_singleton lines line ih =>
    obtain ⟨highest, level, hat, hle, hopen, hpeak⟩ := ih
    have hat' := hat.noteLine_of_le name hle line
    have hopen' := isGreatest_openLevels_concat hopen line
    have hpeak' := isGreatest_peaks_concat hpeak hopen line
    rw [List.foldl_append, List.countP_append]
    refine ⟨_, _, hat', by omega, ?_, ?_⟩
    · convert hopen' using 1
      omega
    · convert hpeak' using 1
      omega

/-- What stays out of sight, and how the calls of itself that were counted bound one another. -/
structure Bounded (s : Reading) (lines : Nat) : Prop where
  streamOps : s.metrics.streamOps = 0
  newCollections : s.metrics.newCollections = 0
  binarySearch : s.metrics.hasBinarySearchPattern = false
  double_le : s.metrics.doubleRecursiveCalls ≤ s.metrics.recursiveCalls
  recursion_le : s.metrics.recursiveCalls ≤ lines

theorem Bounded.noteNesting {lines : Nat} (h : s.Bounded lines) (line : Text) :
    (s.noteNesting line).Bounded lines := by
  rw [Reading.noteNesting]
  cases isLoopLine line <;> cases isClosingLine line <;>
    exact ⟨h.streamOps, h.newCollections, h.binarySearch, h.double_le, h.recursion_le⟩

/-- A line is counted once or not at all, and counted double only when it is counted. -/
theorem Bounded.noteLine {lines : Nat} (h : s.Bounded lines) (line : Text) :
    (s.noteLine name line).Bounded (lines + 1) := by
  have hnested := h.noteNesting line
  have hdouble := hnested.double_le
  have hcalls := hnested.recursion_le
  rw [Reading.noteLine, noteKeywords, noteSelfCalls]
  split
  · refine ⟨hnested.streamOps, hnested.newCollections, hnested.binarySearch, hdouble, ?_⟩
    simp only
    omega
  · refine ⟨hnested.streamOps, hnested.newCollections, hnested.binarySearch, ?_, ?_⟩
    · simp only
      split_ifs <;> omega
    · simp only
      split_ifs <;> omega

theorem bounded_foldl (lines : List Text) :
    (lines.foldl (Reading.noteLine name) {}).Bounded lines.length := by
  induction lines using List.reverseRecOn with
  | nil => exact ⟨rfl, rfl, rfl, Int.le_refl 0, Int.le_refl 0⟩
  | append_singleton lines line ih =>
    rw [List.foldl_append, List.length_append]
    exact ih.noteLine name line

end Reading

/-- The metrics of any text in closed form, over its trimmed lines that are neither empty nor
comments. The loops are the lines in which a loop pattern is found; the depth is the greatest
surplus, over all stretches of lines, of these over the lines before the last one that begin with a
closing brace or with the word `end`; streams, collections and binary searches are out of sight; and
no line counts twice. -/
theorem metrics_eq_peak (text name : Text) :
    let lines := (text.lines.map Text.trim).filter fun line =>
      line ≠ [] ∧ ∀ mark ∈ (["//", "#", "/*", "*"] : List Text), ¬mark <+: line
    let opens (line : Text) : Bool := loopPatterns.any (·.foundIn line)
    let closes (line : Text) : Bool :=
      ['\x7d'] <+: line ∨ "end".toList <+: line ∧ (line.drop 3).head?.any isWord = false
    (metrics text name).loopCount = lines.countP opens ∧
    IsGreatest (peaks opens closes lines) (metrics text name).maxNestedDepth ∧
    (metrics text name).maxNestedDepth ≤ (metrics text name).loopCount ∧
    ((metrics text name).maxNestedDepth = 0 ↔ (metrics text name).loopCount = 0) ∧
    (metrics text name).streamOps = 0 ∧ (metrics text name).newCollections = 0 ∧
    (metrics text name).hasBinarySearchPattern = false ∧
    (metrics text name).doubleRecursiveCalls ≤ (metrics text name).recursiveCalls ∧
    (metrics text name).recursiveCalls ≤ lines.length := by
  intro lines opens closes
  have hlines : lines = codeLines text := (codeLines_eq text).symm
  have hopens : opens = isLoopLine := rfl
  have hcloses : closes = isClosingLine := by
    funext line
    rw [Bool.eq_iff_iff, isClosingLine_iff, decide_eq_true_iff]
  rw [hlines, hopens, hcloses]
  obtain ⟨highest, level, hat, -, -, hpeak⟩ := Reading.exists_at_foldl name (codeLines text)
  have hbounded := Reading.bounded_foldl name (codeLines text)
  have hcoherent := (sound_metrics text name).1
  have hloops : (metrics text name).loopCount = (codeLines text).countP isLoopLine := hat.loopCount
  have hgreatest : IsGreatest (peaks isLoopLine isClosingLine (codeLines text))
      (metrics text name).maxNestedDepth := by
    rw [metrics, hat.maxNestedDepth]
    exact hpeak
  refine ⟨hloops, hgreatest, ?_, hcoherent.depth_eq_zero_iff, hbounded.streamOps,
    hbounded.newCollections, hbounded.binarySearch, hbounded.double_le, hbounded.recursion_le⟩
  rw [hloops]
  rcases hgreatest.1 with hzero | ⟨segment, line, hinfix, hpeak⟩
  · omega
  · have hle : (segment ++ [line]).countP isLoopLine ≤ (codeLines text).countP isLoopLine :=
      hinfix.sublist.countP_le
    omega

end CodeGauge.TextScan
