import CodeGauge.Proofs.Metrics.CodeLines
import CodeGauge.Proofs.Metrics.Coherent

/-!
What one line of text does to the metrics, and what all lines do. A line keeps the metrics coherent
and takes nothing back, so the metrics of a text lie within those of the text with lines behind it.
-/
namespace CodeGauge.TextScan

namespace Reading

/-- The metrics are coherent metrics of text, and no more levels are closed than were opened. -/
structure Sound (s : Reading) : Prop where
  coherent : s.metrics.Coherent
  depth_nonneg : 0 ≤ s.depth
  mode_eq : s.metrics.mode = .text

/-- The second reading goes on from the first. -/
structure Extends (s s' : Reading) : Prop where
  within : s.metrics.Within s'.metrics
  sound : s.Sound → s'.Sound

theorem Extends.refl (s : Reading) : s.Extends s :=
  ⟨Metrics.Within.refl s.metrics, id⟩

theorem Extends.trans {s₁ s₂ s₃ : Reading} (h : s₁.Extends s₂) (h' : s₂.Extends s₃) :
    s₁.Extends s₃ :=
  ⟨h.within.trans h'.within, fun hs => h'.sound (h.sound hs)⟩

/-- Nothing has been read yet. -/
theorem sound_start : Sound {} where
  coherent :=
    { loops_nonneg := Int.le_refl 0
      depth_nonneg := Int.le_refl 0
      depth_eq_zero_iff := Iff.rfl
      recursion_nonneg := Int.le_refl 0
      streams_nonneg := Int.le_refl 0
      streams_of_text := fun _ => rfl
      logarithmic_of_binarySearch := id }
  depth_nonneg := Int.le_refl 0
  mode_eq := rfl

variable (s : Reading) (line : Text)

/-- After a loop line the depth is at least one, so the first loop line brings the first loop and
the first level together. -/
theorem loopLine_extends :
    s.Extends
      { s with
        metrics :=
          { s.metrics with
            loopCount := s.metrics.loopCount + 1
            maxNestedDepth := max s.metrics.maxNestedDepth (s.depth + 1) }
        depth := s.depth + 1 } where
  within :=
    { Metrics.Within.refl s.metrics with
      loopCount := Int.le_add_one (Int.le_refl _)
      maxNestedDepth := Int.le_max_left _ _ }
  sound := fun hs =>
    { coherent :=
        { hs.coherent with
          loops_nonneg := Int.le_add_one hs.coherent.loops_nonneg
          depth_nonneg := Int.le_trans hs.coherent.depth_nonneg (Int.le_max_left _ _)
          depth_eq_zero_iff := by
            have hloops := hs.coherent.loops_nonneg
            have hdepth := hs.depth_nonneg
            constructor <;> intro hzero <;> simp only at hzero <;> omega }
      depth_nonneg := Int.le_add_one hs.depth_nonneg
      mode_eq := hs.mode_eq }

/-- A closing line leaves the metrics alone. -/
theorem closingLine_extends : s.Extends { s with depth := max 0 (s.depth - 1) } where
  within := Metrics.Within.refl s.metrics
  sound := fun hs => { hs with depth_nonneg := Int.le_max_left _ _ }

theorem noteNesting_extends : s.Extends (s.noteNesting line) := by
  rw [noteNesting]
  by_cases hloop : isLoopLine line = true <;> by_cases hclosing : isClosingLine line = true
  · simp only [hloop, hclosing, if_true]
    exact (loopLine_extends s).trans (closingLine_extends _)
  · simp only [hloop, hclosing, if_true]
    exact loopLine_extends s
  · simp only [hloop, hclosing, if_true]
    exact closingLine_extends s
  · simp only [hloop, hclosing]
    exact Extends.refl s

theorem noteSelfCalls_extends (name : Text) : s.Extends (s.noteSelfCalls name line) := by
  rw [noteSelfCalls]
  by_cases hname : name.isEmpty = true
  · rw [if_pos hname]
    exact Extends.refl s
  · rw [if_neg hname]
    refine ⟨?_, fun hs => ?_⟩
    · refine { Metrics.Within.refl s.metrics with recursiveCalls := ?_, doubleRecursiveCalls := ?_ }
      · simp only
        split <;> omega
      · simp only
        split <;> omega
    · have hrec := hs.coherent.recursion_nonneg
      refine ⟨{ hs.coherent with recursion_nonneg := ?_ }, hs.depth_nonneg, hs.mode_eq⟩
      simp only
      split <;> omega

theorem noteKeywords_extends : s.Extends (s.noteKeywords line) where
  within :=
    { Metrics.Within.refl s.metrics with
      logarithmic := fun h => by simp [noteKeywords, h]
      sorting := fun h => by simp [noteKeywords, h]
      factorial := fun h => by simp [noteKeywords, h] }
  sound := fun hs =>
    { coherent :=
        { hs.coherent with
          logarithmic_of_binarySearch := fun h => by
            simp [noteKeywords, hs.coherent.logarithmic_of_binarySearch h] }
      depth_nonneg := hs.depth_nonneg
      mode_eq := hs.mode_eq }

theorem noteLine_extends (name : Text) : s.Extends (s.noteLine name line) :=
  ((noteNesting_extends s line).trans (noteSelfCalls_extends _ line name)).trans
    (noteKeywords_extends _ line)

theorem foldl_noteLine_extends (name : Text) (lines : List Text) :
    s.Extends (lines.foldl (noteLine name) s) := by
  induction lines generalizing s with
  | nil => exact Extends.refl s
  | cons line lines ih => exact (noteLine_extends s line name).trans (ih _)

end Reading

/-- The metrics of a text are coherent metrics of text. -/
theorem sound_metrics (text name : Text) :
    (metrics text name).Coherent ∧ (metrics text name).mode = .text := by
  have hsound := (Reading.foldl_noteLine_extends {} name (codeLines text)).sound Reading.sound_start
  exact ⟨hsound.coherent, hsound.mode_eq⟩

theorem metrics_within_append {before : Text} (after name : Text)
    (hbefore : before = [] ∨ ∃ text, before = text ++ ['\n']) :
    (metrics before name).Within (metrics (before ++ after) name) := by
  have hends : EndsLine before :=
    hbefore.imp_right fun ⟨text, htext⟩ => ⟨text, '\n', htext, by decide⟩
  rw [metrics, metrics, hends.codeLines_append, List.foldl_append]
  exact (Reading.foldl_noteLine_extends _ name (codeLines after)).within

end CodeGauge.TextScan
