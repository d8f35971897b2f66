import CodeGauge.Complexity
import CodeGauge.Proofs.Metrics.Coherent
import Mathlib.Tactic.SplitIfs

/-!
The cascade of time classes as an order. Each class has a signal of its own in the metrics, and for
coherent metrics the cascade picks the greatest class whose signal is there. So the estimate never
falls while the signals stay.
-/
namespace CodeGauge

namespace TimeClass

/-- The place of a class in the order of growth; what is unclassified has none. -/
def growth? : TimeClass → Option Nat
  | constant => some 0
  | logarithmic => some 1
  | linear => some 2
  | linearithmic => some 3
  | quadratic => some 4
  | cubic => some 5
  | exponential => some 6
  | factorial => some 7
  | unclassified => none

/-- Both classes have a place in the order, the first no later than the second. -/
def atMost (a b : TimeClass) : Bool :=
  match a.growth?, b.growth? with
  | some i, some j => i ≤ j
  | _, _ => false

end TimeClass

namespace Metrics

/-- Whether the metrics speak for a class by themselves, without regard to the other classes. A
logarithmic pattern takes the place of linear work. -/
def HasSignal (m : Metrics) : TimeClass → Prop
  | .constant => True
  | .logarithmic => m.hasLogarithmicPattern
  | .linear =>
    m.hasLogarithmicPattern = false ∧
      (0 < m.maxNestedDepth ∨ 0 < m.recursiveCalls ∨ 0 < m.streamOps)
  | .linearithmic => m.hasSortingPattern
  | .quadratic => 2 ≤ m.maxNestedDepth
  | .cubic => 3 ≤ m.maxNestedDepth
  | .exponential => 0 < m.doubleRecursiveCalls ∨ 2 ≤ m.recursiveCalls
  | .factorial => m.hasFactorialPattern
  | .unclassified => False

variable {m m' : Metrics}

theorem Coherent.isLogarithmic_eq (h : m.Coherent) : m.isLogarithmic = m.hasLogarithmicPattern := by
  have hbinary := h.logarithmic_of_binarySearch
  rw [isLogarithmic]
  cases hlog : m.hasLogarithmicPattern <;> cases hb : m.hasBinarySearchPattern <;> simp_all

/-- Coherent metrics pass eight rungs, one for each class and none for `unclassified`: below the
sorting rung a depth of one, a recursive call and a stream count alike. -/
theorem Coherent.timeClass_eq (h : m.Coherent) :
    m.timeClass =
      if m.hasFactorialPattern then .factorial
      else if 0 < m.doubleRecursiveCalls ∨ 2 ≤ m.recursiveCalls then .exponential
      else if 3 ≤ m.maxNestedDepth then .cubic
      else if 2 ≤ m.maxNestedDepth then .quadratic
      else if m.hasSortingPattern then .linearithmic
      else if m.hasLogarithmicPattern then .logarithmic
      else if 0 < m.maxNestedDepth ∨ 0 < m.recursiveCalls ∨ 0 < m.streamOps then .linear
      else .constant := by
  have hdepth := h.depth_nonneg
  have hloops := h.depth_eq_zero_iff
  have hrec := h.recursion_nonneg
  have hstreams := h.streams_nonneg
  rw [timeClass, h.isLogarithmic_eq]
  refine ite_congr rfl (fun _ => rfl) fun _ => ?_
  refine ite_congr (by simp) (fun _ => rfl) fun _ => ?_
  refine ite_congr rfl (fun _ => rfl) fun hcubic => ?_
  refine ite_congr (propext (by omega)) (fun _ => rfl) fun hquadratic => ?_
  refine ite_congr rfl (fun _ => rfl) fun _ => ?_
  cases m.hasLogarithmicPattern with
  | true =>
    have hone : m.maxNestedDepth ≤ 1 := by omega
    simp [hone]
  | false =>
    by_cases hzero : m.maxNestedDepth = 0
    · have hnone : m.loopCount = 0 := hloops.mp hzero
      by_cases hcalls : 0 < m.recursiveCalls
      · simp [hzero, hnone, hcalls]
      · have hcalls : m.recursiveCalls = 0 := by omega
        by_cases hs : 0 < m.streamOps
        · have hmode : m.mode = .structured := by
            cases hmode : m.mode with
            | structured => rfl
            | text => exact absurd (h.streams_of_text hmode) (by omega)
          have hs' : 1 ≤ m.streamOps := hs
          simp [hzero, hnone, hcalls, hs, hs', hmode]
        · have hs : m.streamOps = 0 := by omega
          simp [hzero, hnone, hcalls, hs]
    · have hone : m.maxNestedDepth = 1 := by omega
      simp [hone]

/-- The class has a signal and no class above it has one. -/
def Picks (m : Metrics) (c : TimeClass) : Prop :=
  m.HasSignal c ∧ ∀ other, m.HasSignal other → other.atMost c

theorem Coherent.picks_timeClass (h : m.Coherent) : m.Picks m.timeClass := by
  rw [h.timeClass_eq]
  split_ifs with hfactorial hexponential hcubic hquadratic hsorting hlogarithmic hlinear
  -- Classes below the chosen one compare by computation; those above have failed their rung.
  · refine ⟨hfactorial, fun other hother => ?_⟩
    cases other <;> first | rfl | contradiction
  · refine ⟨hexponential, fun other hother => ?_⟩
    cases other <;> first | rfl | contradiction
  · refine ⟨hcubic, fun other hother => ?_⟩
    cases other <;> first | rfl | contradiction
  · refine ⟨hquadratic, fun other hother => ?_⟩
    cases other <;> first | rfl | contradiction
  · refine ⟨hsorting, fun other hother => ?_⟩
    cases other <;> first | rfl | contradiction
  · have hnot : ¬m.HasSignal .linear := by
      intro hsignal
      exact Bool.false_ne_true (hsignal.1.symm.trans hlogarithmic)
    refine ⟨hlogarithmic, fun other hother => ?_⟩
    cases other <;> first | rfl | contradiction
  · have hnot : m.hasLogarithmicPattern = false := by simpa using hlogarithmic
    refine ⟨⟨hnot, hlinear⟩, fun other hother => ?_⟩
    cases other <;> first | rfl | contradiction
  · have hnot : ¬m.HasSignal .linear := fun hsignal => hlinear hsignal.2
    refine ⟨trivial, fun other hother => ?_⟩
    cases other <;> first | rfl | contradiction

theorem Coherent.timeClass_ne_unclassified (h : m.Coherent) : m.timeClass ≠ .unclassified := by
  intro hclass
  have hsignal := h.picks_timeClass.1
  rw [hclass] at hsignal
  exact hsignal

/-- More code keeps every signal, as long as the logarithmic pattern neither comes nor goes. -/
theorem Within.hasSignal (h : m.Within m')
    (hlog : m.hasLogarithmicPattern = m'.hasLogarithmicPattern) {c : TimeClass}
    (hc : m.HasSignal c) : m'.HasSignal c := by
  have hdepth := h.maxNestedDepth
  have hrec := h.recursiveCalls
  have hdouble := h.doubleRecursiveCalls
  have hstreams := h.streamOps
  cases c with
  | constant => trivial
  | logarithmic => exact h.logarithmic hc
  | linear =>
    refine ⟨hlog ▸ hc.1, ?_⟩
    have hwork := hc.2
    omega
  | linearithmic => exact h.sorting hc
  | quadratic => exact Int.le_trans hc hdepth
  | cubic => exact Int.le_trans hc hdepth
  | exponential =>
    rcases hc with hc | hc
    · exact Or.inl (Int.lt_of_lt_of_le hc hdouble)
    · exact Or.inr (Int.le_trans hc hrec)
  | factorial => exact h.factorial hc
  | unclassified => exact hc

theorem Within.timeClass_atMost (h : m.Within m') (hm : m.Coherent) (hm' : m'.Coherent)
    (hlog : m.hasLogarithmicPattern = m'.hasLogarithmicPattern) :
    m.timeClass.atMost m'.timeClass := by
  have hsignal := h.hasSignal hlog hm.picks_timeClass.1
  exact hm'.picks_timeClass.2 m.timeClass hsignal

theorem spaceClass_eq_linear_iff :
    m.spaceClass = .linear ↔
      (m.mode = .text ∧ 0 < m.recursiveCalls) ∨ (m.mode = .structured ∧ 0 < m.newCollections) := by
  rw [spaceClass]
  cases m.mode <;> simp

theorem Within.spaceClass_ne_constant (h : m.Within m') (hspace : m.spaceClass = .linear) :
    m'.spaceClass ≠ .constant := by
  have hlinear : m'.spaceClass = .linear := by
    rw [spaceClass_eq_linear_iff] at hspace ⊢
    rw [← h.mode]
    rcases hspace with ⟨hmode, hrec⟩ | ⟨hmode, hbuilt⟩
    · exact Or.inl ⟨hmode, Int.lt_of_lt_of_le hrec h.recursiveCalls⟩
    · exact Or.inr ⟨hmode, Int.lt_of_lt_of_le hbuilt h.newCollections⟩
  rw [hlinear]
  exact SpaceClass.noConfusion

end Metrics

end CodeGauge
