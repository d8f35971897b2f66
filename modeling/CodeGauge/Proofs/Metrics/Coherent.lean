import CodeGauge.Metrics.Basic

/-!
What holds of all metrics that were measured, and of the metrics of a piece of code beside those of
the same code with something added.
-/
namespace CodeGauge.Metrics

/-- The measurements agree with one another. Metrics written down by hand need not. -/
structure Coherent (m : Metrics) : Prop where
  loops_nonneg : 0 ≤ m.loopCount
  depth_nonneg : 0 ≤ m.maxNestedDepth
  depth_eq_zero_iff : m.maxNestedDepth = 0 ↔ m.loopCount = 0
  recursion_nonneg : 0 ≤ m.recursiveCalls
  streams_nonneg : 0 ≤ m.streamOps
  streams_of_text : m.mode = .text → m.streamOps = 0
  logarithmic_of_binarySearch : m.hasBinarySearchPattern → m.hasLogarithmicPattern

/-- No measurement of the first is above that of the second, and the second has every pattern of
the first. -/
structure Within (m m' : Metrics) : Prop where
  loopCount : m.loopCount ≤ m'.loopCount
  maxNestedDepth : m.maxNestedDepth ≤ m'.maxNestedDepth
  recursiveCalls : m.recursiveCalls ≤ m'.recursiveCalls
  doubleRecursiveCalls : m.doubleRecursiveCalls ≤ m'.doubleRecursiveCalls
  streamOps : m.streamOps ≤ m'.streamOps
  newCollections : m.newCollections ≤ m'.newCollections
  logarithmic : m.hasLogarithmicPattern → m'.hasLogarithmicPattern
  sorting : m.hasSortingPattern → m'.hasSortingPattern
  factorial : m.hasFactorialPattern → m'.hasFactorialPattern
  binarySearch : m.hasBinarySearchPattern → m'.hasBinarySearchPattern
  mode : m.mode = m'.mode

theorem Within.refl (m : Metrics) : m.Within m where
  loopCount := Int.le_refl _
  maxNestedDepth := Int.le_refl _
  recursiveCalls := Int.le_refl _
  doubleRecursiveCalls := Int.le_refl _
  streamOps := Int.le_refl _
  newCollections := Int.le_refl _
  logarithmic := id
  sorting := id
  factorial := id
  binarySearch := id
  mode := rfl

theorem Within.trans {m₁ m₂ m₃ : Metrics} (h : m₁.Within m₂) (h' : m₂.Within m₃) :
    m₁.Within m₃ where
  loopCount := Int.le_trans h.loopCount h'.loopCount
  maxNestedDepth := Int.le_trans h.maxNestedDepth h'.maxNestedDepth
  recursiveCalls := Int.le_trans h.recursiveCalls h'.recursiveCalls
  doubleRecursiveCalls := Int.le_trans h.doubleRecursiveCalls h'.doubleRecursiveCalls
  streamOps := Int.le_trans h.streamOps h'.streamOps
  newCollections := Int.le_trans h.newCollections h'.newCollections
  logarithmic := fun hm => h'.logarithmic (h.logarithmic hm)
  sorting := fun hm => h'.sorting (h.sorting hm)
  factorial := fun hm => h'.factorial (h.factorial hm)
  binarySearch := fun hm => h'.binarySearch (h.binarySearch hm)
  mode := h.mode.trans h'.mode

end CodeGauge.Metrics
