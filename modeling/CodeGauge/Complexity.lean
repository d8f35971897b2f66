import CodeGauge.Metrics.Basic

/-!
Time and space classes, and the cascade that picks them from the metrics. The conditions of the
cascade overlap and the first one decides: a permutation outranks everything, recursion outranks
nesting, nesting outranks sorting.
-/
namespace CodeGauge

inductive TimeClass where
  | constant
  | logarithmic
  | linear
  | linearithmic
  | quadratic
  | cubic
  | exponential
  | factorial
  /-- The metrics do not say enough. -/
  | unclassified
deriving Repr, DecidableEq

namespace TimeClass

def all : List TimeClass :=
  [constant, logarithmic, linear, linearithmic, quadratic, cubic, exponential, factorial,
    unclassified]

def label : TimeClass → Text
  | constant => "O(1)"
  | logarithmic => "O(log n)"
  | linear => "O(n)"
  | linearithmic => "O(n log n)"
  | quadratic => "O(n²)"
  | cubic => "O(n³)"
  | exponential => "O(2ⁿ)"
  | factorial => "O(n!)"
  | unclassified => "O(?)"

end TimeClass

inductive SpaceClass where
  | constant
  | linear
deriving Repr, DecidableEq

namespace SpaceClass

def all : List SpaceClass := [constant, linear]

def label : SpaceClass → Text
  | constant => "O(1)"
  | linear => "O(n)"

end SpaceClass

/-- An estimate, with the lines that show what it rests on. -/
structure Complexity where
  time : TimeClass
  space : SpaceClass
  evidence : List Text := []
deriving Repr, DecidableEq

namespace Metrics

/-- Some part of the work shrinks by a factor. -/
def isLogarithmic (m : Metrics) : Bool :=
  m.hasLogarithmicPattern || m.hasBinarySearchPattern

def timeClass (m : Metrics) : TimeClass :=
  if m.hasFactorialPattern then .factorial
  else if m.doubleRecursiveCalls > 0 || m.recursiveCalls ≥ 2 then .exponential
  else if m.maxNestedDepth ≥ 3 then .cubic
  else if m.maxNestedDepth = 2 then .quadratic
  else if m.hasSortingPattern then .linearithmic
  else if m.maxNestedDepth = 1 && !m.isLogarithmic then .linear
  else if m.isLogarithmic && m.maxNestedDepth ≤ 1 then .logarithmic
  else if m.recursiveCalls > 0 && m.loopCount = 0 then .linear
  else if m.mode = .structured && m.streamOps ≥ 1 && m.loopCount = 0 then .linear
  else if m.loopCount = 0 && m.streamOps = 0 && m.recursiveCalls = 0 then .constant
  else .unclassified

/-- A tree shows the collections that are built; in text the depth of recursion stands in. -/
def spaceClass (m : Metrics) : SpaceClass :=
  match m.mode with
  | .text => if m.recursiveCalls > 0 then .linear else .constant
  | .structured => if m.newCollections > 0 then .linear else .constant

def classify (m : Metrics) : Complexity :=
  ⟨m.timeClass, m.spaceClass, m.evidence⟩

end Metrics

def Complexity.toJson (c : Complexity) : Json :=
  .object
    [("time", .text c.time.label), ("space", .text c.space.label),
      ("evidence", .array (c.evidence.map .text))]

end CodeGauge
