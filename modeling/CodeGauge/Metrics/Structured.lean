import CodeGauge.CodeUnit
import CodeGauge.Metrics.Basic
import CodeGauge.Metrics.Halving
import CodeGauge.Syntax.Walk

/-!
Metrics of a syntax tree, gathered in one walk. The walk carries the loop depth along: a loop raises
it in front of its children and lowers it behind them.

Every tree is walked to its end. No node of this type makes the walk fail, and a limit to the depth
of calls, at which a walk would stop with what it has gathered, is left out.
-/
namespace CodeGauge

/-- Calls that run a function over a whole stream. -/
def streamCalls : List Text :=
  ["stream", "parallelStream", "map", "filter", "forEach"]

def sortingCalls : List Text :=
  ["sort", "sorted", "mergeSort", "heapSort", "quickSort", "merge_sort", "heap_sort", "quick_sort"]

/-- Parts of a type name that tell a collection. -/
def collectionMarkers : List Text :=
  ["List", "Map", "Set"]

/-- The function whose self-calls are counted, and whether it calls itself more than once. -/
structure SelfCalls where
  name : Text
  repeated : Bool
deriving Repr, DecidableEq

namespace Metrics

def noteSelfCall (m : Metrics) (self : SelfCalls) : Metrics :=
  { m with
    recursiveCalls := m.recursiveCalls + 1
    doubleRecursiveCalls := m.doubleRecursiveCalls + if self.repeated then 1 else 0 }

def noteCall (m : Metrics) (self : SelfCalls) (call : NodeLabel) : Metrics :=
  let m := if call.isCallTo self.name then m.noteSelfCall self else m
  { m with
    streamOps := m.streamOps + if streamCalls.contains call.name then 1 else 0
    hasLogarithmicPattern :=
      m.hasLogarithmicPattern || call.name = ("binarySearch" : Text) ||
        Text.occursIn "log" call.name
    hasSortingPattern := m.hasSortingPattern || sortingCalls.contains call.name
    hasFactorialPattern := m.hasFactorialPattern || Text.occursIn "permut" call.name.lower }

def noteAllocation (m : Metrics) (allocation : NodeLabel) : Metrics :=
  { m with
    newCollections :=
      m.newCollections + if allocation.name.containsAny collectionMarkers then 1 else 0 }

/-- Flags a counted loop whose range shrinks by a factor. -/
def noteHalving (m : Metrics) (loop : NodeLabel) : Metrics :=
  let halving := loop.kind.isCounted && Halving.isHalving loop.iteration
  { m with
    hasBinarySearchPattern := m.hasBinarySearchPattern || halving
    hasLogarithmicPattern := m.hasLogarithmicPattern || halving }

end Metrics

/-- How far a walk has come: the metrics so far, and how many loops enclose the place. -/
structure Traversal where
  metrics : Metrics := { mode := .structured }
  depth : Nat := 0
deriving Repr, DecidableEq

namespace Traversal

def enterLoop (s : Traversal) : Traversal where
  metrics :=
    { s.metrics with
      loopCount := s.metrics.loopCount + 1
      maxNestedDepth := max s.metrics.maxNestedDepth (s.depth + 1) }
  depth := s.depth + 1

def exitLoop (s : Traversal) : Traversal :=
  { s with depth := s.depth - 1 }

/-- What happens in front of the children of a node. -/
def enter (s : Traversal) (self : SelfCalls) (l : NodeLabel) : Traversal :=
  if l.kind.isLoop then enterLoop { s with metrics := s.metrics.noteHalving l }
  else
    match l.kind with
    | .call => { s with metrics := s.metrics.noteCall self l }
    | .allocation => { s with metrics := s.metrics.noteAllocation l }
    | _ => s

/-- What happens behind the children of a node. -/
def leave (s : Traversal) (l : NodeLabel) : Traversal :=
  if l.kind.isLoop then s.exitLoop else s

mutual

/-- Goes through a tree. -/
def visit (self : SelfCalls) (s : Traversal) : SyntaxNode → Traversal
  | .node l children => (visitAll self (s.enter self l) children).leave l

/-- Goes through several trees, from left to right. -/
def visitAll (self : SelfCalls) (s : Traversal) : List SyntaxNode → Traversal
  | [] => s
  | n :: rest => visitAll self (visit self s n) rest

end

end Traversal

/-- The metrics of a tree whose function has the given name, or else the name of the root. -/
def Metrics.ofTree (root : SyntaxNode) (name : Text) : Metrics :=
  let name := if name.isEmpty then root.name else name
  let self : SelfCalls := ⟨name, 2 ≤ (root.callsTo name).length⟩
  (Traversal.visit self {} root).metrics

/-- The metrics of the unit's tree; all zero without one. -/
def CodeUnit.treeMetrics (u : CodeUnit) : Metrics :=
  match u.tree with
  | some root => Metrics.ofTree root u.name
  | none => { mode := .structured }

end CodeGauge
