import CodeGauge.Json
import CodeGauge.Text.Numeral

/-!
The measurements taken of one code unit, and the evidence lines that show them.
-/
namespace CodeGauge

/-- What was measured: a syntax tree, or the text alone. -/
inductive AnalysisMode where
  | structured
  | text
deriving Repr, DecidableEq

def AnalysisMode.label : AnalysisMode → Text
  | .structured => "structured"
  | .text => "text"

structure Metrics where
  loopCount : Int := 0
  maxNestedDepth : Int := 0
  recursiveCalls : Int := 0
  doubleRecursiveCalls : Int := 0
  streamOps : Int := 0
  newCollections : Int := 0
  hasLogarithmicPattern : Bool := false
  hasSortingPattern : Bool := false
  hasFactorialPattern : Bool := false
  hasBinarySearchPattern : Bool := false
  mode : AnalysisMode := .structured
deriving Repr, DecidableEq

namespace Metrics

/-- The counters that are shown, with their captions. Text alone shows neither stream operations nor
collections. -/
def shown (m : Metrics) : List (Text × Int) :=
  match m.mode with
  | .structured =>
    [("Loops", m.loopCount), ("Max depth", m.maxNestedDepth), ("Streams", m.streamOps),
      ("Recursion", m.recursiveCalls), ("Double recursion", m.doubleRecursiveCalls),
      ("Collections", m.newCollections)]
  | .text =>
    [("Loops", m.loopCount), ("Max depth", m.maxNestedDepth), ("Recursion", m.recursiveCalls),
      ("Double recursion", m.doubleRecursiveCalls)]

/-- A caption and a counter as one line. -/
def evidenceLine (entry : Text × Int) : Text :=
  entry.1 ++ (": " : Text) ++ Text.ofInt entry.2

def evidence (m : Metrics) : List Text :=
  m.shown.map evidenceLine

def toJson (m : Metrics) : Json :=
  .object
    [("loop_count", .int m.loopCount), ("max_nested_depth", .int m.maxNestedDepth),
      ("recursive_calls", .int m.recursiveCalls),
      ("double_recursive_calls", .int m.doubleRecursiveCalls),
      ("stream_ops", .int m.streamOps), ("new_collections", .int m.newCollections),
      ("has_logarithmic_pattern", .bool m.hasLogarithmicPattern),
      ("has_sorting_pattern", .bool m.hasSortingPattern),
      ("has_factorial_pattern", .bool m.hasFactorialPattern),
      ("has_binary_search_pattern", .bool m.hasBinarySearchPattern),
      ("mode", .text m.mode.label)]

end Metrics

/-- The caption and the number of an evidence line, when it shows one. -/
def readEvidenceLine? (line : Text) : Option (Text × Int) :=
  match Numeral.parse (Text.trim ((line.dropWhile (· != ':')).drop 1)) with
  | .ok n => some (Text.trim (line.takeWhile (· != ':')), n)
  | .error _ => none

/-- The captions and numbers that evidence lines show; other lines are passed over. -/
def readEvidence (lines : List Text) : List (Text × Int) :=
  lines.filterMap readEvidenceLine?

/-- The number shown under a caption: the last one, or zero when there is none. -/
def shownUnder (caption : Text) (values : List (Text × Int)) : Int :=
  (values.reverse.lookup caption).getD 0

end CodeGauge
