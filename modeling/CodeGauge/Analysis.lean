import CodeGauge.Config
import CodeGauge.Metrics.Structured
import CodeGauge.Metrics.TextScan
import CodeGauge.Report
import CodeGauge.Rule.Registry

/-!
The analysis of a code unit: an estimate of its complexity, and what the rules find.
-/
namespace CodeGauge

/-- The metrics of the tree, or of the text when there is no tree. -/
def CodeUnit.metrics (u : CodeUnit) : Metrics :=
  if u.hasStructure then u.treeMetrics else u.textMetrics

/-- What a report remembers of the metrics. -/
def Metrics.metadata (m : Metrics) : List (Text × Json) :=
  [("mode", .text m.mode.label), ("metrics", m.toJson)]

/-- Makes the chosen analyses of a unit. -/
def CodeUnit.analyze (u : CodeUnit) (rules : RuleRegistry) (maxUnitSize : Int)
    (options : AnalysisOptions) : Report :=
  let metrics := if options.complexity then some u.metrics else none
  let issue (chosen : Bool) (family : Text) : Option Issue :=
    if chosen then rules.evaluate family u (some maxUnitSize) else none
  { unitId := u.id
    language := u.language
    complexity := metrics.map Metrics.classify
    performance := issue options.performance performanceFamily
    security := issue options.security securityFamily
    metadata := (metrics.map Metrics.metadata).getD [] }

/-- The analysis did not end in time. -/
inductive AnalysisError where
  | timeout
deriving Repr, DecidableEq

/-- Makes the chosen analyses within a number of seconds. Without any seconds there is no time;
otherwise the analysis ends. -/
def CodeUnit.analyzeWithin (u : CodeUnit) (rules : RuleRegistry) (maxUnitSize : Int)
    (options : AnalysisOptions) (seconds : Option Int) : Except AnalysisError Report :=
  match seconds with
  | some seconds => if seconds ≤ 0 then .error .timeout else .ok (u.analyze rules maxUnitSize options)
  | none => .ok (u.analyze rules maxUnitSize options)

end CodeGauge
