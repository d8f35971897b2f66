import CodeGauge.Report

/-!
One-line labels for estimates and findings, as an editor shows them beside a function.
-/
namespace CodeGauge

/-- Why a time class was chosen. For linear time the evidence tells loops from recursion. -/
def Complexity.reason (c : Complexity) : Text :=
  match c.time with
  | .constant => "constant time"
  | .logarithmic => "logarithmic pattern detected"
  | .linearithmic => "sorting algorithm"
  | .quadratic => "nested loops (depth 2)"
  | .cubic => "nested loops (depth 3+)"
  | .exponential => "double recursion"
  | .factorial => "factorial/permutation pattern"
  | .linear =>
    let values := readEvidence c.evidence
    if shownUnder "Loops" values > 0 then "single loop"
    else if shownUnder "Recursion" values > 0 then "recursive call"
    else "linear operation"
  | .unclassified => "detected pattern"

/-- The label of an estimate; a missing one is shown as unclassified. -/
def complexityLabel (c : Option Complexity) : Text :=
  let caption : Text := "⚙️ Complexity: "
  match c with
  | none => caption ++ TimeClass.unclassified.label
  | some c =>
    if c.time = .unclassified then caption ++ c.time.label
    else caption ++ c.time.label ++ (" - " : Text) ++ c.reason

def Severity.glyph : Severity → Text
  | .critical => "🔴"
  | .high => "🟠"
  | .medium => "🟡"
  | .low => "🔵"

def Issue.label (i : Issue) : Text :=
  let family : Text := if i.category.isSecurity then "Security" else "Performance"
  i.severity.glyph ++ (" " : Text) ++ family ++ (": " : Text) ++ i.message

/-- The labels of a report: the estimate, when there is one, before the findings. -/
def Report.labels (r : Report) : List Text :=
  (r.complexity.map fun c => complexityLabel (some c)).toList ++ r.issues.map Issue.label

end CodeGauge
