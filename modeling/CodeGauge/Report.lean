import CodeGauge.Complexity
import CodeGauge.Issue

/-!
What one analysis of a code unit produces.
-/
namespace CodeGauge

structure Report where
  unitId : Text
  language : Text
  complexity : Option Complexity := none
  performance : Option Issue := none
  security : Option Issue := none
  metadata : List (Text × Json) := []

namespace Report

/-- The findings, those about performance first. -/
def issues (r : Report) : List Issue :=
  r.performance.toList ++ r.security.toList

def toJson (r : Report) : Json :=
  .object
    [("unit_id", .text r.unitId), ("language", .text r.language),
      ("complexity", (r.complexity.map Complexity.toJson).getD .null),
      ("performance", (r.performance.map Issue.toJson).getD .null),
      ("security", (r.security.map Issue.toJson).getD .null),
      ("metadata", .object r.metadata)]

end Report

end CodeGauge
