import CodeGauge.Json

/-!
The findings that rules report.
-/
namespace CodeGauge

inductive Severity where
  | critical
  | high
  | medium
  | low
deriving Repr, DecidableEq

namespace Severity

def all : List Severity := [critical, high, medium, low]

def label : Severity → Text
  | critical => "CRITICAL"
  | high => "HIGH"
  | medium => "MEDIUM"
  | low => "LOW"

end Severity

inductive IssueCategory where
  | nPlusOneQuery
  | inefficientCollectionOps
  | memoryLeakRisk
  | blockingMainThread
  | largeAllocation
  | boxingOverhead
  | sqlInjection
  | hardcodedCredentials
  | pathTraversal
  | insecureRandom
  | commandInjection
  | crossSiteScripting
deriving Repr, DecidableEq

namespace IssueCategory

def all : List IssueCategory :=
  [nPlusOneQuery, inefficientCollectionOps, memoryLeakRisk, blockingMainThread, largeAllocation,
    boxingOverhead, sqlInjection, hardcodedCredentials, pathTraversal, insecureRandom,
    commandInjection, crossSiteScripting]

def label : IssueCategory → Text
  | nPlusOneQuery => "n_plus_one_query"
  | inefficientCollectionOps => "inefficient_collection_ops"
  | memoryLeakRisk => "memory_leak_risk"
  | blockingMainThread => "blocking_main_thread"
  | largeAllocation => "large_allocation"
  | boxingOverhead => "boxing_overhead"
  | sqlInjection => "sql_injection"
  | hardcodedCredentials => "hardcoded_credentials"
  | pathTraversal => "path_traversal"
  | insecureRandom => "insecure_random"
  | commandInjection => "command_injection"
  | crossSiteScripting => "xss"

/-- Whether the finding is about safety rather than speed. -/
def isSecurity : IssueCategory → Bool
  | sqlInjection | hardcodedCredentials | pathTraversal | insecureRandom | commandInjection
  | crossSiteScripting => true
  | _ => false

end IssueCategory

/-- A single finding. -/
structure Issue where
  category : IssueCategory
  message : Text
  severity : Severity
deriving Repr, DecidableEq

def Issue.toJson (i : Issue) : Json :=
  .object
    [("category", .text i.category.label), ("message", .text i.message),
      ("severity", .text i.severity.label)]

end CodeGauge
