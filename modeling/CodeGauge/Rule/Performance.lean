import CodeGauge.Rule.Query

/-!
The rules about speed and resources, in the order of their priority.
-/
namespace CodeGauge

/-- Larger collections are reported. -/
def largeCollectionThreshold : Nat := 10000

/-- Larger arrays are reported. -/
def largeArrayThreshold : Nat := 100000

/-- A look-up on a repository or data access object. -/
def repositoryCall : Pattern :=
  Pattern.anyWord ["repository", "repo", "dao"] ++ Pattern.blanks ++ "." ++ Pattern.blanks ++
    Pattern.anyWord ["find", "get"] ++ Pattern.many isWord ++ Pattern.blanks ++ "("

namespace Lexicon

/-- An issue with the language's message for the key. -/
def issue (lex : Lexicon) (category : IssueCategory) (severity : Severity) (key : MessageKey) :
    Issue :=
  ⟨category, (lex.template key).unfilled, severity⟩

/-- An issue whose message shows a size. -/
def sizedIssue (lex : Lexicon) (category : IssueCategory) (severity : Severity)
    (key : MessageKey) (size : Nat) : Issue :=
  ⟨category, (lex.template key).withSize (Text.ofInt size), severity⟩

/-- A look-up that is made once per round of a loop. -/
def nPlusOneQuery? (lex : Lexicon) (u : CodeUnit) : Option Issue :=
  if (lex.loopTexts u).any fun loop =>
      repositoryCall.foundIn loop || loop.containsAny lex.queryMarkers then
    some (lex.issue .nPlusOneQuery .critical .nPlusOneQuery)
  else none

/-- Chained operations over a collection with no parallel or lazy form. -/
def inefficientCollections? (lex : Lexicon) (u : CodeUnit) : Option Issue :=
  let text := u.lowerText
  if !lex.chainPairs.isEmpty && text.containsAll lex.chainRequired &&
      lex.chainPairs.any text.containsAll &&
      lex.chainMinOps ≤ lex.chainOps.foldr (fun op n => Text.occurrences op text + n) 0 &&
      !text.containsAny lex.lazyMarkers then
    some (lex.issue .inefficientCollectionOps .medium .inefficientCollectionOps)
  else none

/-- A listener that is never removed, or else a thread, coroutine or timer that is never stopped. -/
def memoryLeakRisk? (lex : Lexicon) (u : CodeUnit) : Option Issue :=
  let text := u.lowerText
  if text.containsAny lex.listenerAdd && !text.containsAny lex.listenerRemove then
    some (lex.issue .memoryLeakRisk .high .listenerLeak)
  else if lex.threadStart.any text.containsAll && !text.containsAny lex.threadStop then
    some (lex.issue .memoryLeakRisk .high .threadLeak)
  else none

/-- A blocking call where a user interface or an event loop waits. -/
def blockingMainThread? (lex : Lexicon) (u : CodeUnit) : Option Issue :=
  let text := u.lowerText
  if (lex.uiNames.contains u.name || text.containsAny lex.uiMarkers) &&
      text.containsAny lex.blockingMarkers then
    some (lex.issue .blockingMainThread .critical .blockingMainThread)
  else none

/-- A collection, or else an array, that is allocated with a large size. -/
def largeAllocation? (lex : Lexicon) (u : CodeUnit) : Except NumeralError (Option Issue) := do
  let text := u.lowerText
  let large (size : Option Nat) (threshold : Nat) : Option Nat := size.filter (threshold < ·)
  match large (← maxSize text lex.collectionAllocation) largeCollectionThreshold with
  | some size => return some (lex.sizedIssue .largeAllocation .medium .largeAllocation size)
  | none =>
    match large (← maxSize text lex.arrayAllocation) largeArrayThreshold with
    | some size => return some (lex.sizedIssue .largeAllocation .medium .largeArrayAllocation size)
    | none => return none

/-- A collection of boxed numbers that is read or filled in a loop. -/
def boxingOverhead? (lex : Lexicon) (u : CodeUnit) : Option Issue :=
  if u.lowerText.containsAny lex.boxedTypes &&
      (lex.loopTexts u).any (·.containsAny lex.boxedAccess) then
    some (lex.issue .boxingOverhead .low .boxingOverhead)
  else none

def performanceRules (lex : Lexicon) : List Rule :=
  [⟨"n_plus_one_query", fun u => .ok (lex.nPlusOneQuery? u)⟩,
    ⟨"inefficient_collection_ops", fun u => .ok (lex.inefficientCollections? u)⟩,
    ⟨"memory_leak_risk", fun u => .ok (lex.memoryLeakRisk? u)⟩,
    ⟨"blocking_main_thread", fun u => .ok (lex.blockingMainThread? u)⟩,
    ⟨"large_allocation", fun u => (lex.largeAllocation? u).mapError .size⟩,
    ⟨"boxing_overhead", fun u => .ok (lex.boxingOverhead? u)⟩]

end Lexicon

end CodeGauge
