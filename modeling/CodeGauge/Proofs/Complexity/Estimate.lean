import CodeGauge.Analysis
import CodeGauge.Proofs.Complexity.Signal
import CodeGauge.Proofs.Metrics.TextScan
import CodeGauge.Proofs.Metrics.Tree

/-!
The estimate of a code unit. Whatever was measured has a time class, and code that is added without
a change of the logarithmic pattern lowers neither the time class nor the space class.
-/
namespace CodeGauge

theorem CodeUnit.coherent_metrics (u : CodeUnit) : u.metrics.Coherent := by
  rw [CodeUnit.metrics, CodeUnit.hasStructure, CodeUnit.treeMetrics]
  cases u.tree with
  | none => exact (TextScan.sound_metrics u.text u.name).1
  | some root => exact Metrics.coherent_ofTree root u.name

/-- The last rung of the cascade is out of reach for a unit, with a tree or without one. -/
theorem CodeUnit.classify_time_ne_unclassified (u : CodeUnit) :
    u.metrics.classify.time ≠ .unclassified :=
  u.coherent_metrics.timeClass_ne_unclassified

/-- Adding code never lowers the estimate while the logarithmic pattern stays: neither a subtree
added anywhere in a tree, nor text added behind the last line. -/
theorem Metrics.estimate_mono :
    (∀ (t t' : SyntaxNode) (name : Text), t.GrowsTo t' →
      (ofTree t name).hasLogarithmicPattern = (ofTree t' name).hasLogarithmicPattern →
        (ofTree t name).timeClass.atMost (ofTree t' name).timeClass ∧
          ((ofTree t name).spaceClass = .linear → (ofTree t' name).spaceClass ≠ .constant)) ∧
    (∀ before after name : Text, (before = [] ∨ ∃ text, before = text ++ ['\n']) →
      (TextScan.metrics before name).hasLogarithmicPattern =
          (TextScan.metrics (before ++ after) name).hasLogarithmicPattern →
        (TextScan.metrics before name).timeClass.atMost
            (TextScan.metrics (before ++ after) name).timeClass ∧
          ((TextScan.metrics before name).spaceClass = .linear →
            (TextScan.metrics (before ++ after) name).spaceClass ≠ .constant)) := by
  constructor
  · intro t t' name hgrows hlog
    have hwithin := ofTree_within hgrows name
    exact ⟨hwithin.timeClass_atMost (coherent_ofTree t name) (coherent_ofTree t' name) hlog,
      hwithin.spaceClass_ne_constant⟩
  · intro before after name hbefore hlog
    have hwithin := TextScan.metrics_within_append after name hbefore
    have hsound := (TextScan.sound_metrics before name).1
    have hsound' := (TextScan.sound_metrics (before ++ after) name).1
    exact ⟨hwithin.timeClass_atMost hsound hsound' hlog, hwithin.spaceClass_ne_constant⟩

namespace LoopingSelfCall

def selfCall : SyntaxNode := .node { kind := .call, name := "f" } []

/-- A function `f` with a loop around the given nodes. -/
def looping (body : List SyntaxNode) : SyntaxNode :=
  .node { kind := .function, name := "f" } [.node { kind := .whileLoop } body]

theorem looping_growsTo : (looping [selfCall]).GrowsTo (looping [selfCall, selfCall]) :=
  .inside _ [] [] (.here _ [selfCall] [] selfCall)

theorem looping_logarithmic :
    (Metrics.ofTree (looping [selfCall]) []).hasLogarithmicPattern =
      (Metrics.ofTree (looping [selfCall, selfCall]) []).hasLogarithmicPattern := by
  rw [Metrics.ofTree_eq_tally, Metrics.ofTree_eq_tally]
  decide

def header : Text := "while x\n"

def call : Text := "f(x)"

end LoopingSelfCall

open LoopingSelfCall in
/-- A second call of itself, and a line with a call. -/
theorem Metrics.estimate_mono_of_self_calls :
    ((looping [selfCall]).GrowsTo (looping [selfCall, selfCall]) ∧
      (ofTree (looping [selfCall]) []).timeClass.atMost
        (ofTree (looping [selfCall, selfCall]) []).timeClass ∧
      ((ofTree (looping [selfCall]) []).spaceClass = .linear →
        (ofTree (looping [selfCall, selfCall]) []).spaceClass ≠ .constant)) ∧
    (TextScan.metrics header "f").hasLogarithmicPattern =
        (TextScan.metrics (header ++ call) "f").hasLogarithmicPattern ∧
      (TextScan.metrics header "f").timeClass.atMost
        (TextScan.metrics (header ++ call) "f").timeClass ∧
      ((TextScan.metrics header "f").spaceClass = .linear →
        (TextScan.metrics (header ++ call) "f").spaceClass ≠ .constant) := by
  have hlog : (TextScan.metrics header "f").hasLogarithmicPattern =
      (TextScan.metrics (header ++ call) "f").hasLogarithmicPattern := by decide
  have htree := estimate_mono.1 _ _ [] looping_growsTo looping_logarithmic
  have htext := estimate_mono.2 header call "f" (Or.inr ⟨"while x", rfl⟩) hlog
  exact ⟨⟨looping_growsTo, htree⟩, hlog, htext⟩

end CodeGauge
