import CodeGauge.Rule.Basic

/-!
What an engine reports: the issue of the first rule that finds one, unless the unit exceeds the
limit. Rules that fail are passed over wherever they stand, rules behind the first one that finds
something are not asked, and a larger limit takes nothing away.
-/
namespace CodeGauge

namespace Rule

/-- What the rule finds in a unit; nothing when it fails. -/
def issue? (rule : Rule) (u : CodeUnit) : Option Issue :=
  match rule.check u with
  | .ok found => found
  | .error _ => none

/-- Whether the rule cannot be applied to the unit. -/
def failsOn (rule : Rule) (u : CodeUnit) : Bool :=
  match rule.check u with
  | .ok _ => false
  | .error _ => true

variable {rule : Rule} {u : CodeUnit} {issue : Issue}

theorem issue?_eq_some_iff : rule.issue? u = some issue ↔ rule.check u = .ok (some issue) := by
  rw [issue?]
  cases rule.check u with
  | ok found => simp
  | error fault => simp

theorem issue?_eq_none_iff :
    rule.issue? u = none ↔ ∀ issue, rule.check u ≠ .ok (some issue) := by
  simp only [Option.eq_none_iff_forall_ne_some, ne_eq, issue?_eq_some_iff]

theorem issue?_of_failsOn (h : rule.failsOn u = true) : rule.issue? u = none := by
  rw [failsOn] at h
  rw [issue?]
  cases hcheck : rule.check u with
  | ok found => simp [hcheck] at h
  | error fault => rfl

end Rule

section FirstIssue

variable {u : CodeUnit} {rules : List Rule} {issue : Issue}

theorem firstIssue_eq_findSome? (u : CodeUnit) (rules : List Rule) :
    firstIssue u rules = rules.findSome? (·.issue? u) := by
  induction rules with
  | nil => rfl
  | cons rule rest ih =>
    rw [firstIssue, List.findSome?_cons, Rule.issue?, ih]
    cases rule.check u with
    | ok found => cases found <;> rfl
    | error fault => rfl

/-- The rule at place `i` finds the issue when it is asked alone, and no rule before it finds
any. -/
structure FirstFinding (rules : List Rule) (u : CodeUnit) (i : Nat) (issue : Issue) : Prop where
  found : ∃ rule, rules[i]? = some rule ∧ rule.check u = .ok (some issue)
  earlier : ∀ j < i, ∀ rule, rules[j]? = some rule → ∀ other, rule.check u ≠ .ok (some other)

theorem FirstFinding.firstIssue_eq {i : Nat} (h : FirstFinding rules u i issue) :
    firstIssue u rules = some issue := by
  obtain ⟨⟨rule, hrule, hfound⟩, hearlier⟩ := h
  obtain ⟨hlt, hget⟩ := List.getElem?_eq_some_iff.mp hrule
  rw [firstIssue_eq_findSome?, List.findSome?_eq_some_iff]
  refine ⟨rules.take i, rule, rules.drop (i + 1), ?_, Rule.issue?_eq_some_iff.mpr hfound, ?_⟩
  · rw [← hget, List.getElem_cons_drop, List.take_append_drop]
  · intro before hbefore
    obtain ⟨j, hj, rfl⟩ := List.mem_take_iff_getElem.mp hbefore
    exact Rule.issue?_eq_none_iff.mpr (hearlier j (by omega) _ (List.getElem?_eq_getElem _))

theorem firstIssue_eq_some_iff :
    firstIssue u rules = some issue ↔ ∃ i, FirstFinding rules u i issue := by
  constructor
  · intro h
    rw [firstIssue_eq_findSome?, List.findSome?_eq_some_iff] at h
    obtain ⟨front, rule, back, rfl, hfound, hfront⟩ := h
    refine ⟨front.length, ⟨rule, by simp, Rule.issue?_eq_some_iff.mp hfound⟩, ?_⟩
    intro j hj before hbefore
    rw [List.getElem?_append_left hj] at hbefore
    exact Rule.issue?_eq_none_iff.mp (hfront before (List.mem_of_getElem? hbefore))
  · rintro ⟨i, h⟩
    exact h.firstIssue_eq

/-- Whatever comes behind the first finding, it stays the first. -/
theorem FirstFinding.take_append {i : Nat} (h : FirstFinding rules u i issue) (more : List Rule) :
    FirstFinding (rules.take (i + 1) ++ more) u i issue := by
  obtain ⟨⟨rule, hrule, hfound⟩, hearlier⟩ := h
  have hlt : i < rules.length := (List.getElem?_eq_some_iff.mp hrule).1
  have hsame (j : Nat) (hj : j ≤ i) : (rules.take (i + 1) ++ more)[j]? = rules[j]? := by
    rw [List.getElem?_append_left (by rw [List.length_take]; omega),
      List.getElem?_take_of_lt (by omega)]
  refine ⟨⟨rule, (hsame i (Nat.le_refl i)).trans hrule, hfound⟩, ?_⟩
  intro j hj before hbefore
  exact hearlier j hj before ((hsame j (Nat.le_of_lt hj)).symm.trans hbefore)

theorem firstIssue_filter_failsOn (u : CodeUnit) (rules : List Rule) :
    firstIssue u (rules.filter (!·.failsOn u)) = firstIssue u rules := by
  simp only [firstIssue_eq_findSome?]
  induction rules with
  | nil => rfl
  | cons rule rest ih =>
    by_cases hfails : rule.failsOn u = true
    · rw [List.filter_cons_of_neg (by simp [hfails]), ih, List.findSome?_cons,
        Rule.issue?_of_failsOn hfails]
    · rw [List.filter_cons_of_pos (by simp [hfails]), List.findSome?_cons, List.findSome?_cons, ih]

end FirstIssue

namespace RuleEngine

/-- The engine with other rules in place of its own. -/
def withRules (e : RuleEngine) (rules : List Rule) : RuleEngine :=
  { e with rules := rules }

/-- The engine with another limit of its own. -/
def withMaxUnitSize (e : RuleEngine) (size : Int) : RuleEngine :=
  { e with maxUnitSize := size }

variable {e : RuleEngine} {u : CodeUnit} {limit : Option Int}

theorem evaluate_of_lt (h : limit.getD e.maxUnitSize < u.size) : e.evaluate u limit = none :=
  if_pos h

theorem evaluate_of_le (h : u.size ≤ limit.getD e.maxUnitSize) :
    e.evaluate u limit = firstIssue u e.rules :=
  if_neg (Int.not_lt.mpr h)

theorem evaluate_withRules {rules : List Rule}
    (h : firstIssue u rules = firstIssue u e.rules) :
    (e.withRules rules).evaluate u limit = e.evaluate u limit := by
  simp only [evaluate, withRules, h]

/-- What is reported was found, and the unit does not exceed the limit. -/
theorem of_evaluate_eq_some {issue : Issue} (h : e.evaluate u limit = some issue) :
    u.size ≤ limit.getD e.maxUnitSize ∧ firstIssue u e.rules = some issue := by
  by_cases hlarge : limit.getD e.maxUnitSize < u.size
  · exact absurd h (by simp [evaluate_of_lt hlarge])
  · have hsize := Int.not_lt.mp hlarge
    exact ⟨hsize, (evaluate_of_le hsize).symm.trans h⟩

/-- An engine reports nothing for a unit above the limit, and otherwise what the first rule finds
that finds anything. So nothing changes when the rules that fail are taken away, or when other rules
come behind the first one that finds something; and what is found under one limit is found under
every larger one, whether it is given or the engine's own. -/
theorem evaluate_reports_first (e : RuleEngine) (u : CodeUnit) (limit : Option Int) :
    (limit.getD e.maxUnitSize < u.size → e.evaluate u limit = none) ∧
    (u.size ≤ limit.getD e.maxUnitSize →
      ∀ issue, e.evaluate u limit = some issue ↔ ∃ i, FirstFinding e.rules u i issue) ∧
    (e.withRules (e.rules.filter (!·.failsOn u))).evaluate u limit = e.evaluate u limit ∧
    (∀ i issue, FirstFinding e.rules u i issue → ∀ more,
      (e.withRules (e.rules.take (i + 1) ++ more)).evaluate u limit = e.evaluate u limit) ∧
    ∀ issue, e.evaluate u limit = some issue → ∀ size limit',
      limit.getD e.maxUnitSize ≤ limit'.getD size →
        (e.withMaxUnitSize size).evaluate u limit' = some issue := by
  refine ⟨evaluate_of_lt, ?first, ?failing, ?behind, ?larger⟩
  case first =>
    intro hsize issue
    rw [evaluate_of_le hsize, firstIssue_eq_some_iff]
  case failing => exact evaluate_withRules (firstIssue_filter_failsOn u e.rules)
  case behind =>
    intro i issue hfirst more
    have hextended := hfirst.take_append more
    exact evaluate_withRules (hextended.firstIssue_eq.trans hfirst.firstIssue_eq.symm)
  case larger =>
    intro issue hissue size limit' hle
    obtain ⟨hsize, hfound⟩ := of_evaluate_eq_some hissue
    rw [evaluate_of_le (e := e.withMaxUnitSize size) (Int.le_trans hsize hle)]
    exact hfound

namespace Faulty

/-- A unit of three characters. -/
def unit : CodeUnit where
  id := "u"
  language := "python"
  text := "a+b"

def slow : Issue := ⟨.boxingOverhead, "slow", .low⟩

def leak : Issue := ⟨.memoryLeakRisk, "leak", .high⟩

/-- Between two rules that fail there is one that finds nothing, and then two that find
something. -/
def engine : RuleEngine where
  family := "performance"
  language := "python"
  rules :=
    [⟨"broken", fun _ => .error (.failed "out of order")⟩,
      ⟨"silent", fun _ => .ok none⟩,
      ⟨"broken", fun _ => .error (.size .malformed)⟩,
      ⟨"slow", fun _ => .ok (some slow)⟩,
      ⟨"leak", fun _ => .ok (some leak)⟩]
  maxUnitSize := 2

theorem firstFinding : FirstFinding engine.rules unit 3 slow := by
  refine ⟨⟨_, rfl, rfl⟩, ?_⟩
  intro j hj rule hrule other
  match j, hj with
  | 0, _ | 1, _ | 2, _ =>
    obtain rfl := Option.some.inj hrule
    nofun

end Faulty

open Faulty in
/-- The unit is too large for the engine's own limit but not for a limit of three; then the fourth
rule is the one whose issue is reported, with or without the rules that fail, whatever comes behind
it, and under every limit of three or more. -/
theorem evaluate_reports_first_of_faulty :
    engine.evaluate unit = none ∧ engine.evaluate unit (some 3) = some slow ∧
      (engine.withRules (engine.rules.filter (!·.failsOn unit))).evaluate unit (some 3) =
        some slow ∧
      (∀ more, (engine.withRules (engine.rules.take 4 ++ more)).evaluate unit (some 3) =
        some slow) ∧
      ∀ size, 3 ≤ size → (engine.withMaxUnitSize size).evaluate unit = some slow := by
  obtain ⟨hlarge, -⟩ := evaluate_reports_first engine unit none
  obtain ⟨-, hfirst, hfailing, hbehind, hlarger⟩ := evaluate_reports_first engine unit (some 3)
  have hfound : engine.evaluate unit (some 3) = some slow :=
    (hfirst (by decide) slow).mpr ⟨3, firstFinding⟩
  refine ⟨hlarge (by decide), hfound, hfailing.trans hfound, ?_, ?_⟩
  · intro more
    exact (hbehind 3 slow firstFinding more).trans hfound
  · intro size hsize
    exact hlarger slow hfound size none hsize

end RuleEngine

end CodeGauge
