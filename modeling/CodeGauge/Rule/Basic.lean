import CodeGauge.CodeUnit
import CodeGauge.Issue
import CodeGauge.Text.Numeral

/-!
Rules and the engines that run them. A rule looks at a unit and may report one issue; an engine
holds the rules of one family for one language in the order of their priority and reports the first
issue. A rule that fails counts as one that finds nothing.
-/
namespace CodeGauge

/-- Why a rule could not be applied. -/
inductive RuleFault where
  /-- A size in the text is too long to be read. -/
  | size (error : NumeralError)
  | failed (reason : Text)
deriving Repr, DecidableEq

def RuleFault.message : RuleFault → Text
  | size error => error.message
  | failed reason => reason

structure Rule where
  name : Text
  check : CodeUnit → Except RuleFault (Option Issue)

/-- The issue of the first rule that finds one. -/
def firstIssue (u : CodeUnit) : List Rule → Option Issue
  | [] => none
  | rule :: rest =>
    match rule.check u with
    | .ok (some issue) => some issue
    | .ok none => firstIssue u rest
    | .error _ => firstIssue u rest

/-- Units with more characters than this are not looked at, unless another limit is given. -/
def defaultMaxUnitSize : Int := 10000

structure RuleEngine where
  family : Text
  language : Text
  rules : List Rule
  maxUnitSize : Int := defaultMaxUnitSize

namespace RuleEngine

/-- The first issue in a unit that does not exceed the limit: the given one, or the engine's. -/
def evaluate (e : RuleEngine) (u : CodeUnit) (limit : Option Int := none) : Option Issue :=
  if limit.getD e.maxUnitSize < u.size then none else firstIssue u e.rules

def ruleNames (e : RuleEngine) : List Text :=
  e.rules.map Rule.name

end RuleEngine

end CodeGauge
