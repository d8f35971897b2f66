import CodeGauge.Lexicon.All
import CodeGauge.Rule.Security

/-!
The engines that are registered, at most one for each family and lower-cased language. A language
without an engine has no issues.
-/
namespace CodeGauge

namespace RuleEngine

/-- The family and the lower-cased language under which an engine is found. -/
def key (e : RuleEngine) : Text × Text :=
  (e.family, e.language.lower)

end RuleEngine

structure RuleRegistry where
  engines : List RuleEngine

namespace RuleRegistry

/-- Takes the place of the engine with the same key, or comes last when there is none. -/
def register (r : RuleRegistry) (e : RuleEngine) : RuleRegistry :=
  if r.engines.any (·.key = e.key) then
    ⟨r.engines.map fun old => if old.key = e.key then e else old⟩
  else ⟨r.engines ++ [e]⟩

def get? (r : RuleRegistry) (family language : Text) : Option RuleEngine :=
  r.engines.find? (·.key = (family, language.lower))

/-- The first issue that the engine for the unit's language finds. -/
def evaluate (r : RuleRegistry) (family : Text) (u : CodeUnit) (limit : Option Int := none) :
    Option Issue :=
  match r.get? family u.language with
  | some e => e.evaluate u limit
  | none => none

/-- The lower-cased languages with an engine of the family, in order. -/
def languages (r : RuleRegistry) (family : Text) : List Text :=
  ((r.engines.filter (·.family = family)).map (·.language.lower)).mergeSort Text.precedes

end RuleRegistry

/-- The family of the rules about speed and resources. -/
def performanceFamily : Text := "performance"

/-- The family of the rules about safety. -/
def securityFamily : Text := "security"

namespace Lexicon

def performanceEngine (lex : Lexicon) : RuleEngine :=
  { family := performanceFamily, language := lex.language, rules := lex.performanceRules }

def securityEngine (lex : Lexicon) : RuleEngine :=
  { family := securityFamily, language := lex.language, rules := lex.securityRules }

end Lexicon

/-- Both engines for every language with a lexicon. -/
def RuleRegistry.builtIn : RuleRegistry :=
  ⟨Lexicon.all.map Lexicon.performanceEngine ++ Lexicon.all.map Lexicon.securityEngine⟩

end CodeGauge
