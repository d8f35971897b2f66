import CodeGauge.Lexicon.Python
import CodeGauge.Proofs.Pattern.Found
import CodeGauge.Proofs.Rule.Literal
import CodeGauge.Proofs.Text.Sigma
import CodeGauge.Rule.Security

/-!
SQL in string literals, in units without a tree. Before the literals are read the whole text is
asked for a keyword. That answers no only where no literal holds one: although a literal is
lower-cased on its own, and a sigma at its end may then take another form than in the text, the
keywords hold no sigma.
-/
namespace CodeGauge

theorem sigma_not_mem_of_mem_sqlKeywords :
    ∀ keyword ∈ sqlKeywords, 'σ' ∉ keyword ∧ 'ς' ∉ keyword := by
  decide

theorem containsSqlKeyword_iff {text : Text} :
    containsSqlKeyword text = true ↔ ∃ keyword ∈ sqlKeywords, keyword <:+: text := by
  simp only [containsSqlKeyword, Text.containsAny, List.any_eq_true, Text.occursIn_iff_infix]

/-- A keyword in a part of a text is a keyword in the text. -/
theorem containsSqlKeyword_lower_of_infix {part text : Text} (hpart : part <:+: text)
    (h : containsSqlKeyword part.lower = true) : containsSqlKeyword text.lower = true := by
  obtain ⟨keyword, hkeyword, hinfix⟩ := containsSqlKeyword_iff.mp h
  have hplain := sigma_not_mem_of_mem_sqlKeywords keyword hkeyword
  exact containsSqlKeyword_iff.mpr
    ⟨keyword, hkeyword, Text.infix_lower_of_infix hplain hpart hinfix⟩

namespace Lexicon

/-- In a unit without a tree an injection is reported exactly when the text is put together from
parts and a string literal holds a keyword; the keywords of the text itself do not matter. -/
theorem sqlInjection?_eq_some_iff (lex : Lexicon) {u : CodeUnit} (htree : u.tree = none)
    (issue : Issue) : lex.sqlInjection? u = some issue ↔
      (u.lowerText.containsAny lex.concatMarkers = true ∧
        ∃ literal ∈ u.stringLiterals, containsSqlKeyword literal.lower = true) ∧
      issue = lex.issue .sqlInjection .critical .sqlInjection := by
  have hearly : (∃ literal ∈ u.stringLiterals, containsSqlKeyword literal.lower = true) →
      containsSqlKeyword u.lowerText = true := by
    rintro ⟨literal, hliteral, hkeyword⟩
    exact containsSqlKeyword_lower_of_infix
      (CodeUnit.infix_text_of_mem_stringLiterals htree hliteral) hkeyword
  simp only [sqlInjection?, Option.ite_none_right_eq_some, Bool.and_eq_true, List.any_eq_true,
    Option.some.injEq, eq_comm (a := issue)]
  refine and_congr_left' ?_
  constructor
  · rintro ⟨⟨-, hmarkers⟩, hliterals⟩
    exact ⟨hmarkers, hliterals⟩
  · rintro ⟨hmarkers, hliterals⟩
    exact ⟨⟨hearly hliterals, hmarkers⟩, hliterals⟩

namespace Town

/-- A letter stands behind the quote, so the last sigma of the literal ends no word of the text. -/
def unit : CodeUnit where
  id := "u"
  language := "python"
  text := "run('DELETE FROM ΟΔΟΣ'if done else query + key)"

def literal : Text := "DELETE FROM ΟΔΟΣ"

theorem literal_mem : literal ∈ unit.stringLiterals := by
  decide +kernel

end Town

open Town in
/-- The literal in lower case is no part of the text in lower case, but its keyword is. -/
theorem sqlInjection?_eq_some_iff_of_town :
    (unit.tree = none ∧ ¬literal.lower <:+: unit.lowerText) ∧
      python.sqlInjection? unit = some (python.issue .sqlInjection .critical .sqlInjection) := by
  have hkeyword : containsSqlKeyword literal.lower = true := by decide +kernel
  have hmarkers : unit.lowerText.containsAny python.concatMarkers = true := by decide +kernel
  refine ⟨⟨rfl, by decide +kernel⟩, (sqlInjection?_eq_some_iff python rfl _).mpr ?_⟩
  exact ⟨⟨hmarkers, literal, literal_mem, hkeyword⟩, rfl⟩

end Lexicon

end CodeGauge
