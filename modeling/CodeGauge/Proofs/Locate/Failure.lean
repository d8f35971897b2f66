import CodeGauge.Proofs.Locate.Agreement
import Mathlib.Logic.Function.Basic

/-!
What is left of a source that cannot be parsed. A language whose parser could not be built is read
as text. A parser that fails on the source leaves nothing to locate instead, since its front end is
still there; the unit of a snippet alone is the same in both cases.
-/
namespace CodeGauge

/-- A grammar is found under its language as long as it has a parser. -/
theorem FrontEndRegistry.find?_ofParsers (parsers : Grammar → Option Parser) (g : Grammar) :
    (ofParsers parsers).find? g.language = (parsers g).map fun p => ⟨g, some p⟩ := by
  have hnormal : Language.normalize g.language = g.language := by
    cases g <;> decide
  have hlookup : (ofParsers parsers).instances.lookup g.language = some ⟨g, parsers g⟩ := by
    cases g <;> rfl
  simp only [find?, get, hnormal, hlookup]
  cases parsers g with
  | none => rfl
  | some p => rfl

theorem ParsedSource.ofSource?_eq_none {f : FrontEnd} {source : Text}
    (hparse : f.parse (f.grammar.prepare source) = none) : ofSource? f source = none := by
  rw [ofSource?, hparse, Option.map_none]

namespace CodeUnit

section FrontEnd

variable {frontEnds textOnly : FrontEndRegistry} {f : FrontEnd} {source language : Text}

theorem locate_eq_none (hf : frontEnds.find? (Language.normalize language) = some f)
    (hparse : f.parse (f.grammar.prepare source) = none) (line column : Int) :
    locate frontEnds source language line column = none := by
  simp only [locate, hf, ParsedSource.ofSource?_eq_none hparse, ite_self]

theorem locateAll_eq_nil (hf : frontEnds.find? (Language.normalize language) = some f)
    (hparse : f.parse (f.grammar.prepare source) = none) :
    locateAll frontEnds source language = [] := by
  simp only [locateAll, hf, ParsedSource.ofSource?_eq_none hparse]

/-- The tree of a snippet can be missing for either reason. -/
theorem ofSnippet_eq_of_parse (hf : frontEnds.find? (Language.normalize language) = some f)
    (hparse : f.parse (f.grammar.prepare source) = none)
    (hnone : textOnly.find? (Language.normalize language) = none) (name id : Text) :
    ofSnippet frontEnds source language name id = ofSnippet textOnly source language name id := by
  have hsnippet : f.convertSnippet? source name = none := by
    rw [FrontEnd.convertSnippet?, hparse, Option.map_none]
  simp only [ofSnippet, hf, hnone, hsnippet]

end FrontEnd

section Text

variable {frontEnds : FrontEndRegistry} {source language : Text}

theorem locate_eq_none_iff (h : frontEnds.find? (Language.normalize language) = none)
    (line column : Int) :
    locate frontEnds source language line column = none ↔
      ∀ b ∈ Block.find source, ¬b.Spans line := by
  rw [locate_eq_innermost? h, Option.map_eq_none_iff, ← Option.not_isSome_iff_eq_none,
    Block.isSome_innermost?_iff]
  simp only [not_exists, not_and]

theorem locateAll_eq_nil_iff (h : frontEnds.find? (Language.normalize language) = none) :
    locateAll frontEnds source language = [] ↔ Block.find source = [] := by
  rw [locateAll_eq_inOrder h, List.map_eq_nil_iff, ← List.length_eq_zero_iff, Block.inOrder,
    List.length_mergeSort, List.length_eq_zero_iff]

end Text

/-- When a parser fails on a source, nothing is located in it: no unit at any position, and none in
all. Without that parser there would be a unit on each line that a block spans. The unit of a
snippet is the one that there would be without the parser. -/
theorem parse_failure_hides_units {parsers : Grammar → Option Parser} {g : Grammar} {p : Parser}
    {source language : Text} (hlanguage : Language.normalize language = g.language)
    (hp : parsers g = some p) (hfails : p (g.prepare source) = none) :
    let parsing := FrontEndRegistry.ofParsers parsers
    let textOnly := FrontEndRegistry.ofParsers (Function.update parsers g none)
    (∀ line column, locate parsing source language line column = none ∧
      (locate textOnly source language line column = none ↔
        ∀ b ∈ Block.find source, ¬b.Spans line)) ∧
    (locateAll parsing source language = [] ∧
      (locateAll textOnly source language = [] ↔ Block.find source = [])) ∧
    ∀ name id, ofSnippet parsing source language name id =
      ofSnippet textOnly source language name id := by
  intro parsing textOnly
  have hfound : parsing.find? (Language.normalize language) = some ⟨g, some p⟩ := by
    rw [hlanguage, FrontEndRegistry.find?_ofParsers, hp, Option.map_some]
  have hnone : textOnly.find? (Language.normalize language) = none := by
    rw [hlanguage, FrontEndRegistry.find?_ofParsers, Function.update_self, Option.map_none]
  refine ⟨?position, ?all, ?snippet⟩
  case position =>
    intro line column
    exact ⟨locate_eq_none hfound hfails line column, locate_eq_none_iff hnone line column⟩
  case all => exact ⟨locateAll_eq_nil hfound hfails, locateAll_eq_nil_iff hnone⟩
  case snippet =>
    intro name id
    exact ofSnippet_eq_of_parse hfound hfails hnone name id

namespace FailingParse

def source : Text := "def f(x):\n    return x\n"

def failing : Parser :=
  fun _ => none

def parsers : Grammar → Option Parser :=
  fun _ => some failing

def parsing : FrontEndRegistry := .ofParsers parsers

def textOnly : FrontEndRegistry := .ofParsers (Function.update parsers .python none)

end FailingParse

open FailingParse in
/-- Both lines of the function are hidden, although it is there to be read. -/
theorem parse_failure_hides_units_of_source :
    locate parsing source "python" 1 = none ∧ locate parsing source "python" 2 = none ∧
      locateAll parsing source "python" = [] ∧ locateAll textOnly source "python" ≠ [] := by
  have hlanguage : Language.normalize "python" = Grammar.python.language := by decide
  have hp : parsers .python = some failing := rfl
  have hfails : failing (Grammar.python.prepare source) = none := rfl
  obtain ⟨hposition, ⟨hparsing, htext⟩, -⟩ := parse_failure_hides_units hlanguage hp hfails
  refine ⟨(hposition 1 0).1, (hposition 2 0).1, hparsing, ?_⟩
  intro hnone
  exact absurd (htext.mp hnone) (by decide +kernel)

open FailingParse in
/-- A parser that fails and one that could not be built do not lead to the same units. -/
theorem locate_parsing_ne_locate_textOnly :
    locate parsing source "python" 1 ≠ locate textOnly source "python" 1 ∧
      locateAll parsing source "python" ≠ locateAll textOnly source "python" := by
  have hlocate : (locate parsing source "python" 1).isSome = false ∧
      (locate textOnly source "python" 1).isSome = true := by
    decide +kernel
  have hall : (locateAll parsing source "python").isEmpty = true ∧
      (locateAll textOnly source "python").isEmpty = false := by
    decide +kernel
  constructor
  · intro heq
    rw [heq] at hlocate
    exact Bool.false_ne_true (hlocate.1.symm.trans hlocate.2)
  · intro heq
    rw [heq] at hall
    exact Bool.false_ne_true (hall.2.symm.trans hall.1)

end CodeUnit

end CodeGauge
