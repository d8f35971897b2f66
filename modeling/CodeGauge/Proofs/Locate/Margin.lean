import CodeGauge.Locate
import CodeGauge.Proofs.Text.Margin

/-!
Positions in a source that is dedented before it is parsed. The rows of the two texts are the same,
the columns are not: the parser sees every character further to the left by the width of the margin.
The unit around a position is looked up in its column as it is, so it belongs to the character that
stands further to the right by that width.
-/
namespace CodeGauge.CodeUnit

/-- The unit around the character that stands in a line, counted from one, and a column of a source,
given the tree of the source without its margin. -/
def ofCharacter (source language : Text) (root : ParseTree) (line column : Int) :
    Option CodeUnit :=
  let parsed : ParsedSource := ⟨.python, source.dedent, root, 0⟩
  (Grammar.python.unitAt? source.dedent root
    ⟨line - 1, column - source.sharedMargin.length⟩).map (parsed.unitOf language)

section FrontEnd

variable {frontEnds : FrontEndRegistry} {f : FrontEnd} {source language : Text} {root : ParseTree}

theorem ofSource?_python (hpython : f.grammar = .python)
    (hroot : f.parse source.dedent = some root) :
    ParsedSource.ofSource? f source = some ⟨.python, source.dedent, root, 0⟩ := by
  have hprepared : f.grammar.prepare source = source.dedent := by
    rw [hpython]
    rfl
  rw [ParsedSource.ofSource?, hprepared, hroot, hpython, Grammar.rowOffset_python, Option.map_some]

/-- On a line of the source the unit is that of the character as far to the right of the position as
the margin is wide; that character stands at the position in the text that is parsed. Without a
margin it is the character at the position itself. -/
theorem locate_eq_ofCharacter (hf : frontEnds.find? (Language.normalize language) = some f)
    (hpython : f.grammar = .python) (hroot : f.parse source.dedent = some root) :
    (∀ line column : Int, 1 ≤ line → line ≤ source.lines.length →
      locate frontEnds source language line column =
        ofCharacter source (Language.normalize language) root line
          (column + source.sharedMargin.length)) ∧
    (∀ line column : Int, line < 1 ∨ source.lines.length < line →
      locate frontEnds source language line column = none) ∧
    ∀ (row column : Nat) (text : Text), (Text.pieces '\n' source)[row]? = some text →
      text.isUnblank = true → source.sharedMargin <+: text ∧
        source.dedent.charAt? row column =
          source.charAt? row (column + source.sharedMargin.length) := by
  refine ⟨?inside, ?outside, ?characters⟩
  case inside =>
    intro line column hfirst hlast
    have hrange : ¬(line < 1 || (source.lines.length : Int) < line) = true := by
      rw [Bool.or_eq_true, decide_eq_true_iff, decide_eq_true_iff]
      omega
    simp only [locate, if_neg hrange, hf, ofSource?_python hpython hroot]
    rw [ParsedSource.unitAt?, ofCharacter, Int.add_sub_cancel, Int.natCast_zero, Int.add_zero]
  case outside =>
    intro line column hline
    have hrange : (line < 1 || (source.lines.length : Int) < line) = true := by
      rwa [Bool.or_eq_true, decide_eq_true_iff, decide_eq_true_iff]
    simp only [locate, if_pos hrange]
  case characters =>
    intro row column text htext hunblank
    have hmem := List.mem_of_getElem? htext
    exact ⟨Text.sharedMargin_prefix hmem hunblank, Text.charAt?_dedent htext hunblank column⟩

end FrontEnd

namespace Indented

/-- A method that was lifted out of a class. -/
def source : Text := "    def f(x):\n        return x\n"

/-- The tree of the source without its margin. -/
def root : ParseTree :=
  .node { type := "module", start := 0, stop := 23 }
    [.node { type := "function_definition", start := 0, stop := 22 }
      [.node { type := "identifier", start := 4, stop := 5, field := some "name" } []]]

def frontEnd : FrontEnd :=
  ⟨.python, some fun _ => some root⟩

def registry : FrontEndRegistry :=
  .ofParsers fun _ => frontEnd.parser

theorem find?_python : registry.find? (Language.normalize "python") = some frontEnd :=
  rfl

end Indented

open Indented in
/-- The last character of the function is found four columns to the left of where it stands. -/
theorem locate_eq_ofCharacter_of_indented :
    locate registry source "python" 2 11 = ofCharacter source "python" root 2 15 ∧
      locate registry source "python" 3 0 = none ∧
      source.dedent.charAt? 1 11 = source.charAt? 1 15 := by
  have hroot : frontEnd.parse source.dedent = some root := rfl
  have hmargin : source.sharedMargin.length = 4 := by decide +kernel
  have hlines : source.lines.length = 2 := by decide +kernel
  obtain ⟨hinside, houtside, hcharacters⟩ := locate_eq_ofCharacter find?_python rfl hroot
  rw [hmargin, hlines] at hinside
  rw [hlines] at houtside
  rw [hmargin] at hcharacters
  refine ⟨hinside 2 11 (by decide) (by decide), houtside 3 0 (by decide), ?_⟩
  exact (hcharacters 1 11 "        return x" (by decide +kernel) (by decide +kernel)).2

open Indented in
/-- The character at the position lies in the function, and yet nothing is located there. -/
theorem locate_ne_ofCharacter_of_indented :
    source.charAt? 1 15 = some 'x' ∧
      (ofCharacter source "python" root 2 15).map (·.id) = some ("python:f@1" : Text) ∧
      locate registry source "python" 2 15 = none := by
  refine ⟨by decide +kernel, by decide +kernel, Option.isNone_iff_eq_none.mp ?_⟩
  decide +kernel

end CodeGauge.CodeUnit
