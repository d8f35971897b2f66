import CodeGauge.Proofs.Block.Span
import CodeGauge.Proofs.ParseTree.Path

/-!
The unit around a position is one of the units of the file. On the text path it belongs to the
latest block that spans the line; through a front end it is a function of the tree, or a declaration
where no function is on the way down.
-/
namespace CodeGauge.CodeUnit

variable {frontEnds : FrontEndRegistry} {source language : Text} {line column : Int}

section Text

/-- The check that the line is one of the source hides no block. -/
theorem locate_eq_innermost? (h : frontEnds.find? (Language.normalize language) = none) :
    locate frontEnds source language line column =
      (Block.innermost? line (Block.find source)).map (ofBlock (Language.normalize language)) := by
  simp only [locate, h]
  by_cases hrange : (line < 1 || (source.lines.length : Int) < line) = true
  · have hnone : Block.innermost? line (Block.find source) = none := by
      rw [← Option.not_isSome_iff_eq_none, Block.isSome_innermost?_iff]
      rintro ⟨b, hb, hspans⟩
      have hline := hspans.line_mem hb
      rw [Bool.or_eq_true, decide_eq_true_iff, decide_eq_true_iff] at hrange
      omega
    rw [if_pos hrange, hnone, Option.map_none]
  · rw [if_neg hrange]

theorem locateAll_eq_inOrder (h : frontEnds.find? (Language.normalize language) = none) :
    locateAll frontEnds source language =
      (Block.inOrder (Block.find source)).map (ofBlock (Language.normalize language)) := by
  simp only [locateAll, h]

end Text

section FrontEnd

variable {f : FrontEnd} {u : CodeUnit}

theorem exists_site_of_locate (hf : frontEnds.find? (Language.normalize language) = some f)
    (h : locate frontEnds source language line column = some u) :
    ∃ parsed s, ParsedSource.ofSource? f source = some parsed ∧
      parsed.grammar.unitAt? parsed.prepared parsed.root
        ⟨line - 1 + parsed.rowOffset, column⟩ = some s ∧
      u = parsed.unitOf (Language.normalize language) s := by
  simp only [locate, hf] at h
  split at h
  · exact absurd h (by simp)
  · cases hparsed : ParsedSource.ofSource? f source with
    | none => exact absurd h (by simp [hparsed])
    | some parsed =>
      simp only [hparsed, ParsedSource.unitAt?, Option.map_eq_some_iff] at h
      obtain ⟨s, hs, rfl⟩ := h
      exact ⟨parsed, s, rfl, hs, rfl⟩

theorem mem_locateAll {parsed : ParsedSource} {s : Site}
    (hf : frontEnds.find? (Language.normalize language) = some f)
    (hparsed : ParsedSource.ofSource? f source = some parsed)
    (hs : s ∈ parsed.grammar.units parsed.root) :
    parsed.unitOf (Language.normalize language) s ∈ locateAll frontEnds source language := by
  simp only [locateAll, hf, hparsed, ParsedSource.units]
  exact List.mem_map_of_mem hs

end FrontEnd

/-- `locate` and `locateAll` agree. On the text path a line has a unit exactly when a block spans it,
and the unit is then that element of all units whose block opens last. Through a front end a unit is
one of all units when its node is a function; any other is a declaration, and no node on the way
from the root down to the point is a function. -/
theorem locate_agrees_with_locateAll (frontEnds : FrontEndRegistry) (source language : Text)
    (line column : Int) :
    (frontEnds.find? (Language.normalize language) = none →
      ((locate frontEnds source language line column).isSome ↔
        ∃ b ∈ Block.find source, b.Spans line) ∧
      ∀ u, locate frontEnds source language line column = some u →
        ∃ (i : Nat) (b : Block), (Block.inOrder (Block.find source))[i]? = some b ∧
          (locateAll frontEnds source language)[i]? = some u ∧ b.Spans line ∧
          ∀ b' ∈ Block.find source, b'.Spans line → b' ≠ b → b'.startLine < b.startLine) ∧
    ∀ f, frontEnds.find? (Language.normalize language) = some f →
      ∀ u, locate frontEnds source language line column = some u →
        ∃ parsed s, ParsedSource.ofSource? f source = some parsed ∧
          u = parsed.unitOf (Language.normalize language) s ∧
          let way := parsed.root.pathTo parsed.prepared ⟨line - 1 + parsed.rowOffset, column⟩ none
          way.head? = some ⟨none, parsed.root⟩ ∧ way.IsChain ParseTree.IsStep ∧ s ∈ way ∧
          (parsed.grammar.isUnit s = true → u ∈ locateAll frontEnds source language) ∧
          (parsed.grammar.isUnit s = false → parsed.grammar.isDeclarationUnit s.node = true ∧
            ∀ s' ∈ way, parsed.grammar.isUnit s' = false) := by
  constructor
  · intro hnone
    rw [locate_eq_innermost? hnone, locateAll_eq_inOrder hnone]
    constructor
    · rw [Option.isSome_map, Block.isSome_innermost?_iff]
    · intro u hu
      obtain ⟨b, hb, rfl⟩ := Option.map_eq_some_iff.mp hu
      obtain ⟨i, hi⟩ := Block.exists_getElem?_inOrder hb
      obtain ⟨-, hspans, hlatest⟩ := Block.innermost?_find_eq_some hb
      exact ⟨i, b, hi, by rw [List.getElem?_map, hi, Option.map_some], hspans, hlatest⟩
  · intro f hf u hu
    obtain ⟨parsed, s, hparsed, hs, rfl⟩ := exists_site_of_locate hf hu
    obtain ⟨hway, hdeclaration⟩ := Grammar.unitAt?_eq_some hs
    refine ⟨parsed, s, hparsed, rfl, ?_, ?_, hway, ?_, hdeclaration⟩
    · exact ParseTree.head?_pathTo _ _ none parsed.root
    · exact ParseTree.isChain_pathTo _ _ none parsed.root
    · intro hunit
      exact mem_locateAll hf hparsed (Grammar.mem_units_of_unitAt? hs hunit)

namespace ProgramAndScript

/-- A function in a language without a parser. -/
def program : Text := "fun f() \x7b\n\x7d"

/-- An assignment, and then a function. -/
def script : Text := "x = 1\ndef f(): g"

def scriptTree : ParseTree :=
  .node { type := "module", start := 0, stop := 16 }
    [.node { type := "assignment", start := 0, stop := 5 } [],
      .node { type := "function_definition", start := 6, stop := 16 } []]

def scripts : FrontEnd :=
  ⟨.python, some fun _ => some scriptTree⟩

/-- Python is parsed, and nothing else. -/
def registry : FrontEndRegistry :=
  .ofParsers fun g => if g = .python then scripts.parser else none

/-- The nodes from the root of the script down to the start of a line, counted from zero. -/
def wayTo (row : Int) : List Site :=
  scriptTree.pathTo script ⟨row, 0⟩ none

theorem find?_registry : registry.find? (Language.normalize "python") = some scripts :=
  rfl

theorem ofSource?_script :
    ParsedSource.ofSource? scripts script = some ⟨.python, script, scriptTree, 0⟩ :=
  rfl

end ProgramAndScript

open ProgramAndScript in
/-- The second line of a function read as text, and both lines of a parsed script. -/
theorem locate_agrees_with_locateAll_on_lines :
    (∃ u, ∃ i : Nat, locate registry program "kotlin" 2 = some u ∧
      (locateAll registry program "kotlin")[i]? = some u) ∧
    (∃ u, locate registry script "python" 2 = some u ∧ u ∈ locateAll registry script "python") ∧
    ∃ (u : CodeUnit) (s : Site), locate registry script "python" 1 = some u ∧
      s ∈ wayTo 0 ∧ Grammar.python.isDeclarationUnit s.node = true := by
  refine ⟨?text, ?function, ?declaration⟩
  case text =>
    obtain ⟨hspanned, hlatest⟩ :=
      (locate_agrees_with_locateAll registry program "kotlin" 2 0).1 (by decide +kernel)
    obtain ⟨u, hu⟩ := Option.isSome_iff_exists.mp (hspanned.mpr (by decide +kernel))
    obtain ⟨i, b, -, hi, -, -⟩ := hlatest u hu
    exact ⟨u, i, hu, hi⟩
  case function =>
    have hsome : (locate registry script "python" 2).isSome = true := by decide +kernel
    obtain ⟨u, hu⟩ := Option.isSome_iff_exists.mp hsome
    obtain ⟨parsed, s, hparsed, -, -, -, -, hfunction, hdeclaration⟩ :=
      (locate_agrees_with_locateAll registry script "python" 2 0).2 scripts find?_registry u hu
    obtain rfl := Option.some.inj (ofSource?_script.symm.trans hparsed)
    refine ⟨u, hu, hfunction ?_⟩
    -- there is a function on the way, so the unit is one
    rw [← Bool.not_eq_false]
    intro hunit
    have hnone : (wayTo 1).any Grammar.python.isUnit = false :=
      List.any_eq_false.mpr fun s' hs' => Bool.eq_false_iff.mp ((hdeclaration hunit).2 s' hs')
    exact absurd hnone (by decide +kernel)
  case declaration =>
    have hsome : (locate registry script "python" 1).isSome = true := by decide +kernel
    obtain ⟨u, hu⟩ := Option.isSome_iff_exists.mp hsome
    obtain ⟨parsed, s, hparsed, -, -, -, hway, -, hdeclaration⟩ :=
      (locate_agrees_with_locateAll registry script "python" 1 0).2 scripts find?_registry u hu
    obtain rfl := Option.some.inj (ofSource?_script.symm.trans hparsed)
    have hnone : (wayTo 0).all (!Grammar.python.isUnit ·) = true := by decide +kernel
    have hunit : Grammar.python.isUnit s = false := by
      simpa using List.all_eq_true.mp hnone s hway
    exact ⟨u, s, hu, hway, (hdeclaration hunit).1⟩

end CodeGauge.CodeUnit
