import CodeGauge.Locate
import CodeGauge.Proofs.Block.Order

/-!
The name of a snippet that is read as text. It is the name of the block that is found first: the
topmost one behind a keyword, or where no keyword opens a block the topmost arrow function, or else
the topmost method. A function that holds one of an earlier shape loses its name to it.
-/
namespace CodeGauge.CodeUnit

variable {frontEnds : FrontEndRegistry} {text language : Text}

theorem name_ofSnippet_eq (h : frontEnds.find? (Language.normalize language) = none) (id : Text) :
    (ofSnippet frontEnds text language [] id).name =
      ((Block.find text).head?.map Block.name).getD [] := by
  simp only [ofSnippet, h, List.isEmpty_nil, if_true]
  cases Block.find text <;> rfl

/-- A snippet with blocks is named for the topmost block of the first shape that opens one. That is
the topmost block of all exactly when no later shape opens one further up. -/
theorem name_ofSnippet_eq_topmost (h : frontEnds.find? (Language.normalize language) = none)
    (hne : Block.find text ≠ []) (id : Text) : ∃ (shape : HeaderShape) (b : Block),
      (∀ other ∈ shape.earlier, Block.ofShape text other = []) ∧
      b.IsTopmost (Block.ofShape text shape) ∧
      (ofSnippet frontEnds text language [] id).name = b.name ∧
      (b.IsTopmost (Block.find text) ↔
        ∀ other ∈ shape.later, ∀ b' ∈ Block.ofShape text other, b.startLine ≤ b'.startLine) := by
  obtain ⟨shape, b, hfirst, hhead, htop⟩ := Block.exists_head_find hne
  refine ⟨shape, b, hfirst, htop, ?_, Block.isTopmost_find_iff hfirst htop⟩
  rw [name_ofSnippet_eq h, hhead]
  rfl

namespace NestedKeyword

/-- A function behind a keyword inside of an arrow function. -/
def source : Text :=
  "const outer = (x) => \x7b\n  function inner() \x7b\x7d\n\x7d"

def innerBlock : Block := ⟨"inner", 2, 2, "  function inner() \x7b\x7d"⟩

def outerBlock : Block := ⟨"outer", 1, 3, source⟩

def registry : FrontEndRegistry :=
  .ofParsers fun _ => none

theorem find?_typescript : registry.find? (Language.normalize "typescript") = none := by
  decide

theorem ofShape_keyword : Block.ofShape source .keyword = [innerBlock] := by
  decide +kernel

theorem find_source : Block.find source = [innerBlock, outerBlock] := by
  decide +kernel

end NestedKeyword

open NestedKeyword in
/-- The name of the inner function, which is the only one behind a keyword. -/
theorem name_ofSnippet_eq_topmost_of_nested :
    (ofSnippet registry source "typescript").name = innerBlock.name ∧
      ¬innerBlock.IsTopmost (Block.find source) := by
  have hne : Block.find source ≠ [] := by
    rw [find_source]
    exact List.cons_ne_nil innerBlock [outerBlock]
  obtain ⟨shape, b, hfirst, ⟨hmem, -⟩, hname, -⟩ :=
    name_ofSnippet_eq_topmost find?_typescript hne []
  have hshape : shape = .keyword := by
    have hkeyword : HeaderShape.keyword ∉ shape.earlier := by
      intro hearlier
      exact absurd (ofShape_keyword.symm.trans (hfirst _ hearlier))
        (List.cons_ne_nil innerBlock [])
    cases shape with
    | keyword => rfl
    | arrow => exact absurd (by decide) hkeyword
    | method => exact absurd (by decide) hkeyword
  rw [hshape, ofShape_keyword, List.mem_singleton] at hmem
  refine ⟨hmem ▸ hname, ?_⟩
  rw [find_source]
  decide

open NestedKeyword in
/-- The topmost block of all is the outer function, and it does not give the snippet its name. -/
theorem name_ofSnippet_ne_topmost :
    outerBlock.IsTopmost (Block.find source) ∧
      (ofSnippet registry source "typescript").name ≠ outerBlock.name := by
  have hname : (ofSnippet registry source "typescript").name = innerBlock.name := by
    rw [name_ofSnippet_eq find?_typescript, find_source]
    rfl
  rw [hname, find_source]
  decide

end CodeGauge.CodeUnit
