import CodeGauge.Proofs.ParseTree.Span

/-!
The unit at a point of a well-spanned tree: the deepest function around the point, or the deepest
declaration when no function is around it.
-/
namespace CodeGauge

/-- Searched from its end, a list gives the last element that a condition accepts. -/
theorem find?_reverse_eq_some_iff {α : Type} {l : List α} {accepts : α → Bool} {a : α} :
    l.reverse.find? accepts = some a ↔
      ∃ i : Nat, l[i]? = some a ∧ accepts a = true ∧
        ∀ (j : Nat) (b : α), l[j]? = some b → accepts b = true → j ≤ i := by
  induction l with
  | nil => simp
  | cons head rest ih =>
    rw [List.reverse_cons, List.find?_append, Option.or_eq_some_iff, ih]
    constructor
    · rintro (⟨i, hi, ha, hlast⟩ | ⟨hnone, hhead⟩)
      · refine ⟨i + 1, hi, ha, ?_⟩
        rintro (_ | j) b hb hacc
        · exact Nat.zero_le _
        · exact Nat.succ_le_succ (hlast j b hb hacc)
      · rw [List.find?_singleton, Option.ite_none_right_eq_some] at hhead
        obtain ⟨ha, hsome⟩ := hhead
        obtain rfl := Option.some.inj hsome
        refine ⟨0, rfl, ha, ?_⟩
        rintro (_ | j) b hb hb'
        · exact Nat.le_refl 0
        · have hrest := List.find?_eq_none.mp hnone b
            (List.mem_reverse.mpr (List.mem_of_getElem? hb))
          exact absurd hb' hrest
    · rintro ⟨_ | i, hi, ha, hlast⟩
      · obtain rfl : head = a := Option.some.inj hi
        refine Or.inr ⟨?_, by simp [ha]⟩
        rw [List.find?_eq_none]
        intro b hb hb'
        obtain ⟨j, hj⟩ := List.mem_iff_getElem?.mp (List.mem_reverse.mp hb)
        exact absurd (hlast (j + 1) b hj hb') (Nat.not_succ_le_zero j)
      · exact Or.inl ⟨i, hi, ha, fun j b hb hb' => Nat.le_of_succ_le_succ (hlast (j + 1) b hb hb')⟩

namespace ParseTree

variable {source : Text} {p : Point} {root : ParseTree} {accepts : Site → Bool} {s : Site}

/-- The site lies at this depth of the tree, and it is the root or the point is in its span. -/
def IsAround (source : Text) (root : ParseTree) (p : Point) (depth : Nat) (s : Site) : Prop :=
  IsDescent ⟨none, root⟩ depth s ∧ (depth = 0 ∨ p ∈ s.node.span source)

/-- Of the sites around a point that a condition accepts, the one that lies deepest. -/
def IsDeepest (source : Text) (root : ParseTree) (p : Point) (accepts : Site → Bool) (s : Site) :
    Prop :=
  ∃ depth, root.IsAround source p depth s ∧ accepts s = true ∧
    ∀ depth' s', root.IsAround source p depth' s' → accepts s' = true → depth' ≤ depth

/-- Read from its end, the way down to a point meets the deepest accepted site first. -/
theorem find?_reverse_pathTo_eq_some_iff (h : root.WellSpanned source) :
    (root.pathTo source p none).reverse.find? accepts = some s ↔
      root.IsDeepest source p accepts s := by
  simp only [find?_reverse_eq_some_iff, getElem?_pathTo_eq_some_iff none _ _ root h, IsDeepest,
    IsAround]

theorem find?_reverse_pathTo_eq_none_iff (h : root.WellSpanned source) :
    (root.pathTo source p none).reverse.find? accepts = none ↔
      ∀ depth s, root.IsAround source p depth s → accepts s = false := by
  rw [List.find?_eq_none]
  constructor
  · intro hnone depth s haround
    have hs := (getElem?_pathTo_eq_some_iff none depth s root h).mpr haround
    exact Bool.eq_false_iff.mpr (hnone s (List.mem_reverse.mpr (List.mem_of_getElem? hs)))
  · intro hnone s hs
    obtain ⟨depth, hdepth⟩ := List.mem_iff_getElem?.mp (List.mem_reverse.mp hs)
    exact Bool.eq_false_iff.mp
      (hnone depth s ((getElem?_pathTo_eq_some_iff none depth s root h).mp hdepth))

end ParseTree

namespace Grammar

/-- In a well-spanned tree the unit at a point is the deepest function among the root and the nodes
whose spans hold the point. Where none of them is a function, it is the deepest declaration among
them, and where none of them is a declaration either, there is no unit. -/
theorem unitAt?_innermost (g : Grammar) (source : Text) (root : ParseTree) (p : Point)
    (h : root.WellSpanned source) :
    (∀ s, g.unitAt? source root p = some s ↔
      root.IsDeepest source p g.isUnit s ∨
        (∀ depth s', root.IsAround source p depth s' → g.isUnit s' = false) ∧
          root.IsDeepest source p (g.isDeclarationUnit ·.node) s) ∧
    (g.unitAt? source root p = none ↔
      ∀ depth s, root.IsAround source p depth s →
        g.isUnit s = false ∧ g.isDeclarationUnit s.node = false) := by
  rw [unitAt?]
  cases hfound : (root.pathTo source p none).reverse.find? g.isUnit with
  | some function =>
    have hdeepest := (ParseTree.find?_reverse_pathTo_eq_some_iff h).mp hfound
    obtain ⟨depth, haround, hunit, -⟩ := id hdeepest
    constructor
    · intro s
      rw [Option.some.injEq]
      constructor
      · rintro rfl
        exact Or.inl hdeepest
      · rintro (hs | ⟨hnone, -⟩)
        · have hagain := (ParseTree.find?_reverse_pathTo_eq_some_iff h).mpr hs
          exact Option.some.inj (hfound.symm.trans hagain)
        · exact absurd hunit (Bool.eq_false_iff.mp (hnone depth function haround))
    · constructor
      · intro hnone
        exact absurd hnone (Option.some_ne_none function)
      · intro hnone
        exact absurd hunit (Bool.eq_false_iff.mp (hnone depth function haround).1)
  | none =>
    have hnone := (ParseTree.find?_reverse_pathTo_eq_none_iff h).mp hfound
    constructor
    · intro s
      rw [ParseTree.find?_reverse_pathTo_eq_some_iff h]
      constructor
      · intro hs
        exact Or.inr ⟨hnone, hs⟩
      · rintro (⟨depth, haround, hunit, -⟩ | ⟨-, hs⟩)
        · exact absurd hunit (Bool.eq_false_iff.mp (hnone depth s haround))
        · exact hs
    · rw [ParseTree.find?_reverse_pathTo_eq_none_iff h]
      constructor
      · intro hdeclarations depth s haround
        exact ⟨hnone depth s haround, hdeclarations depth s haround⟩
      · intro hneither depth s haround
        exact (hneither depth s haround).2

namespace Closure

/-- A function whose body declares another one. -/
def source : Text :=
  "function g() \x7b\n  const f = x => 1;\n\x7d"

def arrow : ParseTree :=
  .node { type := "arrow_function", start := 27, stop := 33, field := some "value" }
    [.node { type := "identifier", start := 27, stop := 28 } [],
      .node { type := "number", start := 32, stop := 33, field := some "body" } []]

def declarator : ParseTree :=
  .node { type := "variable_declarator", start := 23, stop := 33 }
    [.node { type := "identifier", start := 23, stop := 24, field := some "name" } [], arrow]

def outer : ParseTree :=
  .node { type := "function_declaration", start := 0, stop := 36 }
    [.node { type := "identifier", start := 9, stop := 10, field := some "name" } [],
      .node { type := "statement_block", start := 13, stop := 36, field := some "body" }
        [.node { type := "lexical_declaration", start := 17, stop := 34 } [declarator]]]

def root : ParseTree :=
  .node { type := "program", start := 0, stop := 36 } [outer]

end Closure

open Closure in
/-- Inside the arrow it is the inner function. On the declaration before it, which lies deeper than
the outer function, it is the outer function. -/
theorem unitAt?_innermost_in_closure :
    root.WellSpanned source ∧
      root.IsDeepest source ⟨1, 14⟩ javascript.isUnit ⟨some declarator, arrow⟩ ∧
      root.IsDeepest source ⟨1, 2⟩ javascript.isUnit ⟨some root, outer⟩ := by
  have hspanned : root.WellSpanned source := by decide +kernel
  refine ⟨hspanned, ?inner, ?outer⟩
  case inner =>
    have hunit : javascript.unitAt? source root ⟨1, 14⟩ = some ⟨some declarator, arrow⟩ := rfl
    apply (((unitAt?_innermost javascript source root ⟨1, 14⟩ hspanned).1 _).mp hunit).resolve_right
    rintro ⟨hnone, depth, haround, -, -⟩
    exact absurd (hnone depth _ haround) (by decide +kernel)
  case outer =>
    have hunit : javascript.unitAt? source root ⟨1, 2⟩ = some ⟨some root, outer⟩ := rfl
    apply (((unitAt?_innermost javascript source root ⟨1, 2⟩ hspanned).1 _).mp hunit).resolve_right
    rintro ⟨hnone, depth, haround, -, -⟩
    exact absurd (hnone depth _ haround) (by decide +kernel)

end Grammar

end CodeGauge
