import CodeGauge.Grammar.Unit
import Mathlib.Data.List.Chain

/-!
The way down to a point of a parse tree. Each node on it is a child of the one before, all of them
are sites of the tree, and the unit at the point is one of them.
-/
namespace CodeGauge

namespace ParseTree

/-- One step down: the second site is a child of the first. -/
def IsStep (s s' : Site) : Prop :=
  s'.parent = some s.node ∧ s'.node ∈ s.node.children

section Path

variable (source : Text) (p : Point)

theorem head?_pathTo (parent : Option ParseTree) (n : ParseTree) :
    (n.pathTo source p parent).head? = some ⟨parent, n⟩ := by
  cases n with
  | node label children => rw [pathTo, List.head?_cons]

mutual

theorem pathTo_subset_sites (parent : Option ParseTree) :
    ∀ n : ParseTree, n.pathTo source p parent ⊆ n.sites parent
  | .node label children => by
    rw [pathTo, sites]
    exact List.cons_subset_cons _ (pathAmong_subset_sitesAll _ children)

theorem pathAmong_subset_sitesAll (parent : ParseTree) :
    ∀ ns : List ParseTree, pathAmong source p parent ns ⊆ sitesAll parent ns
  | [] => by
    rw [pathAmong]
    exact List.nil_subset _
  | n :: rest => by
    rw [pathAmong, sitesAll]
    split
    · exact List.subset_append_of_subset_right _ (pathAmong_subset_sitesAll parent rest)
    · split
      · exact List.nil_subset _
      · exact List.subset_append_of_subset_left _ (pathTo_subset_sites (some parent) n)

end

mutual

theorem isChain_pathTo (parent : Option ParseTree) :
    ∀ n : ParseTree, (n.pathTo source p parent).IsChain IsStep
  | .node label children => by
    rw [pathTo, List.isChain_cons]
    obtain ⟨hhead, hchain⟩ := isChain_pathAmong (.node label children) children
    exact ⟨hhead, hchain⟩

theorem isChain_pathAmong (parent : ParseTree) :
    ∀ ns : List ParseTree,
      (∀ s ∈ (pathAmong source p parent ns).head?, s.parent = some parent ∧ s.node ∈ ns) ∧
        (pathAmong source p parent ns).IsChain IsStep
  | [] => by simp [pathAmong]
  | n :: rest => by
    rw [pathAmong]
    split
    · obtain ⟨hhead, hchain⟩ := isChain_pathAmong parent rest
      exact ⟨fun s hs => ⟨(hhead s hs).1, List.mem_cons_of_mem n (hhead s hs).2⟩, hchain⟩
    · split
      · simp
      · refine ⟨?_, isChain_pathTo (some parent) n⟩
        intro s hs
        rw [head?_pathTo, Option.mem_some_iff] at hs
        subst hs
        exact ⟨rfl, List.mem_cons_self⟩

end

end Path

end ParseTree

namespace Grammar

variable {g : Grammar} {source : Text} {root : ParseTree} {p : Point} {s : Site}

/-- The unit at a point lies on the way down to it, and when it is no function, it is a declaration
and no function lies on the way. -/
theorem unitAt?_eq_some (h : g.unitAt? source root p = some s) :
    s ∈ root.pathTo source p none ∧
      (g.isUnit s = false → g.isDeclarationUnit s.node = true ∧
        ∀ s' ∈ root.pathTo source p none, g.isUnit s' = false) := by
  rw [unitAt?] at h
  cases hfunction : (root.pathTo source p none).reverse.find? g.isUnit with
  | some found =>
    simp only [hfunction, Option.some.injEq] at h
    subst h
    refine ⟨List.mem_reverse.mp (List.mem_of_find?_eq_some hfunction), ?_⟩
    intro hunit
    rw [List.find?_some hfunction] at hunit
    exact absurd hunit (by decide)
  | none =>
    simp only [hfunction] at h
    refine ⟨List.mem_reverse.mp (List.mem_of_find?_eq_some h), ?_⟩
    intro _
    constructor
    · simpa using List.find?_some h
    · intro s' hs'
      have hnone := List.find?_eq_none.mp hfunction s' (List.mem_reverse.mpr hs')
      exact Bool.eq_false_iff.mpr hnone

/-- A function at a point is one of the functions of the tree. -/
theorem mem_units_of_unitAt? (h : g.unitAt? source root p = some s) (hunit : g.isUnit s = true) :
    s ∈ g.units root := by
  have hway := (unitAt?_eq_some h).1
  rw [units, List.mem_filter]
  exact ⟨ParseTree.pathTo_subset_sites source p none root hway, hunit⟩

end Grammar

end CodeGauge
