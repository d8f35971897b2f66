import CodeGauge.Proofs.Syntax.Nodes
import Mathlib.Data.List.Lex

/-!
Places in a syntax tree. A place tells, level after level, which child to go down to, so that equal
subtrees in different places are told apart. In lexicographic order the places are those of the
walk: each node comes before the ones below it, and these from left to right.
-/
namespace CodeGauge.SyntaxNode

/-- The node in a place. -/
def at? : SyntaxNode → List Nat → Option SyntaxNode
  | n, [] => some n
  | n, i :: place => n.children[i]?.bind fun child => child.at? place

/-- Some node lies this many levels below the root. -/
def HasLevel (n : SyntaxNode) (level : Nat) : Prop :=
  ∃ place, (n.at? place).isSome = true ∧ place.length = level

theorem hasLevel_zero (n : SyntaxNode) : n.HasLevel 0 :=
  ⟨[], rfl, rfl⟩

theorem hasLevel_succ_iff {n : SyntaxNode} {level : Nat} :
    n.HasLevel (level + 1) ↔ ∃ child ∈ n.children, child.HasLevel level := by
  constructor
  · rintro ⟨place, hplace, hlength⟩
    obtain ⟨i, below, rfl⟩ := List.exists_cons_of_length_eq_add_one hlength
    obtain ⟨node, hnode⟩ := Option.isSome_iff_exists.mp hplace
    obtain ⟨child, hchild, hbelow⟩ := Option.bind_eq_some_iff.mp hnode
    exact ⟨child, List.mem_of_getElem? hchild, below, Option.isSome_of_eq_some hbelow,
      Nat.succ.inj hlength⟩
  · rintro ⟨child, hchild, below, hbelow, rfl⟩
    obtain ⟨i, hi⟩ := List.mem_iff_getElem?.mp hchild
    refine ⟨i :: below, ?_, rfl⟩
    rw [at?, hi]
    exact hbelow

/-- Of what a root says about itself the levels below it do not depend. -/
theorem hasLevel_congr {n n' : SyntaxNode} (h : n.children = n'.children) (level : Nat) :
    n.HasLevel level ↔ n'.HasLevel level := by
  cases level with
  | zero => exact iff_of_true (hasLevel_zero n) (hasLevel_zero n')
  | succ level => rw [hasLevel_succ_iff, hasLevel_succ_iff, h]

mutual

/-- The places of all nodes. -/
def places : SyntaxNode → List (List Nat)
  | .node _ children => [] :: placesFrom 0 children

/-- The places of all nodes below children, of which the first is number `i`. -/
def placesFrom (i : Nat) : List SyntaxNode → List (List Nat)
  | [] => []
  | n :: rest => n.places.map (i :: ·) ++ placesFrom (i + 1) rest

end

mutual

/-- The nodes in these places are all nodes. -/
theorem map_at?_places : ∀ n : SyntaxNode, n.places.map n.at? = n.nodes.map some
  | .node label children => by
    have hchildren := map_at?_placesFrom label [] children
    rw [places, nodes, List.map_cons, List.map_cons, at?]
    exact congrArg (List.cons _) hchildren

theorem map_at?_placesFrom (label : NodeLabel) (before : List SyntaxNode) :
    ∀ ns : List SyntaxNode,
      (placesFrom before.length ns).map (SyntaxNode.node label (before ++ ns)).at? =
        (nodesAll ns).map some
  | [] => rfl
  | n :: rest => by
    have hrest := map_at?_placesFrom label (before ++ [n]) rest
    have hn : (SyntaxNode.node label (before ++ n :: rest)).at? ∘ (before.length :: ·) =
        n.at? := by
      funext place
      simp [at?, children]
    rw [List.length_append, List.length_singleton, List.append_assoc, List.singleton_append]
      at hrest
    rw [placesFrom, nodesAll, List.map_append, List.map_append, List.map_map, hn, hrest,
      map_at?_places n]

end

theorem mem_placesFrom {ns : List SyntaxNode} {j : Nat} {n : SyntaxNode} (hn : ns[j]? = some n)
    {place : List Nat} (hplace : place ∈ n.places) (i : Nat) :
    (i + j) :: place ∈ placesFrom i ns := by
  induction ns generalizing i j with
  | nil => exact absurd hn (by simp)
  | cons m rest ih =>
    rw [placesFrom, List.mem_append]
    cases j with
    | zero =>
      obtain rfl : m = n := by simpa using hn
      exact Or.inl (List.mem_map.mpr ⟨place, hplace, rfl⟩)
    | succ j =>
      have hrest : rest[j]? = some n := by simpa using hn
      have hmem := ih hrest (i + 1)
      rw [Nat.add_right_comm] at hmem
      exact Or.inr hmem

/-- Every node has its place among them, and they hold no others. -/
theorem mem_places_iff {n : SyntaxNode} {place : List Nat} :
    place ∈ n.places ↔ (n.at? place).isSome = true := by
  constructor
  · intro hplace
    have hnode : n.at? place ∈ n.nodes.map some :=
      map_at?_places n ▸ List.mem_map.mpr ⟨place, hplace, rfl⟩
    obtain ⟨node, -, hnode⟩ := List.mem_map.mp hnode
    rw [← hnode]
    rfl
  · intro hsome
    induction place generalizing n with
    | nil =>
      cases n
      exact List.mem_cons_self
    | cons i place ih =>
      obtain ⟨node, hnode⟩ := Option.isSome_iff_exists.mp hsome
      obtain ⟨child, hchild, hbelow⟩ := Option.bind_eq_some_iff.mp hnode
      have hmem := mem_placesFrom hchild (ih (Option.isSome_of_eq_some hbelow)) 0
      rw [Nat.zero_add] at hmem
      cases n
      exact List.mem_cons_of_mem _ hmem

theorem exists_cons_of_mem_placesFrom {ns : List SyntaxNode} {i : Nat} {place : List Nat}
    (h : place ∈ placesFrom i ns) : ∃ j below, place = j :: below ∧ i ≤ j := by
  induction ns generalizing i with
  | nil => exact absurd h List.not_mem_nil
  | cons n rest ih =>
    rcases List.mem_append.mp h with hhere | hlater
    · obtain ⟨below, -, rfl⟩ := List.mem_map.mp hhere
      exact ⟨i, below, rfl, Nat.le_refl i⟩
    · obtain ⟨j, below, rfl, hle⟩ := ih hlater
      exact ⟨j, below, rfl, Nat.le_of_succ_le hle⟩

mutual

/-- The places are listed in their order. -/
theorem pairwise_places : ∀ n : SyntaxNode, n.places.Pairwise (· < ·)
  | .node _ children => by
    refine List.Pairwise.cons ?_ (pairwise_placesFrom 0 children)
    intro place hplace
    obtain ⟨j, below, rfl, -⟩ := exists_cons_of_mem_placesFrom hplace
    exact List.Lex.nil

theorem pairwise_placesFrom (i : Nat) :
    ∀ ns : List SyntaxNode, (placesFrom i ns).Pairwise (· < ·)
  | [] => List.Pairwise.nil
  | n :: rest => by
    refine List.pairwise_append.mpr ⟨?_, pairwise_placesFrom (i + 1) rest, ?_⟩
    · refine List.pairwise_map.mpr ((pairwise_places n).imp ?_)
      exact fun hlt => List.Lex.cons hlt
    · intro place hplace later hlater
      obtain ⟨below, -, rfl⟩ := List.mem_map.mp hplace
      obtain ⟨j, below', rfl, hle⟩ := exists_cons_of_mem_placesFrom hlater
      exact List.Lex.rel hle

end

theorem nodesAll_eq_flatMap (ns : List SyntaxNode) : nodesAll ns = ns.flatMap nodes := by
  induction ns with
  | nil => rfl
  | cons n ns ih => rw [nodesAll, ih, List.flatMap_cons]

/-- The walk of a tree is its root and the walks of its children, one behind the other. -/
theorem walk_eq_cons (n : SyntaxNode) : n.walk = n :: n.children.flatMap walk := by
  have hwalk : (walk : SyntaxNode → List SyntaxNode) = nodes := funext walk_eq_nodes
  rw [hwalk, nodes_eq, nodesAll_eq_flatMap]

/-- The walk meets the node of every place, place by place in their order. -/
theorem map_at?_places_eq_walk (n : SyntaxNode) : n.places.map n.at? = n.walk.map some := by
  rw [map_at?_places, walk_eq_nodes]

end CodeGauge.SyntaxNode
