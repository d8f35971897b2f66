import CodeGauge.Proofs.Grammar.Comprehension
import CodeGauge.Proofs.ParseTree.Span
import CodeGauge.Proofs.Syntax.Place

/-!
How deep a converted tree is. A converted node lies as many levels down as its parse node, and one
more for every loop that a comprehension nests around it. The greatest depth limits the levels of
the parse tree only: without comprehensions it limits those of the syntax tree too, with them it
does not.
-/
namespace CodeGauge.Grammar

/-- The second node is converted right below the first one, inside of `loops` loops that the
conversion nests around it. Those of a clause are the loop clauses before it, those of a body are
all of them. -/
inductive Contains (g : Grammar) (source : Text) (n : ParseTree) : ParseTree → Nat → Prop where
  | child {c : ParseTree} (hplain : ¬g.comprehensionTypes.contains n.type = true)
      (hkind : g.kindOf source n ≠ .string) (hc : c ∈ n.namedChildren) : Contains g source n c 0
  | clause {c : ParseTree} {i : Nat} (hn : g.comprehensionTypes.contains n.type = true)
      (hc : (clausesOf n)[i]? = some c) :
      Contains g source n c (((clausesOf n).take i).countP isLoopClause)
  | body {c : ParseTree} (hn : g.comprehensionTypes.contains n.type = true)
      (hc : n.child? "body" = some c) :
      Contains g source n c ((clausesOf n).countP isLoopClause)

/-- The second node lies `level` levels below the first one in the parse tree, with `loops` loops
nested around it on the way. -/
inductive Reaches (g : Grammar) (source : Text) : ParseTree → ParseTree → (level loops : Nat) → Prop
    where
  | refl (n : ParseTree) : Reaches g source n n 0 0
  | step {n c m : ParseTree} {level loops here : Nat} (hc : g.Contains source n c here)
      (hm : Reaches g source c m level loops) : Reaches g source n m (level + 1) (here + loops)

section Levels

variable {g : Grammar} {source : Text}

section Equations

variable {depth : Nat} {n : ParseTree}

theorem convertNode_deep (hdepth : maxTreeDepth < depth) :
    g.convertNode source depth n = .node { kind := .other } [] := by
  cases n
  rw [convertNode, if_pos hdepth]

theorem children_convertNode_string (hplain : ¬g.comprehensionTypes.contains n.type = true)
    (hkind : g.kindOf source n = .string) (hdepth : depth ≤ maxTreeDepth) :
    (g.convertNode source depth n).children = [] := by
  cases n with
  | node label children =>
    change ¬g.comprehensionTypes.contains label.type = true at hplain
    rw [convertNode, if_neg (Nat.not_lt.mpr hdepth), if_neg hplain, if_pos hkind]
    rfl

theorem children_convertNode_plain (hplain : ¬g.comprehensionTypes.contains n.type = true)
    (hkind : g.kindOf source n ≠ .string) (hdepth : depth ≤ maxTreeDepth) :
    (g.convertNode source depth n).children =
      n.namedChildren.map (g.convertNode source (depth + 1)) := by
  cases n with
  | node label children =>
    change ¬g.comprehensionTypes.contains label.type = true at hplain
    rw [convertNode, if_neg (Nat.not_lt.mpr hdepth), if_neg hplain, if_neg hkind,
      convertAll_eq_map, List.filter_map, List.map_map]
    rfl

/-- Only one grammar has comprehensions. -/
theorem eq_python_of_comprehension (hn : g.comprehensionTypes.contains n.type = true) :
    g = .python := by
  cases g with
  | python => rfl
  | java => exact absurd hn (by simp [comprehensionTypes])
  | javascript => exact absurd hn (by simp [comprehensionTypes])

end Equations

section Chain

variable {depth : Nat} (text : Text)

/-- A clause adds a level to what follows it when it is a loop. -/
theorem exists_hasLevel_enclose_iff {c : ParseTree} (hc : isClause c = true)
    (hdepth : depth ≤ maxTreeDepth) (inner : List SyntaxNode) (k : Nat) :
    (∃ t ∈ enclose text (python.convertNode source depth c) inner, t.HasLevel k) ↔
      (python.convertNode source depth c).HasLevel k ∨
        ∃ t ∈ inner, ∃ j, t.HasLevel j ∧ k = (if isLoopClause c then 1 else 0) + j := by
  rw [enclose_clause hc hdepth, convertNode_clause hc hdepth]
  by_cases hloop : isLoopClause c = true
  · simp only [hloop, if_true, List.mem_singleton, exists_eq_left]
    cases k with
    | zero => exact iff_of_true (SyntaxNode.hasLevel_zero _) (Or.inl (SyntaxNode.hasLevel_zero _))
    | succ k =>
      have hsucc (j : Nat) : k + 1 = 1 + j ↔ j = k := by omega
      rw [SyntaxNode.hasLevel_succ_iff, SyntaxNode.hasLevel_succ_iff]
      simp only [SyntaxNode.children, List.mem_append, or_and_right, exists_or, hsucc,
        exists_eq_right]
  · simp only [hloop, Bool.false_eq_true, if_false, List.mem_cons, or_and_right, exists_or,
      exists_eq_left, Nat.zero_add, exists_eq_right']
    exact or_congr_left (SyntaxNode.hasLevel_congr (by rfl) k)

/-- In a chain each clause lies inside of the loops of the clauses before it, and what the chain
ends in lies inside of all of them. -/
theorem exists_hasLevel_chain_iff {cs : List ParseTree} (hcs : ∀ c ∈ cs, isClause c = true)
    (hdepth : depth ≤ maxTreeDepth) (inner : List SyntaxNode) (k : Nat) :
    (∃ t ∈ cs.foldr (fun c => enclose text (python.convertNode source depth c)) inner,
        t.HasLevel k) ↔
      (∃ i c, cs[i]? = some c ∧ ∃ j, (python.convertNode source depth c).HasLevel j ∧
        k = (cs.take i).countP isLoopClause + j) ∨
      ∃ t ∈ inner, ∃ j, t.HasLevel j ∧ k = cs.countP isLoopClause + j := by
  induction cs generalizing k with
  | nil => simp
  | cons c cs ih =>
    obtain ⟨hc, hrest⟩ := List.forall_mem_cons.mp hcs
    rw [List.foldr_cons, exists_hasLevel_enclose_iff text hc hdepth]
    constructor
    · rintro (hhere | ⟨t, ht, j, hj, rfl⟩)
      · exact Or.inl ⟨0, c, rfl, k, hhere, by simp⟩
      · rcases (ih hrest j).mp ⟨t, ht, hj⟩ with ⟨i, c', hc', j', hj', rfl⟩ | ⟨t', ht', j', hj', rfl⟩
        · refine Or.inl ⟨i + 1, c', hc', j', hj', ?_⟩
          rw [List.take_succ_cons, List.countP_cons]
          omega
        · refine Or.inr ⟨t', ht', j', hj', ?_⟩
          rw [List.countP_cons]
          omega
    · rintro (⟨i, c', hc', j, hj, rfl⟩ | ⟨t, ht, j, hj, rfl⟩)
      · cases i with
        | zero =>
          obtain rfl : c = c' := by simpa using hc'
          exact Or.inl (by simpa using hj)
        | succ i =>
          obtain ⟨t, ht, hlevel⟩ := (ih hrest _).mpr (Or.inl ⟨i, c', hc', j, hj, rfl⟩)
          refine Or.inr ⟨t, ht, _, hlevel, ?_⟩
          rw [List.take_succ_cons, List.countP_cons]
          omega
      · obtain ⟨t', ht', hlevel⟩ := (ih hrest _).mpr (Or.inr ⟨t, ht, j, hj, rfl⟩)
        refine Or.inr ⟨t', ht', _, hlevel, ?_⟩
        rw [List.countP_cons]
        omega

/-- A chain of clauses that are cut off is a row of leaves. -/
theorem foldr_enclose_deep (hdepth : maxTreeDepth < depth) (cs : List ParseTree)
    (inner : List SyntaxNode) :
    cs.foldr (fun c => enclose text (g.convertNode source depth c)) inner =
      cs.map (g.convertNode source depth) ++ inner := by
  induction cs with
  | nil => rfl
  | cons c cs ih =>
    rw [List.foldr_cons, ih, convertNode_deep hdepth, List.map_cons, convertNode_deep hdepth]
    rfl

end Chain

section Step

variable {depth : Nat} {n : ParseTree}

theorem contains_iff_of_plain (hplain : ¬g.comprehensionTypes.contains n.type = true)
    {c : ParseTree} {loops : Nat} : g.Contains source n c loops ↔
      g.kindOf source n ≠ .string ∧ c ∈ n.namedChildren ∧ loops = 0 := by
  constructor
  · intro h
    cases h with
    | child _ hkind hc => exact ⟨hkind, hc, rfl⟩
    | clause hn => exact absurd hn hplain
    | body hn => exact absurd hn hplain
  · rintro ⟨hkind, hc, rfl⟩
    exact .child hplain hkind hc

theorem contains_iff_of_comprehension (hn : g.comprehensionTypes.contains n.type = true)
    {c : ParseTree} {loops : Nat} : g.Contains source n c loops ↔
      (∃ i, (clausesOf n)[i]? = some c ∧ loops = ((clausesOf n).take i).countP isLoopClause) ∨
        n.child? "body" = some c ∧ loops = (clausesOf n).countP isLoopClause := by
  constructor
  · intro h
    cases h with
    | child hplain => exact absurd hn hplain
    | clause _ hc => exact Or.inl ⟨_, hc, rfl⟩
    | body _ hc => exact Or.inr ⟨hc, rfl⟩
  · rintro (⟨i, hc, rfl⟩ | ⟨hc, rfl⟩)
    · exact .clause hn hc
    · exact .body hn hc

/-- Below a node that is not at the greatest depth stands what it contains, inside of the loops
around it. -/
theorem exists_child_hasLevel_iff (hdepth : depth < maxTreeDepth) (k : Nat) :
    (∃ child ∈ (g.convertNode source depth n).children, child.HasLevel k) ↔
      ∃ c loops, g.Contains source n c loops ∧
        ∃ j, (g.convertNode source (depth + 1) c).HasLevel j ∧ k = loops + j := by
  by_cases hn : g.comprehensionTypes.contains n.type = true
  · obtain rfl := eq_python_of_comprehension hn
    have hclauses : ∀ c ∈ clausesOf n, isClause c = true := fun c hc => (List.mem_filter.mp hc).2
    rw [convertNode_comprehension hn (Nat.le_of_lt hdepth), SyntaxNode.children,
      exists_hasLevel_chain_iff _ hclauses hdepth]
    simp only [contains_iff_of_comprehension hn, or_and_right, exists_or]
    apply or_congr
    · constructor
      · rintro ⟨i, c, hc, hlevel⟩
        exact ⟨c, _, ⟨i, hc, rfl⟩, hlevel⟩
      · rintro ⟨c, _, ⟨i, hc, rfl⟩, hlevel⟩
        exact ⟨i, c, hc, hlevel⟩
    · simp
  · by_cases hkind : g.kindOf source n = .string
    · rw [children_convertNode_string hn hkind (Nat.le_of_lt hdepth)]
      simp [contains_iff_of_plain hn, hkind]
    · rw [children_convertNode_plain hn hkind (Nat.le_of_lt hdepth)]
      simp [contains_iff_of_plain hn, hkind]

theorem hasLevel_deep_iff (hdepth : maxTreeDepth < depth) (k : Nat) :
    (g.convertNode source depth n).HasLevel k ↔ k = 0 := by
  rw [convertNode_deep hdepth]
  cases k with
  | zero => exact iff_of_true (SyntaxNode.hasLevel_zero _) rfl
  | succ k =>
    rw [SyntaxNode.hasLevel_succ_iff]
    simp [SyntaxNode.children]

/-- Below a node at the greatest depth there are only leaves, one for each node that it contains. -/
theorem exists_child_hasLevel_deepest_iff (k : Nat) :
    (∃ child ∈ (g.convertNode source maxTreeDepth n).children, child.HasLevel k) ↔
      k = 0 ∧ ∃ c loops, g.Contains source n c loops := by
  have hdepth : maxTreeDepth < maxTreeDepth + 1 := Nat.lt_succ_self _
  have hleaves (ns : List ParseTree) :
      (∃ t ∈ ns.map (g.convertNode source (maxTreeDepth + 1)), t.HasLevel k) ↔
        k = 0 ∧ ∃ c, c ∈ ns := by
    simp only [List.mem_map, exists_exists_and_eq_and, hasLevel_deep_iff hdepth]
    exact ⟨fun ⟨c, hc, hk⟩ => ⟨hk, c, hc⟩, fun ⟨hk, c, hc⟩ => ⟨c, hc, hk⟩⟩
  by_cases hn : g.comprehensionTypes.contains n.type = true
  · obtain rfl := eq_python_of_comprehension hn
    rw [convertNode_comprehension hn (Nat.le_refl _), SyntaxNode.children,
      foldr_enclose_deep _ hdepth, ← List.map_append, hleaves]
    simp only [contains_iff_of_comprehension hn, List.mem_append, Option.mem_toList]
    apply and_congr_right
    rintro -
    apply exists_congr
    intro c
    constructor
    · rintro (hc | hc)
      · obtain ⟨i, hi⟩ := List.mem_iff_getElem?.mp hc
        exact ⟨_, Or.inl ⟨i, hi, rfl⟩⟩
      · exact ⟨_, Or.inr ⟨hc, rfl⟩⟩
    · rintro ⟨_, ⟨i, hi, -⟩ | ⟨hc, -⟩⟩
      · exact Or.inl (List.mem_of_getElem? hi)
      · exact Or.inr hc
  · by_cases hkind : g.kindOf source n = .string
    · rw [children_convertNode_string hn hkind (Nat.le_refl _)]
      simp [contains_iff_of_plain hn, hkind]
    · rw [children_convertNode_plain hn hkind (Nat.le_refl _), hleaves]
      simp [contains_iff_of_plain hn, hkind]

end Step

/-- How a converted node comes to lie `k` levels below one that lies `depth` levels down: it stands
for a parse node that is not too deep, or for one that is just too deep and cut off. -/
def LiesBelow (g : Grammar) (source : Text) (depth : Nat) (n : ParseTree) (k : Nat) : Prop :=
  ∃ m level loops, g.Reaches source n m level loops ∧
    (depth + level ≤ maxTreeDepth ∧ k = level + loops ∨
      depth + level = maxTreeDepth ∧ (∃ c here, g.Contains source m c here) ∧
        k = level + loops + 1)

theorem liesBelow_of_hasLevel {depth k : Nat} (hdepth : depth ≤ maxTreeDepth) {n : ParseTree}
    (h : (g.convertNode source depth n).HasLevel k) : g.LiesBelow source depth n k := by
  induction k using Nat.strongRecOn generalizing depth n with
  | ind k ih =>
    cases k with
    | zero => exact ⟨n, 0, 0, .refl n, Or.inl ⟨hdepth, rfl⟩⟩
    | succ k =>
      rw [SyntaxNode.hasLevel_succ_iff] at h
      rcases Nat.lt_or_eq_of_le hdepth with hroom | rfl
      · obtain ⟨c, here, hc, j, hj, rfl⟩ := (exists_child_hasLevel_iff hroom k).mp h
        obtain ⟨m, level, loops, hm, hlevel⟩ := ih j (by omega) hroom hj
        refine ⟨m, level + 1, here + loops, .step hc hm, ?_⟩
        rcases hlevel with ⟨hle, rfl⟩ | ⟨heq, hbelow, rfl⟩
        · exact Or.inl ⟨by omega, by omega⟩
        · exact Or.inr ⟨by omega, hbelow, by omega⟩
      · obtain ⟨rfl, hbelow⟩ := (exists_child_hasLevel_deepest_iff k).mp h
        exact ⟨n, 0, 0, .refl n, Or.inr ⟨rfl, hbelow, rfl⟩⟩

theorem hasLevel_of_liesBelow {depth k : Nat} {n : ParseTree}
    (h : g.LiesBelow source depth n k) : (g.convertNode source depth n).HasLevel k := by
  obtain ⟨m, level, loops, hm, hlevel⟩ := h
  induction hm generalizing depth k with
  | refl n =>
    rcases hlevel with ⟨-, rfl⟩ | ⟨rfl, hbelow, rfl⟩
    · exact SyntaxNode.hasLevel_zero _
    · exact SyntaxNode.hasLevel_succ_iff.mpr
        ((exists_child_hasLevel_deepest_iff 0).mpr ⟨rfl, hbelow⟩)
  | @step n c m level loops here hc hm ih =>
    have hroom : depth < maxTreeDepth := by omega
    obtain ⟨j, hj, rfl⟩ : ∃ j, (g.convertNode source (depth + 1) c).HasLevel j ∧
        k = here + j + 1 := by
      rcases hlevel with ⟨hle, rfl⟩ | ⟨heq, hbelow, rfl⟩
      · exact ⟨level + loops, ih (Or.inl ⟨by omega, rfl⟩), by omega⟩
      · exact ⟨level + loops + 1, ih (Or.inr ⟨by omega, hbelow, rfl⟩), by omega⟩
    exact SyntaxNode.hasLevel_succ_iff.mpr
      ((exists_child_hasLevel_iff hroom _).mpr ⟨c, here, hc, j, hj, rfl⟩)

theorem hasLevel_iff (n : ParseTree) (k : Nat) :
    (g.convertNode source 0 n).HasLevel k ↔ g.LiesBelow source 0 n k :=
  ⟨liesBelow_of_hasLevel (Nat.zero_le _), hasLevel_of_liesBelow⟩

/-! How many loops can be nested around a node. -/

theorem countP_le_countP_descendants (p : ParseTree → Bool) (ns : List ParseTree) :
    ns.countP p ≤ (ns.flatMap ParseTree.descendants).countP p := by
  induction ns with
  | nil => exact Nat.le_refl 0
  | cons n rest ih =>
    rw [List.flatMap_cons, List.countP_append, ParseTree.descendants_eq, List.countP_cons,
      List.countP_cons]
    omega

theorem countP_add_le_countP_descendants (p : ParseTree → Bool) {c : ParseTree}
    {ns : List ParseTree} (hc : c ∈ ns) :
    ns.countP p + c.descendants.tail.countP p ≤ (ns.flatMap ParseTree.descendants).countP p := by
  induction ns with
  | nil => exact absurd hc List.not_mem_nil
  | cons n rest ih =>
    rw [List.flatMap_cons, List.countP_append, ParseTree.descendants_eq n, List.countP_cons,
      List.countP_cons]
    rcases List.mem_cons.mp hc with rfl | hc
    · have hrest := countP_le_countP_descendants p rest
      rw [ParseTree.descendants_eq, List.tail_cons]
      omega
    · have hrest := ih hc
      omega

theorem Contains.mem_children {n c : ParseTree} {loops : Nat} (h : g.Contains source n c loops) :
    c ∈ n.children := by
  cases h with
  | child _ _ hc => exact (List.mem_filter.mp hc).1
  | clause _ hc => exact (List.mem_filter.mp (List.mem_of_getElem? hc)).1
  | body _ hc => exact List.mem_of_find?_eq_some hc

theorem Contains.loops_le {n c : ParseTree} {loops : Nat} (h : g.Contains source n c loops) :
    loops ≤ n.children.countP isLoopClause := by
  have hall : (clausesOf n).countP isLoopClause ≤ n.children.countP isLoopClause :=
    List.filter_sublist.countP_le
  cases h with
  | child => exact Nat.zero_le _
  | clause => exact ((List.take_sublist _ _).countP_le).trans hall
  | body => exact hall

/-- Every loop nested around a node is a clause of the tree. -/
theorem Reaches.loops_le {n m : ParseTree} {level loops : Nat}
    (h : g.Reaches source n m level loops) :
    loops ≤ n.descendants.tail.countP isLoopClause := by
  induction h with
  | refl n => exact Nat.zero_le _
  | @step n c m level loops here hc _ ih =>
    have hhere := hc.loops_le
    have hbelow := countP_add_le_countP_descendants isLoopClause hc.mem_children
    rw [ParseTree.descendants_eq n, List.tail_cons]
    omega

/-- Without comprehensions nothing is nested around a node. -/
theorem Reaches.loops_eq_zero {n m : ParseTree} {level loops : Nat}
    (h : g.Reaches source n m level loops)
    (hplain : ∀ d ∈ n.descendants, ¬g.comprehensionTypes.contains d.type = true) : loops = 0 := by
  induction h with
  | refl n => rfl
  | @step n c m level loops here hc _ ih =>
    rw [ParseTree.descendants_eq] at hplain
    obtain ⟨hn, hbelow⟩ := List.forall_mem_cons.mp hplain
    obtain rfl := ((contains_iff_of_plain hn).mp hc).2.2
    have hrest := ih fun d hd => hbelow d (List.mem_flatMap.mpr ⟨c, hc.mem_children, hd⟩)
    rw [hrest]

theorem LiesBelow.le {n : ParseTree} {k bound : Nat} (h : g.LiesBelow source 0 n k)
    (hbound : ∀ {m level loops}, g.Reaches source n m level loops → loops ≤ bound) :
    k ≤ maxTreeDepth + 1 + bound := by
  obtain ⟨m, level, loops, hm, hlevel⟩ := h
  have hle := hbound hm
  omega

end Levels

/-- How many levels a conversion has. A converted node lies as many levels down as its parse node,
and one more for each loop clause nested around it. The greatest depth limits the first number only:
the levels of the tree exceed it at most by the number of loop clauses in it, and not at all where
there are no comprehensions. The kind and the name given to a root change nothing about that. -/
theorem levels_of_conversion (g : Grammar) (source : Text) (n : ParseTree) (k : Nat) :
    ((g.convertNode source 0 n).HasLevel k ↔ g.LiesBelow source 0 n k) ∧
    (∀ (kind : NodeKind) (name : Text), (g.convertRoot source kind name n).HasLevel k ↔
      (g.convertNode source 0 n).HasLevel k) ∧
    ((g.convertNode source 0 n).HasLevel k →
      k ≤ maxTreeDepth + 1 + n.descendants.tail.countP isLoopClause ∧
      ((∀ d ∈ n.descendants, ¬g.comprehensionTypes.contains d.type = true) →
        k ≤ maxTreeDepth + 1)) := by
  refine ⟨hasLevel_iff n k, fun kind name => SyntaxNode.hasLevel_congr (by rfl) k, ?_⟩
  intro h
  have hlies := (hasLevel_iff n k).mp h
  refine ⟨hlies.le fun hm => hm.loops_le, ?_⟩
  intro hplain
  exact hlies.le fun hm => Nat.le_of_eq (hm.loops_eq_zero hplain)

namespace Pairs

def calledName : ParseTree :=
  .node { type := "identifier", start := 1, stop := 2, field := some "function" } []

def body : ParseTree :=
  .node { type := "call", start := 1, stop := 5, field := some "body" } [calledName]

end Pairs

namespace NestedLoops

def outer : ParseTree :=
  .node { type := "for_statement", start := 11, stop := 65 } [inner]

end NestedLoops

open Pairs NestedLoops in
/-- The name of the function that is called inside of two loops lies four levels down, two more than
in the parse tree. Without comprehensions a loop inside a loop lies two levels down, as there. -/
theorem levels_of_conversion_of_pairs :
    ((python.convertNode Pairs.source 0 comprehension).HasLevel 4 ∧
      4 ≤ maxTreeDepth + 1 + comprehension.descendants.tail.countP isLoopClause) ∧
    ((java.convertNode NestedLoops.source 0 method).HasLevel 2 ∧
      ∀ d ∈ method.descendants, ¬java.comprehensionTypes.contains d.type = true) ∧
      2 ≤ maxTreeDepth + 1 := by
  have hplain : ∀ d ∈ method.descendants, ¬java.comprehensionTypes.contains d.type = true :=
    fun d _ => Bool.false_ne_true
  obtain ⟨hpairs, -, hpairsBound⟩ := levels_of_conversion python Pairs.source comprehension 4
  obtain ⟨hloops, -, hloopsBound⟩ := levels_of_conversion java NestedLoops.source method 2
  have hname : (python.convertNode Pairs.source 0 comprehension).HasLevel 4 := by
    have hbody : python.Contains Pairs.source comprehension body 2 := .body (by decide) rfl
    have hcalled : python.Contains Pairs.source body calledName 0 :=
      .child (by decide) (by decide +kernel) (List.mem_singleton_self calledName)
    exact hpairs.mpr
      ⟨calledName, 2, 2, .step hbody (.step hcalled (.refl calledName)), Or.inl (by decide)⟩
  have hinner : (java.convertNode NestedLoops.source 0 method).HasLevel 2 := by
    have houter : java.Contains NestedLoops.source method outer 0 :=
      .child (by decide) (by decide +kernel)
        (List.mem_cons_of_mem _ (List.mem_singleton_self outer))
    have hinside : java.Contains NestedLoops.source outer NestedLoops.inner 0 :=
      .child (by decide) (by decide +kernel) (List.mem_singleton_self NestedLoops.inner)
    exact hloops.mpr
      ⟨NestedLoops.inner, 2, 0, .step houter (.step hinside (.refl _)), Or.inl (by decide)⟩
  exact ⟨⟨hname, (hpairsBound hname).1⟩, ⟨hinner, hplain⟩, (hloopsBound hinner).2 hplain⟩

namespace ManyClauses

/-- A comprehension with 401 loop clauses. -/
def source : Text :=
  ("[f(x)" : Text) ++ (List.replicate 401 (" for x in xs" : Text)).flatten ++ [']']

def comprehension : ParseTree :=
  .node { type := "list_comprehension", start := 0, stop := 4818 }
    (Pairs.body :: (List.range 401).map fun i => Pairs.loopClause (6 + 12 * i))

def statement : ParseTree :=
  .node { type := "expression_statement", start := 0, stop := 4818 } [comprehension]

def root : ParseTree :=
  .node { type := "module", start := 0, stop := 4818 } [statement]

end ManyClauses

open ManyClauses in
/-- The greatest depth does not limit the levels of the tree: the body of this comprehension lies
three levels down in the parse tree, but 404 in the syntax tree. -/
theorem not_forall_level_le_of_many_clauses :
    ¬∀ k, (python.convertNode source 0 root).HasLevel k → k ≤ maxTreeDepth + 1 := by
  intro hall
  have hstatement : python.Contains source root statement 0 :=
    .child (by decide) (by decide +kernel) (List.mem_singleton_self statement)
  have hcomprehension : python.Contains source statement comprehension 0 :=
    .child (by decide) (by decide +kernel) (List.mem_singleton_self comprehension)
  have hloops : (clausesOf comprehension).countP isLoopClause = 401 := by decide +kernel
  have hbody : python.Contains source comprehension Pairs.body 401 :=
    hloops ▸ .body (by decide) rfl
  have hlevel : (python.convertNode source 0 root).HasLevel 404 :=
    hasLevel_of_liesBelow
      ⟨Pairs.body, 3, 401, .step hstatement (.step hcomprehension (.step hbody (.refl _))),
        Or.inl (by decide)⟩
  exact absurd (hall 404 hlevel) (by decide)

end CodeGauge.Grammar
