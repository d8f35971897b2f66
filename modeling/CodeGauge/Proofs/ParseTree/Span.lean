import CodeGauge.Proofs.ParseTree.Path
import Mathlib.Data.Prod.Lex
import Mathlib.Order.Interval.Set.Basic

/-!
Spans of parse trees. Where the children of every node lie inside it, one behind the other and none
empty, the nodes around a point form a single way down from the root: there is at most one of them
at each depth, and the way down to the point passes through all of them.
-/
namespace CodeGauge

namespace Point

/-- Points in the order of the text: by row, then by column. -/
instance : LinearOrder Point :=
  LinearOrder.lift' (fun p => toLex (p.row, p.column)) fun p q h => by
    cases p
    cases q
    simpa using h

theorem before_iff_lt {p q : Point} : p.before q = true ↔ p < q := by
  have hlex : p < q ↔ toLex (p.row, p.column) < toLex (q.row, q.column) := Iff.rfl
  rw [hlex, Prod.Lex.toLex_lt_toLex]
  simp [before]

end Point

namespace ParseTree

variable {source : Text} {p : Point} {n root : ParseTree}

/-- The points from the start of a node up to, not including, its end. -/
def span (source : Text) (n : ParseTree) : Set Point :=
  Set.Ico (n.startPoint source) (n.stopPoint source)

/-- The children of the node are not empty, lie inside it, and stand one behind the other. -/
structure SpansChildren (source : Text) (n : ParseTree) : Prop where
  nonempty : ∀ c ∈ n.children, c.startPoint source < c.stopPoint source
  inside : ∀ c ∈ n.children,
    n.startPoint source ≤ c.startPoint source ∧ c.stopPoint source ≤ n.stopPoint source
  ordered : n.children.Pairwise fun c c' => c.stopPoint source ≤ c'.startPoint source

/-- Every node of the tree spans its children. -/
def WellSpanned (source : Text) (root : ParseTree) : Prop :=
  ∀ n ∈ root.descendants, n.SpansChildren source

instance (source : Text) (n : ParseTree) : Decidable (n.SpansChildren source) :=
  decidable_of_iff
    ((∀ c ∈ n.children, c.startPoint source < c.stopPoint source) ∧
      (∀ c ∈ n.children,
        n.startPoint source ≤ c.startPoint source ∧ c.stopPoint source ≤ n.stopPoint source) ∧
      n.children.Pairwise fun c c' => c.stopPoint source ≤ c'.startPoint source)
    ⟨fun ⟨hnonempty, hinside, hordered⟩ => ⟨hnonempty, hinside, hordered⟩,
      fun h => ⟨h.nonempty, h.inside, h.ordered⟩⟩

instance (source : Text) (root : ParseTree) : Decidable (root.WellSpanned source) :=
  inferInstanceAs (Decidable (∀ n ∈ root.descendants, n.SpansChildren source))

/-- The second site lies in the tree of the first, so many steps below it. -/
inductive IsDescent : Site → Nat → Site → Prop where
  | here (s : Site) : IsDescent s 0 s
  | step {s s' s'' : Site} {depth : Nat} (hstep : IsStep s s') (hdescent : IsDescent s' depth s'') :
      IsDescent s (depth + 1) s''

theorem sites_map_node (parent : Option ParseTree) (n : ParseTree) :
    (n.sites parent).map Site.node = n.descendants := by
  cases n with
  | node label children => simp only [descendants, sites, List.map_cons]

theorem sitesAll_map_node (parent : ParseTree) (ns : List ParseTree) :
    (sitesAll parent ns).map Site.node = ns.flatMap descendants := by
  induction ns with
  | nil => rfl
  | cons n rest ih =>
    rw [sitesAll, List.map_append, sites_map_node, ih, List.flatMap_cons]

theorem descendants_eq (n : ParseTree) :
    n.descendants = n :: n.children.flatMap descendants := by
  cases n with
  | node label children =>
    rw [descendants, sites, List.map_cons, sitesAll_map_node]
    rfl

theorem WellSpanned.spansChildren (h : root.WellSpanned source) : root.SpansChildren source := by
  apply h
  rw [descendants_eq]
  exact List.mem_cons_self

theorem WellSpanned.child (h : root.WellSpanned source) (hn : n ∈ root.children) :
    n.WellSpanned source := by
  intro n' hn'
  apply h
  rw [descendants_eq]
  exact List.mem_cons_of_mem root (List.mem_flatMap.mpr ⟨n, hn, hn'⟩)

/-- Nothing below a node reaches out of it. -/
theorem IsDescent.span_subset {s s' : Site} {depth : Nat} (hdescent : IsDescent s depth s')
    (h : s.node.WellSpanned source) : s'.node.span source ⊆ s.node.span source := by
  induction hdescent with
  | here s => exact subset_rfl
  | step hstep _ ih =>
    obtain ⟨hstart, hstop⟩ := h.spansChildren.inside _ hstep.2
    exact (ih (h.child hstep.2)).trans (Set.Ico_subset_Ico hstart hstop)

/-- A node that is not empty lies before a point when the point is not before its end. -/
theorem endsBefore_iff_le (hnonempty : n.startPoint source < n.stopPoint source) :
    n.endsBefore source p = true ↔ n.stopPoint source ≤ p := by
  simp only [endsBefore, Bool.or_eq_true, Bool.and_eq_true, decide_eq_true_eq,
    Point.before_iff_lt, le_iff_lt_or_eq]
  constructor
  · rintro (hlt | ⟨heq, -⟩)
    · exact Or.inl hlt
    · exact Or.inr heq
  · rintro (hlt | heq)
    · exact Or.inl hlt
    · exact Or.inr ⟨heq, hnonempty.ne⟩

mutual

/-- At each depth the way down to a point has the one site of this depth that the point is in. -/
theorem getElem?_pathTo_eq_some_iff (parent : Option ParseTree) (depth : Nat) (s : Site) :
    ∀ n : ParseTree, n.WellSpanned source →
      ((n.pathTo source p parent)[depth]? = some s ↔
        IsDescent ⟨parent, n⟩ depth s ∧ (depth = 0 ∨ p ∈ s.node.span source))
  | .node label children, h => by
    rw [pathTo]
    cases depth with
    | zero =>
      rw [List.getElem?_cons_zero, Option.some.injEq]
      constructor
      · rintro rfl
        exact ⟨IsDescent.here _, Or.inl rfl⟩
      · rintro ⟨hdescent, -⟩
        cases hdescent
        rfl
    | succ depth =>
      rw [List.getElem?_cons_succ,
        getElem?_pathAmong_eq_some_iff (.node label children) depth s children
          (fun n hn => h.child hn) h.spansChildren.nonempty h.spansChildren.ordered]
      constructor
      · rintro ⟨n, hn, hdescent, hp⟩
        exact ⟨IsDescent.step ⟨rfl, hn⟩ hdescent, Or.inr hp⟩
      · rintro ⟨hdescent, hp⟩
        cases hdescent with
        | step hstep hdescent =>
          rename_i s'
          obtain ⟨parent', n⟩ := s'
          obtain ⟨rfl, hn⟩ := hstep
          exact ⟨n, hn, hdescent, hp.resolve_left (Nat.succ_ne_zero depth)⟩

theorem getElem?_pathAmong_eq_some_iff (parent : ParseTree) (depth : Nat) (s : Site) :
    ∀ ns : List ParseTree, (∀ n ∈ ns, n.WellSpanned source) →
      (∀ n ∈ ns, n.startPoint source < n.stopPoint source) →
      (ns.Pairwise fun n n' => n.stopPoint source ≤ n'.startPoint source) →
      ((pathAmong source p parent ns)[depth]? = some s ↔
        ∃ n ∈ ns, IsDescent ⟨some parent, n⟩ depth s ∧ p ∈ s.node.span source)
  | [], _, _, _ => by simp [pathAmong]
  | n :: rest, hwell, hnonempty, hordered => by
    obtain ⟨hwelln, hwellrest⟩ := List.forall_mem_cons.mp hwell
    obtain ⟨hnonemptyn, hnonemptyrest⟩ := List.forall_mem_cons.mp hnonempty
    obtain ⟨hbehind, horderedrest⟩ := List.pairwise_cons.mp hordered
    have hin {n' : ParseTree} {depth : Nat} {s : Site}
        (hdescent : IsDescent ⟨some parent, n'⟩ depth s) (hwell : n'.WellSpanned source)
        (hp : p ∈ s.node.span source) : p ∈ n'.span source :=
      hdescent.span_subset hwell hp
    rw [pathAmong]
    by_cases hends : n.stopPoint source ≤ p
    · rw [if_pos ((endsBefore_iff_le hnonemptyn).mpr hends),
        getElem?_pathAmong_eq_some_iff parent depth s rest hwellrest hnonemptyrest horderedrest,
        List.exists_mem_cons_iff]
      constructor
      · exact Or.inr
      · rintro (⟨hdescent, hp⟩ | hrest)
        · exact absurd (hin hdescent hwelln hp).2 (not_lt.mpr hends)
        · exact hrest
    · rw [if_neg (fun hbefore => hends ((endsBefore_iff_le hnonemptyn).mp hbefore))]
      have hstops : p < n.stopPoint source := not_le.mp hends
      -- the point is not in a later sibling, which starts where this one has ended
      have hlater {n' : ParseTree} (hn' : n' ∈ rest) : p ∉ n'.span source :=
        fun hp => absurd (hstops.trans_le (hbehind n' hn')) (not_lt.mpr hp.1)
      by_cases hstarts : p < n.startPoint source
      · rw [if_pos (Point.before_iff_lt.mpr hstarts)]
        constructor
        · intro hnone
          exact absurd hnone (by simp)
        · rintro ⟨n', hn', hdescent, hp⟩
          have hp' := hin hdescent (hwell n' hn') hp
          rcases List.mem_cons.mp hn' with rfl | hn'
          · exact absurd hp'.1 (not_le.mpr hstarts)
          · exact absurd hp' (hlater hn')
      · rw [if_neg (fun hbefore => hstarts (Point.before_iff_lt.mp hbefore)),
          getElem?_pathTo_eq_some_iff (some parent) depth s n hwelln]
        constructor
        · rintro ⟨hdescent, hp⟩
          refine ⟨n, List.mem_cons_self, hdescent, ?_⟩
          rcases hp with rfl | hp
          · cases hdescent
            exact ⟨not_lt.mp hstarts, hstops⟩
          · exact hp
        · rintro ⟨n', hn', hdescent, hp⟩
          rcases List.mem_cons.mp hn' with rfl | hn'
          · exact ⟨hdescent, Or.inr hp⟩
          · exact absurd (hin hdescent (hwellrest n' hn') hp) (hlater hn')

end

end ParseTree
end CodeGauge
