import CodeGauge.Syntax.Walk
import Mathlib.Order.Bounds.Basic

/-!
The nodes of a syntax tree and the paths that lead down to them. The walk with its stack of pending
trees gives every node once and in the recursive order; the loop depth is the largest number of
loops on a path from the root; and a tree with an added subtree keeps the labels that it had.
-/
namespace CodeGauge.SyntaxNode

mutual

/-- The node and then the nodes of its children, from left to right. -/
def nodes : SyntaxNode → List SyntaxNode
  | .node l children => .node l children :: nodesAll children

def nodesAll : List SyntaxNode → List SyntaxNode
  | [] => []
  | n :: rest => n.nodes ++ nodesAll rest

end

theorem nodes_eq (n : SyntaxNode) : n.nodes = n :: nodesAll n.children := by
  cases n
  rfl

theorem nodesAll_append (ns ms : List SyntaxNode) :
    nodesAll (ns ++ ms) = nodesAll ns ++ nodesAll ms := by
  induction ns with
  | nil => rfl
  | cons n ns ih => simp only [List.cons_append, nodesAll, ih, List.append_assoc]

/-- The stack of the walk holds exactly the trees whose nodes are still to come. -/
theorem walkFrom_eq_nodesAll (pending : List SyntaxNode) :
    walkFrom pending = nodesAll pending := by
  induction pending using walkFrom.induct with
  | case1 => rw [walkFrom, nodesAll]
  | case2 n rest ih =>
    rw [walkFrom, ih, nodesAll_append, nodesAll, nodes_eq]
    rfl

theorem walk_eq_nodes (n : SyntaxNode) : n.walk = n.nodes := by
  rw [walk, walkFrom_eq_nodesAll]
  simp only [nodesAll, List.append_nil]

/-- What the nodes say about themselves, in the order of the walk. -/
def labels (n : SyntaxNode) : List NodeLabel :=
  n.nodes.map label

def labelsAll (ns : List SyntaxNode) : List NodeLabel :=
  (nodesAll ns).map label

@[simp] theorem labels_node (l : NodeLabel) (children : List SyntaxNode) :
    labels (.node l children) = l :: labelsAll children := rfl

@[simp] theorem labelsAll_nil : labelsAll [] = [] := rfl

@[simp] theorem labelsAll_cons (n : SyntaxNode) (rest : List SyntaxNode) :
    labelsAll (n :: rest) = n.labels ++ labelsAll rest := by
  simp only [labelsAll, nodesAll, List.map_append, labels]

theorem labelsAll_append (ns ms : List SyntaxNode) :
    labelsAll (ns ++ ms) = labelsAll ns ++ labelsAll ms := by
  simp only [labelsAll, nodesAll_append, List.map_append]

/-! Loops inside loops. -/

mutual

/-- The depth to which loops are nested in a tree. -/
def loopDepth : SyntaxNode → Nat
  | .node l children => loopDepthAll children + if l.kind.isLoop then 1 else 0

def loopDepthAll : List SyntaxNode → Nat
  | [] => 0
  | n :: rest => max n.loopDepth (loopDepthAll rest)

end

theorem loopDepth_eq (n : SyntaxNode) :
    n.loopDepth = loopDepthAll n.children + if n.isLoop then 1 else 0 := by
  cases n
  rfl

theorem loopDepth_le_loopDepthAll {n : SyntaxNode} {ns : List SyntaxNode} (hn : n ∈ ns) :
    n.loopDepth ≤ loopDepthAll ns := by
  induction ns with
  | nil => exact absurd hn List.not_mem_nil
  | cons m ns ih =>
    rw [loopDepthAll]
    rcases List.mem_cons.mp hn with rfl | hn
    · exact Nat.le_max_left _ _
    · exact Nat.le_trans (ih hn) (Nat.le_max_right _ _)

theorem loopDepthAll_append (ns ms : List SyntaxNode) :
    loopDepthAll (ns ++ ms) = max (loopDepthAll ns) (loopDepthAll ms) := by
  induction ns with
  | nil => simp only [List.nil_append, loopDepthAll, Nat.zero_max]
  | cons n ns ih => simp only [List.cons_append, loopDepthAll, ih, Nat.max_assoc]

/-- The nodes on the way from a root down to one of its nodes, both included. -/
inductive IsPath : SyntaxNode → List SyntaxNode → Prop where
  | root (n : SyntaxNode) : IsPath n [n]
  | step {n child : SyntaxNode} {path : List SyntaxNode} (hchild : child ∈ n.children)
      (hpath : IsPath child path) : IsPath n (n :: path)

/-- The number of loops on a path. -/
def loopsOn (path : List SyntaxNode) : Nat :=
  path.countP (·.isLoop)

theorem IsPath.loopsOn_le {n : SyntaxNode} {path : List SyntaxNode} (h : n.IsPath path) :
    loopsOn path ≤ n.loopDepth := by
  induction h with
  | root n =>
    rw [loopDepth_eq]
    simp only [loopsOn, List.countP_cons, List.countP_nil]
    omega
  | step hchild _ ih =>
    have hle := Nat.le_trans ih (loopDepth_le_loopDepthAll hchild)
    rw [loopDepth_eq]
    simp only [loopsOn, List.countP_cons] at hle ⊢
    omega

/-- The deepest of several trees, or nothing when none of them has a loop. -/
theorem loopDepthAll_attained (ns : List SyntaxNode) :
    loopDepthAll ns = 0 ∨ ∃ n ∈ ns, n.loopDepth = loopDepthAll ns := by
  induction ns with
  | nil => exact Or.inl rfl
  | cons m ns ih =>
    rw [loopDepthAll]
    rcases Nat.le_total (loopDepthAll ns) m.loopDepth with hle | hle
    · exact Or.inr ⟨m, List.mem_cons_self, (Nat.max_eq_left hle).symm⟩
    · rw [Nat.max_eq_right hle]
      rcases ih with hzero | ⟨n, hn, heq⟩
      · exact Or.inl hzero
      · exact Or.inr ⟨n, List.mem_cons_of_mem m hn, heq⟩

/-- Some path has as many loops as the depth says. The path goes down into the deepest child; where
no child has a loop it ends. -/
theorem exists_path_loopsOn_eq (n : SyntaxNode) :
    ∃ path, n.IsPath path ∧ loopsOn path = n.loopDepth := by
  rw [loopDepth_eq]
  rcases loopDepthAll_attained n.children with hzero | ⟨child, hchild, heq⟩
  · refine ⟨[n], IsPath.root n, ?_⟩
    rw [hzero]
    simp only [loopsOn, List.countP_cons, List.countP_nil]
  · obtain ⟨path, hpath, hloops⟩ := exists_path_loopsOn_eq child
    refine ⟨n :: path, IsPath.step hchild hpath, ?_⟩
    rw [← heq, ← hloops]
    simp only [loopsOn, List.countP_cons]
termination_by sizeOf n
decreasing_by
  cases n
  have := List.sizeOf_lt_of_mem hchild
  simp only [children] at this
  simp only [node.sizeOf_spec]
  omega

theorem loopDepth_isGreatest (n : SyntaxNode) :
    IsGreatest {k | ∃ path, n.IsPath path ∧ loopsOn path = k} n.loopDepth := by
  constructor
  · exact exists_path_loopsOn_eq n
  · rintro k ⟨path, hpath, rfl⟩
    exact hpath.loopsOn_le

mutual

theorem loopDepth_eq_zero_iff :
    ∀ n : SyntaxNode, n.loopDepth = 0 ↔ n.labels.countP (·.kind.isLoop) = 0
  | .node l children => by
    have ih := loopDepthAll_eq_zero_iff children
    rw [loopDepth, labels_node, List.countP_cons]
    omega

theorem loopDepthAll_eq_zero_iff :
    ∀ ns : List SyntaxNode, loopDepthAll ns = 0 ↔ (labelsAll ns).countP (·.kind.isLoop) = 0
  | [] => by simp only [loopDepthAll, labelsAll_nil, List.countP_nil]
  | n :: rest => by
    have hn := loopDepth_eq_zero_iff n
    have hrest := loopDepthAll_eq_zero_iff rest
    rw [loopDepthAll, labelsAll_cons, List.countP_append]
    omega

end

/-! Trees that grow. -/

/-- The second tree is the first with one subtree added, anywhere among the children of a node. -/
inductive GrowsTo : SyntaxNode → SyntaxNode → Prop where
  | here (l : NodeLabel) (before after : List SyntaxNode) (added : SyntaxNode) :
      GrowsTo (.node l (before ++ after)) (.node l (before ++ added :: after))
  | inside (l : NodeLabel) (before after : List SyntaxNode) {child child' : SyntaxNode}
      (hchild : GrowsTo child child') :
      GrowsTo (.node l (before ++ child :: after)) (.node l (before ++ child' :: after))

theorem GrowsTo.label_eq {t t' : SyntaxNode} (h : t.GrowsTo t') : t'.label = t.label := by
  cases h <;> rfl

theorem GrowsTo.labels_sublist {t t' : SyntaxNode} (h : t.GrowsTo t') :
    t.labels.Sublist t'.labels := by
  induction h with
  | here l before after added =>
    rw [labels_node, labels_node, labelsAll_append, labelsAll_append, labelsAll_cons]
    exact ((List.Sublist.refl _).append (List.sublist_append_right _ _)).cons_cons l
  | inside l before after _ ih =>
    rw [labels_node, labels_node, labelsAll_append, labelsAll_append, labelsAll_cons,
      labelsAll_cons]
    exact ((List.Sublist.refl _).append (ih.append (List.Sublist.refl _))).cons_cons l

theorem GrowsTo.loopDepth_le {t t' : SyntaxNode} (h : t.GrowsTo t') :
    t.loopDepth ≤ t'.loopDepth := by
  induction h with
  | here l before after added =>
    simp only [loopDepth, loopDepthAll_append, loopDepthAll]
    omega
  | inside l before after _ ih =>
    simp only [loopDepth, loopDepthAll_append, loopDepthAll]
    omega

end CodeGauge.SyntaxNode
