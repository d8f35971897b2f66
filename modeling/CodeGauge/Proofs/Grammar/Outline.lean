import CodeGauge.Grammar.Convert
import CodeGauge.Proofs.Metrics.Tree
import Mathlib.Data.List.Forall2

/-!
What a conversion keeps of a parse tree without comprehensions. The outline of a parse tree goes
through named children only, ends at strings, and is cut off below the greatest depth. The syntax
tree has exactly the shape of the outline, and so its loops are those of the outline.
-/
namespace CodeGauge

/-- What is kept of a parse tree: nodes with the outlines of their kept children, and a mark where a
node lies too deep. -/
inductive Outline where
  | kept (node : ParseTree) (children : List Outline)
  | cutOff

namespace Outline

mutual

/-- The kept nodes, each before those below it. -/
def nodes : Outline → List ParseTree
  | .kept n children => n :: nodesAll children
  | .cutOff => []

def nodesAll : List Outline → List ParseTree
  | [] => []
  | o :: rest => o.nodes ++ nodesAll rest

end

/-- The kept nodes on the way from the root down to one of them, both included. -/
inductive IsPath : Outline → List ParseTree → Prop where
  | root (n : ParseTree) (children : List Outline) : IsPath (.kept n children) [n]
  | step {n : ParseTree} {child : Outline} {children : List Outline} {path : List ParseTree}
      (hchild : child ∈ children) (hpath : IsPath child path) :
      IsPath (.kept n children) (n :: path)

/-- The syntax tree has the shape of the outline. Each node stands for the parse node in its place
and has its text, unless it is a plain one; where the outline is cut off there is an empty leaf. -/
inductive Renders (g : Grammar) (source : Text) : Outline → SyntaxNode → Prop where
  | kept {n : ParseTree} {outlines : List Outline} {label : NodeLabel} {children : List SyntaxNode}
      (hkind : label.kind = g.kindOf source n)
      (htext : label.kind ≠ .other → label.text = n.text source)
      (hchildren : List.Forall₂ (Renders g source) outlines children) :
      Renders g source (.kept n outlines) (.node label children)
  | cutOff : Renders g source .cutOff (.node { kind := .other } [])

end Outline

namespace Grammar

mutual

/-- The outline of a node that lies `depth` levels below the root. -/
def outline (g : Grammar) (source : Text) (depth : Nat) : ParseTree → Outline
  | .node label children =>
    if maxTreeDepth < depth then .cutOff
    else if g.kindOf source (.node label children) = .string then .kept (.node label children) []
    else .kept (.node label children) (g.outlineNamed source (depth + 1) children)

/-- The outlines of the named ones among nodes that lie `depth` levels below the root. -/
def outlineNamed (g : Grammar) (source : Text) (depth : Nat) : List ParseTree → List Outline
  | [] => []
  | n :: rest =>
    if n.label.named then g.outline source depth n :: g.outlineNamed source depth rest
    else g.outlineNamed source depth rest

end

/-- Whether the grammar counts nodes of this type as loops. -/
def isLoopNode (g : Grammar) (n : ParseTree) : Bool :=
  (g.loopTypes.lookup n.type).isSome

variable {g : Grammar} {source : Text}

theorem labelOf_kind (n : ParseTree) : (g.labelOf source n).kind = g.kindOf source n := by
  cases hkind : g.kindOf source n <;> simp [labelOf, hkind]

theorem labelOf_text (n : ParseTree) (hkind : g.kindOf source n ≠ .other) :
    (g.labelOf source n).text = n.text source := by
  cases hkind' : g.kindOf source n with
  | other => exact absurd hkind' hkind
  | _ => simp [labelOf, hkind']

theorem isLoop_of_lookup {type : Text} {kind : NodeKind}
    (h : g.loopTypes.lookup type = some kind) : kind.isLoop = true := by
  have hall : ∀ entry ∈ g.loopTypes, entry.2.isLoop = true := by
    cases g <;> decide
  obtain ⟨entry, hentry, rfl⟩ : ∃ entry ∈ g.loopTypes, entry.2 = kind := by
    rw [List.lookup_eq_findSome?] at h
    obtain ⟨entry, hentry, hsome⟩ := List.exists_of_findSome?_eq_some h
    refine ⟨entry, hentry, ?_⟩
    split at hsome
    · exact Option.some.inj hsome
    · exact absurd hsome (by simp)
  exact hall entry hentry

/-- Without constructor calls among the calls, a node is a loop exactly when its type is one. -/
theorem isLoop_kindOf (hg : g ≠ .python) (n : ParseTree) :
    (g.kindOf source n).isLoop = g.isLoopNode n := by
  have hnone : g.constructedCollection? source n = none := by
    simp [constructedCollection?, hg]
  rw [kindOf, hnone, isLoopNode]
  cases hlookup : g.loopTypes.lookup n.type with
  | some kind => simpa using isLoop_of_lookup hlookup
  | none =>
    simp only [Option.isSome_none, Bool.false_eq_true, if_false]
    split_ifs <;> rfl

mutual

/-- Without comprehensions, conversion renders the outline. -/
theorem renders_convertNode (hg : g.comprehensionTypes = []) (depth : Nat) :
    ∀ n : ParseTree, (g.outline source depth n).Renders g source (g.convertNode source depth n)
  | .node label children => by
    have hplain : ¬g.comprehensionTypes.contains label.type = true := by simp [hg]
    rw [outline, convertNode]
    by_cases hdeep : maxTreeDepth < depth
    · rw [if_pos hdeep, if_pos hdeep]
      exact Outline.Renders.cutOff
    · rw [if_neg hdeep, if_neg hdeep, if_neg hplain]
      have hkind : (g.labelOf source (.node label children)).kind =
          g.kindOf source (.node label children) := labelOf_kind _
      have htext (hother : (g.labelOf source (.node label children)).kind ≠ .other) :=
        labelOf_text (.node label children) (hkind ▸ hother)
      by_cases hstring : g.kindOf source (.node label children) = .string
      · rw [if_pos hstring, if_pos hstring]
        exact Outline.Renders.kept hkind htext List.Forall₂.nil
      · rw [if_neg hstring, if_neg hstring]
        exact Outline.Renders.kept hkind htext (renders_convertAll hg (depth + 1) children)

theorem renders_convertAll (hg : g.comprehensionTypes = []) (depth : Nat) :
    ∀ ns : List ParseTree,
      List.Forall₂ (Outline.Renders g source) (g.outlineNamed source depth ns)
        (((g.convertAll source depth ns).filter (·.1.label.named)).map Prod.snd)
  | [] => List.Forall₂.nil
  | n :: rest => by
    have hrest := renders_convertAll hg depth rest
    rw [outlineNamed, convertAll]
    by_cases hnamed : n.label.named = true
    · simp only [hnamed, List.filter_cons, if_true, List.map_cons]
      exact List.Forall₂.cons (renders_convertNode hg depth n) hrest
    · simp only [hnamed, List.filter_cons, Bool.false_eq_true, if_false]
      exact hrest

end

end Grammar

namespace Outline

variable {g : Grammar} {source : Text}

mutual

/-- The loops of a rendered tree are the kept nodes that are loops; a cut-off leaf is none. -/
theorem countP_isLoop_eq (hloop : ∀ n, (g.kindOf source n).isLoop = g.isLoopNode n) :
    ∀ (o : Outline) {t : SyntaxNode}, o.Renders g source t →
      t.labels.countP (·.kind.isLoop) = o.nodes.countP g.isLoopNode
  | .cutOff, _, .cutOff => rfl
  | .kept n outlines, _, .kept hkind _ hchildren => by
    rw [SyntaxNode.labels_node, nodes, List.countP_cons, List.countP_cons,
      countP_isLoop_all_eq hloop outlines hchildren, hkind, hloop]

theorem countP_isLoop_all_eq (hloop : ∀ n, (g.kindOf source n).isLoop = g.isLoopNode n) :
    ∀ (os : List Outline) {ts : List SyntaxNode}, List.Forall₂ (Renders g source) os ts →
      (SyntaxNode.labelsAll ts).countP (·.kind.isLoop) = (nodesAll os).countP g.isLoopNode
  | [], _, .nil => rfl
  | o :: rest, _, .cons ho hrest => by
    rw [SyntaxNode.labelsAll_cons, nodesAll, List.countP_append, List.countP_append,
      countP_isLoop_eq hloop o ho, countP_isLoop_all_eq hloop rest hrest]

end

theorem exists_mem_of_forall₂ {α β : Type} {R : α → β → Prop} {as : List α} {bs : List β}
    (h : List.Forall₂ R as bs) {a : α} (ha : a ∈ as) : ∃ b ∈ bs, R a b := by
  induction h with
  | nil => exact absurd ha List.not_mem_nil
  | cons hab _ ih =>
    rcases List.mem_cons.mp ha with rfl | ha
    · exact ⟨_, List.mem_cons_self, hab⟩
    · obtain ⟨b, hb, hab'⟩ := ih ha
      exact ⟨b, List.mem_cons_of_mem _ hb, hab'⟩

theorem Renders.children {n : ParseTree} {outlines : List Outline} {t : SyntaxNode}
    (ht : (Outline.kept n outlines).Renders g source t) :
    List.Forall₂ (Renders g source) outlines t.children := by
  cases ht with
  | kept _ _ hchildren => exact hchildren

section Loops

variable (hloop : ∀ n, (g.kindOf source n).isLoop = g.isLoopNode n)

include hloop

theorem Renders.isLoop_eq {n : ParseTree} {outlines : List Outline} {t : SyntaxNode}
    (ht : (Outline.kept n outlines).Renders g source t) : t.isLoop = g.isLoopNode n := by
  cases ht with
  | kept hkind _ _ =>
    rw [← hloop, ← hkind]
    rfl

/-- Every path of an outline is a path of the tree that renders it. -/
theorem IsPath.exists_rendered {o : Outline} {path : List ParseTree} (hpath : o.IsPath path)
    {t : SyntaxNode} (ht : o.Renders g source t) :
    ∃ path', t.IsPath path' ∧ path'.countP (·.isLoop) = path.countP g.isLoopNode := by
  induction hpath generalizing t with
  | root n outlines =>
    refine ⟨[t], SyntaxNode.IsPath.root t, ?_⟩
    simp only [List.countP_cons, List.countP_nil, ht.isLoop_eq hloop]
  | step hchild _ ih =>
    obtain ⟨child, hmem, hrenders⟩ := exists_mem_of_forall₂ ht.children hchild
    obtain ⟨path', hpath', hcount⟩ := ih hrenders
    refine ⟨t :: path', SyntaxNode.IsPath.step hmem hpath', ?_⟩
    simp only [List.countP_cons, hcount, ht.isLoop_eq hloop]

/-- A path of a rendered tree passes the loops of a path of the outline, unless it ends at once in a
leaf that is cut off. -/
theorem exists_path_of_rendered {t : SyntaxNode} {path' : List SyntaxNode}
    (hpath' : t.IsPath path') {o : Outline} (ht : o.Renders g source t) :
    path'.countP (·.isLoop) = 0 ∨
      ∃ path, o.IsPath path ∧ path.countP g.isLoopNode = path'.countP (·.isLoop) := by
  induction hpath' generalizing o with
  | root t =>
    cases o with
    | kept n outlines =>
      refine Or.inr ⟨[n], IsPath.root n outlines, ?_⟩
      simp only [List.countP_cons, List.countP_nil, ht.isLoop_eq hloop]
    | cutOff =>
      cases ht
      exact Or.inl rfl
  | step hchild _ ih =>
    cases o with
    | kept n outlines =>
      obtain ⟨below, hmem, hrenders⟩ := exists_mem_of_forall₂ ht.children.flip hchild
      rcases ih hrenders with hzero | ⟨path, hpath, hcount⟩
      · refine Or.inr ⟨[n], IsPath.root n outlines, ?_⟩
        simp only [List.countP_cons, List.countP_nil, hzero, ht.isLoop_eq hloop]
      · refine Or.inr ⟨n :: path, IsPath.step hmem hpath, ?_⟩
        simp only [List.countP_cons, hcount, ht.isLoop_eq hloop]
    | cutOff =>
      cases ht
      exact absurd hchild List.not_mem_nil

/-- Below a root that is no loop itself, a tree and its outline have the same numbers of loops on
their paths. -/
theorem exists_path_countP_iff {n : ParseTree} {below : List Outline} {t : SyntaxNode}
    (hroot : t.isLoop = false) (hchildren : List.Forall₂ (Renders g source) below t.children)
    (k : Nat) :
    (∃ path', t.IsPath path' ∧ path'.countP (·.isLoop) = k) ↔
      ∃ path, (kept n below).IsPath (n :: path) ∧ path.countP g.isLoopNode = k := by
  constructor
  · rintro ⟨path', hpath', rfl⟩
    cases hpath' with
    | root => exact ⟨[], IsPath.root n below, by simp [hroot]⟩
    | step hchild hpath' =>
      obtain ⟨o, ho, hrenders⟩ := exists_mem_of_forall₂ hchildren.flip hchild
      rw [List.countP_cons_of_neg (by simp [hroot])]
      rcases exists_path_of_rendered hloop hpath' hrenders with hzero | ⟨path, hpath, hcount⟩
      · exact ⟨[], IsPath.root n below, hzero.symm⟩
      · exact ⟨path, IsPath.step ho hpath, hcount⟩
  · rintro ⟨path, hpath, rfl⟩
    cases hpath with
    | root => exact ⟨[t], SyntaxNode.IsPath.root t, by simp [hroot]⟩
    | step ho hpath =>
      obtain ⟨child, hmem, hrenders⟩ := exists_mem_of_forall₂ hchildren ho
      obtain ⟨path', hpath', hcount⟩ := hpath.exists_rendered hloop hrenders
      refine ⟨t :: path', SyntaxNode.IsPath.step hmem hpath', ?_⟩
      rw [List.countP_cons_of_neg (by simp [hroot]), hcount]

end Loops

end Outline

namespace Metrics

theorem ofTree_loopCount (t : SyntaxNode) (declared : Text) (hroot : t.isLoop = false) :
    (ofTree t declared).loopCount = (SyntaxNode.labelsAll t.children).countP (·.kind.isLoop) := by
  cases t with
  | node label children =>
    have hlabel : label.kind.isLoop = false := hroot
    rw [ofTree_eq_tally]
    simp only [tally, SyntaxNode.labels_node, List.countP_cons, hlabel, Bool.false_eq_true,
      if_false, Nat.add_zero]
    rfl

theorem ofTree_maxNestedDepth (t : SyntaxNode) (declared : Text) :
    (ofTree t declared).maxNestedDepth = t.loopDepth := by
  rw [ofTree_eq_tally]
  rfl

end Metrics

namespace Grammar

theorem exists_outline_eq_kept (g : Grammar) (source : Text) (n : ParseTree) :
    ∃ below, g.outline source 0 n = .kept n below := by
  cases n with
  | node label children =>
    rw [outline, if_neg (Nat.not_lt_zero _)]
    split_ifs
    · exact ⟨[], rfl⟩
    · exact ⟨_, rfl⟩

/-- Conversion loses, duplicates and reorders nothing in a grammar without comprehensions. The
syntax tree has the shape, the kinds and the texts of the outline; a root of its own kind keeps its
text and what is below it; and the loops of a unit are those of the outline below its root. -/
theorem convert_keeps_outline (g : Grammar) (hg : g = .java ∨ g = .javascript) (source : Text)
    (n : ParseTree) :
    (g.outline source 0 n).Renders g source (g.convertNode source 0 n) ∧
    ∃ below, g.outline source 0 n = .kept n below ∧
      (∀ (kind : NodeKind) (name : Text),
        (g.convertRoot source kind name n).kind = kind ∧
        (g.convertRoot source kind name n).text = n.text source ∧
        List.Forall₂ (Outline.Renders g source) below
          (g.convertRoot source kind name n).children) ∧
      ∀ (parent : Option ParseTree) (u : CodeUnit),
        let m := { u with tree := some (g.convertUnit source ⟨parent, n⟩) : CodeUnit }.treeMetrics
        m.loopCount = (Outline.nodesAll below).countP g.isLoopNode ∧
        ∃ depth : Nat, m.maxNestedDepth = depth ∧
          IsGreatest
            {k | ∃ path, (g.outline source 0 n).IsPath (n :: path) ∧
              path.countP g.isLoopNode = k} depth := by
  have hcomprehensions : g.comprehensionTypes = [] := by
    rcases hg with rfl | rfl <;> rfl
  have hloop (n : ParseTree) : (g.kindOf source n).isLoop = g.isLoopNode n := by
    apply isLoop_kindOf
    rcases hg with rfl | rfl <;> decide
  have hrenders : (g.outline source 0 n).Renders g source (g.convertNode source 0 n) :=
    renders_convertNode hcomprehensions 0 n
  obtain ⟨below, hbelow⟩ := exists_outline_eq_kept g source n
  have hchildren : List.Forall₂ (Outline.Renders g source) below
      (g.convertNode source 0 n).children :=
    (hbelow ▸ hrenders).children
  refine ⟨hrenders, below, hbelow, ?root, ?loops⟩
  case root => exact fun kind name => ⟨rfl, rfl, hchildren⟩
  case loops =>
    intro parent u m
    have hm : m = Metrics.ofTree (g.convertUnit source ⟨parent, n⟩) u.name := rfl
    have hroot : (g.convertUnit source ⟨parent, n⟩).isLoop = false := by
      cases hdeclaration : g.isDeclarationUnit n <;>
        simp [convertUnit, convertRoot, hdeclaration, SyntaxNode.isLoop, SyntaxNode.kind,
          SyntaxNode.label, NodeKind.isLoop]
    rw [hm]
    constructor
    · rw [Metrics.ofTree_loopCount _ _ hroot]
      exact congrArg Int.ofNat (Outline.countP_isLoop_all_eq hloop below hchildren)
    · refine ⟨_, Metrics.ofTree_maxNestedDepth _ _, ?_⟩
      have hpaths (k : Nat) := Outline.exists_path_countP_iff hloop (n := n) hroot hchildren k
      simp only [hbelow, ← hpaths]
      exact SyntaxNode.loopDepth_isGreatest _

namespace NestedLoops

def source : Text :=
  "void f() \x7b for (int i = 0; i < n; i++) \x7b while (ready(\"x\")) \x7b \x7d \x7d \x7d"

def inner : ParseTree :=
  .node { type := "while_statement", start := 41, stop := 63, field := some "body" }
    [.node { type := "while", start := 41, stop := 46, named := false } [],
      .node { type := "method_invocation", start := 48, stop := 58, field := some "condition" }
        [.node { type := "string_literal", start := 54, stop := 57 }
          [.node { type := "string_fragment", start := 55, stop := 56 } []]]]

def method : ParseTree :=
  .node { type := "method_declaration", start := 0, stop := 67 }
    [.node { type := "identifier", start := 5, stop := 6, field := some "name" } [],
      .node { type := "for_statement", start := 11, stop := 65 } [inner]]

end NestedLoops

open NestedLoops in
/-- A loop inside a loop: the unnamed keyword and the inside of the string are left out. -/
theorem convert_keeps_outline_of_nested_loops :
    (java = .java ∨ java = .javascript) ∧
      ∃ below, java.outline source 0 method = .kept method below ∧
        (Outline.nodesAll below).length = 5 ∧
        ∀ u : CodeUnit,
          { u with tree := some (java.convertUnit source ⟨none, method⟩) : CodeUnit
            }.treeMetrics.loopCount = 2 := by
  obtain ⟨-, below, hbelow, -, hloops⟩ :=
    convert_keeps_outline java (Or.inl rfl) source method
  have hkept : java.outline source 0 method =
      .kept method (java.outlineNamed source 1 method.children) := rfl
  obtain rfl := (Outline.kept.inj (hkept.symm.trans hbelow)).2
  refine ⟨Or.inl rfl, _, hbelow, by decide +kernel, ?_⟩
  intro u
  rw [(hloops none u).1]
  decide +kernel

end Grammar

end CodeGauge
