import CodeGauge.Proofs.Grammar.Outline

/-!
Comprehensions as nested loops. The clauses of a comprehension are siblings in the parse tree; in
the syntax tree each loop clause encloses the clauses behind it, each condition stands inside the
loops before it, and the body is inside all of them. Nothing is lost, repeated or out of order.
-/
namespace CodeGauge

namespace SyntaxNode

mutual

/-- The nodes of a tree, each before its children and with the nodes around it, innermost first. -/
def within (around : List SyntaxNode) : SyntaxNode → List (List SyntaxNode × SyntaxNode)
  | .node label children =>
    (around, .node label children) :: withinAll (.node label children :: around) children

def withinAll (around : List SyntaxNode) : List SyntaxNode → List (List SyntaxNode × SyntaxNode)
  | [] => []
  | n :: rest => n.within around ++ withinAll around rest

end

theorem within_eq (around : List SyntaxNode) (n : SyntaxNode) :
    n.within around = (around, n) :: withinAll (n :: around) n.children := by
  cases n
  rfl

theorem withinAll_append (around ns ms : List SyntaxNode) :
    withinAll around (ns ++ ms) = withinAll around ns ++ withinAll around ms := by
  induction ns with
  | nil => rfl
  | cons n ns ih => simp only [List.cons_append, withinAll, ih, List.append_assoc]

mutual

theorem map_snd_within (around : List SyntaxNode) :
    ∀ n : SyntaxNode, (n.within around).map Prod.snd = n.nodes
  | .node label children => by
    rw [within, List.map_cons, map_snd_withinAll _ children]
    rfl

theorem map_snd_withinAll (around : List SyntaxNode) :
    ∀ ns : List SyntaxNode, (withinAll around ns).map Prod.snd = nodesAll ns
  | [] => rfl
  | n :: rest => by
    rw [withinAll, List.map_append, map_snd_within around n, map_snd_withinAll around rest]
    rfl

end

/-- The loops among nodes that lie one inside the other, innermost first. -/
def loopsInward (path : List SyntaxNode) : List SyntaxNode :=
  (path.filter (·.isLoop)).reverse

theorem loopsInward_cons (n : SyntaxNode) (path : List SyntaxNode) :
    loopsInward (n :: path) = loopsInward path ++ loopsInward [n] := by
  rw [loopsInward, loopsInward, loopsInward, ← List.reverse_append, ← List.filter_append]
  rfl

end SyntaxNode

namespace Grammar

open SyntaxNode (withinAll labelsAll nodesAll loopsInward loopsInward_cons)

section Clauses

variable {g : Grammar} {source : Text}

theorem convertAll_eq_map (depth : Nat) (ns : List ParseTree) :
    g.convertAll source depth ns = ns.map fun n => (n, g.convertNode source depth n) := by
  induction ns with
  | nil => rfl
  | cons n rest ih => rw [convertAll, ih, List.map_cons]

/-- Whether a clause of a comprehension is a loop; otherwise it is a condition. -/
def isLoopClause (n : ParseTree) : Bool :=
  n.type = ("for_in_clause" : Text)

/-- The clauses of a comprehension in order. -/
def clausesOf (n : ParseTree) : List ParseTree :=
  n.children.filter isClause

theorem type_of_isClause {c : ParseTree} (hc : isClause c = true) :
    c.type = ("for_in_clause" : Text) ∨ c.type = ("if_clause" : Text) := by
  rw [isClause, Bool.and_eq_true, Bool.or_eq_true, decide_eq_true_iff, decide_eq_true_iff] at hc
  exact hc.2

/-- Only a call can construct a collection. -/
theorem constructedCollection?_eq_none {n : ParseTree} {type : Text} (htype : n.type = type)
    (hcall : g.callTypes.contains type = false) : g.constructedCollection? source n = none := by
  rw [constructedCollection?, htype, hcall, Bool.and_false, if_neg Bool.false_ne_true]

theorem kindOf_clause {c : ParseTree} (hc : isClause c = true) :
    python.kindOf source c = if isLoopClause c then .forEach else .other := by
  rcases type_of_isClause hc with htype | htype
  · rw [kindOf, isLoopClause, constructedCollection?_eq_none htype (by decide), htype]
    decide
  · rw [kindOf, isLoopClause, constructedCollection?_eq_none htype (by decide), htype]
    decide

theorem isLoop_kindOf_comprehension {n : ParseTree}
    (hn : python.comprehensionTypes.contains n.type = true) :
    (python.kindOf source n).isLoop = false := by
  have hall : ∀ type ∈ python.comprehensionTypes, python.callTypes.contains type = false ∧
      python.loopTypes.lookup type = none := by
    decide
  obtain ⟨hcall, hloop⟩ := hall n.type (List.contains_iff_mem.mp hn)
  rw [kindOf, constructedCollection?_eq_none rfl hcall, hloop]
  simp only [Option.isSome_none, Bool.false_eq_true, if_false]
  split_ifs <;> rfl

/-- What a clause says: its named children, converted. -/
def clauseContent (source : Text) (depth : Nat) (c : ParseTree) : List SyntaxNode :=
  c.namedChildren.map (python.convertNode source depth)

theorem convertNode_clause {c : ParseTree} (hc : isClause c = true) {depth : Nat}
    (hdepth : depth ≤ maxTreeDepth) :
    python.convertNode source depth c =
      .node (python.labelOf source c) (clauseContent source (depth + 1) c) := by
  have hplain : ¬python.comprehensionTypes.contains c.type = true := by
    rcases type_of_isClause hc with htype | htype <;> rw [htype] <;> decide
  have hstring : ¬python.kindOf source c = .string := by
    rw [kindOf_clause hc]
    split <;> decide
  cases c with
  | node label children =>
    change ¬python.comprehensionTypes.contains label.type = true at hplain
    rw [convertNode, if_neg (Nat.not_lt.mpr hdepth), if_neg hplain, if_neg hstring,
      convertAll_eq_map, List.filter_map, List.map_map]
    rfl

/-- What the node of a clause says about itself: that it is a loop, which has the text of the whole
comprehension, or nothing. -/
def clauseLabel (text : Text) (c : ParseTree) : NodeLabel :=
  if isLoopClause c then { kind := .forEach, text } else { kind := .other }

/-- A loop clause takes in what follows it; a condition stands in front of it. -/
theorem enclose_clause {c : ParseTree} (hc : isClause c = true) {depth : Nat}
    (hdepth : depth ≤ maxTreeDepth) (text : Text) (inner : List SyntaxNode) :
    enclose text (python.convertNode source depth c) inner =
      if isLoopClause c then
        [.node (clauseLabel text c) (clauseContent source (depth + 1) c ++ inner)]
      else .node (clauseLabel text c) (clauseContent source (depth + 1) c) :: inner := by
  have hkind : (python.labelOf source c).kind = if isLoopClause c then .forEach else .other :=
    (labelOf_kind c).trans (kindOf_clause hc)
  rw [convertNode_clause hc hdepth, enclose, SyntaxNode.kind, SyntaxNode.label, hkind, clauseLabel]
  by_cases hloop : isLoopClause c = true
  · simp only [hloop, if_true]
    rfl
  · have hlabel : python.labelOf source c = { kind := .other } := by
      have hother : python.kindOf source c = .other := by rw [kindOf_clause hc, if_neg hloop]
      simp only [labelOf, hother]
    simp only [hloop, hlabel, Bool.false_eq_true, if_false, reduceCtorEq]

/-- A comprehension with its clauses nested around the body. -/
theorem convertNode_comprehension {n : ParseTree}
    (hn : python.comprehensionTypes.contains n.type = true) {depth : Nat}
    (hdepth : depth ≤ maxTreeDepth) :
    python.convertNode source depth n =
      .node (python.comprehensionLabel source n)
        ((clausesOf n).foldr
          (fun c => enclose (n.text source) (python.convertNode source (depth + 1) c))
          ((n.child? "body").toList.map (python.convertNode source (depth + 1)))) := by
  cases n with
  | node label children =>
    change python.comprehensionTypes.contains label.type = true at hn
    rw [convertNode, if_neg (Nat.not_lt.mpr hdepth), if_pos hn, nestClauses, convertAll_eq_map,
      List.filter_map, List.map_map, List.foldr_map, List.find?_map, Option.map_map,
      Option.toList_map]
    rfl

end Clauses

/-- The entries of a clause: its own node inside the loops before it, and what it says inside that
node. -/
def clauseWithin (content : ParseTree → List SyntaxNode) (heads around : List SyntaxNode) :
    (ParseTree × SyntaxNode) × Nat → List (List SyntaxNode × SyntaxNode)
  | ((c, head), i) =>
    let outside := loopsInward (heads.take i) ++ around
    (outside, head) :: withinAll (head :: outside) (content c)

theorem clauseWithin_succ (content : ParseTree → List SyntaxNode) (first : SyntaxNode)
    (heads around : List SyntaxNode) (entry : ParseTree × SyntaxNode) (i : Nat) :
    clauseWithin content (first :: heads) around (entry, i + 1) =
      clauseWithin content heads (loopsInward [first] ++ around) (entry, i) := by
  simp only [clauseWithin, List.take_succ_cons, loopsInward_cons first (heads.take i),
    List.append_assoc]

section Chain

variable (text source : Text) {depth : Nat} (hdepth : depth ≤ maxTreeDepth)

include hdepth

/-- One clause of the chain, with its node and what stands inside and behind it. -/
theorem exists_head {c : ParseTree} (hc : isClause c = true) (inner : List SyntaxNode) :
    ∃ head : SyntaxNode, head.label = clauseLabel text c ∧
      ∀ around, withinAll around (enclose text (python.convertNode source depth c) inner) =
        (around, head) :: withinAll (head :: around) (clauseContent source (depth + 1) c) ++
          withinAll (loopsInward [head] ++ around) inner := by
  rw [enclose_clause hc hdepth]
  by_cases hloop : isLoopClause c = true
  · refine ⟨.node (clauseLabel text c) (clauseContent source (depth + 1) c ++ inner), rfl, ?_⟩
    intro around
    have hinward (children : List SyntaxNode) :
        loopsInward [.node (clauseLabel text c) children] =
          [.node (clauseLabel text c) children] := by
      rw [clauseLabel, if_pos hloop]
      rfl
    rw [if_pos hloop, hinward, withinAll, SyntaxNode.within, withinAll, List.append_nil,
      SyntaxNode.withinAll_append]
    rfl
  · refine ⟨.node (clauseLabel text c) (clauseContent source (depth + 1) c), rfl, ?_⟩
    intro around
    have hinward (children : List SyntaxNode) :
        loopsInward [.node (clauseLabel text c) children] = [] := by
      rw [clauseLabel, if_neg hloop]
      rfl
    rw [if_neg hloop, hinward, withinAll, SyntaxNode.within]
    rfl

/-- The whole chain, clause by clause. Each step moves on into the loop that the clause opens, if it
opens one. -/
theorem exists_heads (inner : List SyntaxNode) {cs : List ParseTree}
    (hcs : ∀ c ∈ cs, isClause c = true) :
    ∃ heads : List SyntaxNode, heads.map (·.label) = cs.map (clauseLabel text) ∧
      ∀ around, withinAll around
          (cs.foldr (fun c => enclose text (python.convertNode source depth c)) inner) =
        (cs.zip heads).zipIdx.flatMap
            (clauseWithin (clauseContent source (depth + 1)) heads around) ++
          withinAll (loopsInward heads ++ around) inner := by
  induction cs with
  | nil => exact ⟨[], rfl, fun _ => rfl⟩
  | cons c cs ih =>
    obtain ⟨hc, hrest⟩ := List.forall_mem_cons.mp hcs
    obtain ⟨heads, hlabels, hheads⟩ := ih hrest
    obtain ⟨head, hlabel, hhead⟩ := exists_head text source hdepth hc
      (cs.foldr (fun c => enclose text (python.convertNode source depth c)) inner)
    refine ⟨head :: heads, by rw [List.map_cons, List.map_cons, hlabel, hlabels], ?_⟩
    intro around
    rw [List.foldr_cons, hhead, hheads, List.zip_cons_cons, List.zipIdx_cons, List.flatMap_cons,
      Nat.zero_add, List.zipIdx_succ, List.flatMap_map, loopsInward_cons head heads]
    simp only [clauseWithin_succ, List.append_assoc]
    rfl

/-- Nothing is added to what the clauses and the body say but the node of each clause. -/
theorem countP_isLoop_chain (inner : List SyntaxNode) {cs : List ParseTree}
    (hcs : ∀ c ∈ cs, isClause c = true) :
    (nodesAll (cs.foldr (fun c => enclose text (python.convertNode source depth c)) inner)).countP
        (·.isLoop) =
      cs.countP isLoopClause +
        (nodesAll (cs.flatMap (clauseContent source (depth + 1)) ++ inner)).countP (·.isLoop) := by
  induction cs with
  | nil =>
    simp only [List.foldr_nil, List.countP_nil, List.flatMap_nil, List.nil_append, Nat.zero_add]
  | cons c cs ih =>
    obtain ⟨hc, hrest⟩ := List.forall_mem_cons.mp hcs
    obtain ⟨head, hlabel, hhead⟩ := exists_head text source hdepth hc
      (cs.foldr (fun c => enclose text (python.convertNode source depth c)) inner)
    have hnodes := congrArg (List.map Prod.snd) (hhead [])
    rw [List.map_append, List.map_cons, SyntaxNode.map_snd_withinAll, SyntaxNode.map_snd_withinAll,
      SyntaxNode.map_snd_withinAll] at hnodes
    have hloop : head.isLoop = isLoopClause c := by
      rw [SyntaxNode.isLoop, SyntaxNode.kind, hlabel, clauseLabel]
      cases isLoopClause c <;> rfl
    have hbehind := ih hrest
    rw [List.foldr_cons, hnodes]
    simp only [List.countP_append, List.countP_cons, List.flatMap_cons,
      SyntaxNode.nodesAll_append, hloop] at hbehind ⊢
    omega

end Chain

theorem length_loopsInward (text : Text) {heads : List SyntaxNode} {cs : List ParseTree}
    (hlabels : heads.map (·.label) = cs.map (clauseLabel text)) :
    (loopsInward heads).length = cs.countP isLoopClause := by
  have hloop (c : ParseTree) : (clauseLabel text c).kind.isLoop = isLoopClause c := by
    rw [clauseLabel]
    cases isLoopClause c <;> rfl
  have hcount := congrArg (List.countP fun l : NodeLabel => l.kind.isLoop) hlabels
  rw [List.countP_map, List.countP_map] at hcount
  rw [loopsInward, List.length_reverse, ← List.countP_eq_length_filter]
  exact hcount.trans (congrArg (cs.countP ·) (funext hloop))

/-- A comprehension is a nest of loops, like loop statements one inside the other. Each clause has
one node; what a clause says stands inside the loops of the loop clauses up to it, and the body
inside the loops of all of them. The nodes are listed with all that is around them, so that each of
these stands there once and in the order of the clauses, with the body last. The loops are then the
loop clauses and whatever loops the clauses and the body hold. -/
theorem comprehension_nests_clauses (source : Text) {n : ParseTree}
    (hn : python.comprehensionTypes.contains n.type = true) {depth : Nat}
    (hdepth : depth < maxTreeDepth) :
    let t := python.convertNode source depth n
    let clauses := clausesOf n
    let content := clauseContent source (depth + 2)
    let body := (n.child? "body").toList.map (python.convertNode source (depth + 1))
    ∃ heads : List SyntaxNode,
      heads.map (·.label) = clauses.map (clauseLabel (n.text source)) ∧
      (∀ i, (loopsInward (heads.take i)).length = (clauses.take i).countP isLoopClause) ∧
      t.within [] =
        ([], t) :: (clauses.zip heads).zipIdx.flatMap (clauseWithin content heads [t]) ++
          withinAll (loopsInward heads ++ [t]) body ∧
      ∀ declared : Text, (Metrics.ofTree t declared).loopCount =
        clauses.countP isLoopClause +
          (labelsAll (clauses.flatMap content ++ body)).countP (·.kind.isLoop) := by
  intro t clauses content body
  have ht : t = .node (python.comprehensionLabel source n)
      (clauses.foldr
        (fun c => enclose (n.text source) (python.convertNode source (depth + 1) c)) body) :=
    convertNode_comprehension hn (Nat.le_of_lt hdepth)
  have hclauses : ∀ c ∈ clauses, isClause c = true := fun c hc => (List.mem_filter.mp hc).2
  obtain ⟨heads, hlabels, hwithin⟩ :=
    exists_heads (n.text source) source hdepth body hclauses
  refine ⟨heads, hlabels, ?lengths, ?nest, ?count⟩
  case lengths =>
    intro i
    apply length_loopsInward (n.text source)
    rw [List.map_take, List.map_take, hlabels]
  case nest =>
    rw [SyntaxNode.within_eq, ht, SyntaxNode.children, ← ht, hwithin]
    rfl
  case count =>
    intro declared
    have hroot : t.isLoop = false := by
      rw [ht]
      exact isLoop_kindOf_comprehension hn
    have hcount := countP_isLoop_chain (n.text source) source hdepth body hclauses
    rw [Metrics.ofTree_loopCount t declared hroot, ht, SyntaxNode.children, labelsAll, labelsAll,
      List.countP_map, List.countP_map]
    exact_mod_cast hcount

namespace Pairs

def source : Text := "[f(x) for x in xs if x for y in ys]"

def loopClause (start : Nat) : ParseTree :=
  .node { type := "for_in_clause", start, stop := start + 11 }
    [.node { type := "for", start, stop := start + 3, named := false } [],
      .node { type := "identifier", start := start + 4, stop := start + 5, field := some "left" }
        [],
      .node { type := "in", start := start + 6, stop := start + 8, named := false } [],
      .node { type := "identifier", start := start + 9, stop := start + 11, field := some "right" }
        []]

def comprehension : ParseTree :=
  .node { type := "list_comprehension", start := 0, stop := 35 }
    [.node { type := "call", start := 1, stop := 5, field := some "body" }
        [.node { type := "identifier", start := 1, stop := 2, field := some "function" } []],
      loopClause 6,
      .node { type := "if_clause", start := 18, stop := 22 }
        [.node { type := "identifier", start := 21, stop := 22 } []],
      loopClause 23]

end Pairs

open Pairs in
/-- Two loops and a condition between them: the body is inside both loops. -/
theorem comprehension_nests_clauses_of_pairs :
    python.comprehensionTypes.contains comprehension.type = true ∧ 0 < maxTreeDepth ∧
      ∃ heads : List SyntaxNode,
        heads.map (·.label.kind) = [.forEach, .other, .forEach] ∧
        (loopsInward heads).length = 2 ∧
        ∀ declared : Text,
          (Metrics.ofTree (python.convertNode source 0 comprehension) declared).loopCount = 2 := by
  have hn : python.comprehensionTypes.contains comprehension.type = true := by decide
  have hdepth : 0 < maxTreeDepth := by decide
  obtain ⟨heads, hlabels, hlengths, -, hcount⟩ := comprehension_nests_clauses source hn hdepth
  refine ⟨hn, hdepth, heads, ?_, ?_, ?_⟩
  · have hkinds := congrArg (List.map NodeLabel.kind) hlabels
    rw [List.map_map] at hkinds
    exact hkinds.trans (by decide)
  · have hlength := congrArg List.length hlabels
    rw [List.length_map] at hlength
    have hwhole := hlengths heads.length
    rw [List.take_length, hlength] at hwhole
    exact hwhole.trans (by decide)
  · intro declared
    rw [hcount declared]
    decide +kernel

end Grammar

end CodeGauge
