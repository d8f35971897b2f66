import CodeGauge.Metrics.Structured
import CodeGauge.Proofs.Metrics.Coherent
import CodeGauge.Proofs.Syntax.Nodes

/-!
What the metrics of a tree measure. The walk carries a loop depth and eleven measurements through
the tree. A subtree gives the depth back as it got it; whatever the walk has measured is the tally
of the labels seen so far, and a subtree adds its own labels and its own depth, once.
-/
namespace CodeGauge

theorem NodeKind.isCounted_eq (k : NodeKind) :
    k.isCounted = (k = .forLoop || k = .whileLoop || k = .doWhile) := by
  cases k <;> rfl

namespace NodeLabel

def isStreamCall (l : NodeLabel) : Bool :=
  l.kind = .call && streamCalls.contains l.name

def isSortingCall (l : NodeLabel) : Bool :=
  l.kind = .call && sortingCalls.contains l.name

def isPermutationCall (l : NodeLabel) : Bool :=
  l.kind = .call && Text.occursIn "permut" l.name.lower

/-- A binary search or a logarithm, told by the name of the called function. -/
def isLogarithmicCall (l : NodeLabel) : Bool :=
  l.kind = .call && (l.name = ("binarySearch" : Text) || Text.occursIn "log" l.name)

def buildsCollection (l : NodeLabel) : Bool :=
  l.kind = .allocation && l.name.containsAny collectionMarkers

/-- A counted loop whose range shrinks by a factor. -/
def isHalvingLoop (l : NodeLabel) : Bool :=
  l.kind.isCounted && Halving.isHalving l.iteration

end NodeLabel

namespace Metrics

/-- The metrics of labels that reach a loop depth. -/
def tally (self : SelfCalls) (seen : List NodeLabel) (depth : Nat) : Metrics where
  loopCount := seen.countP (·.kind.isLoop)
  maxNestedDepth := depth
  recursiveCalls := seen.countP (·.isCallTo self.name)
  doubleRecursiveCalls := if self.repeated then seen.countP (·.isCallTo self.name) else 0
  streamOps := seen.countP (·.isStreamCall)
  newCollections := seen.countP (·.buildsCollection)
  hasLogarithmicPattern := seen.any fun l => l.isHalvingLoop || l.isLogarithmicCall
  hasSortingPattern := seen.any (·.isSortingCall)
  hasFactorialPattern := seen.any (·.isPermutationCall)
  hasBinarySearchPattern := seen.any (·.isHalvingLoop)
  mode := .structured

variable (self : SelfCalls)

/-- Before the walk nothing has been seen. -/
theorem tally_nil : tally self [] 0 = { mode := .structured } := by
  simp [tally]

end Metrics

/-- One more label changes a count by what it counts for itself. -/
theorem countP_concat (counts : NodeLabel → Bool) (seen : List NodeLabel) (l : NodeLabel) :
    ((seen ++ [l]).countP counts : Int) = seen.countP counts + if counts l then 1 else 0 := by
  rw [List.countP_append]
  cases hl : counts l <;> simp [hl]

namespace Traversal

variable (self : SelfCalls) (s : Traversal) (l : NodeLabel)

/-- What a node does to each of the measurements in front of its children, whatever its kind. -/
theorem enter_metrics :
    (s.enter self l).metrics =
      { loopCount := s.metrics.loopCount + if l.kind.isLoop then 1 else 0
        maxNestedDepth :=
          if l.kind.isLoop then max s.metrics.maxNestedDepth (s.depth + 1)
          else s.metrics.maxNestedDepth
        recursiveCalls := s.metrics.recursiveCalls + if l.isCallTo self.name then 1 else 0
        doubleRecursiveCalls :=
          s.metrics.doubleRecursiveCalls + if self.repeated && l.isCallTo self.name then 1 else 0
        streamOps := s.metrics.streamOps + if l.isStreamCall then 1 else 0
        newCollections := s.metrics.newCollections + if l.buildsCollection then 1 else 0
        hasLogarithmicPattern :=
          s.metrics.hasLogarithmicPattern || (l.isHalvingLoop || l.isLogarithmicCall)
        hasSortingPattern := s.metrics.hasSortingPattern || l.isSortingCall
        hasFactorialPattern := s.metrics.hasFactorialPattern || l.isPermutationCall
        hasBinarySearchPattern := s.metrics.hasBinarySearchPattern || l.isHalvingLoop
        mode := s.metrics.mode } := by
  cases hkind : l.kind with
  | call =>
    cases hself : l.isCallTo self.name <;> cases hrepeated : self.repeated <;>
      simp [enter, Metrics.noteCall, Metrics.noteSelfCall, hkind, hself, hrepeated,
        NodeKind.isLoop, NodeKind.isCounted, NodeLabel.isStreamCall, NodeLabel.isSortingCall,
        NodeLabel.isPermutationCall, NodeLabel.isLogarithmicCall, NodeLabel.buildsCollection,
        NodeLabel.isHalvingLoop, Bool.or_assoc]
  | _ =>
    simp [enter, enterLoop, Metrics.noteHalving, Metrics.noteAllocation, hkind, NodeKind.isLoop,
      NodeKind.isCounted, NodeLabel.isCallTo, NodeLabel.isStreamCall, NodeLabel.isSortingCall,
      NodeLabel.isPermutationCall, NodeLabel.isLogarithmicCall, NodeLabel.buildsCollection,
      NodeLabel.isHalvingLoop]

theorem enter_depth : (s.enter self l).depth = s.depth + if l.kind.isLoop then 1 else 0 := by
  cases hkind : l.kind <;> simp [enter, enterLoop, hkind, NodeKind.isLoop]

theorem leave_metrics : (s.leave l).metrics = s.metrics := by
  cases hloop : l.kind.isLoop <;> simp [leave, exitLoop, hloop]

theorem leave_depth : (s.leave l).depth = s.depth - if l.kind.isLoop then 1 else 0 := by
  cases hloop : l.kind.isLoop <;> simp [leave, exitLoop, hloop]

mutual

/-- A tree gives the depth back: what a node adds in front of its children it takes off behind
them. -/
theorem visit_depth : ∀ (n : SyntaxNode) (s : Traversal), (visit self s n).depth = s.depth
  | .node l children, s => by
    rw [visit, leave_depth, visitAll_depth children, enter_depth, Nat.add_sub_cancel]

theorem visitAll_depth :
    ∀ (ns : List SyntaxNode) (s : Traversal), (visitAll self s ns).depth = s.depth
  | [], s => by rw [visitAll]
  | n :: rest, s => by rw [visitAll, visitAll_depth rest, visit_depth n]

end

variable {s} {seen : List NodeLabel} {reached : Nat}

/-- In front of its children a node adds its label to the tally. Only a loop can reach deeper than
before. -/
theorem enter_tally (hs : s.metrics = Metrics.tally self seen reached) :
    (s.enter self l).metrics =
      Metrics.tally self (seen ++ [l])
        (if l.kind.isLoop then max reached (s.depth + 1) else reached) := by
  have hdepth : (if l.kind.isLoop then max (reached : Int) (s.depth + 1) else reached) =
      ((if l.kind.isLoop then max reached (s.depth + 1) else reached : Nat) : Int) := by
    cases l.kind.isLoop
    · rfl
    · simp only [if_pos]
      omega
  rw [enter_metrics, hs]
  simp only [Metrics.tally, countP_concat, hdepth, List.any_append, List.any_cons, List.any_nil,
    Bool.or_false]
  cases self.repeated <;> simp

mutual

/-- Inside loops that were counted before, a tree adds its labels, and its own depth to theirs. -/
theorem visit_metrics :
    ∀ (n : SyntaxNode) (s : Traversal) (seen : List NodeLabel) (reached : Nat),
      s.metrics = Metrics.tally self seen reached → s.depth ≤ reached →
        (visit self s n).metrics =
          Metrics.tally self (seen ++ n.labels) (max reached (s.depth + n.loopDepth))
  | .node l children, s, seen, reached, hs, hle => by
    have hentered := enter_tally self l hs
    have hdepth := enter_depth self s l
    rw [visit, leave_metrics]
    cases hloop : l.kind.isLoop with
    | true =>
      rw [if_pos hloop] at hentered hdepth
      rw [visitAll_metrics children _ _ _ hentered (hdepth ▸ Nat.le_max_right reached _), hdepth]
      simp only [SyntaxNode.labels_node, SyntaxNode.loopDepth, hloop, ↓reduceIte,
        List.append_assoc, List.singleton_append]
      congr 1
      omega
    | false =>
      rw [if_neg (Bool.eq_false_iff.mp hloop)] at hentered hdepth
      rw [visitAll_metrics children _ _ _ hentered (hdepth ▸ hle), hdepth]
      simp only [SyntaxNode.labels_node, SyntaxNode.loopDepth, hloop, Bool.false_eq_true,
        ↓reduceIte, Nat.add_zero, List.append_assoc, List.singleton_append]

theorem visitAll_metrics :
    ∀ (ns : List SyntaxNode) (s : Traversal) (seen : List NodeLabel) (reached : Nat),
      s.metrics = Metrics.tally self seen reached → s.depth ≤ reached →
        (visitAll self s ns).metrics =
          Metrics.tally self (seen ++ SyntaxNode.labelsAll ns)
            (max reached (s.depth + SyntaxNode.loopDepthAll ns))
  | [], s, seen, reached, hs, hle => by
    rw [visitAll, SyntaxNode.labelsAll_nil, List.append_nil, SyntaxNode.loopDepthAll,
      Nat.add_zero, Nat.max_eq_left hle, hs]
  | n :: rest, s, seen, reached, hs, hle => by
    have hfirst := visit_metrics n s seen reached hs hle
    -- the next tree starts from the same depth
    have hsame := visit_depth self n s
    have hreached : (visit self s n).depth ≤ max reached (s.depth + n.loopDepth) := by
      rw [hsame]
      exact Nat.le_trans hle (Nat.le_max_left _ _)
    rw [visitAll, visitAll_metrics rest _ _ _ hfirst hreached, hsame,
      SyntaxNode.labelsAll_cons, List.append_assoc, SyntaxNode.loopDepthAll]
    congr 1
    omega

end

end Traversal

namespace Metrics

/-- The function whose calls of itself a tree is searched for: the declared one, or the root. -/
def selfName (root : SyntaxNode) (declared : Text) : Text :=
  if declared.isEmpty then root.name else declared

/-- The number of calls of a function in a tree. -/
def callCount (root : SyntaxNode) (name : Text) : Nat :=
  root.labels.countP (·.isCallTo name)

theorem length_callsTo (root : SyntaxNode) (name : Text) :
    (root.callsTo name).length = callCount root name := by
  rw [SyntaxNode.callsTo, SyntaxNode.walk_eq_nodes, callCount, SyntaxNode.labels,
    List.countP_map, List.countP_eq_length_filter]
  rfl

/-- The metrics of a tree are the tally of all its labels at its own loop depth. -/
theorem ofTree_eq_tally (root : SyntaxNode) (declared : Text) :
    ofTree root declared =
      tally ⟨selfName root declared, 2 ≤ callCount root (selfName root declared)⟩ root.labels
        root.loopDepth := by
  have hvisit := Traversal.visit_metrics
    ⟨selfName root declared, 2 ≤ callCount root (selfName root declared)⟩ root {} [] 0
    (tally_nil _).symm (Nat.le_refl 0)
  rw [List.nil_append, Nat.zero_max, Nat.zero_add] at hvisit
  rw [← hvisit, ofTree, length_callsTo]
  rfl

theorem coherent_ofTree (root : SyntaxNode) (declared : Text) : (ofTree root declared).Coherent := by
  have hdepth := SyntaxNode.loopDepth_eq_zero_iff root
  rw [ofTree_eq_tally]
  exact
    { loops_nonneg := Int.natCast_nonneg _
      depth_nonneg := Int.natCast_nonneg _
      depth_eq_zero_iff := by
        simp only [tally]
        omega
      recursion_nonneg := Int.natCast_nonneg _
      streams_nonneg := Int.natCast_nonneg _
      streams_of_text := fun hmode => absurd hmode AnalysisMode.noConfusion
      logarithmic_of_binarySearch := by
        simp only [tally, List.any_eq_true, Bool.or_eq_true]
        rintro ⟨l, hl, hhalving⟩
        exact ⟨l, hl, Or.inl hhalving⟩ }

/-- The double count of one call or none is nothing, and of more calls all of them. -/
theorem doubled_le {calls calls' : Nat} (hle : calls ≤ calls') :
    (if decide (2 ≤ calls) then (calls : Int) else 0) ≤
      if decide (2 ≤ calls') then (calls' : Int) else 0 := by
  by_cases htwo : 2 ≤ calls
  · have htwo' : 2 ≤ calls' := Nat.le_trans htwo hle
    simp only [htwo, htwo', decide_true, if_true]
    exact Int.ofNat_le.mpr hle
  · by_cases htwo' : 2 ≤ calls' <;> simp [htwo, htwo']

/-- With a subtree more, no label is lost. -/
theorem ofTree_within {t t' : SyntaxNode} (h : t.GrowsTo t') (declared : Text) :
    (ofTree t declared).Within (ofTree t' declared) := by
  have hlabels := h.labels_sublist
  have hname : selfName t' declared = selfName t declared := by
    rw [selfName, selfName, SyntaxNode.name, SyntaxNode.name, h.label_eq]
  have hcount (counts : NodeLabel → Bool) : t.labels.countP counts ≤ t'.labels.countP counts :=
    hlabels.countP_le
  have hany (accepts : NodeLabel → Bool) (ht : t.labels.any accepts = true) :
      t'.labels.any accepts = true := by
    obtain ⟨l, hl, haccepts⟩ := List.any_eq_true.mp ht
    exact List.any_eq_true.mpr ⟨l, hlabels.subset hl, haccepts⟩
  have hcalls := hcount (·.isCallTo (selfName t declared))
  rw [ofTree_eq_tally, ofTree_eq_tally, hname]
  exact
    { loopCount := Int.ofNat_le.mpr (hcount _)
      maxNestedDepth := Int.ofNat_le.mpr h.loopDepth_le
      recursiveCalls := Int.ofNat_le.mpr hcalls
      doubleRecursiveCalls := doubled_le hcalls
      streamOps := Int.ofNat_le.mpr (hcount _)
      newCollections := Int.ofNat_le.mpr (hcount _)
      logarithmic := hany _
      sorting := hany _
      factorial := hany _
      binarySearch := hany _
      mode := rfl }

end Metrics

/-- Nothing is skipped and nothing is counted twice: every measurement of a tree is a number of its
nodes, the largest number of loops on a path, or whether some node is there. Calls of itself count
double when there are at least two of them. -/
theorem CodeUnit.treeMetrics_eq_counts (u : CodeUnit) (root : SyntaxNode) (declared : Text) :
    let name := if declared = [] then root.name else declared
    let selfCalls :=
      if name = [] then 0 else root.nodes.countP fun n => n.kind = .call && n.name = name
    let halving (n : SyntaxNode) : Bool :=
      (n.kind = .forLoop || n.kind = .whileLoop || n.kind = .doWhile) &&
        (Halving.updates.any (·.foundIn n.label.iteration) ||
          (Halving.midpoint.foundIn n.label.iteration &&
            Halving.boundsUpdate.foundIn n.label.iteration))
    ∃ depth : Nat,
      IsGreatest {k | ∃ path, root.IsPath path ∧ path.countP (·.isLoop) = k} depth ∧
      ({ u with tree := some root, name := declared } : CodeUnit).treeMetrics =
        { loopCount := root.nodes.countP (·.isLoop)
          maxNestedDepth := depth
          recursiveCalls := selfCalls
          doubleRecursiveCalls := if 2 ≤ selfCalls then selfCalls else 0
          streamOps := root.nodes.countP fun n => n.kind = .call && streamCalls.contains n.name
          newCollections :=
            root.nodes.countP fun n =>
              n.kind = .allocation && n.name.containsAny collectionMarkers
          hasLogarithmicPattern :=
            root.nodes.any fun n =>
              halving n ||
                (n.kind = .call &&
                  (n.name = ("binarySearch" : Text) || Text.occursIn "log" n.name))
          hasSortingPattern :=
            root.nodes.any fun n => n.kind = .call && sortingCalls.contains n.name
          hasFactorialPattern :=
            root.nodes.any fun n => n.kind = .call && Text.occursIn "permut" n.name.lower
          hasBinarySearchPattern := root.nodes.any halving
          mode := .structured } := by
  intro name selfCalls halving
  refine ⟨root.loopDepth, SyntaxNode.loopDepth_isGreatest root, ?_⟩
  have hname : Metrics.selfName root declared = name := by
    simp only [Metrics.selfName, List.isEmpty_iff, name]
  have hcalls : Metrics.callCount root name = selfCalls := by
    simp only [selfCalls, Metrics.callCount, SyntaxNode.labels, List.countP_map]
    by_cases hempty : name = []
    · simp [hempty, NodeLabel.isCallTo, Function.comp_def]
    · have hfalse : name.isEmpty = false := by simpa using hempty
      rw [if_neg hempty]
      simp only [NodeLabel.isCallTo, Function.comp_def, hfalse, Bool.not_false, Bool.and_true]
      rfl
  have htree : ({ u with tree := some root, name := declared } : CodeUnit).treeMetrics =
      Metrics.ofTree root declared := rfl
  have hhalving (n : SyntaxNode) : n.label.isHalvingLoop = halving n := by
    rw [NodeLabel.isHalvingLoop, NodeKind.isCounted_eq]
    rfl
  have hself : root.labels.countP (·.isCallTo name) = selfCalls := hcalls
  rw [htree, Metrics.ofTree_eq_tally, hname, hcalls, Metrics.tally, hself]
  simp only [SyntaxNode.labels, List.countP_map, List.any_map, Function.comp_def, hhalving,
    decide_eq_true_eq]
  rfl

end CodeGauge
