import CodeGauge.Proofs.Block.Find

/-!
The order in which blocks are found. The headers of one shape are found from the first line of the
source to the last, but all blocks behind keywords come before the arrow functions, and these before
the methods. So the first block is the topmost one of the first shape that there is, not always of
all.
-/
namespace CodeGauge

namespace Pattern

/-- Every match begins behind the start of the one before it. -/
theorem pairwise_findAllFrom (p : Pattern) (skip : Nat) (behind ahead : Text) :
    (p.findAllFrom skip behind ahead).Pairwise fun m m' =>
      ∃ word, word ≠ [] ∧ m.start.Passes word m'.start := by
  fun_induction findAllFrom p skip behind ahead with
  | case1 behind =>
    cases p.matchAt? ⟨behind, []⟩ with
    | none => exact List.Pairwise.nil
    | some m => exact List.pairwise_singleton _ m
  | case2 => exact List.Pairwise.nil
  | case3 skip behind c rest ih => exact ih
  | case4 behind c rest m hm ih =>
    rw [List.pairwise_cons]
    refine ⟨?_, ih⟩
    intro m' hm'
    obtain ⟨word, hpasses, -⟩ := matchAt?_of_mem_findAllFrom hm'
    refine ⟨c :: word, List.cons_ne_nil c word, ?_⟩
    rw [(ways_of_matchAt? hm).1]
    exact hpasses.cons
  | case5 behind c rest _ ih => exact ih

end Pattern

namespace HeaderShape

/-- The shapes that are looked for before this one. -/
def earlier : HeaderShape → List HeaderShape
  | keyword => []
  | arrow => [keyword]
  | method => [keyword, arrow]

/-- The shapes that are looked for after this one. -/
def later : HeaderShape → List HeaderShape
  | keyword => [arrow, method]
  | arrow => [method]
  | method => []

theorem earlier_append_later (shape : HeaderShape) :
    shape.earlier ++ shape :: shape.later = [keyword, arrow, method] := by
  cases shape <;> rfl

end HeaderShape

namespace Block

/-- No block of the list starts further up. -/
def IsTopmost (b : Block) (blocks : List Block) : Prop :=
  b ∈ blocks ∧ ∀ b' ∈ blocks, b.startLine ≤ b'.startLine

instance (b : Block) (blocks : List Block) : Decidable (b.IsTopmost blocks) :=
  inferInstanceAs (Decidable (_ ∧ _))

theorem pairwise_findAll (source : Text) (shape : HeaderShape) :
    (shape.pattern.findAll source).Pairwise fun m m' => lineOf m.start < lineOf m'.start := by
  refine (shape.pattern.pairwise_findAllFrom 0 [] source).imp_of_mem ?_
  intro m m' _ hm' hpasses
  obtain ⟨word, hne, hword⟩ := hpasses
  have hline := HeaderShape.isLineStart_of_finds (Pattern.finds_of_mem_findAll hm')
  obtain ⟨front, c, rfl⟩ := (List.eq_nil_or_concat' word).resolve_left hne
  -- a header begins a line, so a line feed is read on the way to the next one
  obtain ⟨behind, hbehind, -⟩ := hword.step_back
  have hfeed : c = '\n' := by
    rw [Cursor.isLineStart, hbehind] at hline
    exact eq_of_beq hline
  have hcount : m'.start.behind.count '\n' =
      front.count '\n' + 1 + m.start.behind.count '\n' := by
    rw [hword.2, hfeed, List.count_append, List.count_reverse, List.count_append,
      List.count_singleton_self]
  rw [lineOf, lineOf, hcount]
  omega

/-- The blocks of one shape are found in the order of their lines. -/
theorem pairwise_startLine_ofShape (source : Text) (shape : HeaderShape) :
    (ofShape source shape).Pairwise fun b b' => b.startLine < b'.startLine := by
  have hline {m : Match} {b : Block} (hb : ofHeader? shape m = some b) :
      b.startLine = lineOf m.start := by
    obtain ⟨-, -, _, -, rfl⟩ := ofHeader?_eq_some hb
    rfl
  refine List.Pairwise.filterMap _ ?_ (pairwise_findAll source shape)
  intro m m' hlt b hb b' hb'
  rw [hline hb, hline hb']
  exact hlt

section Adding

theorem prefix_foldl_addNew (blocks others : List Block) :
    blocks <+: others.foldl addNew blocks := by
  induction others generalizing blocks with
  | nil => exact List.prefix_refl _
  | cons b rest ih =>
    have hadd : blocks <+: addNew blocks b := by
      rw [addNew]
      split
      · exact List.prefix_refl _
      · exact List.prefix_append _ _
    exact hadd.trans (ih (addNew blocks b))

/-- Blocks that start on lines of their own are all added. -/
theorem foldl_addNew_of_nodup {blocks others : List Block}
    (h : ((blocks ++ others).map startLine).Nodup) :
    others.foldl addNew blocks = blocks ++ others := by
  induction others generalizing blocks with
  | nil => rw [List.foldl_nil, List.append_nil]
  | cons b rest ih =>
    have hadd : addNew blocks b = blocks ++ [b] := by
      rw [addNew, if_neg]
      intro hany
      obtain ⟨b', hb', hline⟩ := List.any_eq_true.mp hany
      rw [List.map_append, List.nodup_append] at h
      exact h.2.2 b'.startLine (List.mem_map_of_mem hb') b.startLine
        (List.mem_map_of_mem List.mem_cons_self) (of_decide_eq_true hline)
    rw [List.foldl_cons, hadd, ih (by simpa using h), List.append_assoc, List.singleton_append]

/-- Every block has a place: its line opens a block, if not itself. -/
theorem exists_startLine_eq_of_mem {blocks others : List Block} {b : Block}
    (h : b ∈ others) : ∃ b' ∈ others.foldl addNew blocks, b'.startLine = b.startLine := by
  induction others generalizing blocks with
  | nil => exact absurd h List.not_mem_nil
  | cons first rest ih =>
    rcases List.mem_cons.mp h with rfl | h
    · have hadd : ∃ b' ∈ addNew blocks b, b'.startLine = b.startLine := by
        rw [addNew]
        split
        · rename_i hany
          obtain ⟨b', hb', hline⟩ := List.any_eq_true.mp hany
          exact ⟨b', hb', of_decide_eq_true hline⟩
        · exact ⟨b, List.mem_append_right _ List.mem_cons_self, rfl⟩
      obtain ⟨b', hb', hline⟩ := hadd
      exact ⟨b', (prefix_foldl_addNew _ rest).subset hb', hline⟩
    · exact ih h

end Adding

section Find

variable {source : Text} {shape : HeaderShape}

/-- What is found of the first shape that opens a block comes first. -/
theorem find_eq_foldl (hfirst : ∀ other ∈ shape.earlier, ofShape source other = []) :
    find source = (shape.later.flatMap (ofShape source)).foldl addNew (ofShape source shape) := by
  have hnone : shape.earlier.flatMap (ofShape source) = [] := List.flatMap_eq_nil_iff.mpr hfirst
  have hlines : (([] ++ ofShape source shape).map startLine).Nodup := by
    rw [List.nil_append, List.Nodup, List.pairwise_map]
    exact (pairwise_startLine_ofShape source shape).imp Nat.ne_of_lt
  rw [find, ← shape.earlier_append_later, List.flatMap_append, hnone, List.nil_append,
    List.flatMap_cons, List.foldl_append, foldl_addNew_of_nodup hlines, List.nil_append]

/-- What opens behind a keyword is there, whatever else there is. -/
theorem ofShape_keyword_prefix_find (source : Text) : ofShape source .keyword <+: find source := by
  have hfirst : ∀ other ∈ HeaderShape.keyword.earlier, ofShape source other = [] := by
    intro other hother
    exact absurd hother List.not_mem_nil
  rw [find_eq_foldl hfirst]
  exact prefix_foldl_addNew _ _

theorem mem_find_of_keyword {m : Match} {b : Block}
    (hm : m ∈ HeaderShape.keyword.pattern.findAll source)
    (hb : ofHeader? .keyword m = some b) : b ∈ find source := by
  apply (ofShape_keyword_prefix_find source).subset
  exact List.mem_filterMap.mpr ⟨m, hm, hb⟩

theorem exists_first_shape (h : find source ≠ []) : ∃ shape : HeaderShape,
    (∀ other ∈ shape.earlier, ofShape source other = []) ∧ ofShape source shape ≠ [] := by
  by_contra hnone
  push Not at hnone
  have hkeyword := hnone .keyword (by simp [HeaderShape.earlier])
  have harrow := hnone .arrow (by simp [HeaderShape.earlier, hkeyword])
  have hmethod := hnone .method (by simp [HeaderShape.earlier, hkeyword, harrow])
  exact h (by simp [find, hkeyword, harrow, hmethod])

/-- The block that is found first is the topmost of its shape. -/
theorem exists_head_find (h : find source ≠ []) : ∃ (shape : HeaderShape) (b : Block),
    (∀ other ∈ shape.earlier, ofShape source other = []) ∧ (find source).head? = some b ∧
      b.IsTopmost (ofShape source shape) := by
  obtain ⟨shape, hfirst, hne⟩ := exists_first_shape h
  obtain ⟨b, rest, hshape⟩ := List.exists_cons_of_ne_nil hne
  refine ⟨shape, b, hfirst, ?_, ?_⟩
  · obtain ⟨others, hfind⟩ := prefix_foldl_addNew (ofShape source shape)
      (shape.later.flatMap (ofShape source))
    rw [find_eq_foldl hfirst, ← hfind, hshape]
    rfl
  · have hlines := pairwise_startLine_ofShape source shape
    rw [hshape, List.pairwise_cons] at hlines
    rw [hshape]
    refine ⟨List.mem_cons_self, ?_⟩
    intro b' hb'
    rcases List.mem_cons.mp hb' with rfl | hb'
    · exact Nat.le_refl _
    · exact (hlines.1 b' hb').le

/-- The first block is the topmost of all as long as no later shape opens one further up. -/
theorem isTopmost_find_iff {b : Block}
    (hfirst : ∀ other ∈ shape.earlier, ofShape source other = [])
    (hb : b.IsTopmost (ofShape source shape)) : b.IsTopmost (find source) ↔
      ∀ other ∈ shape.later, ∀ b' ∈ ofShape source other, b.startLine ≤ b'.startLine := by
  rw [find_eq_foldl hfirst]
  constructor
  · intro htop other hother b' hb'
    obtain ⟨b'', hb'', hline⟩ := exists_startLine_eq_of_mem
      (List.mem_flatMap.mpr ⟨other, hother, hb'⟩)
    exact hline ▸ htop.2 b'' hb''
  · intro hlater
    refine ⟨(prefix_foldl_addNew _ _).subset hb.1, ?_⟩
    intro b' hb'
    rcases mem_foldl_addNew hb' with hb' | hb'
    · exact hb.2 b' hb'
    · obtain ⟨other, hother, hb'⟩ := List.mem_flatMap.mp hb'
      exact hlater other hother b' hb'

end Find

end Block

end CodeGauge
