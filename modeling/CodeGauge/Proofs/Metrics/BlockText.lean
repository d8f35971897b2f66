import CodeGauge.Proofs.Metrics.TextScan

/-!
Text that is built of lines and of blocks in braces. A reader of lines has one depth and does not
know what a closing brace belongs to: the brace of a loop takes back the level that the loop opened,
but every other brace takes a level off as well, down to zero. So the loops are counted exactly, and
the depth that is reached is at most the nesting of the loops.
-/
namespace CodeGauge.TextScan

/-- Whether a line is looked at: it is neither blank nor a comment. -/
def isCodeLine (line : Text) : Bool :=
  !line.trim.isEmpty && !isComment line.trim

theorem codeAmong_singleton (line : Text) :
    codeAmong [line] = if isCodeLine line then [line.trim] else [] := by
  rw [codeAmong, List.map_singleton, List.filter_cons, List.filter_nil, isCodeLine]

/-- Whether a line opens and closes nothing. -/
def isPlainLine (line : Text) : Bool :=
  !isCodeLine line || (!isLoopLine line.trim && !isClosingLine line.trim)

/-- Whether a line opens a loop and closes nothing. -/
def isLoopHead (line : Text) : Bool :=
  isCodeLine line && isLoopLine line.trim && !isClosingLine line.trim

/-- Whether a line is a closing brace. -/
def isBraceLine (line : Text) : Bool :=
  line.trim = ['\x7d']

/-- A piece of text: a line, or a block that a head opens and a brace closes. -/
inductive Item where
  | plain (line : {line : Text // isPlainLine line})
  | loop (head : {line : Text // isLoopHead line}) (body : List Item)
      (brace : {line : Text // isBraceLine line})
  | block (head : {line : Text // isPlainLine line}) (body : List Item)
      (brace : {line : Text // isBraceLine line})

namespace Item

mutual

/-- The lines of an item in order. -/
def lines : Item → List Text
  | plain line => [line.val]
  | loop head body brace => head.val :: (linesAll body ++ [brace.val])
  | block head body brace => head.val :: (linesAll body ++ [brace.val])

def linesAll : List Item → List Text
  | [] => []
  | item :: rest => item.lines ++ linesAll rest

end

mutual

/-- The number of loop blocks. -/
def loopCount : Item → Nat
  | plain _ => 0
  | loop _ body _ => loopCountAll body + 1
  | block _ body _ => loopCountAll body

def loopCountAll : List Item → Nat
  | [] => 0
  | item :: rest => item.loopCount + loopCountAll rest

end

mutual

/-- The number of blocks that are not loops. -/
def blockCount : Item → Nat
  | plain _ => 0
  | loop _ body _ => blockCountAll body
  | block _ body _ => blockCountAll body + 1

def blockCountAll : List Item → Nat
  | [] => 0
  | item :: rest => item.blockCount + blockCountAll rest

end

mutual

/-- The largest number of loop blocks one inside the other. -/
def nesting : Item → Nat
  | plain _ => 0
  | loop _ body _ => nestingAll body + 1
  | block _ body _ => nestingAll body

def nestingAll : List Item → Nat
  | [] => 0
  | item :: rest => max item.nesting (nestingAll rest)

end

mutual

/-- The highest level of a loop block in an item that begins at a level. A loop is one level above
what it stands in, and each other block that has ended takes a level off what follows it. -/
def reach (level : Nat) : Item → Nat
  | plain _ => 0
  | loop _ body _ => max (level + 1) (reachAll (level + 1) body)
  | block _ body _ => reachAll level body

def reachAll (level : Nat) : List Item → Nat
  | [] => 0
  | item :: rest => max (item.reach level) (reachAll (level - item.blockCount) rest)

end

mutual

/-- Whether inside a loop block no loop block stands behind a block of another kind. -/
def isSteady (inLoop : Bool) : Item → Bool
  | plain _ => true
  | loop _ body _ => isSteadyAll true body
  | block _ body _ => isSteadyAll inLoop body

def isSteadyAll (inLoop : Bool) : List Item → Bool
  | [] => true
  | item :: rest =>
    item.isSteady inLoop && isSteadyAll inLoop rest &&
      (!inLoop || item.blockCount = 0 || loopCountAll rest = 0)

end

mutual

/-- No loop is above the level that the loops around it give it. -/
theorem reach_le (level : Nat) : ∀ item : Item, item.reach level ≤ level + item.nesting
  | plain _ => Nat.zero_le _
  | loop _ body _ => by
    have hbody := reachAll_le (level + 1) body
    rw [reach, nesting]
    omega
  | block _ body _ => reachAll_le level body

theorem reachAll_le (level : Nat) :
    ∀ items : List Item, reachAll level items ≤ level + nestingAll items
  | [] => Nat.zero_le _
  | item :: rest => by
    have hitem := reach_le level item
    have hrest := reachAll_le (level - item.blockCount) rest
    rw [reachAll, nestingAll]
    omega

end

mutual

theorem nesting_eq_zero_iff : ∀ item : Item, item.nesting = 0 ↔ item.loopCount = 0
  | plain _ => Iff.rfl
  | loop _ body _ => by
    rw [nesting, loopCount]
    omega
  | block _ body _ => nestingAll_eq_zero_iff body

theorem nestingAll_eq_zero_iff :
    ∀ items : List Item, nestingAll items = 0 ↔ loopCountAll items = 0
  | [] => Iff.rfl
  | item :: rest => by
    have hitem := nesting_eq_zero_iff item
    have hrest := nestingAll_eq_zero_iff rest
    rw [nestingAll, loopCountAll]
    omega

end

mutual

/-- Without a loop there is no level to reach. -/
theorem reach_eq_zero (level : Nat) :
    ∀ item : Item, item.loopCount = 0 → item.reach level = 0
  | plain _, _ => rfl
  | loop _ _ _, hnone => absurd hnone (Nat.succ_ne_zero _)
  | block _ body _, hnone => reachAll_eq_zero level body hnone

theorem reachAll_eq_zero (level : Nat) :
    ∀ items : List Item, loopCountAll items = 0 → reachAll level items = 0
  | [], _ => rfl
  | item :: rest, hnone => by
    rw [loopCountAll, Nat.add_eq_zero_iff] at hnone
    rw [reachAll, reach_eq_zero level item hnone.1, reachAll_eq_zero _ rest hnone.2, Nat.max_self]

end

mutual

/-- As long as no other block has ended before it inside the loops around it, a loop is at the level
that these loops give it. Outside all loops there is no level that could be taken off. -/
theorem reach_of_isSteady (inLoop : Bool) {level : Nat} (hlevel : inLoop = false → level = 0) :
    ∀ item : Item, item.isSteady inLoop = true → item.loopCount ≠ 0 →
      item.reach level = level + item.nesting
  | plain _, _, hloops => absurd rfl hloops
  | loop _ body _, hsteady, _ => by
    rw [reach, nesting]
    by_cases hloops : loopCountAll body = 0
    · rw [reachAll_eq_zero _ body hloops, (nestingAll_eq_zero_iff body).mpr hloops]
      omega
    · rw [reachAll_of_isSteady true (fun h => absurd h (by decide)) body hsteady hloops]
      omega
  | block _ body _, hsteady, hloops => reachAll_of_isSteady inLoop hlevel body hsteady hloops

theorem reachAll_of_isSteady (inLoop : Bool) {level : Nat} (hlevel : inLoop = false → level = 0) :
    ∀ items : List Item, isSteadyAll inLoop items = true → loopCountAll items ≠ 0 →
      reachAll level items = level + nestingAll items
  | [], _, hloops => absurd rfl hloops
  | item :: rest, hsteady, hloops => by
    simp only [isSteadyAll, Bool.and_eq_true, Bool.or_eq_true, Bool.not_eq_true',
      decide_eq_true_eq] at hsteady
    obtain ⟨⟨hitem, hrest⟩, hbehind⟩ := hsteady
    have hheight := reach_le level item
    have hempty := nesting_eq_zero_iff item
    rw [loopCountAll] at hloops
    rw [reachAll, nestingAll]
    by_cases hnone : loopCountAll rest = 0
    · have hitem' := reach_of_isSteady inLoop hlevel item hitem (by omega)
      rw [reachAll_eq_zero _ rest hnone, (nestingAll_eq_zero_iff rest).mpr hnone, hitem']
      omega
    · have hkept : level - item.blockCount = level := by
        rcases hbehind with (hout | hblocks) | hrestnone
        · have := hlevel hout
          omega
        · omega
        · exact absurd hrestnone hnone
      rw [hkept, reachAll_of_isSteady inLoop hlevel rest hrest hnone]
      by_cases hitemnone : item.loopCount = 0
      · omega
      · rw [reach_of_isSteady inLoop hlevel item hitem hitemnone]
        omega

end

end Item

/-- Reads a line of the text as it stands there. -/
def Reading.read (name : Text) (s : Reading) (line : Text) : Reading :=
  if isCodeLine line then s.noteLine name line.trim else s

theorem metrics_eq_foldl_read (text name : Text) :
    metrics text name = (text.lines.foldl (Reading.read name) {}).metrics := by
  rw [metrics, codeLines, List.foldl_filter, List.foldl_map]
  rfl

namespace Reading

/-- How many loops have been counted, the highest level so far, and the level now. -/
structure At (s : Reading) (loops highest level : Nat) : Prop where
  loopCount : s.metrics.loopCount = loops
  maxNestedDepth : s.metrics.maxNestedDepth = highest
  depth : s.depth = level

variable {s : Reading} {loops highest level : Nat} {line : Text} (name : Text)

/-- Neither calls nor keywords have to do with levels. -/
theorem At.noteLine (h : (s.noteNesting line).At loops highest level) :
    (s.noteLine name line).At loops highest level := by
  rw [Reading.noteLine, noteKeywords, noteSelfCalls]
  split <;> exact ⟨h.loopCount, h.maxNestedDepth, h.depth⟩

theorem At.read_plain (h : s.At loops highest level) (hline : isPlainLine line = true) :
    (s.read name line).At loops highest level := by
  rw [Reading.read]
  by_cases hcode : isCodeLine line = true
  · simp only [isPlainLine, hcode, Bool.not_true, Bool.false_or, Bool.and_eq_true,
      Bool.not_eq_true'] at hline
    rw [if_pos hcode]
    apply At.noteLine
    simp only [noteNesting, hline.1, hline.2, Bool.false_eq_true, if_false]
    exact h
  · rw [if_neg hcode]
    exact h

theorem At.read_loopHead (h : s.At loops highest level) (hline : isLoopHead line = true) :
    (s.read name line).At (loops + 1) (max highest (level + 1)) (level + 1) := by
  simp only [isLoopHead, Bool.and_eq_true, Bool.not_eq_true'] at hline
  obtain ⟨⟨hcode, hloop⟩, hclosing⟩ := hline
  rw [Reading.read, if_pos hcode]
  apply At.noteLine
  simp only [noteNesting, hloop, hclosing, Bool.false_eq_true, if_true, if_false]
  exact
    { loopCount := by simp only [h.loopCount, Int.natCast_add, Int.natCast_one]
      maxNestedDepth := by
        simp only [h.maxNestedDepth, h.depth]
        omega
      depth := by simp only [h.depth, Int.natCast_add, Int.natCast_one] }

/-- A brace takes a level off, whatever it closes. -/
theorem At.read_brace (h : s.At loops highest level) (hline : isBraceLine line = true) :
    (s.read name line).At loops highest (level - 1) := by
  have hbrace : line.trim = ['\x7d'] := by simpa [isBraceLine] using hline
  have hcode : isCodeLine line = true := by
    rw [isCodeLine, hbrace]
    decide
  have hloop : isLoopLine ['\x7d'] = false := by decide +kernel
  have hclosing : isClosingLine ['\x7d'] = true := by decide +kernel
  rw [Reading.read, if_pos hcode, hbrace]
  apply At.noteLine
  simp only [noteNesting, hloop, hclosing, Bool.false_eq_true, if_true, if_false]
  exact
    { loopCount := h.loopCount
      maxNestedDepth := h.maxNestedDepth
      depth := by
        simp only [h.depth]
        omega }

mutual

/-- Reading an item counts its loops, and leaves as many levels fewer as it has other blocks. -/
theorem At.foldl_lines : ∀ (item : Item) {s : Reading} {loops highest level : Nat},
    s.At loops highest level →
      (item.lines.foldl (read name) s).At (loops + item.loopCount)
        (max highest (item.reach level)) (level - item.blockCount)
  | .plain line, s, loops, highest, level, h => by
    rw [Item.reach, Nat.max_zero]
    exact h.read_plain name line.property
  | .loop head body brace, s, loops, highest, level, h => by
    have hbody := At.foldl_linesAll body (h.read_loopHead name head.property)
    have hclosed := hbody.read_brace name brace.property
    rw [Item.lines, List.foldl_cons, List.foldl_append, List.foldl_cons, List.foldl_nil,
      Item.loopCount, Item.reach, Item.blockCount]
    refine ⟨hclosed.loopCount.trans ?_, hclosed.maxNestedDepth.trans ?_, hclosed.depth.trans ?_⟩ <;>
      norm_cast <;> omega
  | .block head body brace, s, loops, highest, level, h => by
    have hbody := At.foldl_linesAll body (h.read_plain name head.property)
    have hclosed := hbody.read_brace name brace.property
    rw [Item.lines, List.foldl_cons, List.foldl_append, List.foldl_cons, List.foldl_nil,
      Item.loopCount, Item.reach, Item.blockCount]
    exact hclosed

theorem At.foldl_linesAll : ∀ (items : List Item) {s : Reading} {loops highest level : Nat},
    s.At loops highest level →
      ((Item.linesAll items).foldl (read name) s).At (loops + Item.loopCountAll items)
        (max highest (Item.reachAll level items)) (level - Item.blockCountAll items)
  | [], s, loops, highest, level, h => by
    rw [Item.reachAll, Nat.max_zero]
    exact h
  | item :: rest, s, loops, highest, level, h => by
    have hrest := At.foldl_linesAll rest (At.foldl_lines item h)
    rw [Item.linesAll, List.foldl_append, Item.loopCountAll, Item.reachAll, Item.blockCountAll,
      ← Nat.add_assoc, ← Nat.max_assoc, ← Nat.sub_sub]
    exact hrest

end

end Reading

/-- The loop blocks of a text are counted one by one. The depth is the highest level of a loop
block, where every block that is no loop takes a level off what follows it; so it is never more than
the nesting of the loop blocks, and it is that nesting as long as inside a loop block no loop block
stands behind a block of another kind. -/
theorem metrics_of_items (name : Text) {text : Text} {items : List Item}
    (htext : text.lines = Item.linesAll items) :
    (metrics text name).loopCount = Item.loopCountAll items ∧
    (metrics text name).maxNestedDepth = Item.reachAll 0 items ∧
    Item.reachAll 0 items ≤ Item.nestingAll items ∧
    (Item.isSteadyAll false items = true →
      (metrics text name).maxNestedDepth = Item.nestingAll items) := by
  have hstart : ({} : Reading).At 0 0 0 := ⟨rfl, rfl, rfl⟩
  have hend := Reading.At.foldl_linesAll name items hstart
  rw [← htext, Nat.zero_add, Nat.zero_max] at hend
  have hdepth : (metrics text name).maxNestedDepth = Item.reachAll 0 items := by
    rw [metrics_eq_foldl_read, hend.maxNestedDepth]
  refine ⟨?loops, hdepth, ?below, ?steady⟩
  case loops => rw [metrics_eq_foldl_read, hend.loopCount]
  case below =>
    have hle := Item.reachAll_le 0 items
    rwa [Nat.zero_add] at hle
  case steady =>
    intro hsteady
    rw [hdepth]
    by_cases hloops : Item.loopCountAll items = 0
    · rw [Item.reachAll_eq_zero 0 items hloops, (Item.nestingAll_eq_zero_iff items).mpr hloops]
    · rw [Item.reachAll_of_isSteady false (fun _ => rfl) items hsteady hloops, Nat.zero_add]

namespace BlockText

def brace : {line : Text // isBraceLine line} :=
  ⟨"  \x7d", by decide +kernel⟩

def condition : Item :=
  .block ⟨"  if (a) \x7b", by decide +kernel⟩ [] brace

def innerLoop : Item :=
  .loop ⟨"  for (b in xs) \x7b", by decide +kernel⟩ [] brace

def outerLoop (body : List Item) : Item :=
  .loop ⟨"for (a in xs) \x7b", by decide +kernel⟩ body brace

/-- A loop in a loop, and then a condition. -/
def steady : List Item := [outerLoop [innerLoop, condition]]

/-- The condition comes first. -/
def unsteady : List Item := [outerLoop [condition, innerLoop]]

def textOf (items : List Item) : Text :=
  Text.join ['\n'] (Item.linesAll items)

end BlockText

open BlockText in
theorem metrics_of_items_of_steady :
    (textOf steady).lines = Item.linesAll steady ∧ Item.isSteadyAll false steady = true ∧
      (metrics (textOf steady) "f").loopCount = 2 ∧
      (metrics (textOf steady) "f").maxNestedDepth = 2 := by
  have htext : (textOf steady).lines = Item.linesAll steady := by decide +kernel
  obtain ⟨hloops, -, -, hdepth⟩ := metrics_of_items "f" htext
  exact ⟨htext, rfl, hloops, hdepth rfl⟩

open BlockText in
/-- Two loops one inside the other, told to be side by side: the brace of the condition has ended
the level of the outer loop. -/
theorem maxNestedDepth_ne_nesting_of_unsteady :
    (textOf unsteady).lines = Item.linesAll unsteady ∧ Item.nestingAll unsteady = 2 ∧
      (metrics (textOf unsteady) "f").maxNestedDepth = 1 := by
  decide +kernel

end CodeGauge.TextScan
