import CodeGauge.Proofs.Metrics.BlockText
import CodeGauge.Proofs.Metrics.Call

/-!
The calls that a function makes of itself, in a text that begins with the header of the function. In
the header only what stands behind the opening parenthesis counts, and all lines behind it count.
-/
namespace CodeGauge.TextScan

open Pattern

/-- The keywords that open a function. -/
def functionWords : List Text :=
  ["fun", "fn", "func", "def", "function", "sub"]

section Run

variable {α : Type} {next : Progress → Option α} {found : α}

theorem isWord_of_mem_functionWords {word : Text} (h : word ∈ functionWords) :
    word ≠ [] ∧ ∀ c ∈ word, isWord c = true :=
  isWord_of_mem (by decide) h

/-- At the start of a text a keyword with a blank behind it is read as a whole. A shorter keyword
that begins it does not end at a border. -/
theorem run_keyword {keyword : Text} (hkeyword : keyword ∈ functionWords) (rest : Text)
    (next : Progress → Option α) (hnext : next ⟨⟨keyword.reverse, ' ' :: rest⟩, []⟩ = some found) :
    (border ++ anyWord functionWords ++ border).run ⟨.first (keyword ++ ' ' :: rest), []⟩ next =
      some found := by
  obtain ⟨hne, hword⟩ := isWord_of_mem_functionWords hkeyword
  have hspace : isWord ' ' = false := by decide
  have hpasses : (Cursor.first (keyword ++ ' ' :: rest)).Passes keyword
      ⟨keyword.reverse, ' ' :: rest⟩ := ⟨rfl, (List.append_nil _).symm⟩
  have hend : border.run ⟨⟨keyword.reverse, ' ' :: rest⟩, []⟩ next = some found :=
    (if_pos ((Cursor.isWordBorder_behind hpasses hne hword).mpr hspace)).trans hnext
  have hothers : ∀ other ∈ functionWords, ∀ place,
      (Cursor.first (keyword ++ ' ' :: rest)).Passes other place → other ≠ keyword →
        border.run ⟨place, []⟩ next = none := by
    intro other hother place hplace hdiffers
    obtain ⟨hne', hword'⟩ := isWord_of_mem_functionWords hother
    refine if_neg fun hborder => ?_
    have hfollows := (Cursor.isWordBorder_behind hplace hne' hword').mp hborder
    rcases List.append_eq_append_iff.mp hplace.1 with ⟨more, rfl, hrest⟩ | ⟨more, rfl, hahead⟩
    · cases more with
      | nil => exact hdiffers (List.append_nil keyword)
      | cons x more =>
        obtain ⟨rfl, -⟩ := List.cons.inj hrest
        have hblank := hword' ' ' (List.mem_append_right keyword List.mem_cons_self)
        exact Bool.false_ne_true (hspace.symm.trans hblank)
    · cases more with
      | nil => exact hdiffers (List.append_nil other).symm
      | cons x more =>
        have hx := hword x (List.mem_append_right other List.mem_cons_self)
        rw [hahead, List.cons_append, List.head?_cons, Option.any_some] at hfollows
        exact Bool.false_ne_true (hfollows.symm.trans hx)
  have hwords : (anyWord functionWords).run ⟨.first (keyword ++ ' ' :: rest), []⟩
      (fun s => border.run s next) = some found :=
    run_anyWord hkeyword hpasses hend hothers
  have hstart : (Cursor.first (keyword ++ ' ' :: rest)).isWordBorder = true := by
    obtain ⟨c, keyword', rfl⟩ := List.exists_cons_of_ne_nil hne
    have hc := hword c List.mem_cons_self
    exact bne_iff_ne.mpr fun heq => Bool.false_ne_true (heq.trans hc)
  exact (if_pos hstart).trans hwords

/-- A name that is no part of a longer one, as a header is searched for it. -/
def wholeName (name : Text) : Pattern :=
  notAfter isNamePart ++ .literal name ++ border

theorem run_wholeName_of_isAfter (name : Text) {place : Cursor} (next : Progress → Option α)
    (h : place.isAfter isNamePart = true) : (wholeName name).run ⟨place, []⟩ next = none :=
  if_neg (by simp [h])

theorem run_wholeName {name : Text} {place stop : Cursor} (next : Progress → Option α)
    (h : place.isAfter isNamePart = false) (hpasses : place.Passes name stop)
    (hborder : stop.isWordBorder = true) :
    (wholeName name).run ⟨place, []⟩ next = next ⟨stop, []⟩ := by
  have hname : (Pattern.literal name).run ⟨place, []⟩ (fun s => border.run s next) =
      border.run ⟨stop, []⟩ next := by
    rw [run, Cursor.skip?_of_passes hpasses]
  have hfree : (notAfter isNamePart).run ⟨place, []⟩
      (fun s => (Pattern.literal name).run s fun s => border.run s next) =
        (Pattern.literal name).run ⟨place, []⟩ (fun s => border.run s next) :=
    if_pos (congrArg not h)
  exact hfree.trans (hname.trans (if_pos hborder))

theorem declarationOf_eq (name : Text) : ∃ others, declarationOf name =
    .alt (border ++ anyWord functionWords ++ border ++ span .shortest (· != '=') ++
      notAfter isNamePart ++ .literal name ++ border) others :=
  ⟨_, rfl⟩

end Run

/-- A keyword and the name of a function, which ends in a character of a word. -/
structure Header where
  keyword : Text
  name : Text
  keyword_mem : keyword ∈ functionWords
  name_isName : isName name = true
  name_ends : name.getLast?.any isWord = true

namespace Header

variable (h : Header) (tail : Text)

/-- What stands in front of the parenthesis. -/
def lead : Text :=
  h.keyword ++ ' ' :: h.name

/-- The line that the header opens. -/
def line : Text :=
  h.lead ++ '(' :: tail

theorem mem_lead {c : Char} (hc : c ∈ h.lead) : isNamePart c = true ∨ c = ' ' := by
  rcases List.mem_append.mp hc with hc | hc
  · exact Or.inl (isNamePart_of_isWord ((isWord_of_mem_functionWords h.keyword_mem).2 c hc))
  rcases List.mem_cons.mp hc with rfl | hc
  · exact Or.inr rfl
  · exact Or.inl (isNamePart_of_isName h.name_isName c hc)

theorem paren_not_mem_lead : '(' ∉ h.lead := by
  intro hmem
  rcases h.mem_lead hmem with hpart | heq
  · exact absurd hpart (by decide)
  · exact absurd heq (by decide)

theorem isLineBreak_of_mem_lead {c : Char} (hc : c ∈ h.lead) : isLineBreak c = false := by
  rcases h.mem_lead hc with hpart | rfl
  · refine Bool.eq_false_iff.mpr fun hbreak => ?_
    have hblank := Text.isBlank_of_isLineBreak hbreak
    exact Bool.false_ne_true ((isBlank_of_isNamePart hpart).symm.trans hblank)
  · decide

theorem exists_line_eq : ∃ c rest, h.line tail = c :: rest ∧ isNamePart c = true := by
  obtain ⟨hne, hword⟩ := isWord_of_mem_functionWords h.keyword_mem
  obtain ⟨c, rest, hkeyword⟩ := List.exists_cons_of_ne_nil hne
  refine ⟨c, (rest ++ ' ' :: h.name) ++ '(' :: tail, ?_, ?_⟩
  · rw [line, lead, hkeyword]
    rfl
  · exact isNamePart_of_isWord (hword c (hkeyword ▸ List.mem_cons_self))

theorem trim_line : (h.line tail).trim = h.line tail.trimEnd := by
  obtain ⟨c, rest, hline, hc⟩ := h.exists_line_eq tail
  have hblank : ¬ isBlank c = true := Bool.eq_false_iff.mp (isBlank_of_isNamePart hc)
  have hstart : (h.line tail).trimStart = h.line tail := by
    rw [hline]
    exact List.dropWhile_cons_of_neg hblank
  rw [Text.trim, hstart]
  exact Text.trimEnd_append_cons h.lead (by decide) tail

theorem isCodeLine_line : isCodeLine (h.line tail) = true := by
  obtain ⟨c, rest, hline, hc⟩ := h.exists_line_eq tail.trimEnd
  have hcomment : isComment (c :: rest) = false := by
    have hprefixes : ∀ lead ∈ commentPrefixes, lead.head?.any (!isNamePart ·) = true :=
      List.all_iff_forall_prop.mp (by decide)
    refine List.any_eq_false.mpr fun lead hlead hprefix => ?_
    have hfirst := hprefixes lead hlead
    cases lead with
    | nil => exact absurd hfirst (by simp)
    | cons x lead =>
      obtain ⟨hx, -⟩ := List.cons_prefix_cons.mp (List.isPrefixOf_iff_prefix.mp hprefix)
      rw [hx, List.head?_cons, Option.any_some, hc] at hfirst
      exact absurd hfirst (by decide)
  rw [isCodeLine, h.trim_line, hline, hcomment]
  rfl

theorem codeLines_line (hline : ∀ c ∈ tail, isLineBreak c = false) (body : Text) :
    codeLines (h.line tail ++ '\n' :: body) = h.line tail.trimEnd :: codeLines body := by
  have hheader : ∀ c ∈ h.line tail, isLineBreak c = false := by
    intro c hc
    rcases List.mem_append.mp hc with hc | hc
    · exact h.isLineBreak_of_mem_lead hc
    rcases List.mem_cons.mp hc with rfl | hc
    · decide
    · exact hline c hc
  rw [codeLines_append_break _ _ (by decide), codeLines_of_line hheader, codeAmong_singleton,
    h.isCodeLine_line, if_pos rfl, h.trim_line]
  rfl

theorem passes_name : (⟨' ' :: h.keyword.reverse, h.name ++ '(' :: tail⟩ : Cursor).Passes h.name
    ⟨h.lead.reverse, '(' :: tail⟩ := by
  refine ⟨rfl, ?_⟩
  rw [lead, List.reverse_append, List.reverse_cons, List.append_assoc]
  rfl

/-- The name ends in front of the parenthesis. -/
theorem isWordBorder_lead : (⟨h.lead.reverse, '(' :: tail⟩ : Cursor).isWordBorder = true := by
  have hne := ne_nil_of_isName h.name_isName
  have hlast := h.name_ends
  rw [List.getLast?_eq_some_getLast hne, Option.any_some] at hlast
  have hparen : isWord '(' = false := by decide
  refine (Cursor.isWordBorder_iff ?_).mpr hparen
  rw [(h.passes_name tail).isAfter_eq hne]
  exact hlast

/-- Right behind the keyword the name cannot begin; behind the blank it does. -/
theorem run_name : (span .shortest (· != '=') ++ wholeName h.name).run
    ⟨⟨h.keyword.reverse, ' ' :: (h.name ++ '(' :: tail)⟩, []⟩ some =
      some ⟨⟨h.lead.reverse, '(' :: tail⟩, []⟩ := by
  obtain ⟨hne, hword⟩ := isWord_of_mem_functionWords h.keyword_mem
  have hkeyword : (⟨h.keyword.reverse, ' ' :: (h.name ++ '(' :: tail)⟩ : Cursor).isAfter
      isNamePart = true := by
    have hpasses : (Cursor.first (h.keyword ++ ' ' :: (h.name ++ '(' :: tail))).Passes h.keyword
        ⟨h.keyword.reverse, ' ' :: (h.name ++ '(' :: tail)⟩ := ⟨rfl, (List.append_nil _).symm⟩
    rw [hpasses.isAfter_eq hne]
    exact isNamePart_of_isWord (hword _ (List.getLast_mem hne))
  have hblank : (⟨' ' :: h.keyword.reverse, h.name ++ '(' :: tail⟩ : Cursor).isAfter
      isNamePart = false := by
    have hspace : isNamePart ' ' = false := by decide
    exact hspace
  have hspan : runShortest (· != '=') (fun place => (wholeName h.name).run ⟨place, []⟩ some)
      h.keyword.reverse (' ' :: (h.name ++ '(' :: tail)) =
        some ⟨⟨h.lead.reverse, '(' :: tail⟩, []⟩ := by
    rw [runShortest, run_wholeName_of_isAfter h.name some hkeyword]
    exact runShortest_of_some
      (run_wholeName some hblank (h.passes_name tail) (h.isWordBorder_lead tail))
  exact hspan

/-- The keyword leads to the name next to it, whatever comes behind. -/
theorem search?_line : (declarationOf h.name).search? (h.line tail) =
    some ⟨.first (h.line tail), ⟨h.lead.reverse, '(' :: tail⟩, []⟩ := by
  have hline : h.line tail = h.keyword ++ ' ' :: (h.name ++ '(' :: tail) := by
    rw [line, lead, List.append_assoc, List.cons_append]
  have hdeclared := run_keyword h.keyword_mem (h.name ++ '(' :: tail)
    (fun s => (span .shortest (· != '=') ++ wholeName h.name).run s some) (h.run_name tail)
  obtain ⟨others, hothers⟩ := declarationOf_eq h.name
  have hrun : (declarationOf h.name).run ⟨.first (h.line tail), []⟩ some =
      some ⟨⟨h.lead.reverse, '(' :: tail⟩, []⟩ := by
    rw [hothers, hline]
    exact run_alt_of_some others hdeclared
  have hmatch : (declarationOf h.name).matchAt? (.first (h.line tail)) =
      some ⟨.first (h.line tail), ⟨h.lead.reverse, '(' :: tail⟩, []⟩ := by
    rw [matchAt?, hrun]
  exact searchFrom_of_matchAt? hmatch

/-- The header reads like a call of its name. -/
def call : Call h.name (h.line tail) where
  before := h.keyword ++ [' ']
  gap := []
  after := tail
  text_eq := by simp [line, lead]
  gap_blank := fun _ hc => absurd hc List.not_mem_nil
  free := by
    have hspace : isNamePart ' ' = false := by decide
    rw [List.getLast?_concat, Option.any_some, hspace]

/-- A call that begins no later than the name of the header ends at the header's parenthesis. -/
theorem cut_of_call {first : Call h.name (h.line tail)} {word : Text}
    (hbefore : (h.call tail).before = first.before ++ word) :
    first.before ++ (h.name ++ first.gap) = h.lead ∧ first.after = tail := by
  have htext : (first.before ++ (h.name ++ first.gap)) ++ '(' :: first.after =
      h.lead ++ '(' :: tail := by
    simpa only [line, List.append_assoc] using first.text_eq.symm
  have hlead : h.lead = (first.before ++ word) ++ h.name := by
    rw [← hbefore, call, lead, List.append_assoc, List.singleton_append]
  have hplain : ∀ c ∈ first.before ++ (h.name ++ first.gap), c ≠ '(' := by
    rintro c hc rfl
    rcases List.mem_append.mp hc with hc | hc
    · apply h.paren_not_mem_lead
      rw [hlead]
      exact List.mem_append_left _ (List.mem_append_left _ hc)
    rcases List.mem_append.mp hc with hc | hc
    · exact h.paren_not_mem_lead (hlead ▸ List.mem_append_right _ hc)
    · exact absurd (first.gap_blank '(' hc) (by decide)
  obtain ⟨heq, -, hafter⟩ := append_cons_inj (p := (· ≠ '(')) hplain
    (fun c hc heq => h.paren_not_mem_lead (heq ▸ hc)) (not_not_intro rfl) (not_not_intro rfl) htext
  exact ⟨heq, hafter⟩

/-- Of the calls in the line those behind the name are the calls behind the parenthesis. -/
theorem le_length_calls_iff (n : Nat) :
    n ≤ (((callOf h.name).findAll (h.line tail)).filter fun call =>
      h.lead.length ≤ call.start.offset).length ↔ HoldsCalls h.name n tail := by
  have hstart : (⟨[], h.line tail⟩ : Cursor).isAfter isNamePart = false := rfl
  obtain ⟨m, first, word, hsearch, hfirst, hbefore⟩ := (h.call tail).exists_first hstart
  obtain ⟨hlead, hafter⟩ := h.cut_of_call tail hbefore
  have hskipped : ¬ h.lead.length ≤ m.start.offset := by
    have hname := List.length_pos_iff.mpr (ne_nil_of_isName h.name_isName)
    rw [Cursor.offset, hfirst.start.2, ← hlead]
    simp only [List.length_append, List.length_reverse, List.length_nil]
    omega
  have hkept : ∀ call ∈ (callOf h.name).findAllFrom 0 m.stop.behind m.stop.ahead,
      h.lead.length ≤ call.start.offset := by
    intro call hcall
    obtain ⟨read, hread, -⟩ := matchAt?_of_mem_findAllFrom hcall
    rw [Cursor.offset, hread.2, hfirst.stop.2, ← hlead]
    simp only [List.length_append, List.length_reverse, List.length_cons, List.length_nil]
    omega
  rw [findAll, findAllFrom_of_searchFrom consumes_callOf hsearch,
    List.filter_cons_of_neg (by simpa using hskipped),
    List.filter_eq_self.mpr (by simpa using hkept), le_length_findAllFrom_iff hfirst.isAfter_stop,
    hfirst.after_eq, hafter]

end Header

namespace Reading

/-- Which lines have been counted, and whether the header has gone by. -/
structure Counted (s : Reading) (name : Text) (headerSeen : Bool) (lines : List Text) : Prop where
  headerSeen : s.headerSeen = headerSeen
  recursiveCalls : s.metrics.recursiveCalls = lines.countP (HoldsCalls name 1 ·)
  doubleRecursiveCalls : s.metrics.doubleRecursiveCalls = lines.countP (HoldsCalls name 2 ·)

variable {s : Reading} {name : Text} {headerSeen : Bool} {lines : List Text}

theorem Counted.noteNesting (h : s.Counted name headerSeen lines) (line : Text) :
    (s.noteNesting line).Counted name headerSeen lines := by
  rw [Reading.noteNesting]
  cases isLoopLine line <;> cases isClosingLine line <;>
    exact ⟨h.headerSeen, h.recursiveCalls, h.doubleRecursiveCalls⟩

/-- One more line is counted when it holds so many calls. -/
theorem countP_concat_holdsCalls {calls : List Match} {line : Text} (n : Nat)
    (hcalls : n ≤ calls.length ↔ HoldsCalls name n line) {count : Int}
    (hcount : count = lines.countP (HoldsCalls name n ·)) :
    (count + if n ≤ calls.length then 1 else 0) =
      (lines ++ [line]).countP (HoldsCalls name n ·) := by
  rw [hcount, List.countP_append, List.countP_singleton]
  by_cases hn : n ≤ calls.length
  · rw [if_pos hn, if_pos (by simpa using hcalls.mp hn)]
    rfl
  · rw [if_neg hn, if_neg (by simpa using fun hholds => hn (hcalls.mpr hholds))]
    rfl

/-- Behind the header every line counts. -/
theorem Counted.noteLine (h : s.Counted name true lines) (hname : name ≠ []) (line : Text) :
    (s.noteLine name line).Counted name true (lines ++ [line]) := by
  have hnested := h.noteNesting line
  have hempty : ¬ name.isEmpty = true := by simpa using hname
  rw [Reading.noteLine, noteKeywords, noteSelfCalls, if_neg hempty]
  simp only [hnested.headerSeen, if_true, Bool.true_or]
  exact ⟨rfl, countP_concat_holdsCalls 1 le_length_findAll_iff hnested.recursiveCalls,
    countP_concat_holdsCalls 2 le_length_findAll_iff hnested.doubleRecursiveCalls⟩

theorem Counted.foldl_noteLine (h : s.Counted name true lines) (hname : name ≠ [])
    (more : List Text) :
    (more.foldl (Reading.noteLine name) s).Counted name true (lines ++ more) := by
  induction more generalizing s lines with
  | nil => simpa using h
  | cons line more ih =>
    have hline := ih (h.noteLine hname line)
    rw [List.append_assoc, List.singleton_append] at hline
    exact hline

/-- Of the header the part behind the parenthesis counts. -/
theorem counted_header (h : Header) (tail : Text) :
    (noteLine h.name {} (h.line tail)).Counted h.name true [tail] := by
  have hstart : Counted {} h.name false [] := ⟨rfl, rfl, rfl⟩
  have hnested := hstart.noteNesting (h.line tail)
  have hempty : ¬ h.name.isEmpty = true := by simpa using ne_nil_of_isName h.name_isName
  rw [Reading.noteLine, noteKeywords, noteSelfCalls, if_neg hempty]
  simp only [hnested.headerSeen, Bool.false_eq_true, if_false, h.search?_line]
  have hlength : (⟨h.lead.reverse, '(' :: tail⟩ : Cursor).offset = h.lead.length :=
    List.length_reverse
  rw [hlength]
  exact ⟨rfl, countP_concat_holdsCalls 1 (h.le_length_calls_iff tail 1) hnested.recursiveCalls,
    countP_concat_holdsCalls 2 (h.le_length_calls_iff tail 2) hnested.doubleRecursiveCalls⟩

end Reading

theorem countP_codeLines {name : Text} (hname : isName name = true) (n : Nat) (body : Text) :
    (codeLines body).countP (HoldsCalls name n ·) =
      (body.lines.filter isCodeLine).countP (HoldsCalls name n ·) := by
  have hlines : codeLines body = (body.lines.filter isCodeLine).map Text.trim := by
    rw [codeLines, List.filter_map]
    rfl
  rw [hlines, List.countP_map]
  refine List.countP_congr fun line _ => ?_
  simp only [Function.comp, decide_eq_true_eq]
  exact holdsCalls_trim_iff hname

/-- Which lines count as calls of itself in a function whose header opens the text: in the header
only what stands behind the parenthesis, and every line of code behind it. A line counts once when
it holds a call, and once more when it holds two that do not overlap. -/
theorem selfCalls_of_header (h : Header) {tail : Text} (hline : ∀ c ∈ tail, isLineBreak c = false)
    (body : Text) :
    (metrics (h.line tail ++ '\n' :: body) h.name).recursiveCalls =
        (tail :: body.lines.filter isCodeLine).countP (HoldsCalls h.name 1 ·) ∧
      (metrics (h.line tail ++ '\n' :: body) h.name).doubleRecursiveCalls =
        (tail :: body.lines.filter isCodeLine).countP (HoldsCalls h.name 2 ·) := by
  have hname := h.name_isName
  have hheader := Reading.counted_header h tail.trimEnd
  have hall := hheader.foldl_noteLine (ne_nil_of_isName hname) (codeLines body)
  have hcount (n : Nat) : ([tail.trimEnd] ++ codeLines body).countP (HoldsCalls h.name n ·) =
      (tail :: body.lines.filter isCodeLine).countP (HoldsCalls h.name n ·) := by
    rw [List.singleton_append, List.countP_cons, List.countP_cons, countP_codeLines hname]
    simp only [holdsCalls_trimEnd_iff hname]
  rw [metrics, h.codeLines_line tail hline, List.foldl_cons, ← hcount, ← hcount]
  exact ⟨hall.recursiveCalls, hall.doubleRecursiveCalls⟩

namespace KeywordName

/-- A function whose name is a keyword, too. -/
def header : Header where
  keyword := "fun"
  name := "fun"
  keyword_mem := by decide
  name_isName := by decide
  name_ends := by decide

def tail : Text := "n: Int) = sun(n) + fun (n - 1)"

/-- A comment, and a line with two calls. -/
def body : Text := "# fun(0)\n  + fun(1) * fun(2)\n"

theorem tail_line : ∀ c ∈ tail, isLineBreak c = false :=
  List.all_iff_forall_prop.mp (by decide)

end KeywordName

open KeywordName in
theorem selfCalls_of_header_of_keyword :
    (metrics (header.line tail ++ '\n' :: body) header.name).recursiveCalls = 2 ∧
      (metrics (header.line tail ++ '\n' :: body) header.name).doubleRecursiveCalls = 1 := by
  obtain ⟨hcalls, hdouble⟩ := selfCalls_of_header header tail_line body
  rw [hcalls, hdouble]
  decide +kernel

end CodeGauge.TextScan
