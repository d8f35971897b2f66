import CodeGauge.Proofs.Block.Find
import CodeGauge.Proofs.Pattern.Crlf

/-!
The blocks of a source with and without carriage returns. Headers are found in the same lines, the
same kind of body follows them, and it extends as far, so that the blocks differ in the returns in
their texts alone.
-/
namespace CodeGauge

namespace Text

theorem firstLine_crlf (text : Text) :
    (crlf text).firstLine = text.firstLine ∨ (crlf text).firstLine = text.firstLine ++ ['\r'] := by
  induction text with
  | nil => exact Or.inl rfl
  | cons c rest ih =>
    by_cases hc : c = '\n'
    · subst hc
      exact Or.inr rfl
    · have hkeep (rest : Text) : firstLine (c :: rest) = c :: firstLine rest :=
        List.takeWhile_cons_of_pos (bne_iff_ne.mpr hc)
      rw [crlf_cons hc, hkeep, hkeep]
      rcases ih with heq | heq
      · exact Or.inl (by rw [heq])
      · exact Or.inr (by rw [heq, List.cons_append])

theorem isLineRestEmpty_crlf (text : Text) :
    isLineRestEmpty (crlf text) = isLineRestEmpty text := by
  have htrim : Text.trim (crlf text).firstLine = Text.trim text.firstLine := by
    rcases firstLine_crlf text with heq | heq
    · rw [heq]
    · rw [heq, trim_append_return]
  rw [isLineRestEmpty, isLineRestEmpty, htrim]

/-- White space in front of the first other character may be a break. -/
theorem head?_trimStart_crlf (text : Text) :
    (crlf text).trimStart.head? = text.trimStart.head? := by
  rw [trimStart_crlf]
  cases hrest : text.trimStart with
  | nil => rfl
  | cons c rest =>
    have hhead := List.head?_dropWhile_not isBlank text
    rw [← trimStart, hrest] at hhead
    have hblank : isBlank c = false := hhead
    have hc : c ≠ '\n' := by
      rintro rfl
      exact absurd hblank (by decide)
    rw [crlf_cons hc, List.head?_cons, List.head?_cons]

theorem head?_crlf_eq_some_iff (text : Text) :
    (crlf text).head? = some '\x7b' ↔ text.head? = some '\x7b' := by
  cases text with
  | nil => exact Iff.rfl
  | cons c rest =>
    by_cases hc : c = '\n'
    · subst hc
      simp
    · rw [crlf_cons hc]
      exact Iff.rfl

theorem indentation_append_return {line : Text} (h : line.isAllBlank = false) :
    indentation (line ++ ['\r']) = line.indentation := by
  obtain ⟨c, hc, hblank⟩ := List.all_eq_false.mp h
  rw [indentation, indentation, List.takeWhile_append, if_neg]
  intro heq
  have hall := List.takeWhile_eq_self_iff.mp ((List.takeWhile_prefix isBlank).eq_of_length heq)
  exact hblank (hall c hc)

end Text

theorem closeBraces_crlf (depth : Nat) (text : Text) :
    closeBraces depth (Text.crlf text) = (closeBraces depth text).map Text.crlf := by
  induction text generalizing depth with
  | nil => rfl
  | cons c rest ih =>
    by_cases hc : c = '\n'
    · subst hc
      rw [Text.crlf_feed_cons]
      simp [closeBraces, ih]
      cases closeBraces depth rest <;> simp
    · rw [Text.crlf_cons hc, closeBraces, closeBraces]
      by_cases hclosed : c = '\x7d' ∧ depth ≤ 1
      · rw [if_pos hclosed, if_pos hclosed]
        simp [hc]
      · rw [if_neg hclosed, if_neg hclosed]
        simp only [ih]
        cases closeBraces
          (if c = '\x7b' then depth + 1 else if c = '\x7d' then depth - 1 else depth) rest <;>
            simp [hc]

theorem bracedBlock?_crlf (text : Text) :
    bracedBlock? (Text.crlf text) = (bracedBlock? text).map Text.crlf := by
  cases text with
  | nil => rfl
  | cons c rest =>
    by_cases hc : c = '\n'
    · subst hc
      rfl
    · rw [Text.crlf_cons hc, bracedBlock?, bracedBlock?, closeBraces_crlf]
      by_cases hbrace : c = '\x7b'
      · rw [if_pos hbrace, if_pos hbrace]
        cases closeBraces 1 rest <;> simp [hc]
      · rw [if_neg hbrace, if_neg hbrace]
        rfl

/-- A return at the end of a line changes neither its depth nor what it says. -/
theorem indentedLines_returned (base : Nat) {lines lines' : List Text}
    (h : Text.Returned lines lines') :
    Text.Returned (indentedLines base lines) (indentedLines base lines') := by
  induction h with
  | nil => exact Text.Returned.nil
  | last line =>
    rw [indentedLines]
    split
    · exact Text.Returned.last line
    · split
      · exact Text.Returned.last line
      · exact Text.Returned.nil
  | @cons line rest rest' _ ih =>
    rw [indentedLines, indentedLines, Text.isAllBlank_append_return, Text.trim_append_return]
    by_cases hblank : line.isAllBlank = true
    · simp only [hblank, Bool.true_or, if_true]
      exact Text.Returned.cons line ih
    · rw [Text.indentation_append_return (Bool.eq_false_iff.mpr hblank)]
      split
      · exact Text.Returned.cons line ih
      · split
        · exact Text.Returned.cons line Text.Returned.nil
        · exact Text.Returned.nil

/-- The same text with returns, maybe with the return of a break that is cut off. -/
def Text.IsReturned (text text' : Text) : Prop :=
  text' = Text.crlf text ∨ text' = Text.crlf text ++ ['\r']

theorem returned_linesBelow {text : Text} (h : text.firstLine.isAllBlank = false) :
    Text.Returned (text.firstLine :: linesBelow text)
      ((Text.crlf text).firstLine :: linesBelow (Text.crlf text)) := by
  have hpieces := Text.returned_pieces text
  simp only [linesBelow, Text.firstLine, ← Text.cut_fst_eq_takeWhile] at h ⊢
  rw [Text.pieces, Text.pieces] at hpieces
  generalize Text.cut '\n' text = lines at h hpieces ⊢
  generalize Text.cut '\n' (Text.crlf text) = lines' at hpieces ⊢
  obtain ⟨header, others⟩ := lines
  obtain ⟨header', others'⟩ := lines'
  cases hpieces with
  | last => exact Text.Returned.last header
  | cons _ hothers =>
    have hbelow := (indentedLines_returned header.indentation hothers).rdropWhile
      Text.isAllBlank_append_return
    change Text.Returned _ ((header ++ ['\r']) ::
      (indentedLines (Text.indentation (header ++ ['\r'])) others').rdropWhile Text.isAllBlank)
    rw [Text.indentation_append_return h]
    exact Text.Returned.cons header hbelow

theorem indentedBlock_crlf {text : Text} (h : text.firstLine.isAllBlank = false) :
    Text.IsReturned (indentedBlock text) (indentedBlock (Text.crlf text)) := by
  rw [indentedBlock_eq_join, indentedBlock_eq_join]
  apply (returned_linesBelow h).join_eq
  intro line hline
  exact Text.not_mem_of_mem_pieces ((lines_prefix_pieces text).subset hline)

namespace Body

/-- The same kind of body in the text with returns. -/
def crlf : Body → Body
  | braced brace => braced brace.crlf
  | indented => indented
  | expression => expression
  | absent => absent

theorem scan_return (depth : Nat) (behind rest : Text) :
    scan depth behind ('\r' :: rest) = scan depth ('\r' :: behind) rest := by
  rw [scan]
  simp

/-- Neither a return nor what it stands in front of opens a body that was not there before. -/
theorem scan_crlf (depth : Nat) (behind ahead : Text) :
    scan depth (Text.crlfBehind behind) (Text.crlf ahead) = (scan depth behind ahead).crlf := by
  induction ahead generalizing depth behind with
  | nil => rfl
  | cons c rest ih =>
    have hnext (depth : Nat) := ih depth (c :: behind)
    by_cases hc : c = '\n'
    · subst hc
      simp only [Text.crlfBehind_feed_cons] at hnext
      rw [Text.crlf_feed_cons, scan_return, scan, scan, Text.head?_trimStart_crlf]
      simp only [hnext, apply_ite crlf]
      simp [crlf]
    · have hafter := Cursor.isAfter_crlf (isOneOf "=!<>") ⟨behind, rest⟩
      have hbefore : (Cursor.crlf ⟨behind, rest⟩).isBefore (isOneOf "=>") =
          Cursor.isBefore (isOneOf "=>") ⟨behind, rest⟩ := Cursor.isBefore_crlf (by decide) _
      rw [Cursor.crlf] at hafter hbefore
      simp only [Text.crlfBehind_cons hc] at hnext
      rw [Text.crlf_cons hc, scan, scan, hafter, hbefore, Text.isLineRestEmpty_crlf,
        Text.head?_trimStart_crlf]
      simp only [hnext, apply_ite crlf]
      simp [crlf, Cursor.crlf, hc]

end Body

namespace HeaderShape

open Pattern

variable {shape : HeaderShape} {source : Text} {m : Match}

/-- Headers are read by lines, whatever ends a line. -/
theorem keepsBreaks (shape : HeaderShape) : shape.pattern.KeepsBreaks := by
  constructor
  case readsReturns => cases shape <;> decide
  case checks =>
    have hmem : ∀ holds ∈ shape.pattern.checks,
        holds = Cursor.isLineStart ∨ holds = Cursor.isWordBorder := by
      have hkeyword : keyword.pattern.checks = [Cursor.isLineStart, Cursor.isWordBorder] := rfl
      have harrow : arrow.pattern.checks = [Cursor.isLineStart] := rfl
      have hmethod : method.pattern.checks = [Cursor.isLineStart] := rfl
      cases shape
      · simp [hkeyword]
      · simp [harrow]
      · simp [hmethod]
    intro holds hholds c
    rcases hmem holds hholds with rfl | rfl
    · exact Cursor.isLineStart_crlf c
    · exact Cursor.isWordBorder_crlf c
  case consumes => cases shape <;> decide
  case starts =>
    intro c hc
    cases hm : shape.pattern.matchAt? c with
    | none => rfl
    | some m =>
      obtain ⟨rfl, hways⟩ := ways_of_matchAt? hm
      have hfinds : shape.pattern.Finds m.start.text m :=
        ⟨⟨m.start.behind.reverse, rfl, by simp [Cursor.first]⟩, hways⟩
      have hline := isLineStart_of_finds hfinds
      obtain ⟨behind, hbehind⟩ := List.head?_eq_some_iff.mp hc.1
      rw [Cursor.isLineStart, hbehind] at hline
      have hfeed : ('\r' == '\n') = true := hline
      exact absurd hfeed (by decide)
  case ends => cases shape <;> decide

/-- Where a match captures its name, and what it reads before and behind it. -/
theorem exists_capture (hm : shape.pattern.Finds source m) :
    ∃ lead start stop rest, m.captures = [⟨.name, start, stop⟩] ∧
      m.start.Passes lead start ∧ start.Passes (m.part .name) stop ∧ stop.Passes rest m.stop ∧
      '\n' ∉ lead ∧ '\n' ∉ m.part .name := by
  obtain ⟨c, hc, hpart, hplain, hfeed, -, hblank, -⟩ := exists_captured shape
  obtain ⟨lead, start, word, stop, rest, hcaptures, hlead, hword, hrest⟩ :=
    hm.exists_capture hc hplain
  rw [hpart] at hcaptures
  rw [part_of_captures hcaptures hword.passes]
  exact ⟨lead, start, stop, rest, hcaptures, hlead.passes, hword.passes, hrest.passes,
    hlead.not_mem '\n' hfeed, hword.not_mem '\n' (hblank '\n' (by decide))⟩

theorem part_name_crlf (hm : shape.pattern.Finds source m) : m.crlf.part .name = m.part .name := by
  obtain ⟨lead, start, stop, rest, hcaptures, -, hname, -, -, hfeed⟩ := exists_capture hm
  have hcaptures' : m.crlf.captures = [⟨.name, start.crlf, stop.crlf⟩] :=
    congrArg (List.map Capture.crlf) hcaptures
  rw [part_of_captures hcaptures' hname.crlf, Text.crlf_eq_self hfeed]

/-- Words and parameters tell the same of a header in both texts. -/
theorem declaresMethod_crlf (hm : shape.pattern.Finds source m) :
    m.crlf.declaresMethod = m.declaresMethod := by
  obtain ⟨lead, start, stop, rest, hcaptures, hlead, hname, hrest, hfeed, -⟩ := exists_capture hm
  have hcaptures' : m.crlf.captures = [⟨.name, start.crlf, stop.crlf⟩] :=
    congrArg (List.map Capture.crlf) hcaptures
  have hwords : m.crlf.wordsBeforeName = m.wordsBeforeName := by
    have hlead' : m.crlf.start.upTo start.crlf = lead := by
      rw [← Text.crlf_eq_self hfeed]
      exact hlead.crlf.upTo_eq
    simp only [Match.wordsBeforeName, Match.capture?, hcaptures, hcaptures', List.find?_cons,
      decide_true, hlead', hlead.upTo_eq]
  have hafter : m.crlf.afterParameters.isEmpty = m.afterParameters.isEmpty := by
    have hall := (hlead.trans hname).trans hrest
    rw [Match.afterParameters, Match.afterParameters, Text.isEmpty_trim, Text.isEmpty_trim,
      Match.text, Match.text, hall.upTo_eq, Match.crlf, hall.crlf.upTo_eq,
      Text.afterLast_crlf (by decide) (by decide), Text.isAllBlank_dropLast_crlf]
  rw [Match.declaresMethod, Match.declaresMethod, hwords, hafter]

end HeaderShape

namespace Body

variable {shape : HeaderShape} {source : Text} {m : Match}

theorem ofHeader_crlf (hm : shape.pattern.Finds source m) :
    ofHeader shape m.crlf = (ofHeader shape m).crlf := by
  cases shape with
  | keyword => exact scan_crlf 0 m.stop.behind m.stop.ahead
  | arrow =>
    have hspaces := Text.takeWhile_crlf (p := isIndent) (by decide) m.stop.ahead
    have hrest := Text.dropWhile_crlf (p := isIndent) (by decide) m.stop.ahead
    simp only [ofHeader, Match.crlf, Cursor.crlf, hspaces, hrest, Text.head?_crlf_eq_some_iff,
      ← Text.crlfBehind_reverse_append, apply_ite crlf]
    rfl
  | method =>
    obtain ⟨middle, -, hbrace, -⟩ := hm.ways
    have hbehind : m.stop.behind = '\x7b' :: middle.place.behind := hbrace.2
    simp only [ofHeader, Match.crlf, Cursor.crlf, hbehind]
    simp [crlf, Cursor.crlf]

theorem exists_passes_of_finds (hm : shape.pattern.Finds source m) {brace : Cursor}
    (h : ofHeader shape m = braced brace) : ∃ word, m.start.Passes word brace := by
  obtain ⟨lead, place, rest, hname⟩ := HeaderShape.exists_readsName hm
  obtain ⟨word, hword⟩ := exists_passes_of_ofHeader hname.goes_on hname.rest_ne_nil h
  exact ⟨_, hname.passes.trans hword⟩

/-- The body extends as far in both texts. -/
theorem extent?_crlf (hm : shape.pattern.Finds source m) :
    Option.Rel Text.IsReturned ((ofHeader shape m).extent? m.start)
      ((ofHeader shape m.crlf).extent? m.crlf.start) := by
  rw [ofHeader_crlf hm]
  cases hbody : ofHeader shape m with
  | braced brace =>
    obtain ⟨word, hword⟩ := exists_passes_of_finds hm hbody
    have hblock := bracedBlock?_crlf brace.ahead
    have hword' : m.crlf.start.upTo brace.crlf = Text.crlf word := hword.crlf.upTo_eq
    rw [crlf, extent?, extent?, hword.upTo_eq, hword', Cursor.crlf, hblock]
    cases bracedBlock? brace.ahead with
    | none => exact Option.Rel.none
    | some block => exact Option.Rel.some (Or.inl (Text.crlf_append word block).symm)
  | indented =>
    obtain ⟨_, _, _, hname⟩ := HeaderShape.exists_readsName hm
    exact Option.Rel.some (indentedBlock_crlf hname.firstLine_not_blank)
  | expression =>
    have hline : Text.crlf m.start.ahead.firstLine = m.start.ahead.firstLine := by
      apply Text.crlf_eq_self
      intro hmem
      exact absurd (List.mem_takeWhile_imp hmem) (by decide)
    rcases Text.firstLine_crlf m.start.ahead with heq | heq
    · exact Option.Rel.some (Or.inl (heq.trans hline.symm))
    · exact Option.Rel.some (Or.inr (heq.trans (by rw [hline])))
  | absent => exact Option.Rel.none

end Body

theorem Text.IsReturned.trimEnd_eq {text text' : Text} (h : text.IsReturned text') :
    text'.trimEnd = Text.crlf text.trimEnd := by
  rcases h with rfl | rfl
  · exact Text.trimEnd_crlf text
  · rw [Text.trimEnd_append_blank _ (List.forall_mem_singleton.mpr rfl), Text.trimEnd_crlf]

theorem Text.IsReturned.count_eq {text text' : Text} (h : text.IsReturned text') :
    text'.count '\n' = text.count '\n' := by
  rcases h with rfl | rfl
  · exact Text.count_crlf text
  · rw [List.count_append, Text.count_crlf]
    rfl

namespace Block

/-- The block in the text with returns: in the same lines, with the returns in its text. -/
def crlf (b : Block) : Block :=
  { b with text := Text.crlf b.text }

theorem ofHeader?_crlf {shape : HeaderShape} {source : Text} {m : Match}
    (hm : m ∈ shape.pattern.findAll source) :
    ofHeader? shape m.crlf = (ofHeader? shape m).map crlf := by
  have hfinds := Pattern.finds_of_mem_findAll hm
  have hfinds' : shape.pattern.Finds (Text.crlf source) m.crlf := by
    apply Pattern.finds_of_mem_findAll
    rw [(HeaderShape.keepsBreaks shape).findAll_crlf]
    exact List.mem_map_of_mem hm
  have hextent := Body.extent?_crlf hfinds
  have hline : lineOf m.crlf.start = lineOf m.start :=
    congrArg (· + 1) (Text.count_crlfBehind m.start.behind)
  rw [ofHeader?_eq_map hfinds, ofHeader?_eq_map hfinds', HeaderShape.part_name_crlf hfinds,
    HeaderShape.declaresMethod_crlf hfinds, hline]
  split_ifs
  · rfl
  · rfl
  · generalize (Body.ofHeader shape m).extent? m.start = extent at hextent ⊢
    generalize (Body.ofHeader shape m.crlf).extent? m.crlf.start = extent' at hextent ⊢
    cases hextent with
    | none => rfl
    | some hreturned => simp [crlf, hreturned.count_eq, hreturned.trimEnd_eq]

theorem foldl_addNew_crlf (blocks others : List Block) :
    (others.map crlf).foldl addNew (blocks.map crlf) = (others.foldl addNew blocks).map crlf := by
  induction others generalizing blocks with
  | nil => rfl
  | cons b rest ih =>
    have hadd : addNew (blocks.map crlf) b.crlf = (addNew blocks b).map crlf := by
      have hany : (blocks.map crlf).any (·.startLine = b.crlf.startLine) =
          blocks.any (·.startLine = b.startLine) := by
        rw [List.any_map]
        rfl
      rw [addNew, addNew, hany]
      split
      · rfl
      · rw [List.map_append, List.map_singleton]
    rw [List.map_cons, List.foldl_cons, hadd, ih, List.foldl_cons]

/-- The same functions are found in the same lines, whichever way lines end. -/
theorem find_crlf (source : Text) : find (Text.crlf source) = (find source).map crlf := by
  have hshape (shape : HeaderShape) :
      ofShape (Text.crlf source) shape = (ofShape source shape).map crlf := by
    rw [ofShape, ofShape, (HeaderShape.keepsBreaks shape).findAll_crlf, List.filterMap_map,
      List.map_filterMap]
    exact List.filterMap_congr fun m hm => ofHeader?_crlf hm
  rw [find, find, ← foldl_addNew_crlf, List.map_nil, List.map_flatMap, funext hshape]

end Block

end CodeGauge
