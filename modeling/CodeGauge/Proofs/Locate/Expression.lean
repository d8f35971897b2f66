import CodeGauge.Proofs.Block.Parameters
import CodeGauge.Proofs.Locate.Agreement
import CodeGauge.Proofs.Pattern.Declaration

/-!
Functions whose body is an expression on the lines below the header. The equals sign at the end of
the header ends the block there, although the lines below are deeper: they belong to no function, or
to one that opens among them, where the rule of the depth would take all of them in.
-/
namespace CodeGauge

namespace HeaderShape

open Pattern

/-- The match of a header `fun name`, where `rest` comes behind the name. -/
def funMatch (name rest : Text) : Match :=
  let stop : Cursor := ⟨name.reverse ++ " nuf", rest⟩
  ⟨.first ("fun " ++ (name ++ rest)), stop, [⟨.name, ⟨" nuf", name ++ rest⟩, stop⟩]⟩

variable {name : Text}

/-- A name with a parenthesis behind it is no receiver, as it holds no dot. -/
theorem not_ways_receiver (hname : isName name = true) (rest : Text) {s : Progress}
    (hs : s.place.ahead = name ++ '(' :: rest) (s' : Progress) :
    ¬(many1 (fun c => isWord c || isOneOf "$.<>?" c) ++ "." : Pattern).Ways s s' := by
  rintro ⟨middle, hword, hdot, -⟩
  obtain ⟨word, -, hword, hpasses, -⟩ := ways_many1_iff.mp hword
  have hname : '.' ∉ name := by
    intro hmem
    exact absurd (isNamePart_of_isName hname '.' hmem) (by decide)
  have hparenthesis : '(' ∉ word := by
    intro hmem
    exact absurd (hword '(' hmem) (by decide)
  have hahead : name ++ '(' :: rest = word ++ '.' :: s'.place.ahead :=
    hs.symm.trans (hpasses.1.trans (congrArg (word ++ ·) hdot.1))
  rcases List.append_eq_append_iff.mp hahead with ⟨between, rfl, hrest⟩ | ⟨between, rfl, hrest⟩
  · cases between with
    | nil => exact absurd (List.cons.inj hrest).1 (by decide)
    | cons c between =>
      obtain ⟨rfl, -⟩ := List.cons.inj hrest
      exact hparenthesis (List.mem_append_right name List.mem_cons_self)
  · cases between with
    | nil => exact absurd (List.cons.inj hrest).1 (by decide)
    | cons c between =>
      obtain ⟨rfl, -⟩ := List.cons.inj hrest
      exact hname (List.mem_append_right word List.mem_cons_self)

/-- A header is read at the start of the text, with the whole name in front of the parameters. -/
theorem matchAt?_fun (hname : isName name = true) (rest : Text) :
    keyword.pattern.matchAt? (.first ("fun " ++ (name ++ '(' :: rest))) =
      some (funMatch name ('(' :: rest)) := by
  obtain ⟨c, tail, rfl⟩ := List.exists_cons_of_ne_nil (ne_nil_of_isName hname)
  obtain ⟨hstart, htail⟩ := Bool.and_eq_true_iff.mp hname
  have hfun : (Cursor.first ("fun " ++ (c :: tail ++ '(' :: rest))).Passes "fun"
      ⟨"nuf", ' ' :: (c :: tail ++ '(' :: rest)⟩ := ⟨rfl, rfl⟩
  have hspace := Cursor.passes_singleton ' ' "nuf" (c :: tail ++ '(' :: rest)
  have hfirst := Cursor.passes_singleton c " nuf" (tail ++ '(' :: rest)
  have hothers : (⟨c :: " nuf", tail ++ '(' :: rest⟩ : Cursor).Passes tail
      (funMatch (c :: tail) ('(' :: rest)).stop := by
    refine ⟨rfl, ?_⟩
    rw [funMatch, List.reverse_cons, List.append_assoc, List.singleton_append]
  have hne {x : Char} (hx : isNameStart x = false) : c ≠ x := by
    rintro rfl
    exact Bool.false_ne_true (hx.symm.trans hstart)
  have hindent : isIndent c = false := by
    simp [isIndent, hne (x := ' ') (by decide), hne (x := '\t') (by decide)]
  have hrun : keyword.pattern.run ⟨.first ("fun " ++ (c :: tail ++ '(' :: rest)), []⟩ some =
      some ⟨(funMatch (c :: tail) ('(' :: rest)).stop,
        (funMatch (c :: tail) ('(' :: rest)).captures⟩ := by
    rw [pattern, keywordHeader]
    simp only [run_append]
    -- neither white space nor modifiers stand in front of the keyword
    apply run_check rfl
    apply run_many (List.forall_mem_nil _) (Cursor.Passes.refl _) rfl
    apply run_star_shortest
    apply run_alt_of_some
    apply run_literal hfun
    apply run_check rfl
    -- one blank, and neither a star nor type parameters nor a receiver in front of the name
    apply run_opt_of_not_ways
    · exact not_ways_of_initial rfl fun heq => absurd (Option.some.inj heq) (by decide)
    apply run_many (List.forall_mem_singleton.mpr rfl) hspace
    · exact hindent
    apply run_opt_of_not_ways
    · exact not_ways_of_initial rfl fun heq => hne (by decide) (Option.some.inj heq)
    apply run_opt_of_not_ways
    · exact not_ways_of_initial rfl fun heq => hne (by decide) (Option.some.inj heq)
    apply run_opt_of_not_ways
    · exact not_ways_receiver hname rest rfl
    -- the name is captured up to the parenthesis
    rw [declaredName, run, run_append]
    apply run_one hstart hfirst
    apply run_many (List.all_eq_true.mp htail) hothers rfl
    rfl
  rw [matchAt?, hrun]
  rfl

end HeaderShape

/-- A function whose body is an expression on the lines below its header. -/
structure ExpressionFunction where
  name : Text
  params : Text
  lines : List Text
  name_isName : isName name = true
  name_not_keyword : name ∉ controlKeywords
  params_plain : ∀ c ∈ params, isOpening c = false ∧ isClosing c = false ∧ c ≠ '\n'
  lines_ne_nil : lines ≠ []
  lines_deeper : ∀ line ∈ lines, '\n' ∉ line ∧ line.isAllBlank = false ∧ 0 < line.indentation

namespace ExpressionFunction

/-- The parameters in their parentheses. -/
def parameterList (d : ExpressionFunction) : Text :=
  '(' :: (d.params ++ [')'])

def header (d : ExpressionFunction) : Text :=
  "fun " ++ (d.name ++ (d.parameterList ++ " ="))

def source (d : ExpressionFunction) : Text :=
  Text.join ['\n'] (d.header :: d.lines)

/-- The header alone. -/
def block (d : ExpressionFunction) : Block :=
  ⟨d.name, 1, 1, d.header⟩

variable (d : ExpressionFunction)

theorem isParameterList : IsParameterList d.parameterList :=
  .of_plain fun c hc => ⟨(d.params_plain c hc).1, (d.params_plain c hc).2.1⟩

theorem feed_not_mem_header : '\n' ∉ d.header := by
  have hname : '\n' ∉ d.name := by
    intro hmem
    exact absurd (isNamePart_of_isName d.name_isName '\n' hmem) (by decide)
  have hparams : '\n' ∉ d.params := fun hmem => (d.params_plain '\n' hmem).2.2 rfl
  simp [header, parameterList, hname, hparams]

/-- What comes behind the parameters. -/
def rest (d : ExpressionFunction) : Text :=
  " =" ++ '\n' :: Text.join ['\n'] d.lines

def headerMatch (d : ExpressionFunction) : Match :=
  HeaderShape.funMatch d.name (d.parameterList ++ d.rest)

theorem source_eq : d.source = d.header ++ '\n' :: Text.join ['\n'] d.lines := by
  rw [source, Text.join, List.intercalate_cons_of_ne_nil d.lines_ne_nil, List.append_assoc]
  rfl

theorem start_headerMatch : d.headerMatch.start = .first d.source := by
  rw [source_eq, header]
  simp [headerMatch, HeaderShape.funMatch, rest]

theorem firstLine_source : Text.firstLine d.source = d.header := by
  rw [source_eq, Text.firstLine, List.takeWhile_append_of_pos,
    List.takeWhile_cons_of_neg (by decide), List.append_nil]
  intro c hc
  rw [bne_iff_ne]
  rintro rfl
  exact d.feed_not_mem_header hc

theorem trimEnd_header : Text.trimEnd d.header = d.header := by
  have hheader : d.header = "fun " ++ (d.name ++ (d.parameterList ++ " ")) ++ ['='] := by
    simp [header]
  rw [hheader]
  exact Text.trimEnd_append_cons _ (by decide) []

/-- The equals sign at the end of the header tells that an expression follows. -/
theorem ofHeader_headerMatch : Body.ofHeader .keyword d.headerMatch = .expression := by
  have hspace (behind : Text) : Body.scan 0 behind d.rest =
      Body.scan 0 (' ' :: behind) ('=' :: '\n' :: Text.join ['\n'] d.lines) := by
    have hrest : d.rest = ' ' :: '=' :: '\n' :: Text.join ['\n'] d.lines := rfl
    rw [hrest, Body.scan]
    simp
  rw [Body.ofHeader, headerMatch, HeaderShape.funMatch, Body.scan_append_params d.isParameterList,
    hspace]
  simp [Body.scan, Cursor.isBefore, Cursor.isAfter, isOneOf]

theorem matchAt?_source :
    HeaderShape.keyword.pattern.matchAt? (.first d.source) = some d.headerMatch := by
  rw [← start_headerMatch]
  exact HeaderShape.matchAt?_fun d.name_isName _

theorem ofHeader?_headerMatch : Block.ofHeader? .keyword d.headerMatch = some d.block := by
  have hfinds : HeaderShape.keyword.pattern.Finds d.source d.headerMatch := by
    refine ⟨⟨[], ?_⟩, (Pattern.ways_of_matchAt? d.matchAt?_source).2⟩
    rw [start_headerMatch]
    exact Cursor.Passes.refl _
  have hname : d.headerMatch.part .name = d.name := Pattern.part_of_captures rfl ⟨rfl, rfl⟩
  have hkeyword : ¬controlKeywords.contains d.name = true := by
    rw [List.contains_iff_mem]
    exact d.name_not_keyword
  rw [Block.ofHeader?_eq_map hfinds, hname, if_neg hkeyword, if_neg (by simp),
    ofHeader_headerMatch, Body.extent?, start_headerMatch, Cursor.first, firstLine_source,
    Option.map_some, List.count_eq_zero.mpr d.feed_not_mem_header, trimEnd_header]
  rfl

/-- The first block of the source is the header alone. -/
theorem exists_find_eq : ∃ others, Block.find d.source = d.block :: others ∧
    ∀ b ∈ others, 2 ≤ b.startLine := by
  have hall : HeaderShape.keyword.pattern.findAll d.source = d.headerMatch ::
      HeaderShape.keyword.pattern.findAllFrom 0 d.headerMatch.stop.behind
        d.headerMatch.stop.ahead :=
    Pattern.findAllFrom_of_searchFrom (by decide) (Pattern.searchFrom_of_matchAt? d.matchAt?_source)
  obtain ⟨others, hfind⟩ : ∃ others, Block.find d.source = d.block :: others := by
    obtain ⟨later, hlater⟩ := Block.ofShape_keyword_prefix_find d.source
    rw [Block.ofShape, hall, List.filterMap_cons_some d.ofHeader?_headerMatch] at hlater
    exact ⟨_, hlater.symm⟩
  refine ⟨others, hfind, ?_⟩
  intro b hb
  -- the first line opens no second block
  have hpos := Block.startLine_pos (hfind ▸ List.mem_cons_of_mem d.block hb)
  have hne : b.startLine ≠ 1 := by
    intro hline
    have hlines := Block.nodup_startLine_find d.source
    rw [hfind, List.map_cons, List.nodup_cons] at hlines
    exact hlines.1 (List.mem_map.mpr ⟨b, hb, hline⟩)
  omega

/-- The rule of the depth takes in the whole source. -/
theorem indentedBlock_source : indentedBlock d.source = d.source := by
  have hpieces : Text.pieces '\n' d.source = d.header :: d.lines := by
    apply Text.pieces_join (List.cons_ne_nil _ _)
    exact List.forall_mem_cons.mpr
      ⟨d.feed_not_mem_header, fun line hline => (d.lines_deeper line hline).1⟩
  have hothers : (Text.cut '\n' d.source).2 = d.lines := (List.cons.inj hpieces).2
  have hbase : Text.indentation (Text.firstLine d.source) = 0 := by
    rw [firstLine_source]
    rfl
  have hdeeper : indentedLines 0 d.lines = d.lines :=
    indentedLines_eq_self fun line hline => Or.inr (d.lines_deeper line hline).2.2
  have hlines : d.lines.rdropWhile Text.isAllBlank = d.lines := by
    apply List.rdropWhile_eq_self_iff.mpr
    intro hne
    exact Bool.eq_false_iff.mp (d.lines_deeper _ (List.getLast_mem hne)).2.1
  rw [indentedBlock_eq_join, linesBelow, hothers, hbase, hdeeper, hlines, firstLine_source, source]

end ExpressionFunction

namespace CodeUnit

variable {frontEnds : FrontEndRegistry} {language : Text}

/-- The header is the first block and the only one on its line, so it is the unit there; a line
below is in the unit of a function that opens below, or in none. Told by their depth, all lines
would belong to the function. -/
theorem locate_expressionFunction (d : ExpressionFunction)
    (h : frontEnds.find? (Language.normalize language) = none) :
    indentedBlock d.source = d.source ∧
    ∃ others, Block.find d.source = d.block :: others ∧ (∀ b ∈ others, 2 ≤ b.startLine) ∧
      ∀ line column, locate frontEnds d.source language line column =
        if line = 1 then some (ofBlock (Language.normalize language) d.block)
        else (Block.innermost? line others).map (ofBlock (Language.normalize language)) := by
  obtain ⟨others, hfind, hbelow⟩ := d.exists_find_eq
  refine ⟨d.indentedBlock_source, others, hfind, hbelow, ?_⟩
  intro line column
  rw [locate_eq_innermost? h, hfind]
  by_cases hline : line = 1
  · have hspans : d.block.Spans line := ⟨Int.le_of_eq hline.symm, Int.le_of_eq hline⟩
    obtain ⟨b, hb⟩ := Option.isSome_iff_exists.mp
      (Block.isSome_innermost?_iff.mpr ⟨d.block, List.mem_cons_self, hspans⟩)
    obtain ⟨hmem, hspans', -⟩ := Block.innermost?_eq_some hb
    rcases List.mem_cons.mp hmem with rfl | hmem
    · rw [if_pos hline, hb, Option.map_some]
    · have hstart := hbelow b hmem
      have hstart' := hspans'.1
      omega
  · have hspans : ¬d.block.Spans line := by
      rintro ⟨hstart, hend⟩
      exact hline (Int.le_antisymm hend hstart)
    rw [if_neg hline, Block.innermost?_cons_of_not_spans hspans]

namespace Twice

/-- An expression on the one line below the header. -/
def function : ExpressionFunction where
  name := "twice"
  params := "x"
  lines := ["    x + x"]
  name_isName := by decide
  name_not_keyword := by decide
  params_plain := List.forall_mem_singleton.mpr (by decide)
  lines_ne_nil := by decide
  lines_deeper := by decide

def registry : FrontEndRegistry :=
  .ofParsers fun _ => none

theorem find?_kotlin : registry.find? (Language.normalize "kotlin") = none := by
  decide

end Twice

open Twice in
theorem locate_expressionFunction_of_twice :
    indentedBlock function.source = function.source ∧
      locate registry function.source "kotlin" 1 = some (ofBlock "kotlin" function.block) := by
  obtain ⟨hdeeper, others, -, -, hlocate⟩ := locate_expressionFunction function find?_kotlin
  exact ⟨hdeeper, (hlocate 1 0).trans (if_pos rfl)⟩

open Twice in
/-- No block goes on from the header to the line below, and there is no unit there. -/
theorem locate_eq_none_of_twice :
    (∀ b ∈ Block.find function.source, ¬(b.name = "twice" ∧ b.startLine = 1 ∧ b.endLine = 2)) ∧
      locate registry function.source "kotlin" 2 = none := by
  have hfind : Block.find function.source = [function.block] := by decide +kernel
  rw [locate_eq_innermost? find?_kotlin, hfind]
  decide

end CodeUnit

end CodeGauge
