import CodeGauge.Proofs.Locate.Agreement
import CodeGauge.Proofs.Text.Margin

/-!
Lines of a source and rows of the text that is parsed in its place. What a preparation puts in
front of the source is counted by looking for the source in the result. A source with a call or a
statement in it is found nowhere but behind the header of the class that it is wrapped in, since
that header has neither parentheses nor semicolons; and so every line is that many rows further
down.
-/
namespace CodeGauge

namespace Text

theorem beforeFirst?_append_self (needle rest : Text) :
    beforeFirst? needle (needle ++ rest) = some [] := by
  cases htext : needle ++ rest with
  | nil => simp [(List.append_eq_nil_iff.mp htext).1, beforeFirst?]
  | cons c tail =>
    have hprefix : needle.isPrefixOf (c :: tail) = true := by
      rw [List.isPrefixOf_iff_prefix, ← htext]
      exact List.prefix_append needle rest
    rw [beforeFirst?, if_pos hprefix]

/-- A text with a character that is not in `front` does not begin there, even if the two overlap:
the first such character would have to stand in two places. -/
theorem eq_nil_of_prefix_append {needle front rest : Text} {c : Char} (hc : c ∈ needle)
    (hfront : c ∉ front) (hstarts : needle <+: front ++ (needle ++ rest)) : front = [] := by
  obtain ⟨tail, htail⟩ := hstarts
  have hplace := congrArg (List.idxOf c) htail
  rw [List.idxOf_append_of_mem hc, List.idxOf_append_of_notMem hfront,
    List.idxOf_append_of_mem hc] at hplace
  exact List.length_eq_zero_iff.mp (by omega)

theorem beforeFirst?_append {needle front : Text} {c : Char} (hc : c ∈ needle) (hfront : c ∉ front)
    (rest : Text) : beforeFirst? needle (front ++ (needle ++ rest)) = some front := by
  induction front with
  | nil => exact beforeFirst?_append_self needle rest
  | cons x front ih =>
    have hlater : ¬needle.isPrefixOf (x :: (front ++ (needle ++ rest))) = true := by
      rw [List.isPrefixOf_iff_prefix]
      intro hprefix
      exact absurd (eq_nil_of_prefix_append hc hfront hprefix) (List.cons_ne_nil x front)
    rw [List.cons_append, beforeFirst?, if_neg hlater,
      ih fun hmem => hfront (List.mem_cons_of_mem x hmem)]

theorem byteSliceFrom_eq_nil {start stop offset : Nat} (h : stop ≤ offset) (text : Text) :
    byteSliceFrom start stop offset text = [] := by
  cases text with
  | nil => rfl
  | cons c rest => rw [byteSliceFrom, if_pos h]

theorem byteSliceFrom_prefix {start offset : Nat} (h : start ≤ offset) (stop : Nat) (text : Text) :
    byteSliceFrom start stop offset text <+: text := by
  induction text generalizing offset with
  | nil => exact List.prefix_refl _
  | cons c rest ih =>
    rw [byteSliceFrom]
    split
    · exact List.nil_prefix
    · rw [if_neg (by omega), List.cons_prefix_cons]
      exact ⟨rfl, ih (by omega)⟩

/-- What lies between two offsets follows what lies before the first of them. -/
theorem byteSlice_append_prefix (text : Text) (start stop : Nat) :
    text.byteSlice 0 start ++ text.byteSlice start stop <+: text := by
  have hfrom (offset : Nat) : byteSliceFrom 0 start offset text ++
      byteSliceFrom start stop offset text <+: text := by
    induction text generalizing offset with
    | nil => exact List.prefix_refl _
    | cons c rest ih =>
      by_cases hpassed : start ≤ offset
      · rw [byteSliceFrom_eq_nil hpassed, List.nil_append]
        exact byteSliceFrom_prefix hpassed stop _
      · rw [byteSliceFrom, if_neg hpassed, if_neg (Nat.not_lt_zero _), List.cons_append,
          List.cons_prefix_cons]
        refine ⟨rfl, ?_⟩
        have hrest := ih (offset + c.utf8Size)
        rw [byteSliceFrom]
        split
        · rename_i hstop
          have hbehind : stop ≤ offset + c.utf8Size := by omega
          rwa [byteSliceFrom_eq_nil hbehind] at hrest
        · rw [if_pos (by omega)]
          exact hrest
  exact hfrom 0

end Text

/-- The first line of a node's text stands in the row that the node starts in. -/
theorem ParseTree.exists_row (source : Text) (n : ParseTree) :
    ∃ row : Nat, ∃ line, (n.startPoint source).row = row ∧
      (Text.pieces '\n' source)[row]? = some line ∧ (n.text source).firstLine <:+: line := by
  obtain ⟨after, hafter⟩ := source.byteSlice_append_prefix n.label.start n.label.stop
  obtain ⟨lead, hlead⟩ := Text.exists_getElem?_pieces '\n' (source.byteSlice 0 n.label.start)
    (n.text source ++ after)
  have hsource : source.byteSlice 0 n.label.start ++ (n.text source ++ after) = source := by
    rw [← List.append_assoc]
    exact hafter
  rw [hsource] at hlead
  refine ⟨(source.byteSlice 0 n.label.start).count '\n', _, rfl, hlead, ?_⟩
  have hfirst : (n.text source).firstLine <+: (Text.cut '\n' (n.text source ++ after)).1 := by
    rw [Text.cut_fst_eq_takeWhile]
    apply Text.prefix_firstLine
    · exact (List.takeWhile_prefix _).trans (List.prefix_append _ _)
    · intro hmem
      exact absurd (List.mem_takeWhile_imp hmem) (by decide)
  exact hfirst.isInfix.trans (List.suffix_append lead _).isInfix

namespace Grammar

/-- Whether a source is put into a class of its own before it is parsed. -/
def wraps (g : Grammar) (source : Text) : Bool :=
  g = java && !typeDeclaration.foundIn source

/-- The rows that preparing a source puts in front of it. -/
def rowsInFront (g : Grammar) (source : Text) : List Text :=
  if g.wraps source then ["class __CodeUnit__ \x7b"] else []

/-- The rows that preparing a source puts behind it. -/
def rowsBehind (g : Grammar) (source : Text) : List Text :=
  if g.wraps source then ["\x7d"] else []

/-- The row that a line of a source becomes: without the shared margin where indentation matters,
and the same line elsewhere. -/
def rowOf (g : Grammar) (source line : Text) : Text :=
  if g = python then Text.unindent source.sharedMargin.length line else line

theorem prepare_of_wraps {g : Grammar} {source : Text} (h : g.wraps source = true) :
    g.prepare source =
      ("class __CodeUnit__ \x7b\n" : Text) ++ (source ++ ("\n\x7d" : Text)) := by
  rw [wraps, Bool.and_eq_true, decide_eq_true_eq, Bool.not_eq_true'] at h
  obtain ⟨rfl, hnone⟩ := h
  rw [prepare, hnone, if_neg Bool.false_ne_true, List.append_assoc]

theorem prepare_of_not_wraps {g : Grammar} {source : Text} (h : g.wraps source = false)
    (hpython : g ≠ .python) : g.prepare source = source := by
  cases g with
  | java =>
    have hfound : typeDeclaration.foundIn source = true := by simpa [wraps] using h
    rw [prepare, hfound, if_pos rfl]
  | javascript => rfl
  | python => exact absurd rfl hpython

/-- The rows of a prepared source are its lines, and the two of a class around it. -/
theorem pieces_prepare (g : Grammar) (source : Text) :
    Text.pieces '\n' (g.prepare source) = g.rowsInFront source ++
      (Text.pieces '\n' source).map (g.rowOf source) ++ g.rowsBehind source := by
  by_cases hwraps : g.wraps source = true
  · have hkept : g.rowOf source = id := by
      funext line
      have hjava : g ≠ .python := by
        rintro rfl
        exact absurd hwraps (by simp [wraps])
      rw [rowOf, if_neg hjava, id]
    have hheader : ("class __CodeUnit__ \x7b\n" : Text) =
        ("class __CodeUnit__ \x7b" : Text) ++ ['\n'] := by decide
    have hend : ("\n\x7d" : Text) = '\n' :: ("\x7d" : Text) := by decide
    rw [prepare_of_wraps hwraps, hheader, hend, List.append_assoc, List.singleton_append,
      Text.pieces_append_separator, Text.pieces_append_separator, rowsInFront, rowsBehind,
      if_pos hwraps, if_pos hwraps, hkept, List.map_id, ← List.append_assoc]
    rfl
  · have hplain : g.wraps source = false := Bool.eq_false_iff.mpr hwraps
    rw [rowsInFront, rowsBehind, if_neg hwraps, if_neg hwraps, List.nil_append, List.append_nil]
    by_cases hpython : g = .python
    · subst hpython
      have hrow : python.rowOf source = Text.unindent source.sharedMargin.length := by
        funext line
        rw [rowOf, if_pos rfl]
      rw [hrow, prepare, Text.pieces_dedent]
    · have hkept : g.rowOf source = id := by
        funext line
        rw [rowOf, if_neg hpython, id]
      rw [hkept, List.map_id, prepare_of_not_wraps hplain hpython]

/-- Every line keeps its place among the lines, behind the rows in front of it. -/
theorem getElem?_pieces_prepare {g : Grammar} {source line : Text} {i : Nat}
    (h : (Text.pieces '\n' source)[i]? = some line) :
    (Text.pieces '\n' (g.prepare source))[i + (g.rowsInFront source).length]? =
      some (g.rowOf source line) := by
  have hlt : i < ((Text.pieces '\n' source).map (g.rowOf source)).length := by
    rw [List.length_map]
    exact (List.getElem?_eq_some_iff.mp h).1
  rw [pieces_prepare, List.append_assoc, List.getElem?_append_right (Nat.le_add_left _ _),
    Nat.add_sub_cancel, List.getElem?_append_left hlt, List.getElem?_map, h, Option.map_some]

/-- A row comes from a line of the source, or it is one of the two around them. -/
theorem exists_line_of_row {g : Grammar} {source cells : Text} {row : Nat}
    (h : (Text.pieces '\n' (g.prepare source))[row]? = some cells) :
    (∃ (i : Nat) (line : Text), (Text.pieces '\n' source)[i]? = some line ∧
        row = i + (g.rowsInFront source).length ∧ cells = g.rowOf source line) ∨
      g.wraps source = true ∧ (row = 0 ∨ row = (Text.pieces '\n' source).length + 1) := by
  rw [pieces_prepare, List.append_assoc, List.getElem?_append] at h
  split at h
  case isTrue hfront =>
    have hwraps : g.wraps source = true := by
      by_contra hplain
      rw [rowsInFront, if_neg hplain] at hfront
      exact absurd hfront (Nat.not_lt_zero row)
    rw [rowsInFront, if_pos hwraps, List.length_singleton] at hfront
    exact .inr ⟨hwraps, .inl (by omega)⟩
  case isFalse hfront =>
    rw [List.getElem?_append] at h
    split at h
    case isTrue hline =>
      obtain ⟨line, hat, rfl⟩ := Option.map_eq_some_iff.mp (List.getElem?_map.symm.trans h)
      exact .inl ⟨_, line, hat, by omega, rfl⟩
    case isFalse hbehind =>
      have hwraps : g.wraps source = true := by
        by_contra hplain
        rw [rowsBehind, if_neg hplain, List.getElem?_nil] at h
        exact absurd h (by simp)
      have hlt := (List.getElem?_eq_some_iff.mp h).1
      rw [rowsInFront, if_pos hwraps, List.length_singleton] at hfront hbehind hlt
      rw [rowsBehind, if_pos hwraps, List.length_singleton] at hlt
      rw [List.length_map] at hbehind hlt
      exact .inr ⟨hwraps, .inr (by omega)⟩

/-- Nothing but the shared margin is taken from a line. -/
theorem eq_rowOf {g : Grammar} {source line : Text} (h : line ∈ Text.pieces '\n' source) :
    if g = python then
      if line.isUnblank then line = source.sharedMargin ++ g.rowOf source line
      else g.rowOf source line = []
    else g.rowOf source line = line := by
  rw [rowOf]
  split
  · split
    · rename_i hunblank
      obtain ⟨rest, hrest⟩ := Text.sharedMargin_prefix h hunblank
      rw [Text.unindent_of_isUnblank hunblank, ← hrest, List.drop_left]
    · rename_i hblank
      exact Text.unindent_of_blank (Bool.eq_false_iff.mpr hblank) _
  · rfl

/-- A call or a statement in the source rules out that the source is found in front of itself. -/
theorem rowOffset_eq_length {g : Grammar} {source : Text}
    (h : g = .java → '(' ∈ source ∨ ';' ∈ source) :
    g.rowOffset source = (g.rowsInFront source).length := by
  by_cases hwraps : g.wraps source = true
  · have hjava : g = .java := by
      rw [wraps, Bool.and_eq_true, decide_eq_true_eq] at hwraps
      exact hwraps.1
    have hfound : Text.beforeFirst? source (g.prepare source) =
        some ("class __CodeUnit__ \x7b\n" : Text) := by
      rw [prepare_of_wraps hwraps]
      rcases h hjava with hparenthesis | hsemicolon
      · exact Text.beforeFirst?_append hparenthesis (by decide) _
      · exact Text.beforeFirst?_append hsemicolon (by decide) _
    rw [rowOffset, hfound, rowsInFront, if_pos hwraps]
    rfl
  · rw [rowsInFront, if_neg hwraps, List.length_nil]
    by_cases hpython : g = .python
    · rw [hpython, rowOffset_python]
    · have hsame := prepare_of_not_wraps (Bool.eq_false_iff.mpr hwraps) hpython
      have hfound := Text.beforeFirst?_append_self source []
      rw [List.append_nil] at hfound
      rw [rowOffset, hsame, hfound]
      rfl

theorem rowOf_infix (g : Grammar) (source line : Text) : g.rowOf source line <:+: line := by
  rw [rowOf]
  split
  · rw [Text.unindent]
    split
    · exact (List.drop_suffix _ _).isInfix
    · exact List.nil_infix
  · exact List.infix_refl line

end Grammar

theorem ParsedSource.eq_of_ofSource? {f : FrontEnd} {source : Text} {parsed : ParsedSource}
    (h : ofSource? f source = some parsed) :
    parsed.prepared = f.grammar.prepare source ∧
      parsed.rowOffset = f.grammar.rowOffset source := by
  obtain ⟨root, -, rfl⟩ := Option.map_eq_some_iff.mp h
  exact ⟨rfl, rfl⟩

namespace CodeUnit

theorem exists_site_of_mem_locateAll {frontEnds : FrontEndRegistry} {f : FrontEnd}
    {source language : Text} {u : CodeUnit}
    (hf : frontEnds.find? (Language.normalize language) = some f)
    (h : u ∈ locateAll frontEnds source language) :
    ∃ parsed, ∃ s ∈ parsed.root.sites none, ParsedSource.ofSource? f source = some parsed ∧
      u = parsed.unitOf (Language.normalize language) s := by
  simp only [locateAll, hf] at h
  cases hparsed : ParsedSource.ofSource? f source with
  | none => exact absurd h (by simp [hparsed])
  | some parsed =>
    simp only [hparsed, ParsedSource.units, List.mem_map] at h
    obtain ⟨s, hs, rfl⟩ := h
    exact ⟨parsed, s, (List.mem_filter.mp hs).1, rfl, rfl⟩

theorem exists_site_of_located {frontEnds : FrontEndRegistry} {f : FrontEnd}
    {source language : Text} {u : CodeUnit}
    (hf : frontEnds.find? (Language.normalize language) = some f)
    (h : u ∈ locateAll frontEnds source language ∨
      ∃ line column, locate frontEnds source language line column = some u) :
    ∃ parsed, ∃ s ∈ parsed.root.sites none, ParsedSource.ofSource? f source = some parsed ∧
      u = parsed.unitOf (Language.normalize language) s := by
  rcases h with hall | ⟨line, column, hlocate⟩
  · exact exists_site_of_mem_locateAll hf hall
  · obtain ⟨parsed, s, hparsed, hs, hunit⟩ := exists_site_of_locate hf hlocate
    have hway := (Grammar.unitAt?_eq_some hs).1
    exact ⟨parsed, s, ParseTree.pathTo_subset_sites _ _ none parsed.root hway, hparsed, hunit⟩

/-- A unit whose node begins in a row of the text that is parsed. Its identifier names the line of
the source that the row comes from. A row of the class around the source comes from no line, and the
number in the identifier is that of no line then. -/
inductive BeginsInRow (u : CodeUnit) (g : Grammar) (source : Text) (row : Nat) : Prop
  | onLine (i : Nat) (line : Text) (hline : (Text.pieces '\n' source)[i]? = some line)
      (hrow : row = i + g.rowOffset source) (hid : u.id = idAt u.language u.name (i + 1))
      (hfirst : u.text.firstLine <:+: line)
  | aroundSource (hwraps : g.wraps source = true)
      (hrow : row = 0 ∨ row = (Text.pieces '\n' source).length + 1)
      (hid : u.id = idAt u.language u.name row)

theorem exists_row_of_unitOf {f : FrontEnd} {source : Text} {parsed : ParsedSource}
    (hparsed : ParsedSource.ofSource? f source = some parsed)
    (hoffset : f.grammar.rowOffset source = (f.grammar.rowsInFront source).length)
    (language : Text) (s : Site) :
    ∃ row : Nat, (s.node.startPoint (f.grammar.prepare source)).row = row ∧
      (parsed.unitOf language s).BeginsInRow f.grammar source row := by
  obtain ⟨hprepared, hrowOffset⟩ := ParsedSource.eq_of_ofSource? hparsed
  obtain ⟨row, cells, hrow, hcells, hfirst⟩ := s.node.exists_row (f.grammar.prepare source)
  have hid : (parsed.unitOf language s).id = idAt language (parsed.unitOf language s).name
      (row - (f.grammar.rowsInFront source).length + 1) := by
    rw [← hoffset, ← hrowOffset, ← hrow, ← hprepared]
    rfl
  have htext : (parsed.unitOf language s).text = s.node.text (f.grammar.prepare source) :=
    congrArg s.node.text hprepared
  rw [← htext] at hfirst
  refine ⟨row, hrow, ?_⟩
  rcases Grammar.exists_line_of_row hcells with ⟨i, line, hline, rfl, rfl⟩ | ⟨hwraps, haround⟩
  · have hnumber : ((i + (f.grammar.rowsInFront source).length : Nat) : Int) -
        (f.grammar.rowsInFront source).length + 1 = i + 1 := by omega
    rw [hnumber] at hid
    exact .onLine i line hline (by rw [hoffset]) hid (hfirst.trans (Grammar.rowOf_infix _ _ _))
  · have hone : (f.grammar.rowsInFront source).length = 1 := by
      rw [Grammar.rowsInFront, if_pos hwraps, List.length_singleton]
    have hnumber : (row : Int) - (1 : Nat) + 1 = row := by omega
    rw [hone, hnumber] at hid
    exact .aroundSource hwraps haround hid

/-- The rows of a prepared source are its lines, without the shared margin where indentation
matters, and the row offset counts the rows in front of them. So the line in a unit's identifier is
the line of the source in which the unit begins. -/
theorem rows_of_source {g : Grammar} {source : Text} (h : g = .java → '(' ∈ source ∨ ';' ∈ source) :
    let lines := Text.pieces '\n' source
    let rows := Text.pieces '\n' (g.prepare source)
    g.rowOffset source = (g.rowsInFront source).length ∧
      rows = g.rowsInFront source ++ lines.map (g.rowOf source) ++ g.rowsBehind source ∧
      (∀ (i : Nat) (line : Text), lines[i]? = some line →
        ∃ row, rows[i + g.rowOffset source]? = some row ∧
          if g = .python then
            if line.isUnblank then line = source.sharedMargin ++ row else row = []
          else row = line) ∧
      ∀ (frontEnds : FrontEndRegistry) (language : Text) (f : FrontEnd),
        frontEnds.find? (Language.normalize language) = some f → f.grammar = g →
        ∀ u, (u ∈ locateAll frontEnds source language ∨
            ∃ line column, locate frontEnds source language line column = some u) →
          ∃ parsed, ∃ s ∈ parsed.root.sites none, ParsedSource.ofSource? f source = some parsed ∧
            u = parsed.unitOf (Language.normalize language) s ∧
            ∃ row : Nat, (s.node.startPoint (g.prepare source)).row = row ∧
              u.BeginsInRow g source row := by
  intro lines rows
  have hoffset := Grammar.rowOffset_eq_length h
  refine ⟨hoffset, Grammar.pieces_prepare g source, ?lines, ?units⟩
  case lines =>
    intro i line hline
    rw [hoffset]
    exact ⟨_, Grammar.getElem?_pieces_prepare hline, Grammar.eq_rowOf (List.mem_of_getElem? hline)⟩
  case units =>
    rintro frontEnds language f hf rfl u hu
    obtain ⟨parsed, s, hs, hparsed, rfl⟩ := exists_site_of_located hf hu
    exact ⟨parsed, s, hs, hparsed, rfl, exists_row_of_unitOf hparsed hoffset _ s⟩

namespace BareMethod

/-- A field and a method without their class. -/
def source : Text := "int size;\nvoid f() \x7b\n\x7d"

/-- The tree of the source in a class of its own. -/
def root : ParseTree :=
  .node { type := "program", start := 0, stop := 45 }
    [.node { type := "class_declaration", start := 0, stop := 45 }
      [.node { type := "field_declaration", start := 21, stop := 30 } [],
        .node { type := "method_declaration", start := 31, stop := 43 }
          [.node { type := "identifier", start := 36, stop := 37, field := some "name" } []]]]

def frontEnd : FrontEnd :=
  ⟨.java, some fun _ => some root⟩

def registry : FrontEndRegistry :=
  .ofParsers fun _ => frontEnd.parser

theorem find?_java : registry.find? (Language.normalize "java") = some frontEnd :=
  rfl

end BareMethod

open BareMethod in
/-- The method is in row two of the text that is parsed, and on line two of the source. -/
theorem rows_of_bareMethod :
    ';' ∈ source ∧ Grammar.java.rowOffset source = 1 ∧
      (Text.pieces '\n' (Grammar.java.prepare source))[2]? = some ("void f() \x7b" : Text) ∧
      ∃ u, locate registry source "java" 3 = some u ∧ u.id = ("java:f@2" : Text) ∧
        u.text.firstLine <:+: ("void f() \x7b" : Text) := by
  have hsemicolon : ';' ∈ source := by decide
  obtain ⟨hoffset, -, hlines, hunits⟩ := rows_of_source (g := .java) fun _ => .inr hsemicolon
  have hwraps : Grammar.java.wraps source = true := by decide +kernel
  have hone : Grammar.java.rowOffset source = 1 := by
    rw [hoffset, Grammar.rowsInFront, if_pos hwraps, List.length_singleton]
  have hline : (Text.pieces '\n' source)[1]? = some ("void f() \x7b" : Text) := by decide
  obtain ⟨row, hrow, hsame⟩ := hlines 1 _ hline
  rw [if_neg (by decide)] at hsame
  rw [hone, hsame] at hrow
  have hfound : (locate registry source "java" 3).map (fun u => (u.id, u.name)) =
      some (("java:f@2" : Text), ("f" : Text)) := by decide +kernel
  obtain ⟨u, hu, hread⟩ := Option.map_eq_some_iff.mp hfound
  obtain ⟨hid, hname⟩ := Prod.ext_iff.mp hread
  dsimp only at hid hname
  obtain ⟨parsed, s, -, -, hunit, row', -, hbegins⟩ :=
    hunits registry "java" frontEnd find?_java rfl u (.inr ⟨3, 0, hu⟩)
  have hlanguage : u.language = ("java" : Text) := by
    rw [hunit]
    rfl
  refine ⟨hsemicolon, hone, hrow, u, hu, hid, ?_⟩
  cases hbegins with
  | onLine i line hat _ hnumber hfirst =>
    rw [hid, hname, hlanguage] at hnumber
    have hlt : i < 3 := (List.getElem?_eq_some_iff.mp hat).1
    obtain rfl | rfl | rfl : i = 0 ∨ i = 1 ∨ i = 2 := by omega
    · exact absurd hnumber (by decide +kernel)
    · rw [hline, Option.some.injEq] at hat
      rwa [hat]
    · exact absurd hnumber (by decide +kernel)
  | aroundSource _ hat hnumber =>
    rw [hid, hname, hlanguage] at hnumber
    rcases hat with rfl | rfl
    · exact absurd hnumber (by decide +kernel)
    · exact absurd hnumber (by decide +kernel)

/-- A line that holds nothing but a carriage return is not emptied. -/
theorem rows_of_carriageReturns :
    let source : Text := "x = 1\r\n\r\ny = 2\r\n"
    ∃ line, (Text.pieces '\n' source)[1]? = some line ∧ line.isAllBlank = true ∧
      (Text.pieces '\n' (Grammar.python.prepare source))[1 + Grammar.python.rowOffset source]? =
        some line ∧ line ≠ [] :=
  ⟨['\r'], by decide +kernel, by decide, by decide +kernel, by decide⟩

end CodeUnit

end CodeGauge
