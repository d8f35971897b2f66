import CodeGauge.Metrics.TextScan
import CodeGauge.Proofs.Text.Lines

/-!
The lines of code of a text. Every line break parts them, so those of a text are those of its pieces
one behind the other; an empty line that comes of cutting a text adds nothing.
-/
namespace CodeGauge.TextScan

/-- The lines of code among some lines, trimmed. -/
def codeAmong (lines : List Text) : List Text :=
  (lines.map Text.trim).filter fun line => !line.isEmpty && !isComment line

theorem codeAmong_append (lines lines' : List Text) :
    codeAmong (lines ++ lines') = codeAmong lines ++ codeAmong lines' := by
  rw [codeAmong, List.map_append, List.filter_append]
  rfl

theorem codeAmong_cons (line : Text) (lines : List Text) :
    codeAmong (line :: lines) = codeAmong [line] ++ codeAmong lines :=
  codeAmong_append [line] lines

/-- A line that has begun and the rest of the text, parted by a line break. Between a carriage
return and a line feed there would be an empty line, which does not matter. -/
theorem codeAmong_linesFrom_break (current : Text) {c : Char} (after : Text)
    (hc : isLineBreak c = true) :
    codeAmong (Text.linesFrom current (c :: after)) =
      codeAmong [current.reverse] ++ codeLines after := by
  by_cases hcrlf : c = '\r' ∧ after.head? = some '\n'
  · obtain ⟨rfl, hhead⟩ := hcrlf
    obtain ⟨rest, rfl⟩ := List.head?_eq_some_iff.mp hhead
    have hrest : codeLines ('\n' :: rest) = codeLines rest := by
      rw [codeLines, Text.lines, Text.linesFrom_lineBreak [] (by decide) (by simp)]
      exact codeAmong_cons [] (Text.lines rest)
    rw [Text.linesFrom_crlf, codeAmong_cons, hrest]
    rfl
  · rw [Text.linesFrom_lineBreak current hc hcrlf, codeAmong_cons]
    rfl

theorem codeAmong_linesFrom_append_break (current before : Text) {c : Char} (after : Text)
    (hc : isLineBreak c = true) :
    codeAmong (Text.linesFrom current (before ++ c :: after)) =
      codeAmong (Text.linesFrom current before) ++ codeLines after := by
  fun_induction Text.linesFrom current before with
  | case1 current hempty =>
    rw [List.nil_append, codeAmong_linesFrom_break current after hc, List.isEmpty_iff.mp hempty]
    rfl
  | case2 current => exact codeAmong_linesFrom_break current after hc
  | case3 current rest ih =>
    rw [List.cons_append, List.cons_append, Text.linesFrom_crlf, codeAmong_cons, ih,
      codeAmong_cons _ (Text.linesFrom [] rest), List.append_assoc]
  | case4 current x rest hcrlf hx ih =>
    by_cases hlast : x = '\r' ∧ (rest ++ c :: after).head? = some '\n'
    · obtain ⟨rfl, hhead⟩ := hlast
      cases rest with
      | nil =>
        obtain rfl : c = '\n' := Option.some.inj hhead
        rw [List.cons_append, List.nil_append, Text.linesFrom_crlf, codeAmong_cons]
        rfl
      | cons y rest =>
        obtain rfl : y = '\n' := Option.some.inj hhead
        exact absurd rfl (hcrlf rest rfl)
    · rw [List.cons_append, Text.linesFrom_lineBreak current hx hlast, codeAmong_cons, ih,
        codeAmong_cons _ (Text.linesFrom [] rest), List.append_assoc]
  | case5 current x rest _ hx ih =>
    rw [List.cons_append, Text.linesFrom_char current _ (by simpa using hx)]
    exact ih

/-- Every line break parts the lines of code before it from those after it. -/
theorem codeLines_append_break (before : Text) {c : Char} (after : Text)
    (hc : isLineBreak c = true) :
    codeLines (before ++ c :: after) = codeLines before ++ codeLines after :=
  codeAmong_linesFrom_append_break [] before after hc

theorem codeLines_of_line {line : Text} (hline : ∀ c ∈ line, isLineBreak c = false) :
    codeLines line = codeAmong [line] := by
  have hlines : codeLines line = codeAmong (Text.linesFrom line.reverse []) := by
    have hread := Text.linesFrom_append_line [] [] hline
    rw [List.append_nil, List.append_nil] at hread
    exact congrArg codeAmong hread
  rw [hlines, Text.linesFrom]
  cases line with
  | nil => rfl
  | cons c line => simp

/-- Whether a line begins behind this text. -/
def EndsLine (before : Text) : Prop :=
  before = [] ∨ ∃ lead c, before = lead ++ [c] ∧ isLineBreak c = true

/-- Whether a line ends in front of this text. -/
def BeginsLine (after : Text) : Prop :=
  after = [] ∨ ∃ c rest, after = c :: rest ∧ isLineBreak c = true

theorem EndsLine.codeLines_append {before : Text} (h : EndsLine before) (after : Text) :
    codeLines (before ++ after) = codeLines before ++ codeLines after := by
  rcases h with rfl | ⟨lead, c, rfl, hc⟩
  · rfl
  · have hlead : codeLines (lead ++ [c]) = codeLines lead ++ codeLines [] :=
      codeLines_append_break lead [] hc
    rw [List.append_assoc, List.singleton_append, codeLines_append_break lead after hc, hlead,
      List.append_assoc]
    rfl

/-- A whole line of a text gives its own line of code, whatever stands around it. -/
theorem codeLines_around {before line after : Text} (hbefore : EndsLine before)
    (hafter : BeginsLine after) (hline : ∀ c ∈ line, isLineBreak c = false) :
    codeLines (before ++ (line ++ after)) =
      codeLines before ++ (codeAmong [line] ++ codeLines after) := by
  rw [hbefore.codeLines_append, ← codeLines_of_line hline]
  rcases hafter with rfl | ⟨c, rest, rfl, hc⟩
  · rw [List.append_nil]
    exact congrArg _ (List.append_nil _).symm
  · have hrest : codeLines (c :: rest) = codeLines rest := codeLines_append_break [] rest hc
    rw [codeLines_append_break line rest hc, hrest]

end CodeGauge.TextScan
