import CodeGauge.Text.Blank
import CodeGauge.Text.Lines

/-!
Lines in the wide sense beside line feeds. Every line feed ends a line, whatever else does, so a
text has more lines than line feeds before its last other character.
-/
namespace CodeGauge.Text

theorem linesFrom_crlf (current rest : Text) :
    linesFrom current ('\r' :: '\n' :: rest) = current.reverse :: linesFrom [] rest := by
  rw [linesFrom]

theorem linesFrom_lineBreak {c : Char} (current : Text) {rest : Text} (hc : isLineBreak c = true)
    (hcrlf : ¬(c = '\r' ∧ rest.head? = some '\n')) :
    linesFrom current (c :: rest) = current.reverse :: linesFrom [] rest := by
  rw [linesFrom, if_pos hc]
  rintro rest' rfl rfl
  exact hcrlf ⟨rfl, rfl⟩

theorem linesFrom_char {c : Char} (current rest : Text) (hc : isLineBreak c = false) :
    linesFrom current (c :: rest) = linesFrom (c :: current) rest := by
  rw [linesFrom, if_neg (by simp [hc])]
  rintro rest' rfl rfl
  exact absurd hc (by decide)

/-- A line that has begun is there in the end. -/
theorem length_linesFrom_pos {current text : Text} (hbegun : current ≠ [] ∨ text ≠ []) :
    0 < (linesFrom current text).length := by
  fun_induction linesFrom current text with
  | case1 current hempty => simp [List.isEmpty_iff.mp hempty] at hbegun
  | case2 => exact Nat.zero_lt_succ _
  | case3 => exact Nat.zero_lt_succ _
  | case4 => exact Nat.zero_lt_succ _
  | case5 current c rest _ _ ih => exact ih (Or.inl (List.cons_ne_nil c current))

/-- Up to a character that is no line feed, a text has more lines than line feeds. A carriage return
before a line feed is no exception: the two end one line together. -/
theorem count_lt_length_linesFrom (current before after : Text) {c : Char} (hc : c ≠ '\n') :
    before.count '\n' < (linesFrom current (before ++ c :: after)).length := by
  fun_induction linesFrom current before with
  | case1 => exact length_linesFrom_pos (Or.inr (List.cons_ne_nil c after))
  | case2 => exact length_linesFrom_pos (Or.inr (List.cons_ne_nil c after))
  | case3 current rest ih =>
    simp only [List.cons_append, linesFrom_crlf, List.length_cons]
    rw [List.count_cons_of_ne (by decide), List.count_cons_self]
    omega
  | case4 current x rest hcrlf hx ih =>
    have hnext : ¬(x = '\r' ∧ (rest ++ c :: after).head? = some '\n') := by
      rintro ⟨rfl, hhead⟩
      cases rest with
      | nil => exact hc (Option.some.inj hhead)
      | cons y rest => exact hcrlf rest rfl (congrArg (· :: rest) (Option.some.inj hhead))
    rw [List.cons_append, linesFrom_lineBreak current hx hnext, List.length_cons, List.count_cons]
    split <;> omega
  | case5 current x rest _ hx ih =>
    have hfeed : x ≠ '\n' := by
      rintro rfl
      exact hx (by decide)
    rw [List.cons_append, linesFrom_char current _ (by simpa using hx),
      List.count_cons_of_ne hfeed]
    exact ih

/-- Characters that end no line are part of the line that has begun. -/
theorem linesFrom_append_line (current : Text) {line : Text} (rest : Text)
    (hline : ∀ c ∈ line, isLineBreak c = false) :
    linesFrom current (line ++ rest) = linesFrom (line.reverse ++ current) rest := by
  induction line generalizing current with
  | nil => rfl
  | cons c line ih =>
    obtain ⟨hc, hline⟩ := List.forall_mem_cons.mp hline
    rw [List.cons_append, linesFrom_char current _ hc, ih _ hline, List.reverse_cons,
      List.append_assoc, List.singleton_append]

/-- Whatever ends a line is white space. -/
theorem isBlank_of_isLineBreak {c : Char} (h : isLineBreak c = true) : isBlank c = true := by
  simp only [isLineBreak, Bool.or_eq_true, Bool.and_eq_true, decide_eq_true_eq, beq_iff_eq] at h
  simp only [isBlank, Bool.or_eq_true, Bool.and_eq_true, decide_eq_true_eq, beq_iff_eq]
  omega

/-- A carriage return in front of every line feed. -/
def crlf (text : Text) : Text :=
  text.flatMap fun c => if c = '\n' then ['\r', '\n'] else [c]

end CodeGauge.Text
