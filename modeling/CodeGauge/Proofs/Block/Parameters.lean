import CodeGauge.Proofs.Block.Indented
import CodeGauge.Proofs.Block.Order

/-!
Parameter lists and the blocks behind them. What kind of body follows a header is told by what comes
behind its parameters, on whatever line they end. A block in braces holds them all; but an
expression is taken to end on the line that the header begins on, and a part told by its depth ends
before the first line of the parameters that is no deeper than the header.
-/
namespace CodeGauge

def isOpening (c : Char) : Bool :=
  c = '(' || c = '['

def isClosing (c : Char) : Bool :=
  c = ')' || c = ']'

theorem isOpening_eq_false_of_isClosing {c : Char} (h : isClosing c = true) :
    isOpening c = false := by
  rcases Bool.or_eq_true_iff.mp h with hc | hc <;> rw [of_decide_eq_true hc] <;> decide

theorem isBlank_of_isClosing {c : Char} (h : isClosing c = true) : isBlank c = false := by
  rcases Bool.or_eq_true_iff.mp h with hc | hc <;> rw [of_decide_eq_true hc] <;> decide

/-- A stretch of text from a parenthesis up to the first place where no bracket is open. -/
structure IsParameterList (params : Text) : Prop where
  opens : params.head? = some '('
  inside : ∀ k < params.length, 0 < k →
    (params.take k).countP isClosing < (params.take k).countP isOpening
  closes : params.countP isClosing = params.countP isOpening

instance (params : Text) : Decidable (IsParameterList params) :=
  decidable_of_iff (params.head? = some '(' ∧ (∀ k < params.length, 0 < k →
      (params.take k).countP isClosing < (params.take k).countP isOpening) ∧
      params.countP isClosing = params.countP isOpening)
    ⟨fun ⟨opens, inside, closes⟩ => ⟨opens, inside, closes⟩,
      fun ⟨opens, inside, closes⟩ => ⟨opens, inside, closes⟩⟩

namespace IsParameterList

variable {params : Text}

theorem ne_nil (h : IsParameterList params) : params ≠ [] := by
  rintro rfl
  exact absurd h.opens (by simp)

/-- Only a closing bracket leads to a place where no bracket is open. -/
theorem exists_getLast? (h : IsParameterList params) :
    ∃ c, params.getLast? = some c ∧ isClosing c = true := by
  obtain ⟨front, c, rfl⟩ := (List.eq_nil_or_concat' params).resolve_left h.ne_nil
  refine ⟨c, List.getLast?_concat, ?_⟩
  rw [← Bool.not_eq_false]
  intro hc
  have hcloses := h.closes
  rw [List.countP_append, List.countP_append, List.countP_singleton, hc] at hcloses
  cases front with
  | nil =>
    obtain rfl := Option.some.inj h.opens
    exact absurd hcloses (by decide)
  | cons first front =>
    have hinside := h.inside (first :: front).length (by simp) (by simp)
    rw [List.take_left] at hinside
    simp only [Bool.false_eq_true, if_false] at hcloses
    omega

/-- Parameters that hold no brackets. -/
theorem of_plain {inside : Text} (h : ∀ c ∈ inside, isOpening c = false ∧ isClosing c = false) :
    IsParameterList ('(' :: (inside ++ [')'])) := by
  have hcount {text : Text} (htext : ∀ c ∈ text, c ∈ inside) :
      text.countP isOpening = 0 ∧ text.countP isClosing = 0 := by
    constructor
    · apply List.countP_eq_zero.mpr
      intro c hc
      exact Bool.eq_false_iff.mp (h c (htext c hc)).1
    · apply List.countP_eq_zero.mpr
      intro c hc
      exact Bool.eq_false_iff.mp (h c (htext c hc)).2
  constructor
  case opens => rfl
  case inside =>
    intro k hk hpos
    obtain ⟨k, rfl⟩ := Nat.exists_eq_succ_of_ne_zero hpos.ne'
    have hlength : k ≤ inside.length := by
      simp at hk
      omega
    obtain ⟨hopening, hclosing⟩ := hcount fun c hc => List.mem_of_mem_take (i := k) hc
    rw [List.take_succ_cons, List.take_append_of_le_length hlength,
      List.countP_cons_of_neg (by decide), List.countP_cons_of_pos (by decide), hopening, hclosing]
    exact Nat.zero_lt_one
  case closes =>
    obtain ⟨hopening, hclosing⟩ := hcount fun c hc => hc
    rw [List.countP_cons_of_neg (by decide), List.countP_cons_of_pos (by decide),
      List.countP_append, List.countP_append, hopening, hclosing]
    rfl

end IsParameterList

namespace Body

theorem scan_opening {c : Char} (hc : isOpening c = true) (depth : Nat) (behind rest : Text) :
    scan depth behind (c :: rest) = scan (depth + 1) (c :: behind) rest := by
  rw [scan, if_pos (by simpa [isOpening] using hc)]

/-- Inside of brackets nothing but a bracket matters. -/
theorem scan_inside {depth : Nat} (hdepth : 0 < depth) (behind : Text) (c : Char) (rest : Text) :
    scan depth behind (c :: rest) =
      scan (depth + [c].countP isOpening - [c].countP isClosing) (c :: behind) rest := by
  by_cases hopening : isOpening c = true
  · have hclosing : isClosing c = false := by
      rw [← Bool.not_eq_true]
      intro hclosing
      exact Bool.false_ne_true ((isOpening_eq_false_of_isClosing hclosing).symm.trans hopening)
    simp [scan_opening hopening, hopening, hclosing]
  · rw [scan, if_neg (by simpa [isOpening] using hopening)]
    by_cases hclosing : isClosing c = true
    · rw [if_pos (by simpa [isClosing] using hclosing)]
      simp [hopening, hclosing]
    · rw [if_neg (by simpa [isClosing] using hclosing), if_pos (Nat.ne_of_gt hdepth)]
      simp [hopening, hclosing]

/-- Where a bracket stays open up to the end of a stretch, the stretch is passed over. -/
theorem scan_append_of_open {depth : Nat} {inside : Text}
    (h : ∀ k < inside.length,
      (inside.take k).countP isClosing < depth + (inside.take k).countP isOpening)
    (behind rest : Text) :
    scan depth behind (inside ++ rest) =
      scan (depth + inside.countP isOpening - inside.countP isClosing)
        (inside.reverse ++ behind) rest := by
  induction inside generalizing depth behind with
  | nil => rfl
  | cons c inside ih =>
    have hdepth : 0 < depth := h 0 (Nat.zero_lt_succ _)
    have hone : [c].countP isClosing ≤ 1 := List.countP_le_length
    have hcons (p : Char → Bool) (text : Text) :
        (c :: text).countP p = [c].countP p + text.countP p := by
      rw [← List.singleton_append, List.countP_append]
    rw [List.cons_append, scan_inside hdepth, ih, List.reverse_cons, List.append_assoc,
      hcons isOpening inside, hcons isClosing inside]
    · congr 1
      omega
    · intro k hk
      have hnext := h (k + 1) (Nat.succ_lt_succ hk)
      rw [List.take_succ_cons, hcons isOpening, hcons isClosing] at hnext
      omega

/-- A parameter list does not tell which kind of body follows. -/
theorem scan_append_params {params : Text} (h : IsParameterList params) (behind rest : Text) :
    scan 0 behind (params ++ rest) = scan 0 (params.reverse ++ behind) rest := by
  obtain ⟨inside, rfl⟩ := List.head?_eq_some_iff.mp h.opens
  have hopening (text : Text) : ('(' :: text).countP isOpening = text.countP isOpening + 1 :=
    List.countP_cons_of_pos (by decide)
  have hclosing (text : Text) : ('(' :: text).countP isClosing = text.countP isClosing :=
    List.countP_cons_of_neg (by decide)
  have hcloses := h.closes
  rw [hopening, hclosing] at hcloses
  rw [List.cons_append, scan_opening (by decide), scan_append_of_open, List.reverse_cons,
    List.append_assoc, List.singleton_append]
  · congr 1
    omega
  · intro k hk
    have hinside := h.inside (k + 1) (Nat.succ_lt_succ hk) (Nat.succ_pos k)
    rw [List.take_succ_cons, hopening, hclosing] at hinside
    omega

/-- Whether the block of a header that begins at `start` and has a body of this kind holds all of
the parameters of the header. -/
def HoldsParameters (params : Text) (start : Cursor) : Body → Prop
  | braced _ => True
  | indented => ∀ i < params.count '\n', ∃ line ∈ (Text.pieces '\n' start.ahead)[i + 1]?,
      line.GoesWith (Text.indentation start.ahead.firstLine) ∨
        i + 1 = params.count '\n' ∧ line.ClosesPart (Text.indentation start.ahead.firstLine)
  | expression => '\n' ∉ params
  | absent => False

instance (params : Text) (start : Cursor) (body : Body) :
    Decidable (body.HoldsParameters params start) :=
  match body with
  | braced _ => inferInstanceAs (Decidable True)
  | indented => inferInstanceAs (Decidable (∀ i < _, ∃ line ∈ _, _))
  | expression => inferInstanceAs (Decidable (_ ∉ _))
  | absent => inferInstanceAs (Decidable False)

/-- Parameters on one line are held whatever the body is. -/
theorem holdsParameters_of_not_mem {params : Text} (h : '\n' ∉ params) (start : Cursor)
    {body : Body} (hbody : body ≠ absent) : body.HoldsParameters params start := by
  cases body with
  | braced brace => exact trivial
  | indented =>
    intro i hi
    rw [List.count_eq_zero.mpr h] at hi
    exact absurd hi (Nat.not_lt_zero i)
  | expression => exact h
  | absent => exact absurd rfl hbody

end Body

namespace Block

section Header

variable {source params rest : Text} {m : Match} {b : Block}

/-- The whole header of a function up to the end of its parameters. -/
theorem passes_params (hm : m ∈ HeaderShape.keyword.pattern.findAll source)
    (hahead : m.stop.ahead = params ++ rest) : '\n' ∉ m.text ∧
      m.start.Passes (m.text ++ params) ⟨params.reverse ++ m.stop.behind, rest⟩ := by
  obtain ⟨word, hword⟩ := (Pattern.finds_of_mem_findAll hm).ways.exists_reads
  have htext : m.text = word := hword.passes.upTo_eq
  rw [htext]
  constructor
  · exact hword.not_mem '\n' (by decide)
  · exact hword.passes.trans ⟨hahead, rfl⟩

theorem prefix_text_iff (hm : m ∈ HeaderShape.keyword.pattern.findAll source)
    (hb : ofHeader? .keyword m = some b) (hparams : IsParameterList params)
    (hahead : m.stop.ahead = params ++ rest) : m.text ++ params <+: b.text ↔
      (Body.scan 0 (params.reverse ++ m.stop.behind) rest).HoldsParameters params m.start := by
  obtain ⟨hline, hpasses⟩ := passes_params hm hahead
  obtain ⟨c, hlast, hclosing⟩ := hparams.exists_getLast?
  have hc := isBlank_of_isClosing hclosing
  have hheader : (m.text ++ params).getLast? = some c :=
    (List.getLast?_append_of_ne_nil m.text hparams.ne_nil).trans hlast
  have hbegins : m.text ++ params <+: m.start.ahead := ⟨rest, hpasses.1.symm⟩
  obtain ⟨-, -, text, htext, rfl⟩ := ofHeader?_eq_some hb
  rw [Body.ofHeader, hahead, Body.scan_append_params hparams] at htext
  -- the header does not end in white space, so the white space behind the text plays no part
  rw [Text.prefix_trimEnd_iff hheader hc]
  cases hbody : Body.scan 0 (params.reverse ++ m.stop.behind) rest with
  | braced brace =>
    obtain ⟨word, hword⟩ := Body.exists_passes_of_scan hbody
    rw [hbody, Body.extent?, (hpasses.trans hword).upTo_eq] at htext
    cases hblock : bracedBlock? brace.ahead with
    | none => exact absurd htext (by simp [hblock])
    | some block =>
      rw [hblock] at htext
      obtain rfl := Option.some.inj htext
      rw [Body.HoldsParameters, iff_true, List.append_assoc]
      exact List.prefix_append (m.text ++ params) (word ++ block)
  | indented =>
    rw [hbody] at htext
    obtain rfl := Option.some.inj htext
    have hfeeds : (m.text ++ params).count '\n' = params.count '\n' := by
      rw [List.count_append, List.count_eq_zero.mpr hline, Nat.zero_add]
    rw [prefix_indentedBlock_iff hbegins hheader hc, hfeeds]
    rfl
  | expression =>
    rw [hbody] at htext
    obtain rfl := Option.some.inj htext
    rw [Text.prefix_firstLine_iff hbegins, List.mem_append, not_or]
    exact and_iff_right hline
  | absent =>
    rw [hbody] at htext
    exact absurd htext (by simp [Body.extent?])

/-- A block behind a keyword begins with its header. It holds all of the parameters exactly when
they stand on one line, or a block in braces follows, or a part told by its depth to which every
further line of them belongs. -/
theorem find_holds_parameters (hm : m ∈ HeaderShape.keyword.pattern.findAll source)
    (hb : ofHeader? .keyword m = some b) (hparams : IsParameterList params)
    (hahead : m.stop.ahead = params ++ rest) :
    b ∈ find source ∧
      (m.text ++ params <+: b.text ↔
        (Body.scan 0 (params.reverse ++ m.stop.behind) rest).HoldsParameters params m.start) ∧
      ('\n' ∉ params → m.text ++ params <+: b.text) := by
  have hiff := prefix_text_iff hm hb hparams hahead
  refine ⟨mem_find_of_keyword hm hb, hiff, ?_⟩
  intro hline
  apply hiff.mpr
  apply Body.holdsParameters_of_not_mem hline
  intro habsent
  obtain ⟨-, -, text, htext, -⟩ := ofHeader?_eq_some hb
  rw [Body.ofHeader, hahead, Body.scan_append_params hparams, habsent] at htext
  exact absurd htext (by simp [Body.extent?])

end Header

namespace Wrapped

/-- Parameters that go on over a line deeper than the header. -/
def hanging : Text := "(a,\n      b)"

/-- Parameters with their closing parenthesis below the header. -/
def closedBelow : Text := "(\n    a,\n)"

def body : Text := ":\n  return a"

def source (params : Text) : Text :=
  "def f" ++ params ++ body

/-- The header of the function, up to its name. -/
def header (params : Text) : Match :=
  let name : Cursor := ⟨" fed", "f" ++ params ++ body⟩
  let stop : Cursor := ⟨"f fed", params ++ body⟩
  ⟨.first (source params), stop, [⟨.name, name, stop⟩]⟩

/-- The function when its parameters go on over a deeper line. -/
def whole : Block := ⟨"f", 1, 3, "def f(a,\n      b):\n  return a"⟩

/-- The function when its parameters end below the header. -/
def cutOff : Block := ⟨"f", 1, 2, "def f(\n    a,"⟩

end Wrapped

open Wrapped in
theorem find_holds_parameters_of_hanging :
    whole ∈ find (source hanging) ∧ (header hanging).text ++ hanging <+: whole.text := by
  have hm : header hanging ∈ HeaderShape.keyword.pattern.findAll (source hanging) := by
    decide +kernel
  have hb : ofHeader? .keyword (header hanging) = some whole := by decide +kernel
  have hheld : (Body.scan 0 (hanging.reverse ++ (header hanging).stop.behind) body).HoldsParameters
      hanging (header hanging).start := by
    decide +kernel
  obtain ⟨hfound, hiff, -⟩ := find_holds_parameters hm hb (by decide) rfl
  exact ⟨hfound, hiff.mpr hheld⟩

open Wrapped in
/-- The block ends inside of the header. -/
theorem not_prefix_text_of_closedBelow :
    header closedBelow ∈ HeaderShape.keyword.pattern.findAll (source closedBelow) ∧
      ofHeader? .keyword (header closedBelow) = some cutOff ∧ find (source closedBelow) = [cutOff] ∧
      IsParameterList closedBelow ∧ (header closedBelow).stop.ahead = closedBelow ++ body ∧
      ¬(header closedBelow).text ++ closedBelow <+: cutOff.text := by
  decide +kernel

end Block

end CodeGauge
