import CodeGauge.Proofs.Pattern.Search
import CodeGauge.Proofs.Text.Crlf

/-!
Patterns in texts with and without carriage returns. A text with a return in front of every line
feed has one more place in every break, between the two characters. A pattern none of whose ways
matters there finds the same matches in the same order of preference, with the returns in them.
-/
namespace CodeGauge

namespace Text

/-- What stands behind a place, nearest first: read backwards, a return follows every line feed. -/
def crlfBehind (behind : Text) : Text :=
  behind.flatMap fun c => if c = '\n' then ['\n', '\r'] else [c]

@[simp]
theorem crlfBehind_feed_cons (behind : Text) :
    crlfBehind ('\n' :: behind) = '\n' :: '\r' :: crlfBehind behind :=
  rfl

@[simp]
theorem crlfBehind_cons {c : Char} (hc : c ≠ '\n') (behind : Text) :
    crlfBehind (c :: behind) = c :: crlfBehind behind := by
  rw [crlfBehind, List.flatMap_cons, if_neg hc]
  rfl

theorem crlfBehind_reverse_append (text behind : Text) :
    crlfBehind (text.reverse ++ behind) = (crlf text).reverse ++ crlfBehind behind := by
  induction text generalizing behind with
  | nil => rfl
  | cons c rest ih =>
    rw [List.reverse_cons, List.append_assoc, List.singleton_append, ih]
    by_cases hc : c = '\n'
    · subst hc
      simp
    · simp [hc]

theorem count_crlfBehind (behind : Text) : (crlfBehind behind).count '\n' = behind.count '\n' := by
  have hreverse := crlfBehind_reverse_append behind.reverse []
  rw [List.reverse_reverse, List.append_nil] at hreverse
  rw [hreverse, crlfBehind, List.flatMap_nil, List.append_nil, List.count_reverse, count_crlf,
    List.count_reverse]

end Text

namespace Cursor

/-- The same place in the text with returns: in front of a break or behind it. -/
def crlf (c : Cursor) : Cursor :=
  ⟨Text.crlfBehind c.behind, Text.crlf c.ahead⟩

/-- A place between a return and its line feed. -/
def IsSplit (c : Cursor) : Prop :=
  c.behind.head? = some '\r' ∧ c.ahead.head? = some '\n'

theorem not_isSplit_crlf (c : Cursor) : ¬c.crlf.IsSplit := by
  rintro ⟨-, hahead⟩
  obtain ⟨behind, ahead⟩ := c
  cases ahead with
  | nil => exact absurd hahead (by simp [crlf])
  | cons x rest =>
    by_cases hx : x = '\n'
    · subst hx
      exact absurd hahead (by simp [crlf])
    · exact absurd hahead (by simp [crlf, hx])

theorem Passes.crlf {c c' : Cursor} {word : Text} (h : c.Passes word c') :
    c.crlf.Passes (Text.crlf word) c'.crlf := by
  obtain ⟨hahead, hbehind⟩ := h
  constructor
  · rw [Cursor.crlf, hahead, Text.crlf_append]
    rfl
  · rw [Cursor.crlf, hbehind, Text.crlfBehind_reverse_append]
    rfl

/-- What is read from inside a break begins with its line feed. -/
theorem IsSplit.eq_of_passes {c c' : Cursor} {word : Text} (hc : c.IsSplit) (h : c.Passes word c')
    (hword : '\n' ∉ word) : c' = c := by
  cases word with
  | nil => exact h.eq_of_nil
  | cons x word =>
    obtain ⟨rest, hahead, -⟩ := h.uncons
    have hx : x = '\n' := Option.some.inj ((hahead ▸ hc.2 :) : some x = some '\n')
    exact absurd (hx ▸ List.mem_cons_self) hword

theorem skip?_crlf {word : Text} (hfeed : '\n' ∉ word) (hreturn : '\r' ∉ word) (c : Cursor) :
    c.crlf.skip? word = (c.skip? word).map Cursor.crlf := by
  induction word generalizing c with
  | nil => rfl
  | cons w word ih =>
    obtain ⟨behind, ahead⟩ := c
    have hw : w ≠ '\n' ∧ w ≠ '\r' :=
      ⟨fun heq => hfeed (heq ▸ List.mem_cons_self), fun heq => hreturn (heq ▸ List.mem_cons_self)⟩
    have ih := ih (fun hmem => hfeed (List.mem_cons_of_mem w hmem))
      fun hmem => hreturn (List.mem_cons_of_mem w hmem)
    cases ahead with
    | nil => rfl
    | cons x rest =>
      by_cases hx : x = '\n'
      · subst hx
        rw [crlf, Text.crlf_feed_cons, skip?, skip?, if_neg hw.1.symm, if_neg hw.2.symm]
        rfl
      · have hnext := ih ⟨x :: behind, rest⟩
        rw [crlf, Text.crlfBehind_cons hx] at hnext
        rw [crlf, Text.crlf_cons hx, skip?, skip?]
        by_cases hxw : x = w
        · rw [if_pos hxw, if_pos hxw]
          exact hnext
        · rw [if_neg hxw, if_neg hxw]
          rfl

/-- What is nearest behind a place stays nearest. -/
theorem isAfter_crlf (accepts : Char → Bool) (c : Cursor) :
    c.crlf.isAfter accepts = c.isAfter accepts := by
  obtain ⟨behind, ahead⟩ := c
  cases behind with
  | nil => rfl
  | cons x behind =>
    by_cases hx : x = '\n'
    · subst hx
      rfl
    · rw [crlf, Text.crlfBehind_cons hx]
      rfl

theorem isBefore_crlf {accepts : Char → Bool} (h : accepts '\r' = accepts '\n') (c : Cursor) :
    c.crlf.isBefore accepts = c.isBefore accepts := by
  obtain ⟨behind, ahead⟩ := c
  cases ahead with
  | nil => rfl
  | cons x rest =>
    by_cases hx : x = '\n'
    · subst hx
      exact h
    · rw [crlf, Text.crlf_cons hx]
      rfl

theorem isWordBorder_crlf (c : Cursor) : c.crlf.isWordBorder = c.isWordBorder := by
  rw [isWordBorder, isAfter_crlf, isBefore_crlf (by decide), isWordBorder]

theorem isLineStart_crlf (c : Cursor) : c.crlf.isLineStart = c.isLineStart := by
  obtain ⟨behind, ahead⟩ := c
  cases behind with
  | nil => rfl
  | cons x behind =>
    by_cases hx : x = '\n'
    · subst hx
      rfl
    · rw [crlf, Text.crlfBehind_cons hx]
      rfl

end Cursor

def Capture.crlf (k : Capture) : Capture :=
  ⟨k.part, k.start.crlf, k.stop.crlf⟩

def Progress.crlf (s : Progress) : Progress :=
  ⟨s.place.crlf, s.captures.map Capture.crlf⟩

def Match.crlf (m : Match) : Match :=
  ⟨m.start.crlf, m.stop.crlf, m.captures.map Capture.crlf⟩

namespace Pattern

/-- Whether no way of the pattern reads the character last. -/
def neverLast (x : Char) : Pattern → Bool
  | literal word => word.getLast? != some x
  | one accepts => !accepts x
  | span _ accepts => !accepts x
  | seq first second => second.neverLast x && (second.consumes || first.neverLast x)
  | alt first second => first.neverLast x && second.neverLast x
  | star _ body => body.neverLast x
  | check _ => true
  | capture _ body => body.neverLast x

theorem Ways.exists_passes_neverLast {p : Pattern} {x : Char} (hp : p.neverLast x = true)
    {s s' : Progress} (h : p.Ways s s') :
    ∃ word, s.place.Passes word s'.place ∧ word.getLast? ≠ some x := by
  induction p generalizing s s' with
  | literal word => exact ⟨word, h.1, by simpa [neverLast] using hp⟩
  | one accepts =>
    obtain ⟨c, hc, hpasses, -⟩ := h
    refine ⟨[c], hpasses, ?_⟩
    rintro hlast
    obtain rfl := Option.some.inj hlast
    simp [neverLast, hc] at hp
  | span preference accepts =>
    obtain ⟨word, hword, hpasses, -⟩ := h
    refine ⟨word, hpasses, ?_⟩
    intro hlast
    simp [neverLast, hword x (List.mem_of_getLast? hlast)] at hp
  | seq first second ihf ihs =>
    obtain ⟨middle, hfirst, hsecond⟩ := h
    obtain ⟨hlast, hor⟩ := Bool.and_eq_true_iff.mp hp
    obtain ⟨word', hpasses', hword'⟩ := ihs hlast hsecond
    by_cases hnil : word' = []
    · subst hnil
      rcases Bool.or_eq_true_iff.mp hor with hconsumes | hfirstLast
      · obtain ⟨word, hword⟩ := hsecond.exists_reads
        exact absurd (hword.passes.upTo_eq.symm.trans hpasses'.upTo_eq) (hword.ne_nil hconsumes)
      · obtain ⟨word, hpasses, hword⟩ := ihf hfirstLast hfirst
        refine ⟨word, ?_, hword⟩
        rw [hpasses'.eq_of_nil]
        exact hpasses
    · obtain ⟨word, hword⟩ := hfirst.exists_reads
      refine ⟨word ++ word', hword.passes.trans hpasses', ?_⟩
      rw [List.getLast?_append_of_ne_nil _ hnil]
      exact hword'
  | alt first second ihf ihs =>
    obtain ⟨hpf, hps⟩ := Bool.and_eq_true_iff.mp hp
    rcases h with h | h
    · exact ihf hpf h
    · exact ihs hps h
  | star preference body ih =>
    induction h with
    | refl => exact ⟨[], Cursor.Passes.refl _, by simp⟩
    | tail _ hstep ihsteps =>
      obtain ⟨word, hpasses, hword⟩ := ihsteps
      obtain ⟨word', hpasses', hword'⟩ := ih hp hstep
      by_cases hnil : word' = []
      · subst hnil
        rw [hpasses'.eq_of_nil]
        exact ⟨word, hpasses, hword⟩
      · refine ⟨word ++ word', hpasses.trans hpasses', ?_⟩
        rw [List.getLast?_append_of_ne_nil _ hnil]
        exact hword'
  | check holds =>
    obtain ⟨-, rfl⟩ := h
    exact ⟨[], Cursor.Passes.refl _, by simp⟩
  | capture part body ih =>
    obtain ⟨inner, hinner, rfl⟩ := h
    obtain ⟨word, hpasses, hword⟩ := ih hp hinner
    exact ⟨word, hpasses, hword⟩

/-- A pattern that never reads a return last does not end inside of a break. -/
theorem Ways.not_isSplit {p : Pattern} (hp : p.neverLast '\r' = true) {s s' : Progress}
    (h : p.Ways s.crlf s') : ¬s'.place.IsSplit := by
  obtain ⟨word, hpasses, hlast⟩ := h.exists_passes_neverLast hp
  intro hsplit
  by_cases hnil : word = []
  · subst hnil
    rw [hpasses.eq_of_nil] at hsplit
    exact Cursor.not_isSplit_crlf _ hsplit
  · obtain ⟨front, x, rfl⟩ := (List.eq_nil_or_concat' word).resolve_left hnil
    obtain ⟨behind, hbehind, -⟩ := hpasses.step_back
    have hx := hsplit.1
    rw [hbehind, List.head?_cons] at hx
    exact hlast (by rw [List.getLast?_concat, hx])

/-- A pattern that reads no line feed reads nothing inside of a break. -/
theorem run_eq_none_of_isSplit {α : Type} {p : Pattern} (hp : p.avoids '\n' = true) {s : Progress}
    (hs : s.place.IsSplit) {next : Progress → Option α}
    (hnext : p.consumes = true ∨ ∀ s', s'.place.IsSplit → next s' = none) :
    p.run s next = none := by
  cases hrun : p.run s next with
  | none => rfl
  | some found =>
    obtain ⟨s', hways, hfound⟩ := exists_ways_of_run p hrun
    obtain ⟨word, hword⟩ := hways.exists_reads
    have hplace : s'.place = s.place := hs.eq_of_passes hword.passes (hword.not_mem '\n' hp)
    rcases hnext with hconsumes | hnone
    · have hlt := hword.passes.length_lt (hword.ne_nil hconsumes)
      rw [hplace] at hlt
      exact absurd hlt (Nat.lt_irrefl _)
    · rw [hnone s' (hplace ▸ hs)] at hfound
      exact absurd hfound (by simp)

/-- The conditions that the pattern sets to places. -/
def checks : Pattern → List (Cursor → Bool)
  | seq first second => first.checks ++ second.checks
  | alt first second => first.checks ++ second.checks
  | star _ body => body.checks
  | check holds => [holds]
  | capture _ body => body.checks
  | _ => []

/-- Whether the pattern reads a break with a return where it reads one without. -/
def readsReturns : Pattern → Bool
  | literal word => !word.contains '\n' && !word.contains '\r'
  | one accepts => !accepts '\n'
  | span _ accepts => !accepts '\n' || accepts '\r'
  | seq first second =>
    first.readsReturns && second.readsReturns && (second.avoids '\n' || first.neverLast '\r')
  | alt first second => first.readsReturns && second.readsReturns
  | star _ body => body.readsReturns && body.consumes && body.neverLast '\r'
  | check _ => true
  | capture _ body => body.readsReturns

section Run

variable {α β : Type} {f : α → β}

section Span

variable {accepts : Char → Bool} {next : Cursor → Option α} {next' : Cursor → Option β}
  {behind ahead : Text}

/-- Behind every run of accepted characters `next'` answers as `next` does, and inside of a break it
has no answer. -/
structure Mirrors (f : α → β) (accepts : Char → Bool) (next : Cursor → Option α)
    (next' : Cursor → Option β) (behind ahead : Text) : Prop where
  whole : ∀ word c', (∀ c ∈ word, accepts c = true) → (⟨behind, ahead⟩ : Cursor).Passes word c' →
    next' c'.crlf = (next c').map f
  split : ∀ word c', (∀ c ∈ word, accepts c = true) →
    (⟨behind, ahead⟩ : Cursor).crlf.Passes word c' → c'.IsSplit → next' c' = none

theorem Mirrors.here (h : Mirrors f accepts next next' behind ahead) :
    next' ⟨Text.crlfBehind behind, Text.crlf ahead⟩ = (next ⟨behind, ahead⟩).map f :=
  h.whole [] _ (by simp) (Cursor.Passes.refl _)

theorem Mirrors.inside {rest : Text} (h : Mirrors f accepts next next' behind ('\n' :: rest))
    (hreturn : accepts '\r' = true) :
    next' ⟨'\r' :: Text.crlfBehind behind, '\n' :: Text.crlf rest⟩ = none :=
  h.split ['\r'] _ (by simpa using hreturn) (Cursor.passes_singleton _ _ _) ⟨rfl, rfl⟩

theorem Mirrors.further {c : Char} {rest : Text}
    (h : Mirrors f accepts next next' behind (c :: rest)) (hc : accepts c = true)
    (haccepts : accepts '\n' = false ∨ accepts '\r' = true) :
    Mirrors f accepts next next' (c :: behind) rest := by
  constructor
  case whole =>
    intro word c' hword hpasses
    exact h.whole (c :: word) c' (List.forall_mem_cons.mpr ⟨hc, hword⟩) hpasses.cons
  case split =>
    intro word c' hword hpasses hsplit
    have hall : ∀ x ∈ Text.crlf [c] ++ word, accepts x = true := by
      intro x hx
      rcases List.mem_append.mp hx with hx | hx
      · by_cases hfeed : c = '\n'
        · subst hfeed
          have hreturn := haccepts.resolve_left (by simp [hc])
          simp only [Text.crlf_feed_cons, Text.crlf_nil, List.mem_cons, List.not_mem_nil,
            or_false] at hx
          rcases hx with rfl | rfl
          · exact hreturn
          · exact hc
        · rw [Text.crlf_cons hfeed, Text.crlf_nil, List.mem_singleton] at hx
          exact hx ▸ hc
      · exact hword x hx
    have hstep : (⟨behind, c :: rest⟩ : Cursor).crlf.Passes (Text.crlf [c])
        (⟨c :: behind, rest⟩ : Cursor).crlf :=
      (Cursor.passes_singleton c behind rest).crlf
    exact h.split _ c' hall (hstep.trans hpasses) hsplit

theorem Mirrors.runLongest_eq (h : Mirrors f accepts next next' behind ahead)
    (haccepts : accepts '\n' = false ∨ accepts '\r' = true) :
    runLongest accepts next' (Text.crlfBehind behind) (Text.crlf ahead) =
      (runLongest accepts next behind ahead).map f := by
  induction ahead generalizing behind with
  | nil => exact h.here
  | cons c rest ih =>
    have hhere := h.here
    by_cases hfeed : c = '\n'
    · subst hfeed
      rw [Text.crlf_feed_cons] at hhere ⊢
      rw [runLongest, runLongest, runLongest, hhere]
      by_cases hreturn : accepts '\r' = true
      · rw [if_pos hreturn, h.inside hreturn]
        by_cases hc : accepts '\n' = true
        · have hrest := ih (h.further hc haccepts)
          rw [Text.crlfBehind_feed_cons] at hrest
          rw [if_pos hc, if_pos hc, hrest]
          cases runLongest accepts next ('\n' :: behind) rest <;> rfl
        · rw [if_neg hc, if_neg hc]
      · have hc : ¬accepts '\n' = true :=
          Bool.eq_false_iff.mp (haccepts.resolve_right hreturn)
        rw [if_neg hreturn, if_neg hc]
    · rw [Text.crlf_cons hfeed] at hhere ⊢
      rw [runLongest, runLongest, hhere]
      by_cases hc : accepts c = true
      · have hrest := ih (h.further hc haccepts)
        rw [Text.crlfBehind_cons hfeed] at hrest
        rw [if_pos hc, if_pos hc, hrest]
        cases runLongest accepts next (c :: behind) rest <;> rfl
      · rw [if_neg hc, if_neg hc]

theorem Mirrors.runShortest_eq (h : Mirrors f accepts next next' behind ahead)
    (haccepts : accepts '\n' = false ∨ accepts '\r' = true) :
    runShortest accepts next' (Text.crlfBehind behind) (Text.crlf ahead) =
      (runShortest accepts next behind ahead).map f := by
  induction ahead generalizing behind with
  | nil => exact h.here
  | cons c rest ih =>
    have hhere := h.here
    by_cases hfeed : c = '\n'
    · subst hfeed
      rw [Text.crlf_feed_cons] at hhere ⊢
      rw [runShortest, runShortest, runShortest, hhere]
      cases hnext : next ⟨behind, '\n' :: rest⟩ with
      | some found => rfl
      | none =>
        by_cases hreturn : accepts '\r' = true
        · rw [if_pos hreturn, h.inside hreturn]
          by_cases hc : accepts '\n' = true
          · have hrest := ih (h.further hc haccepts)
            rw [Text.crlfBehind_feed_cons] at hrest
            rw [if_pos hc, if_pos hc, hrest]
            rfl
          · rw [if_neg hc, if_neg hc]
            rfl
        · have hc : ¬accepts '\n' = true :=
            Bool.eq_false_iff.mp (haccepts.resolve_right hreturn)
          rw [if_neg hreturn, if_neg hc]
          rfl
    · rw [Text.crlf_cons hfeed] at hhere ⊢
      rw [runShortest, runShortest, hhere]
      cases hnext : next ⟨behind, c :: rest⟩ with
      | some found => rfl
      | none =>
        by_cases hc : accepts c = true
        · have hrest := ih (h.further hc haccepts)
          rw [Text.crlfBehind_cons hfeed] at hrest
          rw [if_pos hc, if_pos hc, hrest]
          rfl
        · rw [if_neg hc, if_neg hc]
          rfl

end Span

section Star

variable {body : Progress → (Progress → Option α) → Option α}
  {body' : Progress → (Progress → Option β) → Option β} {Step : Progress → Progress → Prop}
  {next : Progress → Option α} {next' : Progress → Option β}

theorem repeatLongest_eq_next {s : Progress} (hbody : ∀ next, body s next = none) (ahead : Text) :
    repeatLongest body next ahead s = next s := by
  cases ahead with
  | nil => rfl
  | cons c rest => rw [repeatLongest, hbody]

theorem repeatShortest_eq_next {s : Progress} (hbody : ∀ next, body s next = none) (ahead : Text) :
    repeatShortest body next ahead s = next s := by
  cases ahead with
  | nil => rfl
  | cons c rest =>
    rw [repeatShortest, hbody]
    cases next s <;> rfl

/-- One round of a repetition in both texts: it reads something, and at the end of the text there is
none. -/
structure Rounds (f : α → β) (body : Progress → (Progress → Option α) → Option α)
    (body' : Progress → (Progress → Option β) → Option β) (Step : Progress → Progress → Prop) :
    Prop where
  mirrored : ∀ {s next next'}, (∀ s', Step s s' → next' s'.crlf = (next s').map f) →
    body' s.crlf next' = (body s next).map f
  reads : ∀ {s s'}, Step s s' → s'.place.ahead.length < s.place.ahead.length
  ends : ∀ {s}, s.place.ahead = [] → ∀ next, body s next = none
  ends' : ∀ {s}, s.place.ahead = [] → ∀ next, body' s next = none

/-- Each round reads a character of the text without returns, so that no bound is reached. -/
theorem Rounds.repeatLongest_eq (h : Rounds f body body' Step) {s : Progress} {bound bound' : Text}
    (hbound : s.place.ahead.length ≤ bound.length) (hbound' : s.place.ahead.length ≤ bound'.length)
    (hnext : ∀ s', Relation.ReflTransGen Step s s' → next' s'.crlf = (next s').map f) :
    repeatLongest body' next' bound' s.crlf = (repeatLongest body next bound s).map f := by
  induction bound generalizing s bound' with
  | nil =>
    have hnil : s.place.ahead = [] := List.length_eq_zero_iff.mp (Nat.le_zero.mp hbound)
    have hnil' : s.crlf.place.ahead = [] := congrArg Text.crlf hnil
    rw [repeatLongest_eq_next (h.ends' hnil')]
    exact hnext s Relation.ReflTransGen.refl
  | cons c bound ih =>
    by_cases hnil : s.place.ahead = []
    · have hnil' : s.crlf.place.ahead = [] := congrArg Text.crlf hnil
      rw [repeatLongest_eq_next (h.ends' hnil'), repeatLongest_eq_next (h.ends hnil)]
      exact hnext s Relation.ReflTransGen.refl
    · cases bound' with
      | nil => exact absurd (List.length_eq_zero_iff.mp (Nat.le_zero.mp hbound')) hnil
      | cons c' bound' =>
        have hmore : body' s.crlf (repeatLongest body' next' bound') =
            (body s (repeatLongest body next bound)).map f := by
          apply h.mirrored
          intro s' hstep
          have hlt := h.reads hstep
          rw [List.length_cons] at hbound hbound'
          exact ih (by omega) (by omega) fun s'' hsteps => hnext s'' (hsteps.head hstep)
        rw [repeatLongest, repeatLongest, hmore, hnext s Relation.ReflTransGen.refl]
        cases body s (repeatLongest body next bound) <;> rfl

theorem Rounds.repeatShortest_eq (h : Rounds f body body' Step) {s : Progress} {bound bound' : Text}
    (hbound : s.place.ahead.length ≤ bound.length) (hbound' : s.place.ahead.length ≤ bound'.length)
    (hnext : ∀ s', Relation.ReflTransGen Step s s' → next' s'.crlf = (next s').map f) :
    repeatShortest body' next' bound' s.crlf = (repeatShortest body next bound s).map f := by
  induction bound generalizing s bound' with
  | nil =>
    have hnil : s.place.ahead = [] := List.length_eq_zero_iff.mp (Nat.le_zero.mp hbound)
    have hnil' : s.crlf.place.ahead = [] := congrArg Text.crlf hnil
    rw [repeatShortest_eq_next (h.ends' hnil')]
    exact hnext s Relation.ReflTransGen.refl
  | cons c bound ih =>
    by_cases hnil : s.place.ahead = []
    · have hnil' : s.crlf.place.ahead = [] := congrArg Text.crlf hnil
      rw [repeatShortest_eq_next (h.ends' hnil'), repeatShortest_eq_next (h.ends hnil)]
      exact hnext s Relation.ReflTransGen.refl
    · cases bound' with
      | nil => exact absurd (List.length_eq_zero_iff.mp (Nat.le_zero.mp hbound')) hnil
      | cons c' bound' =>
        have hmore : body' s.crlf (repeatShortest body' next' bound') =
            (body s (repeatShortest body next bound)).map f := by
          apply h.mirrored
          intro s' hstep
          have hlt := h.reads hstep
          rw [List.length_cons] at hbound hbound'
          exact ih (by omega) (by omega) fun s'' hsteps => hnext s'' (hsteps.head hstep)
        rw [repeatShortest, repeatShortest, hmore, hnext s Relation.ReflTransGen.refl]
        cases next s <;> rfl

end Star

theorem run_eq_none_of_nil {p : Pattern} (hp : p.consumes = true) {s : Progress}
    (hs : s.place.ahead = []) (next : Progress → Option α) : p.run s next = none := by
  cases hrun : p.run s next with
  | none => rfl
  | some found =>
    obtain ⟨s', hways, -⟩ := exists_ways_of_run p hrun
    obtain ⟨word, hword⟩ := hways.exists_reads
    have hlt := hword.passes.length_lt (hword.ne_nil hp)
    rw [hs] at hlt
    exact absurd hlt (Nat.not_lt_zero _)

section Step

variable {s : Progress} {next : Progress → Option α} {next' : Progress → Option β}

/-- No character that is read is a line feed, and a carriage return leads nowhere. -/
theorem run_one_crlf {accepts : Char → Bool} (hfeed : accepts '\n' = false)
    (hnext : ∀ s', (one accepts).Ways s s' → next' s'.crlf = (next s').map f)
    (hsplit : accepts '\r' = true → ∀ s', s'.place.IsSplit → next' s' = none) :
    (one accepts).run s.crlf next' = ((one accepts).run s next).map f := by
  obtain ⟨⟨behind, ahead⟩, captures⟩ := s
  rw [run, run]
  cases ahead with
  | nil => rfl
  | cons c rest =>
    by_cases hc : c = '\n'
    · subst hc
      simp only [Progress.crlf, Cursor.crlf, Text.crlf_feed_cons, hfeed]
      by_cases hreturn : accepts '\r' = true
      · rw [if_pos hreturn, hsplit hreturn _ ⟨rfl, rfl⟩]
        rfl
      · rw [if_neg hreturn]
        rfl
    · simp only [Progress.crlf, Cursor.crlf, Text.crlf_cons hc]
      by_cases haccepts : accepts c = true
      · have hread := hnext ⟨⟨c :: behind, rest⟩, captures⟩
          ⟨c, haccepts, Cursor.passes_singleton c behind rest, rfl⟩
        simp only [Progress.crlf, Cursor.crlf, Text.crlfBehind_cons hc] at hread
        rw [if_pos haccepts, if_pos haccepts, hread]
      · rw [if_neg haccepts, if_neg haccepts]
        rfl

/-- In a sequence a way of the first pattern that ends inside of a break does not lead on: there is
none, or the second pattern cannot finish the break. -/
theorem neverLast_or_run_eq_none {first second : Pattern}
    (hends : (second.avoids '\n' || first.neverLast '\r') = true)
    (hsplit : (seq first second).neverLast '\r' = true ∨ ∀ s', s'.place.IsSplit → next' s' = none) :
    first.neverLast '\r' = true ∨ ∀ s', s'.place.IsSplit → second.run s' next' = none := by
  rcases Bool.or_eq_true_iff.mp hends with havoids | hlast
  · rcases hsplit with hlast | hnone
    · rcases Bool.or_eq_true_iff.mp (Bool.and_eq_true_iff.mp hlast).2 with hconsumes | hlast
      · exact Or.inr fun s' hs' => run_eq_none_of_isSplit havoids hs' (Or.inl hconsumes)
      · exact Or.inl hlast
    · exact Or.inr fun s' hs' => run_eq_none_of_isSplit havoids hs' (Or.inr hnone)
  · exact Or.inl hlast

end Step

/-- The matcher tries the same ways in the same order, as long as none that ends inside of a break
leads on. -/
theorem run_crlf {p : Pattern} (hp : p.readsReturns = true)
    (hchecks : ∀ holds ∈ p.checks, ∀ c : Cursor, holds c.crlf = holds c) {s : Progress}
    {next : Progress → Option α} {next' : Progress → Option β}
    (hnext : ∀ s', p.Ways s s' → next' s'.crlf = (next s').map f)
    (hsplit : p.neverLast '\r' = true ∨ ∀ s', s'.place.IsSplit → next' s' = none) :
    p.run s.crlf next' = (p.run s next).map f := by
  induction p generalizing α β f s next next' with
  | literal word =>
    obtain ⟨hfeed, hreturn⟩ := Bool.and_eq_true_iff.mp hp
    have hskip : s.crlf.place.skip? word = (s.place.skip? word).map Cursor.crlf :=
      Cursor.skip?_crlf (by simpa using hfeed) (by simpa using hreturn) s.place
    rw [run, run, hskip]
    cases hplace : s.place.skip? word with
    | none => rfl
    | some place => exact hnext ⟨place, s.captures⟩ ⟨Cursor.passes_of_skip? hplace, rfl⟩
  | one accepts =>
    apply run_one_crlf (by simpa [readsReturns] using hp) hnext
    intro hreturn
    exact hsplit.resolve_left (by simp [neverLast, hreturn])
  | span preference accepts =>
    have hmirrors : Mirrors f accepts (fun place => next ⟨place, s.captures⟩)
        (fun place => next' ⟨place, s.crlf.captures⟩) s.place.behind s.place.ahead := by
      constructor
      case whole =>
        intro word c' hword hpasses
        exact hnext ⟨c', s.captures⟩ ⟨word, hword, hpasses, rfl⟩
      case split =>
        intro word c' hword hpasses hc'
        rcases hsplit with hlast | hnone
        · have hways : (span preference accepts).Ways s.crlf ⟨c', s.crlf.captures⟩ :=
            ⟨word, hword, hpasses, rfl⟩
          exact absurd hc' (hways.not_isSplit hlast)
        · exact hnone _ hc'
    have haccepts : accepts '\n' = false ∨ accepts '\r' = true := by
      simpa [readsReturns] using hp
    cases preference with
    | longest => exact hmirrors.runLongest_eq haccepts
    | shortest => exact hmirrors.runShortest_eq haccepts
  | seq first second ihf ihs =>
    obtain ⟨hps, hends⟩ := Bool.and_eq_true_iff.mp hp
    obtain ⟨hpf, hps⟩ := Bool.and_eq_true_iff.mp hps
    have hcf : ∀ holds ∈ first.checks, ∀ c : Cursor, holds c.crlf = holds c :=
      fun holds hmem => hchecks holds (List.mem_append_left _ hmem)
    have hcs : ∀ holds ∈ second.checks, ∀ c : Cursor, holds c.crlf = holds c :=
      fun holds hmem => hchecks holds (List.mem_append_right _ hmem)
    have hsecond : second.neverLast '\r' = true ∨ ∀ s', s'.place.IsSplit → next' s' = none :=
      hsplit.imp_left fun hlast => (Bool.and_eq_true_iff.mp hlast).1
    rw [run, run]
    refine ihf hpf hcf ?_ (neverLast_or_run_eq_none hends hsplit)
    intro middle hwaysf
    refine ihs hps hcs ?_ hsecond
    intro s' hwayss
    exact hnext s' ⟨middle, hwaysf, hwayss⟩
  | alt first second ihf ihs =>
    obtain ⟨hpf, hps⟩ := Bool.and_eq_true_iff.mp hp
    have hfirst := ihf hpf (fun holds hmem => hchecks holds (List.mem_append_left _ hmem))
      (fun s' hways => hnext s' (Or.inl hways))
      (hsplit.imp_left fun hlast => (Bool.and_eq_true_iff.mp hlast).1)
    have hsecond := ihs hps (fun holds hmem => hchecks holds (List.mem_append_right _ hmem))
      (fun s' hways => hnext s' (Or.inr hways))
      (hsplit.imp_left fun hlast => (Bool.and_eq_true_iff.mp hlast).2)
    rw [run, run, hfirst, hsecond]
    cases first.run s next <;> rfl
  | star preference body ih =>
    obtain ⟨hpb, hlast⟩ := Bool.and_eq_true_iff.mp hp
    obtain ⟨hpb, hconsumes⟩ := Bool.and_eq_true_iff.mp hpb
    have hrounds : Rounds f (run body) (run body) body.Ways := by
      constructor
      case mirrored =>
        intro s next next' hstep
        exact ih hpb hchecks hstep (Or.inl hlast)
      case reads =>
        intro s s' hstep
        obtain ⟨word, hword⟩ := hstep.exists_reads
        exact hword.passes.length_lt (hword.ne_nil hconsumes)
      case ends =>
        intro s hs next
        exact run_eq_none_of_nil hconsumes hs next
      case ends' =>
        intro s hs next
        exact run_eq_none_of_nil hconsumes hs next
    have hbound : s.place.ahead.length ≤ s.crlf.place.ahead.length :=
      Text.length_le_length_crlf s.place.ahead
    cases preference with
    | longest => exact hrounds.repeatLongest_eq (Nat.le_refl _) hbound hnext
    | shortest => exact hrounds.repeatShortest_eq (Nat.le_refl _) hbound hnext
  | check holds =>
    have hplace : holds s.crlf.place = holds s.place := hchecks holds List.mem_cons_self s.place
    rw [run, run, hplace]
    by_cases hholds : holds s.place = true
    · rw [if_pos hholds, if_pos hholds]
      exact hnext s ⟨hholds, rfl⟩
    · rw [if_neg hholds, if_neg hholds]
      rfl
  | capture part body ih =>
    rw [run, run]
    refine ih hp hchecks ?_ ?_
    · intro inner hways
      exact hnext _ ⟨inner, hways, rfl⟩
    · exact hsplit.imp_right fun hnone inner hinner => hnone _ hinner

end Run

/-- A pattern for texts of whole lines: it reads every break with a return where it reads one
without, sets no condition that tells them apart, and neither begins nor ends inside of one. -/
structure KeepsBreaks (p : Pattern) : Prop where
  readsReturns : p.readsReturns = true
  checks : ∀ holds ∈ p.checks, ∀ c : Cursor, holds c.crlf = holds c
  consumes : p.consumes = true
  starts : ∀ c : Cursor, c.IsSplit → p.matchAt? c = none
  ends : p.neverLast '\r' = true

namespace KeepsBreaks

variable {p : Pattern}

theorem matchAt?_crlf (hp : p.KeepsBreaks) (c : Cursor) :
    p.matchAt? c.crlf = (p.matchAt? c).map Match.crlf := by
  have hrun : p.run (⟨c, []⟩ : Progress).crlf some = (p.run ⟨c, []⟩ some).map Progress.crlf :=
    run_crlf hp.readsReturns hp.checks (fun _ _ => rfl) (Or.inl hp.ends)
  have hstart : (⟨c, []⟩ : Progress).crlf = ⟨c.crlf, []⟩ := rfl
  rw [hstart] at hrun
  rw [matchAt?, matchAt?, hrun]
  cases p.run ⟨c, []⟩ some <;> rfl

/-- A match at a place is the first of all that begin there or later. -/
theorem findAllFrom_of_matchAt? (hp : p.KeepsBreaks) {behind ahead : Text} {m : Match}
    (h : p.matchAt? ⟨behind, ahead⟩ = some m) :
    p.findAllFrom 0 behind ahead = m :: p.findAllFrom 0 m.stop.behind m.stop.ahead :=
  findAllFrom_of_searchFrom hp.consumes (searchFrom_of_matchAt? h)

theorem findAllFrom_crlf (hp : p.KeepsBreaks) (behind ahead : Text) :
    p.findAllFrom 0 (Text.crlfBehind behind) (Text.crlf ahead) =
      (p.findAllFrom 0 behind ahead).map Match.crlf := by
  induction hlength : ahead.length using Nat.strong_induction_on generalizing behind ahead with
  | h length ih =>
    subst hlength
    have hhere : p.matchAt? ⟨Text.crlfBehind behind, Text.crlf ahead⟩ =
        (p.matchAt? ⟨behind, ahead⟩).map Match.crlf := hp.matchAt?_crlf ⟨behind, ahead⟩
    cases hm : p.matchAt? ⟨behind, ahead⟩ with
    | some m =>
      rw [hm] at hhere
      obtain ⟨hstart, hways⟩ := ways_of_matchAt? hm
      obtain ⟨word, hword⟩ := hways.exists_reads
      have hlt := hword.passes.length_lt (hword.ne_nil hp.consumes)
      simp only [hstart] at hlt
      rw [hp.findAllFrom_of_matchAt? hm, hp.findAllFrom_of_matchAt? hhere, List.map_cons]
      exact congrArg _ (ih _ hlt m.stop.behind m.stop.ahead rfl)
    | none =>
      rw [hm] at hhere
      cases ahead with
      | nil => rw [Text.crlf_nil, findAllFrom, findAllFrom, hm, ← Text.crlf_nil, hhere]; rfl
      | cons c rest =>
        have hrest := ih rest.length (Nat.lt_succ_self _) (c :: behind) rest rfl
        rw [findAllFrom, hm, ← hrest]
        by_cases hc : c = '\n'
        · subst hc
          have hinside := hp.starts ⟨'\r' :: Text.crlfBehind behind, '\n' :: Text.crlf rest⟩
            ⟨rfl, rfl⟩
          rw [Text.crlf_feed_cons] at hhere ⊢
          rw [findAllFrom, hhere, Option.map_none, findAllFrom, hinside,
            Text.crlfBehind_feed_cons]
        · rw [Text.crlf_cons hc] at hhere ⊢
          rw [findAllFrom, hhere, Option.map_none, Text.crlfBehind_cons hc]

/-- The matches in a text with returns are those in the text without, with the returns in them. -/
theorem findAll_crlf (hp : p.KeepsBreaks) (text : Text) :
    p.findAll (Text.crlf text) = (p.findAll text).map Match.crlf :=
  hp.findAllFrom_crlf [] text

end KeepsBreaks

end Pattern

end CodeGauge
