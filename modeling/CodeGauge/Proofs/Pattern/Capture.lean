import CodeGauge.Pattern.Search
import CodeGauge.Proofs.Pattern.Ways

/-!
Patterns that capture one part. Cut at its capture, such a pattern is what it reads before the part,
the part itself, and what it reads after it; every match reads these three in turn.
-/
namespace CodeGauge.Pattern

/-- Whether no way of the pattern captures anything. -/
def isPlain : Pattern → Bool
  | literal _ => true
  | one _ => true
  | span _ _ => true
  | seq first second => first.isPlain && second.isPlain
  | alt first second => first.isPlain && second.isPlain
  | star _ body => body.isPlain
  | check _ => true
  | capture _ _ => false

theorem Ways.captures_eq {p : Pattern} (hplain : p.isPlain = true) {s s' : Progress}
    (h : p.Ways s s') : s'.captures = s.captures := by
  induction p generalizing s s' with
  | literal word => exact h.2
  | one accepts =>
    obtain ⟨_, -, -, hcaptures⟩ := h
    exact hcaptures
  | span preference accepts =>
    obtain ⟨_, -, -, hcaptures⟩ := h
    exact hcaptures
  | seq first second ihf ihs =>
    obtain ⟨hfirst, hsecond⟩ := Bool.and_eq_true_iff.mp hplain
    obtain ⟨middle, hwaysf, hwayss⟩ := h
    exact (ihs hsecond hwayss).trans (ihf hfirst hwaysf)
  | alt first second ihf ihs =>
    obtain ⟨hfirst, hsecond⟩ := Bool.and_eq_true_iff.mp hplain
    rcases h with h | h
    · exact ihf hfirst h
    · exact ihs hsecond h
  | star preference body ih =>
    induction h with
    | refl => rfl
    | tail _ hstep ihsteps => exact (ih hplain hstep).trans ihsteps
  | check holds => exact congrArg Progress.captures h.2
  | capture part body => exact absurd hplain Bool.false_ne_true

/-- A pattern cut at a capture. -/
structure Captured where
  before : Pattern
  part : Part
  body : Pattern
  after : Pattern

/-- Cuts a sequence of patterns at its first capture. -/
def captured? : Pattern → Option Captured
  | seq first second =>
    match captured? first with
    | some c => some { c with after := c.after ++ second }
    | none =>
      match captured? second with
      | some c => some { c with before := first ++ c.before }
      | none => none
  | capture part body => some ⟨empty, part, body, empty⟩
  | _ => none

/-- The pieces one behind the other. -/
def Captured.whole (c : Captured) : Pattern :=
  c.before ++ (capture c.part c.body ++ c.after)

theorem Ways.whole {p : Pattern} {c : Captured} (hc : p.captured? = some c) {s s' : Progress}
    (h : p.Ways s s') : c.whole.Ways s s' := by
  have hempty (s : Progress) : empty.Ways s s := ⟨Cursor.Passes.refl s.place, rfl⟩
  induction p generalizing c s s' with
  | seq first second ihf ihs =>
    obtain ⟨middle, hfirst, hsecond⟩ := h
    rw [captured?] at hc
    cases hcf : first.captured? with
    | some cf =>
      rw [hcf] at hc
      obtain rfl := Option.some.inj hc
      obtain ⟨start, hbefore, stop, hcapture, hafter⟩ := ihf hcf hfirst
      exact ⟨start, hbefore, stop, hcapture, middle, hafter, hsecond⟩
    | none =>
      rw [hcf] at hc
      cases hcs : second.captured? with
      | some cs =>
        rw [hcs] at hc
        obtain rfl := Option.some.inj hc
        obtain ⟨start, hbefore, hrest⟩ := ihs hcs hsecond
        exact ⟨start, ⟨middle, hfirst, hbefore⟩, hrest⟩
      | none => exact absurd hc (by simp [hcs])
  | capture part body =>
    obtain rfl := Option.some.inj hc
    exact ⟨s, hempty s, s', h, hempty s'⟩
  | _ => exact absurd hc (by simp [captured?])

/-- A match of a pattern with one capture captures the part that it reads there, once. -/
theorem Finds.exists_capture {p : Pattern} {text : Text} {m : Match} {c : Captured}
    (hm : p.Finds text m) (hc : p.captured? = some c)
    (hplain : c.before.isPlain = true ∧ c.body.isPlain = true ∧ c.after.isPlain = true) :
    ∃ lead start word stop rest, m.captures = [⟨c.part, start, stop⟩] ∧
      c.before.Reads m.start lead start ∧ c.body.Reads start word stop ∧
      c.after.Reads stop rest m.stop := by
  obtain ⟨hbefore, hbody, hafter⟩ := hplain
  obtain ⟨start, hwaysb, stop, ⟨inner, hwaysc, rfl⟩, hwaysa⟩ := hm.ways.whole hc
  have hcaptures : m.captures = [⟨c.part, start.place, inner.place⟩] := by
    have hinner := (hwaysc.captures_eq hbody).trans (hwaysb.captures_eq hbefore)
    exact (hwaysa.captures_eq hafter).trans (congrArg (List.cons _) hinner)
  obtain ⟨lead, hlead⟩ := hwaysb.exists_reads
  obtain ⟨word, hword⟩ := hwaysc.exists_reads
  obtain ⟨rest, hrest⟩ := hwaysa.exists_reads
  exact ⟨lead, start.place, word, inner.place, rest, hcaptures, hlead, hword, hrest⟩

/-- The text of the only capture. -/
theorem part_of_captures {m : Match} {part : Part} {start stop : Cursor} {word : Text}
    (hcaptures : m.captures = [⟨part, start, stop⟩]) (hword : start.Passes word stop) :
    m.part part = word := by
  simp only [Match.part, Match.capture?, hcaptures, List.find?_cons, decide_true]
  exact hword.upTo_eq

/-- A match reads the part that it captures between what stands before and after it. -/
theorem Finds.exists_part {p : Pattern} {text : Text} {m : Match} {c : Captured}
    (hm : p.Finds text m) (hc : p.captured? = some c)
    (hplain : c.before.isPlain = true ∧ c.body.isPlain = true ∧ c.after.isPlain = true) :
    ∃ lead start stop rest, c.before.Reads m.start lead start ∧
      c.body.Reads start (m.part c.part) stop ∧ c.after.Reads stop rest m.stop := by
  obtain ⟨lead, start, word, stop, rest, hcaptures, hlead, hword, hrest⟩ :=
    hm.exists_capture hc hplain
  rw [part_of_captures hcaptures hword.passes]
  exact ⟨lead, start, stop, rest, hlead, hword, hrest⟩

/-- The pattern that a sequence begins with. -/
def initial : Pattern → Pattern
  | seq first _ => first.initial
  | p => p

theorem Ways.initial {p : Pattern} {s s' : Progress} (h : p.Ways s s') :
    ∃ middle, p.initial.Ways s middle := by
  induction p generalizing s s' with
  | seq first second ihf _ =>
    obtain ⟨middle, hfirst, -⟩ := h
    exact ihf hfirst
  | _ => exact ⟨s', h⟩

/-- A pattern that begins with a character leads on from nowhere else. -/
theorem not_ways_of_initial {p : Pattern} {x : Char} {word : Text}
    (hp : p.initial = literal (x :: word)) {s : Progress} (hx : s.place.ahead.head? ≠ some x)
    (s' : Progress) : ¬p.Ways s s' := by
  intro h
  obtain ⟨middle, hways⟩ := h.initial
  rw [hp] at hways
  exact hx (by rw [hways.1.1, List.cons_append, List.head?_cons])

end CodeGauge.Pattern
