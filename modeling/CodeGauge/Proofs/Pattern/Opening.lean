import CodeGauge.Proofs.Pattern.Closing

/-!
How a pattern goes on from a place. A way that reads something reads one of the characters that the
pattern begins with. Where the pattern looks back no further than to see whether a word ends, or not
at all, its ways lead on from every place that the same text follows, whatever stands in front of
it. A pattern that stays on its line is found on every line at whose start it matches.
-/
namespace CodeGauge

namespace Cursor

/-- The same text follows, and a word ends at both places or at neither. -/
def Alike (c d : Cursor) : Prop :=
  c.ahead = d.ahead ∧ c.isAfter isWord = d.isAfter isWord

theorem Alike.isWordBorder_eq {c d : Cursor} (h : c.Alike d) :
    c.isWordBorder = d.isWordBorder := by
  rw [isWordBorder, isWordBorder, isBefore, isBefore, h.1, h.2]

/-- What is read at one place can be read at the other. -/
theorem Alike.exists_passes {c c' d : Cursor} {word : Text} (h : c.Alike d)
    (hpasses : c.Passes word c') : ∃ d', d.Passes word d' ∧ c'.Alike d' := by
  have hread : d.Passes word ⟨word.reverse ++ d.behind, c'.ahead⟩ := ⟨h.1 ▸ hpasses.1, rfl⟩
  refine ⟨_, hread, rfl, ?_⟩
  by_cases hne : word = []
  · subst hne
    obtain rfl := hpasses.eq_of_nil
    exact h.2
  · rw [hpasses.isAfter_eq hne, hread.isAfter_eq hne]

end Cursor

namespace Pattern

section Begins

/-- Whether a way of the pattern may read the character first. -/
def begins (x : Char) : Pattern → Bool
  | literal word => word.head? == some x
  | one accepts => accepts x
  | span _ accepts => accepts x
  | seq first second => first.begins x || (!first.consumes && second.begins x)
  | alt first second => first.begins x || second.begins x
  | star _ body => body.begins x
  | check _ => false
  | capture _ body => body.begins x

/-- A way stays where it is or reads a character that the pattern begins with. -/
theorem Ways.stays_or_begins {p : Pattern} {s s' : Progress} (h : p.Ways s s') :
    s'.place = s.place ∨ ∃ x, s.place.ahead.head? = some x ∧ p.begins x = true := by
  have hreads {accepts : Char → Bool} {word : Text} {s s' : Progress}
      (hword : ∀ c ∈ word, accepts c = true) (hpasses : s.place.Passes word s'.place) :
      s'.place = s.place ∨ ∃ x, s.place.ahead.head? = some x ∧ accepts x = true := by
    cases word with
    | nil => exact Or.inl hpasses.eq_of_nil
    | cons x rest =>
      exact Or.inr ⟨x, by rw [hpasses.1]; rfl, hword x List.mem_cons_self⟩
  induction p generalizing s s' with
  | literal word =>
    cases word with
    | nil => exact Or.inl h.1.eq_of_nil
    | cons x rest => exact Or.inr ⟨x, by rw [h.1.1]; rfl, beq_self_eq_true _⟩
  | one accepts =>
    obtain ⟨c, hc, hpasses, -⟩ := h
    exact hreads (List.forall_mem_singleton.mpr hc) hpasses
  | span preference accepts =>
    obtain ⟨word, hword, hpasses, -⟩ := h
    exact hreads hword hpasses
  | seq first second ihf ihs =>
    obtain ⟨middle, hfirst, hsecond⟩ := h
    rcases ihf hfirst with hstays | ⟨x, hx, hbegins⟩
    · have hconsumes : first.consumes = false := by
        obtain ⟨word, hword⟩ := hfirst.exists_reads
        rw [Bool.eq_false_iff]
        intro hconsumes
        have hlt := hword.passes.length_lt (hword.ne_nil hconsumes)
        rw [hstays] at hlt
        exact Nat.lt_irrefl _ hlt
      rcases ihs hsecond with hstays' | ⟨x, hx, hbegins⟩
      · exact Or.inl (hstays'.trans hstays)
      · exact Or.inr ⟨x, hstays ▸ hx, by simp [begins, hconsumes, hbegins]⟩
    · exact Or.inr ⟨x, hx, Bool.or_eq_true_iff.mpr (Or.inl hbegins)⟩
  | alt first second ihf ihs =>
    rcases h with h | h
    · exact (ihf h).imp_right fun ⟨x, hx, hbegins⟩ =>
        ⟨x, hx, Bool.or_eq_true_iff.mpr (Or.inl hbegins)⟩
    · exact (ihs h).imp_right fun ⟨x, hx, hbegins⟩ =>
        ⟨x, hx, Bool.or_eq_true_iff.mpr (Or.inr hbegins)⟩
  | star preference body ih =>
    -- the first repetition that reads something begins where all of them begin
    induction h using Relation.ReflTransGen.head_induction_on with
    | refl => exact Or.inl rfl
    | head hstep _ ihrest =>
      rcases ih hstep with hstays | hbegins
      · exact hstays ▸ ihrest
      · exact Or.inr hbegins
  | check holds => exact Or.inl (congrArg Progress.place h.2)
  | capture part body ih =>
    obtain ⟨inner, hinner, rfl⟩ := h
    have hbody := ih hinner
    exact hbody

theorem Ways.exists_begins {p : Pattern} (hp : p.consumes = true) {s s' : Progress}
    (h : p.Ways s s') : ∃ x, s.place.ahead.head? = some x ∧ p.begins x = true := by
  obtain ⟨word, hword⟩ := h.exists_reads
  rcases h.stays_or_begins with hstays | hbegins
  · have hlt := hword.passes.length_lt (hword.ne_nil hp)
    rw [hstays] at hlt
    exact absurd hlt (Nat.lt_irrefl _)
  · exact hbegins

end Begins

section Related

variable {R : Cursor → Cursor → Prop}

/-- Whether related places are the same to every condition of the pattern. -/
def respects (R : Cursor → Cursor → Prop) : Pattern → Prop
  | seq first second => first.respects R ∧ second.respects R
  | alt first second => first.respects R ∧ second.respects R
  | star _ body => body.respects R
  | check holds => ∀ c d : Cursor, R c d → holds c = holds d
  | capture _ body => body.respects R
  | _ => True

/-- From a related place the same way leads to a related place. -/
theorem Ways.exists_related {p : Pattern} (hp : p.respects R)
    (hR : ∀ {c c' d : Cursor} {word : Text}, R c d → c.Passes word c' →
      ∃ d', d.Passes word d' ∧ R c' d')
    {s s' t : Progress} (h : p.Ways s s') (hst : R s.place t.place) :
    ∃ t', p.Ways t t' ∧ R s'.place t'.place := by
  induction p generalizing s s' t with
  | literal word =>
    obtain ⟨d, hpasses, hrelated⟩ := hR hst h.1
    exact ⟨⟨d, t.captures⟩, ⟨hpasses, rfl⟩, hrelated⟩
  | one accepts =>
    obtain ⟨c, hc, hpasses, -⟩ := h
    obtain ⟨d, hpasses', hrelated⟩ := hR hst hpasses
    exact ⟨⟨d, t.captures⟩, ⟨c, hc, hpasses', rfl⟩, hrelated⟩
  | span preference accepts =>
    obtain ⟨word, hword, hpasses, -⟩ := h
    obtain ⟨d, hpasses', hrelated⟩ := hR hst hpasses
    exact ⟨⟨d, t.captures⟩, ⟨word, hword, hpasses', rfl⟩, hrelated⟩
  | seq first second ihf ihs =>
    obtain ⟨middle, hfirst, hsecond⟩ := h
    obtain ⟨middle', hfirst', hrelated⟩ := ihf hp.1 hfirst hst
    obtain ⟨t', hsecond', hrelated'⟩ := ihs hp.2 hsecond hrelated
    exact ⟨t', ⟨middle', hfirst', hsecond'⟩, hrelated'⟩
  | alt first second ihf ihs =>
    rcases h with h | h
    · obtain ⟨t', hways, hrelated⟩ := ihf hp.1 h hst
      exact ⟨t', Or.inl hways, hrelated⟩
    · obtain ⟨t', hways, hrelated⟩ := ihs hp.2 h hst
      exact ⟨t', Or.inr hways, hrelated⟩
  | star preference body ih =>
    induction h with
    | refl => exact ⟨t, Relation.ReflTransGen.refl, hst⟩
    | tail _ hstep ihsteps =>
      obtain ⟨middle, hsteps, hrelated⟩ := ihsteps
      obtain ⟨t', hstep', hrelated'⟩ := ih hp hstep hrelated
      exact ⟨t', hsteps.tail hstep', hrelated'⟩
  | check holds =>
    obtain ⟨hholds, rfl⟩ := h
    exact ⟨t, ⟨(hp _ _ hst).symm.trans hholds, rfl⟩, hst⟩
  | capture part body ih =>
    obtain ⟨inner, hinner, rfl⟩ := h
    obtain ⟨inner', hinner', hrelated⟩ := ih hp hinner hst
    exact ⟨_, ⟨inner', hinner', rfl⟩, hrelated⟩

end Related

section Alike

/-- Whether the pattern looks at nothing but what follows and whether a word ends here. -/
def seesWords : Pattern → Prop
  | seq first second => first.seesWords ∧ second.seesWords
  | alt first second => first.seesWords ∧ second.seesWords
  | star _ body => body.seesWords
  | check holds => ∀ c d : Cursor, c.Alike d → holds c = holds d
  | capture _ body => body.seesWords
  | _ => True

theorem seesWords_border : border.seesWords :=
  fun _ _ h => h.isWordBorder_eq

theorem seesWords_iff_respects {p : Pattern} : p.seesWords ↔ p.respects Cursor.Alike := by
  induction p with
  | seq first second ihf ihs => exact and_congr ihf ihs
  | alt first second ihf ihs => exact and_congr ihf ihs
  | star preference body ih => exact ih
  | capture part body ih => exact ih
  | _ => exact Iff.rfl

/-- From a place that is alike the same way leads to a place that is alike. -/
theorem Ways.exists_alike {p : Pattern} (hp : p.seesWords) {s s' t : Progress} (h : p.Ways s s')
    (hst : s.place.Alike t.place) : ∃ t', p.Ways t t' ∧ s'.place.Alike t'.place :=
  h.exists_related (seesWords_iff_respects.mp hp) Cursor.Alike.exists_passes hst

end Alike

section Blind

/-- Whether no condition of the pattern looks around. -/
def isBlind : Pattern → Bool
  | seq first second => first.isBlind && second.isBlind
  | alt first second => first.isBlind && second.isBlind
  | star _ body => body.isBlind
  | check _ => false
  | capture _ body => body.isBlind
  | _ => true

theorem respects_of_isBlind {p : Pattern} (hp : p.isBlind = true)
    (R : Cursor → Cursor → Prop) : p.respects R := by
  induction p with
  | seq first second ihf ihs =>
    obtain ⟨hpf, hps⟩ := Bool.and_eq_true_iff.mp hp
    exact ⟨ihf hpf, ihs hps⟩
  | alt first second ihf ihs =>
    obtain ⟨hpf, hps⟩ := Bool.and_eq_true_iff.mp hp
    exact ⟨ihf hpf, ihs hps⟩
  | star preference body ih => exact ih hp
  | check holds => exact absurd hp Bool.false_ne_true
  | capture part body ih => exact ih hp
  | _ => trivial

/-- A pattern that does not look around matches wherever the same text follows. -/
theorem matchesAt_of_isBlind {p : Pattern} (hblind : p.isBlind = true)
    (hrepeats : p.repeatsText = true) {c d : Cursor} (hahead : c.ahead = d.ahead)
    (h : p.matchesAt c = true) : p.matchesAt d = true := by
  have hreads {c c' d : Cursor} {word : Text} (hcd : c.ahead = d.ahead)
      (hpasses : c.Passes word c') : ∃ d', d.Passes word d' ∧ c'.ahead = d'.ahead :=
    ⟨⟨word.reverse ++ d.behind, c'.ahead⟩, ⟨hcd ▸ hpasses.1, rfl⟩, rfl⟩
  obtain ⟨s, hways⟩ := (matchesAt_iff_ways hrepeats).mp h
  obtain ⟨t, hways', -⟩ := hways.exists_related (t := ⟨d, []⟩)
    (respects_of_isBlind hblind fun c d => c.ahead = d.ahead) hreads hahead
  exact matchesAt_of_ways hrepeats hways'

end Blind

section Parts

/-- The patterns that a sequence is made of. -/
def parts : Pattern → List Pattern
  | seq first second => first.parts ++ [second]
  | p => [p]

/-- The patterns one behind the other. -/
def chain (ps : List Pattern) : Pattern :=
  ps.foldr (· ++ ·) empty

theorem ways_chain_append {ps qs : List Pattern} {s s' : Progress} :
    (chain (ps ++ qs)).Ways s s' ↔
      ∃ middle, (chain ps).Ways s middle ∧ (chain qs).Ways middle s' := by
  induction ps generalizing s with
  | nil =>
    constructor
    · intro h
      exact ⟨s, ⟨Cursor.Passes.refl _, rfl⟩, h⟩
    · rintro ⟨⟨place, captures⟩, ⟨hpasses, rfl⟩, h⟩
      obtain rfl := hpasses.eq_of_nil
      exact h
  | cons p ps ih =>
    constructor
    · rintro ⟨start, hp, hrest⟩
      obtain ⟨middle, hps, hqs⟩ := ih.mp hrest
      exact ⟨middle, ⟨start, hp, hps⟩, hqs⟩
    · rintro ⟨middle, ⟨start, hp, hps⟩, hqs⟩
      exact ⟨start, hp, ih.mpr ⟨middle, hps, hqs⟩⟩

theorem ways_chain_singleton {p : Pattern} {s s' : Progress} :
    (chain [p]).Ways s s' ↔ p.Ways s s' := by
  constructor
  · rintro ⟨⟨place, captures⟩, hp, hpasses, hcaptures⟩
    obtain ⟨place', captures'⟩ := s'
    obtain rfl := hpasses.eq_of_nil
    obtain rfl := hcaptures
    exact hp
  · intro h
    exact ⟨s', h, Cursor.Passes.refl _, rfl⟩

/-- A sequence leads where its parts lead. -/
theorem ways_chain_parts {p : Pattern} {s s' : Progress} :
    (chain p.parts).Ways s s' ↔ p.Ways s s' := by
  induction p generalizing s s' with
  | seq first second ihf _ =>
    rw [parts, ways_chain_append]
    simp only [ihf, ways_chain_singleton]
    rfl
  | _ => exact ways_chain_singleton

end Parts

/-- What a pattern reads elsewhere does not reach over the start of a line when it reads no line
feed, so every line at whose start it matches is one where a match begins. -/
theorem exists_mem_findAllFrom_start {p : Pattern} (hconsumes : p.consumes = true)
    (havoids : p.avoids '\n' = true) {behind ahead before : Text} {place : Cursor}
    (hbefore : (⟨behind, ahead⟩ : Cursor).Passes before place) (hline : place.isLineStart = true)
    (hplace : p.matchesAt place = true) :
    ∃ m ∈ p.findAllFrom 0 behind ahead, m.start = place := by
  -- on what is ahead: the first match begins there, or it ends on a line before
  induction hn : ahead.length using Nat.strong_induction_on generalizing behind ahead before with
  | _ n ih =>
    obtain ⟨m, lead, gap, hsearch, rfl, hlead, hm⟩ := exists_searchFrom hbefore hplace
    rw [findAllFrom_of_searchFrom hconsumes hsearch]
    obtain ⟨start, hlead', hgap⟩ := hbefore.split
    obtain rfl := hlead.unique hlead'
    rcases List.eq_nil_or_concat' gap with rfl | ⟨front, c, rfl⟩
    · exact ⟨m, List.mem_cons_self, hgap.eq_of_nil.symm⟩
    · obtain ⟨word, hword⟩ := (ways_of_matchAt? hm).2.exists_reads
      have hfeed : c = '\n' := by
        obtain ⟨_, hbehind, -⟩ := hgap.step_back
        rw [Cursor.isLineStart, hbehind] at hline
        exact eq_of_beq hline
      have hahead := hword.passes.1.symm.trans hgap.1
      rcases List.append_eq_append_iff.mp hahead with ⟨rest, hrest, -⟩ | ⟨rest, hrest, -⟩
      · rw [hrest] at hgap
        obtain ⟨stop, hstop, hafter⟩ := hgap.split
        obtain rfl := hword.passes.unique hstop
        have hlt := (hlead.trans hword.passes).length_lt (by simp [hword.ne_nil hconsumes])
        obtain ⟨m', hm', hstart⟩ := ih _ (hn ▸ hlt) hafter rfl
        exact ⟨m', List.mem_cons_of_mem m hm', hstart⟩
      · refine absurd ?_ (hword.not_mem '\n' havoids)
        rw [hrest, hfeed]
        simp

end Pattern

end CodeGauge
