import CodeGauge.Pattern.Search
import Mathlib.Logic.Relation

/-!
What a pattern can match, apart from the order in which the ways are tried. A match that is found is
one of the ways of the pattern, and a way reads a stretch of the text; which characters it cannot
read, and whether it reads any, is told by the pattern alone.
-/
namespace CodeGauge

namespace Cursor

/-- Reading `word` leads from the one place to the other. -/
def Passes (c : Cursor) (word : Text) (c' : Cursor) : Prop :=
  c.ahead = word ++ c'.ahead ∧ c'.behind = word.reverse ++ c.behind

theorem Passes.refl (c : Cursor) : c.Passes [] c :=
  ⟨rfl, rfl⟩

theorem Passes.trans {c c' c'' : Cursor} {word word' : Text} (h : c.Passes word c')
    (h' : c'.Passes word' c'') : c.Passes (word ++ word') c'' := by
  obtain ⟨hahead, hbehind⟩ := h
  obtain ⟨hahead', hbehind'⟩ := h'
  constructor
  · rw [hahead, hahead', List.append_assoc]
  · rw [hbehind', hbehind, List.reverse_append, List.append_assoc]

theorem passes_singleton (x : Char) (behind rest : Text) :
    (⟨behind, x :: rest⟩ : Cursor).Passes [x] ⟨x :: behind, rest⟩ :=
  ⟨rfl, rfl⟩

theorem Passes.cons {c' : Cursor} {x : Char} {behind rest word : Text}
    (h : (⟨x :: behind, rest⟩ : Cursor).Passes word c') :
    (⟨behind, x :: rest⟩ : Cursor).Passes (x :: word) c' :=
  (passes_singleton x behind rest).trans h

theorem Passes.upTo_eq {c c' : Cursor} {word : Text} (h : c.Passes word c') : c.upTo c' = word := by
  rw [upTo, h.1, List.length_append, Nat.add_sub_cancel, List.take_left]

/-- Before the last character that was read. -/
theorem Passes.step_back {c c' : Cursor} {word : Text} {x : Char}
    (h : c.Passes (word ++ [x]) c') :
    ∃ behind, c'.behind = x :: behind ∧ c.Passes word ⟨behind, x :: c'.ahead⟩ := by
  obtain ⟨hahead, hbehind⟩ := h
  rw [List.append_assoc, List.singleton_append] at hahead
  rw [List.reverse_append, List.reverse_singleton, List.singleton_append] at hbehind
  exact ⟨word.reverse ++ c.behind, hbehind, hahead, rfl⟩

/-- The character behind which a place stands, once something was read. -/
theorem Passes.isAfter_eq {c c' : Cursor} {word : Text} (h : c.Passes word c')
    (hne : word ≠ []) {accepts : Char → Bool} :
    c'.isAfter accepts = accepts (word.getLast hne) := by
  have hword := h
  rw [← List.dropLast_concat_getLast hne] at hword
  obtain ⟨behind, hbehind, -⟩ := hword.step_back
  rw [isAfter, hbehind]

theorem passes_of_skip? {word : Text} {c c' : Cursor} (h : c.skip? word = some c') :
    c.Passes word c' := by
  induction word generalizing c with
  | nil =>
    obtain rfl := Option.some.inj h
    exact Passes.refl c
  | cons w word ih =>
    obtain ⟨behind, ahead⟩ := c
    cases ahead with
    | nil => exact absurd h (by simp [skip?])
    | cons x rest =>
      by_cases hx : x = w
      · rw [skip?, if_pos hx] at h
        exact hx ▸ (ih h).cons
      · rw [skip?, if_neg hx] at h
        exact absurd h (by simp)

end Cursor

namespace Pattern

/-- The ways in which a pattern leads on, whatever is preferred. -/
def Ways : Pattern → Progress → Progress → Prop
  | literal word, s, s' => s.place.Passes word s'.place ∧ s'.captures = s.captures
  | one accepts, s, s' =>
    ∃ c, accepts c = true ∧ s.place.Passes [c] s'.place ∧ s'.captures = s.captures
  | span _ accepts, s, s' =>
    ∃ word, (∀ c ∈ word, accepts c = true) ∧ s.place.Passes word s'.place ∧
      s'.captures = s.captures
  | seq first second, s, s' => ∃ middle, Ways first s middle ∧ Ways second middle s'
  | alt first second, s, s' => Ways first s s' ∨ Ways second s s'
  | star _ body, s, s' => Relation.ReflTransGen (Ways body) s s'
  | check holds, s, s' => holds s.place = true ∧ s' = s
  | capture part body, s, s' =>
    ∃ inner, Ways body s inner ∧
      s' = ⟨inner.place, ⟨part, s.place, inner.place⟩ :: inner.captures⟩

section Run

variable {α : Type} {accepts : Char → Bool} {found : α}

theorem exists_passes_of_runLongest {next : Cursor → Option α} {behind ahead : Text}
    (h : runLongest accepts next behind ahead = some found) :
    ∃ word c', (∀ c ∈ word, accepts c = true) ∧ (⟨behind, ahead⟩ : Cursor).Passes word c' ∧
      next c' = some found := by
  induction ahead generalizing behind with
  | nil => exact ⟨[], ⟨behind, []⟩, by simp, Cursor.Passes.refl _, h⟩
  | cons c rest ih =>
    have hhere (hnext : next ⟨behind, c :: rest⟩ = some found) :
        ∃ word c', (∀ x ∈ word, accepts x = true) ∧
          (⟨behind, c :: rest⟩ : Cursor).Passes word c' ∧ next c' = some found :=
      ⟨[], _, by simp, Cursor.Passes.refl _, hnext⟩
    rw [runLongest] at h
    by_cases hc : accepts c = true
    · rw [if_pos hc] at h
      cases hlonger : runLongest accepts next (c :: behind) rest with
      | some longer =>
        rw [hlonger] at h
        obtain ⟨word, c', hword, hpasses, hnext⟩ := ih (hlonger.trans h)
        refine ⟨c :: word, c', ?_, hpasses.cons, hnext⟩
        exact List.forall_mem_cons.mpr ⟨hc, hword⟩
      | none =>
        rw [hlonger] at h
        exact hhere h
    · rw [if_neg hc] at h
      exact hhere h

theorem exists_passes_of_runShortest {next : Cursor → Option α} {behind ahead : Text}
    (h : runShortest accepts next behind ahead = some found) :
    ∃ word c', (∀ c ∈ word, accepts c = true) ∧ (⟨behind, ahead⟩ : Cursor).Passes word c' ∧
      next c' = some found := by
  induction ahead generalizing behind with
  | nil => exact ⟨[], ⟨behind, []⟩, by simp, Cursor.Passes.refl _, h⟩
  | cons c rest ih =>
    rw [runShortest] at h
    cases hhere : next ⟨behind, c :: rest⟩ with
    | some here =>
      rw [hhere] at h
      exact ⟨[], _, by simp, Cursor.Passes.refl _, hhere.trans h⟩
    | none =>
      simp only [hhere] at h
      by_cases hc : accepts c = true
      · rw [if_pos hc] at h
        obtain ⟨word, c', hword, hpasses, hnext⟩ := ih h
        refine ⟨c :: word, c', ?_, hpasses.cons, hnext⟩
        exact List.forall_mem_cons.mpr ⟨hc, hword⟩
      · rw [if_neg hc] at h
        exact absurd h (by simp)

variable {body : Progress → (Progress → Option α) → Option α}
  {Step : Progress → Progress → Prop}

theorem exists_steps_of_repeatLongest {next : Progress → Option α} {ahead : Text} {s : Progress}
    (hbody : ∀ {s next}, body s next = some found → ∃ s', Step s s' ∧ next s' = some found)
    (h : repeatLongest body next ahead s = some found) :
    ∃ s', Relation.ReflTransGen Step s s' ∧ next s' = some found := by
  induction ahead generalizing s with
  | nil => exact ⟨s, Relation.ReflTransGen.refl, h⟩
  | cons c rest ih =>
    rw [repeatLongest] at h
    cases hmore : body s (repeatLongest body next rest) with
    | some more =>
      rw [hmore] at h
      obtain ⟨middle, hstep, hrest⟩ := hbody (hmore.trans h)
      obtain ⟨s', hsteps, hnext⟩ := ih hrest
      exact ⟨s', hsteps.head hstep, hnext⟩
    | none =>
      rw [hmore] at h
      exact ⟨s, Relation.ReflTransGen.refl, h⟩

theorem exists_steps_of_repeatShortest {next : Progress → Option α} {ahead : Text} {s : Progress}
    (hbody : ∀ {s next}, body s next = some found → ∃ s', Step s s' ∧ next s' = some found)
    (h : repeatShortest body next ahead s = some found) :
    ∃ s', Relation.ReflTransGen Step s s' ∧ next s' = some found := by
  induction ahead generalizing s with
  | nil => exact ⟨s, Relation.ReflTransGen.refl, h⟩
  | cons c rest ih =>
    rw [repeatShortest] at h
    cases hhere : next s with
    | some here =>
      rw [hhere] at h
      exact ⟨s, Relation.ReflTransGen.refl, hhere.trans h⟩
    | none =>
      rw [hhere] at h
      obtain ⟨middle, hstep, hrest⟩ := hbody h
      obtain ⟨s', hsteps, hnext⟩ := ih hrest
      exact ⟨s', hsteps.head hstep, hnext⟩

/-- The matcher finds nothing but ways of the pattern. -/
theorem exists_ways_of_run (p : Pattern) {s : Progress} {next : Progress → Option α}
    (h : p.run s next = some found) : ∃ s', p.Ways s s' ∧ next s' = some found := by
  induction p generalizing s next with
  | literal word =>
    rw [run] at h
    cases hskip : s.place.skip? word with
    | some place =>
      rw [hskip] at h
      exact ⟨⟨place, s.captures⟩, ⟨Cursor.passes_of_skip? hskip, rfl⟩, h⟩
    | none => exact absurd h (by simp [hskip])
  | one accepts =>
    obtain ⟨⟨behind, ahead⟩, captures⟩ := s
    rw [run] at h
    cases ahead with
    | nil => exact absurd h (by simp)
    | cons c rest =>
      by_cases hc : accepts c = true
      · simp only [if_pos hc] at h
        exact ⟨⟨⟨c :: behind, rest⟩, captures⟩,
          ⟨c, hc, Cursor.passes_singleton c behind rest, rfl⟩, h⟩
      · exact absurd h (by simp [hc])
  | span preference accepts =>
    cases preference with
    | longest =>
      rw [run] at h
      obtain ⟨word, c', hword, hpasses, hnext⟩ := exists_passes_of_runLongest h
      exact ⟨⟨c', s.captures⟩, ⟨word, hword, hpasses, rfl⟩, hnext⟩
    | shortest =>
      rw [run] at h
      obtain ⟨word, c', hword, hpasses, hnext⟩ := exists_passes_of_runShortest h
      exact ⟨⟨c', s.captures⟩, ⟨word, hword, hpasses, rfl⟩, hnext⟩
  | seq first second ihf ihs =>
    rw [run] at h
    obtain ⟨middle, hfirst, hrest⟩ := ihf h
    obtain ⟨s', hsecond, hnext⟩ := ihs hrest
    exact ⟨s', ⟨middle, hfirst, hsecond⟩, hnext⟩
  | alt first second ihf ihs =>
    rw [run] at h
    cases hfirst : run first s next with
    | some result =>
      rw [hfirst] at h
      obtain ⟨s', hways, hnext⟩ := ihf (hfirst.trans h)
      exact ⟨s', Or.inl hways, hnext⟩
    | none =>
      rw [hfirst] at h
      obtain ⟨s', hways, hnext⟩ := ihs h
      exact ⟨s', Or.inr hways, hnext⟩
  | star preference body ih =>
    cases preference with
    | longest =>
      rw [run] at h
      exact exists_steps_of_repeatLongest ih h
    | shortest =>
      rw [run] at h
      exact exists_steps_of_repeatShortest ih h
  | check holds =>
    rw [run] at h
    by_cases hholds : holds s.place = true
    · rw [if_pos hholds] at h
      exact ⟨s, ⟨hholds, rfl⟩, h⟩
    · exact absurd h (by simp [hholds])
  | capture part body ih =>
    rw [run] at h
    obtain ⟨inner, hinner, hnext⟩ := ih h
    exact ⟨_, ⟨inner, hinner, rfl⟩, hnext⟩

end Run

/-- Whether no way of the pattern reads the character. -/
def avoids (c : Char) : Pattern → Bool
  | literal word => !word.contains c
  | one accepts => !accepts c
  | span _ accepts => !accepts c
  | seq first second => first.avoids c && second.avoids c
  | alt first second => first.avoids c && second.avoids c
  | star _ body => body.avoids c
  | check _ => true
  | capture _ body => body.avoids c

/-- Whether every way of the pattern reads something. -/
def consumes : Pattern → Bool
  | literal word => !word.isEmpty
  | one _ => true
  | span _ _ => false
  | seq first second => first.consumes || second.consumes
  | alt first second => first.consumes && second.consumes
  | star _ _ => false
  | check _ => false
  | capture _ body => body.consumes

/-- The word that a way reads. -/
structure Reads (p : Pattern) (c : Cursor) (word : Text) (c' : Cursor) : Prop where
  passes : c.Passes word c'
  ne_nil : p.consumes = true → word ≠ []
  not_mem : ∀ x, p.avoids x = true → x ∉ word

theorem Ways.exists_reads {p : Pattern} {s s' : Progress} (h : p.Ways s s') :
    ∃ word, p.Reads s.place word s'.place := by
  induction p generalizing s s' with
  | literal word =>
    refine ⟨word, h.1, ?_, ?_⟩
    · simp [consumes]
    · simp [avoids]
  | one accepts =>
    obtain ⟨c, hc, hpasses, -⟩ := h
    refine ⟨[c], hpasses, fun _ => List.cons_ne_nil c [], ?_⟩
    intro x hx hmem
    obtain rfl := List.mem_singleton.mp hmem
    simp [avoids, hc] at hx
  | span preference accepts =>
    obtain ⟨word, hword, hpasses, -⟩ := h
    refine ⟨word, hpasses, fun hconsumes => absurd hconsumes Bool.false_ne_true, ?_⟩
    intro x hx hmem
    simp [avoids, hword x hmem] at hx
  | seq first second ihf ihs =>
    obtain ⟨middle, hfirst, hsecond⟩ := h
    obtain ⟨word, hword⟩ := ihf hfirst
    obtain ⟨word', hword'⟩ := ihs hsecond
    refine ⟨word ++ word', hword.passes.trans hword'.passes, ?_, ?_⟩
    · intro hconsumes hnil
      rw [List.append_eq_nil_iff] at hnil
      rcases Bool.or_eq_true_iff.mp hconsumes with hc | hc
      · exact hword.ne_nil hc hnil.1
      · exact hword'.ne_nil hc hnil.2
    · intro x hx hmem
      obtain ⟨hxf, hxs⟩ := Bool.and_eq_true_iff.mp hx
      rcases List.mem_append.mp hmem with hmem | hmem
      · exact hword.not_mem x hxf hmem
      · exact hword'.not_mem x hxs hmem
  | alt first second ihf ihs =>
    rcases h with h | h
    · obtain ⟨word, hword⟩ := ihf h
      exact ⟨word, hword.passes, fun hc => hword.ne_nil (Bool.and_eq_true_iff.mp hc).1,
        fun x hx => hword.not_mem x (Bool.and_eq_true_iff.mp hx).1⟩
    · obtain ⟨word, hword⟩ := ihs h
      exact ⟨word, hword.passes, fun hc => hword.ne_nil (Bool.and_eq_true_iff.mp hc).2,
        fun x hx => hword.not_mem x (Bool.and_eq_true_iff.mp hx).2⟩
  | star preference body ih =>
    have hnone (word : Text) : (star preference body).consumes = true → word ≠ [] :=
      fun hconsumes => absurd hconsumes Bool.false_ne_true
    induction h with
    | refl => exact ⟨[], Cursor.Passes.refl _, hnone [], fun _ _ => List.not_mem_nil⟩
    | tail _ hstep ihsteps =>
      obtain ⟨word, hword⟩ := ihsteps
      obtain ⟨word', hword'⟩ := ih hstep
      refine ⟨word ++ word', hword.passes.trans hword'.passes, hnone _, ?_⟩
      intro x hx hmem
      rcases List.mem_append.mp hmem with hmem | hmem
      · exact hword.not_mem x hx hmem
      · exact hword'.not_mem x hx hmem
  | check holds =>
    obtain ⟨-, rfl⟩ := h
    exact ⟨[], Cursor.Passes.refl _, fun hconsumes => absurd hconsumes Bool.false_ne_true,
      fun _ _ => List.not_mem_nil⟩
  | capture part body ih =>
    obtain ⟨inner, hinner, rfl⟩ := h
    obtain ⟨word, hword⟩ := ih hinner
    exact ⟨word, hword.passes, hword.ne_nil, hword.not_mem⟩

/-- A match of a pattern in a text: the way to its start, and a way of the pattern from there. -/
structure Finds (p : Pattern) (text : Text) (m : Match) : Prop where
  start_in : ∃ before, (Cursor.first text).Passes before m.start
  ways : p.Ways ⟨m.start, []⟩ ⟨m.stop, m.captures⟩

theorem ways_of_matchAt? {p : Pattern} {place : Cursor} {m : Match}
    (h : p.matchAt? place = some m) :
    m.start = place ∧ p.Ways ⟨m.start, []⟩ ⟨m.stop, m.captures⟩ := by
  rw [matchAt?] at h
  cases hrun : p.run ⟨place, []⟩ some with
  | some s =>
    rw [hrun] at h
    obtain rfl := Option.some.inj h
    obtain ⟨s', hways, hs⟩ := exists_ways_of_run p hrun
    obtain rfl := Option.some.inj hs
    exact ⟨rfl, hways⟩
  | none => exact absurd h (by simp [hrun])

theorem matchAt?_of_mem_findAllFrom {p : Pattern} {skip : Nat} {behind ahead : Text} {m : Match}
    (h : m ∈ p.findAllFrom skip behind ahead) :
    ∃ word, (⟨behind, ahead⟩ : Cursor).Passes word m.start ∧ p.matchAt? m.start = some m := by
  fun_induction findAllFrom p skip behind ahead with
  | case1 behind =>
    have hm := Option.mem_toList.mp h
    have hstart := (ways_of_matchAt? hm).1
    exact ⟨[], hstart ▸ Cursor.Passes.refl _, hstart ▸ hm⟩
  | case2 => exact absurd h List.not_mem_nil
  | case3 skip behind c rest ih =>
    obtain ⟨word, hpasses, hm⟩ := ih h
    exact ⟨c :: word, hpasses.cons, hm⟩
  | case4 behind c rest m' hm' ih =>
    rcases List.mem_cons.mp h with rfl | h
    · have hstart := (ways_of_matchAt? hm').1
      exact ⟨[], hstart ▸ Cursor.Passes.refl _, hstart ▸ hm'⟩
    · obtain ⟨word, hpasses, hm⟩ := ih h
      exact ⟨c :: word, hpasses.cons, hm⟩
  | case5 behind c rest _ ih =>
    obtain ⟨word, hpasses, hm⟩ := ih h
    exact ⟨c :: word, hpasses.cons, hm⟩

theorem finds_of_mem_findAll {p : Pattern} {text : Text} {m : Match} (h : m ∈ p.findAll text) :
    p.Finds text m := by
  obtain ⟨word, hpasses, hm⟩ := matchAt?_of_mem_findAllFrom h
  exact ⟨⟨word, hpasses⟩, (ways_of_matchAt? hm).2⟩

/-- What a match reads is a part of the text. -/
theorem Finds.infix_text {p : Pattern} {text : Text} {m : Match} (h : p.Finds text m) :
    m.text <:+: text := by
  obtain ⟨before, hbefore⟩ := h.start_in
  obtain ⟨word, hword⟩ := h.ways.exists_reads
  have htext : m.text = word := hword.passes.upTo_eq
  exact ⟨before, m.stop.ahead, htext ▸ (hbefore.trans hword.passes).1.symm⟩

end Pattern

end CodeGauge
