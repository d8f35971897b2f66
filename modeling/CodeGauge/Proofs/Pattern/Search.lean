import CodeGauge.Proofs.Pattern.Ways

/-!
The matcher misses nothing. Wherever a pattern has a way to go on, the matcher finds one, so a place
from which there is a way is a match; the first of all matches is the one that begins first, and the
others are those behind its end. What is tried first is taken when it leads on.
-/
namespace CodeGauge

/-- Words that are not empty and made of word characters, from one check of the whole list. -/
theorem isWord_of_mem {words : List Text}
    (hwords : (words.all fun word => !word.isEmpty && word.all isWord) = true) {word : Text}
    (h : word ∈ words) : word ≠ [] ∧ ∀ c ∈ word, isWord c = true := by
  have hword := List.all_eq_true.mp hwords word h
  rw [Bool.and_eq_true, Bool.not_eq_true', List.isEmpty_eq_false_iff, List.all_eq_true] at hword
  exact hword

namespace Cursor

theorem Passes.split {c c'' : Cursor} {word word' : Text} (h : c.Passes (word ++ word') c'') :
    ∃ c', c.Passes word c' ∧ c'.Passes word' c'' := by
  obtain ⟨hahead, hbehind⟩ := h
  refine ⟨⟨word.reverse ++ c.behind, word' ++ c''.ahead⟩, ⟨?_, rfl⟩, ⟨rfl, ?_⟩⟩
  · rw [hahead, List.append_assoc]
  · rw [hbehind, List.reverse_append, List.append_assoc]

theorem Passes.split_cons {c c'' : Cursor} {x : Char} {word : Text}
    (h : c.Passes (x :: word) c'') : ∃ c', c.Passes [x] c' ∧ c'.Passes word c'' := by
  have hcut : c.Passes ([x] ++ word) c'' := h
  exact hcut.split

theorem Passes.eq_of_nil {c c' : Cursor} (h : c.Passes [] c') : c' = c := by
  obtain ⟨behind, ahead⟩ := c
  obtain ⟨behind', ahead'⟩ := c'
  obtain ⟨hahead, hbehind⟩ := h
  rw [Cursor.mk.injEq]
  exact ⟨hbehind, hahead.symm⟩

/-- The first character that is read, and the rest. -/
theorem Passes.uncons {c c' : Cursor} {x : Char} {word : Text} (h : c.Passes (x :: word) c') :
    ∃ rest, c.ahead = x :: rest ∧ (⟨x :: c.behind, rest⟩ : Cursor).Passes word c' := by
  obtain ⟨hahead, hbehind⟩ := h
  refine ⟨word ++ c'.ahead, hahead, rfl, ?_⟩
  rw [hbehind, List.reverse_cons, List.append_assoc, List.singleton_append]

theorem Passes.length_lt {c c' : Cursor} {word : Text} (h : c.Passes word c') (hword : word ≠ []) :
    c'.ahead.length < c.ahead.length := by
  have hpos := List.length_pos_iff.mpr hword
  rw [h.1, List.length_append]
  omega

theorem skip?_of_passes {word : Text} {c c' : Cursor} (h : c.Passes word c') :
    c.skip? word = some c' := by
  induction word generalizing c with
  | nil => rw [skip?, h.eq_of_nil]
  | cons w word ih =>
    obtain ⟨rest, hahead, hrest⟩ := h.uncons
    obtain ⟨behind, ahead⟩ := c
    subst hahead
    rw [skip?, if_pos rfl]
    exact ih hrest

/-- Behind a character of a word a border is the end of the word. -/
theorem isWordBorder_iff {c : Cursor} (h : c.isAfter isWord = true) :
    c.isWordBorder = true ↔ c.ahead.head?.any isWord = false := by
  rw [isWordBorder, h, isBefore]
  cases c.ahead with
  | nil => simp
  | cons x rest => cases hx : isWord x <;> simp [hx]

/-- Whatever a place stands behind, only what was read since decides. -/
theorem Passes.isAfter_eq_any {c c' : Cursor} {word : Text} (h : c.Passes word c')
    {accepts : Char → Bool} (hc : c.isAfter accepts = false) :
    c'.isAfter accepts = word.getLast?.any accepts := by
  by_cases hne : word = []
  · subst hne
    rw [h.eq_of_nil, hc]
    rfl
  · rw [h.isAfter_eq hne, List.getLast?_eq_some_getLast hne]
    rfl

/-- Behind a word of word characters a border is where no such character follows. -/
theorem isWordBorder_behind {c c' : Cursor} {word : Text} (h : c.Passes word c') (hne : word ≠ [])
    (hword : ∀ x ∈ word, isWord x = true) :
    c'.isWordBorder = true ↔ c'.ahead.head?.any isWord = false := by
  apply isWordBorder_iff
  rw [h.isAfter_eq hne]
  exact hword _ (List.getLast_mem hne)

end Cursor

namespace Pattern

/-- Whether whatever is repeated in the pattern reads something each time. -/
def repeatsText : Pattern → Bool
  | seq first second => first.repeatsText && second.repeatsText
  | alt first second => first.repeatsText && second.repeatsText
  | star _ body => body.consumes && body.repeatsText
  | capture _ body => body.repeatsText
  | _ => true

section Run

variable {α : Type} {accepts : Char → Bool}

theorem isSome_runLongest {next : Cursor → Option α} {behind ahead word : Text} {c' : Cursor}
    (hword : ∀ c ∈ word, accepts c = true) (h : (⟨behind, ahead⟩ : Cursor).Passes word c')
    (hnext : (next c').isSome) : (runLongest accepts next behind ahead).isSome := by
  induction word generalizing behind ahead with
  | nil =>
    obtain rfl := h.eq_of_nil
    cases ahead with
    | nil => exact hnext
    | cons c rest =>
      rw [runLongest]
      split
      · split
        · exact Option.isSome_some
        · exact hnext
      · exact hnext
  | cons w word ih =>
    obtain ⟨hw, hrest⟩ := List.forall_mem_cons.mp hword
    obtain ⟨rest, rfl, hpasses⟩ := h.uncons
    have hlonger := ih hrest hpasses
    rw [runLongest, if_pos hw]
    split
    · exact Option.isSome_some
    · rename_i hnone
      exact absurd hlonger (by simp [hnone])

theorem isSome_runShortest {next : Cursor → Option α} {behind ahead word : Text} {c' : Cursor}
    (hword : ∀ c ∈ word, accepts c = true) (h : (⟨behind, ahead⟩ : Cursor).Passes word c')
    (hnext : (next c').isSome) : (runShortest accepts next behind ahead).isSome := by
  induction word generalizing behind ahead with
  | nil =>
    obtain rfl := h.eq_of_nil
    cases ahead with
    | nil => exact hnext
    | cons c rest =>
      rw [runShortest]
      split
      · exact Option.isSome_some
      · rename_i hnone
        exact absurd hnext (by simp [hnone])
  | cons w word ih =>
    obtain ⟨hw, hrest⟩ := List.forall_mem_cons.mp hword
    obtain ⟨rest, rfl, hpasses⟩ := h.uncons
    rw [runShortest]
    split
    · exact Option.isSome_some
    · rw [if_pos hw]
      exact ih hrest hpasses

variable {body : Progress → (Progress → Option α) → Option α} {Step : Progress → Progress → Prop}

/-- As every step reads something, there are as many repetitions left as characters ahead. -/
theorem isSome_repeatLongest {next : Progress → Option α} {ahead : Text} {s s' : Progress}
    (hbody : ∀ {s s' next}, Step s s' → (next s').isSome → (body s next).isSome)
    (hreads : ∀ {s s'}, Step s s' → s'.place.ahead.length < s.place.ahead.length)
    (h : Relation.ReflTransGen Step s s') (hlength : s.place.ahead.length ≤ ahead.length)
    (hnext : (next s').isSome) : (repeatLongest body next ahead s).isSome := by
  induction ahead generalizing s with
  | nil =>
    rcases h.cases_head with rfl | ⟨middle, hstep, -⟩
    · exact hnext
    · have hlt := hreads hstep
      rw [List.length_nil] at hlength
      omega
  | cons c rest ih =>
    rw [repeatLongest]
    rcases h.cases_head with rfl | ⟨middle, hstep, hrest⟩
    · split
      · exact Option.isSome_some
      · exact hnext
    · have hlt := hreads hstep
      rw [List.length_cons] at hlength
      have hmore := hbody hstep (ih hrest (by omega))
      split
      · exact Option.isSome_some
      · rename_i hnone
        exact absurd hmore (by simp [hnone])

theorem isSome_repeatShortest {next : Progress → Option α} {ahead : Text} {s s' : Progress}
    (hbody : ∀ {s s' next}, Step s s' → (next s').isSome → (body s next).isSome)
    (hreads : ∀ {s s'}, Step s s' → s'.place.ahead.length < s.place.ahead.length)
    (h : Relation.ReflTransGen Step s s') (hlength : s.place.ahead.length ≤ ahead.length)
    (hnext : (next s').isSome) : (repeatShortest body next ahead s).isSome := by
  induction ahead generalizing s with
  | nil =>
    rcases h.cases_head with rfl | ⟨middle, hstep, -⟩
    · exact hnext
    · have hlt := hreads hstep
      rw [List.length_nil] at hlength
      omega
  | cons c rest ih =>
    rw [repeatShortest]
    rcases h.cases_head with rfl | ⟨middle, hstep, hrest⟩
    · split
      · exact Option.isSome_some
      · rename_i hnone
        exact absurd hnext (by simp [hnone])
    · have hlt := hreads hstep
      rw [List.length_cons] at hlength
      split
      · exact Option.isSome_some
      · exact hbody hstep (ih hrest (by omega))

/-- Where there is a way after which the rest succeeds, the matcher succeeds. -/
theorem isSome_run_of_ways {p : Pattern} (hp : p.repeatsText = true) {s s' : Progress}
    (h : p.Ways s s') {next : Progress → Option α} (hnext : (next s').isSome) :
    (p.run s next).isSome := by
  induction p generalizing s s' next with
  | literal word =>
    obtain ⟨place', captures'⟩ := s'
    obtain ⟨hpasses, rfl⟩ := h
    rw [run, Cursor.skip?_of_passes hpasses]
    exact hnext
  | one accepts =>
    obtain ⟨place', captures'⟩ := s'
    obtain ⟨c, hc, hpasses, rfl⟩ := h
    obtain ⟨rest, hahead, hrest⟩ := hpasses.uncons
    rw [run, hahead]
    simp only [if_pos hc]
    rwa [← hrest.eq_of_nil]
  | span preference accepts =>
    obtain ⟨place', captures'⟩ := s'
    obtain ⟨word, hword, hpasses, rfl⟩ := h
    cases preference with
    | longest => exact isSome_runLongest hword hpasses hnext
    | shortest => exact isSome_runShortest hword hpasses hnext
  | seq first second ihf ihs =>
    obtain ⟨hpf, hps⟩ := Bool.and_eq_true_iff.mp hp
    obtain ⟨middle, hfirst, hsecond⟩ := h
    rw [run]
    exact ihf hpf hfirst (ihs hps hsecond hnext)
  | alt first second ihf ihs =>
    obtain ⟨hpf, hps⟩ := Bool.and_eq_true_iff.mp hp
    rw [run]
    split
    · exact Option.isSome_some
    · rename_i hnone
      rcases h with h | h
      · exact absurd (ihf hpf h hnext) (by simp [hnone])
      · exact ihs hps h hnext
  | star preference body ih =>
    obtain ⟨hconsumes, hpb⟩ := Bool.and_eq_true_iff.mp hp
    have hreads {s s' : Progress} (hstep : body.Ways s s') :
        s'.place.ahead.length < s.place.ahead.length := by
      obtain ⟨word, hword⟩ := hstep.exists_reads
      exact hword.passes.length_lt (hword.ne_nil hconsumes)
    cases preference with
    | longest =>
      rw [run]
      exact isSome_repeatLongest (fun hstep => ih hpb hstep) hreads h (Nat.le_refl _) hnext
    | shortest =>
      rw [run]
      exact isSome_repeatShortest (fun hstep => ih hpb hstep) hreads h (Nat.le_refl _) hnext
  | check holds =>
    obtain ⟨hholds, rfl⟩ := h
    rw [run, if_pos hholds]
    exact hnext
  | capture part body ih =>
    obtain ⟨inner, hinner, rfl⟩ := h
    rw [run]
    exact ih hp hinner hnext

end Run

section Preferred

variable {α : Type} {next : Progress → Option α} {found : α}

theorem runShortest_of_some {accepts : Char → Bool} {next : Cursor → Option α}
    {behind ahead : Text} (h : next ⟨behind, ahead⟩ = some found) :
    runShortest accepts next behind ahead = some found := by
  cases ahead with
  | nil => exact h
  | cons c rest => rw [runShortest, h]

/-- As much is read as there is, when that leads on. -/
theorem runLongest_of_some {accepts : Char → Bool} {next : Cursor → Option α}
    {behind ahead word : Text} {stop : Cursor} (hword : ∀ c ∈ word, accepts c = true)
    (hpasses : (⟨behind, ahead⟩ : Cursor).Passes word stop)
    (hstop : stop.isBefore accepts = false) (hnext : next stop = some found) :
    runLongest accepts next behind ahead = some found := by
  induction word generalizing behind ahead with
  | nil =>
    obtain rfl := hpasses.eq_of_nil
    cases ahead with
    | nil => exact hnext
    | cons c rest =>
      have hc : accepts c = false := hstop
      rw [runLongest, hc]
      exact hnext
  | cons c word ih =>
    obtain ⟨hc, hword⟩ := List.forall_mem_cons.mp hword
    obtain ⟨rest, rfl, hrest⟩ := hpasses.uncons
    rw [runLongest, if_pos hc, ih hword hrest]

theorem run_append (first second : Pattern) (s : Progress) :
    (first ++ second).run s next = first.run s fun s => second.run s next :=
  rfl

variable {s : Progress}

theorem run_check {holds : Cursor → Bool} (h : holds s.place = true) (hnext : next s = some found) :
    (check holds).run s next = some found := by
  rw [run, if_pos h]
  exact hnext

theorem run_literal {word : Text} {stop : Cursor} (hpasses : s.place.Passes word stop)
    (hnext : next ⟨stop, s.captures⟩ = some found) : (literal word).run s next = some found := by
  rw [run, Cursor.skip?_of_passes hpasses]
  exact hnext

theorem run_one {accepts : Char → Bool} {c : Char} {stop : Cursor} (hc : accepts c = true)
    (hpasses : s.place.Passes [c] stop) (hnext : next ⟨stop, s.captures⟩ = some found) :
    (one accepts).run s next = some found := by
  obtain ⟨rest, hahead, hrest⟩ := hpasses.uncons
  rw [run, hahead]
  simp only [if_pos hc]
  rw [← hrest.eq_of_nil]
  exact hnext

theorem run_many {accepts : Char → Bool} {word : Text} {stop : Cursor}
    (hword : ∀ c ∈ word, accepts c = true) (hpasses : s.place.Passes word stop)
    (hstop : stop.isBefore accepts = false) (hnext : next ⟨stop, s.captures⟩ = some found) :
    (many accepts).run s next = some found := by
  rw [many, run]
  exact runLongest_of_some hword hpasses hstop hnext

/-- What need not be repeated is left out when that leads on. -/
theorem run_star_shortest (body : Pattern) (hnext : next s = some found) :
    (star .shortest body).run s next = some found := by
  rw [run]
  cases s.place.ahead with
  | nil => exact hnext
  | cons c rest => rw [repeatShortest, hnext]

/-- What has no way here is left out. -/
theorem run_opt_of_not_ways {p : Pattern} (h : ∀ s', ¬p.Ways s s') (hnext : next s = some found) :
    (opt p).run s next = some found := by
  have hnone : p.run s next = none := by
    rw [Option.eq_none_iff_forall_ne_some]
    intro x hx
    obtain ⟨s', hways, -⟩ := exists_ways_of_run p hx
    exact h s' hways
  rw [opt, run, hnone]
  exact hnext

theorem run_alt_of_some {first : Pattern} (second : Pattern)
    (h : first.run s next = some found) : (Pattern.alt first second).run s next = some found := by
  rw [run, h]

theorem anyWord_cons_cons (first second : Text) (rest : List Text) :
    anyWord (first :: second :: rest) = .alt (.literal first) (anyWord (second :: rest)) :=
  rfl

/-- Each of the patterns is a way. -/
theorem ways_anyOf_map_iff {ι : Type} {p : ι → Pattern} {choices : List ι} {s' : Progress} :
    (anyOf (choices.map p)).Ways s s' ↔ ∃ choice ∈ choices, (p choice).Ways s s' := by
  induction choices with
  | nil =>
    constructor
    · rintro ⟨c, hc, -⟩
      exact absurd hc Bool.false_ne_true
    · rintro ⟨choice, hchoice, -⟩
      exact absurd hchoice List.not_mem_nil
  | cons first rest ih =>
    cases rest with
    | nil => simp [anyOf]
    | cons second rest =>
      have halt : anyOf ((first :: second :: rest).map p) =
          .alt (p first) (anyOf ((second :: rest).map p)) := rfl
      rw [halt, Ways, ih]
      simp

/-- Each of the words is a way. -/
theorem ways_anyWord_iff {words : List Text} {s' : Progress} : (anyWord words).Ways s s' ↔
    ∃ word ∈ words, s.place.Passes word s'.place ∧ s'.captures = s.captures :=
  ways_anyOf_map_iff

/-- A word is read when no other of the words leads on. -/
theorem run_anyWord {words : List Text} {word : Text} (hmem : word ∈ words)
    {stop : Cursor} (hpasses : s.place.Passes word stop)
    (hnext : next ⟨stop, s.captures⟩ = some found)
    (hother : ∀ other ∈ words, ∀ place, s.place.Passes other place → other ≠ word →
      next ⟨place, s.captures⟩ = none) : (anyWord words).run s next = some found := by
  have hword : (Pattern.literal word).run s next = some found := run_literal hpasses hnext
  induction words with
  | nil => exact absurd hmem List.not_mem_nil
  | cons first rest ih =>
    by_cases hfirst : first = word
    · subst hfirst
      cases rest with
      | nil => exact hword
      | cons second rest =>
        rw [anyWord_cons_cons]
        exact run_alt_of_some _ hword
    · have hrest : word ∈ rest := (List.mem_cons.mp hmem).resolve_left fun heq => hfirst heq.symm
      have hnone : (Pattern.literal first).run s next = none := by
        rw [run]
        cases hskip : s.place.skip? first with
        | none => rfl
        | some place =>
          exact hother first List.mem_cons_self place (Cursor.passes_of_skip? hskip) hfirst
      have htail := ih hrest fun other hmem => hother other (List.mem_cons_of_mem first hmem)
      cases rest with
      | nil => exact absurd hrest List.not_mem_nil
      | cons second rest =>
        rw [anyWord_cons_cons, run, hnone]
        exact htail

end Preferred

theorem matchesAt_of_ways {p : Pattern} (hp : p.repeatsText = true) {place : Cursor} {s : Progress}
    (h : p.Ways ⟨place, []⟩ s) : p.matchesAt place = true := by
  have hrun : (p.run ⟨place, []⟩ some).isSome := isSome_run_of_ways hp h Option.isSome_some
  rw [matchesAt, matchAt?]
  split
  · exact Option.isSome_some
  · rename_i hnone
    exact absurd hrun (by simp [hnone])

/-- A pattern matches exactly where there is a way from. -/
theorem matchesAt_iff_ways {p : Pattern} (hp : p.repeatsText = true) {place : Cursor} :
    p.matchesAt place = true ↔ ∃ s, p.Ways ⟨place, []⟩ s := by
  constructor
  · intro h
    obtain ⟨m, hm⟩ := Option.isSome_iff_exists.mp h
    obtain ⟨hstart, hways⟩ := ways_of_matchAt? hm
    exact ⟨⟨m.stop, m.captures⟩, hstart ▸ hways⟩
  · rintro ⟨s, hways⟩
    exact matchesAt_of_ways hp hways

theorem searchFrom_of_matchAt? {p : Pattern} {behind ahead : Text} {m : Match}
    (h : p.matchAt? ⟨behind, ahead⟩ = some m) : p.searchFrom behind ahead = some m := by
  cases ahead with
  | nil => exact h
  | cons c rest => rw [searchFrom, h]

/-- The search goes on behind a word when no match begins with any of its characters. -/
theorem searchFrom_append {p : Pattern} {word : Text}
    (hword : ∀ c ∈ word, ∀ behind rest, p.matchAt? ⟨behind, c :: rest⟩ = none)
    (behind ahead : Text) :
    p.searchFrom behind (word ++ ahead) = p.searchFrom (word.reverse ++ behind) ahead := by
  induction word generalizing behind with
  | nil => rfl
  | cons c word ih =>
    obtain ⟨hc, hrest⟩ := List.forall_mem_cons.mp hword
    rw [List.cons_append, searchFrom, hc, List.reverse_cons, List.append_assoc,
      List.singleton_append]
    exact ih hrest (c :: behind)

/-- The first match of all begins no later than at any place where the pattern matches. -/
theorem exists_searchFrom {p : Pattern} {behind ahead word : Text} {place : Cursor}
    (h : (⟨behind, ahead⟩ : Cursor).Passes word place) (hplace : p.matchesAt place = true) :
    ∃ m before rest, p.searchFrom behind ahead = some m ∧ word = before ++ rest ∧
      (⟨behind, ahead⟩ : Cursor).Passes before m.start ∧ p.matchAt? m.start = some m := by
  have hhere {behind ahead : Text} {m : Match} (hm : p.matchAt? ⟨behind, ahead⟩ = some m) :
      (⟨behind, ahead⟩ : Cursor).Passes [] m.start ∧ p.matchAt? m.start = some m := by
    have hstart := (ways_of_matchAt? hm).1
    exact ⟨hstart ▸ Cursor.Passes.refl _, hstart ▸ hm⟩
  induction word generalizing behind ahead with
  | nil =>
    obtain rfl := h.eq_of_nil
    obtain ⟨m, hm⟩ := Option.isSome_iff_exists.mp hplace
    exact ⟨m, [], [], searchFrom_of_matchAt? hm, rfl, hhere hm⟩
  | cons w word ih =>
    obtain ⟨rest, rfl, hrest⟩ := h.uncons
    cases hm : p.matchAt? ⟨behind, w :: rest⟩ with
    | some m => exact ⟨m, [], w :: word, searchFrom_of_matchAt? hm, rfl, hhere hm⟩
    | none =>
      obtain ⟨m, before, after, hsearch, rfl, hbefore, hmatch⟩ := ih hrest
      refine ⟨m, w :: before, after, ?_, rfl, hbefore.cons, hmatch⟩
      rw [searchFrom, hm]
      exact hsearch

theorem head?_findAllFrom (p : Pattern) (behind ahead : Text) :
    (p.findAllFrom 0 behind ahead).head? = p.searchFrom behind ahead := by
  induction ahead generalizing behind with
  | nil =>
    rw [findAllFrom, searchFrom]
    cases p.matchAt? ⟨behind, []⟩ <;> rfl
  | cons c rest ih =>
    rw [findAllFrom, searchFrom]
    cases p.matchAt? ⟨behind, c :: rest⟩ with
    | some m => rfl
    | none => exact ih (c :: behind)

/-- The first match begins at a place of the text, and the pattern matches there. -/
theorem exists_passes_of_searchFrom {p : Pattern} {behind ahead : Text} {m : Match}
    (h : p.searchFrom behind ahead = some m) : ∃ before,
      (⟨behind, ahead⟩ : Cursor).Passes before m.start ∧ p.matchesAt m.start = true := by
  have hmem : m ∈ p.findAllFrom 0 behind ahead :=
    List.mem_of_head? ((head?_findAllFrom p behind ahead).trans h)
  obtain ⟨before, hbefore, hmatch⟩ := matchAt?_of_mem_findAllFrom hmem
  exact ⟨before, hbefore, Option.isSome_iff_exists.mpr ⟨m, hmatch⟩⟩

theorem findAllFrom_eq_nil {p : Pattern} {behind ahead : Text}
    (h : p.searchFrom behind ahead = none) : p.findAllFrom 0 behind ahead = [] :=
  List.head?_eq_none_iff.mp ((head?_findAllFrom p behind ahead).trans h)

/-- What is to be skipped is read over. -/
theorem findAllFrom_of_passes (p : Pattern) {behind ahead word : Text} {c' : Cursor}
    (h : (⟨behind, ahead⟩ : Cursor).Passes word c') :
    p.findAllFrom word.length behind ahead = p.findAllFrom 0 c'.behind c'.ahead := by
  induction word generalizing behind ahead with
  | nil =>
    obtain rfl := h.eq_of_nil
    rfl
  | cons w word ih =>
    obtain ⟨rest, rfl, hrest⟩ := h.uncons
    exact ih hrest

/-- All matches are the one that begins first, and then those behind its end. -/
theorem findAllFrom_of_searchFrom {p : Pattern} (hp : p.consumes = true) {behind ahead : Text}
    {m : Match} (h : p.searchFrom behind ahead = some m) :
    p.findAllFrom 0 behind ahead = m :: p.findAllFrom 0 m.stop.behind m.stop.ahead := by
  have hreads {place : Cursor} (hm : p.matchAt? place = some m) :
      ∃ x word, place.Passes (x :: word) m.stop := by
    obtain ⟨rfl, hways⟩ := ways_of_matchAt? hm
    obtain ⟨word, hword⟩ := hways.exists_reads
    obtain ⟨x, rest, rfl⟩ := List.exists_cons_of_ne_nil (hword.ne_nil hp)
    exact ⟨x, rest, hword.passes⟩
  induction ahead generalizing behind with
  | nil =>
    obtain ⟨x, word, hpasses⟩ := hreads h
    obtain ⟨rest, hahead, -⟩ := hpasses.uncons
    exact absurd hahead (by simp)
  | cons c rest ih =>
    rw [searchFrom] at h
    rw [findAllFrom]
    cases hm : p.matchAt? ⟨behind, c :: rest⟩ with
    | some m' =>
      rw [hm] at h
      obtain rfl := Option.some.inj h
      obtain ⟨x, word, hpasses⟩ := hreads hm
      have hlength : m'.length - 1 = word.length := by
        rw [Match.length, (ways_of_matchAt? hm).1, hpasses.1, List.length_append, List.length_cons]
        omega
      obtain ⟨rest', hahead, hrest⟩ := hpasses.uncons
      obtain ⟨rfl, rfl⟩ := List.cons.inj hahead
      simp only [hlength]
      rw [findAllFrom_of_passes p hrest]
    | none =>
      rw [hm] at h
      exact ih h

end Pattern

end CodeGauge
