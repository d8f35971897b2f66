import CodeGauge.Proofs.Pattern.Declaration

/-!
Patterns that read up to a mark and hold it nowhere else. All their matches end at marks, so of two
matches that overlap both end at the same mark: although a search passes over what an earlier match
has read, no place where the pattern leads to is missed.
-/
namespace CodeGauge

namespace Cursor

/-- What was read tells where it ends. -/
theorem Passes.unique {c c' c'' : Cursor} {word : Text} (h : c.Passes word c')
    (h' : c.Passes word c'') : c' = c'' := by
  obtain ⟨behind', ahead'⟩ := c'
  obtain ⟨behind'', ahead''⟩ := c''
  rw [Cursor.mk.injEq]
  exact ⟨h.2.trans h'.2.symm, List.append_cancel_left (h.1.symm.trans h'.1)⟩

/-- Two readings up to the first mark end at the same place. -/
theorem Passes.eq_of_mark {c c' c'' : Cursor} {word word' : Text} {mark : Char}
    (hword : mark ∉ word) (hword' : mark ∉ word') (h : c.Passes (word ++ [mark]) c')
    (h' : c.Passes (word' ++ [mark]) c'') : c' = c'' := by
  have hahead : word ++ mark :: c'.ahead = word' ++ mark :: c''.ahead := by
    simpa using h.1.symm.trans h'.1
  obtain ⟨rfl, -, -⟩ := append_cons_inj (p := (· ≠ mark)) (fun x hx heq => hword (heq ▸ hx))
    (fun x hx heq => hword' (heq ▸ hx)) (not_not_intro rfl) (not_not_intro rfl) hahead
  exact h.unique h'

end Cursor

namespace Pattern

variable {front : Pattern} {mark : Char}

theorem Ways.exists_passes_mark (havoids : front.avoids mark = true) {s s' : Progress}
    (h : (front ++ .literal [mark]).Ways s s') :
    ∃ word, mark ∉ word ∧ s.place.Passes (word ++ [mark]) s'.place := by
  obtain ⟨middle, hfront, hmark, -⟩ := h
  obtain ⟨word, hword⟩ := hfront.exists_reads
  exact ⟨word, hword.not_mem mark havoids, hword.passes.trans hmark⟩

/-- Wherever there is a way of the pattern, one of the matches that are found ends where it ends. -/
theorem exists_mem_findAllFrom_stop (hfront : front.repeatsText = true)
    (havoids : front.avoids mark = true) {behind ahead before : Text} {place : Cursor}
    {s : Progress} (hbefore : (⟨behind, ahead⟩ : Cursor).Passes before place)
    (hways : (front ++ .literal [mark]).Ways ⟨place, []⟩ s) :
    ∃ m ∈ (front ++ .literal [mark]).findAllFrom 0 behind ahead, m.stop = s.place := by
  have hrepeats : (front ++ .literal [mark]).repeatsText = true :=
    Bool.and_eq_true_iff.mpr ⟨hfront, rfl⟩
  have hconsumes : (front ++ .literal [mark]).consumes = true :=
    Bool.or_eq_true_iff.mpr (Or.inr rfl)
  -- on what is ahead: the first match ends there, or what it leaves over holds the way
  induction hn : ahead.length using Nat.strong_induction_on generalizing behind ahead before with
  | _ n ih =>
    obtain ⟨m, lead, gap, hsearch, rfl, hlead, hm⟩ :=
      exists_searchFrom hbefore (matchesAt_of_ways hrepeats hways)
    rw [findAllFrom_of_searchFrom hconsumes hsearch]
    obtain ⟨place', hlead', hgap⟩ := hbefore.split
    obtain rfl := hlead.unique hlead'
    obtain ⟨word, hword, hpasses⟩ := (ways_of_matchAt? hm).2.exists_passes_mark havoids
    obtain ⟨word', hword', hpasses'⟩ := hways.exists_passes_mark havoids
    by_cases hmark : mark ∈ gap
    case pos =>
      obtain ⟨first, rest, rfl, hfirst⟩ := List.eq_append_cons_of_mem hmark
      rw [List.append_cons] at hgap
      obtain ⟨stop, hstop, hrest⟩ := hgap.split
      obtain rfl := hpasses.eq_of_mark hword hfirst hstop
      have hlt := (hlead.trans hpasses).length_lt (by simp)
      obtain ⟨m', hm', hstop'⟩ := ih _ (hn ▸ hlt) hrest rfl
      exact ⟨m', List.mem_cons_of_mem m hm', hstop'⟩
    case neg =>
      have hread : m.start.Passes ((gap ++ word') ++ [mark]) s.place := by
        rw [List.append_assoc]
        exact hgap.trans hpasses'
      exact ⟨m, List.mem_cons_self, hpasses.eq_of_mark hword (by simp [hmark, hword']) hread⟩

end Pattern

end CodeGauge
