import CodeGauge.Metrics.TextScan
import CodeGauge.Proofs.Pattern.Declaration
import CodeGauge.Proofs.Pattern.Found

/-!
The lines that open a loop. Three patterns are looked for, but the first one decides: what the other
two read holds one of its words, and what they ask of the neighbouring characters makes that word
stand by itself.
-/
namespace CodeGauge.TextScan

open Pattern

variable {line : Text} {s s' : Progress}

theorem isWord_of_mem_loopWords :
    ∀ word ∈ loopWords, word ≠ [] ∧ ∀ c ∈ word, isWord c = true :=
  fun _ => isWord_of_mem (by decide)

/-- A `for` with an `in` behind it. -/
def forIn : Pattern :=
  border ++ "for" ++ many1 isBlank ++ many (· != '\n') ++ border ++ "in" ++ border

/-- The members that go through a collection. -/
def memberWords : List Text :=
  ["forEach", "map", "filter"]

/-- Such a member behind a dot. -/
def memberLoop : Pattern :=
  "." ++ anyWord memberWords ++ border

theorem loopPatterns_eq : loopPatterns = [wholeWord loopWords, forIn, memberLoop] :=
  rfl

theorem memberWords_subset : memberWords ⊆ loopWords := by
  decide

/-- White space ends the `for`. -/
theorem exists_passesWord_of_forIn (h : forIn.Ways s s') :
    ∃ place, s.place.PassesWord "for" place := by
  obtain ⟨_, ⟨_, ⟨_, ⟨_, ⟨middle, ⟨_, ⟨hborder, rfl⟩, hfor, -⟩, hblanks⟩, -⟩, -⟩, -⟩, -⟩ := h
  obtain ⟨gap, hne, hgap, hread, -⟩ := ways_many1_iff.mp hblanks
  obtain ⟨x, gap, rfl⟩ := List.exists_cons_of_ne_nil hne
  obtain ⟨rest, hahead, -⟩ := hread.uncons
  obtain ⟨hne, hword⟩ := isWord_of_mem_loopWords "for".toList (by decide)
  refine ⟨middle.place, hfor, (Cursor.isWordBorder_ahead hfor hne hword).mp hborder, ?_⟩
  rw [hahead]
  exact isWord_of_isBlank (hgap x List.mem_cons_self)

/-- The dot is no part of the word behind it. -/
theorem exists_passesWord_of_memberLoop (h : memberLoop.Ways s s') : ∃ word ∈ memberWords,
    ∃ place place', s.place.Passes ['.'] place ∧ place.PassesWord word place' := by
  obtain ⟨_, ⟨start, ⟨hdot, -⟩, hwords⟩, hborder, rfl⟩ := h
  obtain ⟨word, hmem, hpasses, -⟩ := ways_anyWord_iff.mp hwords
  obtain ⟨hne, hword⟩ := isWord_of_mem_loopWords word (memberWords_subset hmem)
  have hstarts : start.place.isAfter isWord = false := by
    rw [hdot.isAfter_eq (List.cons_ne_nil '.' [])]
    decide
  exact ⟨word, hmem, start.place, s'.place, hdot, hpasses, hstarts,
    (Cursor.isWordBorder_behind hpasses hne hword).mp hborder⟩

theorem holdsWord_of_forIn (h : forIn.foundIn line = true) : line.HoldsWord "for" := by
  obtain ⟨before, place, s, hbefore, hways⟩ := (foundIn_iff_ways rfl).mp h
  obtain ⟨stop, hstands⟩ := exists_passesWord_of_forIn hways
  exact Cursor.holdsWord_iff_passesWord.mpr ⟨before, place, stop, hbefore, hstands⟩

theorem exists_holdsWord_of_memberLoop (h : memberLoop.foundIn line = true) :
    ∃ word ∈ memberWords, line.HoldsWord word := by
  obtain ⟨before, place, s, hbefore, hways⟩ := (foundIn_iff_ways rfl).mp h
  obtain ⟨word, hmem, start, stop, hdot, hstands⟩ := exists_passesWord_of_memberLoop hways
  exact ⟨word, hmem,
    Cursor.holdsWord_iff_passesWord.mpr ⟨_, start, stop, hbefore.trans hdot, hstands⟩⟩

/-- The other patterns add nothing to the first. -/
theorem isLoopLine_eq_foundIn (line : Text) :
    isLoopLine line = (wholeWord loopWords).foundIn line := by
  have hholds : (wholeWord loopWords).foundIn line = true ↔ _ :=
    foundIn_wholeWord_iff isWord_of_mem_loopWords
  rw [Bool.eq_iff_iff, isLoopLine, loopPatterns_eq, List.any_eq_true]
  constructor
  · rintro ⟨p, hp, hfound⟩
    simp only [List.mem_cons, List.not_mem_nil, or_false] at hp
    rcases hp with rfl | rfl | rfl
    · exact hfound
    · exact hholds.mpr ⟨"for".toList, by decide, holdsWord_of_forIn hfound⟩
    · obtain ⟨word, hmem, hword⟩ := exists_holdsWord_of_memberLoop hfound
      exact hholds.mpr ⟨word, memberWords_subset hmem, hword⟩
  · intro hfound
    exact ⟨wholeWord loopWords, List.mem_cons_self, hfound⟩

/-- A line opens a loop exactly when one of nine words stands in it by itself. So the first pattern
alone decides: no line has a match of another one only. -/
theorem isLoopLine_iff_holdsWord (line : Text) :
    (isLoopLine line = true ↔
      ∃ word ∈ (["for", "while", "forEach", "map", "filter", "reduce", "loop", "each", "times"] :
        List Text), line.HoldsWord word) ∧
      isLoopLine line = loopPatterns.head?.any (·.foundIn line) := by
  have hfirst := isLoopLine_eq_foundIn line
  constructor
  · rw [hfirst]
    exact foundIn_wholeWord_iff isWord_of_mem_loopWords
  · rw [hfirst, loopPatterns_eq, List.head?_cons, Option.any_some]

/-- Inside longer words and in other cases the words do not count. -/
example : isLoopLine "for_each(formats, foreach)" = false := by
  decide +kernel

end CodeGauge.TextScan
