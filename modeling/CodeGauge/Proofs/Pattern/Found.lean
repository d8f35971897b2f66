import CodeGauge.Proofs.Pattern.Search
import Mathlib.Order.Bounds.Defs

/-!
Whether a pattern is found in a text at all: it is wherever there is a place with a way to go on,
and the first of these places is the one that a search finds. One of two patterns is found where one
of them is, and a word is found where it stands. Between borders a word is found where it stands by
itself.
-/
namespace CodeGauge

theorem Text.occursIn_iff_infix {needle text : Text} :
    occursIn needle text = true ↔ needle <:+: text := by
  induction text with
  | nil => cases needle <;> simp [occursIn]
  | cons c rest ih =>
    rw [occursIn, Bool.or_eq_true, List.isPrefixOf_iff_prefix, ih, List.infix_cons_iff]

/-- Whether `word` stands in the text by itself, with no character of a word next to it. -/
def Text.HoldsWord (text word : Text) : Prop :=
  ∃ before after : Text, text = before ++ (word ++ after) ∧
    before.getLast?.any isWord = false ∧ after.head?.any isWord = false

instance (text word : Text) : Decidable (text.HoldsWord word) :=
  decidable_of_iff
    (∃ i < text.length + 1, word <+: text.drop i ∧ (text.take i).getLast?.any isWord = false ∧
      (text.drop (i + word.length)).head?.any isWord = false) <| by
    constructor
    · rintro ⟨i, -, ⟨after, hafter⟩, hstarts, hends⟩
      rw [← List.drop_drop, ← hafter, List.drop_left] at hends
      refine ⟨text.take i, after, ?_, hstarts, hends⟩
      rw [hafter, List.take_append_drop]
    · rintro ⟨before, after, rfl, hstarts, hends⟩
      have hlength : before.length < (before ++ (word ++ after)).length + 1 := by
        rw [List.length_append]
        omega
      refine ⟨before.length, hlength, ?_⟩
      rw [← List.drop_drop, List.drop_left, List.take_left, List.drop_left]
      exact ⟨List.prefix_append word after, hstarts, hends⟩

namespace Cursor

/-- The place before the character with this index. -/
def ofIndex (text : Text) (i : Nat) : Cursor :=
  ⟨(text.take i).reverse, text.drop i⟩

theorem passes_ofIndex (text : Text) (i : Nat) :
    (Cursor.first text).Passes (text.take i) (ofIndex text i) :=
  ⟨(List.take_append_drop i text).symm, (List.append_nil _).symm⟩

theorem eq_ofIndex_of_passes {text word : Text} {c : Cursor}
    (h : (Cursor.first text).Passes word c) : c = ofIndex text word.length := by
  obtain ⟨behind, ahead⟩ := c
  obtain ⟨htext, hbehind⟩ := h
  obtain rfl : text = word ++ ahead := htext
  obtain rfl : behind = word.reverse := hbehind.trans (List.append_nil _)
  rw [ofIndex, List.take_left, List.drop_left]

theorem Passes.length_word_le {word : Text} {c d : Cursor} (h : c.Passes word d) :
    word.length ≤ c.ahead.length := by
  have hprefix : word <+: c.ahead := ⟨d.ahead, h.1.symm⟩
  exact hprefix.length_le

/-- The places of a text are those in front of its characters and the one at its end. -/
theorem exists_passes_iff {text : Text} {P : Cursor → Prop} :
    (∃ word c, (first text).Passes word c ∧ P c) ↔ ∃ i ≤ text.length, P (ofIndex text i) := by
  constructor
  · rintro ⟨word, c, hword, hc⟩
    exact ⟨word.length, hword.length_word_le, eq_ofIndex_of_passes hword ▸ hc⟩
  · rintro ⟨i, -, hi⟩
    exact ⟨_, _, passes_ofIndex text i, hi⟩

/-- In front of a word of word characters a border is where no such character precedes. -/
theorem isWordBorder_ahead {c c' : Cursor} {word : Text} (h : c.Passes word c') (hne : word ≠ [])
    (hword : ∀ x ∈ word, isWord x = true) :
    c.isWordBorder = true ↔ c.isAfter isWord = false := by
  obtain ⟨x, rest, rfl⟩ := List.exists_cons_of_ne_nil hne
  obtain ⟨after, hahead, -⟩ := h.uncons
  have hx : c.isBefore isWord = true := by
    rw [isBefore, hahead]
    exact hword x List.mem_cons_self
  rw [isWordBorder, hx]
  cases c.isAfter isWord <;> decide

/-- Reading `word`, which stands by itself, leads from the one place to the other. -/
structure PassesWord (c : Cursor) (word : Text) (c' : Cursor) : Prop where
  passes : c.Passes word c'
  starts : c.isAfter isWord = false
  ends : c'.ahead.head?.any isWord = false

theorem passesWord_iff_isWordBorder {c c' : Cursor} {word : Text}
    (hword : word ≠ [] ∧ ∀ x ∈ word, isWord x = true) : c.PassesWord word c' ↔
      c.isWordBorder = true ∧ c.Passes word c' ∧ c'.isWordBorder = true := by
  obtain ⟨hne, hword⟩ := hword
  constructor
  · rintro ⟨hpasses, hstarts, hends⟩
    exact ⟨(isWordBorder_ahead hpasses hne hword).mpr hstarts, hpasses,
      (isWordBorder_behind hpasses hne hword).mpr hends⟩
  · rintro ⟨hstarts, hpasses, hends⟩
    exact ⟨hpasses, (isWordBorder_ahead hpasses hne hword).mp hstarts,
      (isWordBorder_behind hpasses hne hword).mp hends⟩

theorem holdsWord_iff_passesWord {text word : Text} : text.HoldsWord word ↔
    ∃ before c c', (first text).Passes before c ∧ c.PassesWord word c' := by
  constructor
  · rintro ⟨before, after, rfl, hstarts, hends⟩
    have hread : (first (before ++ (word ++ after))).Passes (before ++ word)
        ⟨(before ++ word).reverse, after⟩ :=
      ⟨(List.append_assoc before word after).symm, (List.append_nil _).symm⟩
    obtain ⟨c, hbefore, hword⟩ := hread.split
    have hfree : c.isAfter isWord = false := (hbefore.isAfter_eq_any rfl).trans hstarts
    exact ⟨before, c, _, hbefore, hword, hfree, hends⟩
  · rintro ⟨before, c, c', hbefore, hword, hstarts, hends⟩
    have htext : text = (before ++ word) ++ c'.ahead := (hbefore.trans hword).1
    have hfree : before.getLast?.any isWord = false :=
      (hbefore.isAfter_eq_any rfl).symm.trans hstarts
    exact ⟨before, c'.ahead, htext.trans (List.append_assoc before word c'.ahead), hfree, hends⟩

end Cursor

namespace Pattern

variable {text : Text}

theorem foundIn_iff {p : Pattern} : p.foundIn text = true ↔
    ∃ before place, (Cursor.first text).Passes before place ∧ p.matchesAt place = true := by
  constructor
  · intro h
    obtain ⟨m, hm⟩ := Option.isSome_iff_exists.mp h
    obtain ⟨before, hbefore, hmatches⟩ := exists_passes_of_searchFrom hm
    exact ⟨before, m.start, hbefore, hmatches⟩
  · rintro ⟨before, place, hbefore, hplace⟩
    obtain ⟨m, _, _, hsearch, -⟩ := exists_searchFrom hbefore hplace
    exact Option.isSome_iff_exists.mpr ⟨m, hsearch⟩

theorem foundIn_iff_ways {p : Pattern} (hp : p.repeatsText = true) : p.foundIn text = true ↔
    ∃ before place s, (Cursor.first text).Passes before place ∧ p.Ways ⟨place, []⟩ s := by
  simp only [foundIn_iff, matchesAt_iff_ways hp, exists_and_left]

/-- The match that is found first begins before any other. -/
theorem exists_isLeast_of_search? {p : Pattern} {m : Match} (h : p.search? text = some m) :
    ∃ i ≤ text.length, m.start = .ofIndex text i ∧
      IsLeast {i | p.matchesAt (.ofIndex text i) = true} i := by
  obtain ⟨before, hbefore, hmatches⟩ := exists_passes_of_searchFrom h
  have hstart := Cursor.eq_ofIndex_of_passes hbefore
  rw [hstart] at hmatches
  refine ⟨before.length, hbefore.length_word_le, hstart, hmatches, ?least⟩
  case least =>
    intro i hi
    obtain ⟨m', before', gap, hsearch, hcut, hbefore', -⟩ :=
      exists_searchFrom (Cursor.passes_ofIndex text i) hi
    obtain rfl : m' = m := Option.some.inj (hsearch.symm.trans h)
    obtain rfl : before' = before := List.append_cancel_right (hbefore'.1.symm.trans hbefore.1)
    have hprefix : before' <+: text.take i := ⟨gap, hcut.symm⟩
    exact Nat.le_trans hprefix.length_le (List.length_take_le i text)

theorem matchesAt_alt (first second : Pattern) (place : Cursor) :
    (Pattern.alt first second).matchesAt place =
      (first.matchesAt place || second.matchesAt place) := by
  simp only [matchesAt, matchAt?, run]
  cases first.run ⟨place, []⟩ some <;> simp

theorem foundIn_alt_iff {first second : Pattern} : (Pattern.alt first second).foundIn text = true ↔
    first.foundIn text = true ∨ second.foundIn text = true := by
  simp only [foundIn_iff, matchesAt_alt, Bool.or_eq_true, and_or_left, exists_or]

theorem foundIn_literal_iff {word : Text} :
    (Pattern.literal word).foundIn text = true ↔ word <:+: text := by
  rw [foundIn_iff_ways rfl]
  constructor
  · rintro ⟨before, place, s, hbefore, hword, -⟩
    exact ⟨before, s.place.ahead, ((hbefore.trans hword).1).symm⟩
  · rintro ⟨before, after, rfl⟩
    have hread : (Cursor.first (before ++ word ++ after)).Passes (before ++ word)
        ⟨(before ++ word).reverse, after⟩ := ⟨rfl, (List.append_nil _).symm⟩
    obtain ⟨place, hbefore, hword⟩ := hread.split
    exact ⟨before, place, ⟨_, []⟩, hbefore, hword, rfl⟩

/-- One of the words between borders. -/
def wholeWord (words : List Text) : Pattern :=
  border ++ anyWord words ++ border

theorem ways_wholeWord_iff {words : List Text}
    (hwords : ∀ word ∈ words, word ≠ [] ∧ ∀ c ∈ word, isWord c = true) {s s' : Progress} :
    (wholeWord words).Ways s s' ↔
      ∃ word ∈ words, s.place.PassesWord word s'.place ∧ s'.captures = s.captures := by
  constructor
  · rintro ⟨_, ⟨_, ⟨hstarts, rfl⟩, hword⟩, hends, rfl⟩
    obtain ⟨word, hmem, hpasses, hcaptures⟩ := ways_anyWord_iff.mp hword
    have hstands := (Cursor.passesWord_iff_isWordBorder (hwords word hmem)).mpr
      ⟨hstarts, hpasses, hends⟩
    exact ⟨word, hmem, hstands, hcaptures⟩
  · rintro ⟨word, hmem, hstands, hcaptures⟩
    obtain ⟨hstarts, hpasses, hends⟩ :=
      (Cursor.passesWord_iff_isWordBorder (hwords word hmem)).mp hstands
    have hword : (anyWord words).Ways s s' := ways_anyWord_iff.mpr ⟨word, hmem, hpasses, hcaptures⟩
    exact ⟨s', ⟨s, ⟨hstarts, rfl⟩, hword⟩, hends, rfl⟩

theorem repeatsText_anyOf {choices : List Pattern}
    (h : ∀ p ∈ choices, p.repeatsText = true) : (anyOf choices).repeatsText = true := by
  induction choices with
  | nil => rfl
  | cons first rest ih =>
    obtain ⟨hfirst, hrest⟩ := List.forall_mem_cons.mp h
    cases rest with
    | nil => exact hfirst
    | cons second rest => exact Bool.and_eq_true_iff.mpr ⟨hfirst, ih hrest⟩

theorem repeatsText_wholeWord (words : List Text) : (wholeWord words).repeatsText = true := by
  have hwords : (anyWord words).repeatsText = true := by
    refine repeatsText_anyOf fun p hp => ?_
    obtain ⟨word, -, rfl⟩ := List.mem_map.mp hp
    rfl
  exact Bool.and_eq_true_iff.mpr ⟨hwords, rfl⟩

/-- Between borders a word of word characters is found where it stands by itself. -/
theorem foundIn_wholeWord_iff {words : List Text}
    (hwords : ∀ word ∈ words, word ≠ [] ∧ ∀ c ∈ word, isWord c = true) :
    (wholeWord words).foundIn text = true ↔ ∃ word ∈ words, text.HoldsWord word := by
  rw [foundIn_iff_ways (repeatsText_wholeWord words)]
  constructor
  · rintro ⟨before, place, s, hbefore, hways⟩
    obtain ⟨word, hmem, hstands, -⟩ := (ways_wholeWord_iff hwords).mp hways
    exact ⟨word, hmem, Cursor.holdsWord_iff_passesWord.mpr ⟨before, place, _, hbefore, hstands⟩⟩
  · rintro ⟨word, hmem, hholds⟩
    obtain ⟨before, place, stop, hbefore, hstands⟩ := Cursor.holdsWord_iff_passesWord.mp hholds
    exact ⟨before, place, ⟨stop, []⟩, hbefore,
      (ways_wholeWord_iff hwords).mpr ⟨word, hmem, hstands, rfl⟩⟩

/-- An underscore goes on with a word, a parenthesis does not. -/
example : Text.HoldsWord "for(x)" "for" ∧ ¬Text.HoldsWord "for_each(x)" "for" := by
  decide

end Pattern

end CodeGauge
