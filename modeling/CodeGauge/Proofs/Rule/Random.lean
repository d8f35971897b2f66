import CodeGauge.Lexicon.Kotlin
import CodeGauge.Proofs.Pattern.Found
import CodeGauge.Rule.Security

/-!
Random numbers in Kotlin. The pattern looks for calls of `random` that are not calls of
`secureRandom`, but also for members of `random` whose names begin with `next`, whatever stands in
front of it. So in a unit that only uses secure random numbers these members are reported, and
nothing else.
-/
namespace CodeGauge

open Pattern

/-- Every `random` in the text is the end of `securerandom`. -/
def OnlySecureRandom (text : Text) : Prop :=
  ∀ before after : Text, text = before ++ "random" ++ after → "secure".toList <:+ before

instance (text : Text) : Decidable (OnlySecureRandom text) :=
  decidable_of_iff
    (∀ i < text.length + 1, "random".toList <+: text.drop i → "secure".toList <:+ text.take i) <| by
    constructor
    · rintro h before after rfl
      have hsecure := h before.length (by simp only [List.length_append]; omega)
      rw [List.append_assoc, List.drop_left, List.take_left] at hsecure
      exact hsecure (List.prefix_append _ _)
    · rintro h i - ⟨after, hafter⟩
      apply h (text.take i) after
      rw [List.append_assoc, hafter, List.take_append_drop]

/-- Whether `random` is called somewhere without being the end of `securerandom`. -/
def CallsInsecureRandom (text : Text) : Prop :=
  ∃ before gap after : Text, text = before ++ "random" ++ gap ++ "()" ++ after ∧
    (∀ c ∈ gap, isBlank c = true) ∧ ¬"secure".toList <:+ before

variable {text : Text}

theorem not_callsInsecureRandom (h : OnlySecureRandom text) : ¬CallsInsecureRandom text := by
  rintro ⟨before, gap, after, htext, -, hinsecure⟩
  apply hinsecure
  apply h before (gap ++ ("()" ++ after))
  simp [htext]

theorem occursIn_next_iff (h : OnlySecureRandom text) :
    Text.occursIn "random.next" text = Text.occursIn "securerandom.next" text := by
  rw [Bool.eq_iff_iff, Text.occursIn_iff_infix, Text.occursIn_iff_infix]
  constructor
  · rintro ⟨before, after, htext⟩
    have hrandom : text = before ++ "random" ++ (".next" ++ after) := by simp [← htext]
    obtain ⟨front, rfl⟩ := h before (".next" ++ after) hrandom
    exact ⟨front, after, by simp [← htext]⟩
  · intro hsecure
    have hrandom : "random.next".toList <:+: "securerandom.next".toList := ⟨"secure", [], rfl⟩
    exact hrandom.trans hsecure

namespace Lexicon

/-- The part of the pattern that looks for calls. -/
def kotlinRandomCall : Pattern :=
  check (fun c => !("secure".toList.reverse.isPrefixOf c.behind)) ++ "random" ++ blanks ++ "()"

theorem foundIn_kotlinRandomCall_iff :
    kotlinRandomCall.foundIn text = true ↔ CallsInsecureRandom text := by
  have hlook (behind : Text) : (!("secure".toList.reverse.isPrefixOf behind)) = true ↔
      ¬"secure".toList <:+ behind.reverse := by
    rw [Bool.not_eq_true', Bool.eq_false_iff, ne_eq, List.isPrefixOf_iff_prefix,
      ← List.reverse_prefix, List.reverse_reverse]
  rw [foundIn_iff_ways rfl]
  constructor
  · rintro ⟨before, place, s, hbefore, _, ⟨_, ⟨_, ⟨hlooked, rfl⟩, hword, -⟩, gap, hgap, hblanks, -⟩,
      hcall, -⟩
    have hbehind : place.behind.reverse = before := by simp [hbefore.2, Cursor.first]
    refine ⟨before, gap, s.place.ahead, ?_, hgap, hbehind ▸ (hlook _).mp hlooked⟩
    simpa [Cursor.first] using (hbefore.trans (hword.trans (hblanks.trans hcall))).1
  · rintro ⟨before, gap, after, rfl, hgap, hinsecure⟩
    have hread : (Cursor.first (before ++ "random" ++ gap ++ "()" ++ after)).Passes
        (before ++ ("random" ++ (gap ++ "()")))
        ⟨(before ++ ("random" ++ (gap ++ "()"))).reverse, after⟩ := by
      refine ⟨?_, (List.append_nil _).symm⟩
      simp [Cursor.first]
    obtain ⟨place, hbefore, hrest⟩ := hread.split
    obtain ⟨place', hword, hrest⟩ := hrest.split
    obtain ⟨place'', hblanks, hcall⟩ := hrest.split
    have hbehind : place.behind.reverse = before := by simp [hbefore.2, Cursor.first]
    have hlooked := (hlook place.behind).mpr (hbehind ▸ hinsecure)
    exact ⟨before, place, ⟨_, []⟩, hbefore, ⟨place'', []⟩, ⟨⟨place', []⟩, ⟨⟨place, []⟩,
      ⟨hlooked, rfl⟩, hword, rfl⟩, gap, hgap, hblanks, rfl⟩, hcall, rfl⟩

/-- What the whole pattern looks for. -/
theorem foundIn_randomPattern_kotlin_iff : kotlin.randomPattern.foundIn text = true ↔
    CallsInsecureRandom text ∨ Text.occursIn "random.next" text = true := by
  have hpattern : kotlin.randomPattern = .alt kotlinRandomCall "random.next" := rfl
  rw [hpattern, foundIn_alt_iff, foundIn_kotlinRandomCall_iff, foundIn_literal_iff,
    Text.occursIn_iff_infix]

/-- Of a Kotlin unit in which every `random` is a `securerandom`, an issue is reported exactly when
some `securerandom.next` stands near a word such as `token`: no other use of secure random numbers
is reported, but this one is. -/
theorem insecureRandom?_of_onlySecureRandom (u : CodeUnit) (h : OnlySecureRandom u.lowerText) :
    kotlin.insecureRandom? u =
      if Text.occursIn "securerandom.next" u.lowerText &&
          u.lowerText.containsAny securityContextTokens then
        some (kotlin.issue .insecureRandom .high .insecureRandom)
      else none := by
  have hfound : kotlin.randomPattern.foundIn u.lowerText =
      Text.occursIn "securerandom.next" u.lowerText := by
    rw [← occursIn_next_iff h, Bool.eq_iff_iff, foundIn_randomPattern_kotlin_iff,
      or_iff_right (not_callsInsecureRandom h)]
  rw [insecureRandom?, hfound]

namespace SecureToken

/-- A token from a secure source. -/
def unit : CodeUnit where
  id := "u"
  language := "kotlin"
  text := "val token = secureRandom.nextInt()"

theorem onlySecureRandom : OnlySecureRandom unit.lowerText := by
  decide +kernel

end SecureToken

open SecureToken in
theorem insecureRandom?_of_onlySecureRandom_token : OnlySecureRandom unit.lowerText ∧
    kotlin.insecureRandom? unit = some (kotlin.issue .insecureRandom .high .insecureRandom) := by
  have hfound : (Text.occursIn "securerandom.next" unit.lowerText &&
      unit.lowerText.containsAny securityContextTokens) = true := by
    decide +kernel
  exact ⟨onlySecureRandom,
    (insecureRandom?_of_onlySecureRandom unit onlySecureRandom).trans (if_pos hfound)⟩

open SecureToken in
/-- Secure random numbers are reported as insecure ones. -/
theorem insecureRandom?_ne_none_of_token :
    OnlySecureRandom unit.lowerText ∧ kotlin.insecureRandom? unit ≠ none := by
  decide +kernel

end Lexicon

end CodeGauge
