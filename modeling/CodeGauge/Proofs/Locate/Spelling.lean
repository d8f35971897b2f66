import CodeGauge.Analysis
import CodeGauge.Locate
import CodeGauge.Proofs.Text.Blank
import CodeGauge.Proofs.Text.Case

/-!
How a language is spelled does not matter. The normal form of a name is its own normal form, so it
is all the same whether a name is put into it once or, as a look-up of a front end does, once more;
and it is in lower case, so the rules are looked up under the normal form itself.
-/
namespace CodeGauge

namespace Language

/-- A name that stands for another leads to the normal form of that one, any other to itself without
its capitals and the blanks around it. -/
theorem exists_alias_or_normalize_eq (language : Text) :
    (∃ entry ∈ aliases, normalize language = entry.2) ∨
      aliases.lookup language.lower.trim = none ∧ normalize language = language.lower.trim := by
  simp only [normalize]
  cases hlookup : aliases.lookup language.lower.trim with
  | none => exact Or.inr ⟨rfl, rfl⟩
  | some name =>
    obtain ⟨before, after, heq, -⟩ := List.lookup_eq_some_iff.mp hlookup
    refine Or.inl ⟨(language.lower.trim, name), ?_, rfl⟩
    rw [heq]
    exact List.mem_append_right before List.mem_cons_self

theorem lower_normalize (language : Text) : (normalize language).lower = normalize language := by
  rcases exists_alias_or_normalize_eq language with ⟨entry, hentry, heq⟩ | ⟨-, heq⟩
  · have hall : ∀ entry ∈ aliases, entry.2.lower = entry.2 := by decide
    rw [heq]
    exact hall entry hentry
  · rw [heq]
    exact Text.lower_eq_self fun c hc => Text.isLower_of_mem_lower (Text.mem_of_mem_trim hc)

theorem normalize_normalize (language : Text) :
    normalize (normalize language) = normalize language := by
  rcases exists_alias_or_normalize_eq language with ⟨entry, hentry, heq⟩ | ⟨hlookup, heq⟩
  · have hall : ∀ entry ∈ aliases, normalize entry.2 = entry.2 := by decide
    rw [heq]
    exact hall entry hentry
  · have hlower := lower_normalize language
    rw [heq] at hlower ⊢
    simp only [normalize, hlower, Text.trim_trim, hlookup, Option.getD_none]

end Language

theorem FrontEndRegistry.get_normalize (frontEnds : FrontEndRegistry) (language : Text) :
    frontEnds.get (Language.normalize language) = frontEnds.get language := by
  simp only [get, Language.normalize_normalize]

/-- Rules are looked up under the normal form of a language as it is. -/
theorem RuleRegistry.get?_normalize (rules : RuleRegistry) (family language : Text) :
    rules.get? family (Language.normalize language) =
      rules.engines.find? (·.key = (family, Language.normalize language)) := by
  rw [get?, Language.lower_normalize]

namespace CodeUnit

/-- A unit that goes by the normal form of a language, and so does every report on it. -/
structure GoesBy (u : CodeUnit) (language : Text) : Prop where
  language_eq : u.language = Language.normalize language
  report_language_eq : ∀ rules limit options,
    (u.analyze rules limit options).language = Language.normalize language
  engine_eq : ∀ (rules : RuleRegistry) family, rules.get? family u.language =
    rules.engines.find? (·.key = (family, Language.normalize language))

theorem goesBy_of_language_eq {u : CodeUnit} {language : Text}
    (h : u.language = Language.normalize language) : u.GoesBy language where
  language_eq := h
  report_language_eq _ _ _ := h
  engine_eq rules family := by rw [h, RuleRegistry.get?_normalize]

section Units

variable {frontEnds : FrontEndRegistry} {source language : Text} {u : CodeUnit}

theorem language_of_locate {line column : Int}
    (h : locate frontEnds source language line column = some u) :
    u.language = Language.normalize language := by
  simp only [locate] at h
  split at h
  · exact absurd h (by simp)
  · split at h
    · split at h
      · rw [ParsedSource.unitAt?] at h
        obtain ⟨s, -, rfl⟩ := Option.map_eq_some_iff.mp h
        rfl
      · exact absurd h (by simp)
    · obtain ⟨b, -, rfl⟩ := Option.map_eq_some_iff.mp h
      rfl

theorem language_of_mem_locateAll (h : u ∈ locateAll frontEnds source language) :
    u.language = Language.normalize language := by
  simp only [locateAll] at h
  split at h
  · split at h
    · rw [ParsedSource.units] at h
      obtain ⟨s, -, rfl⟩ := List.mem_map.mp h
      rfl
    · exact absurd h List.not_mem_nil
  · obtain ⟨b, -, rfl⟩ := List.mem_map.mp h
    rfl

end Units

section Spelling

variable (frontEnds : FrontEndRegistry) (source : Text)

/-- A position has the same unit under the normal form of a language as under any spelling. -/
theorem locate_normalize (language : Text) (line column : Int) :
    locate frontEnds source (Language.normalize language) line column =
      locate frontEnds source language line column := by
  simp only [locate, Language.normalize_normalize]

theorem locateAll_normalize (language : Text) :
    locateAll frontEnds source (Language.normalize language) =
      locateAll frontEnds source language := by
  simp only [locateAll, Language.normalize_normalize]

theorem ofSnippet_normalize (language name id : Text) :
    ofSnippet frontEnds source (Language.normalize language) name id =
      ofSnippet frontEnds source language name id := by
  simp only [ofSnippet, Language.normalize_normalize]

end Spelling

/-- A normal form is its own normal form, and two spellings with one normal form are as good as each
other: they have the same front end and leave the same registry behind, they lead to the same units,
which go by the normal form, and so to the same reports. -/
theorem units_eq_of_normalize_eq :
    (∀ language, Language.normalize (Language.normalize language) = Language.normalize language) ∧
    ∀ language language', Language.normalize language = Language.normalize language' →
      ∀ (frontEnds : FrontEndRegistry) (source : Text),
        frontEnds.get language = frontEnds.get language' ∧
        (∀ line column, locate frontEnds source language line column =
            locate frontEnds source language' line column ∧
          ∀ u, locate frontEnds source language line column = some u → u.GoesBy language) ∧
        (locateAll frontEnds source language = locateAll frontEnds source language' ∧
          ∀ u ∈ locateAll frontEnds source language, u.GoesBy language) ∧
        (∀ name id, ofSnippet frontEnds source language name id =
            ofSnippet frontEnds source language' name id ∧
          (ofSnippet frontEnds source language name id).GoesBy language) ∧
        ∀ rules limit options,
          let report (u : CodeUnit) := u.analyze rules limit options
          (∀ line column, (locate frontEnds source language line column).map report =
            (locate frontEnds source language' line column).map report) ∧
          (locateAll frontEnds source language).map report =
            (locateAll frontEnds source language').map report ∧
          ∀ name id, report (ofSnippet frontEnds source language name id) =
            report (ofSnippet frontEnds source language' name id) := by
  refine ⟨Language.normalize_normalize, ?_⟩
  intro language language' h frontEnds source
  have hlocate (line column : Int) : locate frontEnds source language line column =
      locate frontEnds source language' line column := by
    rw [← locate_normalize, h, locate_normalize]
  have hall : locateAll frontEnds source language = locateAll frontEnds source language' := by
    rw [← locateAll_normalize, h, locateAll_normalize]
  have hsnippet (name id : Text) : ofSnippet frontEnds source language name id =
      ofSnippet frontEnds source language' name id := by
    rw [← ofSnippet_normalize, h, ofSnippet_normalize]
  refine ⟨?frontEnd, ?position, ?all, ?snippet, ?reports⟩
  case frontEnd =>
    rw [← FrontEndRegistry.get_normalize, h, FrontEndRegistry.get_normalize]
  case position =>
    intro line column
    refine ⟨hlocate line column, ?_⟩
    intro u hu
    exact goesBy_of_language_eq (language_of_locate hu)
  case all =>
    refine ⟨hall, ?_⟩
    intro u hu
    exact goesBy_of_language_eq (language_of_mem_locateAll hu)
  case snippet =>
    intro name id
    exact ⟨hsnippet name id, goesBy_of_language_eq rfl⟩
  case reports =>
    intro rules limit options report
    refine ⟨?_, by rw [hall], ?_⟩
    · intro line column
      rw [hlocate]
    · intro name id
      rw [hsnippet]

namespace Spelled

/-- A function in a language without a parser. -/
def source : Text := "fun f() \x7b\n\x7d"

def registry : FrontEndRegistry :=
  .ofParsers fun _ => none

end Spelled

open Spelled in
/-- An alias in capitals between blanks, and the name itself with a capital. -/
theorem units_eq_of_normalize_eq_kotlin :
    Language.normalize "\tKT " = Language.normalize "Kotlin" ∧
      locate registry source "\tKT " 2 = locate registry source "Kotlin" 2 ∧
      ∃ u, locate registry source "\tKT " 2 = some u ∧ u.language = ("kotlin" : Text) := by
  have hsame : Language.normalize "\tKT " = Language.normalize "Kotlin" := by decide
  have hsome : (locate registry source "\tKT " 2).isSome = true := by decide +kernel
  obtain ⟨-, hspellings⟩ := units_eq_of_normalize_eq
  obtain ⟨-, hposition, -⟩ := hspellings "\tKT " "Kotlin" hsame registry source
  obtain ⟨u, hu⟩ := Option.isSome_iff_exists.mp hsome
  obtain ⟨heq, hunit⟩ := hposition 2 0
  refine ⟨hsame, heq, u, hu, ?_⟩
  rw [(hunit u hu).language_eq]
  decide

end CodeUnit

end CodeGauge
