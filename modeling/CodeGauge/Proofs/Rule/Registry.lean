import CodeGauge.Proofs.Text.Case
import CodeGauge.Rule.Registry
import Mathlib.Data.List.Induction
import Mathlib.Data.List.Lex
import Mathlib.Data.Char

/-!
A registry of engines under any registrations. An engine is found under its key until another one
with the same key is registered, and no other registration touches it. The languages of a family are
listed in strictly increasing order, and each of them leads back to an engine, since lower case is
not changed by lower-casing it again.
-/
namespace CodeGauge

namespace Text

/-- The order in which languages are listed is the lexicographic one. -/
theorem precedes_iff_not_lt {s t : Text} : s.precedes t = true ↔ ¬t < s := by
  induction s generalizing t with
  | nil => simp [precedes]
  | cons a s ih =>
    cases t with
    | nil => simp [precedes]
    | cons b t =>
      have hcode : a.toNat < b.toNat ↔ a < b := Iff.rfl
      rw [precedes, List.cons_lt_cons_iff, Bool.or_eq_true, Bool.and_eq_true, decide_eq_true_eq,
        beq_iff_eq, ih, hcode]
      rcases lt_trichotomy a b with hlt | rfl | hgt
      · simp [hlt, hlt.not_gt, hlt.ne']
      · simp
      · simp [hgt, hgt.not_gt, hgt.ne']

theorem precedes_trans (a b c : Text) (hab : a.precedes b = true) (hbc : b.precedes c = true) :
    a.precedes c = true := by
  rw [precedes_iff_not_lt, not_lt] at hab hbc ⊢
  exact le_trans hab hbc

theorem precedes_total (a b : Text) : (a.precedes b || b.precedes a) = true := by
  rw [Bool.or_eq_true, precedes_iff_not_lt, precedes_iff_not_lt, not_lt, not_lt]
  exact le_total a b

theorem lt_of_precedes {a b : Text} (h : a.precedes b = true) (hne : a ≠ b) : a < b := by
  rw [precedes_iff_not_lt, not_lt] at h
  exact lt_of_le_of_ne h hne

end Text

namespace RuleRegistry

open RuleEngine (key)

/-- The registry after the engines are registered one after the other. -/
def registerAll (r : RuleRegistry) (engines : List RuleEngine) : RuleRegistry :=
  engines.foldl register r

/-- The engine of a family that was registered last under the lower case of a language. -/
def lastRegistered? (engines : List RuleEngine) (family language : Text) : Option RuleEngine :=
  engines.findRev? fun e => e.family = family ∧ e.language.lower = language.lower

section Step

variable (r : RuleRegistry) (e : RuleEngine)

theorem find?_replace (engines : List RuleEngine) (k : Text × Text) :
    (engines.map fun old => if old.key = e.key then e else old).find? (·.key = k) =
      if e.key = k then (engines.find? (·.key = k)).map fun _ => e
      else engines.find? (·.key = k) := by
  induction engines with
  | nil => simp
  | cons old rest ih =>
    rw [List.map_cons, List.find?_cons, List.find?_cons, ih]
    by_cases hold : old.key = e.key
    · rw [if_pos hold, hold]
      by_cases hk : e.key = k <;> simp [hk]
    · rw [if_neg hold]
      by_cases hk : old.key = k
      · have he : e.key ≠ k := fun heq => hold (hk.trans heq.symm)
        simp [hk, he]
      · simp [hk]

/-- A registration is what its own key leads to, and changes nothing else. -/
theorem get?_register (family language : Text) :
    (r.register e).get? family language =
      if e.key = (family, language.lower) then some e else r.get? family language := by
  rw [register]
  split
  · rename_i hany
    rw [get?, find?_replace]
    by_cases hkey : e.key = (family, language.lower)
    · rw [if_pos hkey, if_pos hkey, ← hkey]
      have hfound : (r.engines.find? (·.key = e.key)).isSome = true := by
        rwa [List.find?_isSome, ← List.any_eq_true]
      obtain ⟨old, hold⟩ := Option.isSome_iff_exists.mp hfound
      rw [hold, Option.map_some]
    · rw [if_neg hkey, if_neg hkey, get?]
  · rename_i hnone
    rw [get?, List.find?_append, List.find?_singleton, ← get?]
    by_cases hkey : e.key = (family, language.lower)
    · have hmissing : r.get? family language = none := by
        rw [get?, ← hkey, List.find?_eq_none]
        exact List.any_eq_false.mp (Bool.eq_false_iff.mpr hnone)
      simp [hkey, hmissing]
    · simp [hkey]

theorem map_key_register :
    (r.register e).engines.map key =
      if e.key ∈ r.engines.map key then r.engines.map key else r.engines.map key ++ [e.key] := by
  have hmem : (r.engines.any (·.key = e.key)) = true ↔ e.key ∈ r.engines.map key := by
    simp
  rw [register]
  simp only [hmem]
  split
  · rw [List.map_map]
    refine List.map_congr_left fun old _ => ?_
    by_cases hold : old.key = e.key <;> simp [hold]
  · rw [List.map_append, List.map_singleton]

/-- No key is there twice. -/
theorem nodup_key_register (h : (r.engines.map key).Nodup) :
    ((r.register e).engines.map key).Nodup := by
  rw [map_key_register]
  split
  · exact h
  · rename_i hnew
    exact List.nodup_append.mpr ⟨h, by simp, by simpa using hnew⟩

end Step

section Run

/-- A registry without engines. -/
def empty : RuleRegistry := ⟨[]⟩

variable {r : RuleRegistry} {engines : List RuleEngine} {family language : Text}

theorem registerAll_concat (r : RuleRegistry) (engines : List RuleEngine) (e : RuleEngine) :
    r.registerAll (engines ++ [e]) = (r.registerAll engines).register e := by
  rw [registerAll, List.foldl_concat, registerAll]

theorem get?_registerAll (engines : List RuleEngine) (family language : Text) :
    (empty.registerAll engines).get? family language =
      lastRegistered? engines family language := by
  induction engines using List.reverseRecOn with
  | nil => rfl
  | append_singleton engines e ih =>
    rw [registerAll_concat, get?_register, ih, lastRegistered?, lastRegistered?,
      List.findRev?_eq_find?_reverse, List.findRev?_eq_find?_reverse, List.reverse_append,
      List.reverse_singleton, List.singleton_append, List.find?_cons]
    by_cases hkey : e.family = family ∧ e.language.lower = language.lower
    · simp [key, hkey]
    · simp [key, hkey]

theorem mem_map_key_registerAll {k : Text × Text} :
    k ∈ (empty.registerAll engines).engines.map key ↔ k ∈ engines.map key := by
  induction engines using List.reverseRecOn with
  | nil => rfl
  | append_singleton engines e ih =>
    rw [registerAll_concat, map_key_register, List.map_append, List.map_singleton, List.mem_append,
      ← ih, List.mem_singleton]
    split
    · rename_i hold
      constructor
      · exact Or.inl
      · rintro (hk | rfl)
        · exact hk
        · exact hold
    · rw [List.mem_append, List.mem_singleton]

theorem nodup_key_registerAll (engines : List RuleEngine) :
    ((empty.registerAll engines).engines.map key).Nodup := by
  induction engines using List.reverseRecOn with
  | nil => exact List.nodup_nil
  | append_singleton engines e ih =>
    rw [registerAll_concat]
    exact nodup_key_register _ e ih

/-- Engines with different keys are all there, in the order of their registration. -/
theorem registerAll_eq_of_nodup (h : (engines.map key).Nodup) :
    empty.registerAll engines = ⟨engines⟩ := by
  induction engines using List.reverseRecOn with
  | nil => rfl
  | append_singleton engines e ih =>
    rw [List.map_append, List.map_singleton, List.nodup_append] at h
    obtain ⟨hengines, -, hnew⟩ := h
    have hnone : (engines.any (·.key = e.key)) = false := by
      rw [List.any_eq_false]
      intro old hold hkey
      exact hnew old.key (List.mem_map_of_mem hold) e.key (List.mem_singleton_self _)
        (of_decide_eq_true hkey)
    rw [registerAll_concat, ih hengines, register, hnone, if_neg Bool.false_ne_true]

theorem mem_languages_iff : language ∈ r.languages family ↔
    (family, language) ∈ r.engines.map key := by
  simp only [languages, List.mem_mergeSort, List.mem_map, List.mem_filter, decide_eq_true_eq, key,
    Prod.mk.injEq, and_assoc]

theorem pairwise_languages (h : (r.engines.map key).Nodup) (family : Text) :
    (r.languages family).Pairwise (· < ·) := by
  have hsorted : (r.languages family).Pairwise fun a b => a.precedes b = true :=
    List.pairwise_mergeSort Text.precedes_trans Text.precedes_total _
  have hnodup : (r.languages family).Nodup := by
    rw [languages, (List.mergeSort_perm _ _).nodup_iff, List.Nodup, List.pairwise_map,
      List.pairwise_filter]
    refine (List.pairwise_map.mp h).imp ?_
    intro a b hne ha hb heq
    rw [decide_eq_true_eq] at ha hb
    exact hne (Prod.ext (ha.trans hb.symm) heq)
  exact (hsorted.and hnodup).imp fun h => Text.lt_of_precedes h.1 h.2

end Run

theorem nodup_key_builtIn : (builtIn.engines.map key).Nodup := by
  decide +kernel

theorem registerAll_builtIn (engines : List RuleEngine) :
    builtIn.registerAll engines = empty.registerAll (builtIn.engines ++ engines) := by
  have hbuiltIn : empty.registerAll builtIn.engines = builtIn :=
    registerAll_eq_of_nodup nodup_key_builtIn
  rw [registerAll] at hbuiltIn
  rw [registerAll, registerAll, List.foldl_append, hbuiltIn]

/-- What a registry answers after any registrations, the built-in engines being there from the
beginning. A family and a language have the engine that was registered for them last, however the
language is capitalized, and a registration for another family or language does not matter to them.
The languages of a family are in strictly increasing order those in lower case that an engine was
registered for, and each of them is found again. -/
theorem answers_registerAll (engines : List RuleEngine) :
    let r := builtIn.registerAll engines
    let history := builtIn.engines ++ engines
    (∀ family language, r.get? family language = lastRegistered? history family language) ∧
    (∀ e family language, (e.family, e.language.lower) ≠ (family, language.lower) →
      (r.register e).get? family language = r.get? family language) ∧
    ∀ family, (r.languages family).Pairwise (· < ·) ∧
      (∀ language, language ∈ r.languages family ↔
        ∃ e ∈ history, e.family = family ∧ e.language.lower = language) ∧
      ∀ language ∈ r.languages family, ∃ e, r.get? family language = some e ∧
        e.family = family ∧ e.language.lower = language := by
  intro r history
  have hr : r = empty.registerAll history := registerAll_builtIn engines
  have hget (family language : Text) :
      r.get? family language = lastRegistered? history family language := by
    rw [hr, get?_registerAll]
  have hlisted (family language : Text) : language ∈ r.languages family ↔
      ∃ e ∈ history, e.family = family ∧ e.language.lower = language := by
    rw [mem_languages_iff, hr, mem_map_key_registerAll, List.mem_map]
    simp only [key, Prod.mk.injEq]
  refine ⟨hget, ?others, ?languages⟩
  case others =>
    intro e family language hother
    rw [get?_register, key, if_neg hother]
  case languages =>
    intro family
    refine ⟨?_, hlisted family, ?_⟩
    · rw [hr]
      exact pairwise_languages (nodup_key_registerAll history) family
    · intro language hlanguage
      obtain ⟨e, he, rfl, rfl⟩ := (hlisted family language).mp hlanguage
      have hfound : (r.get? e.family e.language.lower).isSome = true := by
        rw [hget, lastRegistered?, List.findRev?_eq_find?_reverse, List.find?_isSome]
        exact ⟨e, List.mem_reverse.mpr he, by simp [Text.lower_lower]⟩
      obtain ⟨found, hfound⟩ := Option.isSome_iff_exists.mp hfound
      refine ⟨found, hfound, ?_⟩
      have hkey := List.find?_some hfound
      simpa [key, Text.lower_lower] using hkey

namespace Registering

/-- An engine for Python without rules. -/
def python : RuleEngine := ⟨performanceFamily, "PYTHON", [], 5⟩

/-- An engine of a family of its own. -/
def style : RuleEngine := ⟨"style", "Python", [], 5⟩

end Registering

open Registering in
/-- The engine takes the place of the built-in one, an engine of another family does not take its
place, and its language is listed in lower case. -/
theorem answers_registerAll_python :
    let r := builtIn.registerAll [python]
    r.get? performanceFamily "pYthon" = some python ∧
      (r.register style).get? performanceFamily "python" =
        r.get? performanceFamily "python" ∧
      ("python" : Text) ∈ r.languages performanceFamily ∧
      ∃ e, r.get? performanceFamily "python" = some e := by
  intro r
  obtain ⟨hget, hothers, hlanguages⟩ := answers_registerAll [python]
  obtain ⟨-, hlisted, hfound⟩ := hlanguages performanceFamily
  have hmem : ("python" : Text) ∈ r.languages performanceFamily :=
    (hlisted "python").mpr
      ⟨python, List.mem_append_right _ (List.mem_singleton_self _), rfl, by decide⟩
  obtain ⟨e, he, -⟩ := hfound "python" hmem
  refine ⟨(hget performanceFamily "pYthon").trans ?_, ?_, hmem, e, he⟩
  · rw [lastRegistered?, List.findRev?_eq_find?_reverse, List.reverse_append,
      List.reverse_singleton, List.singleton_append]
    exact List.find?_cons_of_pos (by decide)
  · exact hothers style performanceFamily "python" (by decide)

end RuleRegistry

end CodeGauge
