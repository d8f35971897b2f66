import CodeGauge.FrontEnd.Registry
import Mathlib.Data.List.Induction

/-!
A registry of front ends under any sequence of calls. Its answers can be told from the history of
the calls alone: the front end registered last when a language is first asked for is the one that
the language has from then on, and the languages are listed by their first registration.
-/
namespace CodeGauge

/-- What is given out of an instance: nothing when its parser could not be built. -/
def FrontEnd.ifAvailable (f : FrontEnd) : Option FrontEnd :=
  if f.isAvailable then some f else none

namespace FrontEndRegistry

/-- A call that may change a registry. -/
inductive Call where
  | register (spelling : Text) (f : FrontEnd)
  | get (spelling : Text)

namespace Call

/-- The front end that a call registers for a normalized language. -/
def registered? (language : Text) : Call → Option FrontEnd
  | register spelling f => if Language.normalize spelling = language then some f else none
  | get _ => none

/-- The normalized language that a call registers a front end for. -/
def registeredLanguage? : Call → Option Text
  | register spelling _ => some (Language.normalize spelling)
  | get _ => none

/-- Whether a call asks for the front end of a normalized language. -/
def asksFor (language : Text) : Call → Bool
  | register _ _ => false
  | get spelling => Language.normalize spelling = language

end Call

/-- The front end that was registered last for a normalized language. -/
def lastRegistered? (calls : List Call) (language : Text) : Option FrontEnd :=
  calls.reverse.findSome? (Call.registered? language)

/-- The normalized languages in the order of the calls that register a front end for them. -/
def registeredLanguages (calls : List Call) : List Text :=
  calls.filterMap Call.registeredLanguage?

/-- Nobody has asked for a normalized language since a front end was registered for it. -/
def IsUnasked (calls : List Call) (language : Text) : Prop :=
  ∀ earlier call later, calls = earlier ++ call :: later → call.asksFor language = true →
    lastRegistered? earlier language = none

section History

variable (calls : List Call) (call : Call) (language : Text)

theorem lastRegistered?_append (later : List Call) :
    lastRegistered? (calls ++ later) language =
      (lastRegistered? later language).or (lastRegistered? calls language) := by
  rw [lastRegistered?, List.reverse_append, List.findSome?_append, lastRegistered?, lastRegistered?]

theorem lastRegistered?_concat :
    lastRegistered? (calls ++ [call]) language =
      (call.registered? language).or (lastRegistered? calls language) := by
  rw [lastRegistered?_append]
  congr 1
  simp [lastRegistered?]

variable {calls language}

/-- What was never registered can be asked for in vain only. -/
theorem isUnasked_of_lastRegistered?_eq_none (h : lastRegistered? calls language = none) :
    IsUnasked calls language := by
  rintro earlier call later rfl -
  rw [lastRegistered?_append, Option.or_eq_none_iff] at h
  exact h.2

theorem isUnasked_concat_iff {call : Call} :
    IsUnasked (calls ++ [call]) language ↔ IsUnasked calls language ∧
      (call.asksFor language = true → lastRegistered? calls language = none) := by
  constructor
  · intro h
    refine ⟨?_, h calls call [] rfl⟩
    rintro earlier asking later rfl hasks
    exact h earlier asking (later ++ [call]) (by simp) hasks
  · rintro ⟨hcalls, hcall⟩ earlier asking later heq hasks
    rcases List.eq_nil_or_concat later with rfl | ⟨later, last, rfl⟩
    · obtain ⟨rfl, hlast⟩ := List.append_inj' heq rfl
      obtain rfl := List.singleton_inj.mp hlast
      exact hcall hasks
    · rw [List.concat_eq_append, ← List.cons_append, ← List.append_assoc] at heq
      exact hcalls earlier asking later (List.append_inj' heq rfl).1 hasks

end History

/-- The registry after a call. -/
def after (r : FrontEndRegistry) : Call → FrontEndRegistry
  | .register spelling f => r.register spelling f
  | .get spelling => (r.get spelling).2

/-- The registry after a sequence of calls. -/
def run (r : FrontEndRegistry) (calls : List Call) : FrontEndRegistry :=
  calls.foldl after r

/-- A registry in which nothing is registered. -/
def empty : FrontEndRegistry := ⟨[], []⟩

section Step

variable (r : FrontEndRegistry) (language : Text)

theorem run_append (calls later : List Call) :
    r.run (calls ++ later) = (r.run calls).run later := by
  rw [run, List.foldl_append, run, run]

theorem run_concat (calls : List Call) (call : Call) :
    r.run (calls ++ [call]) = (r.run calls).after call := by
  rw [run_append]
  rfl

theorem lookup_cons_eq (key : Text) (f : FrontEnd) (rest : List (Text × FrontEnd)) :
    ((key, f) :: rest).lookup language =
      if language = key then some f else rest.lookup language := by
  rw [List.lookup_cons]
  by_cases h : language = key
  · rw [if_pos h, beq_iff_eq.mpr h]
  · rw [if_neg h, beq_false_of_ne h]

/-- Looking up in a table in which a language has got another front end. -/
theorem lookup_replace (entries : List (Text × FrontEnd)) (replaced : Text) (f : FrontEnd) :
    (entries.map fun entry => if entry.1 = replaced then (replaced, f) else entry).lookup language =
      if language = replaced then (entries.lookup language).map fun _ => f
      else entries.lookup language := by
  induction entries with
  | nil => simp
  | cons entry rest ih =>
    obtain ⟨key, old⟩ := entry
    rw [List.map_cons, lookup_cons_eq]
    by_cases hkey : key = replaced
    · subst hkey
      rw [if_pos rfl, lookup_cons_eq, ih]
      by_cases hlanguage : language = key <;> simp [hlanguage]
    · rw [if_neg hkey, lookup_cons_eq, ih]
      by_cases hlanguage : language = key
      · simp [hlanguage, hkey]
      · simp [hlanguage]

theorem lookup_registered_register (spelling : Text) (f : FrontEnd) :
    (r.register spelling f).registered.lookup language =
      if Language.normalize spelling = language then some f else r.registered.lookup language := by
  simp only [register]
  by_cases hsame : Language.normalize spelling = language
  · subst hsame
    rw [if_pos rfl]
    cases hlookup : r.registered.lookup (Language.normalize spelling) with
    | none => simp [List.lookup_append, hlookup]
    | some old => simp [lookup_replace, hlookup]
  · rw [if_neg hsame]
    have hother : language ≠ Language.normalize spelling := Ne.symm hsame
    split
    · rw [lookup_replace, if_neg hother]
    · rw [List.lookup_append, lookup_cons_eq, if_neg hother, List.lookup_nil, Option.or_none]

theorem supportedLanguages_register (spelling : Text) (f : FrontEnd) :
    (r.register spelling f).supportedLanguages =
      if Language.normalize spelling ∈ r.supportedLanguages then r.supportedLanguages
      else r.supportedLanguages ++ [Language.normalize spelling] := by
  have hmem : (r.registered.lookup (Language.normalize spelling)).isSome = true ↔
      Language.normalize spelling ∈ r.supportedLanguages := by
    rw [List.lookup_isSome_iff, supportedLanguages, List.mem_map]
    refine exists_congr fun entry => and_congr_right fun _ => ?_
    rw [beq_iff_eq, eq_comm]
  simp only [register, hmem]
  split
  · simp only [supportedLanguages, List.map_map]
    refine List.map_congr_left fun entry _ => ?_
    by_cases hkey : entry.1 = Language.normalize spelling
    · simp [hkey]
    · simp [hkey]
  · simp only [supportedLanguages, List.map_append, List.map_cons, List.map_nil]

variable {r language}

theorem get_eq_of_instance {spelling : Text} {f : FrontEnd}
    (h : r.instances.lookup (Language.normalize spelling) = some f) :
    r.get spelling = (f.ifAvailable, r) := by
  simp only [get, h, FrontEnd.ifAvailable]

/-- Asked for the first time, a front end is instantiated. -/
theorem get_eq_of_registered {spelling : Text} {f : FrontEnd}
    (hinstance : r.instances.lookup (Language.normalize spelling) = none)
    (h : r.registered.lookup (Language.normalize spelling) = some f) :
    r.get spelling = (f.ifAvailable,
      { r with instances := r.instances ++ [(Language.normalize spelling, f)] }) := by
  simp only [get, hinstance, h, FrontEnd.ifAvailable]

theorem get_eq_of_unregistered {spelling : Text}
    (hinstance : r.instances.lookup (Language.normalize spelling) = none)
    (h : r.registered.lookup (Language.normalize spelling) = none) :
    r.get spelling = (none, r) := by
  simp only [get, hinstance, h]

/-- Asking leaves what is registered as it is. -/
theorem registered_get (r : FrontEndRegistry) (spelling : Text) :
    (r.get spelling).2.registered = r.registered := by
  cases hinstance : r.instances.lookup (Language.normalize spelling) with
  | some f => rw [get_eq_of_instance hinstance]
  | none =>
    cases h : r.registered.lookup (Language.normalize spelling) with
    | some f => rw [get_eq_of_registered hinstance h]
    | none => rw [get_eq_of_unregistered hinstance h]

theorem instances_register (r : FrontEndRegistry) (spelling : Text) (f : FrontEnd) :
    (r.register spelling f).instances = r.instances := by
  simp only [register]
  split
  · rfl
  · rfl

theorem lookup_registered_after (r : FrontEndRegistry) (language : Text) (call : Call) :
    (r.after call).registered.lookup language =
      (call.registered? language).or (r.registered.lookup language) := by
  cases call with
  | register spelling f =>
    rw [after, lookup_registered_register, Call.registered?]
    split
    · rfl
    · rfl
  | get spelling => rw [after, registered_get, Call.registered?, Option.none_or]

/-- No call takes an instance away or puts another in its place, and only asking for a language
instantiates its front end. -/
theorem lookup_instances_after (r : FrontEndRegistry) (language : Text) (call : Call) :
    (r.after call).instances.lookup language = (r.instances.lookup language).or
      (if call.asksFor language then r.registered.lookup language else none) := by
  cases call with
  | register spelling f =>
    rw [after, instances_register, Call.asksFor, if_neg Bool.false_ne_true, Option.or_none]
  | get spelling =>
    simp only [after, Call.asksFor, decide_eq_true_eq]
    by_cases hsame : Language.normalize spelling = language
    · subst hsame
      rw [if_pos rfl]
      cases hinstance : r.instances.lookup (Language.normalize spelling) with
      | some f => rw [get_eq_of_instance hinstance, hinstance, Option.some_or]
      | none =>
        cases hregistered : r.registered.lookup (Language.normalize spelling) with
        | none => rw [get_eq_of_unregistered hinstance hregistered, hinstance, Option.none_or]
        | some f =>
          rw [get_eq_of_registered hinstance hregistered, List.lookup_append, hinstance,
            Option.none_or, Option.none_or, lookup_cons_eq, if_pos rfl]
    · rw [if_neg hsame, Option.or_none]
      cases hinstance : r.instances.lookup (Language.normalize spelling) with
      | some f => rw [get_eq_of_instance hinstance]
      | none =>
        cases hregistered : r.registered.lookup (Language.normalize spelling) with
        | none => rw [get_eq_of_unregistered hinstance hregistered]
        | some f =>
          rw [get_eq_of_registered hinstance hregistered, List.lookup_append, lookup_cons_eq,
            if_neg (Ne.symm hsame), List.lookup_nil, Option.or_none]

end Step

section Run

variable {r : FrontEndRegistry} {language : Text}

theorem lookup_instances_run {f : FrontEnd} (h : r.instances.lookup language = some f)
    (calls : List Call) : (r.run calls).instances.lookup language = some f := by
  induction calls using List.reverseRecOn with
  | nil => exact h
  | append_singleton calls call ih =>
    rw [run_concat, lookup_instances_after, ih, Option.some_or]

theorem lookup_registered_run (calls : List Call) (language : Text) :
    (empty.run calls).registered.lookup language = lastRegistered? calls language := by
  induction calls using List.reverseRecOn with
  | nil => rfl
  | append_singleton calls call ih =>
    rw [run_concat, lookup_registered_after, ih, lastRegistered?_concat]

theorem lookup_instances_run_eq_none {calls : List Call} (h : IsUnasked calls language) :
    (empty.run calls).instances.lookup language = none := by
  induction calls using List.reverseRecOn with
  | nil => rfl
  | append_singleton calls call ih =>
    obtain ⟨hcalls, hcall⟩ := isUnasked_concat_iff.mp h
    rw [run_concat, lookup_instances_after, ih hcalls, Option.none_or]
    split
    · rename_i hasks
      rw [lookup_registered_run]
      exact hcall hasks
    · rfl

theorem supportedLanguages_run (calls : List Call) :
    (empty.run calls).supportedLanguages = (registeredLanguages calls).eraseDups := by
  induction calls using List.reverseRecOn with
  | nil => rfl
  | append_singleton calls call ih =>
    rw [run_concat, registeredLanguages, List.filterMap_append, ← registeredLanguages,
      List.eraseDups_append, ← ih]
    cases call with
    | register spelling f =>
      have hmem : Language.normalize spelling ∈ (empty.run calls).supportedLanguages ↔
          Language.normalize spelling ∈ registeredLanguages calls := by
        rw [ih, List.mem_eraseDups]
      have hlanguage : [Call.register spelling f].filterMap Call.registeredLanguage? =
          [Language.normalize spelling] := rfl
      rw [after, supportedLanguages_register, hlanguage]
      split
      · rename_i hold
        simp [List.removeAll, hmem.mp hold]
      · rename_i hnew
        simp [List.removeAll, mt hmem.mpr hnew, List.eraseDups_cons]
    | get spelling =>
      have hlanguage : [Call.get spelling].filterMap Call.registeredLanguage? = [] := rfl
      rw [after, supportedLanguages, registered_get, ← supportedLanguages, hlanguage]
      exact (List.append_nil _).symm

end Run

/-- The calls that lead to a registry with all grammars: each is registered, and then asked for. -/
def opening (parsers : Grammar → Option Parser) : List Call :=
  let grammars := [Grammar.java, .javascript, .python]
  (grammars.map fun g => .register g.language ⟨g, parsers g⟩) ++ grammars.map (.get ·.language)

theorem ofParsers_eq_run (parsers : Grammar → Option Parser) :
    ofParsers parsers = empty.run (opening parsers) :=
  rfl

theorem lookup_instances_ofParsers (parsers : Grammar → Option Parser) (g : Grammar) :
    (ofParsers parsers).instances.lookup g.language = some ⟨g, parsers g⟩ := by
  cases g <;> rfl

/-- What a registry answers after any calls, given that all grammars are registered and instantiated
at the beginning. An answer depends on the normalized language only. The first call that asks for a
language after a front end was registered for it, the last one so far, gets that front end, and so
does every later one; nothing is given out when its parser could not be built. So the grammars keep
the front ends of the beginning. Asking for a language that was never registered changes nothing.
The languages are listed once each, by their first registration. -/
theorem get_run (parsers : Grammar → Option Parser) (calls : List Call) :
    let r := (ofParsers parsers).run calls
    let history := opening parsers ++ calls
    (∀ spelling spelling', Language.normalize spelling = Language.normalize spelling' →
      r.get spelling = r.get spelling') ∧
    (∀ spelling f, IsUnasked history (Language.normalize spelling) →
      lastRegistered? history (Language.normalize spelling) = some f →
        (r.get spelling).1 = f.ifAvailable ∧
        ∀ later spelling', Language.normalize spelling' = Language.normalize spelling →
          let r' := (r.after (.get spelling)).run later
          r'.get spelling' = (f.ifAvailable, r')) ∧
    (∀ (g : Grammar) spelling, Language.normalize spelling = g.language →
      r.get spelling = (FrontEnd.ifAvailable ⟨g, parsers g⟩, r)) ∧
    (∀ spelling, lastRegistered? history (Language.normalize spelling) = none →
      r.get spelling = (none, r)) ∧
    r.supportedLanguages = (registeredLanguages history).eraseDups := by
  intro r history
  have hr : r = empty.run history := by rw [run_append, ← ofParsers_eq_run]
  have hregistered (language : Text) :
      r.registered.lookup language = lastRegistered? history language := by
    rw [hr, lookup_registered_run]
  have hinstances {language : Text} (h : IsUnasked history language) :
      r.instances.lookup language = none := by
    rw [hr, lookup_instances_run_eq_none h]
  refine ⟨?spelling, ?first, ?grammars, ?unregistered, ?listed⟩
  case spelling =>
    intro spelling spelling' h
    simp only [get, h]
  case first =>
    intro spelling f hunasked hlast
    have hnone := hinstances hunasked
    have hfound := (hregistered _).trans hlast
    refine ⟨by rw [get_eq_of_registered hnone hfound], ?_⟩
    intro later spelling' hsame r'
    apply get_eq_of_instance
    rw [hsame]
    apply lookup_instances_run
    rw [lookup_instances_after, hnone, Option.none_or, Call.asksFor, if_pos (decide_eq_true rfl),
      hfound]
  case grammars =>
    intro g spelling hlanguage
    apply get_eq_of_instance
    rw [hlanguage]
    exact lookup_instances_run (lookup_instances_ofParsers parsers g) calls
  case unregistered =>
    intro spelling hlast
    apply get_eq_of_unregistered
    · exact hinstances (isUnasked_of_lastRegistered?_eq_none hlast)
    · rw [hregistered, hlast]
  case listed => rw [hr, supportedLanguages_run]

namespace Registering

/-- A front end whose parser could not be built. -/
def broken : FrontEnd := ⟨.java, none⟩

def working : FrontEnd := ⟨.java, some fun _ => none⟩

/-- Somebody asks too early, and then two front ends are registered for one language. -/
def calls : List Call :=
  [.get "ts", .register "TypeScript" working, .register "ts" broken]

def parsers : Grammar → Option Parser :=
  fun _ => none

/-- The registry after the first call that gets a front end for the language. -/
def asked : FrontEndRegistry :=
  ((ofParsers parsers).run calls).after (.get " TS")

theorem isUnasked_calls : IsUnasked (opening parsers ++ calls) "typescript" := by
  have hearly : IsUnasked (opening parsers ++ [.get "ts"]) "typescript" :=
    isUnasked_of_lastRegistered?_eq_none rfl
  have hfirst := isUnasked_concat_iff.mpr
    ⟨hearly, fun hasks => absurd hasks (by decide : ¬(Call.register "TypeScript" working).asksFor
      "typescript" = true)⟩
  exact isUnasked_concat_iff.mpr
    ⟨hfirst, fun hasks => absurd hasks (by decide : ¬(Call.register "ts" broken).asksFor
      "typescript" = true)⟩

end Registering

open Registering in
/-- The later of the two is instantiated, and it stays although it is broken and one that works
follows. -/
theorem get_run_of_broken :
    IsUnasked (opening parsers ++ calls) "typescript" ∧
      (((ofParsers parsers).run calls).get " TS").1 = none ∧
      (asked.run [.register "ts" working]).get "TypeScript" =
        (none, asked.run [.register "ts" working]) := by
  have hnormal : Language.normalize " TS" = ("typescript" : Text) := by decide
  obtain ⟨-, hfirst, -⟩ := get_run parsers calls
  obtain ⟨hnow, hlater⟩ := hfirst " TS" broken (hnormal ▸ isUnasked_calls) (by rw [hnormal]; rfl)
  refine ⟨isUnasked_calls, hnow, ?_⟩
  exact hlater [.register "ts" working] "TypeScript" (by decide)

end FrontEndRegistry

end CodeGauge
