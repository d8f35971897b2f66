import CodeGauge.Lexicon.Kotlin
import CodeGauge.Proofs.Pattern.Found
import CodeGauge.Proofs.Pattern.Opening
import CodeGauge.Rule.Performance

/-!
Look-ups in loops, in units without a tree. Only the text from the first loop on is looked at, but
what is reported does not depend on this cut: a look-up is reported exactly when some loop begins
no later than it. The cut loses no look-up, since the first loop begins no later than any other, and
it makes none, since nothing that is looked for looks at what stands in front of it.
-/
namespace CodeGauge

namespace Lexicon

open Pattern

variable {lex : Lexicon}

/-- Whether a look-up on a repository, or one of the language's queries, begins at a place. -/
def LooksUpAt (lex : Lexicon) (c : Cursor) : Prop :=
  repositoryCall.matchesAt c = true ∨ ∃ marker ∈ lex.queryMarkers, marker <+: c.ahead

/-- Whether a loop begins in the text, and no earlier than it a look-up. -/
def LooksUpInLoop (lex : Lexicon) (text : Text) : Prop :=
  ∃ i j, i ≤ j ∧ j ≤ text.length ∧ lex.loopPattern.matchesAt (.ofIndex text i) = true ∧
    lex.LooksUpAt (.ofIndex text j)

/-- A look-up is one whatever stands in front of it. -/
theorem LooksUpAt.of_ahead_eq {c d : Cursor} (h : lex.LooksUpAt c) (hahead : c.ahead = d.ahead) :
    lex.LooksUpAt d := by
  rcases h with hcall | ⟨marker, hmarker, hoccurs⟩
  · exact Or.inl (matchesAt_of_isBlind rfl rfl hahead hcall)
  · exact Or.inr ⟨marker, hmarker, hahead ▸ hoccurs⟩

theorem looksUpAt_drop_iff {text : Text} {i j : Nat} :
    lex.LooksUpAt (.ofIndex (text.drop i) j) ↔ lex.LooksUpAt (.ofIndex text (i + j)) := by
  have hahead : (Cursor.ofIndex (text.drop i) j).ahead = (Cursor.ofIndex text (i + j)).ahead :=
    List.drop_drop
  exact ⟨fun h => h.of_ahead_eq hahead, fun h => h.of_ahead_eq hahead.symm⟩

/-- What is asked of the text of a loop is whether a look-up begins somewhere in it. -/
theorem exists_looksUpAt_iff {loop : Text} :
    (repositoryCall.foundIn loop || loop.containsAny lex.queryMarkers) = true ↔
      ∃ j ≤ loop.length, lex.LooksUpAt (.ofIndex loop j) := by
  rw [← Cursor.exists_passes_iff, Bool.or_eq_true_iff, foundIn_iff, Text.containsAny,
    List.any_eq_true]
  simp only [Text.occursIn_iff_infix]
  constructor
  · rintro (⟨word, c, hword, hcall⟩ | ⟨marker, hmarker, word, after, hoccurs⟩)
    · exact ⟨word, c, hword, Or.inl hcall⟩
    · refine ⟨word, ⟨word.reverse, marker ++ after⟩, ⟨?_, (List.append_nil _).symm⟩,
        Or.inr ⟨marker, hmarker, List.prefix_append marker after⟩⟩
      rw [Cursor.first, ← hoccurs, List.append_assoc]
  · rintro ⟨word, c, hword, hcall | ⟨marker, hmarker, after, hoccurs⟩⟩
    · exact Or.inl ⟨word, c, hword, hcall⟩
    · refine Or.inr ⟨marker, hmarker, word, after, ?_⟩
      rw [List.append_assoc, hoccurs]
      exact hword.1.symm

/-- The cut at the first loop neither loses nor makes a look-up in a loop. -/
theorem looksUpInLoop_iff {text : Text} : lex.LooksUpInLoop text ↔
    ∃ m, lex.loopPattern.search? text = some m ∧
      ∃ j ≤ m.start.ahead.length, lex.LooksUpAt (.ofIndex m.start.ahead j) := by
  constructor
  · rintro ⟨i, j, hij, hj, hloop, hlooks⟩
    have hfound : lex.loopPattern.foundIn text = true :=
      foundIn_iff.mpr ⟨_, _, Cursor.passes_ofIndex text i, hloop⟩
    obtain ⟨m, hsearch⟩ := Option.isSome_iff_exists.mp hfound
    obtain ⟨first, -, hstart, hleast⟩ := exists_isLeast_of_search? hsearch
    have hle : first ≤ j := (hleast.2 hloop).trans hij
    have hahead : m.start.ahead = text.drop first := congrArg Cursor.ahead hstart
    refine ⟨m, hsearch, j - first, ?inside, ?lookup⟩
    case inside =>
      rw [hahead, List.length_drop]
      exact Nat.sub_le_sub_right hj first
    case lookup =>
      rw [hahead, looksUpAt_drop_iff, Nat.add_sub_cancel' hle]
      exact hlooks
  · rintro ⟨m, hsearch, j, hj, hlooks⟩
    obtain ⟨first, hfirst, hstart, hleast⟩ := exists_isLeast_of_search? hsearch
    have hahead : m.start.ahead = text.drop first := congrArg Cursor.ahead hstart
    rw [hahead, List.length_drop] at hj
    rw [hahead, looksUpAt_drop_iff] at hlooks
    exact ⟨first, first + j, Nat.le_add_right first j, by omega, hleast.1, hlooks⟩

/-- In a unit without a tree a look-up is reported exactly when it begins no earlier than some loop
of the lower-cased text, wherever the other loops stand. -/
theorem nPlusOneQuery?_eq_some_iff (lex : Lexicon) {u : CodeUnit} (htree : u.tree = none)
    (issue : Issue) : lex.nPlusOneQuery? u = some issue ↔
      lex.LooksUpInLoop u.lowerText ∧
        issue = lex.issue .nPlusOneQuery .critical .nPlusOneQuery := by
  have hany : ((lex.loopTexts u).any fun loop =>
      repositoryCall.foundIn loop || loop.containsAny lex.queryMarkers) = true ↔
        lex.LooksUpInLoop u.lowerText := by
    rw [looksUpInLoop_iff, loopTexts, htree]
    cases lex.loopPattern.search? u.lowerText with
    | none => simp
    | some m =>
      simp only [List.any_cons, List.any_nil, Bool.or_false, exists_looksUpAt_iff,
        Option.some.injEq, exists_eq_left']
  rw [nPlusOneQuery?, Option.ite_none_right_eq_some, hany, Option.some.injEq, eq_comm (a := issue)]

namespace UserLookups

/-- A look-up in front of the only loop. -/
def early : CodeUnit where
  id := "early"
  language := "kotlin"
  text := "val first = userRepo.findById(0)\nids.forEach \x7b println(it) \x7d"

/-- Look-ups in front of the first loop and in the second one. -/
def late : CodeUnit where
  id := "late"
  language := "kotlin"
  text := "val first = userRepo.findById(0)\nids.forEach \x7b println(it) \x7d\n" ++
    "for (id in ids) \x7b\n  userRepo.findById(id)\n\x7d"

theorem looksUpInLoop_late : kotlin.LooksUpInLoop late.lowerText :=
  ⟨61, 85, by decide, by decide, by decide +kernel, Or.inl (by decide +kernel)⟩

theorem nPlusOneQuery?_early : kotlin.nPlusOneQuery? early = none := by
  decide +kernel

end UserLookups

open UserLookups in
theorem nPlusOneQuery?_eq_some_iff_of_users : early.tree = none ∧ late.tree = none ∧
    ¬kotlin.LooksUpInLoop early.lowerText ∧ kotlin.nPlusOneQuery? late =
      some (kotlin.issue .nPlusOneQuery .critical .nPlusOneQuery) := by
  refine ⟨rfl, rfl, ?early, (nPlusOneQuery?_eq_some_iff kotlin rfl _).mpr ⟨looksUpInLoop_late, rfl⟩⟩
  intro h
  have hissue := (nPlusOneQuery?_eq_some_iff kotlin rfl _).mpr ⟨h, rfl⟩
  exact absurd (nPlusOneQuery?_early.symm.trans hissue) nofun

end Lexicon

end CodeGauge
