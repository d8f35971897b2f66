import CodeGauge.Proofs.Pattern.Declaration

/-!
Comparisons with literals. Whatever a unit without a tree declares with a literal stands in its text
as an assignment: a name, maybe a type, an equals sign that is no part of a comparison, and the
literal behind it.
-/
namespace CodeGauge

namespace Declared

/-- Whether the equals sign neither ends a comparison nor begins one. -/
def IsSingle (d : Declared) : Prop :=
  (∃ c, d.head.getLast? = some c ∧ isOneOf "=!<>" c = false) ∧
    ∃ c, d.init.text.tail.head? = some c ∧ c ≠ '='

theorem head_ne_nil (d : Declared) : d.head ≠ [] :=
  List.append_ne_nil_of_left_ne_nil (ne_nil_of_isName d.name_isName) _

theorem isSingle_of_last {d : Declared}
    (h : ∀ c, d.head.getLast? = some c → isOneOf "=!<>" c = false) : d.IsSingle := by
  have hlast := List.getLast?_eq_some_getLast d.head_ne_nil
  refine ⟨⟨_, hlast, h _ hlast⟩, ?next⟩
  have hne : d.init.gap ++ d.init.quote :: (d.init.value ++ d.init.quote :: d.init.after) ≠ [] := by
    simp
  have hfirst := List.head?_eq_some_head hne
  exact ⟨_, hfirst, ne_equals_of_head?_eq d.init.gap_blank d.init.quote_mem hfirst⟩

end Declared

namespace CodeUnit

/-- What is declared with a literal is assigned in the text, by an equals sign that is no part of a
comparison. -/
theorem exists_declared_of_mem_literalDeclarations {u : CodeUnit} (htree : u.tree = none)
    {name value : Text} (h : (name, value) ∈ u.literalDeclarations) :
    ∃ (before : Text) (d : Declared), u.text = before ++ (d.head ++ d.init.text) ∧ d.name = name ∧
      d.init.value = value ∧ d.IsSingle := by
  simp only [literalDeclarations, htree] at h
  obtain ⟨m, hm, heq⟩ := List.mem_map.mp h
  obtain ⟨rfl, rfl⟩ := Prod.mk.inj heq
  obtain ⟨⟨before, hbefore⟩, hways⟩ := Pattern.finds_of_mem_findAll hm
  obtain ⟨d, hahead, hname, hvalue, hlast⟩ := Pattern.exists_declared_of_ways hways
  refine ⟨before, d, ?_, hname.symm, hvalue.symm, Declared.isSingle_of_last hlast⟩
  rw [← Declared.text, ← hahead]
  exact hbefore.1

namespace Compared

/-- A comparison in front of an assignment, and another one behind it. -/
def unit : CodeUnit where
  id := "u"
  language := "typescript"
  text := "if (mode == \"x\") token: string = 'abc'; return token !== \"def\""

theorem mem_literalDeclarations :
    ("token".toList, "abc".toList) ∈ unit.literalDeclarations := by
  decide +kernel

end Compared

open Compared in
theorem exists_declared_of_mem_literalDeclarations_of_compared :
    (unit.tree = none ∧ unit.literalDeclarations = [("token".toList, "abc".toList)]) ∧
      ∃ (before : Text) (d : Declared), unit.text = before ++ (d.head ++ d.init.text) ∧
        d.name = "token".toList ∧ d.init.value = "abc".toList ∧ d.IsSingle :=
  ⟨⟨rfl, by decide +kernel⟩, exists_declared_of_mem_literalDeclarations rfl mem_literalDeclarations⟩

end CodeUnit

end CodeGauge
