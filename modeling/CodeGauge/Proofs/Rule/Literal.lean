import CodeGauge.Proofs.Pattern.Closing
import CodeGauge.Proofs.Pattern.Quoted
import Mathlib.Data.List.Infix

/-!
The string literals of a unit without a tree. Where a text is code with string literals in it, and
no quote stands outside of them, the literals are found one after the other, each of them whole: a
quote of another kind inside a literal, an escaped quote or an empty literal never shifts the
others.
-/
namespace CodeGauge

open Pattern

/-- Code with string literals in it: the code in front of the first literal, and every literal with
the code behind it. -/
structure QuotedText where
  code : Text
  parts : List (StringLiteral × Text)
  code_plain : ∀ c ∈ code, c ∉ quotes
  parts_plain : ∀ part ∈ parts, ∀ c ∈ part.2, c ∉ quotes

namespace QuotedText

/-- A literal and the code behind it. -/
def partText (part : StringLiteral × Text) : Text :=
  part.1.text ++ part.2

def text (t : QuotedText) : Text :=
  t.code ++ t.parts.flatMap partText

/-- What stands between the quotes of each literal. -/
def bodies (t : QuotedText) : List Text :=
  t.parts.map (·.1.body)

end QuotedText

/-- What a match holds between its first and its last character. -/
def Match.inner (m : Match) : Text :=
  (m.text.drop 1).dropLast

namespace Pattern

/-- No literal begins without a quote. -/
theorem matchAt?_stringLiteral_eq_none {place : Cursor}
    (h : ∀ c, place.ahead.head? = some c → c ∉ quotes) : stringLiteral.matchAt? place = none := by
  cases hm : stringLiteral.matchAt? place with
  | none => rfl
  | some m =>
    obtain ⟨rfl, hways⟩ := ways_of_matchAt? hm
    obtain ⟨l, hpasses, -⟩ := ways_stringLiteral_iff.mp hways
    have hhead : m.start.ahead.head? = some l.quote := by
      rw [hpasses.1]
      rfl
    exact absurd l.quote_mem (h l.quote hhead)

theorem searchFrom_stringLiteral_append {code : Text} (hcode : ∀ c ∈ code, c ∉ quotes)
    (behind ahead : Text) : stringLiteral.searchFrom behind (code ++ ahead) =
      stringLiteral.searchFrom (code.reverse ++ behind) ahead := by
  apply searchFrom_append
  intro c hc behind rest
  apply matchAt?_stringLiteral_eq_none
  rintro x ⟨rfl⟩
  exact hcode c hc

/-- Where a literal stands, the match is that literal. -/
theorem exists_matchAt?_of_passes {l : StringLiteral} {place stop : Cursor}
    (h : place.Passes l.text stop) :
    ∃ m, stringLiteral.matchAt? place = some m ∧ m.stop = stop ∧ m.inner = l.body := by
  have hways : stringLiteral.Ways ⟨place, []⟩ ⟨stop, []⟩ := ways_stringLiteral_iff.mpr ⟨l, h, rfl⟩
  have hmatches : stringLiteral.matchesAt place = true := matchesAt_of_ways rfl hways
  obtain ⟨m, hm⟩ := Option.isSome_iff_exists.mp hmatches
  obtain ⟨rfl, hways'⟩ := ways_of_matchAt? hm
  obtain ⟨l', hpasses, -⟩ := ways_stringLiteral_iff.mp hways'
  have hsame : l'.text = l.text :=
    StringLiteral.text_eq_of_append_eq (hpasses.1.symm.trans h.1)
  rw [hsame] at hpasses
  have htext : m.text = l.text := hpasses.upTo_eq
  refine ⟨m, hm, hpasses.unique h, ?_⟩
  rw [Match.inner, htext, StringLiteral.text, List.drop_one, List.tail_cons, List.dropLast_concat]

/-- Behind the code in front of it a literal is the first match, and the other matches are those
behind it. -/
theorem map_inner_findAllFrom {code : Text} (hcode : ∀ c ∈ code, c ∉ quotes)
    {parts : List (StringLiteral × Text)} (hparts : ∀ part ∈ parts, ∀ c ∈ part.2, c ∉ quotes)
    (behind : Text) :
    (stringLiteral.findAllFrom 0 behind (code ++ parts.flatMap QuotedText.partText)).map
      Match.inner = parts.map (·.1.body) := by
  induction parts generalizing code behind with
  | nil =>
    have hnone : stringLiteral.searchFrom behind (code ++ []) = none := by
      rw [searchFrom_stringLiteral_append hcode]
      exact matchAt?_stringLiteral_eq_none nofun
    rw [List.flatMap_nil, findAllFrom_eq_nil hnone]
    rfl
  | cons part parts ih =>
    obtain ⟨l, code'⟩ := part
    obtain ⟨hcode', hparts⟩ := List.forall_mem_cons.mp hparts
    let after : Text := code' ++ parts.flatMap QuotedText.partText
    have hread : (⟨code.reverse ++ behind, l.text ++ after⟩ : Cursor).Passes l.text
        ⟨l.text.reverse ++ (code.reverse ++ behind), after⟩ := ⟨rfl, rfl⟩
    obtain ⟨m, hm, hstop, hinner⟩ := exists_matchAt?_of_passes hread
    have hsearch : stringLiteral.searchFrom behind (code ++ (l.text ++ after)) = some m := by
      rw [searchFrom_stringLiteral_append hcode]
      exact searchFrom_of_matchAt? hm
    rw [List.flatMap_cons, QuotedText.partText, List.append_assoc,
      findAllFrom_of_searchFrom rfl hsearch, hstop, List.map_cons, List.map_cons, hinner]
    exact congrArg (List.cons l.body) (ih hcode' hparts _)

end Pattern

namespace CodeUnit

variable {u : CodeUnit}

theorem stringLiterals_eq_map_inner (htree : u.tree = none) :
    u.stringLiterals = (stringLiteral.findAll u.text).map Match.inner := by
  rw [stringLiterals, htree]
  rfl

/-- A string literal is a part of the text. -/
theorem infix_text_of_mem_stringLiterals (htree : u.tree = none) {literal : Text}
    (h : literal ∈ u.stringLiterals) : literal <:+: u.text := by
  rw [stringLiterals_eq_map_inner htree] at h
  obtain ⟨m, hm, rfl⟩ := List.mem_map.mp h
  calc m.inner
    _ <:+: m.text.drop 1 := (List.dropLast_prefix _).isInfix
    _ <:+: m.text := (List.drop_suffix 1 m.text).isInfix
    _ <:+: u.text := (finds_of_mem_findAll hm).infix_text

/-- In a text that is code with string literals in it, exactly these literals are found, in their
order. -/
theorem stringLiterals_eq_bodies (t : QuotedText) (htree : u.tree = none)
    (htext : u.text = t.text) : u.stringLiterals = t.bodies := by
  rw [stringLiterals_eq_map_inner htree, htext]
  exact map_inner_findAllFrom t.code_plain t.parts_plain []

namespace Greeting

/-- A quote of another kind, and an escaped one. -/
def single : StringLiteral where
  quote := '\''
  pieces := [.plain 'i', .plain 't', .plain '"', .plain 's', .escaped '\'']
  quote_mem := by decide
  pieces_fit := by decide

def empty : StringLiteral where
  quote := '\''
  pieces := []
  quote_mem := by decide
  pieces_fit := by decide

/-- Two lines, and an escaped backslash in front of the closing quote. -/
def back : StringLiteral where
  quote := '\x60'
  pieces := [.plain 'a', .plain '\n', .plain '\'', .escaped '\\']
  quote_mem := by decide
  pieces_fit := by decide

def call : QuotedText where
  code := "say("
  parts := [(single, " + "), (back, []), (empty, ", \\"), (empty, ")")]
  code_plain := by simp [quotes]
  parts_plain := by simp [quotes]

def unit : CodeUnit where
  id := "u"
  language := "javascript"
  text := "say('it\"s\\'' + \x60a\n'\\\\\x60'', \\'')"

end Greeting

open Greeting in
theorem stringLiterals_eq_bodies_of_greeting : (unit.tree = none ∧ unit.text = call.text) ∧
    unit.stringLiterals = ["it\"s\\'".toList, "a\n'\\\\".toList, [], []] :=
  ⟨⟨rfl, by decide⟩, stringLiterals_eq_bodies call rfl (by decide)⟩

end CodeUnit

end CodeGauge
