import CodeGauge.Lexicon.Java
import CodeGauge.Proofs.Syntax.Place
import CodeGauge.Rule.Query

/-!
What the rules ask of a tree, as parts of its walk. The reading of the literals asks for the limit
in front of each one, that of the loops behind each find; both give the first ones of the walk, as
many as the limit allows.
-/
namespace CodeGauge

/-- Reading from number `index` on stops at the limit. -/
theorem CodeUnit.literalsFrom_eq_take (index : Nat) (ns : List SyntaxNode) :
    literalsFrom index ns = (ns.take (maxLiterals - index)).map fun n => n.label.value.getD [] := by
  induction ns generalizing index with
  | nil => rw [literalsFrom, List.take_nil, List.map_nil]
  | cons n rest ih =>
    rw [literalsFrom]
    by_cases hfull : maxLiterals ≤ index
    · rw [if_pos hfull, Nat.sub_eq_zero_of_le hfull, List.take_zero, List.map_nil]
    · obtain ⟨left, hleft⟩ : ∃ left, maxLiterals - index = left + 1 :=
        Nat.exists_eq_add_one.mpr (by omega)
      have hrest : maxLiterals - (index + 1) = left := by omega
      rw [if_neg hfull, ih, hrest, hleft, List.take_succ_cons, List.map_cons]

/-- While there are not enough, the texts of the next loops are added until there are. -/
theorem Lexicon.addLoopTexts_eq_take (lex : Lexicon) {limit : Nat} {found : List Text}
    (hlimit : found.length < limit) (ns : List SyntaxNode) :
    lex.addLoopTexts limit found ns =
      found ++ ((ns.filter lex.iterates).take (limit - found.length)).map (·.text.lower) := by
  induction ns generalizing found with
  | nil => rw [addLoopTexts, List.filter_nil, List.take_nil, List.map_nil, List.append_nil]
  | cons n rest ih =>
    rw [addLoopTexts]
    by_cases hloop : lex.iterates n = true
    · obtain ⟨left, hleft⟩ : ∃ left, limit - found.length = left + 1 :=
        Nat.exists_eq_add_one.mpr (by omega)
      have hlength : (found ++ [n.text.lower]).length = found.length + 1 := by
        rw [List.length_append, List.length_singleton]
      rw [if_pos hloop, List.filter_cons_of_pos hloop, hleft, List.take_succ_cons, List.map_cons]
      dsimp only
      split_ifs with henough
      · obtain rfl : left = 0 := by omega
        rw [List.take_zero, List.map_nil]
      · have hrest : limit - (found ++ [n.text.lower]).length = left := by omega
        rw [ih (by omega), hrest, List.append_assoc, List.singleton_append]
    · rw [if_neg hloop, List.filter_cons_of_neg hloop, ih hlimit]

namespace SyntaxNode

theorem kinds_contains_iff_isLoop (kind : NodeKind) :
    [NodeKind.forLoop, .forEach, .whileLoop, .doWhile].contains kind = kind.isLoop := by
  cases kind <;> rfl

/-- A walk meets every node of a tree once: the root, and then what the walks of its children meet,
from left to right, which is the order of the places of the nodes. The nodes of some kinds, the
loops and the calls are the parts of the walk that are of these kinds. The literals of a unit are
the contents of its first fifty strings, and the loops looked at are the first ones of the walk, as
many as wanted. -/
theorem walk_in_order (t : SyntaxNode) :
    (t.walk = t :: t.children.flatMap walk ∧
      ∃ places : List (List Nat), places.Pairwise (· < ·) ∧
        (∀ place, place ∈ places ↔ (t.at? place).isSome = true) ∧
        places.map t.at? = t.walk.map some) ∧
    ((∀ kinds : List NodeKind, t.findAll kinds = t.walk.filter (·.kind ∈ kinds)) ∧
      t.loops = t.walk.filter (·.isLoop) ∧
      t.calls = t.walk.filter (·.kind = .call)) ∧
    ∀ u : CodeUnit, u.tree = some t →
      u.stringLiterals =
        ((t.walk.filter (·.kind = .string)).take 50).map (fun n => n.label.value.getD []) ∧
      ∀ (lex : Lexicon) (limit : Nat), 1 ≤ limit →
        lex.loopTexts u limit =
          ((t.walk.filter fun n =>
              n.isLoop ∨ n.kind = .call ∧ n.name ∈ lex.iterationCalls).take limit).map
            (·.text.lower) := by
  refine ⟨⟨walk_eq_cons t, t.places, pairwise_places t, fun _ => mem_places_iff,
    map_at?_places_eq_walk t⟩, ⟨?kinds, ?loops, ?calls⟩, ?queries⟩
  case kinds =>
    intro kinds
    rw [findAll]
    exact List.filter_congr fun n _ => List.contains_eq_mem n.kind kinds
  case loops =>
    rw [loops, findAll]
    exact List.filter_congr fun n _ => kinds_contains_iff_isLoop n.kind
  case calls =>
    rw [calls, findAll]
    exact List.filter_congr fun n _ => by simp
  case queries =>
    intro u htree
    have hstrings : t.findAll [.string] = t.walk.filter (·.kind = .string) :=
      List.filter_congr fun n _ => by simp
    constructor
    · rw [CodeUnit.stringLiterals, htree, ← hstrings]
      exact CodeUnit.literalsFrom_eq_take 0 _
    · intro lex limit hlimit
      have hloops : t.walk.filter lex.iterates = t.walk.filter fun n =>
          n.isLoop ∨ n.kind = .call ∧ n.name ∈ lex.iterationCalls :=
        List.filter_congr fun n _ => by simp [Lexicon.iterates]
      rw [Lexicon.loopTexts, htree, ← hloops]
      exact lex.addLoopTexts_eq_take hlimit _

namespace ManyStrings

def string (value : Option Text) : SyntaxNode :=
  .node { kind := .string, value } []

/-- A loop inside a call that runs over a collection, a second loop, and fifty-one strings, the
first without content. -/
def tree : SyntaxNode :=
  .node { kind := .function }
    (.node { kind := .call, text := "XS.forEach", name := "forEach" }
        [.node { kind := .forLoop, text := "For" } [string none]] ::
      .node { kind := .whileLoop, text := "While" } [] :: List.replicate 50 (string (some ['s'])))

def unit : CodeUnit where
  id := "u"
  language := "java"
  text := []
  tree := some tree

end ManyStrings

open ManyStrings in
/-- The last string and the last loop are one too many. -/
theorem walk_in_order_of_many_strings : (unit.tree = some tree ∧ 1 ≤ 2) ∧
    unit.stringLiterals = [] :: List.replicate 49 ['s'] ∧
    Lexicon.java.loopTexts unit (2 : Nat) = ["xs.foreach".toList, "for".toList] := by
  have hlimit : 1 ≤ 2 := by decide
  obtain ⟨-, -, hqueries⟩ := walk_in_order tree
  obtain ⟨hliterals, hloops⟩ := hqueries unit rfl
  refine ⟨⟨rfl, hlimit⟩, ?_, ?_⟩
  · rw [hliterals]
    decide +kernel
  · rw [hloops Lexicon.java 2 hlimit]
    decide +kernel

end SyntaxNode

end CodeGauge
