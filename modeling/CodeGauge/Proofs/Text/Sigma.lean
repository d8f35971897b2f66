import CodeGauge.Text.Case
import Mathlib.Data.List.Infix

/-!
Lower case of a part of a text. Nothing but the shape of a sigma depends on what stands around it,
so up to that shape the lower case of a part is a part of the lower case of the whole. A word
without sigma that the former holds stands in the latter too.
-/
namespace CodeGauge

/-- The character, with the usual form of a sigma in place of the final one. -/
def unifySigma (c : Char) : Char :=
  if c = 'ς' then 'σ' else c

theorem unifySigma_of_ne {c : Char} (h : c ≠ 'ς') : unifySigma c = c :=
  if_neg h

/-- Whatever does not become a sigma stays what it is. -/
theorem unifySigma_eq_self {c : Char} (h : unifySigma c ≠ 'σ') : unifySigma c = c := by
  apply unifySigma_of_ne
  rintro rfl
  exact absurd rfl h

namespace Text

theorem map_unifySigma_lowerFrom (behind text : Text) :
    (lowerFrom behind text).map unifySigma = (text.flatMap lowerChar).map unifySigma := by
  induction text generalizing behind with
  | nil => rfl
  | cons c rest ih =>
    rw [lowerFrom, List.flatMap_cons, List.map_append, List.map_append, ih]
    split
    · rename_i hsigma
      have hboth : unifySigma 'ς' = 'σ' ∧ (lowerChar 'Σ').map unifySigma = [unifySigma 'σ'] := by
        decide +kernel
      rw [hsigma, hboth.2]
      split
      · rw [List.map_singleton, hboth.1, unifySigma_of_ne (by decide)]
      · rw [List.map_singleton]
    · rfl

/-- Up to the shape of its sigmas the lower case of a part is a part of the lower case. -/
theorem map_unifySigma_lower_infix {part text : Text} (h : part <:+: text) :
    part.lower.map unifySigma <:+: text.lower.map unifySigma := by
  simp only [lower, map_unifySigma_lowerFrom]
  exact (h.flatMap lowerChar).map unifySigma

theorem infix_of_infix_map_unifySigma {word text : Text} (hword : 'σ' ∉ word)
    (h : word <:+: text.map unifySigma) : word <:+: text := by
  obtain ⟨before, after, hcut⟩ := h
  obtain ⟨front, after', rfl, hfront, -⟩ := List.map_eq_append_iff.mp hcut.symm
  obtain ⟨before', word', rfl, -, hmap⟩ := List.map_eq_append_iff.mp hfront
  have hsame : ∀ c ∈ word', unifySigma c = c := by
    intro c hc
    have hmem : unifySigma c ∈ word := hmap ▸ List.mem_map_of_mem hc
    exact unifySigma_eq_self fun heq => hword (heq ▸ hmem)
  obtain rfl : word' = word := by rw [← hmap, List.map_congr_left hsame, List.map_id']
  exact ⟨before', after', rfl⟩

/-- A word without sigma that stands in the lower case of a part stands in that of the whole. -/
theorem infix_lower_of_infix {word part text : Text} (hword : 'σ' ∉ word ∧ 'ς' ∉ word)
    (hpart : part <:+: text) (h : word <:+: part.lower) : word <:+: text.lower := by
  have hsame : word.map unifySigma = word := by
    have hplain : ∀ c ∈ word, unifySigma c = c := fun c hc =>
      unifySigma_of_ne fun heq => hword.2 (heq ▸ hc)
    rw [List.map_congr_left hplain, List.map_id']
  apply infix_of_infix_map_unifySigma hword.1
  calc word
    _ = word.map unifySigma := hsame.symm
    _ <:+: part.lower.map unifySigma := h.map unifySigma
    _ <:+: text.lower.map unifySigma := map_unifySigma_lower_infix hpart

end Text

end CodeGauge
