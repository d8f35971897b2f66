import CodeGauge.Proofs.Block.Extent
import Mathlib.Data.List.Infix

/-!
Blocks in braces. Behind an opening brace the scan counts how many braces are open and stops where
none is left. The block is then the shortest balanced beginning of the text: in every shorter one
some brace is still open. Where there is no block, no beginning of the text is balanced.
-/
namespace CodeGauge

/-- As many closing braces as opening ones, and at least one of each. -/
def IsBalanced (text : Text) : Prop :=
  text.count '\x7d' = text.count '\x7b' ∧ 0 < text.count '\x7b'

instance (text : Text) : Decidable (IsBalanced text) :=
  inferInstanceAs (Decidable (_ ∧ _))

/-- Some of `depth` open braces, or of those that the text opens, is still open behind it. -/
def StaysOpen (depth : Nat) (text : Text) : Prop :=
  text.count '\x7d' < text.count '\x7b' + depth

/-- The number of braces that are open behind a character. -/
def openBehind (depth : Nat) (c : Char) : Nat :=
  if c = '\x7b' then depth + 1 else if c = '\x7d' then depth - 1 else depth

section Step

variable {depth : Nat} {c : Char} {text : Text}

/-- Unless the character closes the last brace, it only changes how many are open. -/
theorem count_cons_openBehind (text : Text) (h : ¬(c = '\x7d' ∧ depth ≤ 1)) :
    (c :: text).count '\x7b' + depth + text.count '\x7d' =
      text.count '\x7b' + openBehind depth c + (c :: text).count '\x7d' := by
  rw [openBehind]
  by_cases hopen : c = '\x7b'
  · subst hopen
    rw [List.count_cons_self, List.count_cons_of_ne (by decide), if_pos rfl]
    omega
  · by_cases hclose : c = '\x7d'
    · subst hclose
      have hdepth : 1 < depth := Nat.lt_of_not_le fun hle => h ⟨rfl, hle⟩
      rw [List.count_cons_self, List.count_cons_of_ne hopen, if_neg hopen, if_pos rfl]
      omega
    · rw [List.count_cons_of_ne hopen, List.count_cons_of_ne hclose, if_neg hopen, if_neg hclose]

theorem staysOpen_cons_iff (h : ¬(c = '\x7d' ∧ depth ≤ 1)) :
    StaysOpen depth (c :: text) ↔ StaysOpen (openBehind depth c) text := by
  have hcount := count_cons_openBehind text h
  simp only [StaysOpen]
  omega

theorem openBehind_pos (hdepth : 0 < depth) (h : ¬(c = '\x7d' ∧ depth ≤ 1)) :
    0 < openBehind depth c := by
  rw [openBehind]
  split_ifs with hopen hclose
  · exact Nat.succ_pos depth
  · have : 1 < depth := Nat.lt_of_not_le fun hle => h ⟨hclose, hle⟩
    omega
  · exact hdepth

theorem closeBraces_cons (h : ¬(c = '\x7d' ∧ depth ≤ 1)) :
    closeBraces depth (c :: text) = (closeBraces (openBehind depth c) text).map (c :: ·) := by
  rw [closeBraces, if_neg h, ← openBehind]
  dsimp only
  cases closeBraces (openBehind depth c) text <;> rfl

theorem staysOpen_nil (hdepth : 0 < depth) : StaysOpen depth [] :=
  Nat.lt_of_lt_of_le hdepth (Nat.le_add_left _ _)

end Step

/-- The text closes all of `depth` open braces, and no shorter beginning of it does. -/
structure Closes (depth : Nat) (body : Text) : Prop where
  even : body.count '\x7d' = body.count '\x7b' + depth
  staysOpen : ∀ p, p <+: body → p ≠ body → StaysOpen depth p

/-- What the scan takes closes the open braces. -/
theorem closes_of_closeBraces {depth : Nat} (hdepth : 0 < depth) {text body : Text}
    (h : closeBraces depth text = some body) : body <+: text ∧ Closes depth body := by
  induction text generalizing depth body with
  | nil => exact absurd h (by simp [closeBraces])
  | cons c rest ih =>
    by_cases hclosed : c = '\x7d' ∧ depth ≤ 1
    · rw [closeBraces, if_pos hclosed] at h
      obtain rfl := Option.some.inj h
      obtain ⟨rfl, hle⟩ := hclosed
      obtain rfl : depth = 1 := Nat.le_antisymm hle hdepth
      refine ⟨⟨rest, rfl⟩, rfl, ?_⟩
      intro p hp hne
      rcases List.prefix_cons_iff.mp hp with rfl | ⟨q, rfl, hq⟩
      · exact staysOpen_nil hdepth
      · exact absurd (by rw [List.prefix_nil.mp hq]) hne
    · rw [closeBraces_cons hclosed] at h
      obtain ⟨inner, hinner, rfl⟩ := Option.map_eq_some_iff.mp h
      obtain ⟨hbegins, heven, hopen⟩ := ih (openBehind_pos hdepth hclosed) hinner
      refine ⟨(List.prefix_cons_inj c).mpr hbegins, ?_, ?_⟩
      · have hcount := count_cons_openBehind inner hclosed
        omega
      · intro p hp hne
        rcases List.prefix_cons_iff.mp hp with rfl | ⟨q, rfl, hq⟩
        · exact staysOpen_nil hdepth
        · rw [staysOpen_cons_iff hclosed]
          exact hopen q hq fun hq => hne (congrArg (List.cons c) hq)

/-- Where the scan finds no end, a brace stays open however far the text is read. -/
theorem staysOpen_of_closeBraces {depth : Nat} (hdepth : 0 < depth) {text : Text}
    (h : closeBraces depth text = none) {p : Text} (hp : p <+: text) : StaysOpen depth p := by
  induction text generalizing depth p with
  | nil => exact List.prefix_nil.mp hp ▸ staysOpen_nil hdepth
  | cons c rest ih =>
    by_cases hclosed : c = '\x7d' ∧ depth ≤ 1
    · rw [closeBraces, if_pos hclosed] at h
      exact absurd h (Option.some_ne_none _)
    · rw [closeBraces_cons hclosed, Option.map_eq_none_iff] at h
      rcases List.prefix_cons_iff.mp hp with rfl | ⟨q, rfl, hq⟩
      · exact staysOpen_nil hdepth
      · rw [staysOpen_cons_iff hclosed]
        exact ih (openBehind_pos hdepth hclosed) h hq

theorem bracedBlock?_brace (rest : Text) :
    bracedBlock? ('\x7b' :: rest) = (closeBraces 1 rest).map ('\x7b' :: ·) := by
  rw [bracedBlock?, if_pos rfl]
  cases closeBraces 1 rest <;> rfl

theorem head?_of_bracedBlock? {text block : Text} (h : bracedBlock? text = some block) :
    text.head? = some '\x7b' := by
  cases text with
  | nil => exact absurd h (by simp [bracedBlock?])
  | cons c rest =>
    by_cases hc : c = '\x7b'
    · exact congrArg some hc
    · rw [bracedBlock?, if_neg hc] at h
      exact absurd h (Option.some_ne_none _).symm

/-- The opening brace in front makes what stays open behind it unbalanced. -/
theorem count_lt_of_staysOpen {p : Text} (h : StaysOpen 1 p) :
    ('\x7b' :: p).count '\x7d' < ('\x7b' :: p).count '\x7b' := by
  simpa [StaysOpen, List.count_cons] using h

theorem isBalanced_of_closes {body : Text} (h : Closes 1 body) : IsBalanced ('\x7b' :: body) := by
  have heven := h.even
  simp [IsBalanced, heven]

/-- A block is balanced, and in every shorter beginning of the text a brace is open. -/
theorem isBalanced_of_bracedBlock? {text block : Text} (h : bracedBlock? text = some block) :
    block <+: text ∧ IsBalanced block ∧
      ∀ p, p <+: text → p ≠ [] → p.length < block.length → p.count '\x7d' < p.count '\x7b' := by
  obtain ⟨rest, rfl⟩ := List.head?_eq_some_iff.mp (head?_of_bracedBlock? h)
  rw [bracedBlock?_brace] at h
  obtain ⟨body, hbody, rfl⟩ := Option.map_eq_some_iff.mp h
  obtain ⟨hbegins, hcloses⟩ := closes_of_closeBraces Nat.one_pos hbody
  have hblock : '\x7b' :: body <+: '\x7b' :: rest := (List.prefix_cons_inj _).mpr hbegins
  refine ⟨hblock, isBalanced_of_closes hcloses, ?_⟩
  intro p hp hne hlt
  have hshort : p <+: '\x7b' :: body :=
    List.prefix_of_prefix_length_le hp hblock (Nat.le_of_lt hlt)
  obtain ⟨q, rfl, hq⟩ := (List.prefix_cons_iff.mp hshort).resolve_left hne
  apply count_lt_of_staysOpen
  apply hcloses.staysOpen q hq
  rintro rfl
  exact Nat.lt_irrefl _ hlt

/-- Without a block no beginning of a text that opens with a brace is balanced. -/
theorem not_isBalanced_of_bracedBlock? {text : Text} (hhead : text.head? = some '\x7b')
    (h : bracedBlock? text = none) {p : Text} (hp : p <+: text) : ¬IsBalanced p := by
  obtain ⟨rest, rfl⟩ := List.head?_eq_some_iff.mp hhead
  rw [bracedBlock?_brace, Option.map_eq_none_iff] at h
  rcases List.prefix_cons_iff.mp hp with rfl | ⟨q, rfl, hq⟩
  · decide
  · intro hbalanced
    have hlt := count_lt_of_staysOpen (staysOpen_of_closeBraces Nat.one_pos h hq)
    exact Nat.ne_of_lt hlt hbalanced.1

/-- The block in braces is the shortest balanced beginning of a text that opens with a brace, and it
is there exactly when there is such a beginning. It ends in the brace that closes it, and before
that one a brace is always open. -/
theorem bracedBlock?_shortest (text : Text) :
    ((∃ block, bracedBlock? text = some block) ↔
      text.head? = some '\x7b' ∧ ∃ p, p <+: text ∧ IsBalanced p) ∧
    ∀ block, bracedBlock? text = some block →
      (block <+: text ∧ IsBalanced block) ∧
      (∀ p, p <+: text → IsBalanced p → block <+: p) ∧
      block.getLast? = some '\x7d' ∧
      ∀ p, p <+: text → p ≠ [] → p.length < block.length → p.count '\x7d' < p.count '\x7b' := by
  refine ⟨⟨?found, ?none⟩, ?block⟩
  case found =>
    rintro ⟨block, hblock⟩
    obtain ⟨hbegins, hbalanced, -⟩ := isBalanced_of_bracedBlock? hblock
    exact ⟨head?_of_bracedBlock? hblock, block, hbegins, hbalanced⟩
  case none =>
    rintro ⟨hhead, p, hp, hbalanced⟩
    cases hblock : bracedBlock? text with
    | none => exact absurd hbalanced (not_isBalanced_of_bracedBlock? hhead hblock hp)
    | some block => exact ⟨block, rfl⟩
  case block =>
    intro block hblock
    obtain ⟨hbegins, hbalanced, hopen⟩ := isBalanced_of_bracedBlock? hblock
    obtain ⟨-, inside, rfl⟩ := bracedBlock?_eq_some hblock
    refine ⟨⟨hbegins, hbalanced⟩, ?_, List.getLast?_concat, hopen⟩
    intro p hp hbalanced'
    apply List.prefix_of_prefix_length_le hbegins hp
    apply Nat.le_of_not_lt
    intro hlt
    have hne : p ≠ [] := by
      rintro rfl
      exact absurd hbalanced' (by decide)
    exact Nat.ne_of_lt (hopen p hp hne hlt) hbalanced'.1

namespace TwoBlocks

/-- A block with another one inside it. -/
def block : Text := "\x7ba\x7b\x7d\x7d"

def source : Text := block ++ ("\x7b\x7d" : Text)

end TwoBlocks

open TwoBlocks in
/-- The two blocks together are balanced as well, but only the first one is taken. -/
theorem bracedBlock?_shortest_of_two : bracedBlock? source = some block ∧
    IsBalanced source ∧ block <+: source ∧
    block.dropLast.count '\x7d' < block.dropLast.count '\x7b' := by
  have hblock : bracedBlock? source = some block := by decide
  have hsource : IsBalanced source := by decide
  obtain ⟨-, hblocks⟩ := bracedBlock?_shortest source
  obtain ⟨⟨hbegins, -⟩, hshortest, -, hopen⟩ := hblocks block hblock
  refine ⟨hblock, hsource, hshortest source (List.prefix_refl _) hsource, ?_⟩
  apply hopen block.dropLast
  · exact (List.dropLast_prefix block).trans hbegins
  · decide
  · decide

end CodeGauge
