import CodeGauge.Proofs.Text.Numeral
import CodeGauge.Proofs.Text.Pieces

/-!
How integers are written. A text is read as an integer exactly when it is a sign or none and groups
of digits with underscores between them, all of it between white space, with no more digits than are
read.
-/
namespace CodeGauge

namespace Numeral

/-- A group of digits without underscores. -/
def IsGroup (group : Text) : Prop :=
  group ≠ [] ∧ ∀ c ∈ group, isDigit c = true

instance (group : Text) : Decidable (IsGroup group) :=
  inferInstanceAs (Decidable (_ ∧ _))

/-- A number with its sign. -/
def signed (sign : Text) (n : Nat) : Int :=
  if sign = ['-'] then -n else n

/-- An integer as it may be written: digits in groups, maybe a sign in front of them, and white
space around it all. -/
structure Spelling where
  lead : Text
  sign : Text
  groups : List Text
  trail : Text
  lead_padding : ∀ c ∈ lead, isPadding c = true
  sign_mem : sign ∈ [[], ['+'], ['-']]
  groups_ne_nil : groups ≠ []
  groups_digits : ∀ group ∈ groups, IsGroup group
  trail_padding : ∀ c ∈ trail, isPadding c = true

namespace Spelling

/-- What stands behind the sign. -/
def numeral (s : Spelling) : Text :=
  Text.join ['_'] s.groups

def text (s : Spelling) : Text :=
  s.lead ++ (s.sign ++ s.numeral) ++ s.trail

/-- The digits without the underscores. -/
def digits (s : Spelling) : Text :=
  s.groups.flatten

/-- The integer that is written. -/
def value (s : Spelling) : Int :=
  signed s.sign (Numeral.value (s.digits.filterMap digitValue?))

end Spelling

/-- The text writes an integer with no more digits than are read. -/
def Denotes (text : Text) (n : Int) : Prop :=
  ∃ s : Spelling, s.text = text ∧ s.digits.length ≤ maxDigits ∧ s.value = n

/-! Digits and underscores. -/

theorem join_underscore_cons (c : Char) (first : Text) (others : List Text) :
    Text.join ['_'] ((c :: first) :: others) = c :: Text.join ['_'] (first :: others) :=
  List.intercalate_cons_cons_left

theorem join_underscore_nil (first : Text) (others : List Text) :
    Text.join ['_'] ([] :: first :: others) = '_' :: Text.join ['_'] (first :: others) :=
  List.intercalate_cons_cons

theorem ne_underscore_of_isDigit {c : Char} (h : isDigit c = true) : (c == '_') = false := by
  rw [beq_eq_false_iff_ne]
  rintro rfl
  exact absurd h (by decide)

theorem digits?_cons {c : Char} (h : isDigit c = true) (afterDigit : Bool) (rest : Text) :
    ∃ d, digitValue? c = some d ∧ digits? afterDigit (c :: rest) =
      (digits? true rest).map (d :: ·) := by
  obtain ⟨d, hd⟩ := Option.isSome_iff_exists.mp h
  refine ⟨d, hd, ?_⟩
  rw [digits?, ne_underscore_of_isDigit h, if_neg Bool.false_ne_true]
  simp only [hd]

/-- Groups of digits are read one behind the other. The first one may be what is left of a group
that has begun. -/
theorem digits?_join {first : Text} {others : List Text} (afterDigit : Bool)
    (hfirst : ∀ c ∈ first, isDigit c = true) (hbegun : afterDigit = true ∨ first ≠ [])
    (hothers : ∀ group ∈ others, IsGroup group) :
    digits? afterDigit (Text.join ['_'] (first :: others)) =
      some ((first :: others).flatten.filterMap digitValue?) := by
  induction others generalizing first afterDigit with
  | nil =>
    rw [Text.join, List.intercalate_singleton, List.flatten_singleton]
    exact digits?_eq_filterMap afterDigit hfirst hbegun
  | cons group others ih =>
    obtain ⟨⟨hne, hgroup⟩, hrest⟩ := List.forall_mem_cons.mp hothers
    induction first generalizing afterDigit with
    | nil =>
      obtain rfl := hbegun.resolve_right fun hnil => hnil rfl
      rw [join_underscore_nil, digits?, if_pos (beq_self_eq_true '_'), if_pos rfl]
      exact ih false hgroup (Or.inr hne) hrest
    | cons c first ihfirst =>
      obtain ⟨hc, hdigits⟩ := List.forall_mem_cons.mp hfirst
      obtain ⟨d, hd, hread⟩ := digits?_cons hc afterDigit
        (Text.join ['_'] (first :: group :: others))
      have hflatten : ((c :: first) :: group :: others).flatten =
          c :: (first :: group :: others).flatten := rfl
      rw [join_underscore_cons, hread, ihfirst true hdigits (Or.inl rfl), hflatten,
        List.filterMap_cons_some hd, Option.map_some]

/-- Only groups of digits are read. -/
theorem exists_join_of_digits? {afterDigit : Bool} {text : Text} {ds : List Nat}
    (h : digits? afterDigit text = some ds) :
    ∃ first others, text = Text.join ['_'] (first :: others) ∧
      (∀ c ∈ first, isDigit c = true) ∧ (afterDigit = true ∨ first ≠ []) ∧
      ∀ group ∈ others, IsGroup group := by
  induction text generalizing afterDigit ds with
  | nil =>
    refine ⟨[], [], rfl, nofun, Or.inl ?_, nofun⟩
    by_contra hno
    rw [digits?, if_neg hno] at h
    exact absurd h (by simp)
  | cons c rest ih =>
    rw [digits?] at h
    by_cases hc : (c == '_') = true
    · rw [if_pos hc] at h
      obtain rfl := eq_of_beq hc
      by_cases hafter : afterDigit = true
      · rw [if_pos hafter] at h
        obtain ⟨first, others, rfl, hfirst, hbegun, hothers⟩ := ih h
        have hne : first ≠ [] := hbegun.resolve_left Bool.false_ne_true
        exact ⟨[], first :: others, (join_underscore_nil first others).symm, nofun,
          Or.inl hafter, List.forall_mem_cons.mpr ⟨⟨hne, hfirst⟩, hothers⟩⟩
      · rw [if_neg hafter] at h
        exact absurd h (by simp)
    · rw [if_neg hc] at h
      cases hd : digitValue? c with
      | none => exact absurd h (by simp [hd])
      | some d =>
        simp only [hd] at h
        obtain ⟨ds', hrest, -⟩ := Option.map_eq_some_iff.mp h
        obtain ⟨first, others, rfl, hfirst, -, hothers⟩ := ih hrest
        refine ⟨c :: first, others, (join_underscore_cons c first others).symm, ?_,
          Or.inr (List.cons_ne_nil c first), hothers⟩
        exact List.forall_mem_cons.mpr ⟨Option.isSome_of_eq_some hd, hfirst⟩

/-- A number without a sign is read exactly when it is written in groups of digits, of which there
are not too many. -/
theorem parseNat_eq_ok_iff {text : Text} {n : Nat} :
    parseNat text = .ok n ↔ ∃ groups : List Text, text = Text.join ['_'] groups ∧ groups ≠ [] ∧
      (∀ group ∈ groups, IsGroup group) ∧ groups.flatten.length ≤ maxDigits ∧
      value (groups.flatten.filterMap digitValue?) = n := by
  have hread {groups : List Text} (hne : groups ≠ []) (hgroups : ∀ group ∈ groups, IsGroup group) :
      parseNat (Text.join ['_'] groups) =
        if maxDigits < groups.flatten.length then .error (.tooLong groups.flatten.length)
        else .ok (value (groups.flatten.filterMap digitValue?)) := by
    obtain ⟨first, others, rfl⟩ := List.exists_cons_of_ne_nil hne
    obtain ⟨⟨hfirst, hdigits⟩, hothers⟩ := List.forall_mem_cons.mp hgroups
    have hlength : ((first :: others).flatten.filterMap digitValue?).length =
        (first :: others).flatten.length := by
      rw [List.length_filterMap_eq_countP, List.countP_eq_length]
      intro c hc
      obtain ⟨group, hgroup, hmem⟩ := List.mem_flatten.mp hc
      exact (hgroups group hgroup).2 c hmem
    simp only [parseNat, digits?_join false hdigits (Or.inr hfirst) hothers, hlength, gt_iff_lt]
  constructor
  · intro h
    cases hdigits : digits? false text with
    | none => exact absurd h (by simp [parseNat, hdigits])
    | some ds =>
      obtain ⟨first, others, rfl, hfirst, hbegun, hothers⟩ := exists_join_of_digits? hdigits
      have hgroups : ∀ group ∈ first :: others, IsGroup group :=
        List.forall_mem_cons.mpr ⟨⟨hbegun.resolve_left Bool.false_ne_true, hfirst⟩, hothers⟩
      have hne : first :: others ≠ [] := List.cons_ne_nil first others
      rw [hread hne hgroups] at h
      split_ifs at h with hlong
      exact ⟨_, rfl, hne, hgroups, Nat.le_of_not_lt hlong, Except.ok.inj h⟩
  · rintro ⟨groups, rfl, hne, hgroups, hlength, rfl⟩
    rw [hread hne hgroups, if_neg (Nat.not_lt.mpr hlength)]

/-! White space and sign. -/

/-- A text without the white space around it. -/
def unpadded (text : Text) : Text :=
  (text.dropWhile isPadding).rdropWhile isPadding

theorem exists_padding (text : Text) : ∃ lead trail, text = lead ++ unpadded text ++ trail ∧
    (∀ c ∈ lead, isPadding c = true) ∧ ∀ c ∈ trail, isPadding c = true := by
  refine ⟨text.takeWhile isPadding, (text.dropWhile isPadding).rtakeWhile isPadding, ?_,
    fun _ hc => List.mem_takeWhile_imp hc, fun _ hc => List.mem_rtakeWhile_imp hc⟩
  rw [List.append_assoc, unpadded, List.rdropWhile_append_rtakeWhile,
    List.takeWhile_append_dropWhile]

theorem unpadded_eq {lead body trail : Text} (hlead : ∀ c ∈ lead, isPadding c = true)
    (htrail : ∀ c ∈ trail, isPadding c = true) (hne : body ≠ [])
    (hbody : ∀ c ∈ body, isPadding c = false) : unpadded (lead ++ body ++ trail) = body := by
  obtain ⟨c, rest, rfl⟩ := List.exists_cons_of_ne_nil hne
  have hstart : (lead ++ c :: rest ++ trail).dropWhile isPadding = c :: rest ++ trail := by
    rw [List.append_assoc, List.dropWhile_append_of_pos hlead]
    exact List.dropWhile_cons_of_neg (Bool.eq_false_iff.mp (hbody c List.mem_cons_self))
  have hend : (c :: rest ++ trail).rdropWhile isPadding = (c :: rest).rdropWhile isPadding := by
    rw [List.rdropWhile, List.reverse_append,
      List.dropWhile_append_of_pos fun c hc => htrail c (List.mem_reverse.mp hc)]
    rfl
  rw [unpadded, hstart, hend, List.rdropWhile_eq_self_iff]
  intro hne
  exact Bool.eq_false_iff.mp (hbody _ (List.getLast_mem hne))

theorem isPadding_of_isDigit {c : Char} (h : isDigit c = true) : isPadding c = false := by
  have hblank : isBlank c = false := by
    refine Bool.eq_false_iff.mpr fun hblank => ?_
    exact Bool.false_ne_true ((isDigit_of_isBlank hblank).symm.trans h)
  rw [isPadding, hblank, Bool.false_and]

theorem mem_join_underscore {groups : List Text} {c : Char} (h : c ∈ Text.join ['_'] groups) :
    c = '_' ∨ ∃ group ∈ groups, c ∈ group := by
  induction groups with
  | nil => exact absurd h List.not_mem_nil
  | cons first others ih =>
    have hfirst (hc : c ∈ first) : c = '_' ∨ ∃ group ∈ first :: others, c ∈ group :=
      Or.inr ⟨first, List.mem_cons_self, hc⟩
    rw [Text.join] at h
    by_cases hothers : others = []
    · rw [hothers, List.intercalate_singleton] at h
      exact hfirst h
    · rw [List.intercalate_cons_of_ne_nil hothers, List.append_assoc, List.mem_append,
        List.mem_append, List.mem_singleton] at h
      rcases h with hc | hc | hc
      · exact hfirst hc
      · exact Or.inl hc
      · rcases ih hc with hc | ⟨group, hgroup, hc⟩
        · exact Or.inl hc
        · exact Or.inr ⟨group, List.mem_cons_of_mem first hgroup, hc⟩

/-- A number is read behind its sign. -/
theorem parse_eq (text : Text) : parse text =
    match unpadded text with
    | '-' :: digits => (parseNat digits).map fun n => -(n : Int)
    | '+' :: digits => (parseNat digits).map Int.ofNat
    | digits => (parseNat digits).map Int.ofNat :=
  rfl

theorem exists_sign (text : Text) : ∃ sign body, sign ∈ ([[], ['+'], ['-']] : List Text) ∧
    unpadded text = sign ++ body ∧ parse text = (parseNat body).map (signed sign) := by
  rw [parse_eq]
  split
  · rename_i digits hminus
    refine ⟨['-'], digits, by decide, hminus, ?_⟩
    cases parseNat digits <;> rfl
  · rename_i digits hplus
    exact ⟨['+'], digits, by decide, hplus, rfl⟩
  · exact ⟨[], unpadded text, by decide, rfl, rfl⟩

namespace Spelling

variable (s : Spelling)

theorem exists_numeral_eq : ∃ c rest, s.numeral = c :: rest ∧ isDigit c = true := by
  obtain ⟨group, others, hgroups⟩ := List.exists_cons_of_ne_nil s.groups_ne_nil
  obtain ⟨hne, hdigits⟩ := s.groups_digits group (hgroups ▸ List.mem_cons_self)
  obtain ⟨c, rest, rfl⟩ := List.exists_cons_of_ne_nil hne
  refine ⟨c, Text.join ['_'] (rest :: others), ?_, hdigits c List.mem_cons_self⟩
  rw [numeral, hgroups, join_underscore_cons]

theorem sign_eq : s.sign = [] ∨ s.sign = ['+'] ∨ s.sign = ['-'] := by
  simpa using s.sign_mem

theorem isPadding_of_mem_body {c : Char} (h : c ∈ s.sign ++ s.numeral) : isPadding c = false := by
  rcases List.mem_append.mp h with hsign | hnumeral
  · rcases s.sign_eq with hnone | hplus | hminus
    · rw [hnone] at hsign
      exact absurd hsign List.not_mem_nil
    · rw [hplus, List.mem_singleton] at hsign
      rw [hsign]
      decide
    · rw [hminus, List.mem_singleton] at hsign
      rw [hsign]
      decide
  · rcases mem_join_underscore hnumeral with rfl | ⟨group, hgroup, hc⟩
    · decide
    · exact isPadding_of_isDigit ((s.groups_digits group hgroup).2 c hc)

theorem unpadded_text : unpadded s.text = s.sign ++ s.numeral := by
  obtain ⟨c, rest, hnumeral, -⟩ := s.exists_numeral_eq
  apply unpadded_eq s.lead_padding s.trail_padding
  · rw [hnumeral]
    exact List.append_ne_nil_of_right_ne_nil _ (List.cons_ne_nil c rest)
  · exact fun c => s.isPadding_of_mem_body

theorem parse_text : parse s.text = (parseNat s.numeral).map (signed s.sign) := by
  obtain ⟨c, rest, hnumeral, hc⟩ := s.exists_numeral_eq
  rw [parse_eq, unpadded_text]
  rcases s.sign_eq with hnone | hplus | hminus
  · rw [hnone, List.nil_append, hnumeral]
    -- a digit is no sign
    split
    · rename_i hminus
      rw [(List.cons.inj hminus).1] at hc
      exact absurd hc (by decide)
    · rename_i hplus
      rw [(List.cons.inj hplus).1] at hc
      exact absurd hc (by decide)
    · rfl
  · rw [hplus]
    rfl
  · rw [hminus]
    change ((parseNat s.numeral).map fun n => -(n : Int)) = _
    cases parseNat s.numeral <;> rfl

end Spelling

theorem map_eq_ok_iff {α β ε : Type} {f : α → β} {x : Except ε α} {b : β} :
    x.map f = .ok b ↔ ∃ a, x = .ok a ∧ f a = b := by
  cases x <;> simp [Except.map]

/-- Exactly the texts that write an integer are read, as the integer that they write. -/
theorem parse_eq_ok_iff {text : Text} {n : Int} : parse text = .ok n ↔ Denotes text n := by
  constructor
  · intro h
    obtain ⟨sign, body, hsign, hbody, hparse⟩ := exists_sign text
    obtain ⟨lead, trail, htext, hlead, htrail⟩ := exists_padding text
    rw [hparse, map_eq_ok_iff] at h
    obtain ⟨size, hsize, rfl⟩ := h
    obtain ⟨groups, rfl, hne, hgroups, hlength, rfl⟩ := parseNat_eq_ok_iff.mp hsize
    rw [hbody] at htext
    exact ⟨⟨lead, sign, groups, trail, hlead, hsign, hne, hgroups, htrail⟩, htext.symm, hlength,
      rfl⟩
  · rintro ⟨s, rfl, hlength, rfl⟩
    rw [s.parse_text, map_eq_ok_iff]
    exact ⟨_, parseNat_eq_ok_iff.mpr
      ⟨s.groups, rfl, s.groups_ne_nil, s.groups_digits, hlength, rfl⟩, rfl⟩

theorem Denotes.unique {text : Text} {n n' : Int} (h : Denotes text n) (h' : Denotes text n') :
    n = n' := by
  rw [← parse_eq_ok_iff] at h h'
  exact Except.ok.inj (h.symm.trans h')

end Numeral

end CodeGauge
