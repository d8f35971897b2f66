import CodeGauge.Proofs.Pattern.Search
import CodeGauge.Proofs.Text.Blank
import CodeGauge.Rule.Query
import Mathlib.Data.Bool.AllAny

/-!
What the pattern for assigned literals reads: a name, maybe a type behind a colon, and a literal
behind an equals sign. The pattern matches at a place exactly where such a declaration begins, and
captures its name and its value.
-/
namespace CodeGauge

/-- A name: a character that can begin one, and characters that can continue it. -/
def isName : Text → Bool
  | [] => false
  | c :: rest => isNameStart c && rest.all isNamePart

/-- A type behind a colon, or nothing. -/
def isTypePart : Text → Bool
  | [] => true
  | c :: type => c == ':' && type.all (isNoneOf "=\n")

/-- The characters that may enclose a literal. -/
def quotes : Text :=
  ['"', '\'', '\x60']

/-- An equals sign, a non-empty literal on one line, and all that follows. -/
structure Initializer where
  gap : Text
  quote : Char
  value : Text
  after : Text
  gap_blank : ∀ c ∈ gap, isBlank c = true
  quote_mem : quote ∈ quotes
  value_ne_nil : value ≠ []
  value_plain : ∀ c ∈ value, c ≠ quote ∧ c ≠ '\n'

def Initializer.text (i : Initializer) : Text :=
  '=' :: (i.gap ++ i.quote :: (i.value ++ i.quote :: i.after))

/-- A name, maybe its type, and its initializer. -/
structure Declared where
  name : Text
  gap : Text
  typePart : Text
  init : Initializer
  name_isName : isName name = true
  gap_blank : ∀ c ∈ gap, isBlank c = true
  typePart_isTypePart : isTypePart typePart = true

/-- What stands before the equals sign. -/
def Declared.head (d : Declared) : Text :=
  d.name ++ (d.gap ++ d.typePart)

def Declared.text (d : Declared) : Text :=
  d.head ++ d.init.text

/-- Two lists that are equal are cut at the first element outside of `p` in the same way. -/
theorem append_cons_inj {α : Type} {p : α → Prop} {l l' r r' : List α} {c c' : α}
    (hl : ∀ x ∈ l, p x) (hl' : ∀ x ∈ l', p x) (hc : ¬ p c) (hc' : ¬ p c')
    (h : l ++ c :: r = l' ++ c' :: r') : l = l' ∧ c = c' ∧ r = r' := by
  induction l generalizing l' with
  | nil =>
    cases l' with
    | nil =>
      obtain ⟨hcc, hrr⟩ := List.cons.inj h
      exact ⟨rfl, hcc, hrr⟩
    | cons y l' =>
      obtain ⟨rfl, -⟩ := List.cons.inj h
      exact absurd (hl' c List.mem_cons_self) hc
  | cons x l ih =>
    cases l' with
    | nil =>
      obtain ⟨rfl, -⟩ := List.cons.inj h
      exact absurd (hl x List.mem_cons_self) hc'
    | cons y l' =>
      obtain ⟨rfl, htail⟩ := List.cons.inj h
      obtain ⟨rfl, hrest⟩ := ih (fun x hx => hl x (List.mem_cons_of_mem _ hx))
        (fun x hx => hl' x (List.mem_cons_of_mem _ hx)) htail
      exact ⟨rfl, hrest⟩

/-- A type goes on up to an equals sign or a line feed. -/
theorem isTypePart_cons_iff {c : Char} {type : Text} :
    isTypePart (c :: type) = true ↔ c = ':' ∧ '=' ∉ type ∧ '\n' ∉ type := by
  have hplain (x : Char) : isNoneOf "=\n" x = true ↔ x ≠ '=' ∧ x ≠ '\n' := by
    simp [isNoneOf]
  rw [isTypePart, Bool.and_eq_true_iff, beq_iff_eq, List.all_eq_true]
  refine and_congr_right fun _ => ⟨?avoids, ?plain⟩
  case avoids =>
    intro h
    exact ⟨fun hmem => ((hplain '=').mp (h '=' hmem)).1 rfl,
      fun hmem => ((hplain '\n').mp (h '\n' hmem)).2 rfl⟩
  case plain =>
    rintro ⟨hequals, hfeed⟩ x hx
    exact (hplain x).mpr ⟨fun heq => hequals (heq ▸ hx), fun heq => hfeed (heq ▸ hx)⟩

/-- A character of a class is none of the marks, when no mark belongs to the class. -/
theorem not_mem_of_accepts {accepts : Char → Bool} (marks : List Char)
    (hmarks : marks.all (!accepts ·) = true) {c : Char} (h : accepts c = true) : c ∉ marks := by
  intro hmem
  have hrejects := List.all_eq_true.mp hmarks c hmem
  rw [h] at hrejects
  exact Bool.false_ne_true hrejects

/-- Up to the quote that opens a literal there is no equals sign. -/
theorem ne_equals_of_head?_eq {gap rest : Text} {quote c : Char}
    (hgap : ∀ x ∈ gap, isBlank x = true) (hquote : quote ∈ quotes)
    (h : (gap ++ quote :: rest).head? = some c) : c ≠ '=' := by
  cases gap with
  | nil =>
    obtain rfl := Option.some.inj h
    rintro rfl
    exact absurd hquote (by decide)
  | cons x gap =>
    obtain rfl := Option.some.inj h
    exact List.ne_of_not_mem_cons
      (not_mem_of_accepts ['='] (by decide) (hgap x List.mem_cons_self))

section Name

variable {name : Text}

theorem ne_nil_of_isName (h : isName name = true) : name ≠ [] := by
  rintro rfl
  exact absurd h (by decide)

theorem isNamePart_of_isName (h : isName name = true) : ∀ c ∈ name, isNamePart c = true := by
  cases name with
  | nil => exact absurd h (by decide)
  | cons c rest =>
    rw [isName, Bool.and_eq_true_iff, List.all_eq_true] at h
    exact List.forall_mem_cons.mpr ⟨isNamePart_of_isNameStart h.1, h.2⟩

theorem rdropWhile_name_append (lead : Text) {gap : Text} (h : isName name = true)
    (hgap : ∀ c ∈ gap, isBlank c = true) :
    ((lead ++ name) ++ gap).rdropWhile isBlank = lead ++ name := by
  induction gap using List.reverseRecOn with
  | nil =>
    rw [List.append_nil, List.rdropWhile_eq_self_iff]
    intro hne hblank
    rw [List.getLast_append_of_ne_nil hne (ne_nil_of_isName h)] at hblank
    have hpart := isNamePart_of_isName h _ (List.getLast_mem (ne_nil_of_isName h))
    exact Bool.false_ne_true ((isBlank_of_isNamePart hpart).symm.trans hblank)
  | append_singleton gap c ih =>
    have hc := hgap c (List.mem_append_right gap List.mem_cons_self)
    rw [← List.append_assoc, List.rdropWhile_concat_pos isBlank _ c hc]
    exact ih fun x hx => hgap x (List.mem_append_left [c] hx)

/-- Whatever a name is the end of, it is the end of a name that nothing in front belongs to. -/
theorem exists_whole_name (lead : Text) (h : isName name = true) :
    ∃ lead' name', lead ++ name = lead' ++ name' ∧ isName name' = true ∧
      ∀ c, lead'.getLast? = some c → isNameStart c = false := by
  induction lead using List.reverseRecOn generalizing name with
  | nil => exact ⟨[], name, rfl, h, fun c hc => absurd hc (by simp)⟩
  | append_singleton lead c ih =>
    by_cases hc : isNameStart c = true
    · have hname : isName (c :: name) = true := by
        rw [isName, Bool.and_eq_true_iff, List.all_eq_true]
        exact ⟨hc, isNamePart_of_isName h⟩
      obtain ⟨lead', name', heq, hname', hlast⟩ := ih hname
      refine ⟨lead', name', ?_, hname', hlast⟩
      rw [← heq, List.append_assoc, List.singleton_append]
    · refine ⟨lead ++ [c], name, rfl, h, ?_⟩
      intro x hx
      rw [List.getLast?_concat, Option.some.injEq] at hx
      exact hx ▸ Bool.eq_false_iff.mpr hc

end Name

theorem Initializer.text_inj {i i' : Initializer} (h : i.text = i'.text) :
    i.quote = i'.quote ∧ i.value = i'.value := by
  have htail := (List.cons.inj h).2
  have hquote {i : Initializer} : ¬ isBlank i.quote = true :=
    fun hblank => not_mem_of_accepts quotes (by decide) hblank i.quote_mem
  obtain ⟨-, heq, hrest⟩ := append_cons_inj i.gap_blank i'.gap_blank hquote hquote htail
  rw [← heq] at hrest
  have hvalue := append_cons_inj (fun c hc => (i.value_plain c hc).1)
    (fun c hc => heq ▸ (i'.value_plain c hc).1) (fun hne => hne rfl) (fun hne => hne rfl) hrest
  exact ⟨heq, hvalue.1⟩

theorem Declared.equals_not_mem_head (d : Declared) : ∀ c ∈ d.head, c ≠ '=' := by
  intro c hc
  rcases List.mem_append.mp hc with hc | hc
  · have hpart := isNamePart_of_isName d.name_isName c hc
    exact List.ne_of_not_mem_cons (not_mem_of_accepts ['='] (by decide) hpart)
  rcases List.mem_append.mp hc with hc | hc
  · have hblank := d.gap_blank c hc
    exact List.ne_of_not_mem_cons (not_mem_of_accepts ['='] (by decide) hblank)
  · have htype := d.typePart_isTypePart
    cases hword : d.typePart with
    | nil => exact absurd (hword ▸ hc) List.not_mem_nil
    | cons colon type =>
      rw [hword] at hc htype
      obtain ⟨rfl, hequals, -⟩ := isTypePart_cons_iff.mp htype
      rcases List.mem_cons.mp hc with rfl | hc
      · decide
      · exact fun heq => hequals (heq ▸ hc)

/-- What stands between an equals sign and a quote is white space. -/
theorem Initializer.text_ne (i i' : Initializer) {word : Text} (h : ∀ c ∈ word, c ∉ quotes) :
    '=' :: (word ++ i.text) ≠ i'.text := by
  intro htext
  have hplain : ∀ c ∈ word ++ '=' :: i.gap, c ∉ quotes := by
    intro c hc
    rcases List.mem_append.mp hc with hc | hc
    · exact h c hc
    rcases List.mem_cons.mp hc with rfl | hc
    · decide
    · exact not_mem_of_accepts quotes (by decide) (i.gap_blank c hc)
  have htail : (word ++ '=' :: i.gap) ++ i.quote :: (i.value ++ i.quote :: i.after) =
      i'.gap ++ i'.quote :: (i'.value ++ i'.quote :: i'.after) := by
    simpa only [text, List.append_assoc, List.cons_append] using (List.cons.inj htext).2
  obtain ⟨hgap, -⟩ := append_cons_inj hplain
    (fun c hc => not_mem_of_accepts quotes (by decide) (i'.gap_blank c hc))
    (not_not_intro i.quote_mem) (not_not_intro i'.quote_mem) htail
  have hequals : '=' ∈ i'.gap := hgap ▸ List.mem_append_right word List.mem_cons_self
  exact absurd (i'.gap_blank '=' hequals) (by decide)

namespace Pattern

variable {s s' : Progress}

theorem ways_notAfter {accepts : Char → Bool} (h : s.place.isAfter accepts = false) :
    (notAfter accepts).Ways s s :=
  ⟨congrArg not h, rfl⟩

theorem ways_notBefore {accepts : Char → Bool} (h : s.place.isBefore accepts = false) :
    (notBefore accepts).Ways s s :=
  ⟨congrArg not h, rfl⟩

/-- Nothing need be read. -/
theorem ways_many_refl (accepts : Char → Bool) (s : Progress) : (many accepts).Ways s s :=
  ⟨[], List.forall_mem_nil _, Cursor.Passes.refl _, rfl⟩

theorem ways_many1_iff {accepts : Char → Bool} : (many1 accepts).Ways s s' ↔
    ∃ word, word ≠ [] ∧ (∀ c ∈ word, accepts c = true) ∧ s.place.Passes word s'.place ∧
      s'.captures = s.captures := by
  constructor
  · rintro ⟨middle, ⟨c, hc, hfirst, hcaptures⟩, word, hword, hrest, hcaptures'⟩
    exact ⟨c :: word, List.cons_ne_nil c word, List.forall_mem_cons.mpr ⟨hc, hword⟩,
      hfirst.trans hrest, hcaptures'.trans hcaptures⟩
  · rintro ⟨word, hne, hword, hpasses, hcaptures⟩
    obtain ⟨c, rest, rfl⟩ := List.exists_cons_of_ne_nil hne
    obtain ⟨hc, hrest⟩ := List.forall_mem_cons.mp hword
    obtain ⟨place, hfirst, hlast⟩ := hpasses.split_cons
    exact ⟨⟨place, s.captures⟩, ⟨c, hc, hfirst, rfl⟩, rest, hrest, hlast, hcaptures⟩

/-- A name, as the assignment pattern looks for it. -/
theorem ways_name_iff : (one isNameStart ++ many isNamePart).Ways s s' ↔
    ∃ word, isName word = true ∧ s.place.Passes word s'.place ∧ s'.captures = s.captures := by
  constructor
  · rintro ⟨middle, ⟨c, hc, hfirst, hcaptures⟩, word, hword, hrest, hcaptures'⟩
    refine ⟨c :: word, ?_, hfirst.trans hrest, hcaptures'.trans hcaptures⟩
    rw [isName, Bool.and_eq_true_iff, List.all_eq_true]
    exact ⟨hc, hword⟩
  · rintro ⟨word, hname, hpasses, hcaptures⟩
    obtain ⟨c, rest, rfl⟩ := List.exists_cons_of_ne_nil (ne_nil_of_isName hname)
    rw [isName, Bool.and_eq_true_iff, List.all_eq_true] at hname
    obtain ⟨place, hfirst, hlast⟩ := hpasses.split_cons
    exact ⟨⟨place, s.captures⟩, ⟨c, hname.1, hfirst, rfl⟩, rest, hname.2, hlast, hcaptures⟩

/-- The type of a declaration, as the assignment pattern looks for it. -/
def typePart : Pattern :=
  opt (":" ++ span .shortest (isNoneOf "=\n"))

theorem ways_typePart_iff : typePart.Ways s s' ↔
    ∃ word, isTypePart word = true ∧ s.place.Passes word s'.place ∧
      s'.captures = s.captures := by
  constructor
  · rintro (⟨middle, ⟨hcolon, hcaptures⟩, word, hword, hrest, hcaptures'⟩ | ⟨hpasses, hcaptures⟩)
    · refine ⟨':' :: word, ?_, hcolon.trans hrest, hcaptures'.trans hcaptures⟩
      rw [isTypePart, Bool.and_eq_true_iff, List.all_eq_true]
      exact ⟨rfl, hword⟩
    · exact ⟨[], rfl, hpasses, hcaptures⟩
  · rintro ⟨word, hword, hpasses, hcaptures⟩
    cases word with
    | nil => exact Or.inr ⟨hpasses, hcaptures⟩
    | cons c rest =>
      rw [isTypePart, Bool.and_eq_true_iff, List.all_eq_true, beq_iff_eq] at hword
      obtain ⟨rfl, hrest⟩ := hword
      obtain ⟨place, hcolon, hlast⟩ := hpasses.split_cons
      exact Or.inl ⟨⟨place, s.captures⟩, ⟨hcolon, rfl⟩, rest, hrest, hlast, hcaptures⟩

/-- A literal between two equal quotes, as the assignment pattern looks for it. -/
def quoted (quote : Char) : Pattern :=
  .literal [quote] ++ capture .value (many1 fun c => c != quote && c != '\n') ++ .literal [quote]

theorem ways_quoted_iff {quote : Char} : (quoted quote).Ways s s' ↔
    ∃ start value stop, value ≠ [] ∧ (∀ c ∈ value, c ≠ quote ∧ c ≠ '\n') ∧
      s.place.Passes [quote] start ∧ start.Passes value stop ∧ stop.Passes [quote] s'.place ∧
      s'.captures = ⟨.value, start, stop⟩ :: s.captures := by
  have hplain (c : Char) : (c != quote && c != '\n') = true ↔ c ≠ quote ∧ c ≠ '\n' := by
    rw [Bool.and_eq_true_iff, bne_iff_ne, bne_iff_ne]
  constructor
  · rintro ⟨middle, ⟨start, ⟨hopen, hcaptures⟩, inner, hbody, rfl⟩, hclose, hcaptures'⟩
    obtain ⟨value, hne, hvalue, hpasses, hinner⟩ := ways_many1_iff.mp hbody
    refine ⟨start.place, value, inner.place, hne, ?_, hopen, hpasses, hclose, ?_⟩
    · intro c hc
      exact (hplain c).mp (hvalue c hc)
    · rw [hcaptures', hinner, hcaptures]
  · rintro ⟨start, value, stop, hne, hvalue, hopen, hpasses, hclose, hcaptures⟩
    refine ⟨⟨stop, ⟨.value, start, stop⟩ :: s.captures⟩, ⟨⟨start, s.captures⟩, ⟨hopen, rfl⟩, ?_⟩,
      hclose, hcaptures⟩
    refine ⟨⟨stop, s.captures⟩, ways_many1_iff.mpr ⟨value, hne, ?_, hpasses, rfl⟩, rfl⟩
    intro c hc
    exact (hplain c).mpr (hvalue c hc)

theorem literalAssignment_eq : literalAssignment =
    notAfter isNameStart ++ capture .name (one isNameStart ++ many isNamePart) ++ blanks ++
      typePart ++ notAfter (isOneOf "=!<>") ++ "=" ++ notBefore (· == '=') ++ blanks ++
      anyOf (quotes.map quoted) :=
  rfl

/-- What the pattern reads at a place is a declaration, and no comparison ends at its equals
sign. -/
theorem exists_declared_of_ways {place : Cursor} {s : Progress}
    (h : literalAssignment.Ways ⟨place, []⟩ s) : ∃ d : Declared, place.ahead = d.text ∧
      (⟨place, s.place, s.captures⟩ : Match).part .name = d.name ∧
      (⟨place, s.place, s.captures⟩ : Match).part .value = d.init.value ∧
      ∀ c, d.head.getLast? = some c → isOneOf "=!<>" c = false := by
  rw [literalAssignment_eq] at h
  obtain ⟨s₈, ⟨s₇, ⟨s₆, ⟨s₅, ⟨s₄, ⟨s₃, ⟨s₂, ⟨s₁, hstart, hname⟩, hgap⟩, hwaystype⟩, hcompared⟩,
    hequals⟩, hsingle⟩, hgap'⟩, hliteral⟩ := h
  obtain ⟨-, rfl⟩ := hstart
  obtain ⟨inner, hinner, rfl⟩ := hname
  obtain ⟨name, hname, hpname, hcname⟩ := ways_name_iff.mp hinner
  obtain ⟨gap, hgap, hpgap, hcgap⟩ := hgap
  obtain ⟨type, htype, hptype, hctype⟩ := ways_typePart_iff.mp hwaystype
  obtain ⟨hcompared, rfl⟩ := hcompared
  obtain ⟨hpequals, hcequals⟩ := hequals
  obtain ⟨-, rfl⟩ := hsingle
  obtain ⟨gap', hgap', hpgap', hcgap'⟩ := hgap'
  obtain ⟨quote, hquote, hliteral⟩ := ways_anyOf_map_iff.mp hliteral
  obtain ⟨start, value, stop, hne, hvalue, hopen, hpvalue, hclose, hcvalue⟩ :=
    ways_quoted_iff.mp hliteral
  have hhead := hpname.trans (hpgap.trans hptype)
  refine ⟨⟨name, gap, type, ⟨gap', quote, value, s.place.ahead, hgap', hquote, hne, hvalue⟩,
    hname, hgap, htype⟩, ?ahead, ?name, ?value, ?compared⟩
  case ahead =>
    have hinit := hpequals.trans (hpgap'.trans (hopen.trans (hpvalue.trans hclose)))
    have hall := (hhead.trans hinit).1
    simpa [Declared.text, Declared.head, Initializer.text, List.append_assoc] using hall
  case compared =>
    intro c hc
    obtain ⟨front, hfront⟩ := List.getLast?_eq_some_iff.mp hc
    rw [show name ++ (gap ++ type) = front ++ [c] from hfront] at hhead
    obtain ⟨_, hbehind, -⟩ := hhead.step_back
    rw [Bool.not_eq_true', Cursor.isAfter, hbehind] at hcompared
    exact hcompared
  all_goals
    have hcaptures : s.captures = [⟨.value, start, stop⟩, ⟨.name, place, inner.place⟩] := by
      rw [hcvalue, hcgap', hcequals, hctype, hcgap, hcname]
    simp only [Match.part, Match.capture?, hcaptures, List.find?_cons, decide_true]
  case name => exact hpname.upTo_eq
  case value => exact hpvalue.upTo_eq

/-- At a declaration the pattern finds a way, unless the name goes on to the left, or the equals
sign is part of a comparison. -/
theorem exists_ways_of_declared {place : Cursor} (d : Declared) (hahead : place.ahead = d.text)
    (hstart : place.isAfter isNameStart = false)
    (hhead : ∀ c, d.head.getLast? = some c → isOneOf "=!<>" c = false) :
    ∃ s, literalAssignment.Ways ⟨place, []⟩ s := by
  obtain ⟨name, gap, type, ⟨gap', quote, value, after, hgap', hquote, hne, hvalue⟩, hname, hgap,
    htype⟩ := d
  have hread : ∃ stop, place.Passes
      ((name ++ (gap ++ type)) ++ '=' :: (gap' ++ quote :: (value ++ [quote]))) stop := by
    refine ⟨⟨_, after⟩, ?_, rfl⟩
    simpa [Declared.text, Declared.head, Initializer.text] using hahead
  obtain ⟨stop, hread⟩ := hread
  obtain ⟨c₃, hphead, hpinit⟩ := hread.split
  obtain ⟨c₁, hpname, hptail⟩ := hphead.split
  obtain ⟨c₂, hpgap, hptype⟩ := hptail.split
  obtain ⟨c₄, hpequals, hprest⟩ := hpinit.split_cons
  obtain ⟨c₅, hpgap', hpliteral⟩ := hprest.split
  obtain ⟨c₆, hopen, hpclosed⟩ := hpliteral.split_cons
  obtain ⟨c₇, hpvalue, hclose⟩ := hpclosed.split
  have hcompared : c₃.isAfter (isOneOf "=!<>") = false := by
    have hhead_ne : name ++ (gap ++ type) ≠ [] := by
      intro hnil
      exact ne_nil_of_isName hname (List.append_eq_nil_iff.mp hnil).1
    rw [hphead.isAfter_eq hhead_ne]
    exact hhead _ (List.getLast?_eq_some_getLast hhead_ne)
  have hsingle : c₄.isBefore (· == '=') = false := by
    rw [Cursor.isBefore]
    split
    · rfl
    · rename_i x rest hnext
      rw [hprest.1, List.append_assoc] at hnext
      exact beq_false_of_ne (ne_equals_of_head?_eq hgap' hquote (congrArg List.head? hnext))
  let named : List Capture := [⟨.name, place, c₁⟩]
  refine ⟨⟨stop, ⟨.value, c₆, c₇⟩ :: named⟩, ?_⟩
  rw [literalAssignment_eq]
  have hliteral : (anyOf (quotes.map quoted)).Ways ⟨c₅, named⟩
      ⟨stop, ⟨.value, c₆, c₇⟩ :: named⟩ := by
    refine ways_anyOf_map_iff.mpr ⟨quote, hquote, ways_quoted_iff.mpr ?_⟩
    exact ⟨c₆, value, c₇, hne, hvalue, hopen, hpvalue, hclose, rfl⟩
  -- one intermediate place for each of the nine parts of the sequence
  refine ⟨⟨c₅, named⟩, ⟨⟨c₄, named⟩, ⟨⟨c₄, named⟩, ⟨⟨c₃, named⟩, ⟨⟨c₃, named⟩, ⟨⟨c₂, named⟩,
    ⟨⟨c₁, named⟩, ⟨⟨place, []⟩, ?start, ?name⟩, ?gap⟩, ?type⟩, ?compared⟩, ?equals⟩, ?single⟩,
    ?gap'⟩, hliteral⟩
  case start => exact ways_notAfter hstart
  case name => exact ⟨⟨c₁, []⟩, ways_name_iff.mpr ⟨name, hname, hpname, rfl⟩, rfl⟩
  case gap => exact ⟨gap, hgap, hpgap, rfl⟩
  case type => exact ways_typePart_iff.mpr ⟨type, htype, hptype, rfl⟩
  case compared => exact ways_notAfter hcompared
  case equals => exact ⟨hpequals, rfl⟩
  case single => exact ways_notBefore hsingle
  case gap' => exact ⟨gap', hgap', hpgap', rfl⟩

end Pattern

end CodeGauge
