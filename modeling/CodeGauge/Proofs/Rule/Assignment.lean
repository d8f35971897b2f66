import CodeGauge.Proofs.Pattern.Declaration
import CodeGauge.Rule.Security

/-!
Assignments of literals in a text without a tree. The first literal that is assigned in a text is
always found. Its name is the one in front of the equals sign, unless a colon behind an earlier name
of the same line opens a type: such a type runs up to the equals sign, and takes the name with it.
-/
namespace CodeGauge

/-- The first literal in a text, assigned to a name that nothing in front of it belongs to. -/
structure Assignment where
  before : Text
  name : Text
  gap : Text
  init : Initializer
  before_plain : ∀ c ∈ before, c ∉ quotes
  before_ends : ∀ c, before.getLast? = some c → isNamePart c = false
  name_isName : isName name = true
  gap_blank : ∀ c ∈ gap, isBlank c = true

namespace Assignment

/-- The assignment without what precedes it. -/
def declared (a : Assignment) : Declared where
  name := a.name
  gap := a.gap
  typePart := []
  init := a.init
  name_isName := a.name_isName
  gap_blank := a.gap_blank
  typePart_isTypePart := rfl

def text (a : Assignment) : Text :=
  a.before ++ a.declared.text

/-- A colon behind the name `x` opens a type that is still open at the assignment: neither an equals
sign nor a line feed ends it. -/
def Annotates (a : Assignment) (x : Text) : Prop :=
  isName x = true ∧ '\n' ∉ a.gap ∧ ∃ lead blank type,
    a.before = lead ++ (x ++ (blank ++ ':' :: type)) ∧ (∀ c ∈ blank, isBlank c = true) ∧
      '=' ∉ type ∧ '\n' ∉ type

theorem declared_head (a : Assignment) : a.declared.head = a.name ++ a.gap := by
  rw [Declared.head, declared, List.append_nil]

/-- Before the equals sign there is nothing but the name and white space. -/
theorem isNamePart_or_isBlank (a : Assignment) {c : Char} (h : c ∈ a.declared.head) :
    isNamePart c = true ∨ (c ∈ a.gap ∧ isBlank c = true) := by
  rw [declared_head] at h
  rcases List.mem_append.mp h with h | h
  · exact Or.inl (isNamePart_of_isName a.name_isName c h)
  · exact Or.inr ⟨h, a.gap_blank c h⟩

theorem plain_head (a : Assignment) : ∀ c ∈ a.declared.head, c ∉ quotes := by
  intro c hc
  rcases a.isNamePart_or_isBlank hc with hpart | ⟨-, hblank⟩
  · exact not_mem_of_accepts quotes (by decide) hpart
  · exact not_mem_of_accepts quotes (by decide) hblank

/-- A declaration that is read from before the name on has its equals sign in common with the
assignment: in front of any earlier one there is more than white space up to the first quote. -/
theorem head_eq_of_text_eq {a : Assignment} {rest : Text} {d : Declared}
    (hrest : ∀ c ∈ rest, c ∉ quotes) (h : rest ++ a.declared.text = d.text) :
    rest ++ a.declared.head = d.head ∧ a.init.text = d.init.text := by
  -- both texts are cut at their first equals sign
  by_cases hequals : '=' ∈ rest
  · obtain ⟨start, stop, rfl, hstart⟩ := List.eq_append_cons_of_mem hequals
    have htext : start ++ '=' :: (stop ++ (a.declared.head ++ a.init.text)) = d.text := by
      simpa only [Declared.text, declared, List.append_assoc, List.cons_append] using h
    obtain ⟨-, -, htail⟩ := append_cons_inj (p := (· ≠ '='))
      (fun c hc heq => hstart (heq ▸ hc)) d.equals_not_mem_head (not_not_intro rfl)
      (not_not_intro rfl) htext
    have hword : ∀ c ∈ stop ++ a.declared.head, c ∉ quotes := by
      intro c hc
      rcases List.mem_append.mp hc with hc | hc
      · exact hrest c (List.mem_append_right start (List.mem_cons_of_mem '=' hc))
      · exact a.plain_head c hc
    refine absurd ?_ (Initializer.text_ne a.init d.init hword)
    rw [List.append_assoc, htail, Initializer.text]
  · have hhead : ∀ c ∈ rest ++ a.declared.head, c ≠ '=' := by
      intro c hc
      rcases List.mem_append.mp hc with hc | hc
      · exact fun heq => hequals (heq ▸ hc)
      · exact a.declared.equals_not_mem_head c hc
    have htext : (rest ++ a.declared.head) ++ a.init.text = d.head ++ d.init.text := by
      rw [List.append_assoc]
      exact h
    obtain ⟨heq, -, htail⟩ := append_cons_inj hhead d.equals_not_mem_head (not_not_intro rfl)
      (not_not_intro rfl) htext
    exact ⟨heq, congrArg (List.cons '=') htail⟩

/-- A declaration without a type that ends in the assignment is the assignment. -/
theorem name_eq_of_typePart_nil {a : Assignment} {lead rest : Text} {d : Declared}
    (hbefore : a.before = lead ++ rest) (h : rest ++ a.declared.head = d.head)
    (htype : d.typePart = []) : rest = [] ∧ d.name = a.name := by
  have hhead : (rest ++ a.name) ++ a.gap = ([] ++ d.name) ++ d.gap := by
    rw [List.append_assoc, ← declared_head, h, Declared.head, htype, List.append_nil,
      List.nil_append]
  have hname : rest ++ a.name = d.name := by
    have htrimmed := congrArg (List.rdropWhile isBlank) hhead
    rwa [rdropWhile_name_append _ a.name_isName a.gap_blank,
      rdropWhile_name_append _ d.name_isName d.gap_blank] at htrimmed
  have hnil : rest = [] := by
    by_contra hne
    -- the last character in front of the name would belong to the longer name
    have hlast : a.before.getLast? = some (rest.getLast hne) := by
      rw [hbefore, List.getLast?_append_of_ne_nil _ hne, List.getLast?_eq_some_getLast]
    have hmem : rest.getLast hne ∈ d.name :=
      hname ▸ List.mem_append_left a.name (List.getLast_mem hne)
    have hpart := isNamePart_of_isName d.name_isName _ hmem
    exact Bool.false_ne_true ((a.before_ends _ hlast).symm.trans hpart)
  rw [hnil, List.nil_append] at hname
  exact ⟨hnil, hname.symm⟩

/-- A type that reaches the equals sign of the assignment has begun in front of the name. -/
theorem annotates_of_typePart_cons {a : Assignment} {lead rest type : Text} {d : Declared}
    (hbefore : a.before = lead ++ rest) (h : rest ++ a.declared.head = d.head)
    (htype : d.typePart = ':' :: type) : a.Annotates d.name := by
  have hform := d.typePart_isTypePart
  rw [htype] at hform
  obtain ⟨-, hequals, hfeed⟩ := isTypePart_cons_iff.mp hform
  have hcolon : ':' ∉ a.declared.head := by
    intro hmem
    rcases a.isNamePart_or_isBlank hmem with hpart | ⟨-, hblank⟩
    · exact absurd hpart (by decide)
    · exact absurd hblank (by decide)
  have hhead : rest ++ a.declared.head = (d.name ++ d.gap) ++ ':' :: type := by
    rw [h, Declared.head, htype, List.append_assoc]
  rcases List.append_eq_append_iff.mp hhead with ⟨middle, -, hend⟩ | ⟨opened, hrest, hend⟩
  · exact absurd (hend ▸ List.mem_append_right middle List.mem_cons_self) hcolon
  cases opened with
  | nil =>
    rw [List.nil_append] at hend
    exact absurd (hend ▸ List.mem_cons_self) hcolon
  | cons colon inside =>
    obtain ⟨rfl, rfl⟩ := List.cons.inj hend
    refine ⟨d.name_isName, ?gap, lead, d.gap, inside, ?before, d.gap_blank, ?equals, ?feed⟩
    case gap =>
      intro hmem
      rw [declared_head] at hfeed
      exact hfeed (List.mem_append_right _ (List.mem_append_right _ hmem))
    case before => rw [hbefore, hrest, List.append_assoc]
    case equals => exact fun hmem => hequals (List.mem_append_left _ hmem)
    case feed => exact fun hmem => hfeed (List.mem_append_left _ hmem)

/-- The name that is read is the one of the assignment, or one with a type that is still open. -/
theorem name_eq_or_annotates {a : Assignment} {lead rest : Text} {d : Declared}
    (hbefore : a.before = lead ++ rest) (h : rest ++ a.declared.head = d.head) :
    (rest = [] ∧ d.name = a.name) ∨ a.Annotates d.name := by
  cases htype : d.typePart with
  | nil => exact Or.inl (name_eq_of_typePart_nil hbefore h htype)
  | cons c type =>
    have hform := d.typePart_isTypePart
    rw [htype] at hform
    obtain ⟨rfl, -⟩ := isTypePart_cons_iff.mp hform
    exact Or.inr (annotates_of_typePart_cons hbefore h htype)

/-- No comparison ends where the name and the white space behind it end. -/
theorem isOneOf_last (a : Assignment) {word : Text} {c : Char}
    (h : (word ++ a.declared.head).getLast? = some c) : isOneOf "=!<>" c = false := by
  have hne : a.declared.head ≠ [] := by
    rw [declared_head]
    exact List.append_ne_nil_of_left_ne_nil (ne_nil_of_isName a.name_isName) a.gap
  rw [List.getLast?_append_of_ne_nil _ hne] at h
  have hcompare : ∀ c ∈ "=!<>".toList, isNamePart c = false ∧ isBlank c = false :=
    List.all_iff_forall_prop.mp (by decide)
  rw [isOneOf, Bool.eq_false_iff, ne_eq, List.contains_iff_mem]
  intro hmem
  obtain ⟨hpart, hblank⟩ := hcompare c hmem
  rcases a.isNamePart_or_isBlank (List.mem_of_getLast? h) with hc | ⟨-, hc⟩
  · exact Bool.false_ne_true (hpart.symm.trans hc)
  · exact Bool.false_ne_true (hblank.symm.trans hc)

/-- The pattern matches wherever a declaration begins that ends in the assignment. -/
theorem matchesAt_of_head_eq {a : Assignment} {lead rest : Text} {d : Declared}
    (h : d.head = rest ++ a.declared.head) (hinit : d.init = a.init)
    (hlead : ∀ c, lead.getLast? = some c → isNameStart c = false) :
    Pattern.literalAssignment.matchesAt ⟨lead.reverse, rest ++ a.declared.text⟩ = true := by
  have hstart : (⟨lead.reverse, rest ++ a.declared.text⟩ : Cursor).isAfter isNameStart = false := by
    rw [Cursor.isAfter]
    cases hbehind : lead.reverse with
    | nil => rfl
    | cons c behind =>
      apply hlead
      rw [List.getLast?_eq_head?_reverse, hbehind, List.head?_cons]
  have htext : rest ++ a.declared.text = d.text := by
    rw [Declared.text, Declared.text, h, hinit, List.append_assoc]
    rfl
  obtain ⟨s, hways⟩ := Pattern.exists_ways_of_declared d htext hstart
    fun c hc => a.isOneOf_last (h ▸ hc)
  exact Pattern.matchesAt_of_ways rfl hways

theorem matchesAt_name (a : Assignment) :
    Pattern.literalAssignment.matchesAt ⟨a.before.reverse, a.declared.text⟩ = true := by
  have hhead : a.declared.head = [] ++ a.declared.head := rfl
  refine matchesAt_of_head_eq hhead rfl ?_
  intro c hc
  refine Bool.eq_false_iff.mpr fun hstart => ?_
  exact Bool.false_ne_true ((a.before_ends c hc).symm.trans (isNamePart_of_isNameStart hstart))

theorem Annotates.exists_matchesAt {a : Assignment} {x : Text} (h : a.Annotates x) :
    ∃ lead rest, a.before = lead ++ rest ∧ rest ≠ [] ∧
      Pattern.literalAssignment.matchesAt ⟨lead.reverse, rest ++ a.declared.text⟩ = true := by
  obtain ⟨hname, hgap, lead, blank, type, hbefore, hblank, hequals, hfeed⟩ := h
  obtain ⟨lead', name, hwhole, hname', hlead⟩ := exists_whole_name lead hname
  have hopen : isTypePart (':' :: (type ++ a.declared.head)) = true := by
    apply isTypePart_cons_iff.mpr
    refine ⟨rfl, ?equals, ?feed⟩
    case equals =>
      intro hmem
      rcases List.mem_append.mp hmem with hmem | hmem
      · exact hequals hmem
      · exact a.declared.equals_not_mem_head '=' hmem rfl
    case feed =>
      intro hmem
      rcases List.mem_append.mp hmem with hmem | hmem
      · exact hfeed hmem
      rcases a.isNamePart_or_isBlank hmem with hpart | ⟨hmem, -⟩
      · exact absurd hpart (by decide)
      · exact hgap hmem
  refine ⟨lead', name ++ (blank ++ ':' :: type), ?before, ?rest, ?here⟩
  case before => rw [hbefore, ← List.append_assoc, hwhole, List.append_assoc]
  case rest => exact List.append_ne_nil_of_left_ne_nil (ne_nil_of_isName hname') _
  case here =>
    refine matchesAt_of_head_eq
      (d := ⟨name, blank, ':' :: (type ++ a.declared.head), a.init, hname', hblank, hopen⟩)
      ?_ rfl hlead
    simp only [Declared.head, List.append_assoc, List.cons_append]

/-- The first match begins no later than at any place in front of the assignment that matches. -/
theorem exists_searchFrom {a : Assignment} {lead rest : Text} (hbefore : a.before = lead ++ rest)
    (h : Pattern.literalAssignment.matchesAt ⟨lead.reverse, rest ++ a.declared.text⟩ = true) :
    ∃ m, Pattern.literalAssignment.searchFrom [] a.text = some m ∧
      m.part .value = a.init.value ∧
      ((rest = [] ∧ m.part .name = a.name) ∨ a.Annotates (m.part .name)) := by
  have hplace : (⟨[], a.text⟩ : Cursor).Passes lead ⟨lead.reverse, rest ++ a.declared.text⟩ := by
    refine ⟨?_, (List.append_nil _).symm⟩
    rw [text, hbefore, List.append_assoc]
  obtain ⟨m, start, between, hsearch, rfl, hstart, hmatch⟩ := Pattern.exists_searchFrom hplace h
  -- the first match may begin earlier, but from there on the text still ends in the assignment
  have hahead : m.start.ahead = (between ++ rest) ++ a.declared.text := by
    have htext : start ++ ((between ++ rest) ++ a.declared.text) = start ++ m.start.ahead := by
      rw [← hstart.1, text, hbefore]
      simp only [List.append_assoc]
    exact (List.append_cancel_left htext).symm
  obtain ⟨d, hd, hname, hvalue, -⟩ :=
    Pattern.exists_declared_of_ways (Pattern.ways_of_matchAt? hmatch).2
  rw [List.append_assoc] at hbefore
  have hplain : ∀ c ∈ between ++ rest, c ∉ quotes := by
    intro c hc
    exact a.before_plain c (hbefore ▸ List.mem_append_right start hc)
  obtain ⟨hhead, hinit⟩ := head_eq_of_text_eq hplain (hahead.symm.trans hd)
  refine ⟨m, hsearch, hvalue.trans (Initializer.text_inj hinit).2.symm, ?_⟩
  rw [show m.part .name = d.name from hname]
  rcases name_eq_or_annotates hbefore hhead with ⟨hnil, heq⟩ | hannotates
  · exact Or.inl ⟨(List.append_eq_nil_iff.mp hnil).2, heq⟩
  · exact Or.inr hannotates

theorem literalDeclarations_of_searchFrom {u : CodeUnit} {m : Match} (htree : u.tree = none)
    (h : Pattern.literalAssignment.searchFrom [] u.text = some m) :
    ∃ others, u.literalDeclarations = (m.part .name, m.part .value) :: others := by
  have hfirst : (Pattern.literalAssignment.findAll u.text).head? = some m :=
    (Pattern.head?_findAllFrom _ [] u.text).trans h
  obtain ⟨rest, hall⟩ := List.head?_eq_some_iff.mp hfirst
  refine ⟨rest.map fun m => (m.part .name, m.part .value), ?_⟩
  rw [CodeUnit.literalDeclarations, htree]
  simp only [hall, List.map_cons]

theorem hardcodedCredentials?_of_mem {u : CodeUnit} {name value : Text}
    (h : (name, value) ∈ u.literalDeclarations) (hvalue : value ≠ [])
    (hname : isCredentialName name = true) (lex : Lexicon) : lex.hardcodedCredentials? u =
      some (lex.issue .hardcodedCredentials .critical .hardcodedCredentials) := by
  rw [Lexicon.hardcodedCredentials?, if_pos]
  refine List.any_eq_true.mpr ⟨(name, value), h, ?_⟩
  rw [Bool.and_eq_true_iff, Bool.not_eq_true', List.isEmpty_eq_false_iff]
  exact ⟨hvalue, hname⟩

/-- In a unit without a tree the first literal that is assigned is the first one declared, under
the name of the assignment, unless that name stands in a type that an earlier name has opened. -/
theorem exists_literalDeclarations_eq (a : Assignment) {u : CodeUnit} (htree : u.tree = none)
    (htext : u.text = a.text) :
    ∃ name others, u.literalDeclarations = (name, a.init.value) :: others ∧
      ((∀ x, ¬ a.Annotates x) → name = a.name) ∧ ((∃ x, a.Annotates x) → a.Annotates name) ∧
      (isCredentialName name = true → ∀ lex : Lexicon, lex.hardcodedCredentials? u =
        some (lex.issue .hardcodedCredentials .critical .hardcodedCredentials)) := by
  have hsearch : ∃ m, Pattern.literalAssignment.searchFrom [] u.text = some m ∧
      m.part .value = a.init.value ∧ ((∀ x, ¬ a.Annotates x) → m.part .name = a.name) ∧
      ((∃ x, a.Annotates x) → a.Annotates (m.part .name)) := by
    rw [htext]
    by_cases hopen : ∃ x, a.Annotates x
    · obtain ⟨x, hx⟩ := hopen
      obtain ⟨lead, rest, hbefore, hne, hplace⟩ := hx.exists_matchesAt
      obtain ⟨m, hm, hvalue, hname⟩ := exists_searchFrom hbefore hplace
      have hannotates := hname.resolve_left fun hnil => hne hnil.1
      exact ⟨m, hm, hvalue, fun hnone => absurd hx (hnone x), fun _ => hannotates⟩
    · have hbefore := (List.append_nil a.before).symm
      obtain ⟨m, hm, hvalue, hname⟩ := exists_searchFrom hbefore a.matchesAt_name
      refine ⟨m, hm, hvalue, ?_, fun hx => absurd hx hopen⟩
      intro hnone
      exact (hname.resolve_right (hnone _)).2
  obtain ⟨m, hm, hvalue, hplain, hannotated⟩ := hsearch
  obtain ⟨others, hdeclared⟩ := literalDeclarations_of_searchFrom htree hm
  rw [hvalue] at hdeclared
  refine ⟨m.part .name, others, hdeclared, hplain, hannotated, ?_⟩
  intro hname
  exact hardcodedCredentials?_of_mem (hdeclared ▸ List.mem_cons_self) a.init.value_ne_nil hname

namespace Defaults

/-- A parameter with a default value, behind another one with a type. -/
def password : Assignment where
  before := "function connect(user: string, "
  name := "password"
  gap := " "
  init :=
    { gap := " ", quote := '"', value := "hunter2", after := ") \x7b\x7d"
      gap_blank := List.all_iff_forall_prop.mp (by decide)
      quote_mem := by decide
      value_ne_nil := by decide
      value_plain := List.all_iff_forall_prop.mp (by decide) }
  before_plain := List.all_iff_forall_prop.mp (by decide)
  before_ends := by
    intro c hc
    obtain rfl : ' ' = c := Option.some.inj hc
    decide
  name_isName := by decide
  gap_blank := List.all_iff_forall_prop.mp (by decide)

def connect : CodeUnit where
  id := "f"
  language := "typescript"
  text := "function connect(user: string, password = \"hunter2\") \x7b\x7d"

end Defaults

open Defaults in
theorem exists_literalDeclarations_eq_of_connect :
    (connect.tree = none ∧ connect.text = password.text) ∧
      ∃ name others, connect.literalDeclarations = (name, password.init.value) :: others ∧
        ((∀ x, ¬ password.Annotates x) → name = password.name) ∧
        ((∃ x, password.Annotates x) → password.Annotates name) ∧
        (isCredentialName name = true → ∀ lex : Lexicon, lex.hardcodedCredentials? connect =
          some (lex.issue .hardcodedCredentials .critical .hardcodedCredentials)) :=
  ⟨⟨rfl, by decide⟩, exists_literalDeclarations_eq password rfl (by decide)⟩

open Defaults in
/-- The type of the parameter in front takes the password with it. -/
theorem not_mem_literalDeclarations_of_connect :
    (connect.tree = none ∧ connect.text = password.text ∧ isCredentialName password.name = true) ∧
      (password.name, password.init.value) ∉ connect.literalDeclarations ∧
      ∀ lex : Lexicon, lex.hardcodedCredentials? connect = none := by
  have hdeclared : connect.literalDeclarations = [("user".toList, "hunter2".toList)] := by
    decide +kernel
  refine ⟨⟨rfl, by decide, by decide⟩, ?pair, ?credentials⟩
  case pair =>
    rw [hdeclared]
    decide
  case credentials =>
    intro lex
    rw [Lexicon.hardcodedCredentials?, hdeclared, if_neg (by decide)]

end Assignment

end CodeGauge
