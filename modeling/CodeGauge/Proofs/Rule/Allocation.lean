import CodeGauge.Lexicon.Java
import CodeGauge.Proofs.Pattern.Capture
import CodeGauge.Proofs.Pattern.Closing
import CodeGauge.Proofs.Text.Case
import CodeGauge.Proofs.Text.Numeral
import CodeGauge.Rule.Performance
import Mathlib.Order.Bounds.Defs

/-!
The sizes of allocations. A size stands between two brackets at the end of what its pattern reads,
so the place behind the closing bracket tells which one it is, and a match that begins earlier and
runs across a constructor reads the size of that constructor. No size is missed therefore, and the
largest one is reported when it is too large.
-/
namespace CodeGauge

/-- A character that can continue a size. -/
def isSizePart (c : Char) : Bool :=
  isDigit c || c == '_'

/-- A size as it is written: a digit, and digits and underscores behind it. -/
def isSize : Text → Bool
  | [] => false
  | c :: rest => isDigit c && rest.all isSizePart

/-- The number of digits that a size is written with. -/
def digitCount (size : Text) : Nat :=
  (size.filter (· != '_')).length

/-- The number that a size denotes. -/
def sizeValue (size : Text) : Nat :=
  Numeral.value (size.filterMap digitValue?)

section Size

variable {size : Text}

theorem isSizePart_of_isSize (h : isSize size = true) : ∀ c ∈ size, isSizePart c = true := by
  cases size with
  | nil => exact absurd h Bool.false_ne_true
  | cons c rest =>
    rw [isSize, Bool.and_eq_true_iff, List.all_eq_true] at h
    exact List.forall_mem_cons.mpr ⟨Bool.or_eq_true_iff.mpr (Or.inl h.1), h.2⟩

theorem isBlank_of_isSizePart {c : Char} (h : isSizePart c = true) : isBlank c = false := by
  rw [Bool.eq_false_iff]
  intro hblank
  rw [isSizePart, isDigit_of_isBlank hblank, Bool.false_or, beq_iff_eq] at h
  subst h
  exact absurd hblank (by decide)

theorem capturedSize_eq {m : Match} (h : isSize (m.part .size) = true) : capturedSize m =
    if Numeral.maxDigits < digitCount (m.part .size) then
      .error (.tooLong (digitCount (m.part .size)))
    else .ok (sizeValue (m.part .size)) := by
  have hdigits : ∀ c ∈ (m.part .size).filter (· != '_'), isDigit c = true := by
    intro c hc
    obtain ⟨hmem, hplain⟩ := List.mem_filter.mp hc
    rcases Bool.or_eq_true_iff.mp (isSizePart_of_isSize h c hmem) with hdigit | hunderscore
    · exact hdigit
    · exact absurd hunderscore (by simpa using hplain)
  have hne : (m.part .size).filter (· != '_') ≠ [] := by
    cases hsize : m.part .size with
    | nil =>
      rw [hsize] at h
      exact absurd h Bool.false_ne_true
    | cons c rest =>
      rw [hsize, isSize, Bool.and_eq_true_iff] at h
      have hplain : (c != '_') = true := by
        rw [bne_iff_ne]
        rintro rfl
        exact absurd h.1 (by decide)
      exact List.ne_nil_of_mem (List.mem_filter.mpr ⟨List.mem_cons_self, hplain⟩)
  have hvalue : ((m.part .size).filter (· != '_')).filterMap digitValue? =
      (m.part .size).filterMap digitValue? := by
    rw [List.filterMap_filter]
    refine List.filterMap_congr fun c _ => ?_
    split
    · rfl
    · rename_i hc
      obtain rfl : c = '_' := by simpa using hc
      rfl
  rw [capturedSize, Numeral.parseNat_of_isDigit hdigits hne, hvalue]
  rfl

end Size

namespace Pattern

/-- What a pattern for sizes reads up to the closing bracket. -/
def sizedFront (head : Pattern) (opening : Char) : Pattern :=
  head ++ .literal [opening] ++ blanks ++ size ++ blanks

/-- A size between two brackets, with white space around it. -/
def sizedBy (head : Pattern) (opening closing : Char) : Pattern :=
  sizedFront head opening ++ .literal [closing]

/-- What stands between the last opening bracket and the closing one in front of a place. -/
def sizeBefore (opening : Char) (stop : Cursor) : Text :=
  Text.trim ((stop.behind.drop 1).takeWhile (· != opening)).reverse

variable {head : Pattern} {opening closing : Char}

theorem sizeBefore_eq (hopening : isSizePart opening = false ∧ isBlank opening = false)
    {c c' : Cursor} {gap number gap' : Text} (hgap : ∀ x ∈ gap, isBlank x = true)
    (hgap' : ∀ x ∈ gap', isBlank x = true) (hnumber : isSize number = true)
    (h : c.Passes (opening :: (gap ++ (number ++ (gap' ++ [closing])))) c') :
    sizeBefore opening c' = number := by
  have hblank {x : Char} (hx : isBlank x = true) : (x != opening) = true := by
    rw [bne_iff_ne]
    rintro rfl
    exact Bool.false_ne_true (hopening.2.symm.trans hx)
  have hpart : ∀ x ∈ number, (x != opening) = true := by
    intro x hx
    rw [bne_iff_ne]
    rintro rfl
    exact Bool.false_ne_true (hopening.1.symm.trans (isSizePart_of_isSize hnumber x hx))
  have hinner : ∀ x ∈ (gap ++ (number ++ gap')).reverse, (x != opening) = true := by
    intro x hx
    rcases List.mem_append.mp (List.mem_reverse.mp hx) with hx | hx
    · exact hblank (hgap x hx)
    rcases List.mem_append.mp hx with hx | hx
    · exact hpart x hx
    · exact hblank (hgap' x hx)
  have hbehind : c'.behind.drop 1 = (gap ++ (number ++ gap')).reverse ++ opening :: c.behind := by
    simp [h.2]
  rw [sizeBefore, hbehind, List.takeWhile_append_of_pos hinner,
    List.takeWhile_cons_of_neg (by simp), List.append_nil, List.reverse_reverse,
    Text.trim_blank_append hgap, Text.trim_append_blank _ hgap',
    Text.trim_eq_self fun x hx => isBlank_of_isSizePart (isSizePart_of_isSize hnumber x hx)]

/-- The size that a match captures is told by the place where it ends. -/
theorem part_size_eq (hhead : head.isPlain = true)
    (hopening : isSizePart opening = false ∧ isBlank opening = false) {m : Match}
    (h : (sizedBy head opening closing).Ways ⟨m.start, []⟩ ⟨m.stop, m.captures⟩) :
    m.part .size = sizeBefore opening m.stop ∧ isSize (m.part .size) = true := by
  obtain ⟨s₅, ⟨s₄, ⟨s₃, ⟨s₂, ⟨s₁, hhead', hopen, hcaptures₂⟩, gap, hgap, hpgap, hcaptures₃⟩, inner,
    ⟨s₃', ⟨d, hd, hpd, hcd⟩, rest, hrest, hprest, hcrest⟩, rfl⟩, gap', hgap', hpgap', hcaptures₅⟩,
    hclose, hcaptures⟩ := h
  have hnone : s₃.captures = [] :=
    hcaptures₃.trans (hcaptures₂.trans (hhead'.captures_eq hhead))
  have hcaptured : m.captures = [⟨.size, s₃.place, inner.place⟩] := by
    have hstop : m.captures = ⟨.size, s₃.place, inner.place⟩ :: inner.captures :=
      hcaptures.trans hcaptures₅
    rw [hstop, hcrest, hcd, hnone]
  have hnumber : isSize (d :: rest) = true := by
    rw [isSize, Bool.and_eq_true_iff, List.all_eq_true]
    exact ⟨hd, hrest⟩
  have hpart : m.part .size = d :: rest := part_of_captures hcaptured (hpd.trans hprest)
  have hread := hopen.trans (hpgap.trans ((hpd.trans hprest).trans (hpgap'.trans hclose)))
  rw [hpart]
  exact ⟨(sizeBefore_eq hopening hgap hgap' hnumber hread).symm, hnumber⟩

/-- Whatever size stands at a place where the pattern matches, one of the matches that are found
captures it. -/
theorem exists_mem_findAll_size (hhead : head.isPlain = true)
    (hopening : isSizePart opening = false ∧ isBlank opening = false)
    (hrepeats : (sizedFront head opening).repeatsText = true)
    (havoids : (sizedFront head opening).avoids closing = true) {text before : Text}
    {place : Cursor} {s : Progress} (hbefore : (Cursor.first text).Passes before place)
    (h : (sizedBy head opening closing).Ways ⟨place, []⟩ s) :
    ∃ m ∈ (sizedBy head opening closing).findAll text,
      m.part .size = sizeBefore opening s.place := by
  obtain ⟨m, hm, hstop⟩ := exists_mem_findAllFrom_stop hrepeats havoids hbefore h
  obtain ⟨hsize, -⟩ := part_size_eq hhead hopening (finds_of_mem_findAll hm).ways
  exact ⟨m, hm, hsize.trans (congrArg _ hstop)⟩

/-- A size between two brackets without white space, as the patterns look for it. -/
theorem ways_sizedBy {number : Text} {place c c₁ c₂ c₃ : Cursor} (hnumber : isSize number = true)
    (h : head.Ways ⟨place, []⟩ ⟨c, []⟩) (hopen : c.Passes [opening] c₁)
    (hsize : c₁.Passes number c₂) (hclose : c₂.Passes [closing] c₃) :
    (sizedBy head opening closing).Ways ⟨place, []⟩ ⟨c₃, [⟨.size, c₁, c₂⟩]⟩ := by
  cases number with
  | nil => exact absurd hnumber Bool.false_ne_true
  | cons d rest =>
    rw [isSize, Bool.and_eq_true_iff, List.all_eq_true] at hnumber
    obtain ⟨c', hfirst, hrest⟩ := hsize.split_cons
    have hread : size.Ways ⟨c₁, []⟩ ⟨c₂, [⟨.size, c₁, c₂⟩]⟩ :=
      ⟨⟨c₂, []⟩, ⟨⟨c', []⟩, ⟨d, hnumber.1, hfirst, rfl⟩, rest, hnumber.2, hrest, rfl⟩, rfl⟩
    have hopened : (head ++ .literal [opening] ++ blanks).Ways ⟨place, []⟩ ⟨c₁, []⟩ :=
      ⟨⟨c₁, []⟩, ⟨⟨c, []⟩, h, hopen, rfl⟩, ways_many_refl isBlank _⟩
    have hfront : (sizedFront head opening).Ways ⟨place, []⟩ ⟨c₂, [⟨.size, c₁, c₂⟩]⟩ :=
      ⟨⟨c₂, [⟨.size, c₁, c₂⟩]⟩, ⟨⟨c₁, []⟩, hopened, hread⟩, ways_many_refl isBlank _⟩
    exact ⟨⟨c₂, [⟨.size, c₁, c₂⟩]⟩, hfront, hclose, rfl⟩

/-- Type arguments, as the patterns look for them. -/
theorem ways_typeArguments {arguments : Text} {c c' : Cursor} {captures : List Capture}
    (h : arguments = [] ∨ ∃ inner, arguments = '<' :: (inner ++ ['>']) ∧ '(' ∉ inner ∧ ')' ∉ inner)
    (hpasses : c.Passes arguments c') : typeArguments.Ways ⟨c, captures⟩ ⟨c', captures⟩ := by
  rcases h with rfl | ⟨inner, rfl, hopen, hclose⟩
  · exact Or.inr ⟨hpasses, rfl⟩
  · obtain ⟨c₁, hless, hrest⟩ := hpasses.split_cons
    obtain ⟨c₂, hinner, hgreater⟩ := hrest.split
    refine Or.inl ⟨⟨c₂, captures⟩, ⟨⟨c₁, captures⟩, ⟨hless, rfl⟩, inner, ?_, hinner, rfl⟩,
      hgreater, rfl⟩
    intro x hx
    have hne : x ≠ '(' ∧ x ≠ ')' := ⟨fun heq => hopen (heq ▸ hx), fun heq => hclose (heq ▸ hx)⟩
    simpa [isNoneOf] using hne

end Pattern

section Largest

variable {α β ε : Type} {f : α → Except ε β} {l : List α}

theorem mapM_eq_ok {g : α → β} (h : ∀ x ∈ l, f x = .ok (g x)) : l.mapM f = .ok (l.map g) := by
  induction l with
  | nil => rfl
  | cons x rest ih =>
    obtain ⟨hx, hrest⟩ := List.forall_mem_cons.mp h
    rw [List.mapM_cons, hx, ih hrest]
    rfl

/-- The first failure is the failure of the whole. -/
theorem exists_mapM_eq_error (h : ∃ x ∈ l, ∃ e, f x = .error e) :
    ∃ x ∈ l, ∃ e, f x = .error e ∧ l.mapM f = .error e := by
  induction l with
  | nil =>
    obtain ⟨x, hx, -⟩ := h
    exact absurd hx List.not_mem_nil
  | cons x rest ih =>
    rw [List.mapM_cons]
    cases hx : f x with
    | error e => exact ⟨x, List.mem_cons_self, e, hx, rfl⟩
    | ok y =>
      have hrest : ∃ x ∈ rest, ∃ e, f x = .error e := by
        obtain ⟨x', hx', e, he⟩ := h
        rcases List.mem_cons.mp hx' with rfl | hx'
        · exact absurd (hx.symm.trans he) nofun
        · exact ⟨x', hx', e, he⟩
      obtain ⟨x', hx', e, he, hmap⟩ := ih hrest
      refine ⟨x', List.mem_cons_of_mem x hx', e, he, ?_⟩
      rw [hmap]
      rfl

end Largest

namespace Lexicon

open Pattern

/-- The sizes that the patterns for collections capture, as they are written. -/
def collectionSizes (lex : Lexicon) (text : Text) : List Text :=
  (lex.collectionAllocation.flatMap (·.findAll text)).map (·.part .size)

/-- The collections whose constructors are looked for in Java. -/
def javaCollections : List Text :=
  ["arraylist", "hashmap", "hashset", "linkedhashmap", "linkedlist", "arraydeque", "vector"]

/-- The constructor of a collection up to its opening parenthesis. -/
def javaConstructor : Pattern :=
  "new" ++ many1 isBlank ++ anyWord javaCollections ++ blanks ++ typeArguments ++ blanks

theorem collectionAllocation_java :
    java.collectionAllocation = [sizedBy javaConstructor '(' ')'] :=
  rfl

variable {text : Text}

theorem isSize_of_mem_collectionSizes {size : Text} (h : size ∈ java.collectionSizes text) :
    isSize size = true := by
  obtain ⟨m, hm, rfl⟩ := List.mem_map.mp h
  rw [collectionAllocation_java, List.flatMap_singleton] at hm
  exact (part_size_eq rfl (by decide) (finds_of_mem_findAll hm).ways).2

/-- The constructor of a collection with a size in a text. -/
structure SizedCollection (text : Text) where
  before : Text
  collection : Text
  arguments : Text
  size : Text
  after : Text
  text_eq : text =
    before ++ ("new " ++ (collection ++ (arguments ++ ("(" ++ (size ++ (")" ++ after))))))
  collection_mem : collection ∈ javaCollections
  arguments_eq : arguments = [] ∨
    ∃ inner, arguments = '<' :: (inner ++ ['>']) ∧ '(' ∉ inner ∧ ')' ∉ inner
  size_isSize : isSize size = true

namespace SizedCollection

variable (c : SizedCollection text)

/-- What is read from the start of the text to the closing parenthesis. -/
theorem exists_passes : ∃ stop, (Cursor.first text).Passes
    (c.before ++ ("new" ++ (" " ++ (c.collection ++ (c.arguments ++ ("(" ++ (c.size ++ ")")))))))
    stop := by
  refine ⟨⟨_, c.after⟩, ?_, rfl⟩
  simpa [Cursor.first] using c.text_eq

/-- The size of a constructor is among the sizes that are captured, although an earlier match may
run across the constructor. -/
theorem size_mem_collectionSizes : c.size ∈ java.collectionSizes text := by
  obtain ⟨stop, hread⟩ := c.exists_passes
  obtain ⟨place, hbefore, hread⟩ := hread.split
  obtain ⟨c₁, hnew, hread⟩ := hread.split
  obtain ⟨c₂, hspace, hread⟩ := hread.split
  obtain ⟨c₃, hcollection, hread⟩ := hread.split
  obtain ⟨c₄, harguments, hread⟩ := hread.split
  obtain ⟨c₅, hopen, hrest⟩ := hread.split
  obtain ⟨c₆, hsize, hclose⟩ := hrest.split
  have hblank : ∀ x ∈ " ".toList, isBlank x = true := List.forall_mem_singleton.mpr (by decide)
  have hspaces : ("new" ++ many1 isBlank : Pattern).Ways ⟨place, []⟩ ⟨c₂, []⟩ :=
    ⟨⟨c₁, []⟩, ⟨hnew, rfl⟩,
      ways_many1_iff.mpr ⟨" ".toList, List.cons_ne_nil _ _, hblank, hspace, rfl⟩⟩
  have hword : (anyWord javaCollections).Ways ⟨c₂, []⟩ ⟨c₃, []⟩ :=
    ways_anyWord_iff.mpr ⟨c.collection, c.collection_mem, hcollection, rfl⟩
  have hhead : javaConstructor.Ways ⟨place, []⟩ ⟨c₄, []⟩ :=
    ⟨⟨c₄, []⟩, ⟨⟨c₃, []⟩, ⟨⟨c₃, []⟩, ⟨⟨c₂, []⟩, hspaces, hword⟩, ways_many_refl isBlank _⟩,
      ways_typeArguments c.arguments_eq harguments⟩, ways_many_refl isBlank _⟩
  obtain ⟨m, hm, hpart⟩ := exists_mem_findAll_size rfl (by decide) rfl (by decide) hbefore
    (ways_sizedBy c.size_isSize hhead hopen hsize hclose)
  have hsize : m.part .size = c.size :=
    hpart.trans (sizeBefore_eq (by decide) (List.forall_mem_nil _) (List.forall_mem_nil _)
      c.size_isSize hread)
  rw [collectionSizes, collectionAllocation_java, List.flatMap_singleton, ← hsize]
  exact List.mem_map_of_mem hm

end SizedCollection

/-- Of sizes that are all short enough the largest is found. -/
theorem maxSize_java (hshort : ∀ size ∈ java.collectionSizes text,
    digitCount size ≤ Numeral.maxDigits) : maxSize text java.collectionAllocation =
      .ok ((java.collectionSizes text).map sizeValue).max? := by
  have hcaptured : ∀ m ∈ java.collectionAllocation.flatMap (·.findAll text),
      capturedSize m = .ok (sizeValue (m.part .size)) := by
    intro m hm
    have hmem : m.part .size ∈ java.collectionSizes text := List.mem_map_of_mem hm
    rw [capturedSize_eq (isSize_of_mem_collectionSizes hmem), if_neg (hshort _ hmem).not_gt]
  rw [maxSize, mapM_eq_ok hcaptured, collectionSizes, List.map_map]
  rfl

/-- A size that is too long is not read as a number. -/
theorem exists_maxSize_java_eq_error (hlong : ∃ size ∈ java.collectionSizes text,
    Numeral.maxDigits < digitCount size) :
    ∃ size ∈ java.collectionSizes text, Numeral.maxDigits < digitCount size ∧
      maxSize text java.collectionAllocation = .error (.tooLong (digitCount size)) := by
  obtain ⟨_, hsize, hlong⟩ := hlong
  obtain ⟨m, hm, rfl⟩ := List.mem_map.mp hsize
  have hfails : capturedSize m = .error (.tooLong (digitCount (m.part .size))) := by
    rw [capturedSize_eq (isSize_of_mem_collectionSizes hsize), if_pos hlong]
  obtain ⟨m', hm', e, he, herror⟩ := exists_mapM_eq_error ⟨m, hm, _, hfails⟩
  have hsize' : m'.part .size ∈ java.collectionSizes text := List.mem_map_of_mem hm'
  rw [capturedSize_eq (isSize_of_mem_collectionSizes hsize')] at he
  split at he
  · rename_i hlong'
    obtain rfl : NumeralError.tooLong (digitCount (m'.part .size)) = e := Except.error.inj he
    refine ⟨_, hsize', hlong', ?_⟩
    rw [maxSize, herror]
    rfl
  · exact absurd he nofun

variable {u : CodeUnit}

theorem largeAllocation?_of_maxSize_eq_ok {lex : Lexicon} {size : Nat}
    (hlarge : largeCollectionThreshold < size)
    (h : maxSize u.lowerText lex.collectionAllocation = .ok (some size)) :
    lex.largeAllocation? u =
      .ok (some (lex.sizedIssue .largeAllocation .medium .largeAllocation size)) := by
  have hfilter : (some size).filter (largeCollectionThreshold < ·) = some size := by
    simp [hlarge]
  simp only [largeAllocation?, h, bind, Except.bind, hfilter]
  rfl

theorem largeAllocation?_of_maxSize_eq_error {lex : Lexicon} {e : NumeralError}
    (h : maxSize u.lowerText lex.collectionAllocation = .error e) :
    lex.largeAllocation? u = .error e := by
  simp only [largeAllocation?, h, bind, Except.bind]

/-- A constructor of a collection with a large size is not missed, whatever stands around it: the
largest size that is found is reported, or one of the sizes is too long to be read. -/
theorem largeAllocation?_reports_largest (u : CodeUnit) (c : SizedCollection u.lowerText) :
    let sizes := java.collectionSizes u.lowerText
    ((∀ size ∈ sizes, digitCount size ≤ 4300) → 10000 < sizeValue c.size →
      ∃ largest, IsGreatest {n | ∃ size ∈ sizes, sizeValue size = n} largest ∧
        sizeValue c.size ≤ largest ∧
        java.largeAllocation? u = .ok (some ⟨.largeAllocation,
          "Large allocation (" ++ Text.ofInt largest ++ ") - Consider lazy initialization",
          .medium⟩)) ∧
      ((∃ size ∈ sizes, 4300 < digitCount size) →
        ∃ size ∈ sizes, 4300 < digitCount size ∧
          java.largeAllocation? u = .error (.tooLong (digitCount size))) := by
  intro sizes
  constructor
  · intro hshort hlarge
    have hmem : sizeValue c.size ∈ sizes.map sizeValue :=
      List.mem_map_of_mem c.size_mem_collectionSizes
    obtain ⟨largest, hmax⟩ : ∃ largest, (sizes.map sizeValue).max? = some largest :=
      Option.isSome_iff_exists.mp (List.isSome_max?_of_mem hmem)
    obtain ⟨hfound, hgreatest⟩ := List.max?_eq_some_iff.mp hmax
    have hle : sizeValue c.size ≤ largest := hgreatest _ hmem
    refine ⟨largest, ⟨List.mem_map.mp hfound, ?_⟩, hle, ?_⟩
    · rintro _ ⟨size, hsize, rfl⟩
      exact hgreatest _ (List.mem_map_of_mem hsize)
    · exact largeAllocation?_of_maxSize_eq_ok (hlarge.trans_le hle)
        ((maxSize_java hshort).trans (congrArg Except.ok hmax))
  · intro hlong
    obtain ⟨size, hsize, hlong, herror⟩ := exists_maxSize_java_eq_error hlong
    exact ⟨size, hsize, hlong, largeAllocation?_of_maxSize_eq_error herror⟩

namespace NestedConstructor

/-- A constructor that the match which begins at the first `new` runs across. -/
def unit : CodeUnit where
  id := "u"
  language := "java"
  text := "new ArrayList<new Vector<>(20_000)"

def sized : SizedCollection unit.lowerText where
  before := "new arraylist<"
  collection := "vector"
  arguments := "<>"
  size := "20_000"
  after := []
  text_eq := by decide +kernel
  collection_mem := by decide
  arguments_eq := Or.inr ⟨[], rfl, List.not_mem_nil, List.not_mem_nil⟩
  size_isSize := by decide

theorem collectionSizes_eq : java.collectionSizes unit.lowerText = ["20_000"] := by
  decide +kernel

end NestedConstructor

namespace LongSize

/-- One digit more than can be read. -/
def size : Text := List.replicate 4301 '1'

theorem eq_of_mem_size {c : Char} (h : c ∈ size) : c = '1' :=
  List.eq_of_mem_replicate h

def unit : CodeUnit where
  id := "u"
  language := "java"
  text := "new vector(" ++ (size ++ ")")

theorem lowerText_eq : unit.lowerText = "new vector(" ++ (size ++ ")") := by
  have hlower : ("new vector(".toList ++ ")".toList ++ ['1']).all (IsLower ·) = true := by
    decide +kernel
  apply Text.lower_eq_self
  intro c hc
  apply of_decide_eq_true
  apply List.all_eq_true.mp hlower
  rcases List.mem_append.mp hc with hc | hc
  · exact List.mem_append_left _ (List.mem_append_left _ hc)
  rcases List.mem_append.mp hc with hc | hc
  · exact List.mem_append_right _ (List.mem_singleton.mpr (eq_of_mem_size hc))
  · exact List.mem_append_left _ (List.mem_append_right _ hc)

theorem isSize_size : isSize size = true := by
  have hrest : (List.replicate 4300 '1').all isSizePart = true := by
    rw [List.all_eq_true]
    intro c hc
    rw [List.eq_of_mem_replicate hc]
    decide
  rw [size, List.replicate_succ, isSize, hrest]
  rfl

def sized : SizedCollection unit.lowerText where
  before := []
  collection := "vector"
  arguments := []
  size := size
  after := []
  text_eq := lowerText_eq
  collection_mem := by decide
  arguments_eq := Or.inl rfl
  size_isSize := isSize_size

theorem digitCount_size : digitCount size = 4301 := by
  have hplain : ∀ c ∈ size, (c != '_') = true := by
    intro c hc
    rw [eq_of_mem_size hc]
    rfl
  rw [digitCount, List.filter_eq_self.mpr hplain, size, List.length_replicate]

end LongSize

theorem largeAllocation?_reports_largest_nested :
    ((∀ size ∈ java.collectionSizes NestedConstructor.unit.lowerText, digitCount size ≤ 4300) ∧
      10000 < sizeValue NestedConstructor.sized.size ∧
      java.largeAllocation? NestedConstructor.unit = .ok (some ⟨.largeAllocation,
        "Large allocation (20000) - Consider lazy initialization", .medium⟩)) ∧
    (∃ size ∈ java.collectionSizes LongSize.unit.lowerText, 4300 < digitCount size) ∧
      ∃ n, java.largeAllocation? LongSize.unit = .error (.tooLong n) := by
  have hshort : ∀ size ∈ java.collectionSizes NestedConstructor.unit.lowerText,
      digitCount size ≤ 4300 := by
    rw [NestedConstructor.collectionSizes_eq]
    decide
  have hlarge : 10000 < sizeValue NestedConstructor.sized.size := by decide
  have hlong : ∃ size ∈ java.collectionSizes LongSize.unit.lowerText, 4300 < digitCount size := by
    refine ⟨_, LongSize.sized.size_mem_collectionSizes, ?_⟩
    rw [LongSize.sized, LongSize.digitCount_size]
    decide
  refine ⟨⟨hshort, hlarge, ?_⟩, hlong, ?_⟩
  · obtain ⟨largest, ⟨hmem, -⟩, -, hissue⟩ :=
      (largeAllocation?_reports_largest _ NestedConstructor.sized).1 hshort hlarge
    rw [NestedConstructor.collectionSizes_eq] at hmem
    obtain ⟨_, hsize, rfl⟩ := hmem
    obtain rfl := List.mem_singleton.mp hsize
    exact hissue
  · obtain ⟨size, -, -, herror⟩ :=
      (largeAllocation?_reports_largest _ LongSize.sized).2 hlong
    exact ⟨digitCount size, herror⟩

end Lexicon

end CodeGauge
