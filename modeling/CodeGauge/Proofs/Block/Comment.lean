import CodeGauge.Metrics.TextScan
import CodeGauge.Proofs.Block.Order
import CodeGauge.Proofs.Pattern.Declaration
import CodeGauge.Proofs.Pattern.Opening

/-!
Functions on the lines of comments. No header begins with a slash or a number sign, so most comments
open no function. But a star can be part of a modifier, since the types of some languages end in
stars, so a line of a block comment that begins with one opens a function wherever a header stands
behind it.
-/
namespace CodeGauge

/-- A line that begins with a character which is not blank begins with it when it is trimmed. -/
theorem Text.exists_trim_firstLine_eq {pad : Text} (hpad : ∀ c ∈ pad, isIndent c = true) {x : Char}
    (hx : isBlank x = false) (rest : Text) :
    ∃ line, Text.trim (Text.firstLine (pad ++ x :: rest)) = x :: line := by
  have hpadFeed : ∀ c ∈ pad, (c != '\n') = true := by
    intro c hc
    rw [bne_iff_ne]
    rintro rfl
    exact absurd (hpad '\n' hc) (by decide)
  have hxFeed : (x != '\n') = true := by
    rw [bne_iff_ne]
    rintro rfl
    exact absurd hx (by decide)
  rw [firstLine, List.takeWhile_append_of_pos hpadFeed,
    List.takeWhile_cons_of_pos (p := (· != '\n')) hxFeed,
    trim_blank_append fun c hc => isBlank_of_isIndent (hpad c hc), trim, trimStart,
    List.dropWhile_cons_of_neg (Bool.eq_false_iff.mp hx)]
  exact ⟨_, trimEnd_append_cons [] hx _⟩

namespace HeaderShape

open Pattern

/-- What a header reads behind its indentation. -/
def core (shape : HeaderShape) : Pattern :=
  chain (shape.pattern.parts.drop 2)

/-- The characters that modifiers are made of. An arrow function has none. -/
def isModifierPart : HeaderShape → Char → Bool
  | keyword => fun c => isWord c || isOneOf "@[]().,<>?*&" c
  | arrow => fun _ => false
  | method => fun c => isNamePart c || isOneOf ":<>*&,[]@" c

/-- A modifier with the spaces behind it. -/
structure IsModifier (shape : HeaderShape) (word gap : Text) : Prop where
  word_ne_nil : word ≠ []
  word_parts : ∀ c ∈ word, shape.isModifierPart c = true
  gap_ne_nil : gap ≠ []
  gap_indent : ∀ c ∈ gap, isIndent c = true

/-- The text begins with a star that belongs to a modifier, and behind this modifier it goes on with
a header. -/
def OpensBehindStar (shape : HeaderShape) (text : Text) : Prop :=
  ∃ word gap rest, text = word ++ gap ++ rest ∧ word.head? = some '*' ∧
    shape.IsModifier word gap ∧ shape.pattern.matchesAt (.first rest) = true

variable {shape : HeaderShape}

theorem pattern_parts_eq (shape : HeaderShape) :
    shape.pattern.parts = lineStart :: indent :: shape.pattern.parts.drop 2 := by
  cases shape <;> rfl

/-- A header is what its core reads behind the indentation of a line. -/
theorem ways_pattern_iff {s s' : Progress} : shape.pattern.Ways s s' ↔
    s.place.isLineStart = true ∧ ∃ pad place, (∀ c ∈ pad, isIndent c = true) ∧
      s.place.Passes pad place ∧ shape.core.Ways ⟨place, s.captures⟩ s' := by
  rw [← ways_chain_parts, pattern_parts_eq]
  constructor
  · rintro ⟨_, ⟨hstart, rfl⟩, ⟨place, _⟩, ⟨pad, hpad, hpasses, rfl⟩, hcore⟩
    exact ⟨hstart, pad, place, hpad, hpasses, hcore⟩
  · rintro ⟨hstart, pad, place, hpad, hpasses, hcore⟩
    exact ⟨s, ⟨hstart, rfl⟩, ⟨place, s.captures⟩, ⟨pad, hpad, hpasses, rfl⟩, hcore⟩

theorem consumes_core (shape : HeaderShape) : shape.core.consumes = true := by
  cases shape <;> rfl

theorem begins_core_of_isBlank {c : Char} (h : isBlank c = true) :
    shape.core.begins c = false := by
  have hall : ∀ n ∈ blankCodes, shape.core.begins (Char.ofNat n) = false := by
    cases shape <;> decide +kernel
  exact @eq_false_of_isBlank (shape.core.begins ·) hall c h

/-- No header begins with a slash or a number sign. -/
theorem begins_core_of_comment {x : Char} (h : x = '/' ∨ x = '#') :
    shape.core.begins x = false := by
  rcases h with rfl | rfl <;> cases shape <;> decide +kernel

theorem repeatsText_pattern (shape : HeaderShape) : shape.pattern.repeatsText = true := by
  cases shape <;> rfl

/-- A header looks back no further than to see whether its keyword ends. -/
theorem seesWords_core (shape : HeaderShape) : shape.core.seesWords := by
  cases shape <;> repeat' apply And.intro
  -- the border behind a keyword is the only place where a header looks back
  all_goals first | exact trivial | exact seesWords_border

/-- What a header reads behind its modifiers. -/
def behindModifiers (shape : HeaderShape) : Pattern :=
  chain (shape.pattern.parts.drop 3)

theorem core_eq (h : shape ≠ arrow) :
    shape.core = modifiers shape.isModifierPart ++ shape.behindModifiers := by
  cases shape
  case keyword => rfl
  case arrow => exact absurd rfl h
  case method => rfl

/-- A modifier that is read. -/
theorem ways_modifier_iff {s s' : Progress} :
    (many1 shape.isModifierPart ++ many1 isIndent).Ways s s' ↔
      ∃ word gap, shape.IsModifier word gap ∧ s.place.Passes (word ++ gap) s'.place ∧
        s'.captures = s.captures := by
  constructor
  · rintro ⟨middle, hword, hgap⟩
    obtain ⟨word, hne, hparts, hpasses, hcaptures⟩ := ways_many1_iff.mp hword
    obtain ⟨gap, hne', hindent, hpasses', hcaptures'⟩ := ways_many1_iff.mp hgap
    exact ⟨word, gap, ⟨hne, hparts, hne', hindent⟩, hpasses.trans hpasses',
      hcaptures'.trans hcaptures⟩
  · rintro ⟨word, gap, hmodifier, hpasses, hcaptures⟩
    obtain ⟨place, hword, hgap⟩ := hpasses.split
    exact ⟨⟨place, s.captures⟩,
      ways_many1_iff.mpr ⟨word, hmodifier.word_ne_nil, hmodifier.word_parts, hword, rfl⟩,
      ways_many1_iff.mpr ⟨gap, hmodifier.gap_ne_nil, hmodifier.gap_indent, hgap, hcaptures⟩⟩

/-- A modifier and the spaces behind it can stand in front of what a header reads. -/
theorem ways_core_of_modifier {word gap : Text} {s s' : Progress} {place : Cursor}
    (hmodifier : shape.IsModifier word gap) (hpasses : s.place.Passes (word ++ gap) place)
    (h : shape.core.Ways ⟨place, s.captures⟩ s') : shape.core.Ways s s' := by
  by_cases harrow : shape = arrow
  case pos =>
    subst harrow
    obtain ⟨c, rest, rfl⟩ := List.exists_cons_of_ne_nil hmodifier.word_ne_nil
    exact absurd (hmodifier.word_parts c List.mem_cons_self) Bool.false_ne_true
  case neg =>
    rw [core_eq harrow] at h ⊢
    obtain ⟨middle, hothers, hrest⟩ := h
    have hfirst : (many1 shape.isModifierPart ++ many1 isIndent).Ways s ⟨place, s.captures⟩ :=
      ways_modifier_iff.mpr ⟨word, gap, hmodifier, hpasses, rfl⟩
    exact ⟨middle, Relation.ReflTransGen.head hfirst hothers, hrest⟩

/-- A header that begins with a star begins with a modifier. -/
theorem exists_modifier_of_star {s s' : Progress} (hstar : s.place.ahead.head? = some '*')
    (h : shape.core.Ways s s') : ∃ word gap place, shape.IsModifier word gap ∧
      s.place.Passes (word ++ gap) place ∧ shape.core.Ways ⟨place, s.captures⟩ s' := by
  by_cases harrow : shape = arrow
  case pos =>
    subst harrow
    obtain ⟨x, hx, hbegins⟩ := h.exists_begins (consumes_core arrow)
    obtain rfl := Option.some.inj (hstar.symm.trans hx)
    exact absurd hbegins (by decide +kernel)
  case neg =>
    rw [core_eq harrow] at h ⊢
    obtain ⟨middle, hmodifiers, hrest⟩ := h
    rcases hmodifiers.cases_head with rfl | ⟨⟨place, captures⟩, hfirst, hothers⟩
    · have hnone : shape.behindModifiers.consumes = true ∧
          shape.behindModifiers.begins '*' = false := by
        cases shape
        case keyword => decide +kernel
        case arrow => exact absurd rfl harrow
        case method => decide +kernel
      obtain ⟨x, hx, hbegins⟩ := hrest.exists_begins hnone.1
      obtain rfl := Option.some.inj (hstar.symm.trans hx)
      exact absurd (hnone.2.symm.trans hbegins) Bool.false_ne_true
    · obtain ⟨word, gap, hmodifier, hpasses, rfl⟩ := ways_modifier_iff.mp hfirst
      exact ⟨word, gap, place, hmodifier, hpasses, middle, hothers, hrest⟩

/-- No word ends behind spaces. -/
theorem isAfter_isWord_of_indent {c d : Cursor} {pad : Text} (hpasses : c.Passes pad d)
    (hpad : ∀ x ∈ pad, isIndent x = true) (hc : pad ≠ [] ∨ c.isAfter isWord = false) :
    d.isAfter isWord = false := by
  by_cases hne : pad = []
  · subst hne
    rw [hpasses.eq_of_nil]
    exact hc.resolve_left (not_not_intro rfl)
  · rw [hpasses.isAfter_eq hne]
    exact isWord_of_isBlank (isBlank_of_isIndent (hpad _ (List.getLast_mem hne)))

/-- Behind spaces a header reads what it reads at the start of a text. -/
theorem exists_ways_pattern_first {c : Cursor} {s : Progress} (hc : c.isAfter isWord = false)
    (h : shape.core.Ways ⟨c, []⟩ s) :
    ∃ s', shape.pattern.Ways ⟨.first c.ahead, []⟩ s' := by
  have halike : c.Alike (.first c.ahead) := ⟨rfl, hc⟩
  obtain ⟨s', hcore, -⟩ := h.exists_alike (t := ⟨.first c.ahead, []⟩) (seesWords_core shape) halike
  exact ⟨s', ways_pattern_iff.mpr
    ⟨rfl, [], _, List.forall_mem_nil _, Cursor.Passes.refl _, hcore⟩⟩

/-- Behind a modifier a header reads what it reads at the start of a text. -/
theorem exists_ways_core_of_modifier {word gap rest : Text} {c : Cursor} {s : Progress}
    (hmodifier : shape.IsModifier word gap) (hahead : c.ahead = word ++ gap ++ rest)
    (h : shape.pattern.Ways ⟨.first rest, []⟩ s) : ∃ s', shape.core.Ways ⟨c, []⟩ s' := by
  obtain ⟨-, pad, place, hpad, hpasses, hcore⟩ := ways_pattern_iff.mp h
  have hplace : place.isAfter isWord = false := isAfter_isWord_of_indent hpasses hpad (Or.inr rfl)
  have hpadded : shape.IsModifier word (gap ++ pad) := by
    refine ⟨hmodifier.word_ne_nil, hmodifier.word_parts, by simp [hmodifier.gap_ne_nil], ?_⟩
    intro x hx
    exact (List.mem_append.mp hx).elim (hmodifier.gap_indent x) (hpad x)
  have hread : c.Passes (word ++ (gap ++ pad))
      ⟨(word ++ (gap ++ pad)).reverse ++ c.behind, place.ahead⟩ := by
    refine ⟨?_, rfl⟩
    have hrest : rest = pad ++ place.ahead := hpasses.1
    simp [hahead, hrest]
  obtain ⟨middle, -, hgap⟩ := hread.split
  have halike : place.Alike ⟨(word ++ (gap ++ pad)).reverse ++ c.behind, place.ahead⟩ := by
    refine ⟨rfl, hplace.trans (Eq.symm ?_)⟩
    exact isAfter_isWord_of_indent hgap hpadded.gap_indent (Or.inl hpadded.gap_ne_nil)
  obtain ⟨s', hcore', -⟩ := hcore.exists_alike (t := ⟨_, []⟩) (seesWords_core shape) halike
  exact ⟨s', ways_core_of_modifier hpadded hread hcore'⟩

/-- Of the characters that comments begin with, a header begins with none but the star. -/
theorem eq_star_of_comment {mark line : Text} {x : Char} (hmark : mark ∈ TextScan.commentPrefixes)
    (hcomment : mark <+: x :: line) (hx : shape.core.begins x = true) :
    mark = "*".toList ∧ x = '*' := by
  have hmarks : ∀ mark ∈ TextScan.commentPrefixes,
      mark ≠ [] ∧ (mark = "*".toList ∨ mark.head? = some '/' ∨ mark.head? = some '#') := by
    decide
  obtain ⟨hne, hstar | hother⟩ := hmarks mark hmark
  · subst hstar
    exact ⟨rfl, (List.cons_prefix_cons.mp hcomment).1.symm⟩
  · obtain ⟨y, rest, rfl⟩ := List.exists_cons_of_ne_nil hne
    obtain ⟨rfl, -⟩ := List.cons_prefix_cons.mp hcomment
    have hy : y = '/' ∨ y = '#' := by simpa using hother
    exact absurd ((begins_core_of_comment hy).symm.trans hx) Bool.false_ne_true

/-- A line opens with a header when one stands behind a modifier with a star. -/
theorem matchesAt_of_opensBehindStar {place : Cursor} (hstart : place.isLineStart = true)
    (h : shape.OpensBehindStar (place.ahead.dropWhile isIndent)) :
    shape.pattern.matchesAt place = true := by
  obtain ⟨word, gap, rest, htext, -, hmodifier, hmatches⟩ := h
  obtain ⟨s, hways⟩ := (matchesAt_iff_ways (repeatsText_pattern shape)).mp hmatches
  obtain ⟨c, hahead, hpasses⟩ : ∃ c : Cursor, c.ahead = place.ahead.dropWhile isIndent ∧
      place.Passes (place.ahead.takeWhile isIndent) c :=
    ⟨⟨_, _⟩, rfl, List.takeWhile_append_dropWhile.symm, rfl⟩
  obtain ⟨s', hcore⟩ := exists_ways_core_of_modifier hmodifier (hahead.trans htext) hways
  exact matchesAt_of_ways (repeatsText_pattern shape) (ways_pattern_iff.mpr
    ⟨hstart, _, c, fun _ hx => List.mem_takeWhile_imp hx, hpasses, hcore⟩)

/-- A line of a comment opens with a header exactly when the comment begins with a star that belongs
to a modifier, and a header stands behind this modifier. -/
theorem matchesAt_comment_iff {place : Cursor} (hstart : place.isLineStart = true) {mark : Text}
    (hmark : mark ∈ TextScan.commentPrefixes) (hcomment : mark <+: place.ahead.firstLine.trim) :
    shape.pattern.matchesAt place = true ↔
      mark = "*".toList ∧ shape.OpensBehindStar (place.ahead.dropWhile isIndent) := by
  constructor
  · intro hmatches
    obtain ⟨s, hways⟩ := (matchesAt_iff_ways (repeatsText_pattern shape)).mp hmatches
    obtain ⟨-, pad, c, hpad, hpasses, hcore⟩ := ways_pattern_iff.mp hways
    obtain ⟨x, hx, hbegins⟩ := hcore.exists_begins (consumes_core shape)
    have hblank : isBlank x = false := by
      rw [Bool.eq_false_iff]
      intro hblank
      exact Bool.false_ne_true ((begins_core_of_isBlank hblank).symm.trans hbegins)
    obtain ⟨rest, hrest⟩ : ∃ rest, c.ahead = x :: rest := List.head?_eq_some_iff.mp hx
    obtain ⟨line, hline⟩ := Text.exists_trim_firstLine_eq hpad hblank rest
    rw [hpasses.1, hrest, hline] at hcomment
    obtain ⟨hmark, rfl⟩ := eq_star_of_comment hmark hcomment hbegins
    have hdrop : place.ahead.dropWhile isIndent = c.ahead := by
      rw [hpasses.1, List.dropWhile_append_of_pos hpad, hrest]
      rfl
    obtain ⟨word, gap, d, hmodifier, hread, hcore'⟩ := exists_modifier_of_star hx hcore
    obtain ⟨first, others, rfl⟩ := List.exists_cons_of_ne_nil hmodifier.word_ne_nil
    have hfirst : first = '*' := by
      rw [hread.1] at hx
      exact Option.some.inj hx
    obtain ⟨_, -, hgap⟩ := hread.split
    have hmatches : shape.pattern.matchesAt (.first d.ahead) = true :=
      (matchesAt_iff_ways (repeatsText_pattern shape)).mpr (exists_ways_pattern_first
        (isAfter_isWord_of_indent hgap hmodifier.gap_indent (Or.inl hmodifier.gap_ne_nil)) hcore')
    exact ⟨hmark, first :: others, gap, d.ahead, hdrop.trans hread.1, congrArg some hfirst,
      hmodifier, hmatches⟩
  · rintro ⟨-, hopens⟩
    exact matchesAt_of_opensBehindStar hstart hopens

end HeaderShape

namespace Block

open HeaderShape

/-- The source from the first line of the block on. -/
def fromStart (b : Block) (source : Text) : Text :=
  Text.dropPieces '\n' (b.startLine - 1) source

/-- A block that opens on the line of a comment opens behind a star. -/
theorem exists_opensBehindStar_of_mem {source : Text} {b : Block} (h : b ∈ find source)
    {mark : Text} (hmark : mark ∈ TextScan.commentPrefixes)
    (hcomment : mark <+: (b.fromStart source).firstLine.trim) :
    mark = "*".toList ∧ ∃ shape : HeaderShape,
      shape.OpensBehindStar ((b.fromStart source).dropWhile isIndent) := by
  obtain ⟨shape, m, hm, hb⟩ := exists_header_of_mem_find h
  obtain ⟨-, -, _, -, rfl⟩ := ofHeader?_eq_some hb
  obtain ⟨before, hsource, hbehind, hlines⟩ := exists_lines_before hm
  have hdrop : Text.dropPieces '\n' (lineOf m.start - 1) source = m.start.ahead := by
    rw [lineOf, hbehind, List.count_reverse, Nat.add_sub_cancel, hsource]
    exact Text.dropPieces_count hlines m.start.ahead
  rw [fromStart, hdrop] at hcomment ⊢
  have hmatches : shape.pattern.matchesAt m.start = true :=
    Pattern.matchesAt_of_ways (repeatsText_pattern shape) hm.ways
  obtain ⟨hstar, hopens⟩ :=
    (matchesAt_comment_iff (isLineStart_of_finds hm) hmark hcomment).mp hmatches
  exact ⟨hstar, shape, hopens⟩

/-- Wherever a keyword header stands behind a star, a header is found on the line. -/
theorem exists_header_of_opensBehindStar {source : Text} {n : Nat}
    (h : keyword.OpensBehindStar ((Text.dropPieces '\n' n source).dropWhile isIndent)) :
    ∃ m ∈ keyword.pattern.findAll source, lineOf m.start = n + 1 := by
  have hne : Text.dropPieces '\n' n source ≠ [] := by
    intro hnil
    obtain ⟨word, gap, rest, htext, -, hmodifier, -⟩ := h
    rw [hnil, List.dropWhile_nil, eq_comm, List.append_assoc, List.append_eq_nil_iff] at htext
    exact hmodifier.word_ne_nil htext.1
  obtain ⟨before, hsource, hlines, hcount⟩ := Text.exists_eq_append_dropPieces hne
  have hbefore : (Cursor.first source).Passes before
      ⟨before.reverse, Text.dropPieces '\n' n source⟩ :=
    ⟨hsource, (List.append_nil _).symm⟩
  have hstart : Cursor.isLineStart ⟨before.reverse, Text.dropPieces '\n' n source⟩ = true := by
    rcases hlines with rfl | ⟨front, rfl⟩
    · rfl
    · rw [List.reverse_concat]
      rfl
  obtain ⟨m, hm, hplace⟩ := Pattern.exists_mem_findAllFrom_start (p := keyword.pattern)
    (by decide) (by decide) hbefore hstart (matchesAt_of_opensBehindStar hstart h)
  refine ⟨m, hm, ?_⟩
  rw [lineOf, hplace, List.count_reverse, hcount]

/-- Of the lines that comments begin on, blocks open on those alone that begin with a star, behind
which a header stands. There they do open: a keyword header is found on every such line, so its
block is there unless the name is a control keyword or no body follows. -/
theorem find_opens_behind_star (source : Text) :
    (∀ b ∈ find source, ∀ mark ∈ TextScan.commentPrefixes,
      mark <+: (b.fromStart source).firstLine.trim →
        mark = "*".toList ∧ ∃ shape : HeaderShape,
          shape.OpensBehindStar ((b.fromStart source).dropWhile isIndent)) ∧
    ∀ n, keyword.OpensBehindStar ((Text.dropPieces '\n' n source).dropWhile isIndent) →
      ∃ m ∈ keyword.pattern.findAll source, lineOf m.start = n + 1 ∧
        ∀ b, ofHeader? keyword m = some b → b ∈ find source ∧ b.startLine = n + 1 := by
  constructor
  · intro b hb mark hmark hcomment
    exact exists_opensBehindStar_of_mem hb hmark hcomment
  · intro n hopens
    obtain ⟨m, hm, hline⟩ := exists_header_of_opensBehindStar hopens
    refine ⟨m, hm, hline, ?_⟩
    intro b hb
    obtain ⟨-, -, _, -, rfl⟩ := ofHeader?_eq_some hb
    exact ⟨mem_find_of_keyword hm hb, hline⟩

namespace Documented

/-- A function that stands in a block comment. -/
def source : Text :=
  "/**\n * function helper(x) \x7b return x \x7d\n */"

def helper : Block :=
  ⟨"helper", 2, 2, " * function helper(x) \x7b return x \x7d"⟩

theorem helper_mem : helper ∈ find source := by
  have hfind : find source = [helper] := by decide +kernel
  exact hfind ▸ List.mem_cons_self

theorem begins_with_star : "*".toList <+: (helper.fromStart source).firstLine.trim := by
  decide +kernel

theorem opensBehindStar :
    keyword.OpensBehindStar ((Text.dropPieces '\n' 1 source).dropWhile isIndent) := by
  refine ⟨['*'], [' '], "function helper(x) \x7b return x \x7d\n */", ?_, rfl, ?_, ?_⟩
  · decide +kernel
  · exact ⟨List.cons_ne_nil _ _, List.forall_mem_singleton.mpr (by decide +kernel),
      List.cons_ne_nil _ _, List.forall_mem_singleton.mpr rfl⟩
  · decide +kernel

end Documented

open Documented in
theorem find_opens_behind_star_of_helper :
    (helper ∈ find source ∧
      "*".toList <+: (helper.fromStart source).firstLine.trim ∧
      ∃ shape : HeaderShape,
        shape.OpensBehindStar ((helper.fromStart source).dropWhile isIndent)) ∧
    keyword.OpensBehindStar ((Text.dropPieces '\n' 1 source).dropWhile isIndent) ∧
      ∃ m ∈ keyword.pattern.findAll source, lineOf m.start = 2 := by
  obtain ⟨hblocks, hheaders⟩ := find_opens_behind_star source
  have hmark : "*".toList ∈ TextScan.commentPrefixes := by decide
  obtain ⟨-, hshape⟩ := hblocks helper helper_mem _ hmark begins_with_star
  obtain ⟨m, hm, hline, -⟩ := hheaders 1 opensBehindStar
  exact ⟨⟨helper_mem, begins_with_star, hshape⟩, opensBehindStar, m, hm, hline⟩

open Documented in
/-- A block opens on the line of a comment. -/
theorem exists_block_on_comment_line :
    ∃ b ∈ find source, TextScan.isComment (b.fromStart source).firstLine.trim = true := by
  refine ⟨helper, helper_mem, ?_⟩
  decide +kernel

end Block

end CodeGauge
