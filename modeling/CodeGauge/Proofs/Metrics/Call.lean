import CodeGauge.Metrics.TextScan
import CodeGauge.Proofs.Pattern.Declaration

/-!
The calls of a name in a line of text. The matches that are found one behind the other are as many
calls as there can be without overlap, because of two calls the one that begins first ends first.
White space around the line makes no difference.
-/
namespace CodeGauge.TextScan

open Pattern

/-- A call of `name`, with the text before it and after it. -/
structure Call (name text : Text) where
  before : Text
  gap : Text
  after : Text
  text_eq : text = before ++ (name ++ (gap ++ '(' :: after))
  gap_blank : ∀ c ∈ gap, isBlank c = true
  free : before.getLast?.any isNamePart = false

/-- Whether there are so many calls of `name`, each behind the end of the one before. -/
def HoldsCalls (name : Text) : Nat → Text → Prop
  | 0, _ => True
  | n + 1, text => ∃ call : Call name text, HoldsCalls name n call.after

section Pattern

variable {name : Text} {s s' : Progress}

theorem ways_callOf_iff : (callOf name).Ways s s' ↔
    ∃ gap, (∀ c ∈ gap, isBlank c = true) ∧ s.place.isAfter isNamePart = false ∧
      s.place.Passes (name ++ (gap ++ ['('])) s'.place ∧ s'.captures = s.captures := by
  constructor
  · rintro ⟨s₃, ⟨s₂, ⟨s₁, ⟨hfree, rfl⟩, hname, hcname⟩, gap, hgap, hpgap, hcgap⟩, hparen, hcparen⟩
    refine ⟨gap, hgap, Bool.not_eq_true' _ |>.mp hfree, hname.trans (hpgap.trans hparen), ?_⟩
    rw [hcparen, hcgap, hcname]
  · rintro ⟨gap, hgap, hfree, hpasses, hcaptures⟩
    obtain ⟨c₁, hname, hrest⟩ := hpasses.split
    obtain ⟨c₂, hpgap, hparen⟩ := hrest.split
    exact ⟨⟨c₂, s.captures⟩, ⟨⟨c₁, s.captures⟩, ⟨s, ways_notAfter hfree, hname, rfl⟩, gap, hgap,
      hpgap, rfl⟩, hparen, hcaptures⟩

theorem consumes_callOf : (callOf name).consumes = true := by
  have hparen : ("(" : Pattern).consumes = true := rfl
  exact Bool.or_eq_true_iff.mpr (Or.inr hparen)

theorem repeatsText_callOf : (callOf name).repeatsText = true :=
  rfl

end Pattern

variable {name text : Text} {n : Nat}

namespace Call

/-- Of two calls the one that begins first ends first. What the later call leaves over stands behind
an opening parenthesis. -/
theorem exists_after_eq (first call : Call name text) {word : Text}
    (h : call.before = first.before ++ word) :
    ∃ skipped : Text, first.after = skipped ++ call.after ∧
      skipped.getLast?.any isNamePart = false := by
  have hcut : (name ++ first.gap) ++ '(' :: first.after =
      (word ++ (name ++ call.gap)) ++ '(' :: call.after := by
    have htext := first.text_eq.symm.trans call.text_eq
    rw [h, List.append_assoc] at htext
    simpa only [List.append_assoc] using List.append_cancel_left htext
  rcases List.append_eq_append_iff.mp hcut with ⟨rest, -, hrest⟩ | ⟨rest, hrest, hafter⟩
  · cases rest with
    | nil => exact ⟨[], (List.cons.inj hrest).2, rfl⟩
    | cons x rest =>
      refine ⟨rest ++ ['('], ?_, ?_⟩
      · rw [(List.cons.inj hrest).2, List.append_assoc]
        rfl
      · rw [List.getLast?_concat]
        decide
  · cases rest with
    | nil => exact ⟨[], (List.cons.inj hafter).2.symm, rfl⟩
    | cons x rest =>
      -- the parenthesis of the later call would stand in the gap of the first
      obtain ⟨rfl, -⟩ := List.cons.inj hafter
      have hgap : first.gap = (word ++ (name ++ call.gap)).drop name.length ++ '(' :: rest := by
        rw [← List.drop_append_of_le_length, ← hrest, List.drop_left]
        simp only [List.length_append]
        omega
      have hmem : '(' ∈ first.gap := hgap ▸ List.mem_append_right _ List.mem_cons_self
      exact absurd (first.gap_blank '(' hmem) (by decide)

/-- Where a call begins the pattern matches. -/
theorem matchesAt (call : Call name text) {behind : Text}
    (hbehind : (⟨behind, text⟩ : Cursor).isAfter isNamePart = false) :
    ∃ place, (⟨behind, text⟩ : Cursor).Passes call.before place ∧
      (callOf name).matchesAt place = true := by
  have hread : ∃ stop, (⟨behind, text⟩ : Cursor).Passes
      (call.before ++ (name ++ (call.gap ++ ['(']))) stop := by
    refine ⟨⟨_, call.after⟩, ?_, rfl⟩
    simpa using call.text_eq
  obtain ⟨stop, hread⟩ := hread
  obtain ⟨place, hbefore, hcall⟩ := hread.split
  refine ⟨place, hbefore, matchesAt_of_ways repeatsText_callOf (s := ⟨stop, []⟩) ?_⟩
  refine ways_callOf_iff.mpr ⟨call.gap, call.gap_blank, ?_, hcall, rfl⟩
  rw [hbefore.isAfter_eq_any hbehind, call.free]

/-- The match that reads a call. -/
structure ReadBy (call : Call name text) (behind : Text) (m : Match) : Prop where
  start : (⟨behind, text⟩ : Cursor).Passes call.before m.start
  stop : (⟨behind, text⟩ : Cursor).Passes (call.before ++ (name ++ (call.gap ++ ['(']))) m.stop

variable {call : Call name text} {behind : Text} {m : Match}

theorem ReadBy.after_eq (h : call.ReadBy behind m) : m.stop.ahead = call.after := by
  have hread : text = (call.before ++ (name ++ (call.gap ++ ['(']))) ++ m.stop.ahead := h.stop.1
  have htext := hread.symm.trans call.text_eq
  simpa only [List.append_assoc, List.append_cancel_left_eq, List.cons_append, List.nil_append,
    List.cons.injEq, true_and] using htext

/-- No name goes on behind the parenthesis of a call. -/
theorem ReadBy.isAfter_stop (h : call.ReadBy behind m) : m.stop.isAfter isNamePart = false := by
  have hread : (⟨behind, text⟩ : Cursor).Passes
      ((call.before ++ (name ++ call.gap)) ++ ['(']) m.stop := by
    simpa only [List.append_assoc] using h.stop
  rw [hread.isAfter_eq (List.concat_ne_nil _ _), List.getLast_concat]
  decide

/-- Whatever matches is a call. -/
theorem exists_readBy {before : Text}
    (hbehind : (⟨behind, text⟩ : Cursor).isAfter isNamePart = false)
    (hbefore : (⟨behind, text⟩ : Cursor).Passes before m.start)
    (hm : (callOf name).matchAt? m.start = some m) :
    ∃ call : Call name text, call.before = before ∧ call.ReadBy behind m := by
  obtain ⟨gap, hgap, hfree, hpasses, -⟩ := ways_callOf_iff.mp (ways_of_matchAt? hm).2
  have hread := hbefore.trans hpasses
  refine ⟨⟨before, gap, m.stop.ahead, ?_, hgap, ?_⟩, rfl, hbefore, hread⟩
  · simpa using hread.1
  · exact (hbefore.isAfter_eq_any hbehind).symm.trans hfree

theorem exists_readBy_of_searchFrom
    (hbehind : (⟨behind, text⟩ : Cursor).isAfter isNamePart = false)
    (h : (callOf name).searchFrom behind text = some m) :
    ∃ call : Call name text, call.ReadBy behind m := by
  have hmem : m ∈ (callOf name).findAllFrom 0 behind text := by
    rw [findAllFrom_of_searchFrom consumes_callOf h]
    exact List.mem_cons_self
  obtain ⟨before, hbefore, hm⟩ := matchAt?_of_mem_findAllFrom hmem
  obtain ⟨call, -, hcall⟩ := exists_readBy hbehind hbefore hm
  exact ⟨call, hcall⟩

/-- Where there is a call, the first match reads one, and none begins before it. -/
theorem exists_first (call : Call name text)
    (hbehind : (⟨behind, text⟩ : Cursor).isAfter isNamePart = false) :
    ∃ (m : Match) (first : Call name text) (word : Text),
      (callOf name).searchFrom behind text = some m ∧ first.ReadBy behind m ∧
        call.before = first.before ++ word := by
  obtain ⟨place, hplace, hmatches⟩ := call.matchesAt hbehind
  obtain ⟨m, before, word, hsearch, hword, hbefore, hm⟩ := exists_searchFrom hplace hmatches
  obtain ⟨first, rfl, hfirst⟩ := exists_readBy hbehind hbefore hm
  exact ⟨m, first, word, hsearch, hfirst, hword⟩

end Call

namespace HoldsCalls

theorem append_left {lead : Text} (hlead : lead.getLast?.any isNamePart = false)
    (h : HoldsCalls name n text) : HoldsCalls name n (lead ++ text) := by
  cases n with
  | zero => trivial
  | succ n =>
    obtain ⟨call, hrest⟩ := h
    refine ⟨⟨lead ++ call.before, call.gap, call.after, ?_, call.gap_blank, ?_⟩, hrest⟩
    · rw [List.append_assoc, ← call.text_eq]
    · have hfree := call.free
      rw [List.getLast?_append]
      cases hlast : call.before.getLast? with
      | none => exact hlead
      | some c =>
        rw [hlast] at hfree
        exact hfree

theorem append_right (h : HoldsCalls name n text) (trail : Text) :
    HoldsCalls name n (text ++ trail) := by
  induction n generalizing text with
  | zero => trivial
  | succ n ih =>
    obtain ⟨call, hrest⟩ := h
    refine ⟨⟨call.before, call.gap, call.after ++ trail, ?_, call.gap_blank, call.free⟩, ih hrest⟩
    have hread := congrArg (· ++ trail) call.text_eq
    simpa only [List.append_assoc, List.cons_append] using hread

/-- Behind the last parenthesis no call ends. -/
theorem of_append_right {trail : Text} (htrail : '(' ∉ trail)
    (h : HoldsCalls name n (text ++ trail)) : HoldsCalls name n text := by
  induction n generalizing text with
  | zero => trivial
  | succ n ih =>
    obtain ⟨call, hrest⟩ := h
    have htext : text ++ trail = (call.before ++ (name ++ call.gap)) ++ '(' :: call.after := by
      simpa only [List.append_assoc] using call.text_eq
    rcases List.append_eq_append_iff.mp htext with ⟨rest, -, hrest'⟩ | ⟨rest, hread, hafter⟩
    · have hmem : '(' ∈ trail := hrest' ▸ List.mem_append_right rest List.mem_cons_self
      exact absurd hmem htrail
    · cases rest with
      | nil =>
        rw [List.nil_append] at hafter
        exact absurd (hafter ▸ List.mem_cons_self) htrail
      | cons x rest =>
        obtain ⟨rfl, hleft⟩ := List.cons.inj hafter
        rw [hleft] at hrest
        refine ⟨⟨call.before, call.gap, rest, ?_, call.gap_blank, call.free⟩, ih hrest⟩
        simpa only [List.append_assoc] using hread

/-- No call begins in white space. -/
theorem of_append_left (hname : isName name = true) {lead : Text}
    (hlead : ∀ c ∈ lead, isBlank c = true) (h : HoldsCalls name n (lead ++ text)) :
    HoldsCalls name n text := by
  cases n with
  | zero => trivial
  | succ n =>
    obtain ⟨call, hrest⟩ := h
    rcases List.append_eq_append_iff.mp call.text_eq with ⟨rest, hbefore, hread⟩ |
      ⟨rest, hlead', hread⟩
    · refine ⟨⟨rest, call.gap, call.after, hread, call.gap_blank, ?_⟩, hrest⟩
      have hfree := call.free
      rw [hbefore, List.getLast?_append] at hfree
      cases hlast : rest.getLast? with
      | none => rfl
      | some c =>
        rw [hlast] at hfree
        exact hfree
    · cases rest with
      | nil => exact ⟨⟨[], call.gap, call.after, hread.symm, call.gap_blank, rfl⟩, hrest⟩
      | cons x rest =>
        obtain ⟨c, name', rfl⟩ := List.exists_cons_of_ne_nil (ne_nil_of_isName hname)
        obtain ⟨rfl, -⟩ := List.cons.inj hread
        have hblank := hlead c (hlead' ▸ List.mem_append_right _ List.mem_cons_self)
        have hpart := isNamePart_of_isName hname c List.mem_cons_self
        exact absurd hblank (Bool.eq_false_iff.mp (isBlank_of_isNamePart hpart))

end HoldsCalls

/-- White space around a text holds no part of a call. -/
theorem holdsCalls_iff_of_padded (hname : isName name = true) {lead inner trail : Text}
    (htext : text = lead ++ (inner ++ trail)) (hlead : ∀ c ∈ lead, isBlank c = true)
    (htrail : ∀ c ∈ trail, isBlank c = true) :
    HoldsCalls name n inner ↔ HoldsCalls name n text := by
  subst htext
  have hparen : '(' ∉ trail := fun hmem => absurd (htrail '(' hmem) (by decide)
  have hfree : lead.getLast?.any isNamePart = false := by
    cases hlast : lead.getLast? with
    | none => rfl
    | some c => exact isNamePart_of_isBlank (hlead c (List.mem_of_getLast? hlast))
  exact ⟨fun h => (h.append_right trail).append_left hfree,
    fun h => (h.of_append_left hname hlead).of_append_right hparen⟩

theorem holdsCalls_trim_iff (hname : isName name = true) :
    HoldsCalls name n text.trim ↔ HoldsCalls name n text := by
  obtain ⟨lead, trail, htext, hlead, htrail⟩ := text.exists_trim_eq
  exact holdsCalls_iff_of_padded hname htext hlead htrail

theorem holdsCalls_trimEnd_iff (hname : isName name = true) :
    HoldsCalls name n text.trimEnd ↔ HoldsCalls name n text := by
  obtain ⟨trail, htext, htrail⟩ := text.exists_trimEnd_eq
  have hpadded : text = [] ++ (text.trimEnd ++ trail) := htext
  exact holdsCalls_iff_of_padded hname hpadded (List.forall_mem_nil _) htrail

/-- The matches one behind the other are as many as there can be calls without overlap: whatever
calls are chosen, the first match leaves over all but the first of them. -/
theorem le_length_findAllFrom_iff {behind : Text}
    (hbehind : (⟨behind, text⟩ : Cursor).isAfter isNamePart = false) :
    n ≤ ((callOf name).findAllFrom 0 behind text).length ↔ HoldsCalls name n text := by
  induction n generalizing behind text with
  | zero => exact iff_of_true (Nat.zero_le _) trivial
  | succ n ih =>
    cases hsearch : (callOf name).searchFrom behind text with
    | none =>
      rw [findAllFrom_eq_nil hsearch]
      refine iff_of_false (Nat.not_succ_le_zero n) ?_
      rintro ⟨call, -⟩
      obtain ⟨m, -, -, hsome, -⟩ := call.exists_first hbehind
      exact absurd (hsearch.symm.trans hsome) (by simp)
    | some m =>
      obtain ⟨first, hfirst⟩ := Call.exists_readBy_of_searchFrom hbehind hsearch
      rw [findAllFrom_of_searchFrom consumes_callOf hsearch, List.length_cons,
        Nat.add_le_add_iff_right, ih hfirst.isAfter_stop]
      constructor
      · intro hrest
        exact ⟨first, hfirst.after_eq ▸ hrest⟩
      · rintro ⟨call, hrest⟩
        obtain ⟨m', first', word, hsearch', hfirst', hword⟩ := call.exists_first hbehind
        obtain rfl := Option.some.inj (hsearch.symm.trans hsearch')
        obtain ⟨skipped, hafter, hfree⟩ := first'.exists_after_eq call hword
        rw [hfirst'.after_eq, hafter]
        exact hrest.append_left hfree

theorem le_length_findAll_iff : n ≤ ((callOf name).findAll text).length ↔ HoldsCalls name n text :=
  le_length_findAllFrom_iff rfl

instance (name : Text) (n : Nat) (text : Text) : Decidable (HoldsCalls name n text) :=
  decidable_of_iff (n ≤ ((callOf name).findAll text).length) le_length_findAll_iff

end CodeGauge.TextScan
