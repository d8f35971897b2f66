import CodeGauge.Proofs.Pattern.Declaration

/-!
String literals as they are written. Between the quotes there are characters that stand for
themselves and characters behind a backslash, in any order. The pattern for string literals reads
exactly these, and since a quote of the same kind never stands for itself, the text tells where a
literal ends: from any place there is at most one to read.
-/
namespace CodeGauge

/-- A piece of what stands between two quotes: a character for itself or one behind a backslash. -/
inductive QuotedPiece where
  | plain (c : Char)
  | escaped (c : Char)

namespace QuotedPiece

def text : QuotedPiece → Text
  | plain c => [c]
  | escaped c => ['\\', c]

/-- Whether a piece may stand between two such quotes. Only back quotes enclose several lines, and
no line feed is escaped. -/
def Fits (quote : Char) : QuotedPiece → Prop
  | plain c => c ≠ quote ∧ c ≠ '\\' ∧ (c = '\n' → quote = '\x60')
  | escaped c => c ≠ '\n'

instance (quote : Char) : (piece : QuotedPiece) → Decidable (piece.Fits quote)
  | plain _ => inferInstanceAs (Decidable (_ ∧ _ ∧ (_ → _)))
  | escaped _ => inferInstanceAs (Decidable (_ ≠ _))

variable {quote : Char}

/-- The text tells which piece comes first. -/
theorem eq_of_text_append_eq {piece piece' : QuotedPiece} (h : piece.Fits quote)
    (h' : piece'.Fits quote) {rest rest' : Text} (heq : piece.text ++ rest = piece'.text ++ rest') :
    piece = piece' ∧ rest = rest' := by
  cases piece <;> cases piece'
  case plain.plain c c' =>
    obtain ⟨rfl, hrest⟩ := List.cons.inj heq
    exact ⟨rfl, hrest⟩
  case plain.escaped c c' => exact absurd (List.cons.inj heq).1 h.2.1
  case escaped.plain c c' => exact absurd (List.cons.inj heq).1.symm h'.2.1
  case escaped.escaped c c' =>
    obtain ⟨rfl, hrest⟩ := List.cons.inj (List.cons.inj heq).2
    exact ⟨rfl, hrest⟩

/-- No piece begins with the quote that closes the literal. -/
theorem text_append_ne {piece : QuotedPiece} (hquote : quote ≠ '\\') (h : piece.Fits quote)
    (rest rest' : Text) : piece.text ++ rest ≠ quote :: rest' := by
  intro heq
  cases piece
  case plain c => exact h.1 (List.cons.inj heq).1
  case escaped c => exact hquote (List.cons.inj heq).1.symm

/-- The first quote that is no piece closes the literal. -/
theorem eq_of_flatMap_append_eq (hquote : quote ≠ '\\') {pieces pieces' : List QuotedPiece}
    (h : ∀ piece ∈ pieces, piece.Fits quote) (h' : ∀ piece ∈ pieces', piece.Fits quote)
    {rest rest' : Text}
    (heq : pieces.flatMap text ++ quote :: rest = pieces'.flatMap text ++ quote :: rest') :
    pieces = pieces' := by
  induction pieces generalizing pieces' with
  | nil =>
    cases pieces' with
    | nil => rfl
    | cons piece' pieces' =>
      rw [List.flatMap_cons, List.append_assoc] at heq
      exact absurd heq.symm (text_append_ne hquote (h' piece' List.mem_cons_self) _ _)
  | cons piece pieces ih =>
    obtain ⟨hpiece, hpieces⟩ := List.forall_mem_cons.mp h
    rw [List.flatMap_cons, List.append_assoc] at heq
    cases pieces' with
    | nil => exact absurd heq (text_append_ne hquote hpiece _ _)
    | cons piece' pieces' =>
      obtain ⟨hpiece', hpieces'⟩ := List.forall_mem_cons.mp h'
      rw [List.flatMap_cons, List.append_assoc] at heq
      obtain ⟨rfl, hrest⟩ := eq_of_text_append_eq hpiece hpiece' heq
      rw [ih hpieces hpieces' hrest]

end QuotedPiece

/-- A string literal: pieces between two equal quotes. -/
structure StringLiteral where
  quote : Char
  pieces : List QuotedPiece
  quote_mem : quote ∈ quotes
  pieces_fit : ∀ piece ∈ pieces, piece.Fits quote

namespace StringLiteral

/-- What stands between the quotes. -/
def body (l : StringLiteral) : Text :=
  l.pieces.flatMap QuotedPiece.text

def text (l : StringLiteral) : Text :=
  l.quote :: (l.body ++ [l.quote])

theorem quote_ne_backslash (l : StringLiteral) : l.quote ≠ '\\' := by
  have hall : ∀ c ∈ quotes, c ≠ '\\' := List.all_iff_forall_prop.mp (by decide)
  exact hall l.quote l.quote_mem

/-- From a place there is at most one literal. -/
theorem text_eq_of_append_eq {l l' : StringLiteral} {rest rest' : Text}
    (h : l.text ++ rest = l'.text ++ rest') : l.text = l'.text := by
  obtain ⟨hquote, hbody⟩ : l.quote = l'.quote ∧
      (l.body ++ [l.quote]) ++ rest = (l'.body ++ [l'.quote]) ++ rest' := List.cons.inj h
  have hclosed : l.pieces.flatMap QuotedPiece.text ++ l.quote :: rest =
      l'.pieces.flatMap QuotedPiece.text ++ l.quote :: rest' := by
    simpa only [body, ← hquote, List.append_assoc, List.singleton_append] using hbody
  have hpieces : l.pieces = l'.pieces :=
    QuotedPiece.eq_of_flatMap_append_eq l.quote_ne_backslash l.pieces_fit
      (hquote ▸ l'.pieces_fit) hclosed
  rw [text, text, body, body, hquote, hpieces]

end StringLiteral

namespace Pattern

variable {quote : Char} {s s' : Progress}

/-- The characters that do not stand for themselves between two such quotes. -/
def specials (quote : Char) : Text :=
  if quote = '\x60' then [quote, '\\'] else [quote, '\\', '\n']

theorem isNoneOf_specials_iff {c : Char} :
    isNoneOf (specials quote) c = true ↔ (QuotedPiece.plain c).Fits quote := by
  by_cases hquote : quote = '\x60' <;> simp [isNoneOf, specials, QuotedPiece.Fits, hquote]

/-- The pieces that are read on the way from one place to another. -/
structure ReadsPieces (quote : Char) (pieces : List QuotedPiece) (s s' : Progress) : Prop where
  fit : ∀ piece ∈ pieces, piece.Fits quote
  passes : s.place.Passes (pieces.flatMap QuotedPiece.text) s'.place
  captures : s'.captures = s.captures

theorem ReadsPieces.append {pieces pieces' : List QuotedPiece} {middle : Progress}
    (h : ReadsPieces quote pieces s middle) (h' : ReadsPieces quote pieces' middle s') :
    ReadsPieces quote (pieces ++ pieces') s s' where
  fit := List.forall_mem_append.mpr ⟨h.fit, h'.fit⟩
  passes := by
    rw [List.flatMap_append]
    exact h.passes.trans h'.passes
  captures := h'.captures.trans h.captures

theorem exists_readsPieces_of_many (h : (many (isNoneOf (specials quote))).Ways s s') :
    ∃ pieces, ReadsPieces quote pieces s s' := by
  obtain ⟨word, hword, hpasses, hcaptures⟩ := h
  refine ⟨word.map .plain, ?_, ?_, hcaptures⟩
  · intro piece hpiece
    obtain ⟨c, hc, rfl⟩ := List.mem_map.mp hpiece
    exact isNoneOf_specials_iff.mp (hword c hc)
  · have htext : (word.map QuotedPiece.plain).flatMap QuotedPiece.text = word := by
      rw [List.flatMap_map]
      exact List.flatMap_singleton' word
    rwa [htext]

/-- A character behind a backslash, and characters that stand for themselves. -/
def escape (quote : Char) : Pattern :=
  "\\" ++ one (· != '\n') ++ many (isNoneOf (specials quote))

theorem exists_readsPieces_of_escape (h : (escape quote).Ways s s') :
    ∃ pieces, ReadsPieces quote pieces s s' := by
  obtain ⟨s₂, ⟨s₁, ⟨hbackslash, hcaptures₁⟩, c, hc, hchar, hcaptures₂⟩, hmany⟩ := h
  obtain ⟨pieces, hpieces⟩ := exists_readsPieces_of_many hmany
  have hescaped : ReadsPieces quote [.escaped c] s s₂ :=
    ⟨List.forall_mem_singleton.mpr (bne_iff_ne.mp hc), hbackslash.trans hchar,
      hcaptures₂.trans hcaptures₁⟩
  exact ⟨_, hescaped.append hpieces⟩

/-- Between the quotes the pattern reads pieces, and whatever pieces there are. -/
theorem ways_quotedBody_iff : (quotedBody (isNoneOf (specials quote))).Ways s s' ↔
    ∃ pieces, ReadsPieces quote pieces s s' := by
  constructor
  · rintro ⟨middle, hmany, (hescapes : Relation.ReflTransGen (escape quote).Ways middle s')⟩
    obtain ⟨pieces, hpieces⟩ := exists_readsPieces_of_many hmany
    induction hescapes with
    | refl => exact ⟨pieces, hpieces⟩
    | tail _ hstep ih =>
      obtain ⟨front, hfront⟩ := ih
      obtain ⟨back, hback⟩ := exists_readsPieces_of_escape hstep
      exact ⟨front ++ back, hfront.append hback⟩
  · rintro ⟨pieces, hfit, hpasses, hcaptures⟩
    induction pieces generalizing s with
    | nil =>
      obtain ⟨place, captures⟩ := s
      obtain ⟨place', captures'⟩ := s'
      obtain rfl := hpasses.eq_of_nil
      obtain rfl : captures' = captures := hcaptures
      exact ⟨_, ways_many_refl _ _, Relation.ReflTransGen.refl⟩
    | cons piece pieces ih =>
      obtain ⟨hpiece, hpieces⟩ := List.forall_mem_cons.mp hfit
      rw [List.flatMap_cons] at hpasses
      obtain ⟨place, hfirst, hrest⟩ := hpasses.split
      obtain ⟨middle, ⟨word, hword, hpword, hcword⟩, hescapes⟩ :=
        ih (s := ⟨place, s.captures⟩) hpieces hrest hcaptures
      cases piece with
      | plain c =>
        refine ⟨middle, ⟨c :: word, ?_, hfirst.trans hpword, hcword⟩, hescapes⟩
        exact List.forall_mem_cons.mpr ⟨isNoneOf_specials_iff.mpr hpiece, hword⟩
      | escaped c =>
        obtain ⟨place', hbackslash, hchar⟩ := hfirst.split_cons
        have hstep : (escape quote).Ways s middle :=
          ⟨⟨place, s.captures⟩, ⟨⟨place', s.captures⟩, ⟨hbackslash, rfl⟩, c, bne_iff_ne.mpr hpiece,
            hchar, rfl⟩, word, hword, hpword, hcword⟩
        exact ⟨s, ways_many_refl _ _, Relation.ReflTransGen.head hstep hescapes⟩

/-- A literal between two such quotes. -/
def enclosed (quote : Char) : Pattern :=
  .literal [quote] ++ quotedBody (isNoneOf (specials quote)) ++ .literal [quote]

theorem stringLiteral_eq : stringLiteral = anyOf (quotes.map enclosed) :=
  rfl

/-- What the pattern reads is a string literal, and whatever string literal there is. -/
theorem ways_stringLiteral_iff : stringLiteral.Ways s s' ↔
    ∃ l : StringLiteral, s.place.Passes l.text s'.place ∧ s'.captures = s.captures := by
  rw [stringLiteral_eq, ways_anyOf_map_iff]
  constructor
  · rintro ⟨quote, hquote, s₂, ⟨s₁, ⟨hopen, hcaptures₁⟩, hbody⟩, hclose, hcaptures⟩
    obtain ⟨pieces, hfit, hpasses, hcaptures₂⟩ := ways_quotedBody_iff.mp hbody
    exact ⟨⟨quote, pieces, hquote, hfit⟩, hopen.trans (hpasses.trans hclose),
      hcaptures.trans (hcaptures₂.trans hcaptures₁)⟩
  · rintro ⟨l, hpasses, hcaptures⟩
    obtain ⟨c₁, hopen, hrest⟩ := hpasses.split_cons
    obtain ⟨c₂, hbody, hclose⟩ := hrest.split
    have hpieces : ReadsPieces l.quote l.pieces ⟨c₁, s.captures⟩ ⟨c₂, s.captures⟩ :=
      ⟨l.pieces_fit, hbody, rfl⟩
    exact ⟨l.quote, l.quote_mem, ⟨c₂, s.captures⟩, ⟨⟨c₁, s.captures⟩, ⟨hopen, rfl⟩,
      ways_quotedBody_iff.mpr ⟨l.pieces, hpieces⟩⟩, hclose, hcaptures⟩

end Pattern

end CodeGauge
