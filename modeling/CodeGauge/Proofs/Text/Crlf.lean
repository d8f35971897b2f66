import CodeGauge.Proofs.Text.Blank
import CodeGauge.Proofs.Text.Lines
import CodeGauge.Proofs.Text.Pieces

/-!
Line breaks with and without a carriage return. A text keeps its blank and its trimmed parts when
every line feed gets a carriage return in front, and its lines but the last one get the return at
their end.
-/
namespace CodeGauge.Text

@[simp]
theorem crlf_nil : crlf [] = [] :=
  rfl

@[simp]
theorem crlf_feed_cons (rest : Text) : crlf ('\n' :: rest) = '\r' :: '\n' :: crlf rest :=
  rfl

@[simp]
theorem crlf_cons {c : Char} (hc : c ≠ '\n') (rest : Text) : crlf (c :: rest) = c :: crlf rest := by
  rw [crlf, List.flatMap_cons, if_neg hc]
  rfl

@[simp]
theorem crlf_append (text text' : Text) : crlf (text ++ text') = crlf text ++ crlf text' :=
  List.flatMap_append

theorem crlf_eq_self {text : Text} (h : '\n' ∉ text) : crlf text = text := by
  induction text with
  | nil => rfl
  | cons c rest ih =>
    have hc : c ≠ '\n' := fun heq => h (heq ▸ List.mem_cons_self)
    rw [crlf_cons hc, ih fun hmem => h (List.mem_cons_of_mem c hmem)]

theorem count_crlf (text : Text) : (crlf text).count '\n' = text.count '\n' := by
  induction text with
  | nil => rfl
  | cons c rest ih =>
    by_cases hc : c = '\n'
    · subst hc
      rw [crlf_feed_cons, List.count_cons_of_ne (by decide), List.count_cons_self,
        List.count_cons_self, ih]
    · rw [crlf_cons hc, List.count_cons_of_ne hc, List.count_cons_of_ne hc, ih]

theorem length_le_length_crlf (text : Text) : text.length ≤ (crlf text).length := by
  induction text with
  | nil => exact Nat.le_refl _
  | cons c rest ih =>
    by_cases hc : c = '\n'
    · subst hc
      simp only [crlf_feed_cons, List.length_cons]
      omega
    · simp only [crlf_cons hc, List.length_cons]
      omega

section Class

variable {p : Char → Bool}

theorem all_crlf (h : p '\r' = p '\n') (text : Text) : (crlf text).all p = text.all p := by
  induction text with
  | nil => rfl
  | cons c rest ih =>
    by_cases hc : c = '\n'
    · subst hc
      simp [h, ih]
    · simp [hc, ih]

theorem dropWhile_crlf (h : p '\r' = p '\n') (text : Text) :
    (crlf text).dropWhile p = crlf (text.dropWhile p) := by
  induction text with
  | nil => rfl
  | cons c rest ih =>
    by_cases hc : c = '\n'
    · subst hc
      by_cases hp : p '\n' = true
      · simp [h, hp, ih]
      · simp [h, hp]
    · by_cases hp : p c = true
      · simp [hc, hp, ih]
      · simp [hc, hp]

theorem takeWhile_crlf (h : p '\r' = p '\n') (text : Text) :
    (crlf text).takeWhile p = crlf (text.takeWhile p) := by
  induction text with
  | nil => rfl
  | cons c rest ih =>
    by_cases hc : c = '\n'
    · subst hc
      by_cases hp : p '\n' = true
      · simp [h, hp, ih]
      · simp [h, hp]
    · by_cases hp : p c = true
      · simp [hc, hp, ih]
      · simp [hc, hp]

end Class

section Blank

theorem isAllBlank_crlf (text : Text) : (crlf text).isAllBlank = text.isAllBlank :=
  all_crlf rfl text

theorem isAllBlank_append_return (text : Text) : (text ++ ['\r']).isAllBlank = text.isAllBlank := by
  have hreturn : isAllBlank ['\r'] = true := by decide
  rw [isAllBlank, List.all_append, ← isAllBlank, ← isAllBlank, hreturn, Bool.and_true]

theorem trimStart_crlf (text : Text) : (crlf text).trimStart = crlf text.trimStart :=
  dropWhile_crlf rfl text

/-- A line feed at the end is white space, so that nothing of a trimmed text is. -/
theorem trimEnd_crlf (text : Text) : (crlf text).trimEnd = crlf text.trimEnd := by
  obtain ⟨trail, htext, htrail⟩ := text.exists_trimEnd_eq
  have hblank : (crlf trail).all isBlank = true := by
    rw [all_crlf rfl, List.all_eq_true]
    exact htrail
  have hkept : (crlf text.trimEnd).trimEnd = crlf text.trimEnd := by
    rcases List.eq_nil_or_concat' text.trimEnd with hnil | ⟨front, c, hlast⟩
    · rw [hnil]
      rfl
    · have hc : isBlank c = false :=
        isBlank_getLast?_trimEnd text (by rw [hlast, List.getLast?_concat])
      have hfeed : c ≠ '\n' := by
        rintro rfl
        exact absurd hc (by decide)
      rw [hlast, crlf_append, crlf_cons hfeed, trimEnd_append_cons _ hc]
      rfl
  calc (crlf text).trimEnd
      = (crlf text.trimEnd ++ crlf trail).trimEnd := by rw [← crlf_append, ← htext]
    _ = (crlf text.trimEnd).trimEnd := trimEnd_append_blank _ (List.all_eq_true.mp hblank)
    _ = crlf text.trimEnd := hkept

theorem trim_append_return (text : Text) : (text ++ ['\r']).trim = text.trim :=
  trim_append_blank text (List.forall_mem_singleton.mpr rfl)

theorem isEmpty_trim (text : Text) : text.trim.isEmpty = text.isAllBlank := by
  obtain ⟨lead, trail, htext, hlead, htrail⟩ := text.exists_trim_eq
  rw [Bool.eq_iff_iff, List.isEmpty_iff, isAllBlank, List.all_eq_true]
  constructor
  · intro hnil c hc
    rw [htext, hnil, List.nil_append] at hc
    rcases List.mem_append.mp hc with hc | hc
    · exact hlead c hc
    · exact htrail c hc
  · intro hall
    rw [trim, trimStart, List.dropWhile_eq_nil_iff.mpr hall]
    rfl

end Blank

theorem afterLast_concat (mark : Char) (front : Text) (c : Char) :
    afterLast mark (front ++ [c]) = if c = mark then [] else afterLast mark front ++ [c] := by
  rw [afterLast, List.reverse_concat]
  by_cases hc : c = mark
  · simp [hc]
  · simp [hc, afterLast]

theorem afterLast_crlf {mark : Char} (hreturn : '\r' ≠ mark) (hfeed : '\n' ≠ mark) (text : Text) :
    afterLast mark (crlf text) = crlf (afterLast mark text) := by
  induction text using List.reverseRecOn with
  | nil => rfl
  | append_singleton front c ih =>
    rw [crlf_append, afterLast_concat]
    by_cases hc : c = '\n'
    · subst hc
      have hsplit : crlf front ++ crlf ['\n'] = (crlf front ++ ['\r']) ++ ['\n'] := by
        simp
      rw [hsplit, afterLast_concat, afterLast_concat, if_neg hfeed, if_neg hreturn, if_neg hfeed,
        ih]
      simp
    · rw [crlf_cons hc, crlf_nil, afterLast_concat, ih]
      by_cases hmark : c = mark
      · rw [if_pos hmark, if_pos hmark, crlf_nil]
      · rw [if_neg hmark, if_neg hmark, crlf_append, crlf_cons hc, crlf_nil]

theorem isAllBlank_dropLast_crlf (text : Text) :
    isAllBlank (crlf text).dropLast = isAllBlank text.dropLast := by
  rcases List.eq_nil_or_concat' text with rfl | ⟨front, c, rfl⟩
  · rfl
  · rw [List.dropLast_concat, crlf_append]
    by_cases hc : c = '\n'
    · subst hc
      have hsplit : crlf front ++ crlf ['\n'] = (crlf front ++ ['\r']) ++ ['\n'] := by
        simp
      rw [hsplit, List.dropLast_concat, isAllBlank_append_return, isAllBlank_crlf]
    · rw [crlf_cons hc, crlf_nil, List.dropLast_concat, isAllBlank_crlf]

section Pieces

/-- The same lines, each with a carriage return at its end, the last one maybe without. -/
inductive Returned : List Text → List Text → Prop
  | nil : Returned [] []
  | last (line : Text) : Returned [line] [line]
  | cons (line : Text) {lines lines' : List Text} (rest : Returned lines lines') :
    Returned (line :: lines) ((line ++ ['\r']) :: lines')

theorem returned_pieces (text : Text) : Returned (pieces '\n' text) (pieces '\n' (crlf text)) := by
  induction text with
  | nil => exact Returned.last []
  | cons c rest ih =>
    by_cases hc : c = '\n'
    · subst hc
      have hpieces : pieces '\n' ('\r' :: '\n' :: crlf rest) = ['\r'] :: pieces '\n' (crlf rest) :=
        pieces_append_separator '\n' ['\r'] (crlf rest)
      rw [crlf_feed_cons, hpieces]
      exact Returned.cons [] ih
    · rw [pieces, pieces] at ih
      rw [crlf_cons hc, pieces_cons_of_ne hc, pieces_cons_of_ne hc]
      generalize (cut '\n' rest).1 = line, (cut '\n' rest).2 = lines,
        (cut '\n' (crlf rest)).1 = line', (cut '\n' (crlf rest)).2 = lines' at ih
      cases ih with
      | last => exact Returned.last (c :: line)
      | cons _ ih => exact Returned.cons (c :: line) ih

variable {lines lines' : List Text}

theorem Returned.eq_nil_iff (h : Returned lines lines') : lines' = [] ↔ lines = [] := by
  cases h <;> simp

theorem rdropWhile_cons (p : Text → Bool) (line : Text) (rest : List Text) :
    (line :: rest).rdropWhile p =
      if rest.rdropWhile p = [] then if p line then [] else [line]
      else line :: rest.rdropWhile p := by
  rw [List.rdropWhile, List.reverse_cons, List.dropWhile_append, List.rdropWhile]
  by_cases hrest : rest.reverse.dropWhile p = []
  · by_cases hline : p line = true
    · simp [hrest, hline]
    · simp [hrest, hline]
  · simp [hrest]

theorem Returned.rdropWhile {p : Text → Bool} (hp : ∀ line, p (line ++ ['\r']) = p line)
    (h : Returned lines lines') : Returned (lines.rdropWhile p) (lines'.rdropWhile p) := by
  induction h with
  | nil => exact Returned.nil
  | last line =>
    rw [rdropWhile_cons, if_pos (List.rdropWhile_nil p)]
    split
    · exact Returned.nil
    · exact Returned.last line
  | @cons line rest rest' _ ih =>
    rw [rdropWhile_cons, rdropWhile_cons, hp]
    by_cases hrest : rest.rdropWhile p = []
    · rw [if_pos hrest, if_pos (ih.eq_nil_iff.mpr hrest)]
      split
      · exact Returned.nil
      · exact Returned.cons line Returned.nil
    · rw [if_neg hrest, if_neg fun hnil => hrest (ih.eq_nil_iff.mp hnil)]
      exact Returned.cons line ih

/-- Joined, the lines differ in their breaks alone, and maybe in one more return at the end. -/
theorem Returned.join_eq (h : Returned lines lines') (hlines : ∀ line ∈ lines, '\n' ∉ line) :
    join ['\n'] lines' = crlf (join ['\n'] lines) ∨
      join ['\n'] lines' = crlf (join ['\n'] lines) ++ ['\r'] := by
  induction h with
  | nil => exact Or.inl rfl
  | last line =>
    rw [join, List.intercalate_singleton, crlf_eq_self (hlines line List.mem_cons_self)]
    exact Or.inl rfl
  | @cons line rest rest' hreturned ih =>
    have hline := crlf_eq_self (hlines line List.mem_cons_self)
    by_cases hrest : rest = []
    · have hrest' := hreturned.eq_nil_iff.mpr hrest
      rw [hrest, hrest', join, join, List.intercalate_singleton, List.intercalate_singleton, hline]
      exact Or.inr rfl
    · have hrest' : rest' ≠ [] := fun hnil => hrest (hreturned.eq_nil_iff.mp hnil)
      have hjoined : crlf (join ['\n'] (line :: rest)) =
          line ++ ['\r'] ++ ['\n'] ++ crlf (join ['\n'] rest) := by
        rw [join, List.intercalate_cons_of_ne_nil hrest, crlf_append, crlf_append, hline, join]
        simp
      rw [hjoined, join, List.intercalate_cons_of_ne_nil hrest', ← join]
      rcases ih fun other hother => hlines other (List.mem_cons_of_mem line hother) with heq | heq
      · exact Or.inl (by rw [heq])
      · exact Or.inr (by rw [heq, List.append_assoc, List.append_assoc, List.append_assoc]; simp)

end Pieces

end CodeGauge.Text
