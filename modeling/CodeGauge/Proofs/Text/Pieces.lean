import CodeGauge.Text.Basic

/-!
The pieces of a text between separators. Joined again they are the text, joining only the first of
them gives a beginning of it, and what is left behind the first of them is an end of it.
-/
namespace CodeGauge.Text

theorem join_cut (separator : Char) (text : Text) :
    join [separator] ((cut separator text).1 :: (cut separator text).2) = text := by
  induction text with
  | nil => rfl
  | cons c rest ih =>
    rw [join] at ih ⊢
    rw [cut]
    by_cases hc : c = separator
    · simp only [hc, if_true]
      rw [List.intercalate_cons_cons, ih]
      rfl
    · simp only [hc, if_false]
      rw [List.intercalate_cons_cons_left, ih]

theorem join_append (separator : Text) {texts texts' : List Text} (hne : texts ≠ [])
    (hne' : texts' ≠ []) : join separator (texts ++ texts') =
      join separator texts ++ (separator ++ join separator texts') := by
  induction texts with
  | nil => exact absurd rfl hne
  | cons text rest ih =>
    simp only [join] at ih ⊢
    by_cases hrest : rest = []
    · subst hrest
      rw [List.singleton_append, List.intercalate_cons_of_ne_nil hne', List.intercalate_singleton,
        List.append_assoc]
    · have hall : rest ++ texts' ≠ [] := List.append_ne_nil_of_left_ne_nil hrest texts'
      rw [List.cons_append, List.intercalate_cons_of_ne_nil hall,
        List.intercalate_cons_of_ne_nil hrest, ih hrest]
      simp only [List.append_assoc]

theorem join_prefix_join {separator : Text} {texts texts' : List Text} (hne : texts ≠ [])
    (h : texts <+: texts') : join separator texts <+: join separator texts' := by
  obtain ⟨others, rfl⟩ := h
  by_cases hothers : others = []
  · simp [hothers]
  · rw [join_append separator hne hothers]
    exact List.prefix_append _ _

/-- The characters of the piece before the first separator are not separators. -/
theorem cut_fst_eq_takeWhile (separator : Char) (text : Text) :
    (cut separator text).1 = text.takeWhile (· != separator) := by
  induction text with
  | nil => rfl
  | cons c rest ih =>
    rw [cut]
    by_cases hc : c = separator
    · simp [hc]
    · simp [hc, ih]

/-- No piece holds a separator. -/
theorem not_mem_of_mem_pieces {separator : Char} {text piece : Text}
    (h : piece ∈ pieces separator text) : separator ∉ piece := by
  induction text generalizing piece with
  | nil =>
    obtain rfl := List.mem_singleton.mp h
    exact List.not_mem_nil
  | cons c rest ih =>
    rw [pieces, cut] at h
    by_cases hc : c = separator
    · simp only [hc, if_true] at h
      rcases List.mem_cons.mp h with rfl | h
      · exact List.not_mem_nil
      · exact ih h
    · simp only [hc, if_false] at h
      rcases List.mem_cons.mp h with rfl | h
      · intro hmem
        rcases List.mem_cons.mp hmem with heq | hmem
        · exact hc heq.symm
        · exact ih List.mem_cons_self hmem
      · exact ih (List.mem_cons_of_mem _ h)

/-- A joined text ends in the last of its pieces. -/
theorem exists_join_concat (separator last : Text) (texts : List Text) :
    ∃ before, join separator (texts ++ [last]) = before ++ last := by
  by_cases hne : texts = []
  · subst hne
    exact ⟨[], List.intercalate_singleton⟩
  · refine ⟨join separator texts ++ separator, ?_⟩
    rw [join_append separator hne (List.cons_ne_nil last []), join, join,
      List.intercalate_singleton, List.append_assoc]

theorem pieces_cons_self (separator : Char) (rest : Text) :
    pieces separator (separator :: rest) = [] :: pieces separator rest := by
  simp [pieces, cut]

theorem pieces_cons_of_ne {separator c : Char} (hc : c ≠ separator) (rest : Text) :
    pieces separator (c :: rest) = (c :: (cut separator rest).1) :: (cut separator rest).2 := by
  simp [pieces, cut, hc]

/-- A separator parts the pieces before it from the pieces after it. -/
theorem pieces_append_separator (separator : Char) (before after : Text) :
    pieces separator (before ++ separator :: after) =
      pieces separator before ++ pieces separator after := by
  induction before with
  | nil => simp [pieces, cut]
  | cons c rest ih =>
    simp only [pieces, List.cons_append, List.cons.injEq] at ih ⊢
    rw [cut, cut]
    by_cases hc : c = separator
    · simp [hc, ih]
    · simp [hc, ih]

/-- After as many separators as stand in front of a place comes the piece that the place is in. -/
theorem exists_getElem?_pieces (separator : Char) (before after : Text) :
    ∃ lead, (pieces separator (before ++ after))[before.count separator]? =
      some (lead ++ (cut separator after).1) := by
  induction before with
  | nil => exact ⟨[], rfl⟩
  | cons c rest ih =>
    obtain ⟨lead, hlead⟩ := ih
    by_cases hc : c = separator
    · refine ⟨lead, ?_⟩
      rw [hc, List.count_cons_self, ← hlead]
      simp [pieces, cut]
    · rw [List.count_cons_of_ne hc]
      cases hcount : rest.count separator with
      | zero =>
        rw [hcount] at hlead
        refine ⟨c :: lead, ?_⟩
        simp only [pieces, List.getElem?_cons_zero, Option.some.injEq] at hlead ⊢
        simp [cut, hc, hlead]
      | succ n =>
        rw [hcount] at hlead
        refine ⟨lead, ?_⟩
        simp only [pieces, List.getElem?_cons_succ] at hlead ⊢
        simp [cut, hc, hlead]

/-- What follows the first separators of a text. -/
def dropPieces (separator : Char) : Nat → Text → Text
  | 0, text => text
  | _ + 1, [] => []
  | n + 1, c :: rest =>
    if c = separator then dropPieces separator n rest else dropPieces separator (n + 1) rest

/-- Behind whole pieces comes what is left. -/
theorem dropPieces_count {separator : Char} {before : Text}
    (h : before = [] ∨ ∃ front, before = front ++ [separator]) (after : Text) :
    dropPieces separator (before.count separator) (before ++ after) = after := by
  rcases h with rfl | ⟨front, rfl⟩
  · rw [List.count_nil, dropPieces, List.nil_append]
  · rw [List.count_append, List.count_singleton_self, ← List.append_cons]
    induction front with
    | nil => rw [List.count_nil, List.nil_append, dropPieces, if_pos rfl, dropPieces]
    | cons c rest ih =>
      rw [List.cons_append, dropPieces]
      by_cases hc : c = separator
      · rw [if_pos hc, hc, List.count_cons_self]
        exact ih
      · rw [if_neg hc, List.count_cons_of_ne hc]
        exact ih

/-- What is left stands behind whole pieces. -/
theorem exists_eq_append_dropPieces {separator : Char} {n : Nat} {text : Text}
    (h : dropPieces separator n text ≠ []) :
    ∃ before, text = before ++ dropPieces separator n text ∧
      (before = [] ∨ ∃ front, before = front ++ [separator]) ∧ before.count separator = n := by
  fun_induction dropPieces separator n text with
  | case1 text => exact ⟨[], rfl, Or.inl rfl, rfl⟩
  | case2 => exact absurd rfl h
  | case3 n rest ih =>
    obtain ⟨before, htext, hbefore, hcount⟩ := ih h
    refine ⟨separator :: before, congrArg _ htext, Or.inr ?_, by rw [List.count_cons_self, hcount]⟩
    rcases hbefore with rfl | ⟨front, rfl⟩
    · exact ⟨[], rfl⟩
    · exact ⟨separator :: front, rfl⟩
  | case4 n c rest hc ih =>
    obtain ⟨before, htext, hbefore, hcount⟩ := ih h
    refine ⟨c :: before, congrArg _ htext, Or.inr ?_, by rw [List.count_cons_of_ne hc, hcount]⟩
    rcases hbefore with rfl | ⟨front, rfl⟩
    · exact absurd hcount (Nat.succ_ne_zero n).symm
    · exact ⟨c :: front, rfl⟩

/-- The pieces are those that the standard library splits a list into. -/
theorem pieces_eq_splitOn (separator : Char) (text : Text) :
    pieces separator text = text.splitOn separator := by
  induction text with
  | nil => rfl
  | cons c rest ih =>
    rw [List.splitOn_eq_splitOnP] at ih ⊢
    rw [List.splitOnP_cons_eq_if_modifyHead, ← ih, pieces, cut]
    by_cases hc : c = separator
    · simp only [hc, if_true, beq_self_eq_true, pieces]
    · simp only [hc, if_false, beq_iff_eq, pieces, List.modifyHead_cons]

theorem pieces_join {separator : Char} {texts : List Text} (hne : texts ≠ [])
    (h : ∀ text ∈ texts, separator ∉ text) : pieces separator (join [separator] texts) = texts := by
  rw [pieces_eq_splitOn, join]
  exact List.splitOn_intercalate separator h hne

theorem join_pieces (separator : Char) (text : Text) :
    join [separator] (pieces separator text) = text :=
  join_cut separator text

theorem pieces_ne_nil (separator : Char) (text : Text) : pieces separator text ≠ [] :=
  List.cons_ne_nil _ _

/-- The last line that a beginning of a text goes on over holds its last character. -/
theorem exists_mem_getElem?_pieces {separator : Char} {word text : Text} {c : Char}
    (h : word <+: text) (hc : word.getLast? = some c) (hne : c ≠ separator) :
    ∃ piece, (pieces separator text)[word.count separator]? = some piece ∧ c ∈ piece := by
  obtain ⟨front, rfl⟩ := List.getLast?_eq_some_iff.mp hc
  obtain ⟨rest, rfl⟩ := h
  obtain ⟨lead, hpiece⟩ := exists_getElem?_pieces separator front (c :: rest)
  refine ⟨lead ++ (cut separator (c :: rest)).1, ?_, ?_⟩
  · rw [List.count_append, List.count_cons_of_ne hne, List.count_nil, Nat.add_zero,
      ← List.append_cons]
    exact hpiece
  · apply List.mem_append_right lead
    simp [cut, hne]

/-- The first lines of a text hold those of its beginnings that go on over no more lines. -/
theorem prefix_join_take_pieces_iff {separator : Char} {word text : Text} (h : word <+: text)
    (n : Nat) : word <+: join [separator] ((pieces separator text).take (n + 1)) ↔
      word.count separator ≤ n := by
  induction text generalizing word n with
  | nil => simp [List.prefix_nil.mp h]
  | cons c rest ih =>
    cases word with
    | nil => simp
    | cons c' word =>
      obtain ⟨rfl, hword⟩ := List.cons_prefix_cons.mp h
      by_cases hc : c' = separator
      · subst hc
        rw [pieces_cons_self, List.count_cons_self, List.take_succ_cons]
        cases n with
        | zero => simp [join]
        | succ n =>
          have hne : (pieces c' rest).take (n + 1) ≠ [] := by simp [pieces]
          rw [join, List.intercalate_cons_of_ne_nil hne, ← join, List.nil_append,
            List.singleton_append, List.prefix_cons_inj, ih hword, Nat.succ_le_succ_iff]
      · rw [pieces_cons_of_ne hc, List.count_cons_of_ne hc, List.take_succ_cons, join,
          List.intercalate_cons_cons_left, List.prefix_cons_inj, ← ih hword]
        rfl

end CodeGauge.Text
