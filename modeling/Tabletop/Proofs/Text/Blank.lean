import Mathlib.Data.List.DropRight
import Mathlib.Data.List.TakeWhile
import Tabletop.Text.Blank

/-!
# Laws of trimmed and parted texts

Trimming takes blanks and nothing else (`exists_blanks_append_trim`), leaves a text with no blank at
either end (`trimmed_trim`), and changes nothing of such a text (`Trimmed.trim_eq`).

Parting a text at a separator and joining it again are inverse to each other as long as no piece
holds the separator (`intercalate_splitOn`, `splitOn_intercalate`), so a text is parted into given
pieces exactly if it is those pieces joined (`splitOn_eq_iff`).
-/

set_option autoImplicit false

namespace Tabletop.Text

/-! ## Blanks -/

/-- The visible ASCII characters are no blanks. -/
theorem isBlank_of_visible {c : Char} (hlow : 0x20 < c.toNat) (hhigh : c.toNat < 0x7F) :
    isBlank c = false := by
  simp only [isBlank, blankRanges, List.any_cons, List.any_nil, Bool.or_false, Bool.or_eq_false_iff,
    Bool.and_eq_false_iff, decide_eq_false_iff_not]
  omega

theorem isBlank_space : isBlank ' ' = true := by
  decide

theorem isBlank_comma : isBlank ',' = false := by
  decide

/-- A text without a blank at its start or its end. -/
structure Trimmed (cs : List Char) : Prop where
  head : ∀ c ∈ cs.head?, isBlank c = false
  last : ∀ c ∈ cs.getLast?, isBlank c = false

theorem Trimmed.of_forall {cs : List Char} (h : ∀ c ∈ cs, isBlank c = false) : Trimmed cs where
  head c hc := h c (List.mem_of_mem_head? hc)
  last c hc := h c (List.mem_of_getLast? hc)

theorem trim_eq_rdropWhile (cs : List Char) :
    trim cs = (cs.dropWhile isBlank).rdropWhile isBlank :=
  rfl

/-- A text is its trimmed form with blanks before and after it. -/
theorem exists_blanks_append_trim (cs : List Char) :
    ∃ before after : List Char, cs = before ++ trim cs ++ after ∧
      (∀ c ∈ before, isBlank c = true) ∧ ∀ c ∈ after, isBlank c = true := by
  refine ⟨cs.takeWhile isBlank, (cs.dropWhile isBlank).rtakeWhile isBlank, ?_, ?_, ?_⟩
  · rw [trim_eq_rdropWhile, List.append_assoc, List.rdropWhile_append_rtakeWhile,
      List.takeWhile_append_dropWhile]
  · intro c hc
    exact List.mem_takeWhile_imp hc
  · intro c hc
    exact List.mem_rtakeWhile_imp hc

theorem mem_of_mem_trim {c : Char} {cs : List Char} (h : c ∈ trim cs) : c ∈ cs := by
  obtain ⟨before, after, hcs, -, -⟩ := exists_blanks_append_trim cs
  rw [hcs]
  simp [h]

theorem trimmed_trim (cs : List Char) : Trimmed (trim cs) where
  head c hc := by
    -- what is left after the blanks at the end starts as what was left after those at the start
    obtain ⟨rest, hrest⟩ : trim cs <+: cs.dropWhile isBlank := List.rdropWhile_prefix isBlank _
    have hhead : (cs.dropWhile isBlank).head? = some c := by
      rw [← hrest, List.head?_append, Option.mem_def.1 hc]
      rfl
    have hnot := List.head?_dropWhile_not isBlank cs
    rw [hhead] at hnot
    simpa using hnot
  last c hc := by
    have hne : trim cs ≠ [] := by
      intro hnil
      simp [hnil] at hc
    have hlast := List.rdropWhile_last_not isBlank (cs.dropWhile isBlank) hne
    have hc' : (trim cs).getLast hne = c := by
      rw [List.getLast?_eq_some_getLast hne] at hc
      simpa using hc
    rw [← hc']
    exact eq_false_of_ne_true hlast

theorem Trimmed.trim_eq {cs : List Char} (h : Trimmed cs) : trim cs = cs := by
  have hfront : cs.dropWhile isBlank = cs := by
    rw [List.dropWhile_eq_self_iff]
    intro hlen
    have hhead : cs[0] ∈ cs.head? := by simp [List.head?_eq_getElem?]
    simp [h.head _ hhead]
  have hback : cs.rdropWhile isBlank = cs := by
    rw [List.rdropWhile_eq_self_iff]
    intro hne
    simp [h.last _ (List.getLast?_eq_some_getLast hne)]
  rw [trim_eq_rdropWhile, hfront, hback]

theorem trim_of_forall {cs : List Char} (h : ∀ c ∈ cs, isBlank c = false) : trim cs = cs :=
  (Trimmed.of_forall h).trim_eq

/-- A text is trimmed if it starts as one that does and ends as one that does. -/
theorem Trimmed.append_cons {front back : List Char} (c : Char) (hne : front ≠ [])
    (hfront : ∀ d ∈ front.head?, isBlank d = false) (hne' : back ≠ [])
    (hback : ∀ d ∈ back.getLast?, isBlank d = false) : Trimmed (front ++ c :: back) where
  head d hd := by
    obtain ⟨e, es, rfl⟩ := List.exists_cons_of_ne_nil hne
    exact hfront d (by simpa using hd)
  last d hd := by
    refine hback d ?_
    rw [List.getLast?_append, List.getLast?_cons_of_ne_nil hne'] at hd
    rw [List.getLast?_eq_some_getLast hne'] at hd ⊢
    simpa using hd

/-! ## Parted texts -/

/-- The characters of one kind at the start of a text that goes on with one of another kind. -/
theorem takeWhile_append_of_head {p : Char → Bool} {front back : List Char}
    (hfront : ∀ c ∈ front, p c = true) (hback : ∀ c ∈ back.head?, p c = false) :
    (front ++ back).takeWhile p = front := by
  rw [List.takeWhile_append_of_pos hfront]
  cases back with
  | nil => simp
  | cons c back => simp [hback c rfl]

theorem dropWhile_append_of_head {p : Char → Bool} {front back : List Char}
    (hfront : ∀ c ∈ front, p c = true) (hback : ∀ c ∈ back.head?, p c = false) :
    (front ++ back).dropWhile p = back := by
  rw [List.dropWhile_append_of_pos hfront]
  cases back with
  | nil => rfl
  | cons c back => simp [hback c rfl]

theorem splitOn_eq_listSplitOn (sep : Char) (cs : List Char) : splitOn sep cs = cs.splitOn sep := by
  induction cs with
  | nil => rfl
  | cons c cs ih =>
    rw [List.splitOn_cons_eq_if_modifyHead, ← ih, splitOn]
    by_cases hc : c = sep
    · simp [hc]
    · obtain ⟨piece, pieces, hpieces⟩ := List.exists_cons_of_ne_nil (splitOn_ne_nil sep cs)
      simp [hc, hpieces]

theorem intercalate_splitOn (sep : Char) (cs : List Char) :
    [sep].intercalate (splitOn sep cs) = cs := by
  rw [splitOn_eq_listSplitOn, List.intercalate_splitOn]

theorem splitOn_intercalate {sep : Char} {pieces : List (List Char)}
    (h : ∀ piece ∈ pieces, sep ∉ piece) (hne : pieces ≠ []) :
    splitOn sep ([sep].intercalate pieces) = pieces := by
  rw [splitOn_eq_listSplitOn, List.splitOn_intercalate sep h hne]

theorem not_mem_of_mem_splitOn {sep : Char} {cs piece : List Char} (h : piece ∈ splitOn sep cs) :
    sep ∉ piece := by
  induction cs generalizing piece with
  | nil =>
    simp only [splitOn, List.mem_singleton] at h
    simp [h]
  | cons c cs ih =>
    obtain ⟨first, others, hpieces⟩ := List.exists_cons_of_ne_nil (splitOn_ne_nil sep cs)
    -- a separator starts a new empty piece, any other character goes to the first one
    by_cases hc : c = sep
    · rw [splitOn, if_pos hc, List.mem_cons] at h
      rcases h with rfl | h
      · simp
      · exact ih h
    · rw [splitOn, if_neg hc, hpieces, List.mem_cons] at h
      rcases h with rfl | h
      · have hfirst : sep ∉ first := ih (by simp [hpieces])
        simp [hfirst, Ne.symm hc]
      · exact ih (by simp [hpieces, h])

/-- A text is parted into given pieces exactly if it is those pieces with the separator between
them and none of them holds the separator. -/
theorem splitOn_eq_iff {sep : Char} {cs : List Char} {pieces : List (List Char)}
    (hne : pieces ≠ []) :
    splitOn sep cs = pieces ↔
      cs = [sep].intercalate pieces ∧ ∀ piece ∈ pieces, sep ∉ piece := by
  constructor
  · rintro rfl
    exact ⟨(intercalate_splitOn sep cs).symm, fun piece h => not_mem_of_mem_splitOn h⟩
  · rintro ⟨rfl, h⟩
    exact splitOn_intercalate h hne

theorem mem_intercalate {sep c : Char} {pieces : List (List Char)}
    (h : c ∈ [sep].intercalate pieces) : c = sep ∨ ∃ piece ∈ pieces, c ∈ piece := by
  induction pieces with
  | nil => simp at h
  | cons piece pieces ih =>
    cases pieces with
    | nil => exact Or.inr ⟨piece, by simp, by simpa using h⟩
    | cons next pieces =>
      rw [List.intercalate_cons_cons, List.mem_append, List.mem_append] at h
      rcases h with (h | h) | h
      · exact Or.inr ⟨piece, by simp, h⟩
      · exact Or.inl (by simpa using h)
      · rcases ih h with rfl | ⟨other, hother, hc⟩
        · exact Or.inl rfl
        · exact Or.inr ⟨other, List.mem_cons_of_mem _ hother, hc⟩

theorem mem_intercalate_of_mem {sep c : Char} {piece : List Char} {pieces : List (List Char)}
    (hpiece : piece ∈ pieces) (hc : c ∈ piece) : c ∈ [sep].intercalate pieces := by
  induction pieces with
  | nil => simp at hpiece
  | cons first pieces ih =>
    cases pieces with
    | nil =>
      obtain rfl := List.mem_singleton.1 hpiece
      simpa using hc
    | cons next pieces =>
      rw [List.intercalate_cons_cons, List.append_assoc]
      rcases List.mem_cons.1 hpiece with rfl | hpiece
      · exact List.mem_append_left _ hc
      · exact List.mem_append_right _ (List.mem_append_right _ (ih hpiece))

theorem mem_of_mem_splitOn {sep c : Char} {cs piece : List Char} (hpiece : piece ∈ splitOn sep cs)
    (hc : c ∈ piece) : c ∈ cs := by
  rw [← intercalate_splitOn sep cs]
  exact mem_intercalate_of_mem hpiece hc

/-- A text joined of trimmed pieces does not end with a blank, the separator being none. -/
theorem isBlank_getLast?_intercalate {sep : Char} (hsep : isBlank sep = false)
    {pieces : List (List Char)} (h : ∀ piece ∈ pieces, Trimmed piece) :
    ∀ c ∈ ([sep].intercalate pieces).getLast?, isBlank c = false := by
  induction pieces with
  | nil => simp
  | cons piece pieces ih =>
    cases pieces with
    | nil => simpa using (h piece (by simp)).last
    | cons next pieces =>
      intro c hc
      have hrest := ih fun piece hp => h piece (by simp [hp])
      rw [List.intercalate_cons_cons, List.append_assoc, List.getLast?_append,
        List.getLast?_append] at hc
      -- the pieces after the separator may all be empty, and then the separator is the last
      cases hlast : ([sep].intercalate (next :: pieces)).getLast? with
      | none =>
        simp only [hlast, List.getLast?_singleton, Option.none_or, Option.some_or, Option.mem_def,
          Option.some.injEq] at hc
        exact hc ▸ hsep
      | some d =>
        rw [hlast] at hc
        exact hrest c (by rw [hlast]; simpa using hc)

end Tabletop.Text
