import Tabletop.Proofs.Text.Blank
import Tabletop.Text.Wrapped

/-!
# Words

A text is parted into words before it is put into lines, from its end on (`parted_words`). The words
are all of the text (`flatten_words`), and without the blanks around them they are its pieces
between spaces (`Parted.map_trim`). So no word of a text is wider than a line exactly if no piece
between spaces is (`forall_words_le_iff`).
-/

set_option autoImplicit false

namespace Tabletop.Text

/-- A text of printable ASCII characters. -/
def Printable (cs : List Char) : Prop :=
  ∀ c ∈ cs, 0x20 ≤ c.toNat ∧ c.toNat < 0x7F

instance (cs : List Char) : Decidable (Printable cs) :=
  List.decidableBAll _ cs

/-- A text without its spaces. -/
def withoutSpaces (cs : List Char) : List Char :=
  cs.filter (· ≠ ' ')

/-- The only blanks of a text are spaces. -/
def OnlySpaces (cs : List Char) : Prop :=
  ∀ c ∈ cs, isBlank c = true → c = ' '

/-- A text that holds something else than blanks. -/
def IsWord (cs : List Char) : Prop :=
  ∃ c ∈ cs, isBlank c = false

/-- A text without the blanks at its end. -/
def bare (cs : List Char) : List Char :=
  dropEndWhile isBlank cs

/-! ## Texts without spaces -/

theorem withoutSpaces_append (cs ds : List Char) :
    withoutSpaces (cs ++ ds) = withoutSpaces cs ++ withoutSpaces ds :=
  List.filter_append _ _

theorem withoutSpaces_eq_nil {cs : List Char} (h : ∀ c ∈ cs, c = ' ') : withoutSpaces cs = [] := by
  rw [withoutSpaces, List.filter_eq_nil_iff]
  intro c hc
  simp [h c hc]

theorem withoutSpaces_of_not_mem {cs : List Char} (h : ' ' ∉ cs) : withoutSpaces cs = cs := by
  rw [withoutSpaces, List.filter_eq_self]
  intro c hc
  simpa using fun hspace : c = ' ' => h (hspace ▸ hc)

theorem withoutSpaces_replicate (n : Nat) : withoutSpaces (List.replicate n ' ') = [] :=
  withoutSpaces_eq_nil fun _ hc => List.eq_of_mem_replicate hc

/-- Only the spaces of lines may change. -/
theorem withoutSpaces_flatten_map {change : List Char → List Char} {lines : List (List Char)}
    (h : ∀ line ∈ lines, withoutSpaces (change line) = withoutSpaces line) :
    withoutSpaces (lines.map change).flatten = withoutSpaces lines.flatten := by
  induction lines with
  | nil => rfl
  | cons line lines ih =>
    obtain ⟨hline, hrest⟩ := List.forall_mem_cons.1 h
    rw [List.map_cons, List.flatten_cons, List.flatten_cons, withoutSpaces_append,
      withoutSpaces_append, hline, ih hrest]

theorem withoutSpaces_eq_flatten_splitOn (cs : List Char) :
    withoutSpaces cs = (splitOn ' ' cs).flatten := by
  induction cs with
  | nil => rfl
  | cons c cs ih =>
    obtain ⟨piece, pieces, hpieces⟩ := List.exists_cons_of_ne_nil (splitOn_ne_nil ' ' cs)
    by_cases hc : c = ' '
    · rw [splitOn, if_pos hc, List.flatten_cons, List.nil_append, ← ih, withoutSpaces,
        withoutSpaces, List.filter_cons_of_neg (by simp [hc])]
    · rw [splitOn, if_neg hc, hpieces, List.flatten_cons, List.cons_append, ← List.flatten_cons,
        ← hpieces, ← ih, withoutSpaces, withoutSpaces, List.filter_cons_of_pos (by simp [hc])]

theorem Printable.append {cs ds : List Char} (h : Printable cs) (h' : Printable ds) :
    Printable (cs ++ ds) :=
  List.forall_mem_append.2 ⟨h, h'⟩

theorem Printable.onlySpaces {cs : List Char} (h : Printable cs) : OnlySpaces cs := by
  intro c hc hblank
  obtain ⟨hlow, hhigh⟩ := h c hc
  rcases Nat.lt_or_ge 0x20 c.toNat with hvisible | hspace
  · rw [isBlank_of_visible hvisible hhigh] at hblank
    cases hblank
  · have hnat : c.toNat = ' '.toNat := Nat.le_antisymm hspace hlow
    exact Char.toNat_inj.1 hnat

theorem OnlySpaces.not_mem {cs : List Char} (h : OnlySpaces cs) {c : Char}
    (hblank : isBlank c = true) (hc : c ≠ ' ') : c ∉ cs :=
  fun hmem => hc (h c hmem hblank)

/-! ## Texts without the blanks at their end -/

theorem exists_blanks_append_bare (cs : List Char) :
    ∃ after : List Char, cs = bare cs ++ after ∧ ∀ c ∈ after, isBlank c = true :=
  ⟨cs.rtakeWhile isBlank, List.rdropWhile_append_rtakeWhile.symm,
    fun _ hc => List.mem_rtakeWhile_imp hc⟩

theorem bare_of_visible {cs : List Char} (h : ∀ c ∈ cs, isBlank c = false) : bare cs = cs := by
  change cs.rdropWhile isBlank = cs
  rw [List.rdropWhile_eq_self_iff]
  intro hne
  rw [h _ (List.getLast_mem hne)]
  exact Bool.false_ne_true

theorem length_bare_le (cs : List Char) : (bare cs).length ≤ cs.length :=
  (List.rdropWhile_prefix isBlank cs).length_le

/-- Only the blanks after a word are taken off, whatever stands before it. -/
theorem bare_append {word : List Char} (h : IsWord word) (cs : List Char) :
    bare (cs ++ word) = cs ++ bare word := by
  obtain ⟨c, hc, hvisible⟩ := h
  have hne : word.reverse.dropWhile isBlank ≠ [] := by
    rw [ne_eq, dropWhile_eq_nil_iff_forall]
    intro hall
    rw [hall c (List.mem_reverse.2 hc)] at hvisible
    cases hvisible
  rw [bare, dropEndWhile, List.reverse_append, List.dropWhile_append,
    if_neg (by rwa [List.isEmpty_iff]), List.reverse_append, List.reverse_reverse, bare,
    dropEndWhile]

theorem bare_cons_of_visible {c : Char} (h : isBlank c = false) (cs : List Char) :
    bare (c :: cs) = c :: bare cs := by
  rw [bare, dropEndWhile, List.reverse_cons, List.dropWhile_append, bare, dropEndWhile]
  split
  · next hnil =>
    rw [List.isEmpty_iff.1 hnil]
    simp [h]
  · rw [List.reverse_append]
    rfl

theorem trim_cons_of_visible {c : Char} (h : isBlank c = false) (cs : List Char) :
    trim (c :: cs) = c :: bare cs := by
  rw [← bare_cons_of_visible h, trim, List.dropWhile_cons_of_neg (by simp [h]), bare]

theorem trim_cons_of_blank {c : Char} (h : isBlank c = true) (cs : List Char) :
    trim (c :: cs) = trim cs := by
  rw [trim, List.dropWhile_cons_of_pos h, trim]

theorem trim_dropWhile (cs : List Char) : trim (cs.dropWhile isBlank) = trim cs := by
  rw [trim, List.dropWhile_idempotent, trim]

/-! ## Words -/

/-- The words of a text, from the last character to the first. -/
inductive Parted : List Char → List (List Char) → Prop where
  | nil : Parted [] []
  /-- There is no word yet. -/
  | blank {c : Char} {cs : List Char} (h : Parted cs []) (hc : isBlank c = true) :
    Parted (c :: cs) []
  /-- The last word, with the blanks at the end of the text. -/
  | last {c : Char} {cs : List Char} (h : Parted cs []) (hc : isBlank c = false) :
    Parted (c :: cs) [c :: cs]
  /-- A word ends here. The blanks before the next one go to it. -/
  | ends {c d : Char} {cs ds : List Char} {rest : List (List Char)}
    (h : Parted cs ((d :: ds) :: rest)) (hc : isBlank c = false) (hd : isBlank d = true) :
    Parted (c :: cs) ((c :: (d :: ds).takeWhile isBlank) :: (d :: ds).dropWhile isBlank :: rest)
  /-- A word goes on, or there are blanks before it. -/
  | goesOn {c d : Char} {cs ds : List Char} {rest : List (List Char)}
    (h : Parted cs ((d :: ds) :: rest)) (hc : isBlank c = true ∨ isBlank d = false) :
    Parted (c :: cs) ((c :: d :: ds) :: rest)

theorem parted_words (cs : List Char) : Parted cs (words cs) := by
  induction cs with
  | nil => exact .nil
  | cons c cs ih =>
    rw [words]
    generalize words cs = ws at ih ⊢
    rcases ws with _ | ⟨_ | ⟨d, ds⟩, rest⟩
    · cases hc : isBlank c with
      | true => exact .blank ih hc
      | false => exact .last ih hc
    · -- no word is empty
      cases ih
    · cases hc : isBlank c with
      | true => exact .goesOn ih (Or.inl hc)
      | false =>
        cases hd : isBlank d with
        | true =>
          simp only [hd, Bool.not_false, Bool.and_self, if_true]
          exact .ends ih hc hd
        | false =>
          simp only [hd, Bool.and_false, Bool.false_eq_true, if_false]
          exact .goesOn ih (Or.inr hd)

namespace Parted

variable {cs : List Char} {ws : List (List Char)} (h : Parted cs ws)
include h

theorem isWord : ∀ word ∈ ws, IsWord word := by
  induction h with
  | nil => exact List.forall_mem_nil _
  | blank _ _ _ => exact List.forall_mem_nil _
  | last _ hc _ => exact List.forall_mem_singleton.2 ⟨_, List.mem_cons_self, hc⟩
  | @ends c d cs ds rest _ hc hd ih =>
    obtain ⟨⟨e, he, hvisible⟩, hrest⟩ := List.forall_mem_cons.1 ih
    refine List.forall_mem_cons.2 ⟨⟨c, List.mem_cons_self, hc⟩, List.forall_mem_cons.2 ⟨?_, hrest⟩⟩
    -- what is visible in the word is not among the blanks that start it
    rw [← List.takeWhile_append_dropWhile (p := isBlank) (l := d :: ds), List.mem_append] at he
    rcases he with hblank | he
    · rw [List.mem_takeWhile_imp hblank] at hvisible
      cases hvisible
    · exact ⟨e, he, hvisible⟩
  | @goesOn c d cs ds rest _ _ ih =>
    obtain ⟨⟨e, he, hvisible⟩, hrest⟩ := List.forall_mem_cons.1 ih
    exact List.forall_mem_cons.2 ⟨⟨e, List.mem_cons_of_mem c he, hvisible⟩, hrest⟩

/-- A text has no words exactly if there is nothing but blanks in it. -/
theorem eq_nil_iff : ws = [] ↔ ∀ c ∈ cs, isBlank c = true := by
  induction h with
  | nil => exact iff_of_true rfl (List.forall_mem_nil _)
  | blank _ hc ih =>
    exact iff_of_true rfl (List.forall_mem_cons.2 ⟨hc, ih.1 rfl⟩)
  | last _ hc _ =>
    refine iff_of_false (List.cons_ne_nil _ _) fun hall => ?_
    rw [hall _ List.mem_cons_self] at hc
    cases hc
  | ends _ _ _ ih =>
    refine iff_of_false (List.cons_ne_nil _ _) fun hall => ?_
    cases ih.2 (List.forall_mem_cons.1 hall).2
  | goesOn _ _ ih =>
    refine iff_of_false (List.cons_ne_nil _ _) fun hall => ?_
    cases ih.2 (List.forall_mem_cons.1 hall).2

/-- The words of a text are all of it. -/
theorem flatten (hne : ws ≠ []) : ws.flatten = cs := by
  induction h with
  | nil => exact absurd rfl hne
  | blank _ _ _ => exact absurd rfl hne
  | last _ _ _ => rw [List.flatten_singleton]
  | @ends c d cs ds rest _ _ _ ih =>
    have ih := ih (List.cons_ne_nil _ _)
    rw [List.flatten_cons, List.flatten_cons, ← List.append_assoc, List.cons_append,
      List.takeWhile_append_dropWhile, List.cons_append, ← List.flatten_cons, ih]
  | @goesOn c d cs ds rest _ _ ih =>
    have ih := ih (List.cons_ne_nil _ _)
    rw [List.flatten_cons, List.cons_append, ← List.flatten_cons, ih]

/-- No word but the first starts with a blank. -/
theorem visible_head_of_mem_tail : ∀ word ∈ ws.tail, ∀ c ∈ word.head?, isBlank c = false := by
  induction h with
  | nil => exact List.forall_mem_nil _
  | blank _ _ _ => exact List.forall_mem_nil _
  | last _ _ _ => exact List.forall_mem_nil _
  | @ends c d cs ds rest _ _ _ ih =>
    refine List.forall_mem_cons.2 ⟨fun e he => ?_, ih⟩
    have hnot := List.head?_dropWhile_not isBlank (d :: ds)
    rw [Option.mem_def.1 he] at hnot
    simpa using hnot
  | goesOn _ _ ih => exact ih

end Parted

/-- A text of words starts as its first word does. -/
theorem Parted.exists_eq_cons {cs ds : List Char} {d : Char} {rest : List (List Char)}
    (h : Parted cs ((d :: ds) :: rest)) : ∃ tail, cs = d :: tail :=
  ⟨ds ++ rest.flatten, (h.flatten (List.cons_ne_nil _ _)).symm⟩

/-- The first piece of a text between spaces is empty if the text starts with one, and only then. -/
theorem splitOn_cons_space (cs : List Char) : splitOn ' ' (' ' :: cs) = [] :: splitOn ' ' cs :=
  rfl

theorem exists_splitOn_cons {c : Char} (hc : c ≠ ' ') (cs : List Char) :
    ∃ piece pieces, splitOn ' ' cs = piece :: pieces ∧
      splitOn ' ' (c :: cs) = (c :: piece) :: pieces := by
  obtain ⟨piece, pieces, hpieces⟩ := List.exists_cons_of_ne_nil (splitOn_ne_nil ' ' cs)
  refine ⟨piece, pieces, hpieces, ?_⟩
  rw [splitOn, if_neg hc, hpieces]

theorem ne_space_of_visible {c : Char} (h : isBlank c = false) : c ≠ ' ' := by
  rintro rfl
  cases h

/-- The words of a text without the blanks around them are its pieces between spaces, but for the
empty ones. -/
theorem Parted.map_trim {cs : List Char} {ws : List (List Char)} (h : Parted cs ws)
    (honly : OnlySpaces cs) : ws.map trim = (splitOn ' ' cs).filter (· ≠ []) := by
  induction h with
  | nil => rfl
  | @blank c cs _ hc ih =>
    obtain ⟨hspace, hrest⟩ := List.forall_mem_cons.1 honly
    obtain rfl := hspace hc
    rw [ih hrest, splitOn_cons_space, List.filter_cons_of_neg (by simp)]
  | @last c cs h hc ih =>
    obtain ⟨-, hrest⟩ := List.forall_mem_cons.1 honly
    obtain ⟨piece, pieces, hpieces, hsplit⟩ := exists_splitOn_cons (ne_space_of_visible hc) cs
    -- what follows is blank, so there is no other piece
    have ih := ih hrest
    rw [hpieces, List.map_nil, eq_comm, List.filter_eq_nil_iff, List.forall_mem_cons] at ih
    have hnil : piece = [] := by simpa using ih.1
    have hbare : bare cs = [] := dropEndWhile_eq_nil_iff.2 (h.eq_nil_iff.1 rfl)
    rw [hsplit, List.filter_cons_of_pos (by simp), List.filter_eq_nil_iff.2 ih.2,
      List.map_singleton, trim_cons_of_visible hc, hbare, hnil]
  | @ends c d cs ds rest h hc hd ih =>
    obtain ⟨-, hrest⟩ := List.forall_mem_cons.1 honly
    obtain ⟨tail, rfl⟩ := h.exists_eq_cons
    obtain rfl : d = ' ' := hrest d List.mem_cons_self hd
    obtain ⟨piece, pieces, hpieces, hsplit⟩ :=
      exists_splitOn_cons (ne_space_of_visible hc) (' ' :: tail)
    have ih := ih hrest
    rw [splitOn_cons_space, List.cons.injEq] at hpieces
    rw [splitOn_cons_space, List.filter_cons_of_neg (by simp), List.map_cons] at ih
    have hblanks : bare ((' ' :: ds).takeWhile isBlank) = [] :=
      dropEndWhile_eq_nil_iff.2 fun e he => List.mem_takeWhile_imp he
    rw [hsplit, List.filter_cons_of_pos (by simp), ← hpieces.1, ← hpieces.2, List.map_cons,
      List.map_cons, trim_cons_of_visible hc, hblanks, trim_dropWhile, ih]
  | @goesOn c d cs ds rest h hgoes ih =>
    obtain ⟨hspace, hrest⟩ := List.forall_mem_cons.1 honly
    have ih := ih hrest
    rw [List.map_cons] at ih ⊢
    cases hc : isBlank c with
    | true =>
      obtain rfl := hspace hc
      rw [splitOn_cons_space, List.filter_cons_of_neg (by simp), ← ih, trim_cons_of_blank hc]
    | false =>
      have hd : isBlank d = false := by simpa [hc] using hgoes
      obtain ⟨piece, pieces, hpieces, hsplit⟩ := exists_splitOn_cons (ne_space_of_visible hc) cs
      obtain ⟨tail, rfl⟩ := h.exists_eq_cons
      obtain ⟨first, others, -, hsplit'⟩ := exists_splitOn_cons (ne_space_of_visible hd) tail
      rw [hpieces, List.cons.injEq] at hsplit'
      rw [hpieces, hsplit'.1, List.filter_cons_of_pos (by simp), trim_cons_of_visible hd,
        List.cons.injEq] at ih
      rw [hsplit, List.filter_cons_of_pos (by simp), trim_cons_of_visible hc,
        bare_cons_of_visible hd, ih.1, ih.2, hsplit'.1]

theorem flatten_words {cs : List Char} (h : words cs ≠ []) : (words cs).flatten = cs :=
  (parted_words cs).flatten h

/-- No word is longer than a line exactly if no piece between spaces is. -/
theorem forall_words_le_iff {cs : List Char} {width : Nat} (h : OnlySpaces cs)
    (hhead : ∀ c ∈ cs.head?, isBlank c = false) :
    (∀ word ∈ words cs, (bare word).length ≤ width) ↔
      ∀ piece ∈ splitOn ' ' cs, piece.length ≤ width := by
  have hparted := parted_words cs
  have htrim := hparted.map_trim h
  generalize words cs = ws at hparted htrim ⊢
  -- no word starts with a blank, so there are blanks at its end alone
  have hbare : ∀ word ∈ ws, bare word = trim word := by
    have hvisible : ∀ word ∈ ws, ∀ c ∈ word.head?, isBlank c = false := by
      cases ws with
      | nil => exact List.forall_mem_nil _
      | cons word rest =>
        obtain ⟨c, hc, -⟩ := hparted.isWord word List.mem_cons_self
        obtain ⟨d, ds, rfl⟩ := List.exists_cons_of_ne_nil (List.ne_nil_of_mem hc)
        obtain ⟨tail, rfl⟩ := hparted.exists_eq_cons
        exact List.forall_mem_cons.2 ⟨hhead, hparted.visible_head_of_mem_tail⟩
    intro word hword
    obtain ⟨c, hc, -⟩ := hparted.isWord word hword
    obtain ⟨d, ds, rfl⟩ := List.exists_cons_of_ne_nil (List.ne_nil_of_mem hc)
    have hd := hvisible _ hword d rfl
    rw [bare_cons_of_visible hd, trim_cons_of_visible hd]
  have hpieces : (∀ piece ∈ splitOn ' ' cs, piece.length ≤ width) ↔
      ∀ piece ∈ ws.map trim, piece.length ≤ width := by
    rw [htrim]
    constructor
    · intro hall piece hpiece
      exact hall piece (List.mem_filter.1 hpiece).1
    · intro hall piece hpiece
      by_cases hnil : piece = []
      · simp [hnil]
      · exact hall piece (List.mem_filter.2 ⟨hpiece, by simpa using hnil⟩)
  rw [hpieces, List.forall_mem_map]
  exact forall₂_congr fun word hword => by rw [hbare word hword]

end Tabletop.Text
