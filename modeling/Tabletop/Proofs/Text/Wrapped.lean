import Tabletop.Proofs.Text.Words

/-!
# Laws of wrapped text

Filling lines with words loses nothing where no word is folded (`flatten_fill`). A line that is too
wide then loses blanks at its end, and if that is not enough it is cut and ends in three dots. So
either the lines have all of the text but spaces, or there are three dots in them
(`withoutSpaces_wrap_or_dots`). Of a printable text it is known when this happens: nothing is cut
exactly if no piece between spaces is wider than the lines (`withoutSpaces_wrap_iff`).

Whatever is wrapped, and however, nothing comes in that was not there before but spaces and the
three dots (`allAre_wrap`).
-/

set_option autoImplicit false

namespace Tabletop.Text

/-- The three dots at the end of a line that is cut. -/
def dots : Char := '\u2026'

theorem Printable.not_mem_dots {cs : List Char} (h : Printable cs) : dots ∉ cs := by
  intro hdots
  exact absurd (h dots hdots).2 (by decide)

/-! ## Lines that are filled -/

namespace Filling

theorem flatten_lines_put (filling : Filling) (cs : List Char) (used : Nat) :
    (filling.put cs used).lines.flatten = filling.lines.flatten ++ cs := by
  simp [put, lines]

theorem flatten_lines_turn (filling : Filling) :
    filling.turn.lines.flatten = filling.lines.flatten := by
  unfold turn
  split <;> simp [lines]

theorem putWord_unfolded (width : Nat) (filling : Filling) (word : List Char) :
    filling.putWord width false word =
      if filling.used + columns (bare word) ≤ width then
        filling.put word (filling.used + columns word)
      else filling.turn.put word (columns word) := by
  simp only [putWord, Bool.false_eq_true, if_false, ite_self]
  rfl

theorem flatten_lines_putWord (width : Nat) (filling : Filling) (word : List Char) :
    (filling.putWord width false word).lines.flatten = filling.lines.flatten ++ word := by
  rw [putWord_unfolded]
  split
  · exact flatten_lines_put filling word _
  · rw [flatten_lines_put, flatten_lines_turn]

theorem flatten_lines_foldl (width : Nat) (filling : Filling) (ws : List (List Char)) :
    (ws.foldl (putWord width false) filling).lines.flatten =
      filling.lines.flatten ++ ws.flatten := by
  induction ws generalizing filling with
  | nil => simp
  | cons word ws ih =>
    rw [List.foldl_cons, ih, flatten_lines_putWord, List.flatten_cons, List.append_assoc]

/-- A line whose columns are counted right, and which is empty until something is put on it. -/
structure Counted (filling : Filling) : Prop where
  used : filling.used = filling.line.length
  fresh : filling.isStarted = false → filling.line = []

/-- Whether one of the lines is too wide. -/
def Overflows (width : Nat) (filling : Filling) : Prop :=
  ∃ line ∈ filling.lines, width < (bare line).length

theorem overflows_iff {width : Nat} {filling : Filling} :
    filling.Overflows width ↔
      (∃ line ∈ filling.finished, width < (bare line).length) ∨
        width < (bare filling.line).length := by
  simp only [Overflows, lines, List.mem_reverse, List.exists_mem_cons_iff, or_comm]

theorem Counted.new : Counted {} where
  used := rfl
  fresh _ := rfl

theorem not_overflows_new (width : Nat) : ¬ Overflows width {} := by
  rw [overflows_iff]
  simp [bare, dropEndWhile]

section

variable {filling : Filling} (h : filling.Counted)
include h

theorem Counted.turn_put (cs : List Char) (hne : cs ≠ []) :
    (filling.turn.put cs cs.length).Counted where
  used := by
    have hline : filling.turn.line = [] := by
      unfold turn
      split
      · rfl
      · next hfresh => exact h.fresh (by simpa using hfresh)
    simp [put, hline]
  fresh := by simp [put, hne]

/-- A word keeps the columns of the line counted right. -/
theorem Counted.putWord (width : Nat) {word : List Char} (hword : IsWord word)
    (hprintable : Printable word) : (filling.putWord width false word).Counted := by
  have hne : word ≠ [] := by
    obtain ⟨c, hc, -⟩ := hword
    exact List.ne_nil_of_mem hc
  rw [putWord_unfolded, columns_of_printable hprintable]
  split
  · exact { used := by simp [put, h.used], fresh := by simp [put, hne] }
  · exact h.turn_put word hne

/-- A word makes a line too wide exactly if it is too wide by itself. -/
theorem Counted.overflows_putWord_iff {width : Nat} {word : List Char} (hword : IsWord word)
    (hprintable : Printable word) :
    (filling.putWord width false word).Overflows width ↔
      filling.Overflows width ∨ width < (bare word).length := by
  have hbare : columns (bare word) = (bare word).length :=
    columns_of_printable fun c hc => hprintable c ((List.rdropWhile_prefix isBlank word).subset hc)
  have hline := length_bare_le filling.line
  have hlonger : (bare (filling.line ++ word)).length =
      filling.line.length + (bare word).length := by
    rw [bare_append hword, List.length_append]
  rw [putWord_unfolded, hbare, h.used]
  split
  · next hfits =>
    -- neither the line nor the word is too wide, and the two together are not either
    have hline : ¬ width < (bare filling.line).length := by omega
    have hword : ¬ width < (bare word).length := by omega
    have hboth : ¬ width < (bare (filling.line ++ word)).length := by omega
    rw [or_iff_left hword, overflows_iff, overflows_iff, put, or_iff_left hline,
      or_iff_left hboth]
  · next hfull =>
    unfold turn
    split
    · rw [overflows_iff, overflows_iff, put, List.exists_mem_cons_iff, List.nil_append]
      exact or_congr_left or_comm
    · next hfresh =>
      have hnil : filling.line = [] := h.fresh (by simpa using hfresh)
      have hnone : ¬ width < (bare filling.line).length := by simp [hnil, bare, dropEndWhile]
      rw [overflows_iff, overflows_iff, put, or_iff_left hnone, hnil, List.nil_append]

/-- Some words make a line too wide exactly if one of them is too wide by itself. -/
theorem Counted.overflows_foldl_iff (width : Nat) {ws : List (List Char)}
    (hwords : ∀ word ∈ ws, IsWord word) (hprintable : ∀ word ∈ ws, Printable word) :
    (ws.foldl (Filling.putWord width false) filling).Overflows width ↔
      filling.Overflows width ∨ ∃ word ∈ ws, width < (bare word).length := by
  induction ws generalizing filling with
  | nil => simp
  | cons word ws ih =>
    obtain ⟨hword, hws⟩ := List.forall_mem_cons.1 hwords
    obtain ⟨hfirst, hrest⟩ := List.forall_mem_cons.1 hprintable
    rw [List.foldl_cons, ih (h.putWord width hword hfirst) hws hrest,
      h.overflows_putWord_iff hword hfirst, or_assoc, List.exists_mem_cons_iff]

end

end Filling

theorem flatten_fill (width : Nat) (cs : List Char) : (fill width false cs).flatten = cs := by
  unfold fill
  split
  · simp
  · next hne =>
    rw [Filling.flatten_lines_foldl, flatten_words hne]
    simp [Filling.lines]

/-- A line is too wide exactly if a word is. -/
theorem exists_wide_line_iff {width : Nat} {cs : List Char} (h : Printable cs) :
    (∃ line ∈ fill width false cs, width < (bare line).length) ↔
      ∃ word ∈ words cs, width < (bare word).length := by
  unfold fill
  split
  · next hnil =>
    have hbare : bare cs = [] := dropEndWhile_eq_nil_iff.2 ((parted_words cs).eq_nil_iff.1 hnil)
    simp [hnil, hbare]
  · next hne =>
    have hprintable : ∀ word ∈ words cs, Printable word := by
      intro word hword c hc
      apply h
      rw [← flatten_words hne]
      exact List.mem_flatten.2 ⟨word, hword, hc⟩
    have hlines := Filling.Counted.new.overflows_foldl_iff width
      ((parted_words cs).isWord) hprintable
    rw [or_iff_right (Filling.not_overflows_new width)] at hlines
    exact hlines

/-! ## Lines that are cut -/

/-- Nothing but blanks at its end is taken off a line. -/
theorem exists_blanks_append_dropExcess (width : Nat) (line : List Char) :
    ∃ after : List Char, line = dropExcess width line ++ after ∧
      ∀ c ∈ after, isBlank c = true := by
  obtain ⟨blanks, hline, hblanks⟩ := exists_blanks_append_bare line
  refine ⟨_, (List.take_append_drop _ line).symm, fun c hc => hblanks c ?_⟩
  -- the cut is in the blanks after the last visible character
  have hlength : line.length = (bare line).length + blanks.length := by
    rw [← List.length_append, ← hline]
  have hcut : (bare line).length ≤ line.length -
      min (line.length - (bare line).length) (line.length - width) := by omega
  rw [hline, List.drop_append, ← hline] at hc
  change c ∈ List.drop (line.length - min (line.length - (bare line).length) _) (bare line) ++ _
    at hc
  rw [List.drop_of_length_le hcut, List.nil_append] at hc
  exact List.mem_of_mem_drop hc

theorem length_dropExcess_le_iff {width : Nat} {line : List Char} :
    (dropExcess width line).length ≤ width ↔ (bare line).length ≤ width := by
  have hle := length_bare_le line
  change (line.take (line.length - min (line.length - (bare line).length) _)).length ≤ width ↔ _
  rw [List.length_take]
  omega

theorem dropExcess_of_bare {line : List Char} (h : bare line = line) (width : Nat) :
    dropExcess width line = line := by
  change line.take (line.length - min (line.length - (bare line).length) _) = line
  rw [h, Nat.sub_self, Nat.zero_min, Nat.sub_zero, List.take_length]

theorem withoutSpaces_dropExcess {line : List Char} (h : OnlySpaces line) (width : Nat) :
    withoutSpaces (dropExcess width line) = withoutSpaces line := by
  obtain ⟨after, hline, hafter⟩ := exists_blanks_append_dropExcess width line
  have hspaces : ∀ c ∈ after, c = ' ' := fun c hc =>
    h c (by rw [hline]; exact List.mem_append_right _ hc) (hafter c hc)
  conv_rhs => rw [hline]
  rw [withoutSpaces_append, withoutSpaces_eq_nil hspaces, List.append_nil]

theorem splitOn_of_not_mem {sep : Char} {cs : List Char} (h : sep ∉ cs) :
    splitOn sep cs = [cs] := by
  rw [splitOn_eq_iff (by simp)]
  simpa using h

/-- A text whose only blanks are spaces is one part. -/
theorem parts_of_onlySpaces {cs : List Char} (h : OnlySpaces cs) : parts cs = [cs] := by
  have hfeed : '\n' ∉ cs := h.not_mem (by decide) (by decide)
  have htab : '\t' ∉ cs := h.not_mem (by decide) (by decide)
  rw [parts, splitOn_of_not_mem hfeed, List.map_singleton, expandTabs, splitOn_of_not_mem htab,
    joinAtTabStops]

theorem wrap_of_onlySpaces {cs : List Char} (h : OnlySpaces cs) (width : Nat)
    (overflow : Overflow) :
    wrap width overflow cs =
      (fill width (overflow = .fold) cs).map fun line =>
        truncate width overflow (dropExcess width line) := by
  rw [wrap, parts_of_onlySpaces h, List.flatMap_singleton]

section

variable {cs : List Char} {width : Nat}

theorem mem_of_mem_fill {line : List Char} (hline : line ∈ fill width false cs) {c : Char}
    (hc : c ∈ line) : c ∈ cs := by
  rw [← flatten_fill width cs]
  exact List.mem_flatten.2 ⟨line, hline, hc⟩

/-- As long as no line has to be cut, nothing but spaces is lost. -/
theorem withoutSpaces_wrap_of_uncut (h : OnlySpaces cs)
    (huncut : ∀ line ∈ fill width false cs, columns (dropExcess width line) ≤ width) :
    withoutSpaces (wrap width .ellipsis cs).flatten = withoutSpaces cs := by
  have hlines : ∀ line ∈ fill width false cs,
      withoutSpaces (truncate width .ellipsis (dropExcess width line)) = withoutSpaces line := by
    intro line hline
    rw [truncate, if_pos (huncut line hline)]
    exact withoutSpaces_dropExcess (fun c hc => h c (mem_of_mem_fill hline hc)) width
  have hall := withoutSpaces_flatten_map hlines
  rw [flatten_fill] at hall
  rw [wrap_of_onlySpaces h]
  exact hall

theorem dots_mem_wrap_of_cut (h : OnlySpaces cs)
    (hcut : ∃ line ∈ fill width false cs, width < columns (dropExcess width line)) :
    dots ∈ (wrap width .ellipsis cs).flatten := by
  obtain ⟨line, hline, hwide⟩ := hcut
  rw [wrap_of_onlySpaces h, List.mem_flatten]
  refine ⟨_, List.mem_map_of_mem hline, ?_⟩
  rw [truncate, if_neg (Nat.not_le.2 hwide)]
  exact List.mem_append_right _ (List.mem_singleton.2 rfl)

/-- The lines of a text have all of it but spaces, or there are three dots in them. -/
theorem withoutSpaces_wrap_or_dots (h : OnlySpaces cs) (width : Nat) :
    withoutSpaces (wrap width .ellipsis cs).flatten = withoutSpaces cs ∨
      dots ∈ (wrap width .ellipsis cs).flatten := by
  by_cases hcut : ∃ line ∈ fill width false cs, width < columns (dropExcess width line)
  · exact Or.inr (dots_mem_wrap_of_cut h hcut)
  · refine Or.inl (withoutSpaces_wrap_of_uncut h fun line hline => ?_)
    exact Nat.not_lt.1 fun hwide => hcut ⟨line, hline, hwide⟩

/-- The lines of a printable text have all of it but spaces exactly if none of its pieces between
spaces is longer than a line. -/
theorem withoutSpaces_wrap_iff (h : Printable cs) (hhead : ∀ c ∈ cs.head?, isBlank c = false) :
    withoutSpaces (wrap width .ellipsis cs).flatten = withoutSpaces cs ↔
      ∀ piece ∈ splitOn ' ' cs, piece.length ≤ width := by
  have hcolumns : ∀ line ∈ fill width false cs,
      columns (dropExcess width line) = (dropExcess width line).length := by
    intro line hline
    apply columns_of_printable
    intro c hc
    exact h c (mem_of_mem_fill hline (List.mem_of_mem_take hc))
  rw [← forall_words_le_iff h.onlySpaces hhead]
  constructor
  · intro hall word hword
    by_contra hlong
    -- a word that is too long makes a line too wide, and that line is cut
    obtain ⟨line, hline, hwide⟩ :=
      (exists_wide_line_iff h).2 ⟨word, hword, Nat.not_le.1 hlong⟩
    have hcut : width < columns (dropExcess width line) := by
      rw [hcolumns line hline, ← Nat.not_le, length_dropExcess_le_iff]
      exact Nat.not_le.2 hwide
    have hdots := dots_mem_wrap_of_cut h.onlySpaces ⟨line, hline, hcut⟩
    have hleft : dots ∈ withoutSpaces (wrap width .ellipsis cs).flatten :=
      List.mem_filter.2 ⟨hdots, by decide⟩
    rw [hall] at hleft
    exact h.not_mem_dots (List.mem_filter.1 hleft).1
  · intro hall
    apply withoutSpaces_wrap_of_uncut h.onlySpaces
    intro line hline
    rw [hcolumns line hline, length_dropExcess_le_iff]
    by_contra hwide
    obtain ⟨word, hword, hlong⟩ :=
      (exists_wide_line_iff h).1 ⟨line, hline, Nat.not_le.1 hwide⟩
    exact absurd (hall word hword) (Nat.not_le.2 hlong)

end

/-! ## The characters of wrapped text -/

/-- The characters of some texts are of one kind. -/
def AllAre (P : Char → Prop) (lines : List (List Char)) : Prop :=
  ∀ line ∈ lines, ∀ c ∈ line, P c

section

variable {P : Char → Prop}

theorem allAre_iff_flatten {lines : List (List Char)} :
    AllAre P lines ↔ ∀ c ∈ lines.flatten, P c := by
  simp only [AllAre, List.mem_flatten]
  constructor
  · rintro h c ⟨line, hline, hc⟩
    exact h line hline c hc
  · intro h line hline c hc
    exact h c ⟨line, hline, hc⟩

theorem allAre_splitOn {sep : Char} {cs : List Char} (h : ∀ c ∈ cs, c ≠ sep → P c) :
    AllAre P (splitOn sep cs) := by
  intro piece hpiece c hc
  refine h c (mem_of_mem_splitOn hpiece hc) ?_
  rintro rfl
  exact not_mem_of_mem_splitOn hpiece hc

theorem forall_mem_joinAtTabStops (hspace : P ' ') {texts : List (List Char)}
    (h : AllAre P texts) : ∀ c ∈ joinAtTabStops texts, P c := by
  fun_induction joinAtTabStops texts with
  | case1 => simp
  | case2 part => exact h part List.mem_cons_self
  | case3 part rest _ ih =>
    intro c hc
    simp only [toTabStop, List.mem_append, List.mem_singleton, List.mem_replicate] at hc
    rcases hc with ((hc | rfl) | ⟨-, rfl⟩) | hc
    · exact h part List.mem_cons_self c hc
    · exact hspace
    · exact hspace
    · exact ih (fun other hother => h other (List.mem_cons_of_mem part hother)) c hc

theorem allAre_parts (hspace : P ' ') {cs : List Char} (h : ∀ c ∈ cs, c ≠ '\n' → P c) :
    AllAre P (parts cs) := by
  intro part hpart
  obtain ⟨line, hline, rfl⟩ := List.mem_map.1 hpart
  apply forall_mem_joinAtTabStops hspace
  exact allAre_splitOn fun c hc _ => allAre_splitOn h line hline c hc

theorem allAre_words {cs : List Char} (h : ∀ c ∈ cs, P c) : AllAre P (words cs) := by
  by_cases hne : words cs = []
  · simp [AllAre, hne]
  · rw [allAre_iff_flatten, flatten_words hne]
    exact h

/-- The pieces of a word are the piece so far and the rest of the word. -/
theorem allAre_chopClusters {width used : Nat} {piece : List Char} {cluster : List Cluster}
    (hpiece : ∀ c ∈ piece, P c) (hrest : ∀ c ∈ cluster.flatMap Cluster.text, P c) :
    AllAre P (chopClusters width piece used cluster) := by
  fun_induction chopClusters width piece used cluster with
  | case1 => simpa [AllAre] using hpiece
  | case2 => simp [AllAre]
  | case3 piece used cluster rest _ ih =>
    rw [List.flatMap_cons, List.forall_mem_append] at hrest
    exact List.forall_mem_cons.2 ⟨hpiece, ih hrest.1 hrest.2⟩
  | case4 piece used cluster rest _ ih =>
    rw [List.flatMap_cons, List.forall_mem_append] at hrest
    exact ih (List.forall_mem_append.2 ⟨hpiece, hrest.1⟩) hrest.2

theorem forall_mem_cropClusters (hspace : P ' ') {room : Nat} {cluster : List Cluster}
    (h : ∀ c ∈ cluster.flatMap Cluster.text, P c) : ∀ c ∈ cropClusters room cluster, P c := by
  fun_induction cropClusters room cluster with
  | case1 => simp
  | case2 => simp
  | case3 room cluster rest _ ih =>
    rw [List.flatMap_cons, List.forall_mem_append] at h
    exact List.forall_mem_append.2 ⟨h.1, ih h.2⟩
  | case4 =>
    intro c hc
    exact List.eq_of_mem_replicate hc ▸ hspace

namespace Filling

theorem allAre_put {filling : Filling} (h : AllAre P filling.lines) {cs : List Char}
    (hcs : ∀ c ∈ cs, P c) (used : Nat) : AllAre P (filling.put cs used).lines := by
  rw [allAre_iff_flatten] at h ⊢
  rw [flatten_lines_put]
  exact List.forall_mem_append.2 ⟨h, hcs⟩

theorem allAre_turn {filling : Filling} (h : AllAre P filling.lines) :
    AllAre P filling.turn.lines := by
  rw [allAre_iff_flatten] at h ⊢
  rwa [flatten_lines_turn]

theorem allAre_putPieces {filling : Filling} (h : AllAre P filling.lines)
    {pieces : List (List Char)} (hpieces : AllAre P pieces) :
    AllAre P (filling.putPieces pieces).lines := by
  unfold putPieces
  induction pieces generalizing filling with
  | nil => exact h
  | cons piece pieces ih =>
    obtain ⟨hpiece, hrest⟩ := List.forall_mem_cons.1 hpieces
    exact ih (allAre_put (allAre_turn h) hpiece _) hrest

theorem allAre_putWord {filling : Filling} (h : AllAre P filling.lines) (width : Nat) (fold : Bool)
    {word : List Char} (hword : ∀ c ∈ word, P c) :
    AllAre P (filling.putWord width fold word).lines := by
  have hturned := allAre_put (allAre_turn h) hword (columns word)
  unfold putWord
  dsimp only
  split
  · exact allAre_put h hword _
  · split
    · exact hturned
    · split
      · unfold putFolded
        split
        · exact allAre_put h hword _
        · apply allAre_putPieces h
          unfold chop
          refine allAre_chopClusters (fun c hc => absurd hc List.not_mem_nil) ?_
          rwa [text_clusters]
      · exact hturned

theorem allAre_foldl {filling : Filling} (h : AllAre P filling.lines) (width : Nat) (fold : Bool)
    {ws : List (List Char)} (hws : AllAre P ws) :
    AllAre P (ws.foldl (putWord width fold) filling).lines := by
  induction ws generalizing filling with
  | nil => exact h
  | cons word ws ih =>
    obtain ⟨hword, hrest⟩ := List.forall_mem_cons.1 hws
    exact ih (allAre_putWord h width fold hword) hrest

end Filling

theorem allAre_fill {cs : List Char} (h : ∀ c ∈ cs, P c) (width : Nat) (fold : Bool) :
    AllAre P (fill width fold cs) := by
  unfold fill
  split
  · simpa [AllAre] using h
  · exact Filling.allAre_foldl (by simp [AllAre, Filling.lines]) width fold (allAre_words h)

theorem forall_mem_truncate (hspace : P ' ') (hdots : P dots) (width : Nat) (overflow : Overflow)
    {line : List Char} (h : ∀ c ∈ line, P c) : ∀ c ∈ truncate width overflow line, P c := by
  have hcrop : ∀ room, ∀ c ∈ crop room line, P c := by
    intro room
    apply forall_mem_cropClusters hspace
    rwa [text_clusters]
  unfold truncate
  split
  · exact h
  · cases overflow with
    | fold => exact hcrop width
    | ellipsis =>
      exact List.forall_mem_append.2 ⟨hcrop _, List.forall_mem_singleton.2 hdots⟩

/-- The lines of a text hold characters of the text, but no line feeds, and spaces and dots. -/
theorem allAre_wrap (hspace : P ' ') (hdots : P dots) (width : Nat) (overflow : Overflow)
    {cs : List Char} (h : ∀ c ∈ cs, c ≠ '\n' → P c) : AllAre P (wrap width overflow cs) := by
  intro shown hshown
  obtain ⟨line, hline, rfl⟩ := List.mem_map.1 hshown
  obtain ⟨part, hpart, hfill⟩ := List.mem_flatMap.1 hline
  apply forall_mem_truncate hspace hdots
  intro c hc
  exact allAre_fill (allAre_parts hspace h part hpart) width _ line hfill c
    (List.mem_of_mem_take hc)

end

end Tabletop.Text
