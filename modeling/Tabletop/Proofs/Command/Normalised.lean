import Tabletop.Proofs.Command.Written

/-!
# The lenient reading

The lenient reading takes any run of blanks after the keyword and blanks around the arguments. It is
the strict reading of a `normalForm` in which one space stands for the run and the arguments are
trimmed (`command_lenient_eq_strict`); a text that the strict reading accepts is its own normal form
(`Written.normalForm_eq`), so nothing that it accepts is read differently.
-/

set_option autoImplicit false

namespace Tabletop.Grammar

/-- The arguments after a keyword, each trimmed, with the commas between them. -/
def trimmedArguments (rest : List Char) : List Char :=
  [','].intercalate ((Text.splitOn ',' rest).map Text.trim)

/-- A text with one space for the first run of blanks and its arguments trimmed. -/
def normalForm (text : List Char) : List Char :=
  let keyword := text.takeWhile fun c => !Text.isBlank c
  match text.dropWhile fun c => !Text.isBlank c with
  | [] => keyword
  | c :: cs => keyword ++ ' ' :: trimmedArguments ((c :: cs).dropWhile Text.isBlank)

/-! ## The first run of blanks -/

/-- A text that is parted into a keyword, the first run of blanks, and the rest. -/
structure Gap (text keyword gap rest : List Char) : Prop where
  eq : text = keyword ++ (gap ++ rest)
  keyword : ∀ c ∈ keyword, Text.isBlank c = false
  ne_nil : gap ≠ []
  gap : ∀ c ∈ gap, Text.isBlank c = true
  rest : ∀ c ∈ rest.head?, Text.isBlank c = false

/-- A text without a blank is all keyword, and any other is parted at its first blanks. -/
theorem exists_gap (text : List Char) :
    (∀ c ∈ text, Text.isBlank c = false) ∨ ∃ keyword gap rest, Gap text keyword gap rest := by
  by_cases hblank : text.dropWhile (fun c => !Text.isBlank c) = []
  · left
    intro c hc
    simpa using List.dropWhile_eq_nil_iff.1 hblank c hc
  · right
    refine ⟨text.takeWhile fun c => !Text.isBlank c,
      (text.dropWhile fun c => !Text.isBlank c).takeWhile Text.isBlank,
      (text.dropWhile fun c => !Text.isBlank c).dropWhile Text.isBlank, ?_, ?_, ?_, ?_, ?_⟩
    · rw [List.takeWhile_append_dropWhile, List.takeWhile_append_dropWhile]
    · intro c hc
      simpa using List.mem_takeWhile_imp hc
    · obtain ⟨c, cs, hcs⟩ := List.exists_cons_of_ne_nil hblank
      have hc := List.head?_dropWhile_not (fun c => !Text.isBlank c) text
      rw [hcs] at hc ⊢
      simp only [List.head?_cons, Bool.not_eq_false'] at hc
      simp [hc]
    · intro c hc
      exact List.mem_takeWhile_imp hc
    · intro c hc
      have hnot := List.head?_dropWhile_not Text.isBlank (text.dropWhile fun c => !Text.isBlank c)
      rw [Option.mem_def.1 hc] at hnot
      simpa using hnot

theorem splitKeyword_lenient_of_forall {text : List Char}
    (h : ∀ c ∈ text, Text.isBlank c = false) : splitKeyword .lenient text = (text, none) := by
  have hall : ∀ c ∈ text, (!Text.isBlank c) = true := fun c hc => by simp [h c hc]
  simp only [splitKeyword]
  rw [List.takeWhile_eq_self_iff.2 hall, List.dropWhile_eq_nil_iff.2 hall]
  rfl

section

variable {text keyword gap rest : List Char} (h : Gap text keyword gap rest)
include h

theorem Gap.head_append : ∀ c ∈ (gap ++ rest).head?, (!Text.isBlank c) = false := by
  obtain ⟨c, cs, rfl⟩ := List.exists_cons_of_ne_nil h.ne_nil
  simp [h.gap c List.mem_cons_self]

theorem Gap.takeWhile_eq : text.takeWhile (fun c => !Text.isBlank c) = keyword := by
  rw [h.eq]
  exact Text.takeWhile_append_of_head (fun c hc => by simp [h.keyword c hc]) h.head_append

theorem Gap.dropWhile_eq : text.dropWhile (fun c => !Text.isBlank c) = gap ++ rest := by
  rw [h.eq]
  exact Text.dropWhile_append_of_head (fun c hc => by simp [h.keyword c hc]) h.head_append

theorem Gap.dropWhile_gap : (gap ++ rest).dropWhile Text.isBlank = rest :=
  Text.dropWhile_append_of_head h.gap h.rest

theorem Gap.splitKeyword_eq : splitKeyword .lenient text = (keyword, some rest) := by
  have hne : (gap ++ rest).isEmpty = false := by
    simp [h.ne_nil]
  simp only [splitKeyword]
  rw [h.takeWhile_eq, h.dropWhile_eq, hne, h.dropWhile_gap]
  rfl

theorem Gap.normalForm_eq : normalForm text = keyword ++ ' ' :: trimmedArguments rest := by
  obtain ⟨c, cs, hgap⟩ := List.exists_cons_of_ne_nil h.ne_nil
  have hrest := h.dropWhile_gap
  simp only [normalForm]
  rw [h.takeWhile_eq, h.dropWhile_eq]
  rw [hgap, List.cons_append] at hrest ⊢
  simp only [hrest]

/-- After the blanks of a trimmed text something follows. -/
theorem Gap.rest_ne_nil (htrimmed : Text.Trimmed text) : rest ≠ [] := by
  obtain ⟨rfl, -, hne, hgap, -⟩ := h
  -- with nothing after the gap the text would end with a blank
  rintro rfl
  have hlast : gap.getLast hne ∈ (keyword ++ (gap ++ [])).getLast? := by
    rw [List.append_nil, List.getLast?_append, List.getLast?_eq_some_getLast hne]
    rfl
  have hblank := hgap _ (List.getLast_mem hne)
  rw [htrimmed.last _ hlast] at hblank
  cases hblank

/-- A trimmed text does not start with blanks. -/
theorem Gap.keyword_ne_nil (htrimmed : Text.Trimmed text) : keyword ≠ [] := by
  rintro rfl
  obtain ⟨c, cs, rfl⟩ := List.exists_cons_of_ne_nil h.ne_nil
  have hc := h.gap c List.mem_cons_self
  rw [htrimmed.head c (by simp [h.eq])] at hc
  cases hc

end

/-! ## The normal form of a text -/

/-- The trimmed arguments are parted by the commas as the arguments were. -/
theorem arguments_trimmedArguments (rest : List Char) :
    arguments .strict (trimmedArguments rest) = arguments .lenient rest := by
  refine Text.splitOn_intercalate ?_ ?_
  · intro piece hpiece
    obtain ⟨token, htoken, rfl⟩ := List.mem_map.1 hpiece
    exact fun hcomma => Text.not_mem_of_mem_splitOn htoken (Text.mem_of_mem_trim hcomma)
  · simpa using Text.splitOn_ne_nil ',' rest

theorem trimmedArguments_ne_nil {rest : List Char} (hne : rest ≠ [])
    (hhead : ∀ c ∈ rest.head?, Text.isBlank c = false) : trimmedArguments rest ≠ [] := by
  intro hnil
  have hpieces := arguments_trimmedArguments rest
  rw [hnil] at hpieces
  obtain ⟨token, htoken, htrim⟩ := List.map_eq_singleton_iff.1 hpieces.symm
  -- a single argument is the whole rest, which starts with a character that trimming keeps
  have hrest : rest = token := by
    rw [← Text.intercalate_splitOn ',' rest, htoken, List.intercalate_singleton]
  obtain ⟨c, cs, hcs⟩ := List.exists_cons_of_ne_nil hne
  have hblank := Text.trim_eq_nil_iff.1 htrim c (by simp [← hrest, hcs])
  rw [hhead c (by simp [hcs])] at hblank
  cases hblank

theorem mem_of_mem_trimmedArguments {c : Char} {rest : List Char}
    (h : c ∈ trimmedArguments rest) : c = ',' ∨ c ∈ rest := by
  rcases Text.mem_intercalate h with rfl | ⟨piece, hpiece, hc⟩
  · exact Or.inl rfl
  · obtain ⟨token, htoken, rfl⟩ := List.mem_map.1 hpiece
    exact Or.inr (Text.mem_of_mem_splitOn htoken (Text.mem_of_mem_trim hc))

theorem normalForm_of_forall {text : List Char} (h : ∀ c ∈ text, Text.isBlank c = false) :
    normalForm text = text := by
  have hall : ∀ c ∈ text, (!Text.isBlank c) = true := fun c hc => by simp [h c hc]
  simp only [normalForm]
  rw [List.takeWhile_eq_self_iff.2 hall, List.dropWhile_eq_nil_iff.2 hall]

theorem mem_of_mem_normalForm {c : Char} {text : List Char} (h : c ∈ normalForm text) :
    c = ' ' ∨ c = ',' ∨ c ∈ text := by
  rcases exists_gap text with hall | ⟨keyword, gap, rest, hgap⟩
  · rw [normalForm_of_forall hall] at h
    exact Or.inr (Or.inr h)
  · rw [hgap.normalForm_eq, List.mem_append, List.mem_cons] at h
    rcases h with h | rfl | h
    · exact Or.inr (Or.inr (by simp [hgap.eq, h]))
    · exact Or.inl rfl
    · rcases mem_of_mem_trimmedArguments h with rfl | h
      · exact Or.inr (Or.inl rfl)
      · exact Or.inr (Or.inr (by simp [hgap.eq, h]))

/-- The normal form of a trimmed text is trimmed. -/
theorem trimmed_normalForm {text : List Char} (h : Text.Trimmed text) :
    Text.Trimmed (normalForm text) := by
  rcases exists_gap text with hall | ⟨keyword, gap, rest, hgap⟩
  · rw [normalForm_of_forall hall]
    exact h
  · rw [hgap.normalForm_eq]
    refine Text.Trimmed.append_cons ' ' (hgap.keyword_ne_nil h) ?_
      (trimmedArguments_ne_nil (hgap.rest_ne_nil h) hgap.rest) ?_
    · intro c hc
      exact hgap.keyword c (List.mem_of_mem_head? hc)
    · refine Text.isBlank_getLast?_intercalate Text.isBlank_comma fun piece hpiece => ?_
      obtain ⟨token, -, rfl⟩ := List.mem_map.1 hpiece
      exact Text.trimmed_trim token

/-! ## The two readings -/

theorem placement_trimmedArguments {rest : List Char} (hne : rest ≠ [])
    (hhead : ∀ c ∈ rest.head?, Text.isBlank c = false) :
    placement .lenient rest = placement .strict (trimmedArguments rest) := by
  have hempty : rest.isEmpty = false := by simpa using hne
  have hempty' : (trimmedArguments rest).isEmpty = false := by
    simpa using trimmedArguments_ne_nil hne hhead
  unfold placement
  rw [hempty, hempty', arguments_trimmedArguments]

/-- The lenient reading of a trimmed ASCII text is the strict reading of its normal form. -/
theorem command_lenient_eq_strict {text : List Char} (htrimmed : Text.Trimmed text)
    (hne : text ≠ []) (hascii : ∀ c ∈ text, c.toNat < 0x80) :
    Grammar.command .lenient text = Grammar.command .strict (normalForm text) := by
  -- the only characters that a normal form adds are spaces and commas
  have hascii' : ∀ c ∈ normalForm text, c.toNat < 0x80 := by
    intro c hc
    rcases mem_of_mem_normalForm hc with rfl | rfl | hc
    · decide
    · decide
    · exact hascii c hc
  rcases exists_gap text with hall | ⟨keyword, gap, rest, hgap⟩
  · -- a text without a blank is its own normal form and all of it the keyword in both readings
    have hspace : ' ' ∉ text := fun hmem => absurd (hall _ hmem) (by decide)
    rw [normalForm_of_forall hall, command_eq_of_ascii .lenient hne hascii,
      command_eq_of_ascii .strict hne hascii, splitKeyword_lenient_of_forall hall,
      splitKeyword_strict_of_not_mem hspace]
    rfl
  · -- both readings find the same keyword, and the arguments of a placement agree
    have hspace : ' ' ∉ keyword := fun hmem => absurd (hgap.keyword _ hmem) (by decide)
    have hform := hgap.normalForm_eq
    have hne' : normalForm text ≠ [] := by simp [hform]
    rw [command_eq_of_ascii .lenient hne hascii, command_eq_of_ascii .strict hne' hascii',
      hgap.splitKeyword_eq, hform, splitKeyword_strict_append hspace]
    simp only [Option.getD_some,
      placement_trimmedArguments (hgap.rest_ne_nil htrimmed) hgap.rest]
    cases bareCommand? (Text.upper keyword) with
    | none => rfl
    | some found => rfl

/-- A written text is its own normal form. -/
theorem Written.normalForm_eq {text : List Char} {command : Command} (h : Written text command) :
    normalForm text = text := by
  cases h with
  | bare hplace hspells => exact normalForm_of_forall (plain_of_spells_word hspells).isBlank
  | @place keyword xToken yToken facing x y direction hspells hx hy hfacing =>
    have harguments := arguments_of_written hx hy hfacing
    -- the gap is the one space, since a numeral does not start with a blank
    have hgap : Gap (keyword ++ ' ' :: (xToken ++ ',' :: (yToken ++ ',' :: facing))) keyword [' ']
        (xToken ++ ',' :: (yToken ++ ',' :: facing)) := by
      refine ⟨rfl, (plain_of_spells_word hspells).isBlank, List.cons_ne_nil _ _,
        by simp [Text.isBlank_space], ?_⟩
      obtain ⟨c, cs, hc⟩ := List.exists_cons_of_ne_nil hx.ne_nil
      have hblank := hx.plain_token.isBlank c (by simp [hc])
      simpa [hc] using hblank
    rw [arguments] at harguments
    rw [hgap.normalForm_eq, trimmedArguments, harguments]
    simp [Text.trim_of_forall hx.plain_token.isBlank, Text.trim_of_forall hy.plain_token.isBlank,
      Text.trim_of_forall (plain_of_spells_facingWord hfacing).isBlank]

end Tabletop.Grammar

namespace Tabletop

theorem mapError_reason_parse (mode : Mode) (line : String) :
    (parse mode line).mapError Malformed.reason =
      Grammar.command mode (Text.trim line.toList) := by
  simp only [parse]
  cases Grammar.command mode (Text.trim line.toList) with
  | ok command => rfl
  | error reason => rfl

/-- A line that is not ASCII is refused in either mode, whatever its blanks are. -/
theorem parse_of_not_ascii {line : String} (h : ∃ c ∈ Text.trim line.toList, 0x80 ≤ c.toNat)
    (mode : Mode) :
    parse mode line = .error ⟨String.ofList (Text.trim line.toList), .notAscii⟩ := by
  obtain ⟨c, hc, hhigh⟩ := h
  have hempty : ¬ (Text.trim line.toList).isEmpty = true := by
    intro hnil
    rw [List.isEmpty_iff.1 hnil] at hc
    simp at hc
  have hall : (!(Text.trim line.toList).all Text.isAscii) = true := by
    rw [Bool.not_eq_true', ← Bool.not_eq_true, Grammar.all_isAscii_iff]
    intro hascii
    exact absurd (hascii c hc) (Nat.not_lt.2 hhigh)
  simp only [parse]
  rw [Grammar.command, if_neg hempty, if_pos hall]

/-- The lenient reading extends the strict one. What the strict reading accepts is read as the same
command; a line that is ASCII and not blank is read, or refused for the same reason, as the strict
reading does with its normal form; and both refuse any line that is not ASCII. -/
theorem parse_lenient_extends_strict (line : String) :
    (∀ command, parse .strict line = .ok command → parse .lenient line = .ok command) ∧
      (Text.trim line.toList ≠ [] → (∀ c ∈ Text.trim line.toList, c.toNat < 0x80) →
        (parse .lenient line).mapError Malformed.reason =
          (parse .strict (String.ofList (Grammar.normalForm (Text.trim line.toList)))).mapError
            Malformed.reason) ∧
      ((∃ c ∈ Text.trim line.toList, 0x80 ≤ c.toNat) → ∀ mode, parse mode line =
        .error ⟨String.ofList (Text.trim line.toList), .notAscii⟩) := by
  have htrimmed := Text.trimmed_trim line.toList
  refine ⟨?_, ?_, parse_of_not_ascii⟩
  · intro command h
    rw [parse_eq_ok_iff] at h ⊢
    obtain ⟨hne, hascii⟩ := Grammar.ascii_of_command_eq_ok h
    obtain ⟨-, hwritten⟩ := Grammar.command_strict_eq_ok_iff.1 h
    rw [Grammar.command_lenient_eq_strict htrimmed hne hascii, hwritten.normalForm_eq]
    exact h
  · intro hne hascii
    rw [mapError_reason_parse, mapError_reason_parse, String.toList_ofList,
      (Grammar.trimmed_normalForm htrimmed).trim_eq]
    exact Grammar.command_lenient_eq_strict htrimmed hne hascii

/-- A strict line, a line with blanks of several kinds, and a line with a blank beyond ASCII. -/
theorem parse_lenient_extends_strict_cases :
    parse .lenient "place +03,4,West" = .ok (.place 3 4 .west) ∧
      (parse .lenient "Place\t\x1c +1 , ,North").mapError Malformed.reason =
        (parse .strict "Place +1,,North").mapError Malformed.reason ∧
      parse .lenient "MOVE\u2003 x" = .error ⟨"MOVE\u2003 x", .notAscii⟩ := by
  refine ⟨?_, ?_, ?_⟩
  · exact (parse_lenient_extends_strict "place +03,4,West").1 _ rfl
  · exact (parse_lenient_extends_strict "Place\t\x1c +1 , ,North").2.1 (by decide)
      (Grammar.all_isAscii_iff.1 rfl)
  · exact (parse_lenient_extends_strict "MOVE\u2003 x").2.2
      ⟨'\u2003', by decide, by decide⟩ .lenient

end Tabletop
