import Tabletop.Text.Emoji

/-!
# Texts with codes for emoji

Whatever emoji have names, a text in which no two colons stand without a blank between them comes
out as it was (`replaceEmoji_of_not_holdsCode`), since only what stands between such colons is
looked up (`replaceEmoji_eq_or`).

Of the emoji themselves two things have to be known (`EmojiTable.IsPictorial`): none is made of
ASCII characters alone, and none holds a blank, a control or a bar. Then nothing but such characters
comes into a text (`forall_mem_replaceEmoji`), and what has come out of a text of ASCII characters
tells by itself whether it was changed (`replaceEmoji_eq_of_ascii`).
-/

set_option autoImplicit false

namespace Tabletop.Text

variable {P : Char → Prop} {cs code : List Char} {opened : Option (List Char)}

/-- What holds of the characters of a fixed text, one by one. -/
theorem forall_mem_of_all [DecidablePred P] (h : cs.all (fun c => decide (P c)) = true) :
    ∀ c ∈ cs, P c :=
  fun c hc => of_decide_eq_true (List.all_eq_true.1 h c hc)

/-! ## Tables -/

/-- A character as emoji are made of: no blank, no control, and no bar. -/
structure IsPictureChar (c : Char) : Prop where
  above : 0x20 < c.toNat
  visible : isBlank c = false
  ne_bar : c ≠ '│'

instance (c : Char) : Decidable (IsPictureChar c) :=
  decidable_of_iff (0x20 < c.toNat ∧ isBlank c = false ∧ c ≠ '│')
    ⟨fun h => ⟨h.1, h.2.1, h.2.2⟩, fun h => ⟨h.above, h.visible, h.ne_bar⟩⟩

/-- Of the emoji in a table none is made of ASCII characters alone, and none holds a character that
would be something else than a part of a picture. -/
structure EmojiTable.IsPictorial (table : EmojiTable) : Prop where
  exists_high : ∀ {name found : List Char}, table.find? name = some found →
    ∃ c ∈ found, 0x7F ≤ c.toNat
  picture : ∀ {name found : List Char}, table.find? name = some found →
    ∀ c ∈ found, IsPictureChar c

theorem isPictorial_fewEmoji : fewEmoji.IsPictorial := by
  have hfound : ∀ {name found : List Char}, fewEmoji.find? name = some found →
      ∃ c, found = [c] ∧ 0x7F ≤ c.toNat ∧ IsPictureChar c := by
    intro name found h
    unfold fewEmoji at h
    dsimp only at h
    split at h
    · cases h
      exact ⟨_, rfl, by decide, by decide⟩
    · split at h
      · cases h
        exact ⟨_, rfl, by decide, by decide⟩
      · split at h
        · cases h
          exact ⟨_, rfl, by decide, by decide⟩
        · cases h
  constructor
  · intro name found h
    obtain ⟨c, rfl, hhigh, -⟩ := hfound h
    exact ⟨c, List.mem_singleton_self c, hhigh⟩
  · intro name found h
    obtain ⟨c, rfl, -, hpicture⟩ := hfound h
    exact List.forall_mem_singleton.2 hpicture

/-! ## Codes -/

/-- Two colons stand in a text with no blank between them, as those around a code. -/
def HoldsCode (cs : List Char) : Prop :=
  ∃ before code after : List Char, cs = before ++ ':' :: (code ++ ':' :: after) ∧
    ∀ c ∈ code, isBlank c = false

theorem HoldsCode.append_left (h : HoldsCode cs) (front : List Char) : HoldsCode (front ++ cs) := by
  obtain ⟨before, code, after, rfl, hcode⟩ := h
  exact ⟨front ++ before, code, after, (List.append_assoc front before _).symm, hcode⟩

theorem HoldsCode.two_le_count (h : HoldsCode cs) : 2 ≤ cs.count ':' := by
  obtain ⟨before, code, after, rfl, -⟩ := h
  simp only [List.count_append, List.count_cons_self]
  omega

/-- A text in which a colon is open, if one is, and how it goes on. -/
def sinceColon (opened : Option (List Char)) (cs : List Char) : List Char :=
  match opened with
  | none => cs
  | some code => ':' :: code.reverse ++ cs

theorem isPictureChar_of_splitPresentation (code : List Char) :
    ∀ c ∈ (splitPresentation code).2, IsPictureChar c := by
  unfold splitPresentation
  split
  · next word mark hfound =>
    have hmem := List.mem_of_find?_eq_some hfound
    simp only [presentations, List.mem_cons, Prod.mk.injEq, List.not_mem_nil, or_false] at hmem
    rw [List.forall_mem_singleton]
    rcases hmem with ⟨-, rfl⟩ | ⟨-, rfl⟩ <;> decide
  · simp

section

variable [table : EmojiTable]

/-- What stands between two colons stands for itself, or for an emoji and perhaps a mark. -/
theorem emojiFor_cases (code : List Char) :
    emojiFor code = ':' :: code ++ [':'] ∨
      ∃ name found, table.find? name = some found ∧
        emojiFor code = found ++ (splitPresentation code).2 := by
  unfold emojiFor
  dsimp only
  split
  · next found hfound => exact Or.inr ⟨_, found, hfound, rfl⟩
  · exact Or.inl rfl

/-- Some emoji of the table stands in a text. -/
def HoldsEmoji (cs : List Char) : Prop :=
  ∃ name found, table.find? name = some found ∧ found <:+: cs

theorem HoldsEmoji.append_left (h : HoldsEmoji cs) (front : List Char) :
    HoldsEmoji (front ++ cs) := by
  obtain ⟨name, found, hfound, hheld⟩ := h
  exact ⟨name, found, hfound, hheld.trans (List.suffix_append front cs).isInfix⟩

/-- Wherever a text is read from, it comes out as it was, or with an emoji for a code in it. No
blank is read while a colon is open. -/
theorem replaceEmojiFrom_eq_or (hopened : ∀ code ∈ opened, ∀ c ∈ code, isBlank c = false)
    (cs : List Char) :
    replaceEmojiFrom opened cs = sinceColon opened cs ∨
      HoldsEmoji (replaceEmojiFrom opened cs) ∧ HoldsCode (sinceColon opened cs) := by
  fun_induction replaceEmojiFrom opened cs with
  | case1 => exact Or.inl rfl
  | case2 code => exact Or.inl (List.append_nil _).symm
  | case3 cs ih =>
    apply ih
    rintro _ ⟨⟩
    exact List.forall_mem_nil _
  | case4 c cs _ ih =>
    rcases ih hopened with hsame | ⟨hemoji, hcode⟩
    · exact Or.inl (congrArg (c :: ·) hsame)
    · exact Or.inr ⟨hemoji.append_left [c], hcode.append_left [c]⟩
  | case5 code cs ih =>
    rcases emojiFor_cases code.reverse with hself | ⟨name, found, hfound, hemoji⟩
    · have hwhole : sinceColon (some code) (':' :: cs) =
          emojiFor code.reverse ++ sinceColon none cs := by
        simp [sinceColon, hself]
      rw [hwhole]
      rcases ih (by rintro _ ⟨⟩) with hsame | ⟨hemoji, hcode⟩
      · exact Or.inl (congrArg _ hsame)
      · exact Or.inr ⟨hemoji.append_left _, hcode.append_left _⟩
    · have hheld : found <:+: emojiFor code.reverse ++ replaceEmojiFrom none cs := by
        rw [hemoji, List.append_assoc]
        exact (List.prefix_append found _).isInfix
      refine Or.inr ⟨⟨name, found, hfound, hheld⟩, [], code.reverse, cs, rfl, fun c hc => ?_⟩
      exact hopened code rfl c (List.mem_reverse.1 hc)
  | case6 code c cs _ _ ih =>
    have hwhole : sinceColon (some code) (c :: cs) =
        (':' :: code.reverse ++ [c]) ++ sinceColon none cs := by
      simp [sinceColon]
    have hfront : ':' :: code.reverse ++ c :: replaceEmojiFrom none cs =
        (':' :: code.reverse ++ [c]) ++ replaceEmojiFrom none cs := by
      simp
    rw [hwhole, hfront]
    rcases ih (by rintro _ ⟨⟩) with hsame | ⟨hemoji, hcode⟩
    · exact Or.inl (congrArg _ hsame)
    · exact Or.inr ⟨hemoji.append_left _, hcode.append_left _⟩
  | case7 code c cs _ hvisible ih =>
    have hwhole : sinceColon (some code) (c :: cs) = sinceColon (some (c :: code)) cs := by
      simp [sinceColon]
    rw [hwhole]
    apply ih
    rintro _ ⟨⟩
    exact List.forall_mem_cons.2 ⟨Bool.eq_false_iff.2 hvisible, hopened code rfl⟩

/-- A text comes out as it was, or with an emoji for a code in it. -/
theorem replaceEmoji_eq_or (cs : List Char) :
    replaceEmoji cs = cs ∨ HoldsEmoji (replaceEmoji cs) ∧ HoldsCode cs :=
  replaceEmojiFrom_eq_or (by rintro _ ⟨⟩) cs

theorem replaceEmoji_of_not_holdsCode (h : ¬ HoldsCode cs) : replaceEmoji cs = cs :=
  (replaceEmoji_eq_or cs).resolve_right fun hcode => h hcode.2

variable (htable : table.IsPictorial)
include htable

/-- A text of which nothing but ASCII characters has come out has come out as it was. -/
theorem replaceEmoji_eq_of_ascii (h : ∀ c ∈ replaceEmoji cs, c.toNat < 0x7F) :
    replaceEmoji cs = cs := by
  refine (replaceEmoji_eq_or cs).resolve_right ?_
  rintro ⟨⟨name, found, hfound, hheld⟩, -⟩
  obtain ⟨c, hc, hhigh⟩ := htable.exists_high hfound
  exact absurd (h c (hheld.subset hc)) (Nat.not_lt.2 hhigh)

theorem forall_mem_replaceEmojiFrom (hpictures : ∀ c, IsPictureChar c → P c)
    (h : ∀ c ∈ sinceColon opened cs, P c) : ∀ c ∈ replaceEmojiFrom opened cs, P c := by
  fun_induction replaceEmojiFrom opened cs with
  | case1 => simp
  | case2 code => simpa [sinceColon] using h
  | case3 cs ih => exact ih h
  | case4 c cs _ ih =>
    obtain ⟨hc, hcs⟩ := List.forall_mem_cons.1 h
    exact List.forall_mem_cons.2 ⟨hc, ih hcs⟩
  | case5 code cs ih =>
    obtain ⟨hcode, hrest⟩ := List.forall_mem_append.1 h
    obtain ⟨hcolon, hcs⟩ := List.forall_mem_cons.1 hrest
    refine List.forall_mem_append.2 ⟨?_, ih hcs⟩
    rcases emojiFor_cases code.reverse with hself | ⟨name, found, hfound, hemoji⟩
    · rw [hself]
      exact List.forall_mem_append.2 ⟨hcode, List.forall_mem_singleton.2 hcolon⟩
    · rw [hemoji]
      refine List.forall_mem_append.2 ⟨?_, ?_⟩
      · exact fun c hc => hpictures c (htable.picture hfound c hc)
      · exact fun c hc => hpictures c (isPictureChar_of_splitPresentation _ c hc)
  | case6 code c cs _ _ ih =>
    obtain ⟨hcode, hrest⟩ := List.forall_mem_append.1 h
    obtain ⟨hc, hcs⟩ := List.forall_mem_cons.1 hrest
    exact List.forall_mem_append.2 ⟨hcode, List.forall_mem_cons.2 ⟨hc, ih hcs⟩⟩
  | case7 code c cs _ _ ih =>
    apply ih
    intro d hd
    apply h
    simpa [sinceColon] using hd

/-- Nothing comes into a text but characters as emoji are made of. -/
theorem forall_mem_replaceEmoji (hpictures : ∀ c, IsPictureChar c → P c) (h : ∀ c ∈ cs, P c) :
    ∀ c ∈ replaceEmoji cs, P c :=
  forall_mem_replaceEmojiFrom htable hpictures h

end

end Tabletop.Text
