import Mathlib.Tactic.SplitIfs
import Tabletop.Text.Utf8

/-!
# UTF-8 in pieces

`encode` is the encoding of the standard library (`encode_eq_flatMap`), so no form is overlong and
none stands for a surrogate or for a number above `U+10FFFF`.

`Part` gives the rows of bytes that a character may begin with. One byte more makes such a row
longer (`Part.snoc`), or completes the one character that is encoded so (`encodeChar_of_extend`,
`exists_part_encodeChar`), or is a fault. A piece of a longer row of bytes is therefore read exactly
if it is the encoding of some characters and then a row that may wait for more
(`decodePiece_eq_ok_iff`), which every beginning of an encoded text is (`decodePiece_of_append`).

Any bytes are an encoded text and then bytes that begin with no character (`exists_longest`); that
text is the longest that they begin with (`isPrefix_of_encode_isPrefix`).
-/

set_option autoImplicit false

namespace Tabletop.Text.Utf8

/-! ## Bytes as numbers -/

theorem isContinuation_iff {b : UInt8} :
    isContinuation b = true ↔ 0x80 ≤ b.toNat ∧ b.toNat ≤ 0xBF := by
  simp [isContinuation, UInt8.le_iff_toNat_le]

theorem size?_eq (lead : UInt8) :
    size? lead =
      if lead.toNat < 0x80 then some 1
      else if 0xC2 ≤ lead.toNat ∧ lead.toNat ≤ 0xDF then some 2
      else if 0xE0 ≤ lead.toNat ∧ lead.toNat ≤ 0xEF then some 3
      else if 0xF0 ≤ lead.toNat ∧ lead.toNat ≤ 0xF4 then some 4
      else none := by
  simp [size?, UInt8.lt_iff_toNat_lt, UInt8.le_iff_toNat_le]

theorem size?_eq_two_iff {lead : UInt8} :
    size? lead = some 2 ↔ 0xC2 ≤ lead.toNat ∧ lead.toNat ≤ 0xDF := by
  rw [size?_eq]
  split_ifs
  all_goals simp
  all_goals omega

theorem size?_eq_three_iff {lead : UInt8} :
    size? lead = some 3 ↔ 0xE0 ≤ lead.toNat ∧ lead.toNat ≤ 0xEF := by
  rw [size?_eq]
  split_ifs
  all_goals simp
  all_goals omega

/-- A second byte is a continuation, and four leads leave fewer of them. -/
theorem isSecond_iff {lead second : UInt8} :
    isSecond lead second = true ↔
      (0x80 ≤ second.toNat ∧ second.toNat ≤ 0xBF) ∧
        (lead.toNat = 0xE0 → 0xA0 ≤ second.toNat) ∧ (lead.toNat = 0xED → second.toNat ≤ 0x9F) ∧
        (lead.toNat = 0xF0 → 0x90 ≤ second.toNat) ∧ (lead.toNat = 0xF4 → second.toNat ≤ 0x8F) := by
  simp only [isSecond, isContinuation, ← UInt8.toNat_inj, UInt8.le_iff_toNat_le, UInt8.toNat_ofNat]
  -- one case for each of the four leads, and one for all others
  split_ifs
  all_goals simp
  all_goals omega

theorem scalar?_eq_some_iff {n : Nat} {c : Char} : scalar? n = some c ↔ c.toNat = n := by
  constructor
  · intro h
    by_cases hvalid : n.isValidChar
    · rw [scalar?, dif_pos hvalid] at h
      rw [← Option.some.inj h]
      rfl
    · rw [scalar?, dif_neg hvalid] at h
      cases h
  · rintro rfl
    exact scalar?_toNat c

theorem wholeOf_eq_whole_iff {n : Nat} {c : Char} : wholeOf n = .whole c ↔ c.toNat = n := by
  rw [← scalar?_eq_some_iff, wholeOf]
  cases scalar? n with
  | none => simp
  | some d => simp

theorem wholeOf_ne_part (n : Nat) : wholeOf n ≠ .part := by
  unfold wholeOf
  split
  · exact Form.noConfusion
  · exact Form.noConfusion

/-! ## The bytes of a character -/

/-- A character is no surrogate and not above `U+10FFFF`. -/
theorem toNat_range (c : Char) :
    c.toNat < 0xD800 ∨ 0xDFFF < c.toNat ∧ c.toNat < 0x110000 :=
  c.valid

section

variable {c : Char}

theorem encodeChar_one (h : c.toNat < 0x80) : encodeChar c = [UInt8.ofNat c.toNat] := by
  simp [encodeChar, h]

theorem encodeChar_two (hlow : 0x80 ≤ c.toNat) (h : c.toNat < 0x800) :
    encodeChar c =
      [UInt8.ofNat (0xC0 + c.toNat / 0x40), UInt8.ofNat (0x80 + c.toNat % 0x40)] := by
  simp [encodeChar, Nat.not_lt.2 hlow, h]

theorem encodeChar_three (hlow : 0x800 ≤ c.toNat) (h : c.toNat < 0x10000) :
    encodeChar c =
      [UInt8.ofNat (0xE0 + c.toNat / 0x1000), UInt8.ofNat (0x80 + c.toNat / 0x40 % 0x40),
        UInt8.ofNat (0x80 + c.toNat % 0x40)] := by
  have hlow' : ¬ c.toNat < 0x80 := by omega
  simp [encodeChar, hlow', Nat.not_lt.2 hlow, h]

theorem encodeChar_four (hlow : 0x10000 ≤ c.toNat) :
    encodeChar c =
      [UInt8.ofNat (0xF0 + c.toNat / 0x40000), UInt8.ofNat (0x80 + c.toNat / 0x1000 % 0x40),
        UInt8.ofNat (0x80 + c.toNat / 0x40 % 0x40), UInt8.ofNat (0x80 + c.toNat % 0x40)] := by
  have hone : ¬ c.toNat < 0x80 := by omega
  have htwo : ¬ c.toNat < 0x800 := by omega
  simp [encodeChar, hone, htwo, Nat.not_lt.2 hlow]

end

/-- The bytes of a character are those that the standard library gives it. -/
theorem encodeChar_eq_utf8EncodeChar (c : Char) : encodeChar c = String.utf8EncodeChar c := by
  have hrange := toNat_range c
  have hval : c.val.toNat = c.toNat := rfl
  simp only [String.utf8EncodeChar, hval]
  -- the library takes the bits of the lead modulo its room, which they never fill
  by_cases hone : c.toNat < 0x80
  · rw [if_pos (by omega), encodeChar_one hone]
  rw [if_neg (by omega)]
  by_cases htwo : c.toNat < 0x800
  · have hlead : c.toNat / 64 % 32 + 192 = 0xC0 + c.toNat / 0x40 := by omega
    rw [if_pos (by omega), encodeChar_two (by omega) htwo, hlead, Nat.add_comm 0x80]
  rw [if_neg (by omega)]
  by_cases hthree : c.toNat < 0x10000
  · have hlead : c.toNat / 4096 % 16 + 224 = 0xE0 + c.toNat / 0x1000 := by omega
    rw [if_pos (by omega), encodeChar_three (by omega) hthree, hlead]
    simp only [Nat.add_comm 0x80]
  · have hlead : c.toNat / 262144 % 8 + 240 = 0xF0 + c.toNat / 0x40000 := by omega
    rw [if_neg (by omega), encodeChar_four (by omega), hlead]
    simp only [Nat.add_comm 0x80]

theorem encode_cons (c : Char) (cs : List Char) : encode (c :: cs) = encodeChar c ++ encode cs :=
  List.flatMap_cons

theorem encode_append (cs ds : List Char) : encode (cs ++ ds) = encode cs ++ encode ds :=
  List.flatMap_append

theorem encode_eq_flatMap (cs : List Char) : encode cs = cs.flatMap String.utf8EncodeChar := by
  unfold encode
  rw [funext encodeChar_eq_utf8EncodeChar]

/-- The rows of bytes that a character may begin with, none of them a whole one. -/
inductive Part : List UInt8 → Prop where
  | nil : Part []
  | one {lead : UInt8} : 0xC2 ≤ lead.toNat → lead.toNat ≤ 0xF4 → Part [lead]
  | two {lead second : UInt8} : 0xE0 ≤ lead.toNat → lead.toNat ≤ 0xF4 →
      isSecond lead second = true → Part [lead, second]
  | three {lead second third : UInt8} : 0xF0 ≤ lead.toNat → lead.toNat ≤ 0xF4 →
      isSecond lead second = true → isContinuation third = true → Part [lead, second, third]

/-! ## One byte more -/

theorem extend_nil (lead : UInt8) :
    extend [] lead =
      if lead.toNat < 0x80 then wholeOf lead.toNat
      else if 0xC2 ≤ lead.toNat ∧ lead.toNat ≤ 0xF4 then .part
      else .bad .invalidStart 1 := by
  simp only [extend, size?_eq]
  split_ifs
  all_goals first | rfl | omega

theorem extend_one {lead : UInt8} (hlead : 0xC2 ≤ lead.toNat) (second : UInt8) :
    extend [lead] second =
      if isSecond lead second = true then
        if lead.toNat ≤ 0xDF then wholeOf (addBits (lead.toNat % 0x20) second) else .part
      else .bad .invalidContinuation 1 := by
  have htwo : size? lead = some 2 ↔ lead.toNat ≤ 0xDF := by
    rw [size?_eq_two_iff]
    exact and_iff_right hlead
  cases h : isSecond lead second with
  | false => simp [extend, h]
  | true => simp only [extend, h, htwo, Bool.not_true, Bool.false_eq_true, if_false, if_true]

theorem extend_two {lead : UInt8} (hlead : 0xE0 ≤ lead.toNat) (second third : UInt8) :
    extend [lead, second] third =
      if isContinuation third = true then
        if lead.toNat ≤ 0xEF then
          wholeOf (addBits (addBits (lead.toNat % 0x10) second) third)
        else .part
      else .bad .invalidContinuation 2 := by
  have hthree : size? lead = some 3 ↔ lead.toNat ≤ 0xEF := by
    rw [size?_eq_three_iff]
    exact and_iff_right hlead
  cases h : isContinuation third with
  | false => simp [extend, h]
  | true => simp only [extend, h, hthree, Bool.not_true, Bool.false_eq_true, if_false, if_true]

theorem extend_three (lead second third fourth : UInt8) :
    extend [lead, second, third] fourth =
      if isContinuation fourth = true then
        wholeOf (addBits (addBits (addBits (lead.toNat % 0x08) second) third) fourth)
      else .bad .invalidContinuation 3 := by
  cases h : isContinuation fourth with
  | false => simp [extend, h]
  | true => simp [extend, h]

/-- A byte that leaves a character unfinished makes a longer beginning of one. -/
theorem Part.snoc {part : List UInt8} {b : UInt8} (h : Part part) (hb : extend part b = .part) :
    Part (part ++ [b]) := by
  cases h with
  | nil =>
    rw [extend_nil] at hb
    split_ifs at hb with hone hlead
    · exact absurd hb (wholeOf_ne_part _)
    · exact .one hlead.1 hlead.2
  | one hlow hhigh =>
    rw [extend_one hlow] at hb
    split_ifs at hb with hsecond htwo
    · exact absurd hb (wholeOf_ne_part _)
    · exact .two (by omega) hhigh hsecond
  | two hlow hhigh hsecond =>
    rw [extend_two hlow] at hb
    split_ifs at hb with hthird hthree
    · exact absurd hb (wholeOf_ne_part _)
    · exact .three (by omega) hhigh hsecond hthird
  | three =>
    rw [extend_three] at hb
    split_ifs at hb with hfourth
    exact absurd hb (wholeOf_ne_part _)

theorem ofNat_eq_of_toNat {n : Nat} {b : UInt8} (h : n = b.toNat) : UInt8.ofNat n = b := by
  rw [h, UInt8.ofNat_toNat]

/-- A byte that completes a character completes the encoding of that character. -/
theorem encodeChar_of_extend {part : List UInt8} {b : UInt8} {c : Char} (h : Part part)
    (hb : extend part b = .whole c) : encodeChar c = part ++ [b] := by
  cases h with
  | nil =>
    rw [extend_nil] at hb
    split_ifs at hb with hone
    have hc := wholeOf_eq_whole_iff.1 hb
    rw [encodeChar_one (by omega), ofNat_eq_of_toNat hc]
    rfl
  | @one lead hlow hhigh =>
    rw [extend_one hlow] at hb
    split_ifs at hb with hsecond htwo
    have hc := wholeOf_eq_whole_iff.1 hb
    obtain ⟨hb, -⟩ := isSecond_iff.1 hsecond
    simp only [addBits] at hc
    -- a lead from `C2` on keeps the number out of the shorter form
    rw [encodeChar_two (by omega) (by omega), ofNat_eq_of_toNat (b := lead) (by omega),
      ofNat_eq_of_toNat (b := b) (by omega)]
    rfl
  | @two lead second hlow hhigh hsecond =>
    rw [extend_two hlow] at hb
    split_ifs at hb with hthird hthree
    have hc := wholeOf_eq_whole_iff.1 hb
    obtain ⟨hs, hoverlong, -⟩ := isSecond_iff.1 hsecond
    have ht := isContinuation_iff.1 hthird
    simp only [addBits] at hc
    -- a lead of `E0` has a second byte that keeps the number out of the shorter form
    rw [encodeChar_three (by omega) (by omega), ofNat_eq_of_toNat (b := lead) (by omega),
      ofNat_eq_of_toNat (b := second) (by omega), ofNat_eq_of_toNat (b := b) (by omega)]
    rfl
  | @three lead second third hlow hhigh hsecond hthird =>
    rw [extend_three] at hb
    split_ifs at hb with hfourth
    have hc := wholeOf_eq_whole_iff.1 hb
    obtain ⟨hs, -, -, hoverlong, hlast⟩ := isSecond_iff.1 hsecond
    have ht := isContinuation_iff.1 hthird
    have hf := isContinuation_iff.1 hfourth
    simp only [addBits] at hc
    -- so does a lead of `F0`, and one of `F4` has a second byte that keeps it in range
    rw [encodeChar_four (by omega), ofNat_eq_of_toNat (b := lead) (by omega),
      ofNat_eq_of_toNat (b := second) (by omega), ofNat_eq_of_toNat (b := third) (by omega),
      ofNat_eq_of_toNat (b := b) (by omega)]
    rfl

theorem toNat_ofNat {n : Nat} (h : n < 0x100) : (UInt8.ofNat n).toNat = n :=
  UInt8.toNat_ofNat_of_lt' h

/-- The encoding of a character is a beginning and the byte that completes it. -/
theorem exists_part_encodeChar (c : Char) :
    ∃ part b, encodeChar c = part ++ [b] ∧ Part part ∧ extend part b = .whole c := by
  have hrange := toNat_range c
  have hnext : (UInt8.ofNat (0x80 + c.toNat % 0x40)).toNat = 0x80 + c.toNat % 0x40 :=
    toNat_ofNat (by omega)
  by_cases hone : c.toNat < 0x80
  · have hlead : (UInt8.ofNat c.toNat).toNat = c.toNat := toNat_ofNat (by omega)
    refine ⟨[], _, encodeChar_one hone, .nil, ?_⟩
    rw [extend_nil, if_pos (by omega)]
    exact wholeOf_eq_whole_iff.2 hlead.symm
  by_cases htwo : c.toNat < 0x800
  · have hlead : (UInt8.ofNat (0xC0 + c.toNat / 0x40)).toNat = 0xC0 + c.toNat / 0x40 :=
      toNat_ofNat (by omega)
    refine ⟨[_], _, encodeChar_two (by omega) htwo, .one (by omega) (by omega), ?_⟩
    rw [extend_one (by omega), if_pos (isSecond_iff.2 (by omega)), if_pos (by omega)]
    exact wholeOf_eq_whole_iff.2 (by simp only [addBits]; omega)
  have hmiddle : (UInt8.ofNat (0x80 + c.toNat / 0x40 % 0x40)).toNat =
      0x80 + c.toNat / 0x40 % 0x40 := toNat_ofNat (by omega)
  by_cases hthree : c.toNat < 0x10000
  · have hlead : (UInt8.ofNat (0xE0 + c.toNat / 0x1000)).toNat = 0xE0 + c.toNat / 0x1000 :=
      toNat_ofNat (by omega)
    refine ⟨[_, _], _, encodeChar_three (by omega) hthree,
      .two (by omega) (by omega) (isSecond_iff.2 (by omega)), ?_⟩
    rw [extend_two (by omega), if_pos (isContinuation_iff.2 (by omega)), if_pos (by omega)]
    exact wholeOf_eq_whole_iff.2 (by simp only [addBits]; omega)
  · have hlead : (UInt8.ofNat (0xF0 + c.toNat / 0x40000)).toNat = 0xF0 + c.toNat / 0x40000 :=
      toNat_ofNat (by omega)
    have hsecond : (UInt8.ofNat (0x80 + c.toNat / 0x1000 % 0x40)).toNat =
        0x80 + c.toNat / 0x1000 % 0x40 := toNat_ofNat (by omega)
    refine ⟨[_, _, _], _, encodeChar_four (by omega), .three (by omega) (by omega)
      (isSecond_iff.2 (by omega)) (isContinuation_iff.2 (by omega)), ?_⟩
    rw [extend_three, if_pos (isContinuation_iff.2 (by omega))]
    exact wholeOf_eq_whole_iff.2 (by simp only [addBits]; omega)

/-! ## Reading a row of bytes -/

theorem scan_of_extend_part {start : Nat} {part rest : List UInt8} {b : UInt8}
    (h : extend part b = .part) : scan start part (b :: rest) = scan start (part ++ [b]) rest := by
  simp only [scan, h]

theorem scan_of_extend_whole {start : Nat} {part rest : List UInt8} {b : UInt8} {c : Char}
    (h : extend part b = .whole c) :
    scan start part (b :: rest) = Scanned.cons c (scan (start + part.length + 1) [] rest) := by
  simp only [scan, h]

theorem cons_eq_ok_iff {c : Char} {scanned : Scanned} {cs : List Char} {carry : List UInt8} :
    Scanned.cons c scanned = .ok (cs, carry) ↔ ∃ ds, cs = c :: ds ∧ scanned = .ok (ds, carry) := by
  cases scanned with
  | error fault => simp [Scanned.cons]
  | ok read =>
    obtain ⟨ds, part⟩ := read
    simp only [Scanned.cons, Except.ok.injEq, Prod.mk.injEq]
    constructor
    · rintro ⟨rfl, rfl⟩
      exact ⟨ds, rfl, rfl, rfl⟩
    · rintro ⟨ds', rfl, rfl, rfl⟩
      exact ⟨rfl, rfl⟩

/-- Bytes that a character may begin with are read without a result. -/
theorem scan_part_append {part : List UInt8} (h : Part part) (start : Nat) (rest : List UInt8) :
    scan start [] (part ++ rest) = scan start part rest := by
  -- each beginning of the part is a part itself
  have hlead : ∀ lead : UInt8, 0xC2 ≤ lead.toNat → lead.toNat ≤ 0xF4 →
      extend [] lead = .part := by
    intro lead hlow hhigh
    rw [extend_nil, if_neg (by omega), if_pos ⟨hlow, hhigh⟩]
  have hsecond : ∀ lead second : UInt8, 0xE0 ≤ lead.toNat → isSecond lead second = true →
      extend [lead] second = .part := by
    intro lead second hlow hs
    rw [extend_one (by omega), if_pos hs, if_neg (by omega)]
  cases h with
  | nil => rfl
  | one hlow hhigh => exact scan_of_extend_part (hlead _ hlow hhigh)
  | two hlow hhigh hs =>
    exact (scan_of_extend_part (hlead _ (by omega) hhigh)).trans
      (scan_of_extend_part (hsecond _ _ hlow hs))
  | @three lead second third hlow hhigh hs ht =>
    have hthird : extend [lead, second] third = .part := by
      rw [extend_two (by omega), if_pos ht, if_neg (by omega)]
    exact (scan_of_extend_part (hlead _ (by omega) hhigh)).trans
      ((scan_of_extend_part (hsecond _ _ (by omega) hs)).trans (scan_of_extend_part hthird))

theorem scan_encodeChar_append (start : Nat) (c : Char) (rest : List UInt8) :
    scan start [] (encodeChar c ++ rest) =
      Scanned.cons c (scan (start + (encodeChar c).length) [] rest) := by
  obtain ⟨part, b, hc, hpart, hb⟩ := exists_part_encodeChar c
  rw [hc, List.append_assoc, List.singleton_append, scan_part_append hpart,
    scan_of_extend_whole hb, List.length_append, List.length_singleton, Nat.add_assoc]

/-- What is read after an encoded text is read as it would be without it. -/
theorem scan_encode_append_eq_ok_iff {start : Nat} {cs read : List Char}
    {rest carry : List UInt8} :
    scan start [] (encode cs ++ rest) = .ok (read, carry) ↔
      ∃ more, read = cs ++ more ∧
        scan (start + (encode cs).length) [] rest = .ok (more, carry) := by
  induction cs generalizing start read with
  | nil => simp [encode]
  | cons c cs ih =>
    rw [encode_cons, List.append_assoc, scan_encodeChar_append, cons_eq_ok_iff]
    simp only [ih, List.length_append, Nat.add_assoc]
    constructor
    · rintro ⟨ds, rfl, more, rfl, h⟩
      exact ⟨more, rfl, h⟩
    · rintro ⟨more, rfl, h⟩
      exact ⟨cs ++ more, rfl, more, rfl, h⟩

/-- The rows of bytes that a piece may end with. The first two bytes of a surrogate are among them,
since these are found out with the next piece only. -/
inductive Pending : List UInt8 → Prop where
  | part {part : List UInt8} : Part part → Pending part
  | surrogate {b : UInt8} : isSurrogateStart [0xED] b = true → Pending [0xED, b]

theorem scan_pending {carry : List UInt8} (h : Pending carry) (start : Nat) :
    scan start [] carry = .ok ([], carry) := by
  cases h with
  | part hpart =>
    have hscan := scan_part_append hpart start []
    rw [List.append_nil] at hscan
    rw [hscan]
    rfl
  | @surrogate b hb =>
    -- the second byte is a fault, but one that is let pass at the end of a piece
    have hlead : Part [0xED] := .one (by decide) (by decide)
    have hsecond : isSecond 0xED b = false := by
      simp only [isSurrogateStart, BEq.rfl, Bool.true_and, Bool.and_eq_true,
        decide_eq_true_eq, UInt8.le_iff_toNat_le] at hb
      rw [← Bool.not_eq_true, isSecond_iff]
      rintro ⟨-, -, hlast, -⟩
      have hb' := hb.1
      have hlast' := hlast rfl
      simp at hb'
      omega
    rw [show [0xED, b] = [0xED] ++ [b] from rfl, scan_part_append hlead]
    simp [scan, extend_one, hsecond, hb]

/-- Bytes that are read are the encoding of the characters and what is left pending. -/
theorem scan_sound {start : Nat} {part bytes carry : List UInt8} {cs : List Char}
    (hpart : Part part) (h : scan start part bytes = .ok (cs, carry)) :
    part ++ bytes = encode cs ++ carry ∧ Pending carry := by
  -- the part that is read onto grows and is given up with each character
  induction bytes generalizing start part cs with
  | nil =>
    simp only [scan, Except.ok.injEq, Prod.mk.injEq] at h
    obtain ⟨rfl, rfl⟩ := h
    exact ⟨by simp [encode], .part hpart⟩
  | cons b bytes ih =>
    cases hb : extend part b with
    | whole c =>
      rw [scan_of_extend_whole hb, cons_eq_ok_iff] at h
      obtain ⟨ds, rfl, h⟩ := h
      obtain ⟨hbytes, hcarry⟩ := ih .nil h
      refine ⟨?_, hcarry⟩
      rw [encode_cons, encodeChar_of_extend hpart hb, List.append_assoc, List.append_assoc,
        ← hbytes]
      rfl
    | part =>
      rw [scan_of_extend_part hb] at h
      obtain ⟨hbytes, hcarry⟩ := ih (hpart.snoc hb) h
      rw [List.append_assoc] at hbytes
      exact ⟨hbytes, hcarry⟩
    | bad cause length =>
      simp only [scan, hb] at h
      -- of all faults only the start of a surrogate is read, and only at the end
      split at h
      · rename_i hlast
        simp only [Except.ok.injEq, Prod.mk.injEq] at h
        obtain ⟨rfl, rfl⟩ := h
        simp only [Bool.and_eq_true, List.isEmpty_iff] at hlast
        obtain ⟨rfl, hsurrogate⟩ := hlast
        have hlead : part = [0xED] := by
          simp only [isSurrogateStart, Bool.and_eq_true, beq_iff_eq] at hsurrogate
          exact hsurrogate.1.1
        subst hlead
        exact ⟨by simp [encode], .surrogate hsurrogate⟩
      · cases h

/-- A beginning of bytes that are read is read too. -/
theorem scan_of_append {start : Nat} {part front back : List UInt8}
    {read : List Char × List UInt8} (h : scan start part (front ++ back) = .ok read) :
    ∃ read', scan start part front = .ok read' := by
  induction front generalizing start part read with
  | nil => exact ⟨([], part), rfl⟩
  | cons b front ih =>
    cases hb : extend part b with
    | whole c =>
      rw [List.cons_append, scan_of_extend_whole hb] at h
      obtain ⟨cs, carry⟩ := read
      obtain ⟨ds, -, hrest⟩ := cons_eq_ok_iff.1 h
      obtain ⟨⟨es, carry'⟩, hfront⟩ := ih hrest
      exact ⟨(c :: es, carry'), by rw [scan_of_extend_whole hb, hfront]; rfl⟩
    | part =>
      rw [List.cons_append, scan_of_extend_part hb] at h
      rw [scan_of_extend_part hb]
      exact ih h
    | bad cause length =>
      -- a fault is let pass at the very end only, and there the beginning ends too
      simp only [List.cons_append, scan, hb] at h ⊢
      split at h
      · rename_i hlast
        simp only [Bool.and_eq_true, List.isEmpty_iff, List.append_eq_nil_iff] at hlast
        obtain ⟨⟨rfl, -⟩, hsurrogate⟩ := hlast
        simp [hsurrogate]
      · cases h

/-! ## Pieces and whole texts -/

/-- A piece is read exactly if it is the encoding of some characters and a pending rest. -/
theorem decodePiece_eq_ok_iff {data carry : List UInt8} {cs : List Char} :
    decodePiece data = .ok (cs, carry) ↔ data = encode cs ++ carry ∧ Pending carry := by
  have hscan : decodePiece data = .ok (cs, carry) ↔ scan 0 [] data = .ok (cs, carry) := by
    unfold decodePiece
    cases scan 0 [] data with
    | error fault => simp
    | ok read => simp
  rw [hscan]
  constructor
  · exact scan_sound .nil
  · rintro ⟨rfl, hcarry⟩
    exact scan_encode_append_eq_ok_iff.2 ⟨[], (List.append_nil cs).symm, scan_pending hcarry _⟩

/-- A beginning of an encoded text is read as a piece, wherever it is cut. -/
theorem decodePiece_of_append {front back : List UInt8} {cs : List Char}
    (h : front ++ back = encode cs) : ∃ read, decodePiece front = .ok read := by
  have hwhole : scan 0 [] (front ++ back) = .ok (cs, []) := by
    rw [h, ← List.append_nil (encode cs), scan_encode_append_eq_ok_iff]
    exact ⟨[], (List.append_nil cs).symm, rfl⟩
  obtain ⟨read, hread⟩ := scan_of_append hwhole
  exact ⟨read, by simp only [decodePiece, hread]⟩

/-- Whole bytes are read exactly if they are an encoded text, and as that text. -/
theorem decode_eq_ok_iff {data : List UInt8} {cs : List Char} :
    decode data = .ok cs ↔ data = encode cs := by
  -- whatever is carried over at the end is a fault
  have hpiece : decode data = .ok cs ↔ decodePiece data = .ok (cs, []) := by
    unfold decode
    cases decodePiece data with
    | error fault => simp
    | ok read =>
      obtain ⟨ds, part⟩ := read
      dsimp only
      split
      · simp
      · split
        · simp
        · simp
      · rename_i hnil _
        simp only [reduceCtorEq, false_iff, Except.ok.injEq, Prod.mk.injEq, not_and]
        intro _
        exact hnil
  rw [hpiece, decodePiece_eq_ok_iff, List.append_nil]
  exact and_iff_left (.part .nil)

/-- What is pending holds no whole character. -/
theorem Pending.eq_nil_of_eq_encode_append {carry rest : List UInt8} {cs : List Char}
    (h : Pending carry) (hcarry : carry = encode cs ++ rest) : cs = [] := by
  have hscan := scan_pending h 0
  rw [hcarry, scan_encode_append_eq_ok_iff] at hscan
  obtain ⟨more, hnil, -⟩ := hscan
  exact (List.append_eq_nil_iff.1 hnil.symm).1

/-! ## The longest text -/

/-- Bytes that begin with no character. -/
def Stuck (bytes : List UInt8) : Prop :=
  ∀ c, ¬ encodeChar c <+: bytes

theorem encodeChar_ne_nil (c : Char) : encodeChar c ≠ [] := by
  obtain ⟨part, b, hc, -, -⟩ := exists_part_encodeChar c
  simp [hc]

theorem stuck_nil : Stuck [] := by
  intro c h
  exact encodeChar_ne_nil c (List.prefix_nil.1 h)

theorem eq_of_encodeChar_isPrefix {c d : Char} (h : encodeChar c <+: encodeChar d) : c = d := by
  obtain ⟨rest, hrest⟩ := h
  -- the bytes of `d` are read as `d` first, and as `c` first
  have hd := scan_encodeChar_append 0 d []
  rw [List.append_nil, ← hrest, scan_encodeChar_append] at hd
  obtain ⟨ds, hds, -⟩ := cons_eq_ok_iff.1 hd
  exact (List.cons.inj hds).1.symm

/-- No character begins as another one and goes on after it. -/
theorem encodeChar_isPrefix_unique {c d : Char} {bytes : List UInt8} (hc : encodeChar c <+: bytes)
    (hd : encodeChar d <+: bytes) : c = d := by
  rcases List.prefix_or_prefix_of_prefix hc hd with h | h
  · exact eq_of_encodeChar_isPrefix h
  · exact (eq_of_encodeChar_isPrefix h).symm

/-- Any bytes are an encoded text and bytes that begin with no character. -/
theorem exists_longest (bytes : List UInt8) :
    ∃ text rest, bytes = encode text ++ rest ∧ Stuck rest := by
  -- as long as the bytes begin with a character, it is taken off them
  induction hn : bytes.length using Nat.strongRecOn generalizing bytes with
  | ind n ih =>
    by_cases h : Stuck bytes
    · exact ⟨[], bytes, rfl, h⟩
    · obtain ⟨c, hc⟩ := Classical.not_forall.1 h
      obtain ⟨more, rfl⟩ := Classical.not_not.1 hc
      have hpos := List.length_pos_iff.2 (encodeChar_ne_nil c)
      rw [List.length_append] at hn
      obtain ⟨text, rest, rfl, hrest⟩ := ih more.length (by omega) more rfl
      exact ⟨c :: text, rest, by rw [encode_cons, List.append_assoc], hrest⟩

/-- That text begins with every text that the bytes begin with. -/
theorem isPrefix_of_encode_isPrefix {cs text : List Char} {rest : List UInt8} (hrest : Stuck rest)
    (h : encode cs <+: encode text ++ rest) : cs <+: text := by
  induction cs generalizing text with
  | nil => exact List.nil_prefix
  | cons c cs ih =>
    rw [encode_cons] at h
    have hc : encodeChar c <+: encode text ++ rest := (List.prefix_append _ _).trans h
    cases text with
    -- what is stuck begins with no character, so `c` is the first one of the text
    | nil => exact absurd hc (hrest c)
    | cons d text =>
      rw [encode_cons, List.append_assoc] at h hc
      obtain rfl := encodeChar_isPrefix_unique hc (List.prefix_append _ _)
      have hmore := ih ((List.prefix_append_right_inj _).1 h)
      exact List.cons_prefix_cons.2 ⟨rfl, hmore⟩

end Tabletop.Text.Utf8
