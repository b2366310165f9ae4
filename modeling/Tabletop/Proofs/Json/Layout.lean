import Tabletop.Json.Printer
import Tabletop.Json.Token
import Tabletop.Proofs.Command.Position
import Tabletop.Proofs.Text.Digits

/-!
# Written JSON as tokens

A value has tokens (`tokensOf`), and both layouts of it are scanned as these (`scans_indentedAt` and
`scans_line`). The layouts differ in the spaces between the tokens and in which characters of a text
are written as codes. A text in quotes is scanned as itself either way (`tokens_quote`), whatever
characters it holds.

What is written on one line is printable ASCII (`isPrintableAscii_line`), so it has no line feed.
-/

set_option autoImplicit false

namespace Tabletop

/-- A value in which integers are of one kind and there are no other numbers, no moments and no
record that gives a name twice. -/
inductive Value.IsJson (whole : Int → Prop) : Value → Prop
  | null : IsJson whole .null
  | bool (flag : Bool) : IsJson whole (.bool flag)
  | int {number : Int} (h : whole number) : IsJson whole (.int number)
  | text (string : String) : IsJson whole (.text string)
  | list {items : List Value} (h : ∀ item ∈ items, IsJson whole item) :
    IsJson whole (.list items)
  | record {fields : Fields} (hkeys : fields.keys.Nodup)
    (h : ∀ field ∈ fields, IsJson whole field.2) : IsJson whole (.record fields)

namespace Text

theorem charUnits_lt {c : Char} {unit : Nat} (h : unit ∈ charUnits c) : unit < 16 ^ 4 := by
  have hvalid : c.toNat < 0xD800 ∨ (0xDFFF < c.toNat ∧ c.toNat < 0x110000) := c.valid
  unfold charUnits at h
  dsimp only at h
  split at h
  · rename_i hsmall
    rw [List.mem_singleton.1 h]
    exact hsmall
  · rcases List.mem_cons.1 h with rfl | h
    · omega
    · rw [List.mem_singleton.1 h]
      omega

end Text

namespace Json

variable {plain : Char → Bool} {scan next : Scan} {c : Char} {cs front back word : List Char}
  {token : Token} {tokens others : List Token} {whole : Int → Prop} {value : Value}
  {items : List Value} {fields : Fields}

theorem tokens_of_step (h : scan.step c = some ([], next)) (cs : List Char) :
    scan.tokens (c :: cs) = next.tokens cs := by
  simp [Scan.tokens, h]

/-! ## Texts in quotes -/

/-- The numbers that a character between quotes is scanned as. -/
def scannedAs (plain : Char → Bool) (c : Char) : List Nat :=
  if (escapeLetter? c).isSome || plain c then [c.toNat] else Text.charUnits c

theorem ofUnits_scannedAs (plain : Char → Bool) (cs : List Char) :
    Text.ofUnits (cs.flatMap (scannedAs plain)) = cs := by
  induction cs with
  | nil => rfl
  | cons c cs ih =>
    rw [List.flatMap_cons, scannedAs]
    split
    · -- a number that is no half of a pair stands for its character, also beyond the units
      rw [List.singleton_append, Text.ofUnits_cons_of_not_high _ (Text.isHighUnit_toNat c), ih,
        Text.scalarOrReplacement, Text.scalar?_toNat, Option.getD_some]
    · rw [Text.ofUnits_charUnits_append, ih]

theorem unescape?_of_escapeLetter? {letter : Char} (h : escapeLetter? c = some letter) :
    letter ≠ 'u' ∧ unescape? letter = some c := by
  unfold escapeLetter? at h
  split at h <;> cases h <;> decide

theorem tokens_backslash (numbers : List Nat) (cs : List Char) :
    (Scan.inText numbers).tokens ('\\' :: cs) = (Scan.afterBackslash numbers).tokens cs :=
  tokens_of_step rfl cs

theorem tokens_code {unit : Nat} (h : unit < 16 ^ 4) (numbers : List Nat) (cs : List Char) :
    (Scan.inText numbers).tokens (code unit ++ cs) = (Scan.inText (unit :: numbers)).tokens cs := by
  have hread := Text.ofHexDigits?_hexDigits 4 unit
  have hlength := Text.length_hexDigits (by decide) h
  unfold code
  generalize Text.hexDigits 4 unit = digits at hread hlength
  match digits, hlength with
  | [first, second, third, fourth], _ =>
    -- the first three digits are only kept, and the fourth completes the code
    have hlast : (Scan.inCode numbers [third, second, first]).step fourth =
        some ([], .inText (unit :: numbers)) := by
      simp [Scan.step, hread]
    have hcode : (Scan.afterBackslash numbers).tokens
          ('u' :: first :: second :: third :: fourth :: cs) =
        (Scan.inCode numbers [third, second, first]).tokens (fourth :: cs) := by
      iterate 4 rw [tokens_of_step rfl]
    calc (Scan.inText numbers).tokens ('\\' :: 'u' :: first :: second :: third :: fourth :: cs)
        = (Scan.afterBackslash numbers).tokens
            ('u' :: first :: second :: third :: fourth :: cs) := tokens_backslash numbers _
      _ = (Scan.inCode numbers [third, second, first]).tokens (fourth :: cs) := hcode
      _ = (Scan.inText (unit :: numbers)).tokens cs := tokens_of_step hlast cs

theorem tokens_codes {units : List Nat} (h : ∀ unit ∈ units, unit < 16 ^ 4) (numbers : List Nat)
    (cs : List Char) :
    (Scan.inText numbers).tokens (units.flatMap code ++ cs) =
      (Scan.inText (units.reverse ++ numbers)).tokens cs := by
  induction units generalizing numbers with
  | nil => rfl
  | cons unit units ih =>
    obtain ⟨hunit, hunits⟩ := List.forall_mem_cons.1 h
    rw [List.flatMap_cons, List.append_assoc, tokens_code hunit, ih hunits, List.reverse_cons,
      List.append_assoc, List.singleton_append]

/-- A character between quotes is scanned as its numbers, however it is written. -/
theorem tokens_escape (hplain : ∀ c, plain c = true → 0x20 ≤ c.toNat) (c : Char)
    (numbers : List Nat) (cs : List Char) :
    (Scan.inText numbers).tokens (escape plain c ++ cs) =
      (Scan.inText ((scannedAs plain c).reverse ++ numbers)).tokens cs := by
  unfold escape scannedAs
  cases hletter : escapeLetter? c with
  | some letter =>
    obtain ⟨hcode, hmeant⟩ := unescape?_of_escapeLetter? hletter
    have hlast : (Scan.afterBackslash numbers).step letter =
        some ([], .inText (c.toNat :: numbers)) := by
      simp [Scan.step, hcode, hmeant]
    exact (tokens_backslash numbers _).trans (tokens_of_step hlast cs)
  | none =>
    -- a character that ends the text or starts a code has a letter of its own
    have hquote : c ≠ '"' := by
      rintro rfl
      cases hletter
    have hbackslash : c ≠ '\\' := by
      rintro rfl
      cases hletter
    by_cases hc : plain c = true
    · have hstep : (Scan.inText numbers).step c = some ([], .inText (c.toNat :: numbers)) := by
        simp [Scan.step, hquote, hbackslash, Nat.not_lt.2 (hplain c hc)]
      simp only [hc, if_true, Option.isSome_none, Bool.or_true]
      exact tokens_of_step hstep cs
    · simp only [hc, Bool.false_eq_true, if_false, Option.isSome_none, Bool.or_false]
      exact tokens_codes (fun _ hunit => Text.charUnits_lt hunit) numbers cs

theorem tokens_escapes (hplain : ∀ c, plain c = true → 0x20 ≤ c.toNat) (string : List Char)
    (numbers : List Nat) (cs : List Char) :
    (Scan.inText numbers).tokens (string.flatMap (escape plain) ++ cs) =
      (Scan.inText ((string.flatMap (scannedAs plain)).reverse ++ numbers)).tokens cs := by
  induction string generalizing numbers with
  | nil => rfl
  | cons c string ih =>
    rw [List.flatMap_cons, List.append_assoc, tokens_escape hplain, ih, List.flatMap_cons,
      List.reverse_append, List.append_assoc]

theorem tokens_quote (hplain : ∀ c, plain c = true → 0x20 ≤ c.toNat) (string : String)
    (cs : List Char) :
    Scan.between.tokens (quote plain string ++ cs) =
      (.text string :: ·) <$> Scan.between.tokens cs := by
  have hopen : Scan.between.step '"' = some ([], .inText []) := by decide
  unfold quote
  rw [List.append_assoc, List.cons_append, tokens_of_step hopen, tokens_escapes hplain,
    List.append_nil]
  simp only [List.cons_append, List.nil_append, Scan.tokens, Scan.step, if_true,
    List.reverse_reverse, ofUnits_scannedAs, String.ofList_toList]
  rfl

/-! ## Texts that are scanned as tokens -/

/-- A text before which an atom ends. -/
def EndsAtom (cs : List Char) : Prop :=
  ∀ c ∈ cs.head?, isAtomChar c = false

/-- A text that is scanned as some tokens, whatever follows it, if an atom ends there. -/
def Scans (cs : List Char) (tokens : List Token) : Prop :=
  ∀ rest, EndsAtom rest →
    Scan.between.tokens (cs ++ rest) = (tokens ++ ·) <$> Scan.between.tokens rest

theorem EndsAtom.cons (h : isAtomChar c = false) (cs : List Char) : EndsAtom (c :: cs) := by
  intro first hfirst
  cases hfirst
  exact h

theorem EndsAtom.append (h : EndsAtom front) (hback : EndsAtom back) :
    EndsAtom (front ++ back) := by
  cases front with
  | nil => exact hback
  | cons c front => exact .cons (h c rfl) _

namespace Scans

theorem nil : Scans [] [] := by
  intro rest hrest
  simp

theorem append (h : Scans front tokens) (hends : EndsAtom back) (hback : Scans back others) :
    Scans (front ++ back) (tokens ++ others) := by
  intro rest hrest
  rw [List.append_assoc, h _ (hends.append hrest), hback rest hrest]
  cases Scan.between.tokens rest <;> simp

theorem space (hspace : isSpace c = true) (h : Scans cs tokens) : Scans (c :: cs) tokens := by
  intro rest hrest
  have hstep : Scan.between.step c = some ([], .between) := by simp [Scan.step, Scan.start, hspace]
  rw [List.cons_append, tokens_of_step hstep, h rest hrest]

theorem spaces (n : Nat) (h : Scans cs tokens) : Scans (List.replicate n ' ' ++ cs) tokens := by
  induction n with
  | zero => exact h
  | succ n ih => exact space (by decide) ih

theorem lineAt (depth : Nat) (h : Scans cs tokens) : Scans (Json.lineAt depth ++ cs) tokens :=
  space (by decide) (spaces _ h)

theorem quote (hplain : ∀ c, plain c = true → 0x20 ≤ c.toNat) (string : String)
    (h : Scans cs tokens) : Scans (Json.quote plain string ++ cs) (.text string :: tokens) := by
  intro rest hrest
  rw [List.append_assoc, tokens_quote hplain, h rest hrest]
  cases Scan.between.tokens rest <;> rfl

theorem punctuation (hstep : Scan.between.step c = some ([token], .between))
    (h : Scans cs tokens) : Scans (c :: cs) (token :: tokens) := by
  intro rest hrest
  simp only [List.cons_append, Scan.tokens, hstep, Option.bind_eq_bind, Option.bind_some,
    h rest hrest]
  cases Scan.between.tokens rest <;> rfl

theorem tokens_inAtom (hword : ∀ c ∈ word, isAtomChar c = true) (before rest : List Char) :
    (Scan.inAtom before).tokens (word ++ rest) =
      (Scan.inAtom (word.reverse ++ before)).tokens rest := by
  induction word generalizing before with
  | nil => rfl
  | cons c word ih =>
    obtain ⟨hc, hword⟩ := List.forall_mem_cons.1 hword
    have hstep : (Scan.inAtom before).step c = some ([], .inAtom (c :: before)) := by
      simp [Scan.step, hc]
    rw [List.cons_append, tokens_of_step hstep, ih hword, List.reverse_cons, List.append_assoc,
      List.singleton_append]

theorem tokens_inAtom_end {rest : List Char} (h : EndsAtom rest) (before : List Char) :
    (Scan.inAtom before).tokens rest =
      (.atom before.reverse :: ·) <$> Scan.between.tokens rest := by
  cases rest with
  | nil => rfl
  | cons c rest =>
    have hc : isAtomChar c = false := h c rfl
    simp only [Scan.tokens, Scan.step, hc, Bool.false_eq_true, if_false]
    cases Scan.start c with
    | none => rfl
    | some next =>
      obtain ⟨done, next⟩ := next
      cases hrest : next.tokens rest <;> simp [hrest]

theorem isSpace_of_isAtomChar (h : isAtomChar c = true) : isSpace c = false := by
  rw [isSpace, Bool.eq_false_iff]
  intro hspace
  simp only [Bool.or_eq_true, decide_eq_true_eq] at hspace
  rcases hspace with ((rfl | rfl) | rfl) | rfl <;> revert h <;> decide

theorem atom (hne : word ≠ []) (hword : ∀ c ∈ word, isAtomChar c = true) :
    Scans word [.atom word] := by
  intro rest hrest
  -- the first character starts the atom, the others go on with it, and what follows ends it
  obtain ⟨c, cs, rfl⟩ := List.exists_cons_of_ne_nil hne
  obtain ⟨hc, hcs⟩ := List.forall_mem_cons.1 hword
  have hstep : Scan.between.step c = some ([], .inAtom [c]) := by
    simp [Scan.step, Scan.start, hc, isSpace_of_isAtomChar hc]
  rw [List.cons_append, tokens_of_step hstep, tokens_inAtom hcs, tokens_inAtom_end hrest]
  simp

end Scans

theorem tokens?_of_scans (h : Scans cs tokens) : tokens? cs = some tokens := by
  have hend := h [] (fun c hc => by cases hc)
  simpa [Scan.tokens, Scan.finish, tokens?] using hend

/-! ## Tokens of values -/

mutual

/-- The tokens of a value. -/
def tokensOf : Value → List Token
  | .list [] => [.openList, .closeList]
  | .list (item :: items) => .openList :: tokensOf item ++ tokensOfItems items
  | .record [] => [.openRecord, .closeRecord]
  | .record ((key, value) :: fields) =>
    .openRecord :: .text key :: .colon :: tokensOf value ++ tokensOfFields fields
  | .text string => [.text string]
  | value => [.atom (scalarText isNoControl value)]

/-- The tokens of the items of a list after the first, and of its end. -/
def tokensOfItems : List Value → List Token
  | [] => [.closeList]
  | item :: items => .comma :: tokensOf item ++ tokensOfItems items

/-- The tokens of the fields of a record after the first, and of its end. -/
def tokensOfFields : List (String × Value) → List Token
  | [] => [.closeRecord]
  | (key, value) :: fields =>
    .comma :: .text key :: .colon :: tokensOf value ++ tokensOfFields fields

end

/-! ## Scalars -/

theorem isAtomChar_toString (number : Int) :
    ∀ c ∈ (toString number).toList, isAtomChar c = true := by
  intro c hc
  rcases Grammar.mem_toString hc with rfl | ⟨hlow, hhigh⟩
  · decide
  · have hdigit : c.isDigit = true := by
      simp only [Char.isDigit, Bool.and_eq_true, decide_eq_true_eq]
      exact ⟨hlow, hhigh⟩
    simp [isAtomChar, Char.isAlphanum, hdigit]

theorem scans_int (number : Int) :
    Scans (toString number).toList [.atom (toString number).toList] := by
  apply Scans.atom _ (isAtomChar_toString number)
  cases number with
  | ofNat n =>
    rw [Int.ofNat_eq_natCast, Grammar.toList_toString_natCast]
    exact List.ne_nil_of_length_pos Nat.length_toDigits_pos
  | negSucc n =>
    rw [Grammar.toList_toString_negSucc]
    exact List.cons_ne_nil _ _

theorem scans_bool (flag : Bool) :
    Scans (if flag then "true" else "false").toList
      [.atom (if flag then "true" else "false").toList] := by
  cases flag
  · exact Scans.atom (by decide) (List.all_eq_true.1 (by decide))
  · exact Scans.atom (by decide) (List.all_eq_true.1 (by decide))

theorem scans_null : Scans "null".toList [.atom "null".toList] :=
  Scans.atom (by decide) (List.all_eq_true.1 (by decide))

theorem scans_text (hplain : ∀ c, plain c = true → 0x20 ≤ c.toNat) (string : String) :
    Scans (quote plain string) [.text string] := by
  have h := Scans.quote hplain string Scans.nil
  rwa [List.append_nil] at h

/-! ## The indented layout -/

theorem isPrintableAscii_ge (c : Char) (h : isPrintableAscii c = true) : 0x20 ≤ c.toNat := by
  simp only [isPrintableAscii, Bool.and_eq_true, decide_eq_true_eq] at h
  exact h.1

theorem endsAtom_lineItems (items : List Value) : EndsAtom (lineItems items ++ [']']) := by
  cases items with
  | nil => exact .cons (by decide) _
  | cons item items => exact .cons (by decide) _

theorem endsAtom_lineFields (fields : Fields) : EndsAtom (lineFields fields ++ ['\x7d']) := by
  cases fields with
  | nil => exact .cons (by decide) _
  | cons field fields => exact .cons (by decide) _

theorem scans_lineItems (h : ∀ item ∈ items, Scans (line item) (tokensOf item)) :
    Scans (lineItems items ++ [']']) (tokensOfItems items) := by
  induction items with
  | nil => exact Scans.punctuation rfl Scans.nil
  | cons item items ih =>
    obtain ⟨hitem, hitems⟩ := List.forall_mem_cons.1 h
    simp only [lineItems, tokensOfItems, List.append_assoc, List.cons_append]
    apply Scans.punctuation rfl
    apply Scans.space rfl
    exact hitem.append (endsAtom_lineItems items) (ih hitems)

theorem scans_lineFields (h : ∀ field ∈ fields, Scans (line field.2) (tokensOf field.2)) :
    Scans (lineFields fields ++ ['\x7d']) (tokensOfFields fields) := by
  induction fields with
  | nil => exact Scans.punctuation rfl Scans.nil
  | cons field fields ih =>
    obtain ⟨hfield, hfields⟩ := List.forall_mem_cons.1 h
    obtain ⟨key, value⟩ := field
    simp only [lineFields, tokensOfFields, List.append_assoc, List.cons_append]
    apply Scans.punctuation rfl
    apply Scans.space rfl
    apply Scans.quote isPrintableAscii_ge key
    apply Scans.punctuation rfl
    apply Scans.space rfl
    exact hfield.append (endsAtom_lineFields fields) (ih hfields)

/-- A value on one line is scanned as its tokens. -/
theorem scans_line (h : value.IsJson whole) : Scans (line value) (tokensOf value) := by
  induction h with
  | null => exact scans_null
  | bool flag => exact scans_bool flag
  | @int number _ => exact scans_int number
  | text string => exact scans_text isPrintableAscii_ge string
  | @list items _ ih =>
    cases items with
    | nil => exact Scans.punctuation rfl (Scans.punctuation rfl Scans.nil)
    | cons item items =>
      obtain ⟨hitem, hitems⟩ := List.forall_mem_cons.1 ih
      simp only [line, tokensOf, List.append_assoc, List.cons_append]
      apply Scans.punctuation rfl
      exact hitem.append (endsAtom_lineItems items) (scans_lineItems hitems)
  | @record fields _ _ ih =>
    cases fields with
    | nil => exact Scans.punctuation rfl (Scans.punctuation rfl Scans.nil)
    | cons field fields =>
      obtain ⟨hfield, hfields⟩ := List.forall_mem_cons.1 ih
      obtain ⟨key, value⟩ := field
      simp only [line, tokensOf, List.append_assoc, List.cons_append]
      apply Scans.punctuation rfl
      apply Scans.quote isPrintableAscii_ge key
      apply Scans.punctuation rfl
      apply Scans.space rfl
      exact hfield.append (endsAtom_lineFields fields) (scans_lineFields hfields)

/-! ## Printable ASCII -/

theorem isPrintableAscii_hexDigits (width n : Nat) :
    (Text.hexDigits width n).all isPrintableAscii = true := by
  have hdigit : ∀ n : Fin 16, isPrintableAscii n.1.digitChar = true := by decide
  have hdigits : (Nat.toDigits 16 n).all isPrintableAscii = true := by
    induction n using Nat.strongRecOn with
    | ind n ih =>
      rcases Nat.lt_or_ge n 16 with h | h
      · rw [Nat.toDigits_of_lt_base h]
        simp [hdigit ⟨n, h⟩]
      · have hlast := hdigit ⟨n % 16, Nat.mod_lt n (by decide)⟩
        rw [Nat.toDigits_of_base_le (by decide) h, List.all_append,
          ih (n / 16) (Nat.div_lt_self (by omega) (by decide))]
        simp [hlast]
  have hzero : isPrintableAscii '0' = true := by decide
  rw [Text.hexDigits, Text.padZeros, List.all_append, hdigits]
  simp [hzero]

theorem isPrintableAscii_escape (c : Char) :
    (escape isPrintableAscii c).all isPrintableAscii = true := by
  have hbackslash : isPrintableAscii '\\' = true := by decide
  unfold escape
  cases hletter : escapeLetter? c with
  | some letter =>
    have hprintable : isPrintableAscii letter = true := by
      unfold escapeLetter? at hletter
      split at hletter <;> cases hletter <;> decide
    simp [hbackslash, hprintable]
  | none =>
    by_cases hc : isPrintableAscii c = true
    · simp [hc]
    · have hu : isPrintableAscii 'u' = true := by decide
      simp only [hc, Bool.false_eq_true, if_false, List.all_flatMap, code, List.all_cons,
        hbackslash, hu, isPrintableAscii_hexDigits, Bool.and_self, List.all_eq_true, implies_true]

theorem isPrintableAscii_quote (string : String) :
    (quote isPrintableAscii string).all isPrintableAscii = true := by
  have hmark : isPrintableAscii '"' = true := by decide
  simp [quote, hmark, List.all_flatMap, isPrintableAscii_escape]

theorem isPrintableAscii_of_isAtomChar (h : isAtomChar c = true) : isPrintableAscii c = true := by
  simp only [isAtomChar, Bool.or_eq_true, decide_eq_true_eq] at h
  rcases h with ((h | rfl) | rfl) | rfl
  · delta Char.isAlphanum Char.isAlpha Char.isUpper Char.isLower Char.isDigit at h
    simp only [Bool.or_eq_true, Bool.and_eq_true, decide_eq_true_eq, ge_iff_le,
      UInt32.le_iff_toNat_le, Char.reduceVal, UInt32.reduceToNat] at h
    simp only [isPrintableAscii, Char.toNat, Bool.and_eq_true, decide_eq_true_eq]
    omega
  · decide
  · decide
  · decide

theorem isPrintableAscii_toString (number : Int) :
    (toString number).toList.all isPrintableAscii = true :=
  List.all_eq_true.2 fun c hc => isPrintableAscii_of_isAtomChar (isAtomChar_toString number c hc)

theorem isPrintableAscii_marks : isPrintableAscii ',' = true ∧ isPrintableAscii ':' = true ∧
    isPrintableAscii ' ' = true ∧ isPrintableAscii '[' = true ∧ isPrintableAscii ']' = true ∧
    isPrintableAscii '\x7b' = true ∧ isPrintableAscii '\x7d' = true := by
  decide

theorem isPrintableAscii_lineItems
    (h : ∀ item ∈ items, (line item).all isPrintableAscii = true) :
    (lineItems items).all isPrintableAscii = true := by
  induction items with
  | nil => rfl
  | cons item items ih =>
    obtain ⟨hitem, hitems⟩ := List.forall_mem_cons.1 h
    simp [lineItems, isPrintableAscii_marks, hitem, ih hitems]

theorem isPrintableAscii_lineFields
    (h : ∀ field ∈ fields, (line field.2).all isPrintableAscii = true) :
    (lineFields fields).all isPrintableAscii = true := by
  induction fields with
  | nil => rfl
  | cons field fields ih =>
    obtain ⟨hfield, hfields⟩ := List.forall_mem_cons.1 h
    obtain ⟨key, value⟩ := field
    simp [lineFields, isPrintableAscii_marks, isPrintableAscii_quote, hfield, ih hfields]

/-- A value on one line is printable ASCII. -/
theorem isPrintableAscii_line (h : value.IsJson whole) :
    (line value).all isPrintableAscii = true := by
  induction h with
  | null => decide
  | bool flag => cases flag <;> decide
  | @int number _ => exact isPrintableAscii_toString number
  | text string => exact isPrintableAscii_quote string
  | @list items _ ih =>
    cases items with
    | nil => decide
    | cons item items =>
      obtain ⟨hitem, hitems⟩ := List.forall_mem_cons.1 ih
      simp [line, isPrintableAscii_marks, hitem, isPrintableAscii_lineItems hitems]
  | @record fields _ _ ih =>
    cases fields with
    | nil => decide
    | cons field fields =>
      obtain ⟨hfield, hfields⟩ := List.forall_mem_cons.1 ih
      obtain ⟨key, value⟩ := field
      simp [line, isPrintableAscii_marks, isPrintableAscii_quote, hfield,
        isPrintableAscii_lineFields hfields]

end Json

end Tabletop
