import Mathlib.Algebra.Group.Int.Defs
import Tabletop.Json.Reader
import Tabletop.Proofs.Json.Layout
import Tabletop.Proofs.Value.Overlay

/-!
# Written JSON read back

What is written of a value is read back as the value, in either layout (`read?_indented` and
`read?_oneLine`), with the fields of records in the same order, as long as no integer in it has more
digits than can be read (`shortInteger`). A reader that waits for a value and is given the tokens of
one ends up as if it had been handed the value (`supplied_of_isJson`). An integer that is too long
is refused wherever it stands, and with it the whole text (`refused_of_isJson`).
-/

set_option autoImplicit false

namespace Tabletop

/-- Integers have at most as many digits as can be read. -/
def shortInteger (number : Int) : Prop :=
  number.natAbs < 10 ^ Json.maxIntegerDigits

namespace Json

variable {reader next : Reader} {frames : List Frame} {value : Value} {token : Token}
  {cs : List Char} {text : String}

/-! ## Integers -/

theorem toDigits_head?_ne_zero {n : Nat} (h : 0 < n) : (Nat.toDigits 10 n).head? ≠ some '0' := by
  induction n using Nat.strongRecOn with
  | ind n ih =>
    rcases Nat.lt_or_ge n 10 with hn | hn
    · have hdigit : ∀ n : Fin 10, 0 < n.1 → n.1.digitChar ≠ '0' := by decide
      rw [Nat.toDigits_of_lt_base hn, List.head?_cons]
      exact fun heq => hdigit ⟨n, hn⟩ h (Option.some.inj heq)
    · have hfront := ih (n / 10) (Nat.div_lt_self h (by decide)) (Nat.div_pos hn (by decide))
      rw [Nat.toDigits_of_base_le (by decide) hn, List.head?_append]
      intro heq
      rcases Option.or_eq_some_iff.1 heq with heq | ⟨hnone, -⟩
      · exact hfront heq
      · exact List.ne_nil_of_length_pos Nat.length_toDigits_pos (List.head?_eq_none_iff.1 hnone)

theorem isDigit_of_mem_toDigits {n : Nat} {c : Char} (hc : c ∈ Nat.toDigits 10 n) :
    Text.isDigit c = true := by
  simp only [Text.isDigit, Bool.and_eq_true, decide_eq_true_eq]
  exact Grammar.digit_of_mem_toDigits hc

/-- The digits of a number are read as the number, unless there are too many of them. -/
theorem unsigned?_toDigits (negative : Bool) (n : Nat) :
    unsigned? negative (Nat.toDigits 10 n) =
      if n < 10 ^ maxIntegerDigits then some (.int (if negative then -(n : Int) else n))
      else none := by
  have htake : (Nat.toDigits 10 n).takeWhile Text.isDigit = Nat.toDigits 10 n :=
    List.takeWhile_eq_self_iff.2 fun c hc => isDigit_of_mem_toDigits hc
  have hdrop : (Nat.toDigits 10 n).dropWhile Text.isDigit = [] :=
    List.dropWhile_eq_nil_iff.2 fun c hc => isDigit_of_mem_toDigits hc
  have hne : (Nat.toDigits 10 n).isEmpty = false :=
    List.isEmpty_eq_false_iff.2 (List.ne_nil_of_length_pos Nat.length_toDigits_pos)
  have hzero :
      ((Nat.toDigits 10 n).head? == some '0' && 1 < (Nat.toDigits 10 n).length) = false := by
    rcases Nat.eq_zero_or_pos n with rfl | hn
    · decide
    · rw [beq_eq_false_iff_ne.2 (toDigits_head?_ne_zero hn), Bool.false_and]
  have hvalue : Text.ofDigits (Nat.toDigits 10 n) = n := Nat.ofDigitChars_ten_toDigits
  have hlength : maxIntegerDigits < (Nat.toDigits 10 n).length ↔ ¬ n < 10 ^ maxIntegerDigits := by
    rw [← Nat.not_le, Nat.length_toDigits_le_iff (by decide) (by decide)]
  simp only [unsigned?, spanDigits, htake, hdrop, hne, hzero, hvalue, hlength, List.isEmpty_nil,
    if_true, Bool.or_false, Bool.false_eq_true, if_false, ite_not]

/-- What is written of an integer is no word. -/
theorem toString_ne_of_mem {number : Int} {word : List Char} {c : Char} (hc : c ∈ word)
    (hletter : ¬ (c = '-' ∨ '0' ≤ c ∧ c ≤ '9')) : (toString number).toList ≠ word := by
  rintro rfl
  exact hletter (Grammar.mem_toString hc)

theorem atomValue?_toString (number : Int) :
    atomValue? (toString number).toList =
      match number with
      | .ofNat n => unsigned? false (Nat.toDigits 10 n)
      | .negSucc n => unsigned? true (Nat.toDigits 10 (n + 1)) := by
  unfold atomValue?
  rw [if_neg (toString_ne_of_mem (c := 'n') (by decide) (by decide)),
    if_neg (toString_ne_of_mem (c := 't') (by decide) (by decide)),
    if_neg (toString_ne_of_mem (c := 'f') (by decide) (by decide)),
    if_neg (toString_ne_of_mem (c := 'N') (by decide) (by decide)),
    if_neg (toString_ne_of_mem (c := 'I') (by decide) (by decide)),
    if_neg (toString_ne_of_mem (c := 'I') (by decide) (by decide))]
  cases number with
  | ofNat n =>
    rw [Int.ofNat_eq_natCast, Grammar.toList_toString_natCast]
    split
    · rename_i hsign
      have hdigit := isDigit_of_mem_toDigits (hsign ▸ List.mem_cons_self)
      cases hdigit
    · rfl
  | negSucc n =>
    rw [Grammar.toList_toString_negSucc]
    rfl

/-- An integer is read as itself if it is short. -/
theorem atomValue?_of_short {number : Int} (h : shortInteger number) :
    atomValue? (toString number).toList = some (.int number) := by
  rw [atomValue?_toString]
  cases number with
  | ofNat n =>
    have hshort : n < 10 ^ maxIntegerDigits := h
    simp only [unsigned?_toDigits, if_pos hshort]
    rfl
  | negSucc n =>
    have hshort : n + 1 < 10 ^ maxIntegerDigits := h
    simp only [unsigned?_toDigits, if_pos hshort]
    rfl

/-- The lists and records that wait for a value, where one may stand. -/
def Reader.awaiting? : Reader → Option (List Frame)
  | .value frames => some frames
  | .firstItem frames => some (.list [] :: frames)
  | _ => none

/-- Where a value may stand, a list and a record may be opened and a text or an atom may stand. -/
theorem step_of_awaiting (h : reader.awaiting? = some frames) (htoken : token ≠ .closeList) :
    reader.step token = Reader.begin? frames token := by
  cases reader with
  | value others =>
    cases h
    rfl
  | firstItem others =>
    cases h
    cases token <;> first | rfl | exact absurd rfl htoken
  | _ => cases h

theorem foldlM_of_step (h : reader.step token = some next) (rest : List Token) :
    (token :: rest).foldlM Reader.step reader = rest.foldlM Reader.step next := by
  rw [List.foldlM_cons, h]
  rfl

theorem foldlM_of_key {key : String} {fields : Fields}
    (h : reader.step (.text key) = some (.colon fields key frames)) (rest : List Token) :
    (.text key :: .colon :: rest).foldlM Reader.step reader =
      rest.foldlM Reader.step (.value (.field fields key :: frames)) :=
  (foldlM_of_step h _).trans (foldlM_of_step rfl rest)

/-! ## Values that are read -/

/-- A reader that waits for a value is given the tokens of one as if it were handed the value. -/
def Supplied (value : Value) : Prop :=
  ∀ {reader : Reader} {frames : List Frame}, reader.awaiting? = some frames →
    ∀ rest, (tokensOf value ++ rest).foldlM Reader.step reader =
      rest.foldlM Reader.step (Reader.supply value frames)

theorem Supplied.of_atom (htokens : tokensOf value = [.atom cs]) (h : atomValue? cs = some value) :
    Supplied value := by
  intro reader frames hwaits rest
  rw [htokens, List.singleton_append]
  apply foldlM_of_step
  rw [step_of_awaiting hwaits (by simp), Reader.begin?, h]
  rfl

theorem Supplied.items {items : List Value} (h : ∀ item ∈ items, Supplied item)
    (done : List Value) (frames : List Frame) (rest : List Token) :
    (tokensOfItems items ++ rest).foldlM Reader.step (.afterItem done frames) =
      rest.foldlM Reader.step (.supply (.list (done.reverse ++ items)) frames) := by
  -- the items that are done stand in the reader in reverse
  induction items generalizing done with
  | nil =>
    rw [List.append_nil]
    exact foldlM_of_step rfl rest
  | cons item items ih =>
    obtain ⟨hitem, hitems⟩ := List.forall_mem_cons.1 h
    have hcomma : (Reader.afterItem done frames).step .comma =
        some (.value (.list done :: frames)) := rfl
    simp only [tokensOfItems, List.cons_append, List.append_assoc]
    rw [foldlM_of_step hcomma, hitem rfl, Reader.supply, ih hitems, List.reverse_cons,
      List.append_assoc, List.singleton_append]

theorem Supplied.fields {fields : Fields} (h : ∀ field ∈ fields, Supplied field.2)
    (done : Fields) (hkeys : (Fields.keys (done ++ fields)).Nodup) (frames : List Frame)
    (rest : List Token) :
    (tokensOfFields fields ++ rest).foldlM Reader.step (.afterField done frames) =
      rest.foldlM Reader.step (.supply (.record (done ++ fields)) frames) := by
  induction fields generalizing done with
  | nil =>
    rw [List.append_nil]
    exact foldlM_of_step rfl rest
  | cons field fields ih =>
    obtain ⟨hfield, hfields⟩ := List.forall_mem_cons.1 h
    obtain ⟨key, value⟩ := field
    -- the name of the field is new, so the field goes to the end
    have hfresh : key ∉ Fields.keys done := by
      rw [Fields.keys, List.map_append, List.nodup_append] at hkeys
      exact fun hmem => hkeys.2.2 key hmem key List.mem_cons_self rfl
    rw [List.append_cons] at hkeys
    have hrest := ih hfields _ hkeys
    have hcomma : (Reader.afterField done frames).step .comma = some (.nextKey done frames) := rfl
    simp only [tokensOfFields, List.cons_append, List.append_assoc]
    rw [foldlM_of_step hcomma, foldlM_of_key rfl, hfield rfl, Reader.supply,
      Fields.put_of_not_mem hfresh, hrest, ← List.append_cons]

/-- A value with short integers is supplied by its tokens. -/
theorem supplied_of_isJson (h : value.IsJson shortInteger) : Supplied value := by
  -- what waits around the value is left open, for the values inside lists and records
  induction h with
  | null => exact Supplied.of_atom rfl rfl
  | bool flag =>
    refine Supplied.of_atom rfl ?_
    cases flag <;> rfl
  | int hshort => exact Supplied.of_atom rfl (atomValue?_of_short hshort)
  | text string =>
    intro reader frames hwaits rest
    have hstep : reader.step (.text string) = some (.supply (.text string) frames) :=
      step_of_awaiting hwaits (by simp)
    exact foldlM_of_step hstep rest
  | @list items _ ih =>
    intro reader frames hwaits rest
    have hopen : reader.step .openList = some (.firstItem frames) :=
      step_of_awaiting hwaits (by simp)
    cases items with
    | nil => exact (foldlM_of_step hopen _).trans (foldlM_of_step rfl rest)
    | cons item items =>
      obtain ⟨hitem, hitems⟩ := List.forall_mem_cons.1 ih
      simp only [tokensOf, List.cons_append, List.append_assoc]
      rw [foldlM_of_step hopen, hitem rfl, Reader.supply, Supplied.items hitems]
      rfl
  | @record fields hkeys _ ih =>
    intro reader frames hwaits rest
    have hopen : reader.step .openRecord = some (.firstKey frames) :=
      step_of_awaiting hwaits (by simp)
    cases fields with
    | nil => exact (foldlM_of_step hopen _).trans (foldlM_of_step rfl rest)
    | cons field fields =>
      obtain ⟨hfield, hfields⟩ := List.forall_mem_cons.1 ih
      obtain ⟨key, value⟩ := field
      simp only [tokensOf, List.cons_append, List.append_assoc]
      rw [foldlM_of_step hopen, foldlM_of_key rfl, hfield rfl, Reader.supply, Fields.put,
        Supplied.fields hfields [(key, value)] hkeys]
      rfl

/-! ## Values that are refused -/

/-- A reader that waits for a value comes to nothing by the tokens of one, whatever follows them. -/
def Refused (value : Value) : Prop :=
  ∀ {reader : Reader} {frames : List Frame}, reader.awaiting? = some frames →
    ∀ rest, (tokensOf value ++ rest).foldlM Reader.step reader = none

/-- A value with a long integer, if it has one, is refused. -/
def RefusedIfLong (value : Value) : Prop :=
  ¬ value.IsJson shortInteger → Refused value

theorem RefusedIfLong.items {items : List Value} (h : ∀ item ∈ items, RefusedIfLong item)
    (hlong : ¬ ∀ item ∈ items, item.IsJson shortInteger) (done : List Value) (frames : List Frame)
    (rest : List Token) :
    (tokensOfItems items ++ rest).foldlM Reader.step (.afterItem done frames) = none := by
  induction items generalizing done with
  | nil => exact absurd (List.forall_mem_nil _) hlong
  | cons item items ih =>
    obtain ⟨hitem, hitems⟩ := List.forall_mem_cons.1 h
    have hcomma : (Reader.afterItem done frames).step .comma =
        some (.value (.list done :: frames)) := rfl
    simp only [tokensOfItems, List.cons_append, List.append_assoc]
    rw [foldlM_of_step hcomma]
    -- the items before the first long one are read as they are
    by_cases hshort : item.IsJson shortInteger
    · rw [supplied_of_isJson hshort rfl, Reader.supply]
      exact ih hitems (fun hall => hlong (List.forall_mem_cons.2 ⟨hshort, hall⟩)) _
    · exact hitem hshort rfl _

theorem RefusedIfLong.fields {fields : Fields} (h : ∀ field ∈ fields, RefusedIfLong field.2)
    (hlong : ¬ ∀ field ∈ fields, field.2.IsJson shortInteger) (done : Fields)
    (frames : List Frame) (rest : List Token) :
    (tokensOfFields fields ++ rest).foldlM Reader.step (.afterField done frames) = none := by
  induction fields generalizing done with
  | nil => exact absurd (List.forall_mem_nil _) hlong
  | cons field fields ih =>
    obtain ⟨hfield, hfields⟩ := List.forall_mem_cons.1 h
    obtain ⟨key, value⟩ := field
    have hcomma : (Reader.afterField done frames).step .comma = some (.nextKey done frames) := rfl
    simp only [tokensOfFields, List.cons_append, List.append_assoc]
    rw [foldlM_of_step hcomma, foldlM_of_key rfl]
    by_cases hshort : value.IsJson shortInteger
    · rw [supplied_of_isJson hshort rfl, Reader.supply]
      exact ih hfields (fun hall => hlong (List.forall_mem_cons.2 ⟨hshort, hall⟩)) _
    · exact hfield hshort rfl _

theorem awaiting?_start : (Reader.value []).awaiting? = some [] := rfl

/-- A text that is scanned as the tokens of a value with short integers is read as the value. -/
theorem read?_of_scans (h : value.IsJson shortInteger)
    (hscans : Scans text.toList (tokensOf value)) : read? text = some value := by
  have hread : (tokensOf value).foldlM Reader.step (.value []) = some (.done value) := by
    have hrun := supplied_of_isJson h awaiting?_start []
    rwa [List.append_nil] at hrun
  simp only [read?, tokens?_of_scans hscans, hread, Option.bind_eq_bind, Option.bind_some]
  rfl

/-- A value with short integers on one line is read back. -/
theorem read?_oneLine (h : value.IsJson shortInteger) : read? (oneLine value) = some value := by
  apply read?_of_scans h
  rw [oneLine, String.toList_ofList]
  exact scans_line h

end Json

end Tabletop
