import Mathlib.Data.List.Nodup
import Tabletop.Json.Depth
import Tabletop.Proofs.Value.Overlay

/-!
# Names in JSON records

A record that is read from JSON has distinct names, however often the text gives one
(`nodup_of_read?`). The reader keeps this of every record part way through: `Reader.Distinct` holds
at the start, one token keeps it (`Reader.Distinct.step`), and so do the tokens of a whole text.
-/

set_option autoImplicit false

namespace Tabletop.Json

/-- A value that has distinct names if it is a record. -/
def HasDistinctNames (value : Value) : Prop :=
  ∀ fields : Fields, value = Value.record fields → fields.keys.Nodup

/-- A list, or a record with distinct names, part way through. -/
def Frame.Distinct : Frame → Prop
  | .list _ => True
  | .field fields _ => (Fields.keys fields).Nodup

/-- A reader of which every record part way through has distinct names, and what it has read too. -/
def Reader.Distinct : Reader → Prop
  | .value frames | .firstItem frames | .firstKey frames | .afterItem _ frames =>
    ∀ frame ∈ frames, frame.Distinct
  | .nextKey fields frames | .colon fields _ frames | .afterField fields frames =>
    (Fields.keys fields).Nodup ∧ ∀ frame ∈ frames, frame.Distinct
  | .done whole => HasDistinctNames whole

/-! ## Atoms -/

theorem unsigned?_ne_record {negative : Bool} {cs : List Char} {fields : Fields} :
    unsigned? negative cs ≠ some (.record fields) := by
  intro h
  simp only [unsigned?] at h
  split at h
  · cases h
  · split at h
    · split at h <;> cases h
    · rcases hfraction : fraction? (spanDigits cs).2 with _ | ⟨fraction, afterFraction⟩
      · simp [hfraction] at h
      · rcases hpower : power? afterFraction with _ | power <;> simp [hfraction, hpower] at h

theorem atomValue?_ne_record {cs : List Char} {fields : Fields} :
    atomValue? cs ≠ some (.record fields) := by
  intro h
  simp only [atomValue?] at h
  -- the six words stand for values of other kinds
  iterate 6
    split at h
    · cases h
  split at h
  · exact unsigned?_ne_record h
  · exact unsigned?_ne_record h

/-! ## One token -/

theorem Reader.Distinct.supply {value : Value} (hvalue : HasDistinctNames value) :
    ∀ {frames : List Frame}, (∀ frame ∈ frames, frame.Distinct) →
      (Reader.supply value frames).Distinct
  | [], _ => hvalue
  | .list _ :: _, h => fun frame hframe => h frame (List.mem_cons_of_mem _ hframe)
  | .field _ _ :: _, h =>
    ⟨Fields.nodup_put (h _ List.mem_cons_self),
      fun frame hframe => h frame (List.mem_cons_of_mem _ hframe)⟩

theorem Reader.Distinct.begin {frames : List Frame} (h : ∀ frame ∈ frames, frame.Distinct)
    {token : Token} {next : Reader} (hbegin : Reader.begin? frames token = some next) :
    next.Distinct := by
  cases token with
  | openList =>
    cases hbegin
    exact h
  | openRecord =>
    cases hbegin
    exact h
  | text string =>
    cases hbegin
    exact Reader.Distinct.supply (fun _ heq => by cases heq) h
  | atom characters =>
    rcases Option.map_eq_some_iff.1 hbegin with ⟨value, hvalue, rfl⟩
    apply Reader.Distinct.supply _ h
    intro fields heq
    rw [heq] at hvalue
    exact absurd hvalue atomValue?_ne_record
  | closeList => cases hbegin
  | closeRecord => cases hbegin
  | comma => cases hbegin
  | colon => cases hbegin

/-- One token keeps the names of every record part way through distinct. -/
theorem Reader.Distinct.step {reader next : Reader} {token : Token} (h : reader.Distinct)
    (hstep : reader.step token = some next) : next.Distinct := by
  cases reader with
  | value frames => exact Reader.Distinct.begin h hstep
  | firstItem frames =>
    have hframes : ∀ frame ∈ Frame.list [] :: frames, frame.Distinct :=
      List.forall_mem_cons.2 ⟨trivial, h⟩
    by_cases htoken : token = .closeList
    · rw [htoken] at hstep
      cases hstep
      exact Reader.Distinct.supply (fun _ heq => by cases heq) h
    · have hbegin : Reader.begin? (.list [] :: frames) token = some next := by
        cases token <;> first | exact hstep | exact absurd rfl htoken
      exact Reader.Distinct.begin hframes hbegin
  | firstKey frames =>
    cases token with
    | closeRecord =>
      cases hstep
      exact Reader.Distinct.supply (fun _ heq => by cases heq; exact List.nodup_nil) h
    | text key =>
      cases hstep
      exact ⟨List.nodup_nil, h⟩
    | _ => cases hstep
  | nextKey fields frames =>
    cases token with
    | text key =>
      cases hstep
      exact h
    | _ => cases hstep
  | colon fields key frames =>
    cases token with
    | colon =>
      cases hstep
      exact List.forall_mem_cons.2 h
    | _ => cases hstep
  | afterItem items frames =>
    cases token with
    | comma =>
      cases hstep
      exact List.forall_mem_cons.2 ⟨trivial, h⟩
    | closeList =>
      cases hstep
      exact Reader.Distinct.supply (fun _ heq => by cases heq) h
    | _ => cases hstep
  | afterField fields frames =>
    cases token with
    | comma =>
      cases hstep
      exact h
    | closeRecord =>
      -- the only place where a record is handed on that was given fields
      cases hstep
      exact Reader.Distinct.supply (fun _ heq => by cases heq; exact h.1) h.2
    | _ => cases hstep
  | done whole => cases hstep

theorem Reader.Distinct.steps {tokens : List Token} {reader last : Reader} (h : reader.Distinct)
    (hrun : tokens.foldlM Reader.step reader = some last) : last.Distinct := by
  induction tokens generalizing reader with
  | nil =>
    cases hrun
    exact h
  | cons token tokens ih =>
    rw [List.foldlM_cons] at hrun
    obtain ⟨next, hstep, hrest⟩ := Option.bind_eq_some_iff.1 hrun
    exact ih (h.step hstep) hrest

/-! ## Whole texts -/

theorem nodup_of_read? {text : String} {fields : Fields}
    (h : read? text = some (.record fields)) : fields.keys.Nodup := by
  obtain ⟨tokens, -, h⟩ := Option.bind_eq_some_iff.1 h
  obtain ⟨reader, hrun, hresult⟩ := Option.bind_eq_some_iff.1 h
  have hstart : (Reader.value []).Distinct := fun _ hframe => by cases hframe
  have hlast := hstart.steps hrun
  cases reader with
  | done whole =>
    cases hresult
    exact hlast fields rfl
  | _ => cases hresult

/-- A record that is read from JSON has distinct names. -/
theorem nodup_of_readWithin {limit : Nat} {text : String} {fields : Fields}
    (h : readWithin limit text = .ok (.record fields)) : fields.keys.Nodup :=
  nodup_of_read? (readWithin_eq_ok_iff.1 h).2

end Tabletop.Json
