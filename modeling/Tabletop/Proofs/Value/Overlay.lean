import Mathlib.Data.List.Nodup
import Mathlib.Tactic.Tauto
import Tabletop.Value

/-!
# Records laid over each other

A record has distinct names if no field is given twice. Giving a field keeps names distinct
(`nodup_put`), and so does laying one record over another (`nodup_over`).

What a field holds then depends on that field in the two records and on nothing else
(`get?_over`): what the upper record gives counts, and what the lower one gives only if the upper
one is silent (`Value.overlay`).
-/

set_option autoImplicit false

namespace Tabletop

/-- What stands at a place of two records of which one is laid over the other, from what stands
there in each. -/
def Value.overlay (upper lower : Option Value) : Option Value :=
  match upper with
  | some value => some (value.over lower)
  | none => lower

@[simp] theorem Value.over_none (value : Value) : value.over none = value := by
  cases value <;> simp [Value.over]

@[simp] theorem Value.over_text (string : String) (lower : Option Value) :
    (Value.text string).over lower = .text string := by
  simp [Value.over]

@[simp] theorem Value.over_record (inner outer : Fields) :
    (Value.record inner).over (some (.record outer)) = .record (Fields.over inner outer) := by
  simp [Value.over, Fields.over]

theorem Value.exists_record_over (fields : Fields) (lower : Option Value) :
    ∃ merged : Fields, (Value.record fields).over lower = .record merged := by
  cases lower with
  | none => exact ⟨fields, Value.over_none _⟩
  | some value =>
    cases value with
    | record below => exact ⟨Fields.overList fields below, by simp [Value.over]⟩
    | _ => exact ⟨fields, by simp [Value.over]⟩

@[simp] theorem Value.overlay_none (upper : Option Value) : Value.overlay upper none = upper := by
  cases upper <;> simp [Value.overlay]

namespace Fields

variable {fields upper lower : Fields} {key other : String} {value : Value}

theorem get?_cons (field : String × Value) (fields : Fields) (key : String) :
    get? (field :: fields) key = if key = field.1 then some field.2 else fields.get? key := by
  obtain ⟨name, value⟩ := field
  by_cases h : key = name
  · simp [get?, h]
  · simp [get?, List.lookup_cons, beq_eq_false_iff_ne.2 h, h]

theorem get?_eq_none_iff : fields.get? key = none ↔ key ∉ fields.keys := by
  induction fields with
  | nil => simp [get?, keys]
  | cons field fields ih =>
    simp only [keys] at ih
    rw [get?_cons]
    by_cases h : key = field.1
    · simp [h, keys]
    · simp [h, keys, ih]

theorem get?_put : (put fields key value).get? other =
    if other = key then some value else fields.get? other := by
  by_cases h : other = key
  · rw [h, get?_put_self, if_pos rfl]
  · rw [get?_put_of_ne h, if_neg h]

theorem get?_append (front back : Fields) (key : String) :
    get? (front ++ back) key = (front.get? key).or (back.get? key) := by
  induction front with
  | nil => rfl
  | cons field front ih =>
    rw [List.cons_append, get?_cons, get?_cons, ih]
    split <;> rfl

theorem put_of_not_mem (h : key ∉ fields.keys) :
    put fields key value = fields ++ [(key, value)] := by
  induction fields with
  | nil => rfl
  | cons field fields ih =>
    obtain ⟨hfirst, hrest⟩ := not_or.1 (mt List.mem_cons.2 h)
    rw [put, if_neg fun heq => hfirst heq.symm, ih hrest, List.cons_append]

/-- A field that is given keeps what stands before it and behind it. -/
theorem exists_put_eq (h : key ∈ fields.keys) (value : Value) :
    ∃ (front back : Fields) (old : Value), fields = front ++ (key, old) :: back ∧
      put fields key value = front ++ (key, value) :: back := by
  induction fields with
  | nil => cases h
  | cons field fields ih =>
    obtain ⟨k, v⟩ := field
    by_cases hk : k = key
    · subst hk
      exact ⟨[], fields, v, rfl, if_pos rfl⟩
    · have hrest : key ∈ keys fields :=
        (List.mem_cons.1 h).resolve_left fun heq => hk heq.symm
      obtain ⟨front, back, old, hfields, hput⟩ := ih hrest
      refine ⟨(k, v) :: front, back, old, ?_, ?_⟩
      · rw [hfields, List.cons_append]
      · rw [put, if_neg hk, hput, List.cons_append]

/-- The fields whose names are kept are as they were. -/
theorem get?_filter (keep : String → Bool) (h : keep key = true) :
    get? (fields.filter fun field => keep field.1) key = fields.get? key := by
  induction fields with
  | nil => rfl
  | cons field fields ih =>
    rw [List.filter_cons]
    by_cases hfield : keep field.1 = true
    · rw [if_pos hfield, get?_cons, get?_cons, ih]
    · have hne : key ≠ field.1 := by
        rintro rfl
        exact hfield h
      rw [if_neg hfield, ih, get?_cons, if_neg hne]

/-- Without the fields of one name the others are as they were. -/
theorem get?_filter_ne {hidden : String} (h : key ≠ hidden) :
    get? (fields.filter fun field => field.1 != hidden) key = fields.get? key :=
  get?_filter (· != hidden) (bne_iff_ne.2 h)

theorem nodup_put (h : fields.keys.Nodup) : (put fields key value).keys.Nodup := by
  rw [keys_put]
  split
  · exact h
  · rename_i hkey
    exact List.nodup_append.2 ⟨h, List.nodup_singleton key, by
      intro name hname name' hname'
      rw [List.mem_singleton.1 hname']
      exact fun heq => hkey (heq ▸ hname)⟩

theorem mem_keys_put : other ∈ (put fields key value).keys ↔ other ∈ fields.keys ∨ other = key := by
  rw [keys_put]
  split
  · rename_i hkey
    exact ⟨Or.inl, fun h => h.elim id (fun heq => heq ▸ hkey)⟩
  · rw [List.mem_append, List.mem_singleton]

/-- The names of a record that was laid over another are those of both. -/
theorem mem_keys_over :
    other ∈ (Fields.over upper lower).keys ↔ other ∈ upper.keys ∨ other ∈ lower.keys := by
  unfold Fields.over
  induction upper generalizing lower with
  | nil => simp [overList, keys]
  | cons field upper ih =>
    rw [overList, ih, mem_keys_put]
    simp only [keys, List.map_cons, List.mem_cons]
    tauto

theorem nodup_over (h : lower.keys.Nodup) : (Fields.over upper lower).keys.Nodup := by
  unfold Fields.over
  induction upper generalizing lower with
  | nil => simpa [overList] using h
  | cons field upper ih =>
    rw [overList]
    exact ih (nodup_put h)

/-- A record over one with other names follows it. -/
theorem over_of_disjoint (h : upper.keys.Nodup) (hlower : ∀ key ∈ upper.keys, key ∉ lower.keys) :
    Fields.over upper lower = lower ++ upper := by
  unfold Fields.over
  induction upper generalizing lower with
  | nil => rw [overList, List.append_nil]
  | cons field upper ih =>
    obtain ⟨hfresh, hrest⟩ := List.nodup_cons.1 h
    obtain ⟨hfield, hothers⟩ := List.forall_mem_cons.1 hlower
    rw [overList, get?_eq_none_iff.2 hfield, Value.over_none, put_of_not_mem hfield,
      ih hrest _, List.append_assoc]
    · rfl
    · intro key hkey hmem
      rw [keys, List.map_append, List.mem_append] at hmem
      rcases hmem with hmem | hmem
      · exact hothers key hkey hmem
      · exact hfresh (List.mem_singleton.1 hmem ▸ hkey)

theorem over_nil (h : upper.keys.Nodup) : Fields.over upper [] = upper :=
  over_of_disjoint h fun _ _ hmem => List.not_mem_nil hmem

/-- A field of a record that was laid over another. -/
theorem get?_over (h : upper.keys.Nodup) (lower : Fields) (key : String) :
    (Fields.over upper lower).get? key = Value.overlay (upper.get? key) (lower.get? key) := by
  unfold Fields.over
  induction upper generalizing lower with
  | nil => simp [overList, Value.overlay, get?]
  | cons field upper ih =>
    obtain ⟨hfresh, hupper⟩ := List.nodup_cons.1 h
    rw [overList, ih hupper, get?_put, get?_cons]
    by_cases hkey : key = field.1
    · -- the later fields have other names, so this one is not given again
      have hlater : get? upper key = none := get?_eq_none_iff.2 (hkey ▸ hfresh)
      rw [if_pos hkey, if_pos hkey, hlater]
      subst hkey
      rfl
    · rw [if_neg hkey, if_neg hkey]

end Fields

end Tabletop
