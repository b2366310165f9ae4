import Mathlib.Data.List.Induction
import Tabletop.Proofs.Text.Case
import Tabletop.Proofs.Value.Overlay
import Tabletop.Settings.Environment

/-!
# Names in any case

Names that differ in case alone are spellings of one name. Of several entries with spellings of one
name the last counts (`lastNamed`): so it is among the variables of an environment
(`get?_lowered`), and among the fields of a section (`get?_matchNames`).

A record in lower case that is laid over a section counts for what it gives
(`lastNamed_over`). The one exception is a section that gives a name in lower case and after that in
another case: what is laid over then takes the place of the former, and the latter still comes last
(`respelled?`).
-/

set_option autoImplicit false

namespace Tabletop.Settings

variable {α : Type}

/-- The last entry with a spelling of a name. -/
def lastNamed (entries : List (String × α)) (name : String) : Option (String × α) :=
  (entries.filter fun entry => lowerCase entry.1 = name).getLast?

theorem lowerCase_lowerCase (name : String) : lowerCase (lowerCase name) = lowerCase name := by
  simp only [lowerCase, Text.lower, String.toList_ofList, List.map_map]
  congr 1
  apply List.map_congr_left
  intro c _
  exact Text.toLower_toLower c

theorem lastNamed_append (front back : List (String × α)) (name : String) :
    lastNamed (front ++ back) name = (lastNamed back name).or (lastNamed front name) := by
  simp only [lastNamed, List.filter_append, List.getLast?_append]

theorem lastNamed_singleton (entry : String × α) (name : String) :
    lastNamed [entry] name = if lowerCase entry.1 = name then some entry else none := by
  by_cases h : lowerCase entry.1 = name <;> simp [lastNamed, h]

/-- An entry at the front counts only if no entry behind it does. -/
theorem lastNamed_cons (entry : String × α) (entries : List (String × α)) (name : String) :
    lastNamed (entry :: entries) name =
      (lastNamed entries name).or (if lowerCase entry.1 = name then some entry else none) := by
  rw [← lastNamed_singleton]
  exact lastNamed_append [entry] entries name

theorem lastNamed_concat (entries : List (String × α)) (entry : String × α) (name : String) :
    lastNamed (entries ++ [entry]) name =
      if lowerCase entry.1 = name then some entry else lastNamed entries name := by
  rw [lastNamed_append, lastNamed_singleton]
  split <;> rfl

theorem mem_of_lastNamed {entries : List (String × α)} {name : String} {entry : String × α}
    (h : lastNamed entries name = some entry) : entry ∈ entries ∧ lowerCase entry.1 = name := by
  simpa using List.mem_of_getLast? h

/-! ## Variables -/

theorem lowered_concat (environment : List (String × String)) (entry : String × String) :
    lowered (environment ++ [entry]) =
      (lowered environment).put (lowerCase entry.1) (.text entry.2) := by
  simp only [lowered, List.foldl_append, List.foldl_cons, List.foldl_nil]

/-- The variables by their names in lower case: of several spellings of a name the last counts. -/
theorem get?_lowered (environment : List (String × String)) (name : String) :
    (lowered environment).get? name =
      (lastNamed environment name).map fun entry => .text entry.2 := by
  induction environment using List.reverseRecOn with
  | nil => rfl
  | append_singleton environment entry ih =>
    rw [lowered_concat, Fields.get?_put, lastNamed_concat, ih]
    by_cases h : name = lowerCase entry.1
    · rw [if_pos h, if_pos h.symm]
      rfl
    · rw [if_neg h, if_neg fun heq => h heq.symm]

theorem nodup_lowered (environment : List (String × String)) :
    (lowered environment).keys.Nodup := by
  induction environment using List.reverseRecOn with
  | nil => exact List.nodup_nil
  | append_singleton environment entry ih =>
    rw [lowered_concat]
    exact Fields.nodup_put ih

theorem lowerCase_of_mem_lowered {environment : List (String × String)} {key : String}
    (h : key ∈ (lowered environment).keys) : lowerCase key = key := by
  induction environment using List.reverseRecOn with
  | nil => cases h
  | append_singleton environment entry ih =>
    rw [lowered_concat, Fields.mem_keys_put] at h
    rcases h with h | rfl
    · exact ih h
    · exact lowerCase_lowerCase entry.1

/-! ## The fields of a section -/

variable {fields : Fields} {key name : String} {value : Value}

theorem lastNamed_put_of_ne (h : lowerCase key ≠ name) :
    lastNamed (fields.put key value) name = lastNamed fields name := by
  by_cases hkey : key ∈ fields.keys
  · obtain ⟨front, back, old, hfields, hput⟩ := Fields.exists_put_eq hkey value
    rw [hput, hfields, lastNamed_append, lastNamed_append, lastNamed_cons, lastNamed_cons,
      if_neg h, if_neg h]
  · rw [Fields.put_of_not_mem hkey, lastNamed_concat, if_neg h]

/-- The value of the last spelling of a name, if the name itself is given before it. -/
def respelled? (fields : Fields) (name : String) : Option Value :=
  match lastNamed fields name with
  | some (key, value) => if key ≠ name ∧ name ∈ fields.keys then some value else none
  | none => none

theorem respelled?_of_not_mem (h : name ∉ fields.keys) : respelled? fields name = none := by
  unfold respelled?
  split
  · exact if_neg fun hboth => h hboth.2
  · rfl

/-- Such a value is that of the last spelling in any case. -/
theorem respelled?_or_lastNamed (fields : Fields) (name : String) :
    (respelled? fields name).or ((lastNamed fields name).map Prod.snd) =
      (lastNamed fields name).map Prod.snd := by
  unfold respelled?
  cases lastNamed fields name with
  | none => rfl
  | some field =>
    dsimp only
    split <;> rfl

theorem respelled?_put_of_ne (h : lowerCase key ≠ name) (hname : lowerCase name = name) :
    respelled? (fields.put key value) name = respelled? fields name := by
  have hne : name ≠ key := by
    intro heq
    rw [← heq] at h
    exact h hname
  simp only [respelled?, lastNamed_put_of_ne h, Fields.mem_keys_put, hne, or_false]

theorem lastNamed_put_self (hname : lowerCase name = name) (h : fields.keys.Nodup) :
    (lastNamed (fields.put name value) name).map Prod.snd =
      (respelled? fields name).or (some value) := by
  by_cases hkey : name ∈ fields.keys
  · obtain ⟨front, back, old, hfields, hput⟩ := Fields.exists_put_eq hkey value
    have hbehind : name ∉ back.keys := by
      rw [hfields, Fields.keys, List.map_append, List.map_cons] at h
      exact (List.nodup_cons.1 (List.nodup_append.1 h).2.1).1
    have hlast (v : Value) : lastNamed (front ++ (name, v) :: back) name =
        (lastNamed back name).or (some (name, v)) := by
      rw [lastNamed_append, lastNamed_cons, if_pos hname]
      cases lastNamed back name <;> rfl
    rw [hput, hlast, respelled?, hfields, hlast, ← hfields]
    cases hback : lastNamed back name with
    | none => simp
    | some field =>
      have hne : field.1 ≠ name := by
        intro heq
        exact hbehind (heq ▸ List.mem_map_of_mem (mem_of_lastNamed hback).1)
      simp [hne, hkey]
  · rw [Fields.put_of_not_mem hkey, lastNamed_concat, if_pos hname, respelled?_of_not_mem hkey]
    rfl

/-- A record in lower case over a section: what it gives counts, unless the section gives the name
again in another case. -/
theorem lastNamed_over {upper lower : Fields} (hname : lowerCase name = name)
    (hupper : upper.keys.Nodup) (hcase : ∀ key ∈ upper.keys, lowerCase key = key)
    (hlower : lower.keys.Nodup) :
    (lastNamed (Fields.over upper lower) name).map Prod.snd =
      match upper.get? name with
      | some value => (respelled? lower name).or (some (value.over (lower.get? name)))
      | none => (lastNamed lower name).map Prod.snd := by
  unfold Fields.over
  induction upper generalizing lower with
  | nil => rfl
  | cons field upper ih =>
    obtain ⟨key, value⟩ := field
    obtain ⟨hfresh, hrest⟩ := List.nodup_cons.1 hupper
    obtain ⟨hkey, hkeys⟩ := List.forall_mem_cons.1 hcase
    rw [Fields.overList, ih hrest hkeys (Fields.nodup_put hlower), Fields.get?_cons]
    by_cases heq : name = key
    · -- no field behind this one is given to the same name
      subst heq
      have hlater : Fields.get? upper name = none := Fields.get?_eq_none_iff.2 hfresh
      rw [if_pos rfl, hlater]
      exact lastNamed_put_self hname hlower
    · have hne : lowerCase key ≠ name := by
        intro hspelled
        exact heq (hspelled.symm.trans hkey)
      rw [if_neg heq, respelled?_put_of_ne hne hname, lastNamed_put_of_ne hne,
        Fields.get?_put_of_ne heq]

theorem matchNames_concat (names : List String) (fields : Fields) (field : String × Value) :
    matchNames names (fields ++ [field]) =
      (matchNames names fields).put
        ((names.find? fun name => name == lowerCase field.1).getD field.1) field.2 := by
  simp only [matchNames, List.foldl_append, List.foldl_cons, List.foldl_nil]
  cases names.find? fun name => name == lowerCase field.1 <;> rfl

theorem nodup_matchNames (names : List String) (fields : Fields) :
    (matchNames names fields).keys.Nodup := by
  induction fields using List.reverseRecOn with
  | nil => exact List.nodup_nil
  | append_singleton fields field ih =>
    rw [matchNames_concat]
    exact Fields.nodup_put ih

theorem find?_eq_some_of_mem {names : List String} (h : name ∈ names) :
    (names.find? fun other => other == name) = some name := by
  have hsome : (names.find? fun other => other == name).isSome :=
    List.find?_isSome.2 ⟨name, h, beq_self_eq_true name⟩
  obtain ⟨found, hfound⟩ := Option.isSome_iff_exists.1 hsome
  have hequal : (found == name) = true := List.find?_some (p := fun other => other == name) hfound
  rw [hfound, beq_iff_eq.1 hequal]

/-- A setting of a section whose names were put in their own case: of several spellings the last
counts. -/
theorem get?_matchNames {names : List String} (hmem : name ∈ names)
    (hname : lowerCase name = name) (fields : Fields) :
    (matchNames names fields).get? name = (lastNamed fields name).map Prod.snd := by
  induction fields using List.reverseRecOn with
  | nil => rfl
  | append_singleton fields field ih =>
    rw [matchNames_concat, Fields.get?_put, lastNamed_concat, ih]
    by_cases h : lowerCase field.1 = name
    · rw [h, find?_eq_some_of_mem hmem, Option.getD_some, if_pos rfl, if_pos rfl]
      rfl
    · -- a field of another name is put to that name, or stays under its own
      have hother :
          name ≠ ((names.find? fun other => other == lowerCase field.1).getD field.1) := by
        cases hfind : names.find? fun other => other == lowerCase field.1 with
        | none =>
          rintro rfl
          exact h hname
        | some found =>
          rintro rfl
          have hfound := List.find?_some hfind
          exact h (beq_iff_eq.1 hfound).symm
      rw [if_neg hother, if_neg h]

end Tabletop.Settings
