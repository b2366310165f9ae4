import Tabletop.Proofs.Settings.Spelling
import Tabletop.Settings.Location

/-!
# Variables that are ignored

What the environment gives depends on the variables alone whose names start as those of settings do,
in any case, and of these not on the one that names a settings file. Two environments that agree on
all the others come to the same (`environmentLayer_congr`).
-/

set_option autoImplicit false

namespace Tabletop

theorem Fields.filter_put {fields : Fields} (keep : String → Bool) (key : String) (value : Value) :
    (fields.put key value).filter (fun field => keep field.1) =
      if keep key then Fields.put (fields.filter fun field => keep field.1) key value
      else fields.filter fun field => keep field.1 := by
  induction fields with
  | nil => cases hkey : keep key <;> simp [put, hkey]
  | cons field fields ih =>
    obtain ⟨k, v⟩ := field
    by_cases hk : k = key
    · subst hk
      cases hkey : keep k <;> simp [put, hkey]
    · rw [put, if_neg hk, List.filter_cons, List.filter_cons, ih]
      cases hkept : keep k <;> cases hkey : keep key <;> simp [put, hk]

namespace Settings

variable {entries others : Fields} {first second : List (String × String)}

/-- A name in lower case that may be one of a setting. -/
def mayCount (name : String) : Bool :=
  variableStart.toList.isPrefixOf name.toList && name != lowerCase fileVariable

/-- The variables among which settings are looked for. -/
def counting (environment : List (String × String)) : List (String × String) :=
  environment.filter fun entry => mayCount (lowerCase entry.1)

theorem lowered_counting (environment : List (String × String)) :
    lowered (counting environment) =
      (lowered environment).filter fun field => mayCount field.1 := by
  -- from the end, as a later variable replaces an earlier one of the same name
  induction environment using List.reverseRecOn with
  | nil => rfl
  | append_singleton environment entry ih =>
    rw [lowered_concat, Fields.filter_put, ← ih, counting, List.filter_append,
      List.filter_singleton]
    by_cases hentry : mayCount (lowerCase entry.1) = true
    · rw [if_pos hentry, hentry, cond_true, lowered_concat]
      rfl
    · rw [if_neg hentry, Bool.eq_false_iff.2 hentry, cond_false, List.append_nil]
      rfl

theorem mayCount_of_isPrefixOf {part name : String} (hpart : part ∈ sections.map Prod.fst)
    (h : (variableStart ++ part ++ "__").toList.isPrefixOf name.toList = true) :
    mayCount name = true := by
  obtain ⟨rest, hrest⟩ := List.isPrefixOf_iff_prefix.1 h
  have hname : lowerCase fileVariable = "robosim_config" := by decide
  rw [mayCount, hname, Bool.and_eq_true, bne_iff_ne]
  rw [String.toList_append, String.toList_append, List.append_assoc, List.append_assoc] at hrest
  refine ⟨List.isPrefixOf_iff_prefix.2 ⟨_, hrest⟩, ?_⟩
  -- the variable for a settings file goes on with the name of no section
  rintro rfl
  simp only [sections, List.map_cons, List.map_nil, List.mem_cons, List.not_mem_nil, or_false]
    at hpart
  rcases hpart with rfl | rfl
  · cases hrest
  · cases hrest

/-- What the environment lays over a section, it lays over it by variables that may count. -/
theorem refinements_filter {part : String} (hpart : part ∈ sections.map Prod.fst)
    (entries : Fields) :
    refinements (entries.filter fun field => mayCount field.1) part = refinements entries part := by
  unfold refinements
  dsimp only
  rw [List.foldl_filter]
  congr 1
  funext fields entry
  by_cases hstart : (variableStart ++ part ++ "__").toList.isPrefixOf entry.1.toList = true
  · rw [if_pos (mayCount_of_isPrefixOf hpart hstart)]
  · rw [if_neg hstart, ite_self]

theorem mayCount_section : ∀ part ∈ sections.map Prod.fst,
    mayCount (variableStart ++ part) = true := by
  decide +kernel

theorem mayCount_plain : ∀ name ∈ plainNames, mayCount (variableStart ++ name) = true := by
  decide +kernel

theorem sectionFields_filter (depth : Nat) {parts : List (String × List String)}
    (hparts : ∀ part ∈ parts, part ∈ sections) (entries : Fields) :
    sectionFields depth (entries.filter fun field => mayCount field.1) parts =
      sectionFields depth entries parts := by
  induction parts with
  | nil => rfl
  | cons part parts ih =>
    obtain ⟨hpart, hrest⟩ := List.forall_mem_cons.1 hparts
    obtain ⟨field, names⟩ := part
    have hfield : field ∈ sections.map Prod.fst := List.mem_map_of_mem hpart
    have hvalue : sectionValue depth (entries.filter fun field => mayCount field.1) field names =
        sectionValue depth entries field names := by
      simp only [sectionValue, refinements_filter hfield,
        Fields.get?_filter mayCount (mayCount_section field hfield)]
    simp only [sectionFields, hvalue, ih hrest]

/-- Only the variables that may count make a difference. -/
theorem environmentLayer_counting (depth : Nat) (environment : List (String × String)) :
    environmentLayer depth (counting environment) = environmentLayer depth environment := by
  have hplain : (plainNames.filterMap fun name =>
      (Fields.get? ((lowered environment).filter fun field => mayCount field.1)
        (variableStart ++ name)).map fun value => (name, value)) =
      plainNames.filterMap fun name =>
        ((lowered environment).get? (variableStart ++ name)).map fun value => (name, value) := by
    apply List.filterMap_congr
    intro name hname
    rw [Fields.get?_filter mayCount (mayCount_plain name hname)]
  simp only [environmentLayer, lowered_counting, hplain,
    sectionFields_filter depth fun part hpart => hpart]

/-- Environments that agree on the variables that may count come to the same. -/
theorem environmentLayer_congr (h : counting first = counting second) (depth : Nat) :
    environmentLayer depth first = environmentLayer depth second := by
  rw [← environmentLayer_counting depth first, h, environmentLayer_counting]

end Settings

end Tabletop
