import Mathlib.Data.List.Infix
import Tabletop.Proofs.Json.Distinct
import Tabletop.Proofs.Settings.Leaf
import Tabletop.Proofs.Settings.Spelling

/-!
# What the environment gives

The environment gives a setting in two ways: by a variable of its own, and for a setting in a
section also as a field of the JSON record of the section. What it gives is told from the variables
alone (`fromEnvironment`), and the fields that are put together from it give just that
(`exists_environmentLayer`), as long as each variable of a section holds a record and no variable
reaches further in than to a setting (`IsLegible`).

`environmentLayer_eq_ok_iff` says when the fields are put together at all, and to what.
-/

set_option autoImplicit false

namespace Tabletop

/-- The fields of some names that have a value, in the order of the names. -/
def Fields.select (names : List String) (value? : String → Option Value) : Fields :=
  names.filterMap fun name => (value? name).map fun value => (name, value)

theorem Fields.select_cons (name : String) (names : List String)
    (value? : String → Option Value) :
    Fields.select (name :: names) value? =
      ((value? name).toList.map fun value => (name, value)) ++ Fields.select names value? := by
  unfold Fields.select
  rw [List.filterMap_cons]
  cases value? name <;> rfl

theorem Fields.get?_select (names : List String) (value? : String → Option Value)
    (key : String) :
    (Fields.select names value?).get? key = if key ∈ names then value? key else none := by
  induction names with
  | nil => rfl
  | cons name names ih =>
    rw [Fields.select_cons, Fields.get?_append, ih]
    by_cases h : key = name
    · subst h
      rw [if_pos List.mem_cons_self]
      cases hvalue : value? key with
      | none => simp [Fields.get?]
      | some value => simp [Fields.get?]
    · have hother :
          Fields.get? ((value? name).toList.map fun value => (name, value)) key = none := by
        cases value? name with
        | none => rfl
        | some value => exact (Fields.get?_cons (name, value) [] key).trans (if_neg h)
      simp only [hother, Option.none_or, List.mem_cons, h, false_or]

theorem Fields.keys_select_sublist (names : List String) (value? : String → Option Value) :
    (Fields.select names value?).keys.Sublist names := by
  induction names with
  | nil => exact List.Sublist.slnil
  | cons name names ih =>
    rw [Fields.select_cons]
    cases value? name with
    | none => exact ih.cons name
    | some value => exact ih.cons_cons name

namespace Settings

/-! ## Variables that reach into a section -/

theorem splitAtDouble_of_flat {cs : List Char} (h : ¬ ['_', '_'] <:+: cs) :
    splitAtDouble cs = [cs] := by
  have hbehind {c : Char} {rest : List Char} (h : ¬ ['_', '_'] <:+: c :: rest) :
      ¬ ['_', '_'] <:+: rest := fun hin => h (hin.trans (List.suffix_cons c rest).isInfix)
  fun_induction splitAtDouble cs with
  | case1 rest ih => exact absurd ⟨[], rest, rfl⟩ h
  | case2 c rest hdouble hsplit ih =>
    rw [ih (hbehind h)] at hsplit
    cases hsplit
  | case3 c rest hdouble piece pieces hsplit ih =>
    rw [ih (hbehind h)] at hsplit
    cases hsplit
    rfl
  | case4 => rfl

/-- What stands before the name of a setting in a variable that reaches into a section. -/
def inside (part : String) : String :=
  variableStart ++ part ++ "__"

/-- Entries that reach into a section only as far as to its settings. -/
def ReachesSettings (entries : Fields) (part : String) : Prop :=
  ∀ name : String, inside part ++ name ∈ entries.keys → ¬ ['_', '_'] <:+: name.toList

theorem inside_append_inj {part first second : String} :
    inside part ++ first = inside part ++ second ↔ first = second := by
  rw [← String.toList_inj, String.toList_append, String.toList_append, List.append_cancel_left_eq,
    String.toList_inj]

theorem refinements_concat (entries : Fields) (entry : String × Value) (part : String) :
    refinements (entries ++ [entry]) part =
      if (inside part).toList.isPrefixOf entry.1.toList then
        putDeep (refinements entries part)
          ((splitAtDouble (entry.1.toList.drop (inside part).toList.length)).map String.ofList)
          entry.2
      else refinements entries part := by
  unfold refinements
  rw [List.foldl_append]
  rfl

variable {entries : Fields} {part name : String} {value : Value}

theorem refinements_concat_inside (h : ¬ ['_', '_'] <:+: name.toList) :
    refinements (entries ++ [(inside part ++ name, value)]) part =
      (refinements entries part).put name value := by
  have hprefix : (inside part).toList.isPrefixOf (inside part ++ name).toList = true := by
    rw [String.toList_append, List.isPrefixOf_iff_prefix]
    exact List.prefix_append _ _
  rw [refinements_concat, if_pos hprefix, String.toList_append, List.drop_left,
    splitAtDouble_of_flat h, List.map_singleton, String.ofList_toList]
  rfl

theorem refinements_concat_outside {entry : String × Value}
    (h : ∀ name, entry.1 ≠ inside part ++ name) :
    refinements (entries ++ [entry]) part = refinements entries part := by
  have hprefix : ¬ (inside part).toList.isPrefixOf entry.1.toList = true := by
    rw [List.isPrefixOf_iff_prefix]
    rintro ⟨rest, hrest⟩
    apply h (String.ofList rest)
    rw [← String.toList_inj, String.toList_append, String.toList_ofList, hrest]
  rw [refinements_concat, if_neg hprefix]

/-- An entry in front of all those that reach no further than to settings. -/
theorem ReachesSettings.front {front back : Fields} (h : ReachesSettings (front ++ back) part) :
    ReachesSettings front part := by
  intro name hname
  apply h name
  rw [Fields.keys, List.map_append]
  exact List.mem_append_left _ hname

theorem ReachesSettings.last {front : Fields}
    (h : ReachesSettings (front ++ [(inside part ++ name, value)]) part) :
    ¬ ['_', '_'] <:+: name.toList := by
  apply h name
  rw [Fields.keys, List.map_append]
  exact List.mem_append_right _ List.mem_cons_self

/-- What is laid over a section, as long as no entry reaches further in: the entries inside it. -/
theorem get?_refinements (h : ReachesSettings entries part) (hnodup : entries.keys.Nodup)
    (name : String) :
    (refinements entries part).get? name = entries.get? (inside part ++ name) := by
  induction entries using List.reverseRecOn with
  | nil => rfl
  | append_singleton entries entry ih =>
    obtain ⟨key, value⟩ := entry
    rw [Fields.keys, List.map_append, List.nodup_append] at hnodup
    obtain ⟨hfront, -, hfresh⟩ := hnodup
    have hlast (other : String) : Fields.get? [(key, value)] other =
        if other = key then some value else none := Fields.get?_cons (key, value) [] other
    rw [Fields.get?_append, hlast, ← ih h.front hfront]
    -- the last entry gives a setting of the section, or it is not about the section at all
    by_cases hinside : ∃ rest, key = inside part ++ rest
    · obtain ⟨rest, rfl⟩ := hinside
      rw [refinements_concat_inside h.last, Fields.get?_put]
      by_cases heq : name = rest
      · -- the entries before this one have other names
        subst heq
        have hnone : Fields.get? entries (inside part ++ name) = none := by
          rw [Fields.get?_eq_none_iff]
          intro hmem
          exact hfresh _ hmem _ List.mem_cons_self rfl
        rw [if_pos rfl, if_pos rfl, ih h.front hfront, hnone]
        rfl
      · rw [if_neg heq, if_neg (mt inside_append_inj.1 heq), Option.or_none]
    · have hother (rest : String) : key ≠ inside part ++ rest := fun heq => hinside ⟨rest, heq⟩
      rw [refinements_concat_outside hother, if_neg fun heq => hother name heq.symm,
        Option.or_none]

theorem nodup_refinements (h : ReachesSettings entries part) :
    (refinements entries part).keys.Nodup := by
  induction entries using List.reverseRecOn with
  | nil => exact List.nodup_nil
  | append_singleton entries entry ih =>
    obtain ⟨key, value⟩ := entry
    by_cases hinside : ∃ rest, key = inside part ++ rest
    · obtain ⟨rest, rfl⟩ := hinside
      rw [refinements_concat_inside h.last]
      exact Fields.nodup_put (ih h.front)
    · rw [refinements_concat_outside fun rest heq => hinside ⟨rest, heq⟩]
      exact ih h.front

theorem mem_keys_refinements (h : ReachesSettings entries part) (hnodup : entries.keys.Nodup) :
    name ∈ (refinements entries part).keys ↔ inside part ++ name ∈ entries.keys := by
  rw [← not_iff_not, ← Fields.get?_eq_none_iff, ← Fields.get?_eq_none_iff,
    get?_refinements h hnodup]

theorem lowerCase_append (first second : String) :
    lowerCase (first ++ second) = lowerCase first ++ lowerCase second := by
  simp only [lowerCase, Text.lower, String.toList_append, List.map_append, String.ofList_append]

theorem lowerCase_of_inside (h : lowerCase (inside part ++ name) = inside part ++ name) :
    lowerCase name = name := by
  rw [lowerCase_append, ← String.toList_inj, String.toList_append, String.toList_append] at h
  have hlength : (lowerCase (inside part)).toList.length = (inside part).toList.length := by
    simp [lowerCase, Text.lower]
  exact String.toList_inj.1 (List.append_inj h hlength).2

/-! ## Sections -/

variable {depth : Nat} {environment : List (String × String)}

/-- The JSON record that the environment holds for a section; it is empty if there is none. -/
def sectionRecord (depth : Nat) (environment : List (String × String)) (part : String) : Fields :=
  match lastNamed environment (variableStart ++ part) with
  | none => []
  | some entry =>
    match Json.readWithin depth entry.2 with
    | .ok (.record fields) => fields
    | _ => []

/-- An environment whose variables for sections hold JSON records, and of which no variable reaches
further into a section than to its settings. -/
structure IsLegible (depth : Nat) (environment : List (String × String)) : Prop where
  records : ∀ part ∈ sections.map Prod.fst, ∀ entry,
    lastNamed environment (variableStart ++ part) = some entry →
      ∃ fields : Fields, Json.readWithin depth entry.2 = .ok (.record fields)
  reaches : ∀ part ∈ sections.map Prod.fst, ∀ entry ∈ environment, ∀ name : String,
    lowerCase entry.1 = inside part ++ name → ¬ ['_', '_'] <:+: name.toList

theorem exists_record_iff {limit : Nat} {json : String} :
    (∃ fields : Fields, Json.readWithin limit json = .ok (.record fields)) ↔
      (Json.readWithin limit json).toOption.any (fun value => value.inner?.isSome) = true := by
  cases Json.readWithin limit json with
  | error fault => simp [Except.toOption]
  | ok value => simp [Except.toOption, Option.isSome_iff_exists, Value.inner?_eq_some_iff]

/-- A name that starts with what leads into a section, as a statement about its characters. -/
theorem forall_inside_iff (part text : String) (P : List Char → Prop) :
    (∀ name : String, text = inside part ++ name → P name.toList) ↔
      ((inside part).toList <+: text.toList →
        P (text.toList.drop (inside part).toList.length)) := by
  constructor
  · rintro h ⟨rest, hrest⟩
    have hname := h (String.ofList rest) (by
      rw [← String.toList_inj, String.toList_append, String.toList_ofList, hrest])
    rw [← hrest, List.drop_left]
    rwa [String.toList_ofList] at hname
  · rintro h name rfl
    rw [String.toList_append, List.drop_left] at h
    exact h (List.prefix_append _ _)

instance : DecidablePred (IsLegible depth) := fun environment =>
  decidable_of_iff
    ((∀ part ∈ sections.map Prod.fst,
        (lastNamed environment (variableStart ++ part)).all (fun entry =>
          (Json.readWithin depth entry.2).toOption.any fun value =>
            value.inner?.isSome) = true) ∧
      ∀ part ∈ sections.map Prod.fst, ∀ entry ∈ environment,
        (inside part).toList <+: (lowerCase entry.1).toList →
          ¬ ['_', '_'] <:+: (lowerCase entry.1).toList.drop (inside part).toList.length) <| by
    have hreaches (part text : String) :=
      forall_inside_iff part text fun cs => ¬ ['_', '_'] <:+: cs
    simp only [Option.all_eq_true, ← exists_record_iff, ← hreaches]
    exact ⟨fun h => ⟨h.1, h.2⟩, fun h => ⟨h.records, h.reaches⟩⟩

theorem exists_of_mem_lowered {key : String} (h : key ∈ (lowered environment).keys) :
    ∃ entry ∈ environment, lowerCase entry.1 = key := by
  by_contra hnone
  rw [← not_not (a := key ∈ _), ← Fields.get?_eq_none_iff, get?_lowered] at h
  apply h
  cases hlast : lastNamed environment key with
  | none => rfl
  | some entry => exact absurd ⟨entry, mem_of_lastNamed hlast⟩ hnone

theorem IsLegible.reachesSettings (h : IsLegible depth environment)
    (hpart : part ∈ sections.map Prod.fst) : ReachesSettings (lowered environment) part := by
  intro name hname
  obtain ⟨entry, hentry, hkey⟩ := exists_of_mem_lowered hname
  exact h.reaches part hpart entry hentry name hkey

theorem nodup_sectionRecord (depth : Nat) (environment : List (String × String)) (part : String) :
    (sectionRecord depth environment part).keys.Nodup := by
  unfold sectionRecord
  split
  · exact List.nodup_nil
  · split
    · rename_i hread
      exact Json.nodup_of_readWithin hread
    · exact List.nodup_nil

/-- The fields of a section in the environment: those inside it over those of its record. -/
def sectionEntries (depth : Nat) (environment : List (String × String)) (part : String) : Fields :=
  Fields.over (refinements (lowered environment) part) (sectionRecord depth environment part)

/-- The environment gives a section as its fields, or not at all if there are none. -/
theorem sectionValue_lowered (h : IsLegible depth environment)
    (hpart : part ∈ sections.map Prod.fst) (names : List String) :
    sectionValue depth (lowered environment) part names =
        .ok (some (.record (matchNames names (sectionEntries depth environment part)))) ∨
      sectionValue depth (lowered environment) part names = .ok none ∧
        sectionEntries depth environment part = [] := by
  unfold sectionValue sectionEntries sectionRecord
  rw [get?_lowered]
  cases hlast : lastNamed environment (variableStart ++ part) with
  | some entry =>
    obtain ⟨fields, hread⟩ := h.records part hpart entry hlast
    simp only [Option.map_some, hread]
    exact .inl trivial
  | none =>
    -- with no record below, what is laid over it is all there is
    have hover := Fields.over_nil (nodup_refinements (h.reachesSettings hpart))
    simp only [Option.map_none, hover]
    by_cases hempty : (refinements (lowered environment) part).isEmpty
    · rw [if_pos hempty]
      exact .inr ⟨rfl, List.isEmpty_iff.1 hempty⟩
    · rw [if_neg hempty]
      exact .inl rfl

/-! ## The layer of the environment -/

/-- The names of the settings of a section. -/
def namesIn (part : String) : List String :=
  (List.lookup part sections).getD []

/-- What the environment gives for a section. -/
def sectionGiven (depth : Nat) (entries : Fields) (part : String) : Option Value :=
  match sectionValue depth entries part (namesIn part) with
  | .ok value => value
  | .error _ => none

/-- What the environment gives for a section or for a setting that stands in none. -/
def environmentGiven (depth : Nat) (environment : List (String × String)) (name : String) :
    Option Value :=
  if name ∈ sections.map Prod.fst then sectionGiven depth (lowered environment) name
  else (lowered environment).get? (variableStart ++ name)

theorem sectionFields_eq_ok_iff {parts : List (String × List String)} {fields : Fields}
    (hparts : ∀ s ∈ parts, namesIn s.1 = s.2) :
    sectionFields depth entries parts = .ok fields ↔
      (∀ s ∈ parts, ∃ value, sectionValue depth entries s.1 s.2 = .ok value) ∧
        fields = Fields.select (parts.map Prod.fst) (sectionGiven depth entries) := by
  induction parts generalizing fields with
  | nil =>
    constructor
    · rintro ⟨⟩
      exact ⟨fun _ hs => (List.not_mem_nil hs).elim, rfl⟩
    · rintro ⟨-, rfl⟩
      rfl
  | cons first parts ih =>
    obtain ⟨part, names⟩ := first
    obtain ⟨hnames, hrest⟩ := List.forall_mem_cons.1 hparts
    -- the first section fails, or one behind it does, or all of them are there
    rw [List.forall_mem_cons, List.map_cons, Fields.select_cons, sectionGiven, hnames,
      sectionFields]
    cases sectionValue depth entries part names with
    | error failure =>
      constructor
      · rintro ⟨⟩
      · rintro ⟨⟨⟨value, ⟨⟩⟩, -⟩, -⟩
    | ok value =>
      dsimp only
      cases hfields : sectionFields depth entries parts with
      | error failure =>
        constructor
        · rintro ⟨⟩
        · rintro ⟨⟨-, hall⟩, -⟩
          cases hfields.symm.trans ((ih hrest).2 ⟨hall, rfl⟩)
      | ok behind =>
        obtain ⟨hall, hselect⟩ := (ih hrest).1 hfields
        rw [← hselect]
        constructor
        · rintro ⟨⟩
          exact ⟨⟨⟨value, rfl⟩, hall⟩, rfl⟩
        · rintro ⟨-, rfl⟩
          rfl

theorem environmentGiven_of_plain (h : name ∈ plainNames) :
    environmentGiven depth environment name =
      (lowered environment).get? (variableStart ++ name) := by
  have hpart : ∀ name ∈ plainNames, name ∉ sections.map Prod.fst := by decide
  exact if_neg (hpart name h)

theorem environmentGiven_of_section (h : part ∈ sections.map Prod.fst) :
    environmentGiven depth environment part = sectionGiven depth (lowered environment) part :=
  if_pos h

theorem select_environmentGiven (depth : Nat) (environment : List (String × String)) :
    Fields.select names (environmentGiven depth environment) =
      (plainNames.filterMap fun name =>
        ((lowered environment).get? (variableStart ++ name)).map fun value => (name, value)) ++
      Fields.select (sections.map Prod.fst) (sectionGiven depth (lowered environment)) := by
  have hplain : Fields.select plainNames (environmentGiven depth environment) =
      plainNames.filterMap fun name =>
        ((lowered environment).get? (variableStart ++ name)).map fun value => (name, value) := by
    apply List.filterMap_congr
    intro name hname
    rw [environmentGiven_of_plain hname]
  have hsections : Fields.select (sections.map Prod.fst) (environmentGiven depth environment) =
      Fields.select (sections.map Prod.fst) (sectionGiven depth (lowered environment)) := by
    apply List.filterMap_congr
    intro part hpart
    rw [environmentGiven_of_section hpart]
  rw [← hplain, ← hsections]
  exact List.filterMap_append

/-- The environment is put together just if each of its sections is, and then to what it gives for
each name. -/
theorem environmentLayer_eq_ok_iff {fields : Fields} :
    environmentLayer depth environment = .ok fields ↔
      (∀ s ∈ sections, ∃ value, sectionValue depth (lowered environment) s.1 s.2 = .ok value) ∧
        fields = Fields.select names (environmentGiven depth environment) := by
  have hnames : ∀ s ∈ sections, namesIn s.1 = s.2 := by decide
  rw [select_environmentGiven]
  unfold environmentLayer
  dsimp only
  cases hfields : sectionFields depth (lowered environment) sections with
  | error failure =>
    constructor
    · rintro ⟨⟩
    · rintro ⟨hall, -⟩
      cases hfields.symm.trans ((sectionFields_eq_ok_iff hnames).2 ⟨hall, rfl⟩)
  | ok found =>
    obtain ⟨hall, rfl⟩ := (sectionFields_eq_ok_iff hnames).1 hfields
    constructor
    · rintro ⟨⟩
      exact ⟨hall, rfl⟩
    · rintro ⟨-, rfl⟩
      rfl

theorem nodup_of_environmentLayer {fields : Fields}
    (h : environmentLayer depth environment = .ok fields) : fields.keys.Nodup := by
  rw [(environmentLayer_eq_ok_iff.1 h).2]
  exact (Fields.keys_select_sublist _ _).nodup (by decide)

/-! ## Settings in the environment -/

/-- The value of the variable of a name. -/
def variableNamed (environment : List (String × String)) (name : String) : Option Value :=
  (lastNamed environment name).map fun entry => .text entry.2

/-- What the environment gives for a setting. For one in a section the variable inside the section
counts over the record of the section, of which the last spelling of the name counts; that spelling
counts over the variable too where the record gives the name itself before it. -/
def fromEnvironment (depth : Nat) (environment : List (String × String)) (leaf : Leaf) :
    Option Value :=
  match leaf.part? with
  | none => variableNamed environment (variableStart ++ leaf.name)
  | some part =>
    let record := sectionRecord depth environment part
    ((respelled? record leaf.name).or (variableNamed environment (inside part ++ leaf.name))).or
      ((lastNamed record leaf.name).map Prod.snd)

theorem Leaf.lowerCase_name (leaf : Leaf) : lowerCase leaf.name = leaf.name := by
  cases leaf <;> decide

theorem Leaf.name_mem_plainNames {leaf : Leaf} (h : leaf.part? = none) :
    leaf.name ∈ plainNames := by
  cases leaf <;> first | decide | cases h

theorem Leaf.name_mem_namesIn {leaf : Leaf} {part : String} (h : leaf.part? = some part) :
    leaf.name ∈ namesIn part := by
  cases leaf <;> cases h <;> decide

/-- The fields of a section give a setting of it by the variable inside the section or by its
record. -/
theorem lastNamed_sectionEntries (h : IsLegible depth environment)
    (hpart : part ∈ sections.map Prod.fst) (hname : lowerCase name = name) :
    (lastNamed (sectionEntries depth environment part) name).map Prod.snd =
      ((respelled? (sectionRecord depth environment part) name).or
        (variableNamed environment (inside part ++ name))).or
          ((lastNamed (sectionRecord depth environment part) name).map Prod.snd) := by
  have hreaches := h.reachesSettings hpart
  have hcase : ∀ key ∈ (refinements (lowered environment) part).keys, lowerCase key = key := by
    intro key hkey
    rw [mem_keys_refinements hreaches (nodup_lowered environment)] at hkey
    exact lowerCase_of_inside (lowerCase_of_mem_lowered hkey)
  unfold sectionEntries
  rw [lastNamed_over hname (nodup_refinements hreaches) hcase
    (nodup_sectionRecord depth environment part),
    get?_refinements hreaches (nodup_lowered environment), get?_lowered, variableNamed]
  cases lastNamed environment (inside part ++ name) with
  | none =>
    rw [Option.map_none, Option.or_none, respelled?_or_lastNamed]
  | some entry =>
    simp only [Option.map_some, Value.over_text]
    cases respelled? (sectionRecord depth environment part) name <;> rfl

/-- A section as the environment gives it is a record with distinct names. -/
theorem records_environmentGiven (h : IsLegible depth environment)
    (hpart : part ∈ sections.map Prod.fst)
    (hvalue : environmentGiven depth environment part = some value) :
    ∃ inner : Fields, value = .record inner ∧ inner.keys.Nodup := by
  rw [environmentGiven_of_section hpart, sectionGiven] at hvalue
  rcases sectionValue_lowered h hpart (namesIn part) with hsome | ⟨hnone, -⟩
  · rw [hsome] at hvalue
    cases hvalue
    exact ⟨_, rfl, nodup_matchNames _ _⟩
  · rw [hnone] at hvalue
    cases hvalue

theorem field?_environmentGiven (h : IsLegible depth environment)
    (hpart : part ∈ sections.map Prod.fst) (hmem : name ∈ namesIn part)
    (hname : lowerCase name = name) :
    ((environmentGiven depth environment part).bind fun value => value.field? name) =
      (lastNamed (sectionEntries depth environment part) name).map Prod.snd := by
  rw [environmentGiven_of_section hpart, sectionGiven]
  rcases sectionValue_lowered h hpart (namesIn part) with hsome | ⟨hnone, hempty⟩
  · rw [hsome]
    exact get?_matchNames hmem hname (sectionEntries depth environment part)
  · rw [hnone, hempty]
    rfl

/-- A legible environment is put together to fields that give just what its variables give. -/
theorem exists_environmentLayer (h : IsLegible depth environment) :
    ∃ fields, environmentLayer depth environment = .ok fields ∧ IsLayer fields ∧
      (∀ key ∈ fields.keys, key ∈ names) ∧
        ∀ leaf : Leaf, leaf.given? fields = fromEnvironment depth environment leaf := by
  have hlayer : environmentLayer depth environment =
      .ok (Fields.select names (environmentGiven depth environment)) := by
    apply environmentLayer_eq_ok_iff.2
    refine ⟨?_, rfl⟩
    intro s hs
    rcases sectionValue_lowered h (List.mem_map_of_mem hs) s.2 with hsome | ⟨hnone, -⟩
    · exact ⟨_, hsome⟩
    · exact ⟨_, hnone⟩
  have hsub := Fields.keys_select_sublist names (environmentGiven depth environment)
  have hget (name : String) (hname : name ∈ names) :
      (Fields.select names (environmentGiven depth environment)).get? name =
        environmentGiven depth environment name := by
    rw [Fields.get?_select, if_pos hname]
  refine ⟨_, hlayer, ⟨hsub.nodup (by decide), ?_⟩, fun key hkey => hsub.subset hkey, ?_⟩
  · intro part hpart value hvalue
    rw [hget part (List.mem_append_right plainNames hpart)] at hvalue
    exact records_environmentGiven h hpart hvalue
  · intro leaf
    unfold Leaf.given? fromEnvironment
    cases hleaf : leaf.part? with
    | none =>
      have hplain := Leaf.name_mem_plainNames hleaf
      dsimp only
      rw [hget leaf.name (List.mem_append_left _ hplain), environmentGiven_of_plain hplain,
        get?_lowered]
      rfl
    | some part =>
      have hpart := Leaf.part?_mem hleaf
      dsimp only
      rw [hget part (List.mem_append_right plainNames hpart),
        field?_environmentGiven h hpart (Leaf.name_mem_namesIn hleaf) leaf.lowerCase_name,
        lastNamed_sectionEntries h hpart leaf.lowerCase_name]

end Settings

end Tabletop
