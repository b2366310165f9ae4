import Tabletop.Proofs.Value.Overlay
import Tabletop.Settings

/-!
# Single settings

A leaf is one single setting: a flag, or a setting in one of the two sections. Fields give a value
for a leaf or not (`Leaf.given?`), and a leaf is read from that value by itself (`Leaf.read`).

Settings are read from fields just if every leaf is read from what the fields give for it
(`ofFields_eq_ok_iff`), and each problem with the fields is the problem of a leaf
(`exists_leaf_of_ofFields_eq_error`). Of fields that are laid over others, what the upper ones give
for a leaf counts (`given?_over`); whatever shines through from below is not part of what a leaf is
read as (`read_overlay`).
-/

set_option autoImplicit false

namespace Tabletop

/-- The field of a value, if it is a record that has it. -/
def Value.field? : Value → String → Option Value
  | .record fields, name => Fields.get? fields name
  | _, _ => none

/-- The fields of a value, if it is a record. -/
def Value.inner? : Value → Option Fields
  | .record fields => some fields
  | _ => none

theorem Value.inner?_eq_some_iff {value : Value} {inner : Fields} :
    value.inner? = some inner ↔ value = .record inner := by
  cases value <;> simp [Value.inner?]

namespace Validated

variable {α β : Type}

theorem under_both (key : String) (first : Validated α) (second : Validated β) :
    (both first second).under key = both (first.under key) (second.under key) := by
  cases first <;> cases second <;>
    simp [both, under, Problems.append, Problems.under, Problems.toList, List.map_append]

theorem under_bind_ok (key : String) (read : Validated α) (f : α → β) :
    Validated.under key (read >>= fun a => .ok (f a)) =
      (read.under key >>= fun a => .ok (f a)) := by
  cases read <;> rfl

theorem bind_ok_eq_ok_iff {read : Validated α} {f : α → β} {b : β} :
    (read >>= fun a => .ok (f a)) = .ok b ↔ ∃ a, read = .ok a ∧ f a = b := by
  cases read with
  | error problems => simp [bind, Except.bind]
  | ok a => simp [bind, Except.bind]

theorem problems_bind_ok (read : Validated α) (f : α → β) :
    Validated.problems (read >>= fun a => .ok (f a)) = read.problems := by
  cases read <;> rfl

end Validated

namespace Settings

open Validated (both)

/-- One single setting. -/
inductive Leaf where
  | jsonOutput
  | quiet
  | verbose
  | logJson
  | width
  | height
  | lenient
  deriving DecidableEq, Repr

namespace Leaf

/-- The section in which a setting stands, if it stands in one. -/
def part? : Leaf → Option String
  | width | height => some "board"
  | lenient => some "parser"
  | _ => none

/-- The name of a setting where it stands. -/
def name : Leaf → String
  | jsonOutput => "json_output"
  | quiet => "quiet"
  | verbose => "verbose"
  | logJson => "log_json"
  | width => "width"
  | height => "height"
  | lenient => "lenient"

/-- The names that lead to a setting. -/
def path (leaf : Leaf) : List String :=
  leaf.part?.toList ++ [leaf.name]

/-- What a setting is: the length of a side, or a truth value. -/
abbrev Kind : Leaf → Type
  | width | height => { n : Int // 0 < n }
  | _ => Bool

/-- What a setting is where nothing is said. -/
def standard : (leaf : Leaf) → leaf.Kind
  | jsonOutput | quiet | verbose | logJson | lenient => false
  | width => ⟨Board.standard.width, Board.standard.width_pos⟩
  | height => ⟨Board.standard.height, Board.standard.height_pos⟩

/-- What a value for a setting stands for. -/
def ofValue : (leaf : Leaf) → Value → Except ProblemCause leaf.Kind
  | jsonOutput | quiet | verbose | logJson | lenient => Value.boolean
  | width | height => Value.above 0

/-- What a setting is read as from the value that is given for it, if one is. -/
def read (leaf : Leaf) : Option Value → Except ProblemCause leaf.Kind
  | some value => leaf.ofValue value
  | none => .ok leaf.standard

/-- The same with its problem at its place. -/
def validated (leaf : Leaf) (given : Option Value) : Validated leaf.Kind :=
  match leaf.read given with
  | .ok a => .ok a
  | .error cause => .error ⟨⟨leaf.path, cause⟩, []⟩

/-- What fields give for a setting, if they give it. -/
def given? (leaf : Leaf) (fields : Fields) : Option Value :=
  match leaf.part? with
  | some part => (fields.get? part).bind fun value => value.field? leaf.name
  | none => fields.get? leaf.name

end Leaf

/-- A single setting of a run. -/
def leaf (settings : Settings) : (leaf : Leaf) → leaf.Kind
  | .jsonOutput => settings.jsonOutput
  | .quiet => settings.quiet
  | .verbose => settings.verbose
  | .logJson => settings.logJson
  | .width => ⟨settings.board.width, settings.board.width_pos⟩
  | .height => ⟨settings.board.height, settings.board.height_pos⟩
  | .lenient => settings.mode.isLenient

/-- Fields of which every section that is given is a record. -/
def Sectioned (fields : Fields) : Prop :=
  ∀ part ∈ sections.map Prod.fst, ∀ value, fields.get? part = some value →
    ∃ inner : Fields, value = .record inner

/-- Fields with distinct names, inside their sections too, which are records. -/
structure IsLayer (fields : Fields) : Prop where
  nodup : fields.keys.Nodup
  records : ∀ part ∈ sections.map Prod.fst, ∀ value, fields.get? part = some value →
    ∃ inner : Fields, value = .record inner ∧ inner.keys.Nodup

theorem IsLayer.sectioned {fields : Fields} (h : IsLayer fields) : Sectioned fields := by
  intro part hpart value hvalue
  obtain ⟨inner, hinner, -⟩ := h.records part hpart value hvalue
  exact ⟨inner, hinner⟩

instance : DecidablePred Sectioned := fun fields =>
  decidable_of_iff (∀ part ∈ sections.map Prod.fst,
      (fields.get? part).all (fun value => value.inner?.isSome) = true) <| by
    simp only [Sectioned, Option.all_eq_true, Option.isSome_iff_exists,
      Value.inner?_eq_some_iff]

instance : DecidablePred IsLayer := fun fields =>
  decidable_of_iff (fields.keys.Nodup ∧ ∀ part ∈ sections.map Prod.fst,
      (fields.get? part).all (fun value =>
        value.inner?.any fun inner => inner.keys.Nodup) = true) <| by
    simp only [Option.all_eq_true, Option.any_eq_true, Value.inner?_eq_some_iff,
      decide_eq_true_eq]
    exact ⟨fun h => ⟨h.1, h.2⟩, fun h => ⟨h.nodup, h.records⟩⟩

theorem Leaf.part?_mem {leaf : Leaf} {part : String} (h : leaf.part? = some part) :
    part ∈ sections.map Prod.fst := by
  cases leaf <;> cases h <;> decide

/-! ## Fields over fields -/

theorem boolean_over (value : Value) (lower : Option Value) :
    (value.over lower).boolean = value.boolean := by
  cases value with
  | record fields =>
    obtain ⟨merged, hmerged⟩ := Value.exists_record_over fields lower
    rw [hmerged]
    rfl
  | _ => rfl

theorem above_over (bound : Int) (value : Value) (lower : Option Value) :
    (value.over lower).above bound = value.above bound := by
  cases value with
  | record fields =>
    obtain ⟨merged, hmerged⟩ := Value.exists_record_over fields lower
    rw [hmerged]
    rfl
  | _ => rfl

theorem Leaf.ofValue_over (leaf : Leaf) (value : Value) (lower : Option Value) :
    leaf.ofValue (value.over lower) = leaf.ofValue value := by
  cases leaf with
  | width => exact above_over 0 value lower
  | height => exact above_over 0 value lower
  | _ => exact boolean_over value lower

/-- Of two values of which one is laid over the other, the upper one is read, or else the lower. -/
theorem Leaf.read_overlay (leaf : Leaf) (upper lower : Option Value) :
    leaf.read (Value.overlay upper lower) = leaf.read (upper.or lower) := by
  cases upper with
  | some value => exact leaf.ofValue_over value lower
  | none => rfl

theorem Value.field?_overlay {upper lower : Option Value} (name : String)
    (hupper : ∀ value, upper = some value → ∃ inner : Fields,
      value = .record inner ∧ inner.keys.Nodup)
    (hlower : ∀ value, lower = some value → ∃ inner, value = .record inner) :
    ((Value.overlay upper lower).bind fun value => value.field? name) =
      Value.overlay (upper.bind fun value => value.field? name)
        (lower.bind fun value => value.field? name) := by
  cases upper with
  | none => rfl
  | some value =>
    obtain ⟨inner, rfl, hinner⟩ := hupper value rfl
    cases lower with
    | none => simp only [Value.overlay_none, Option.bind_none]
    | some below =>
      obtain ⟨outer, rfl⟩ := hlower below rfl
      simp only [Value.overlay, Value.over_record]
      exact Fields.get?_over hinner outer name

/-- What fields that are laid over others give for a setting. -/
theorem Leaf.given?_over {upper lower : Fields} (hupper : IsLayer upper)
    (hlower : Sectioned lower) (leaf : Leaf) :
    leaf.given? (Fields.over upper lower) =
      Value.overlay (leaf.given? upper) (leaf.given? lower) := by
  unfold Leaf.given?
  cases hpart : leaf.part? with
  | none => exact Fields.get?_over hupper.nodup lower leaf.name
  | some part =>
    dsimp only
    rw [Fields.get?_over hupper.nodup lower part]
    exact Value.field?_overlay leaf.name (hupper.records part (Leaf.part?_mem hpart))
      (hlower part (Leaf.part?_mem hpart))

/-! ## Reading leaf by leaf -/

variable {fields : Fields}

theorem Leaf.validated_eq_ok_iff {leaf : Leaf} {given : Option Value} {a : leaf.Kind} :
    leaf.validated given = .ok a ↔ leaf.read given = .ok a := by
  unfold Leaf.validated
  cases leaf.read given <;> simp

theorem Leaf.exists_cause {leaf : Leaf} {given : Option Value} {problem : Problem}
    (h : problem ∈ (leaf.validated given).problems) :
    ∃ cause, leaf.read given = .error cause ∧ problem = ⟨leaf.path, cause⟩ := by
  unfold Leaf.validated at h
  cases hread : leaf.read given with
  | ok a => simp [hread, Validated.problems] at h
  | error cause =>
    simp only [hread, Validated.problems, Problems.toList, List.mem_singleton] at h
    exact ⟨cause, rfl, h⟩

/-- A field that is read as a setting. -/
theorem Leaf.optional_eq (leaf : Leaf) (fields : Fields) :
    fields.optional leaf.name leaf.standard (fun value => .ofCause (leaf.ofValue value)) =
      (Validated.ofCause (leaf.read (fields.get? leaf.name))).under leaf.name := by
  unfold Fields.optional
  cases fields.get? leaf.name <;> rfl

theorem Leaf.validated_of_flag {leaf : Leaf} (h : leaf.part? = none) (fields : Fields) :
    leaf.validated (leaf.given? fields) =
      (Validated.ofCause (leaf.read (fields.get? leaf.name))).under leaf.name := by
  simp only [Leaf.validated, Leaf.given?, Leaf.path, h]
  cases leaf.read (fields.get? leaf.name) <;> rfl

theorem Leaf.validated_of_part {leaf : Leaf} {part : String} (h : leaf.part? = some part)
    (given : Option Value) :
    leaf.validated given =
      ((Validated.ofCause (leaf.read given)).under leaf.name).under part := by
  simp only [Leaf.validated, Leaf.path, h]
  cases leaf.read given <;> rfl

/-- A flag of the settings. -/
theorem optional_flag (leaf : Leaf) (h : leaf.part? = none) (fields : Fields) :
    fields.optional leaf.name leaf.standard (fun value => .ofCause (leaf.ofValue value)) =
      leaf.validated (leaf.given? fields) := by
  rw [Leaf.validated_of_flag h, Leaf.optional_eq]

/-- The board of the two sides that fields give. -/
def boardOf (fields : Fields) : Validated Board :=
  both (Leaf.width.validated (Leaf.width.given? fields))
    (Leaf.height.validated (Leaf.height.given? fields)) >>= fun sides =>
  .ok ⟨sides.1.1, sides.2.1, sides.1.2, sides.2.2⟩

/-- The mode that fields give. -/
def modeOf (fields : Fields) : Validated Mode :=
  Leaf.lenient.validated (Leaf.lenient.given? fields) >>= fun lenient =>
  .ok (Mode.ofLenient lenient)

theorem optional_board (h : Sectioned fields) :
    fields.optional "board" Board.standard BoardConfig.ofValue = boardOf fields := by
  unfold boardOf
  have hsection := h "board" (by decide)
  rw [Leaf.validated_of_part rfl, Leaf.validated_of_part rfl, ← Validated.under_both]
  unfold Fields.optional Leaf.given?
  simp only [Leaf.part?]
  cases hboard : fields.get? "board" with
  | none => rfl
  | some value =>
    obtain ⟨inner, rfl⟩ := hsection value hboard
    have hread : BoardConfig.ofValue (.record inner) =
        (both (inner.optional "width" Leaf.width.standard (readAbove 0))
            (inner.optional "height" Leaf.height.standard (readAbove 0)) >>= fun sides =>
          .ok ⟨sides.1.1, sides.2.1, sides.1.2, sides.2.2⟩) := rfl
    have hwidth : inner.optional "width" Leaf.width.standard (readAbove 0) = _ :=
      Leaf.width.optional_eq inner
    have hheight : inner.optional "height" Leaf.height.standard (readAbove 0) = _ :=
      Leaf.height.optional_eq inner
    simp only [hread, hwidth, hheight]
    exact Validated.under_bind_ok "board" _ _

theorem optional_mode (h : Sectioned fields) :
    fields.optional "parser" Mode.strict Mode.ofValue = modeOf fields := by
  unfold modeOf
  have hsection := h "parser" (by decide)
  rw [Leaf.validated_of_part rfl]
  unfold Fields.optional Leaf.given?
  simp only [Leaf.part?]
  cases hparser : fields.get? "parser" with
  | none => rfl
  | some value =>
    obtain ⟨inner, rfl⟩ := hsection value hparser
    have hread : Mode.ofValue (.record inner) =
        (inner.optional "lenient" Leaf.lenient.standard readBoolean >>= fun lenient =>
          .ok (Mode.ofLenient lenient)) := by
      show Mode.ofLenient <$> Fields.optional inner "lenient" Leaf.lenient.standard readBoolean = _
      cases Fields.optional inner "lenient" Leaf.lenient.standard readBoolean <;> rfl
    have hlenient : inner.optional "lenient" Leaf.lenient.standard readBoolean = _ :=
      Leaf.lenient.optional_eq inner
    simp only [hread, hlenient]
    exact Validated.under_bind_ok "parser" _ _

theorem unknown_eq_ok (h : ∀ key ∈ fields.keys, key ∈ names) : unknown fields = .ok () := by
  have hnone : (fields.keys.filter fun key => !names.contains key) = [] := by
    rw [List.filter_eq_nil_iff]
    intro key hkey
    simp [h key hkey]
  unfold unknown
  rw [hnone]

/-- Settings are read leaf by leaf, in order, with the problems of all leaves. -/
theorem ofFields_eq (path : Option Path) (hknown : ∀ key ∈ fields.keys, key ∈ names)
    (hparts : Sectioned fields) :
    ofFields path fields =
      (both (Leaf.jsonOutput.validated (Leaf.jsonOutput.given? fields))
        (both (Leaf.quiet.validated (Leaf.quiet.given? fields))
          (both (Leaf.verbose.validated (Leaf.verbose.given? fields))
            (both (Leaf.logJson.validated (Leaf.logJson.given? fields))
              (both (boardOf fields) (both (modeOf fields) (.ok ())))))) >>= fun read =>
        .ok ⟨path, read.1, read.2.1, read.2.2.1, read.2.2.2.1, read.2.2.2.2.1,
          read.2.2.2.2.2.1⟩) := by
  rw [← optional_board hparts, ← optional_mode hparts, ← unknown_eq_ok hknown,
    ← optional_flag .jsonOutput rfl, ← optional_flag .quiet rfl,
    ← optional_flag .verbose rfl, ← optional_flag .logJson rfl]
  rfl

theorem boardOf_eq_ok_iff {board : Board} : boardOf fields = .ok board ↔
    Leaf.width.read (Leaf.width.given? fields) = .ok ⟨board.width, board.width_pos⟩ ∧
      Leaf.height.read (Leaf.height.given? fields) = .ok ⟨board.height, board.height_pos⟩ := by
  rw [← Leaf.validated_eq_ok_iff, ← Leaf.validated_eq_ok_iff, ← Validated.both_eq_ok_iff, boardOf,
    Validated.bind_ok_eq_ok_iff]
  constructor
  · rintro ⟨sides, hsides, rfl⟩
    exact hsides
  · intro h
    exact ⟨_, h, rfl⟩

theorem modeOf_eq_ok_iff {mode : Mode} : modeOf fields = .ok mode ↔
    Leaf.lenient.read (Leaf.lenient.given? fields) = .ok mode.isLenient := by
  rw [← Leaf.validated_eq_ok_iff, modeOf, Validated.bind_ok_eq_ok_iff]
  constructor
  · rintro ⟨lenient, hlenient, rfl⟩
    cases lenient <;> exact hlenient
  · intro h
    exact ⟨mode.isLenient, h, by cases mode <;> rfl⟩

/-- Settings are read just if every leaf is read by itself. -/
theorem ofFields_eq_ok_iff {path : Option Path} {settings : Settings}
    (hknown : ∀ key ∈ fields.keys, key ∈ names) (hparts : Sectioned fields) :
    ofFields path fields = .ok settings ↔
      settings.configPath = path ∧
        ∀ leaf : Leaf, leaf.read (leaf.given? fields) = .ok (settings.leaf leaf) := by
  rw [ofFields_eq path hknown hparts, Validated.bind_ok_eq_ok_iff]
  constructor
  · rintro ⟨⟨jsonOutput, quiet, verbose, logJson, board, mode, _⟩, h, rfl⟩
    simp only [Validated.both_eq_ok_iff, boardOf_eq_ok_iff, modeOf_eq_ok_iff] at h
    obtain ⟨hjsonOutput, hquiet, hverbose, hlogJson, ⟨hwidth, hheight⟩, hlenient, -⟩ := h
    refine ⟨rfl, ?_⟩
    intro leaf
    cases leaf with
    | jsonOutput => exact Leaf.validated_eq_ok_iff.1 hjsonOutput
    | quiet => exact Leaf.validated_eq_ok_iff.1 hquiet
    | verbose => exact Leaf.validated_eq_ok_iff.1 hverbose
    | logJson => exact Leaf.validated_eq_ok_iff.1 hlogJson
    | width => exact hwidth
    | height => exact hheight
    | lenient => exact hlenient
  · rintro ⟨rfl, hleaf⟩
    refine ⟨(settings.jsonOutput, settings.quiet, settings.verbose, settings.logJson,
      settings.board, settings.mode, ()), ?_, rfl⟩
    simp only [Validated.both_eq_ok_iff, boardOf_eq_ok_iff, modeOf_eq_ok_iff]
    exact ⟨Leaf.validated_eq_ok_iff.2 (hleaf .jsonOutput),
      Leaf.validated_eq_ok_iff.2 (hleaf .quiet), Leaf.validated_eq_ok_iff.2 (hleaf .verbose),
      Leaf.validated_eq_ok_iff.2 (hleaf .logJson), ⟨hleaf .width, hleaf .height⟩,
      hleaf .lenient, trivial⟩

/-- Each problem with fields is the problem of a leaf. -/
theorem exists_leaf_of_ofFields_eq_error {path : Option Path} {problems : Problems}
    (hknown : ∀ key ∈ fields.keys, key ∈ names) (hparts : Sectioned fields)
    (h : ofFields path fields = .error problems) :
    ∃ (leaf : Leaf) (cause : ProblemCause), leaf.read (leaf.given? fields) = .error cause ∧
      problems.first = ⟨leaf.path, cause⟩ := by
  have hfirst : problems.first ∈ (ofFields path fields).problems := by
    rw [h]
    exact List.mem_cons_self
  rw [ofFields_eq path hknown hparts] at hfirst
  simp only [Validated.problems_bind_ok, Validated.problems_both, boardOf, modeOf,
    List.mem_append] at hfirst
  rcases hfirst with h | h | h | h | (h | h) | h | h
  · exact ⟨.jsonOutput, Leaf.exists_cause h⟩
  · exact ⟨.quiet, Leaf.exists_cause h⟩
  · exact ⟨.verbose, Leaf.exists_cause h⟩
  · exact ⟨.logJson, Leaf.exists_cause h⟩
  · exact ⟨.width, Leaf.exists_cause h⟩
  · exact ⟨.height, Leaf.exists_cause h⟩
  · exact ⟨.lenient, Leaf.exists_cause h⟩
  · cases h

end Settings

end Tabletop
