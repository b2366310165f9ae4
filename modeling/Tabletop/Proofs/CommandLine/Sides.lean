import Tabletop.Proofs.CommandLine.Script
import Tabletop.Proofs.Settings.Precedence

/-!
# The sides of a board

The length of a side is checked in three places: where a switch gives it, where the settings of a
run are read, and where a board is made of two sides. The checks agree (`sides_agree`): a side is
good for each of them just if it is a positive integer, and two sides that came through the first
two always make a board. A switch that is there counts over the settings. A side of no length would
count as none here (`orElse`), but no switch lets one through.
-/

set_option autoImplicit false

namespace Tabletop

variable {fields : Fields} {key : String} {value : Value} {n width height : Int}

/-! ## Boards out of values -/

namespace Validated

variable {α : Type} {a : α}

theorem under_eq_ok_iff {read : Validated α} : read.under key = .ok a ↔ read = .ok a := by
  cases read <;> simp [under]

theorem ofCause_eq_ok_iff {read : Except ProblemCause α} : ofCause read = .ok a ↔ read = .ok a := by
  cases read <;> simp [ofCause, fail]

end Validated

theorem Value.above_eq_ok_iff {bound : Int} {side : { n : Int // bound < n }} :
    value.above bound = .ok side ↔ value.integer = .ok side.1 := by
  obtain ⟨n, habove⟩ := side
  unfold Value.above
  cases value.integer with
  | error cause => simp
  | ok m =>
    by_cases hm : bound < m
    · simp [hm]
    · have hne : m ≠ n := by omega
      simp [hm, hne]

namespace SideRule

/-- A value that is given for a side stands for a length above a bound, and the lack of one for the
standard length. -/
inductive Gives (bound standard : Int) : Option Value → Int → Prop
  | standard : Gives bound standard none standard
  | value {value : Value} {n : Int} (hinteger : value.integer = .ok n) (habove : bound < n) :
      Gives bound standard (some value) n

/-- What is wrong with the value that is given for a side. -/
def problems (bound : Int) (key : String) : Option Value → List Problem
  | none => []
  | some value =>
    match value.integer with
    | .error cause => [⟨[key], cause⟩]
    | .ok n => if bound < n then [] else [⟨[key], .notAbove bound⟩]

variable {rule : SideRule}

theorem read_of_none (h : fields.get? key = none) :
    rule.read fields key = .ok ⟨rule.standard, rule.above⟩ := by
  simp only [read, Fields.optional, h, Validated.under]

theorem read_of_some (h : fields.get? key = some value) :
    rule.read fields key = Validated.under key (.ofCause (value.above rule.bound)) := by
  simp only [read, Fields.optional, h, readAbove]

theorem read_eq_ok_iff {side : { n : Int // rule.bound < n }} :
    rule.read fields key = .ok side ↔ Gives rule.bound rule.standard (fields.get? key) side.1 := by
  cases hgiven : fields.get? key with
  | none =>
    rw [read_of_none hgiven]
    constructor
    · rintro ⟨⟩
      exact .standard
    · intro h
      obtain ⟨n, habove⟩ := side
      cases h
      rfl
  | some value =>
    rw [read_of_some hgiven, Validated.under_eq_ok_iff, Validated.ofCause_eq_ok_iff,
      Value.above_eq_ok_iff]
    constructor
    · intro hinteger
      exact .value hinteger side.2
    · rintro (_ | ⟨hinteger, -⟩)
      exact hinteger

theorem problems_read :
    (rule.read fields key).problems = problems rule.bound key (fields.get? key) := by
  cases hgiven : fields.get? key with
  | none =>
    rw [read_of_none hgiven]
    rfl
  | some value =>
    rw [read_of_some hgiven, Value.above, problems]
    cases value.integer with
    | error cause => rfl
    | ok m =>
      by_cases hm : rule.bound < m
      · simp [hm, Validated.ofCause, Validated.under, Validated.problems]
      · simp [hm, Validated.ofCause, Validated.fail, Validated.under, Validated.problems,
          Problems.under, Problems.toList, Problem.under]

end SideRule

namespace Board

open SideRule (Gives)

theorem ofFields_eq (fields : Fields) :
    ofFields fields =
      (Validated.both (widthRule.read fields "width") (heightRule.read fields "height") >>=
        fun sides => .ok ⟨sides.1.1, sides.2.1, sides.1.2, sides.2.2⟩) := rfl

/-- A board is made of two sides just if what is given for each of them stands for it. -/
theorem ofFields_eq_ok_iff {board : Board} :
    ofFields fields = .ok board ↔
      Gives 0 defaultWidth (fields.get? "width") board.width ∧
        Gives 0 defaultHeight (fields.get? "height") board.height := by
  rw [ofFields_eq, Validated.bind_ok_eq_ok_iff]
  constructor
  · rintro ⟨⟨width, height⟩, hsides, rfl⟩
    rw [Validated.both_eq_ok_iff, SideRule.read_eq_ok_iff, SideRule.read_eq_ok_iff] at hsides
    exact hsides
  · rintro ⟨hwidth, hheight⟩
    refine ⟨(⟨board.width, board.width_pos⟩, ⟨board.height, board.height_pos⟩), ?_, rfl⟩
    rw [Validated.both_eq_ok_iff, SideRule.read_eq_ok_iff, SideRule.read_eq_ok_iff]
    exact ⟨hwidth, hheight⟩

/-- What is wrong with a board is what is wrong with its sides, in order. -/
theorem problems_ofFields :
    (ofFields fields).problems =
      SideRule.problems 0 "width" (fields.get? "width") ++
        SideRule.problems 0 "height" (fields.get? "height") := by
  rw [ofFields_eq, Validated.problems_bind_ok, Validated.problems_both, SideRule.problems_read,
    SideRule.problems_read]
  rfl

/-- The fields of two sides that are integers. -/
def sideFields (width height : Int) : Fields :=
  [("width", .int width), ("height", .int height)]

theorem ofFields_sideFields (hwidth : 0 < width) (hheight : 0 < height) :
    ofFields (sideFields width height) = .ok ⟨width, height, hwidth, hheight⟩ :=
  ofFields_eq_ok_iff.2 ⟨.value rfl hwidth, .value rfl hheight⟩

theorem exists_ofFields_square : (∃ board, ofFields (sideFields n n) = .ok board) ↔ 0 < n := by
  constructor
  · rintro ⟨board, hboard⟩
    cases (ofFields_eq_ok_iff.1 hboard).1 with
    | value hinteger hpos =>
      cases hinteger
      exact hpos
  · intro hpos
    exact ⟨_, ofFields_sideFields hpos hpos⟩

end Board

namespace CommandLine

variable {around : Surroundings} {explicit : Option String} {start : Option Path} {flags : Fields}
  {settings : Settings} {tree : FileTree} {request : Request} {words : List String} {read : Words}
  {switch : Switch} {asked : Option Int}

open Settings (locate fileLayer environmentLayer merge)

/-! ## Sides that switches give -/

/-- A switch gives a side, or none where it is absent. -/
inductive Asks (read : Words) (switch : Switch) : Option Int → Prop
  | absent (hvalue : read.value? switch = none) : Asks read switch none
  | side {value : String} {n : Int} (hvalue : read.value? switch = some value)
      (hinteger : Text.integer? value.toList = some n) (hpos : 0 < n) : Asks read switch (some n)

theorem sideOf_eq_ok_iff {side : Option Side} :
    Request.sideOf read switch = .ok side ↔ Asks read switch (side.map Subtype.val) := by
  unfold Request.sideOf
  constructor
  · intro h
    split at h
    · cases h
      exact .absent ‹_›
    · split at h
      · cases h
      · split at h
        · cases h
          exact .side ‹_› ‹_› ‹_›
        · cases h
  · intro h
    generalize hasked : side.map Subtype.val = asked at h
    cases h with
    | absent hvalue =>
      rw [hvalue]
      cases Option.map_eq_none_iff.1 hasked
      rfl
    | side hvalue hinteger hpos =>
      obtain ⟨side, rfl, rfl⟩ := Option.map_eq_some_iff.1 hasked
      simp only [hvalue, hinteger, hpos, dif_pos]

/-- What a switch asks for is read as a side. -/
theorem Asks.exists_sideOf (h : Asks read switch asked) :
    ∃ side : Option Side, side.map Subtype.val = asked ∧ Request.sideOf read switch = .ok side := by
  cases h with
  | absent hvalue => exact ⟨none, rfl, sideOf_eq_ok_iff.2 (.absent hvalue)⟩
  | side hvalue hinteger hpos =>
    exact ⟨some ⟨_, hpos⟩, rfl, sideOf_eq_ok_iff.2 (.side hvalue hinteger hpos)⟩

theorem sidesOf_eq_ok_iff {width height : Option Side} :
    Request.sidesOf read = .ok (width, height) ↔
      Request.sideOf read .width = .ok width ∧ Request.sideOf read .height = .ok height := by
  unfold Request.sidesOf
  split
  · -- the height is read first, which does not matter where both can be read
    simp [bind_eq_ok_iff, and_comm]
  · simp [bind_eq_ok_iff]

/-- A switch whose value is an integer gives a side just if there is a board of that side. -/
theorem exists_sideOf_iff {value : String} (hvalue : read.value? switch = some value)
    (hinteger : Text.integer? value.toList = some n) :
    (∃ side, Request.sideOf read switch = .ok side) ↔
      ∃ board, Board.ofFields (Board.sideFields n n) = .ok board := by
  rw [Board.exists_ofFields_square]
  unfold Request.sideOf
  simp only [hvalue, hinteger]
  by_cases hpos : 0 < n <;> simp [hpos]

/-! ## The board of a run -/

/-- The first of two integers where it is given and not zero, else the second. -/
def orElse (given : Option Int) (other : Int) : Int :=
  match given with
  | none => other
  | some n => if n = 0 then other else n

/-- A switch never gives a side that would count as none. -/
theorem Asks.orElse_eq (h : Asks read switch asked) (other : Int) :
    orElse asked other = asked.getD other := by
  cases h with
  | absent => rfl
  | side _ _ hpos => simp [orElse, hpos.ne']

theorem Asks.getD_pos (h : Asks read switch asked) {other : Int} (hother : 0 < other) :
    0 < asked.getD other := by
  cases h with
  | absent => exact hother
  | side _ _ hpos => exact hpos

/-- A board is what the layers of the settings configure: what their section for it is read as, or
the standard board where they have none. -/
def Configures (around : Surroundings) (explicit : Option String) (start : Option Path)
    (flags : Fields) (board : Board) : Prop :=
  ∃ path file environment, locate around explicit start = .ok path ∧
    fileLayer around.nesting.toml around.tree path = .ok file ∧
    environmentLayer around.nesting.json around.environment = .ok environment ∧
    match (merge [flags, environment, file]).get? "board" with
    | none => board = Board.standard
    | some value => BoardConfig.ofValue value = .ok board

/-- Settings from fields have the board that the section for it is read as. -/
theorem board_of_fields {path : Option Path} (h : Settings.ofFields path fields = .ok settings) :
    fields.optional "board" Board.standard BoardConfig.ofValue = .ok settings.board := by
  obtain ⟨read, hread, rfl⟩ := Validated.bind_ok_eq_ok_iff.1 (show _ >>= _ = _ from h)
  obtain ⟨jsonOutput, quiet, verbose, logJson, board, rest⟩ := read
  simp only [Validated.both_eq_ok_iff] at hread
  obtain ⟨-, -, -, -, hboard, -⟩ := hread
  exact hboard

theorem configures_of_load (h : Settings.load around explicit start flags = .ok settings) :
    Configures around explicit start flags settings.board := by
  obtain ⟨path, file, environment, hpath, hfile, henvironment, hfields⟩ :=
    Settings.exists_layers_of_load h
  refine ⟨path, file, environment, hpath, hfile, henvironment, ?_⟩
  have hboard := board_of_fields hfields
  rw [Fields.optional, Validated.under_eq_ok_iff, Settings.givable,
    Fields.get?_filter_ne (by decide)] at hboard
  cases hsection : (merge [flags, environment, file]).get? "board" with
  | none =>
    rw [hsection] at hboard
    exact (Except.ok.inj hboard).symm
  | some value =>
    rw [hsection] at hboard
    exact hboard

/-- A run is carried out on the board of the settings with the sides that its switches give. -/
theorem perform_run [Text.EmojiTable] {width height : Option Side}
    (hread : wordsOf (.task .run) words = .ok read)
    (hsides : Request.sidesOf read = .ok (width, height))
    (h : Request.ofWords tree .run words = .ok request) (input : List UInt8) :
    perform tree input settings (some (.run, words)) =
      run tree input settings (settings.board.resized width height) request.script := by
  have hrun : Request.runOf tree read = .ok request := by
    rw [Request.ofWords, hread] at h
    exact h
  obtain ⟨script, _, _, hfound, rfl, -⟩ := exists_run_of_runOf hrun
  rw [hsides] at hfound
  cases hfound
  simp only [perform, h]
  rfl

/-- The board of some settings with the sides that switches ask for is the one that is made of these
sides, each with the configured one where it is absent. -/
theorem ofFields_resized {width height : Option Side} (board : Board)
    (hwidth : Asks read .width (width.map Subtype.val))
    (hheight : Asks read .height (height.map Subtype.val)) :
    Board.ofFields (Board.sideFields (orElse (width.map Subtype.val) board.width)
      (orElse (height.map Subtype.val) board.height)) = .ok (board.resized width height) := by
  rw [hwidth.orElse_eq, hheight.orElse_eq, Board.ofFields_sideFields
    (hwidth.getD_pos board.width_pos) (hheight.getD_pos board.height_pos)]
  cases width <;> cases height <;> rfl

/-- The three checks of the length of a side agree. A board and the section that configures it are
made of the same values, into the same sides or with the same problems; and a switch whose value is
an integer gives a side just if there is a board of that side. So of settings that were put together
and of switches that were let through there always is a board, each of whose sides is that of its
switch, or the configured one where the switch is absent, and the run takes place on it. -/
theorem sides_agree [Text.EmojiTable] :
    (∀ fields : Fields, BoardConfig.ofValue (.record fields) = Board.ofFields fields ∧
      (∀ board, Board.ofFields fields = .ok board ↔
        SideRule.Gives 0 Board.defaultWidth (fields.get? "width") board.width ∧
          SideRule.Gives 0 Board.defaultHeight (fields.get? "height") board.height) ∧
      (Board.ofFields fields).problems =
        SideRule.problems 0 "width" (fields.get? "width") ++
          SideRule.problems 0 "height" (fields.get? "height")) ∧
    (∀ (read : Words) (switch : Switch) (value : String) (n : Int),
      read.value? switch = some value → Text.integer? value.toList = some n →
        ((∃ side, Request.sideOf read switch = .ok side) ↔
          ∃ board, Board.ofFields (Board.sideFields n n) = .ok board)) ∧
    ∀ (around : Surroundings) (explicit : Option String) (start : Option Path) (flags : Fields)
      (settings : Settings), Settings.load around explicit start flags = .ok settings →
      Configures around explicit start flags settings.board ∧
      ∀ (words : List String) (read : Words), wordsOf (.task .run) words = .ok read →
        ((∃ sides, Request.sidesOf read = .ok sides) ↔
          ∃ width height, Asks read .width width ∧ Asks read .height height) ∧
        ∀ width height, Asks read .width width → Asks read .height height →
          ∃ board, Board.ofFields (Board.sideFields (orElse width settings.board.width)
              (orElse height settings.board.height)) = .ok board ∧
            (0 < board.width ∧ 0 < board.height) ∧
            (board.width = width.getD settings.board.width ∧
              board.height = height.getD settings.board.height) ∧
            ∀ tree request, Request.ofWords tree .run words = .ok request → ∀ input,
              perform tree input settings (some (.run, words)) =
                run tree input settings board request.script := by
  refine ⟨fun fields => ⟨congrFun BoardConfig.ofFields_eq fields,
    fun board => Board.ofFields_eq_ok_iff, Board.problems_ofFields⟩,
    fun read switch value n => exists_sideOf_iff, ?_⟩
  intro around explicit start flags settings hload
  refine ⟨configures_of_load hload, ?_⟩
  intro words read hread
  constructor
  · constructor
    · rintro ⟨⟨width, height⟩, hsides⟩
      obtain ⟨hwidth, hheight⟩ := sidesOf_eq_ok_iff.1 hsides
      exact ⟨_, _, sideOf_eq_ok_iff.1 hwidth, sideOf_eq_ok_iff.1 hheight⟩
    · rintro ⟨width, height, hwidth, hheight⟩
      obtain ⟨wide, -, hwide⟩ := hwidth.exists_sideOf
      obtain ⟨high, -, hhigh⟩ := hheight.exists_sideOf
      exact ⟨_, sidesOf_eq_ok_iff.2 ⟨hwide, hhigh⟩⟩
  · intro width height hwidth hheight
    obtain ⟨wide, rfl, hwide⟩ := hwidth.exists_sideOf
    obtain ⟨high, rfl, hhigh⟩ := hheight.exists_sideOf
    let board := settings.board.resized wide high
    refine ⟨board, ofFields_resized settings.board hwidth hheight,
      ⟨board.width_pos, board.height_pos⟩, ?_, ?_⟩
    · constructor
      · cases wide <;> rfl
      · cases high <;> rfl
    · intro tree request hrequest input
      exact perform_run hread (sidesOf_eq_ok_iff.2 ⟨hwide, hhigh⟩) hrequest input

/-- A place where a variable gives the width of the board. -/
def widthByVariable : Surroundings where
  tree := ⟨[], [], []⟩
  environment := [("ROBOSIM_BOARD__WIDTH", " 08 ")]

/-- The settings of that place. -/
def settingsOfWidth : Settings where
  configPath := none
  jsonOutput := false
  quiet := false
  verbose := false
  logJson := false
  board := ⟨8, 5, by decide, by decide⟩
  mode := .strict

section

open scoped Text.FewEmoji

/-- The width of a run is the configured one and the height that of its switch, where digits of
another script and an underscore stand for the integer. -/
theorem sides_of_widthByVariable :
    Settings.load widthByVariable none none [] = .ok settingsOfWidth ∧
      (∃ side, Request.sideOf ⟨[(.height, "1_٠")], []⟩ .height = .ok side) ∧
      ∃ board, (board.width = 8 ∧ board.height = 10) ∧
        Board.ofFields (Board.sideFields 8 10) = .ok board ∧
        perform widthByVariable.tree [] settingsOfWidth (some (.run, ["--height", "1_٠"])) =
          run widthByVariable.tree [] settingsOfWidth board .standardInput := by
  let read : Words := ⟨[(.height, "1_٠")], []⟩
  have hload : Settings.load widthByVariable none none [] = .ok settingsOfWidth :=
    eq_ok_of_toOption (by decide +kernel)
  have hread : wordsOf (.task .run) ["--height", "1_٠"] = .ok read := by decide +kernel
  have hwidth : Asks read .width none := .absent (by decide +kernel)
  have hinteger : Text.integer? "1_٠".toList = some 10 := by decide +kernel
  have hheight : Asks read .height (some 10) := .side rfl hinteger (by decide)
  obtain ⟨-, hswitch, hagree⟩ := sides_agree
  have hside := (hswitch read .height "1_٠" 10 rfl hinteger).2
    ⟨_, Board.ofFields_sideFields (by decide) (by decide)⟩
  obtain ⟨-, hruns⟩ := hagree widthByVariable none none [] settingsOfWidth hload
  obtain ⟨-, hboards⟩ := hruns _ read hread
  obtain ⟨board, hboard, -, hsides, hperform⟩ := hboards none (some 10) hwidth hheight
  have hrequest : Request.ofWords widthByVariable.tree .run ["--height", "1_٠"] =
      .ok (.run .standardInput none (some ⟨10, by decide⟩)) := by
    decide +kernel
  exact ⟨hload, hside, board, hsides, hboard, hperform widthByVariable.tree _ hrequest []⟩

end

end CommandLine

end Tabletop
