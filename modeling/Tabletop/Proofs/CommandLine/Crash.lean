import Tabletop.CommandLine
import Tabletop.Proofs.Settings.Escape

/-!
# Calls that end in the settings

A call of the program that cannot put its settings together ends with a line for the user, or it
ends in the failure itself. `crash_unsettled_iff` says when the latter is so, for the settings by
themselves and for a call with any words: only the four ways of `Settings.Escapes` lead there. A
file with a single stray byte is one of them (`untold_strayByte`).
-/

set_option autoImplicit false

namespace Tabletop.CommandLine

open Settings (Escapes exists_untold_iff)

variable {tree : FileTree} {input : List UInt8} {settings : Settings}

/-- An outcome that does not end for want of settings. -/
def IsSettled (outcome : Outcome) : Prop :=
  ∀ failure, outcome.crash ≠ some (.unsettled failure)

theorem isSettled_emit [Text.EmojiTable] (output : String) (log : List Log.Record)
    (result : Result) : IsSettled (emit settings output log result) := by
  intro failure
  unfold emit
  dsimp only
  split
  · rintro ⟨⟩
  · split <;> rintro ⟨⟩

theorem isSettled_ending (ending : Ending) : IsSettled ending.outcome := by
  intro failure
  cases ending <;> rintro ⟨⟩

theorem isSettled_run [Text.EmojiTable] (board : Board) (script : Script) :
    IsSettled (run tree input settings board script) := by
  unfold run
  split
  · exact isSettled_emit _ _ _
  · dsimp only
    split
    · exact isSettled_emit _ _ _
    · intro failure
      rintro ⟨⟩

theorem isSettled_check [Text.EmojiTable] (script : Script) :
    IsSettled (check tree input settings script) := by
  unfold check
  split
  · exact isSettled_emit _ _ _
  · dsimp only
    split <;> exact isSettled_emit _ _ _

/-- With settings, nothing ends for want of them. -/
theorem isSettled_perform [Text.EmojiTable] (task : Option (Task × List String)) :
    IsSettled (perform tree input settings task) := by
  unfold perform
  split
  · intro failure
    rintro ⟨⟩
  · split
    · exact isSettled_ending _
    · rename_i request _
      cases request with
      | run script width height => exact isSettled_run _ _
      | check script => exact isSettled_check _

theorem crash_unsettled (failure : SettingsFailure) :
    (∃ found, (unsettled failure).crash = some (.unsettled found)) ↔
      failure.isUsage = false := by
  unfold unsettled
  cases failure.isUsage <;> simp [Outcome.crashed]

/-- The settings fail untold, and a call ends in their failure, just if what is found around lets
it through; for a call that is looked for from the file that its words name. -/
theorem crash_unsettled_iff [Text.EmojiTable] (around : Surroundings) :
    (∀ explicit start flags,
      (∃ failure, Settings.load around explicit start flags = .error failure ∧
        failure.isUsage = false) ↔ Escapes around explicit start) ∧
    ∀ input words,
      (∃ failure, (invoke around input words).crash = some (.unsettled failure)) ↔
        ∃ opening, Opening.ofWords words = .ok opening ∧ Escapes around opening.config none := by
  refine ⟨fun explicit start flags => exists_untold_iff, ?_⟩
  intro input words
  unfold invoke
  cases hopening : Opening.ofWords words with
  | error ending =>
    constructor
    · rintro ⟨failure, hcrash⟩
      exact absurd hcrash (isSettled_ending ending failure)
    · rintro ⟨opening, ⟨⟩, -⟩
  | ok opening =>
    have huntold : (∃ failure,
        Settings.load around opening.config none opening.flags = .error failure ∧
          failure.isUsage = false) ↔ Escapes around opening.config none := exists_untold_iff
    simp only [Except.ok.injEq, exists_eq_left']
    rw [← huntold]
    cases hload : Settings.load around opening.config none opening.flags with
    | error failure =>
      dsimp only
      rw [crash_unsettled]
      simp
    | ok settings =>
      constructor
      · rintro ⟨failure, hcrash⟩
        exact absurd hcrash (isSettled_perform opening.task failure)
      · rintro ⟨failure, ⟨⟩, -⟩

/-- A place whose settings file is a byte that starts no character. -/
def strayByte : Surroundings where
  tree := { files := [(["robosim.toml"], [0xFF])], directories := [], workingDirectory := [] }
  environment := []

/-- Not every failure of the settings is told. -/
theorem untold_strayByte :
    ∃ failure, Settings.load strayByte none none [] = .error failure ∧
      failure.isUsage = false := by
  apply exists_untold_iff.2
  apply Escapes.bytes (Path.absolute ["robosim.toml"]) [0xFF]
  · exact eq_ok_of_toOption (by decide +kernel)
  · exact eq_ok_of_toOption (by decide +kernel)
  · intro cs hcs
    have hnone : (Text.Utf8.decode [0xFF]).toOption = none := by decide +kernel
    rw [Text.Utf8.decode_eq_ok_iff.2 hcs] at hnone
    cases hnone

end Tabletop.CommandLine
