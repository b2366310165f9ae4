import Tabletop.Source

/-!
# Reading to the end

A source that was read to its end is closed, whatever ended the reading (`isClosed_exhausted`). Who
owns what a source reads from makes no difference to what is read (`readAll_owner`). A list of lines
gives them one by one, up to where it fails (`next_ofLines_cons`, `next_ofLines_zero`).
-/

set_option autoImplicit false

namespace Tabletop.Source

/-- What a source reads does not depend on whether it owns what it reads from. -/
theorem readAll_owner (source : Source) (owns : Bool) :
    readAll { source with owns } = source.readAll := by
  have hnext (source : Source) :
      next { source with owns } = (source.next.1, { source.next.2 with owns }) := by
    unfold next
    dsimp only
    split <;> rfl
  induction hsize : source.supply.size using Nat.strongRecOn generalizing source with
  | ind size ih =>
    rw [readAll_eq, readAll_eq source, hnext source]
    rcases hline : source.next with ⟨answer, after⟩
    match answer, hline with
    | .ok (some line), hline =>
      have hless : after.supply.size < size := by
        rw [← hsize]
        exact size_next_lt hline
      simp only [ih _ hless after rfl]
    | .ok none, _ => rfl
    | .error failure, _ => rfl

theorem isClosed_close (source : Source) : source.close.isClosed = true := by
  unfold close
  split
  · assumption
  · rfl

theorem isClosed_exhausted (source : Source) : source.exhausted.isClosed = true :=
  source.drain.2.isClosed_close

/-! ## Lists of lines -/

/-- A list that fails in place of its next line. -/
theorem next_ofLines_zero (lines : List String) (words : String) :
    (ofLines lines (some (0, words))).next =
      (.error (.device words), ofLines lines (some (0, words))) :=
  rfl

/-- A list that is at its end and does not fail there. -/
theorem next_ofLines_nil (count : Nat) (words : String) :
    (ofLines [] (some (count + 1, words))).next =
      (.ok none, ofLines [] (some (count + 1, words))) :=
  rfl

/-- With each line that a list gives, it is one line nearer to where it fails. -/
theorem next_ofLines_cons (line : String) (lines : List String) (count : Nat) (words : String) :
    (ofLines (line :: lines) (some (count + 1, words))).next =
      (.ok (some line), ofLines lines (some (count, words))) :=
  rfl

/-- A list that does not fail gives its lines. -/
theorem readAll_ofLines (lines : List String) : (ofLines lines none).readAll = ⟨lines, none⟩ := by
  induction lines with
  | nil =>
    have hend : (ofLines [] none).next = (.ok none, ofLines [] none) := rfl
    rw [readAll_eq, hend]
  | cons line lines ih =>
    have hline : (ofLines (line :: lines) none).next = (.ok (some line), ofLines lines none) := rfl
    rw [readAll_eq, hline]
    simp only [ih]

end Tabletop.Source
