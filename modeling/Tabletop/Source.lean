import Tabletop.Source.Supply

/-!
# Sources of lines

A source reads lines from a supply until it is closed; from then on it has no more lines. Closing it
closes what the lines come from only if the source owns it.

`readAll` reads to the end or to the first failure: line by line, up to the first answer that is
none (`readAll_eq`).
-/

set_option autoImplicit false

namespace Tabletop

/-- A source of lines. -/
structure Source where
  supply : Supply
  owns : Bool := false
  isClosed : Bool := false
  deriving DecidableEq, Repr

/-- The lines that were read, and the failure that ended the reading if one did. -/
structure Reading where
  lines : List String
  failure : Option ReadFailure
  deriving DecidableEq, Repr

namespace Source

/-- A source of the lines of a list. -/
def ofLines (lines : List String) (failing : Option (Nat × String)) : Source where
  supply := .list ⟨lines, failing⟩

/-- A source of the lines of a text in memory. -/
def ofText (text : String) (owns : Bool) : Source where
  supply := .text (TextStream.ofText text)
  owns := owns

/-- A source of the lines of a file, which it owns. -/
def ofFile (bytes : List UInt8) : Source where
  supply := .file (ByteStream.ofBytes bytes)
  owns := true

/-- A source of the lines of the standard input, which it leaves open. It is assumed that the
platform opens its standard input as it opens a file: as strict UTF-8, where what is no UTF-8 is a
failure and is not let through in some other form. -/
def ofStrictInput (bytes : List UInt8) : Source where
  supply := .file (ByteStream.ofBytes bytes)

/-- The next line. -/
def next (source : Source) : LineResult × Source :=
  if source.isClosed then (.ok none, source)
  else (source.supply.next.1, { source with supply := source.supply.next.2 })

/-- The source closed, and with it what it owns. -/
def close (source : Source) : Source :=
  if source.isClosed then source
  else
    { source with
      supply := if source.owns then source.supply.close else source.supply
      isClosed := true }

/-- The source after what it reads from was closed by somebody else. -/
def closeSupply (source : Source) : Source :=
  { source with supply := source.supply.close }

/-- One line read, and the source closed whether the reading failed or not. -/
def readOne (source : Source) : LineResult × Source :=
  (source.next.1, source.next.2.close)

/-- A line that was read leaves fewer to read. -/
theorem size_next_lt {source after : Source} {line : String}
    (h : source.next = (.ok (some line), after)) : after.supply.size < source.supply.size := by
  simp only [next] at h
  split at h
  · simp at h
  · simp only [Prod.mk.injEq] at h
    rw [← h.2]
    exact Supply.size_next_lt (Prod.ext h.1 rfl)

/-- All lines to the end or to the first failure, and the source after them. -/
def drain (source : Source) : Reading × Source :=
  match _h : source.next with
  | (.ok (some line), after) =>
    let (reading, last) := drain after
    ({ reading with lines := line :: reading.lines }, last)
  | (.ok none, after) => (⟨[], none⟩, after)
  | (.error failure, after) => (⟨[], some failure⟩, after)
termination_by source.supply.size
decreasing_by exact size_next_lt _h

/-- All lines to the end or to the first failure. -/
def readAll (source : Source) : Reading :=
  source.drain.1

/-- The source read to the end or to the first failure, and closed. -/
def exhausted (source : Source) : Source :=
  source.drain.2.close

theorem readAll_eq (source : Source) :
    source.readAll =
      match source.next with
      | (.ok (some line), after) => ⟨line :: after.readAll.lines, after.readAll.failure⟩
      | (.ok none, _) => ⟨[], none⟩
      | (.error failure, _) => ⟨[], some failure⟩ := by
  unfold readAll
  rw [drain]
  split
  all_goals
    rename_i hnext
    rw [hnext]

theorem exhausted_eq (source : Source) :
    source.exhausted =
      match source.next with
      | (.ok (some _), after) => after.exhausted
      | (.ok none, after) => after.close
      | (.error _, after) => after.close := by
  unfold exhausted
  rw [drain]
  split
  all_goals
    rename_i hnext
    rw [hnext]

end Source

end Tabletop
