import Tabletop.Source.Failure
import Tabletop.Text.Newline

/-!
# Supplies of lines

Where lines come from, each with what is left to read of it.

* A list of lines hands them out as they are, and may fail in place of a line after some of them.
* A text held in memory is cut after each line feed.
* The bytes of a file are read in chunks, decoded as UTF-8, and cut where a carriage return, a line
  feed or both end a line. Of a chunk that is no UTF-8 nothing is delivered, nor what was read of
  the line before it, and reading goes on behind it.

`size` bounds what is left, and `size_next_lt` says that a line that was read makes it smaller.
-/

set_option autoImplicit false

namespace Tabletop

open Text

/-- A list of lines, and where reading it fails, if it does: after how many of them, and with which
words. -/
structure LineList where
  rest : List String
  failing : Option (Nat × String)
  deriving DecidableEq, Repr

/-- What is left of a text in memory. -/
structure TextStream where
  rest : List Char
  isClosed : Bool := false
  deriving DecidableEq, Repr

/-- What is left of a file: the bytes not read yet, the bytes of a character that is not complete,
whether a carriage return is held back, and the characters not delivered yet. -/
structure ByteStream where
  rest : List UInt8
  carry : List UInt8 := []
  held : Bool := false
  decoded : List Char := []
  isClosed : Bool := false
  deriving DecidableEq, Repr

/-- The number of bytes that are read at once. -/
def chunkSize : Nat := 8192

/-- What asking for a line gives: the line, nothing at the end, or a failure. -/
abbrev LineResult := Except ReadFailure (Option String)

namespace LineList

/-- The next line of a list. -/
def next (list : LineList) : LineResult × LineList :=
  match list.failing with
  | some (0, words) => (.error (.device words), list)
  | failing =>
    match list.rest with
    | [] => (.ok none, list)
    | line :: rest =>
      (.ok (some line), { rest, failing := failing.map fun (count, words) => (count - 1, words) })

end LineList

namespace TextStream

/-- A text from its start. -/
def ofText (text : String) : TextStream where
  rest := text.toList

/-- The next line of a text. -/
def next (stream : TextStream) : LineResult × TextStream :=
  if stream.isClosed then (.error .textClosed, stream)
  else
    match cutLine? stream.rest with
    | some (line, rest) => (.ok (some (withoutEnd line)), { stream with rest })
    | none =>
      if stream.rest.isEmpty then (.ok none, stream)
      else (.ok (some (withoutEnd stream.rest)), { stream with rest := [] })

end TextStream

namespace ByteStream

/-- A file from its start. -/
def ofBytes (bytes : List UInt8) : ByteStream where
  rest := bytes

/-- A bound on the characters that are left. -/
def size (stream : ByteStream) : Nat :=
  stream.rest.length + stream.carry.length + stream.held.toNat + stream.decoded.length

/-- What the end of the file adds to the start of a line, and the file after it. -/
def finish (line : List Char) (stream : ByteStream) :
    Except ReadFailure (Option (List Char)) × ByteStream :=
  match Utf8.decode stream.carry with
  | .error fault => (.error (.undecodable fault), { stream with decoded := [] })
  | .ok _ =>
    let whole := line ++ heldEnd stream.held
    (.ok (if whole.isEmpty then none else some whole),
      { stream with carry := [], held := false, decoded := [] })

/-- The rest of a line of which the start has been read, with its line feed, and the file after
it. -/
def nextFrom (line : List Char) (stream : ByteStream) :
    Except ReadFailure (Option (List Char)) × ByteStream :=
  match cutLine? stream.decoded with
  | some (more, decoded) => (.ok (some (line ++ more)), { stream with decoded })
  | none =>
    if _h : stream.rest = [] then finish (line ++ stream.decoded) stream
    else
      let rest := stream.rest.drop chunkSize
      match Utf8.decodePiece (stream.carry ++ stream.rest.take chunkSize) with
      | .error fault => (.error (.undecodable fault), { stream with rest, decoded := [] })
      | .ok (cs, carry) =>
        let unified := unifyPiece (heldStart stream.held ++ cs)
        nextFrom (line ++ stream.decoded)
          { stream with rest, carry, held := unified.2, decoded := unified.1 }
termination_by stream.rest.length
decreasing_by
  have : 0 < stream.rest.length := List.length_pos_iff.2 _h
  simp only [List.length_drop, chunkSize]
  omega

/-- The next line of a file. -/
def next (stream : ByteStream) : LineResult × ByteStream :=
  if stream.isClosed then (.error .fileClosed, stream)
  else
    match nextFrom [] stream with
    | (.ok line, after) => (.ok (line.map withoutEnd), after)
    | (.error failure, after) => (.error failure, after)

theorem size_finish {line whole : List Char} {stream after : ByteStream}
    (h : finish line stream = (.ok (some whole), after)) :
    whole ≠ [] ∧ after.size + whole.length ≤ stream.rest.length + stream.carry.length +
      stream.held.toNat + line.length := by
  simp only [finish] at h
  split at h
  · simp at h
  · by_cases he : (line ++ heldEnd stream.held).isEmpty
    · simp [he] at h
    · simp only [he, Prod.mk.injEq, Except.ok.injEq] at h
      obtain ⟨hw, ha⟩ := h
      have hl : (heldEnd stream.held).length = stream.held.toNat := by
        cases stream.held <;> rfl
      simp only [Bool.false_eq_true, if_false, Option.some.injEq] at hw
      rw [← hw, ← ha]
      refine ⟨by simpa using he, ?_⟩
      simp only [size, List.length_append, List.length_nil, hl, Bool.toNat_false]
      omega

theorem size_nextFrom {line whole : List Char} {stream after : ByteStream}
    (h : nextFrom line stream = (.ok (some whole), after)) :
    whole ≠ [] ∧ after.size + whole.length ≤ stream.size + line.length := by
  fun_induction nextFrom line stream with
  | case1 line stream more decoded hc =>
    simp only [Prod.mk.injEq, Except.ok.injEq, Option.some.injEq] at h
    obtain ⟨hw, ha⟩ := h
    have hcut := cutLine?_eq_some hc
    rw [← hw, ← ha]
    refine ⟨by simp [hcut.1], ?_⟩
    simp only [size, hcut.2, List.length_append]
    omega
  | case2 line stream hc hr =>
    obtain ⟨hne, hsize⟩ := size_finish h
    refine ⟨hne, ?_⟩
    simp only [size, List.length_append] at hsize ⊢
    omega
  | case3 => simp at h
  | case4 line stream hc hr rest cs carry hd unified ih =>
    obtain ⟨hne, hsize⟩ := ih h
    refine ⟨hne, ?_⟩
    have hpiece := Utf8.length_decodePiece hd
    have hunify := length_unifyPiece (heldStart stream.held ++ cs)
    have hheld : (heldStart stream.held).length = stream.held.toNat := by
      cases stream.held <;> rfl
    have hbound : after.size + whole.length ≤ rest.length + carry.length + unified.2.toNat +
        unified.1.length + (line.length + stream.decoded.length) := by
      simpa [size] using hsize
    simp only [size, List.length_append, hheld] at hbound hpiece hunify ⊢
    simp only [rest, unified] at hbound
    have htake : (stream.rest.take chunkSize).length + (stream.rest.drop chunkSize).length =
        stream.rest.length := by
      rw [← List.length_append, List.take_append_drop]
    omega

end ByteStream

/-- Where lines come from. -/
inductive Supply where
  | list (lines : LineList)
  | text (stream : TextStream)
  | file (stream : ByteStream)
  deriving DecidableEq, Repr

namespace Supply

/-- The next line. -/
def next : Supply → LineResult × Supply
  | .list lines => (lines.next.1, .list lines.next.2)
  | .text stream => (stream.next.1, .text stream.next.2)
  | .file stream => (stream.next.1, .file stream.next.2)

/-- A bound on the lines that are left. -/
def size : Supply → Nat
  | .list lines => lines.rest.length
  | .text stream => stream.rest.length
  | .file stream => stream.size

/-- Whether what the lines come from has been closed; a list never is. -/
def isClosed : Supply → Bool
  | .list _ => false
  | .text stream => stream.isClosed
  | .file stream => stream.isClosed

/-- What the lines come from, closed. -/
def close : Supply → Supply
  | .list lines => .list lines
  | .text stream => .text { stream with isClosed := true }
  | .file stream => .file { stream with isClosed := true }

/-- A line that was read makes the supply smaller. -/
theorem size_next_lt {supply after : Supply} {line : String}
    (h : supply.next = (.ok (some line), after)) : after.size < supply.size := by
  cases supply with
  | list lines =>
    simp only [next, LineList.next] at h
    split at h
    · simp at h
    · split at h
      · simp at h
      · rename_i hr
        simp only [Prod.mk.injEq] at h
        simp [← h.2, size, hr]
  | text stream =>
    simp only [next, TextStream.next] at h
    split at h
    · simp at h
    · split at h
      · rename_i more rest hc
        obtain ⟨hne, hrest⟩ := cutLine?_eq_some hc
        simp only [Prod.mk.injEq] at h
        have hl : 0 < more.length := List.length_pos_iff.2 hne
        simp only [← h.2, size, hrest, List.length_append]
        omega
      · split at h
        · simp at h
        · rename_i he
          simp only [Prod.mk.injEq] at h
          have hl : 0 < stream.rest.length := List.length_pos_iff.2 (by simpa using he)
          simpa [← h.2, size] using hl
  | file stream =>
    simp only [next, ByteStream.next] at h
    split at h
    · simp at h
    · cases hn : ByteStream.nextFrom [] stream with
      | mk result rest =>
        cases result with
        | error failure => simp [hn] at h
        | ok found =>
          cases found with
          | none => simp [hn] at h
          | some whole =>
            simp only [hn, Prod.mk.injEq] at h
            obtain ⟨hne, hsize⟩ := ByteStream.size_nextFrom hn
            have hl : 0 < whole.length := List.length_pos_iff.2 hne
            simp only [List.length_nil] at hsize
            simp only [← h.2, size]
            omega

end Supply

end Tabletop
