import Tabletop.Proofs.Source.Reading
import Tabletop.Proofs.Text.Line
import Tabletop.Proofs.Text.Utf8

/-!
# Lines of a file

A file is read in chunks, and a chunk may end within a character or between a carriage return and
its line feed. `ByteStream.Left` says what such a file still holds: a text with unified line ends,
and behind it bytes that begin with no character. Reading on cuts the first line off that text, or
finds the bytes behind it undecodable, wherever the chunks end (`outcome_nextFrom`).

A file in UTF-8 therefore gives the lines of its text and then nothing more (`nthRead_of_left`). Any
other file gives some of the lines of the longest text that it begins with, each of them whole, and
then fails (`readAll_of_left`). `ofFile_reads_lines` is both together, from the start of the file.
-/

set_option autoImplicit false

namespace Tabletop

open Text

namespace ByteStream

/-- A text with unified line ends that bytes follow. A carriage return at its very end stays held
back if there are any. -/
def unifyBefore (cs : List Char) (junk : List UInt8) : List Char :=
  (unifyPiece cs).1 ++ (if junk = [] then heldEnd (unifyPiece cs).2 else [])

theorem unifyBefore_append (cs ds : List Char) (junk : List UInt8) :
    unifyBefore (cs ++ ds) junk =
      (unifyPiece cs).1 ++ unifyBefore (heldStart (unifyPiece cs).2 ++ ds) junk := by
  simp only [unifyBefore, unifyPiece_append cs ds, List.append_assoc]

theorem return_notMem_unifyBefore (cs : List Char) (junk : List UInt8) :
    '\r' ∉ unifyBefore cs junk := by
  rw [unifyBefore, List.mem_append, not_or]
  refine ⟨return_notMem_unifyPiece cs, ?_⟩
  split
  · exact return_notMem_heldEnd _
  · exact List.not_mem_nil

/-- What is left of an open file: `text`, and behind it `junk` that begins with no character. -/
structure Left (stream : ByteStream) (text : List Char) (junk : List UInt8) : Prop where
  isOpen : stream.isClosed = false
  pending : Utf8.Pending stream.carry
  stuck : Utf8.Stuck junk
  unified : '\r' ∉ stream.decoded
  exists_rest : ∃ cs, stream.carry ++ stream.rest = Utf8.encode cs ++ junk ∧
    text = stream.decoded ++ unifyBefore (heldStart stream.held ++ cs) junk

/-- What reading on comes to after `line`, the start of one, if `text` and `junk` are left. -/
inductive Outcome (line text : List Char) (junk : List UInt8) :
    Except ReadFailure (Option (List Char)) × ByteStream → Prop where
  | fault {fault : Utf8.Fault} {after : ByteStream} : junk ≠ [] →
      Outcome line text junk (.error (.undecodable fault), after)
  | line {more rest : List Char} {after : ByteStream} : cutLine? text = some (more, rest) →
      after.Left rest junk → Outcome line text junk (.ok (some (line ++ more)), after)
  | last {after : ByteStream} : junk = [] → cutLine? text = none → after.Left [] [] →
      Outcome line text junk
        (.ok (if (line ++ text).isEmpty then none else some (line ++ text)), after)

/-- The start of a line may be taken for a part of what is left. -/
theorem Outcome.before {line text : List Char} {junk : List UInt8} {start : List Char}
    {outcome : Except ReadFailure (Option (List Char)) × ByteStream} (hstart : '\n' ∉ start)
    (h : Outcome (line ++ start) text junk outcome) :
    Outcome line (start ++ text) junk outcome := by
  cases h with
  | fault hjunk => exact .fault hjunk
  | @line more rest after hcut hafter =>
    have hcut' : cutLine? (start ++ text) = some (start ++ more, rest) := by
      rw [cutLine?_append hstart, hcut]
      rfl
    rw [List.append_assoc]
    exact .line hcut' hafter
  | last hjunk hcut hafter =>
    have hcut' : cutLine? (start ++ text) = none := by
      rw [cutLine?_append hstart, hcut]
      rfl
    rw [List.append_assoc]
    exact .last hjunk hcut' hafter

/-- A file that is read to its end. -/
theorem left_nil {stream : ByteStream} (hopen : stream.isClosed = false)
    (hrest : stream.rest = []) :
    Left { stream with carry := [], held := false, decoded := [] } [] [] where
  isOpen := hopen
  pending := .part .nil
  stuck := Utf8.stuck_nil
  unified := List.not_mem_nil
  exists_rest := ⟨[], by rw [hrest]; rfl, rfl⟩

section

variable {stream : ByteStream} {text : List Char} {junk : List UInt8}

theorem Left.unified_text (h : Left stream text junk) : '\r' ∉ text := by
  obtain ⟨cs, -, rfl⟩ := h.exists_rest
  intro hmem
  rcases List.mem_append.1 hmem with hmem | hmem
  · exact h.unified hmem
  · exact return_notMem_unifyBefore _ junk hmem

/-- The end of the file ends the last line, with the carriage return that is still held back. -/
theorem Left.finish (h : Left stream text junk) (hcut : cutLine? stream.decoded = none)
    (hrest : stream.rest = []) (line : List Char) :
    Outcome line text junk (finish (line ++ stream.decoded) stream) := by
  obtain ⟨cs, hbytes, rfl⟩ := h.exists_rest
  -- what is carried over holds no whole character, so it is the junk
  rw [hrest, List.append_nil] at hbytes
  obtain rfl := h.pending.eq_nil_of_eq_encode_append hbytes
  rw [List.append_nil]
  apply Outcome.before (cutLine?_eq_none_iff.1 hcut)
  cases hdecode : Utf8.decode stream.carry with
  | error fault =>
    have hjunk : junk ≠ [] := by
      intro hnil
      rw [hbytes, hnil] at hdecode
      cases hdecode
    simp only [ByteStream.finish, hdecode]
    exact .fault hjunk
  | ok ds =>
    have hcarry : stream.carry = Utf8.encode ds ++ [] := by
      rw [List.append_nil]
      exact Utf8.decode_eq_ok_iff.1 hdecode
    obtain rfl := h.pending.eq_nil_of_eq_encode_append hcarry
    obtain rfl : junk = [] := hbytes.symm.trans hcarry
    simp only [ByteStream.finish, hdecode]
    -- a carriage return that is held back was the end of the line after all
    cases hheld : stream.held with
    | false => exact .last rfl rfl (left_nil h.isOpen hrest)
    | true =>
      have hwhole : ((line ++ stream.decoded) ++ heldEnd true).isEmpty = false := by
        simp [heldEnd]
      rw [hwhole]
      exact .line rfl (left_nil h.isOpen hrest)

/-- Reading on cuts the first line off what is left or fails, wherever the chunks end. -/
theorem outcome_nextFrom (line : List Char) (stream : ByteStream) (junk : List UInt8) :
    ∀ text, Left stream text junk → Outcome line text junk (nextFrom line stream) := by
  -- the induction is on the chunks that are read until a line ends
  fun_induction nextFrom line stream with
  | case1 line stream more decoded hcut =>
    intro text h
    obtain ⟨cs, hbytes, rfl⟩ := h.exists_rest
    obtain ⟨body, hbody, hmore, hdecoded⟩ := cutLine?_eq_some_iff.1 hcut
    have hcut' : cutLine? (stream.decoded ++ unifyBefore (heldStart stream.held ++ cs) junk) =
        some (more, decoded ++ unifyBefore (heldStart stream.held ++ cs) junk) := by
      rw [hdecoded, List.append_assoc]
      exact cutLine?_eq_some_iff.2 ⟨body, hbody, hmore, rfl⟩
    have hunified : '\r' ∉ decoded := by
      intro hmem
      apply h.unified
      rw [hdecoded]
      exact List.mem_append_right _ hmem
    exact .line hcut' ⟨h.isOpen, h.pending, h.stuck, hunified, cs, hbytes, rfl⟩
  | case2 line stream hcut hrest =>
    intro text h
    exact h.finish hcut hrest line
  | case3 line stream hcut hrest rest fault hdecode =>
    intro text h
    obtain ⟨cs, hbytes, rfl⟩ := h.exists_rest
    -- every beginning of an encoded text can be read, so the rest is none
    have hjunk : junk ≠ [] := by
      intro hnil
      have hpieces : (stream.carry ++ stream.rest.take chunkSize) ++ rest = Utf8.encode cs := by
        rw [List.append_assoc, List.take_append_drop, hbytes, hnil, List.append_nil]
      obtain ⟨read, hread⟩ := Utf8.decodePiece_of_append hpieces
      rw [hread] at hdecode
      cases hdecode
    exact .fault hjunk
  | case4 line stream hcut hrest rest ds carry hdecode unified ih =>
    intro text h
    obtain ⟨cs, hbytes, rfl⟩ := h.exists_rest
    obtain ⟨hpiece, hpending⟩ := Utf8.decodePiece_eq_ok_iff.1 hdecode
    have hpieces : Utf8.encode ds ++ (carry ++ rest) = Utf8.encode cs ++ junk := by
      rw [← List.append_assoc, ← hpiece, List.append_assoc, List.take_append_drop, hbytes]
    -- the characters of the chunk are the next ones of the text
    obtain ⟨es, rfl⟩ := Utf8.isPrefix_of_encode_isPrefix h.stuck ⟨_, hpieces⟩
    have hleft : carry ++ rest = Utf8.encode es ++ junk := by
      rw [Utf8.encode_append, List.append_assoc] at hpieces
      exact List.append_cancel_left hpieces
    rw [← List.append_assoc (heldStart stream.held), unifyBefore_append]
    apply Outcome.before (cutLine?_eq_none_iff.1 hcut)
    apply ih
    exact ⟨h.isOpen, hpending, h.stuck, return_notMem_unifyPiece _, es, hleft, rfl⟩

/-- What asking for a line comes to if `text` and `junk` are left. -/
inductive Answer (text : List Char) (junk : List UInt8) : LineResult × ByteStream → Prop where
  | fault {fault : Utf8.Fault} {after : ByteStream} : junk ≠ [] →
      Answer text junk (.error (.undecodable fault), after)
  | line {body rest : List Char} {after : ByteStream} :
      cutFrom [] text = consLine body (cutFrom [] rest) → after.Left rest junk →
      Answer text junk (.ok (some (String.ofList body)), after)
  | last {after : ByteStream} : junk = [] → text ≠ [] → cutFrom [] text = ([], text) →
      after.Left [] [] → Answer text junk (.ok (some (String.ofList text)), after)
  | none {after : ByteStream} : junk = [] → text = [] → after.Left [] [] →
      Answer text junk (.ok none, after)

/-- A file that is asked for a line gives the next one of its text, without what ends it. -/
theorem Left.next (h : Left stream text junk) : Answer text junk stream.next := by
  have houtcome := outcome_nextFrom [] stream junk text h
  simp only [ByteStream.next, h.isOpen, Bool.false_eq_true, if_false]
  generalize nextFrom [] stream = outcome at houtcome ⊢
  cases houtcome with
  | fault hjunk => exact .fault hjunk
  | line hcut hafter =>
    obtain ⟨body, hbody, hlines⟩ := cutFrom_of_cutLine?_eq_some h.unified_text hcut
    simp only [List.nil_append, Option.map_some, hbody]
    exact .line hlines hafter
  | last hjunk hcut hafter =>
    obtain ⟨hbody, hlines⟩ := cutFrom_of_cutLine?_eq_none h.unified_text hcut
    cases text with
    | nil => exact .none hjunk rfl hafter
    | cons c text =>
      simp only [List.nil_append, List.isEmpty_cons, Bool.false_eq_true, if_false, Option.map_some,
        hbody]
      exact .last hjunk (List.cons_ne_nil c text) hlines hafter

end

theorem left_ofBytes {bytes junk : List UInt8} {text : List Char}
    (hbytes : bytes = Utf8.encode text ++ junk) (hstuck : Utf8.Stuck junk) :
    Left (ofBytes bytes) (unifyBefore text junk) junk where
  isOpen := rfl
  pending := .part .nil
  stuck := hstuck
  unified := List.not_mem_nil
  exists_rest := ⟨text, hbytes, rfl⟩

end ByteStream

namespace Source

/-- What a source gives when it is asked for a line after some other times. -/
def nthRead (source : Source) : Nat → LineResult
  | 0 => source.next.1
  | n + 1 => nthRead source.next.2 n

/-- An open source that owns the file that it reads from. -/
def ofStream (stream : ByteStream) : Source where
  supply := .file stream
  owns := true

theorem next_ofStream {stream : ByteStream} {answer : LineResult × ByteStream}
    (h : stream.next = answer) : (ofStream stream).next = (answer.1, ofStream answer.2) := by
  rw [← h]
  rfl

variable {stream : ByteStream} {text : List Char} {junk : List UInt8}

/-- With nothing behind the text, a read gives the first of its lines and leaves the others. -/
theorem next_of_left (h : stream.Left text []) :
    ∃ after rest, after.Left rest [] ∧ lines rest = (lines text).tail ∧
      (ofStream stream).next = (.ok ((lines text).head?.map String.ofList), ofStream after) := by
  have hanswer := h.next
  generalize hnext : stream.next = answer at hanswer
  cases hanswer with
  | fault hjunk => exact absurd rfl hjunk
  | @line body rest after hcut hafter =>
    rw [lines_of_cutFrom hcut]
    exact ⟨after, rest, hafter, rfl, next_ofStream hnext⟩
  | @last after _ hne hcut hafter =>
    have hlines : lines text = [text] := by
      rw [lines, endedLines, hcut, if_neg hne]
      rfl
    rw [hlines]
    exact ⟨after, [], hafter, rfl, next_ofStream hnext⟩
  | @none after _ hnil hafter =>
    subst hnil
    exact ⟨after, [], hafter, rfl, next_ofStream hnext⟩

/-- With nothing behind the text, the reads give its lines and then nothing more. -/
theorem nthRead_of_left (h : stream.Left text []) (n : Nat) :
    (ofStream stream).nthRead n = .ok ((lines text)[n]?.map String.ofList) := by
  induction n generalizing stream text with
  | zero =>
    obtain ⟨after, rest, -, -, hnext⟩ := next_of_left h
    rw [nthRead, hnext, List.head?_eq_getElem?]
  | succ n ih =>
    obtain ⟨after, rest, hafter, hrest, hnext⟩ := next_of_left h
    rw [nthRead, hnext, ih hafter, hrest, List.getElem?_tail]

/-- With nothing behind the text, all its lines are read. -/
theorem readAll_of_left_nil (h : stream.Left text []) :
    (ofStream stream).readAll = ⟨(lines text).map String.ofList, none⟩ := by
  -- each read leaves the lines behind the first one
  induction hcount : (lines text).length generalizing stream text with
  | zero =>
    obtain ⟨after, rest, -, -, hnext⟩ := next_of_left h
    rw [List.eq_nil_of_length_eq_zero hcount] at hnext ⊢
    rw [readAll_eq, hnext]
    rfl
  | succ count ih =>
    obtain ⟨after, rest, hafter, hrest, hnext⟩ := next_of_left h
    obtain ⟨line, others, hlines⟩ := List.exists_cons_of_length_eq_add_one hcount
    rw [hlines] at hnext hrest hcount ⊢
    have hread := ih hafter (by rw [hrest]; exact Nat.succ.inj hcount)
    rw [readAll_eq, hnext]
    simp only [List.head?_cons, Option.map_some, hread, hrest, List.tail_cons, List.map_cons]

/-- With bytes behind the text, the reads give lines that are ended and then a failure. -/
theorem readAll_of_left (h : stream.Left text junk) (hjunk : junk ≠ []) :
    ∃ delivered fault, delivered <+: endedLines text ∧
      (ofStream stream).readAll =
        ⟨delivered.map String.ofList, some (.undecodable fault)⟩ := by
  -- each line that is delivered is the next one of those that are ended
  induction hcount : (endedLines text).length using Nat.strongRecOn generalizing stream text with
  | ind count ih =>
    have hanswer := h.next
    generalize hnext : stream.next = answer at hanswer
    rw [readAll_eq, next_ofStream hnext]
    cases hanswer with
    | @fault fault after => exact ⟨[], fault, List.nil_prefix, rfl⟩
    | @line body rest after hcut hafter =>
      rw [endedLines_of_cutFrom hcut] at hcount ⊢
      have hless : (endedLines rest).length < count := by
        rw [← hcount]
        exact Nat.lt_succ_self _
      obtain ⟨delivered, fault, hdelivered, hread⟩ := ih _ hless hafter rfl
      refine ⟨body :: delivered, fault, List.cons_prefix_cons.2 ⟨rfl, hdelivered⟩, ?_⟩
      dsimp only
      rw [hread]
      rfl
    | last hnil => exact absurd hnil hjunk
    | none hnil => exact absurd hnil hjunk

/-- A file in UTF-8 is read to its end, line by line. -/
theorem readAll_ofFile_encode (text : List Char) :
    (ofFile (Utf8.encode text)).readAll = ⟨(lines text).map String.ofList, none⟩ := by
  have hleft := ByteStream.left_ofBytes (List.append_nil (Utf8.encode text)).symm Utf8.stuck_nil
  have hread := readAll_of_left_nil hleft
  have hwhole : ByteStream.unifyBefore text [] = unify text := rfl
  rw [hwhole, lines_unify] at hread
  exact hread

/-- A file that is read to its end is in UTF-8. -/
theorem exists_text_of_readAll_ofFile {bytes : List UInt8}
    (h : (ofFile bytes).readAll.failure = none) : ∃ text, bytes = Utf8.encode text := by
  obtain ⟨text, junk, rfl, hstuck⟩ := Utf8.exists_longest bytes
  refine ⟨text, ?_⟩
  by_contra hne
  have hjunk : junk ≠ [] := by
    rintro rfl
    exact hne (List.append_nil _)
  obtain ⟨delivered, fault, -, hread⟩ :=
    readAll_of_left (ByteStream.left_ofBytes rfl hstuck) hjunk
  have hfailure : (ofFile (Utf8.encode text ++ junk)).readAll.failure = some (.undecodable fault) :=
    congrArg Reading.failure hread
  cases h.symm.trans hfailure

/-- A file in UTF-8 gives the lines of its text, one at each read, and then nothing at every further
one. Any other file, read to the end, gives whole lines of the longest text that it begins with, and
then fails. -/
theorem ofFile_reads_lines (bytes : List UInt8) :
    (∀ text : List Char, bytes = text.flatMap String.utf8EncodeChar → ∀ n,
        (ofFile bytes).nthRead n = .ok ((lines text)[n]?.map String.ofList)) ∧
      ((∀ text : List Char, bytes ≠ text.flatMap String.utf8EncodeChar) →
        ∃ text : List Char, text.flatMap String.utf8EncodeChar <+: bytes ∧
          (∀ other : List Char, other.flatMap String.utf8EncodeChar <+: bytes → other <+: text) ∧
          ∃ delivered fault, delivered <+: endedLines text ∧
            (ofFile bytes).readAll =
              ⟨delivered.map String.ofList, some (.undecodable fault)⟩) := by
  simp only [← Utf8.encode_eq_flatMap]
  constructor
  · -- all bytes are the text, and nothing is behind it
    intro text hbytes n
    have hleft := ByteStream.left_ofBytes
      (hbytes.trans (List.append_nil _).symm) Utf8.stuck_nil
    have hread := nthRead_of_left hleft n
    have hwhole : ByteStream.unifyBefore text [] = unify text := rfl
    rw [hwhole, lines_unify] at hread
    exact hread
  · -- the longest text is what can be read, and the junk is all else
    intro hinvalid
    obtain ⟨text, junk, hbytes, hstuck⟩ := Utf8.exists_longest bytes
    have hjunk : junk ≠ [] := by
      intro hnil
      rw [hnil, List.append_nil] at hbytes
      exact hinvalid text hbytes
    have hended : endedLines (ByteStream.unifyBefore text junk) <+: endedLines text := by
      rw [ByteStream.unifyBefore, if_neg hjunk, List.append_nil]
      exact endedLines_unifyPiece text
    obtain ⟨delivered, fault, hdelivered, hread⟩ :=
      readAll_of_left (ByteStream.left_ofBytes hbytes hstuck) hjunk
    refine ⟨text, ⟨junk, hbytes.symm⟩, ?_, delivered, fault, hdelivered.trans hended, hread⟩
    intro other hother
    rw [hbytes] at hother
    exact Utf8.isPrefix_of_encode_isPrefix hstuck hother

theorem ofFile_reads_lines_cases :
    ([0xC3, 0xA9, 0x0D, 0x0A, 0x62, 0x0D] =
        ['é', '\r', '\n', 'b', '\r'].flatMap String.utf8EncodeChar ∧
      ∀ n, (ofFile [0xC3, 0xA9, 0x0D, 0x0A, 0x62, 0x0D]).nthRead n =
        .ok ((lines ['é', '\r', '\n', 'b', '\r'])[n]?.map String.ofList)) ∧
      (∀ text : List Char, [0x61, 0x0A, 0xFF] ≠ text.flatMap String.utf8EncodeChar) ∧
        ∃ delivered fault,
          (ofFile [0x61, 0x0A, 0xFF]).readAll = ⟨delivered, some (.undecodable fault)⟩ := by
  have hvalid : [0xC3, 0xA9, 0x0D, 0x0A, 0x62, 0x0D] =
      ['é', '\r', '\n', 'b', '\r'].flatMap String.utf8EncodeChar := by decide
  have hinvalid : ∀ text : List Char,
      [0x61, 0x0A, 0xFF] ≠ text.flatMap String.utf8EncodeChar := by
    intro text htext
    rw [← Utf8.encode_eq_flatMap, ← Utf8.decode_eq_ok_iff] at htext
    cases htext
  obtain ⟨-, -, -, delivered, fault, -, hread⟩ := (ofFile_reads_lines _).2 hinvalid
  exact ⟨⟨hvalid, (ofFile_reads_lines _).1 _ hvalid⟩, hinvalid, _, fault, hread⟩

end Source

end Tabletop
