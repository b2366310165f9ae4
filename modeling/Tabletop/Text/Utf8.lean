import Tabletop.Text.Digits

/-!
# UTF-8

Bytes are read one at a time onto the bytes of the character that is not complete yet (`extend`).
Only the shortest form of a character is one, and no form stands for a surrogate or for a number
above `U+10FFFF`.

A row of bytes may be one piece of a longer one. What it ends with of a character is then carried
over to the next piece; only at the end of the last piece is a character that is cut short a fault.
A surrogate that is cut after its second byte is carried over too, and found out with the next
piece.
-/

set_option autoImplicit false

namespace Tabletop.Text.Utf8

/-- Why bytes are no UTF-8. -/
inductive Cause where
  | invalidStart
  | invalidContinuation
  | unexpectedEnd
  deriving DecidableEq, Repr

/-- A cause in words. -/
def Cause.text : Cause → String
  | .invalidStart => "invalid start byte"
  | .invalidContinuation => "invalid continuation byte"
  | .unexpectedEnd => "unexpected end of data"

/-- The first place where bytes are no UTF-8: the bytes that were read, the place of the first bad
byte and that after the last, and the cause. -/
structure Fault where
  data : List UInt8
  start : Nat
  stop : Nat
  cause : Cause
  deriving DecidableEq, Repr

/-- A fault in words: one byte by its value, several by their places. -/
def Fault.message (fault : Fault) : String :=
  "'utf-8' codec can't decode " ++
    (if fault.stop = fault.start + 1 then
      "byte 0x" ++ String.ofList (hexDigits 2 ((fault.data[fault.start]?.getD 0).toNat)) ++
        " in position " ++ toString fault.start
    else
      "bytes in position " ++ toString fault.start ++ "-" ++ toString (fault.stop - 1)) ++
    ": " ++ fault.cause.text

/-- What the bytes of one character come to. -/
inductive Form where
  /-- They are the character. -/
  | whole (c : Char)
  /-- More bytes have to follow. -/
  | part
  /-- They begin no character; the first `length` of them are at fault. -/
  | bad (cause : Cause) (length : Nat)
  deriving DecidableEq, Repr

/-- A byte that is not the first of its character. -/
def isContinuation (b : UInt8) : Bool :=
  0x80 ≤ b && b ≤ 0xBF

/-- The number of bytes of the character that a byte begins. -/
def size? (lead : UInt8) : Option Nat :=
  if lead < 0x80 then some 1
  else if 0xC2 ≤ lead && lead ≤ 0xDF then some 2
  else if 0xE0 ≤ lead && lead ≤ 0xEF then some 3
  else if 0xF0 ≤ lead && lead ≤ 0xF4 then some 4
  else none

/-- Whether a byte may be the second of the character that another begins. -/
def isSecond (lead second : UInt8) : Bool :=
  if lead = 0xE0 then 0xA0 ≤ second && second ≤ 0xBF
  else if lead = 0xED then 0x80 ≤ second && second ≤ 0x9F
  else if lead = 0xF0 then 0x90 ≤ second && second ≤ 0xBF
  else if lead = 0xF4 then 0x80 ≤ second && second ≤ 0x8F
  else isContinuation second

/-- The six bits that a later byte adds to a number. -/
def addBits (n : Nat) (b : UInt8) : Nat :=
  n * 0x40 + b.toNat % 0x40

/-- The form of a number, which the ranges of the bytes keep in bounds. -/
def wholeOf (n : Nat) : Form :=
  match scalar? n with
  | some c => .whole c
  | none => .bad .invalidContinuation 1

/-- What the bytes of a character come to when one is added to bytes that are part of one. -/
def extend : List UInt8 → UInt8 → Form
  | [], lead =>
    match size? lead with
    | none => .bad .invalidStart 1
    | some 1 => wholeOf lead.toNat
    | some _ => .part
  | [lead], second =>
    if !isSecond lead second then .bad .invalidContinuation 1
    else if size? lead = some 2 then wholeOf (addBits (lead.toNat % 0x20) second)
    else .part
  | [lead, second], third =>
    if !isContinuation third then .bad .invalidContinuation 2
    else if size? lead = some 3 then
      wholeOf (addBits (addBits (lead.toNat % 0x10) second) third)
    else .part
  | lead :: second :: third :: _, fourth =>
    if !isContinuation fourth then .bad .invalidContinuation 3
    else wholeOf (addBits (addBits (addBits (lead.toNat % 0x08) second) third) fourth)

/-- The two first bytes of a surrogate. -/
def isSurrogateStart (part : List UInt8) (b : UInt8) : Bool :=
  part == [0xED] && 0xA0 ≤ b && b ≤ 0xBF

/-- What reading some bytes came to: the characters and the bytes of one that is not complete, or
the place, the place after, and the cause of the first fault. -/
abbrev Scanned := Except (Nat × Nat × Cause) (List Char × List UInt8)

/-- A character before those that were read. -/
def Scanned.cons (c : Char) : Scanned → Scanned
  | .ok (cs, part) => .ok (c :: cs, part)
  | .error fault => .error fault

/-- The characters of the rest of some bytes, after `part` of one that began at `start`. -/
def scan (start : Nat) (part : List UInt8) : List UInt8 → Scanned
  | [] => .ok ([], part)
  | b :: rest =>
    match extend part b with
    | .whole c => Scanned.cons c (scan (start + part.length + 1) [] rest)
    | .part => scan start (part ++ [b]) rest
    | .bad cause length =>
      if rest.isEmpty && isSurrogateStart part b then .ok ([], part ++ [b])
      else .error (start, start + length, cause)

/-- The characters of one piece of a longer row of bytes, and the bytes that are carried over to
the next piece. -/
def decodePiece (data : List UInt8) : Except Fault (List Char × List UInt8) :=
  match scan 0 [] data with
  | .ok read => .ok read
  | .error (start, stop, cause) => .error ⟨data, start, stop, cause⟩

/-- The characters of the last piece, which may not end within one. -/
def decode (data : List UInt8) : Except Fault (List Char) :=
  match decodePiece data with
  | .error fault => .error fault
  | .ok (cs, part) =>
    let start := data.length - part.length
    match part with
    | [] => .ok cs
    | [lead, second] =>
      if isSurrogateStart [lead] second then
        .error ⟨data, start, start + 1, .invalidContinuation⟩
      else .error ⟨data, start, data.length, .unexpectedEnd⟩
    | _ => .error ⟨data, start, data.length, .unexpectedEnd⟩

/-- The bytes of a character. -/
def encodeChar (c : Char) : List UInt8 :=
  let n := c.toNat
  if n < 0x80 then [UInt8.ofNat n]
  else if n < 0x800 then [UInt8.ofNat (0xC0 + n / 0x40), UInt8.ofNat (0x80 + n % 0x40)]
  else if n < 0x10000 then
    [UInt8.ofNat (0xE0 + n / 0x1000), UInt8.ofNat (0x80 + n / 0x40 % 0x40),
      UInt8.ofNat (0x80 + n % 0x40)]
  else
    [UInt8.ofNat (0xF0 + n / 0x40000), UInt8.ofNat (0x80 + n / 0x1000 % 0x40),
      UInt8.ofNat (0x80 + n / 0x40 % 0x40), UInt8.ofNat (0x80 + n % 0x40)]

/-- The bytes of a text. -/
def encode (cs : List Char) : List UInt8 :=
  cs.flatMap encodeChar

theorem length_scan {bytes : List UInt8} {start : Nat} {part carry : List UInt8} {cs : List Char}
    (h : scan start part bytes = .ok (cs, carry)) :
    cs.length + carry.length ≤ part.length + bytes.length := by
  induction bytes generalizing start part cs carry with
  | nil =>
    simp only [scan, Except.ok.injEq, Prod.mk.injEq] at h
    simp [← h.1, ← h.2]
  | cons b rest ih =>
    simp only [scan] at h
    split at h
    · cases hs : scan (start + part.length + 1) [] rest with
      | error fault => simp [hs, Scanned.cons] at h
      | ok read =>
        obtain ⟨ds, carry'⟩ := read
        simp only [hs, Scanned.cons, Except.ok.injEq, Prod.mk.injEq] at h
        have := ih hs
        simp only [← h.1, ← h.2, List.length_cons, List.length_nil] at this ⊢
        omega
    · have := ih h
      simp only [List.length_append, List.length_cons, List.length_nil] at this ⊢
      omega
    · split at h
      · simp only [Except.ok.injEq, Prod.mk.injEq] at h
        simp only [← h.1, ← h.2, List.length_append, List.length_cons, List.length_nil]
        omega
      · simp at h

/-- A piece holds no more characters and bytes carried over than it has bytes. -/
theorem length_decodePiece {data carry : List UInt8} {cs : List Char}
    (h : decodePiece data = .ok (cs, carry)) : cs.length + carry.length ≤ data.length := by
  simp only [decodePiece] at h
  split at h
  · rename_i read hs
    simp only [Except.ok.injEq] at h
    subst h
    simpa using length_scan hs
  · simp at h

end Tabletop.Text.Utf8
