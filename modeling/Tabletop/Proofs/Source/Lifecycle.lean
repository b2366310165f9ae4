import Tabletop.Proofs.Source.Delivery

/-!
# The life of a source

A source of a text in memory may be asked for lines, closed, asked for one line and then closed, and
have its text closed under it, in any order (`Operation`). The operations alone tell where it stands
(`standing`): the source is closed once one of them has closed it, and the text once it was closed
under the source or by a source that owns it. Each operation keeps to this and gives at most the
next line of the text (`perform_standing`), so any number of them does (`use_standing`).

`use_ofMemory` says what that means: what is closed when, what the next line is, and that the lines
that were given are the first ones of the text.
-/

set_option autoImplicit false

namespace Tabletop

namespace Source

open Text (feedLines)

/-! ## Operations on a source -/

/-- What is done with a source. -/
inductive Operation where
  /-- The source is asked for a line. -/
  | next
  /-- The source is closed. -/
  | close
  /-- What the source reads from is closed by somebody else. -/
  | closeSupply
  /-- The source is asked for a line and then closed. -/
  | readOne
  deriving DecidableEq, Repr

/-- Whether an operation closes the source. -/
def Operation.closes : Operation → Bool
  | .next => false
  | .close => true
  | .closeSupply => false
  | .readOne => true

/-- The answer to an operation if it asks for a line, and the source after it. -/
def perform (source : Source) : Operation → Option LineResult × Source
  | .next => (some source.next.1, source.next.2)
  | .close => (none, source.close)
  | .closeSupply => (none, source.closeSupply)
  | .readOne => (some source.readOne.1, source.readOne.2)

/-- What operations on a source come to: the answers to those that ask for a line, and the source
after them. -/
structure Usage where
  answers : List LineResult
  after : Source
  deriving DecidableEq, Repr

/-- A source used by some operations, one after the other. -/
def use (source : Source) : List Operation → Usage
  | [] => ⟨[], source⟩
  | operation :: later =>
    let used := use (source.perform operation).2 later
    { used with answers := (source.perform operation).1.toList ++ used.answers }

/-- The line of an answer, if there is one. -/
def line? : LineResult → Option String
  | .ok line => line
  | .error _ => none

/-- The lines that were given. -/
def Usage.lines (usage : Usage) : List String :=
  usage.answers.filterMap line?

/-! ## Asking for a line -/

theorem next_of_isClosed {source : Source} (h : source.isClosed = true) :
    source.next = (.ok none, source) := by
  rw [next, if_pos h]

section

variable {source : Source} {text : TextStream} (hopen : source.isClosed = false)
  (hsupply : source.supply = .text text)
include hopen hsupply

/-- Asked for a line of a closed text, an open source fails and stays as it is. -/
theorem next_of_closed_text (htext : text.isClosed = true) :
    source.next = (.error .textClosed, source) := by
  obtain ⟨supply, owns, isClosed⟩ := source
  obtain rfl : isClosed = false := hopen
  obtain rfl : supply = .text text := hsupply
  simp [next, Supply.next, TextStream.next, htext]

/-- Asked for a line of an open text, an open source gives the next one. -/
theorem next_of_open_text (htext : text.isClosed = false) :
    ∃ left, feedLines left = (feedLines text.rest).tail ∧
      source.next = (.ok (feedLines text.rest).head?,
        { source with supply := .text { text with rest := left } }) := by
  obtain ⟨supply, owns, isClosed⟩ := source
  obtain rfl : isClosed = false := hopen
  obtain rfl : supply = .text text := hsupply
  obtain ⟨left, hleft, hnext⟩ := next_ofMemory htext owns
  refine ⟨left, ?_, ?_⟩
  · rw [feedLines, hleft, List.map_tail, feedLines]
  · rw [feedLines, List.head?_map]
    exact hnext

end

/-! ## Where a source stands -/

/-- The text of a source after some operations that have left `rest` of it. -/
def textStanding (stream : TextStream) (owns : Bool) (past : List Operation) (rest : List Char) :
    TextStream where
  rest := rest
  isClosed := stream.isClosed || past.contains .closeSupply || (owns && past.any Operation.closes)

/-- A source of a text after some operations that have left `rest` of it. -/
def standing (stream : TextStream) (owns : Bool) (past : List Operation) (rest : List Char) :
    Source where
  supply := .text (textStanding stream owns past rest)
  owns := owns
  isClosed := past.any Operation.closes

section

variable (stream : TextStream) (owns : Bool) (past : List Operation) (rest : List Char)

theorem standing_nil : standing stream owns [] stream.rest = ofMemory stream owns := by
  simp [standing, textStanding, ofMemory]

theorem standing_concat_next :
    standing stream owns (past ++ [.next]) rest = standing stream owns past rest := by
  simp [standing, textStanding, Operation.closes]

theorem closeSupply_standing :
    (standing stream owns past rest).closeSupply =
      standing stream owns (past ++ [.closeSupply]) rest := by
  simp [standing, textStanding, closeSupply, Supply.close, Operation.closes]

theorem close_standing {operation : Operation} (h : operation.closes = true) :
    (standing stream owns past rest).close =
      standing stream owns (past ++ [operation]) rest := by
  have hother : operation ≠ .closeSupply := by
    rintro rfl
    cases h
  cases hclosed : past.any Operation.closes with
  | true => simp [standing, textStanding, close, hclosed, h, hother.symm]
  | false =>
    cases owns <;> simp [standing, textStanding, close, Supply.close, hclosed, h, hother.symm]

/-- Asked for a line, a source gives at most the next one of its text, and stands as before. -/
theorem next_standing :
    ∃ left, (standing stream owns past rest).next.2 = standing stream owns past left ∧
      (line? (standing stream owns past rest).next.1).toList ++ feedLines left =
        feedLines rest := by
  cases hsource : (standing stream owns past rest).isClosed with
  | true =>
    rw [next_of_isClosed hsource]
    exact ⟨rest, rfl, rfl⟩
  | false =>
    cases htext : (textStanding stream owns past rest).isClosed with
    | true =>
      rw [next_of_closed_text hsource rfl htext]
      exact ⟨rest, rfl, rfl⟩
    | false =>
      obtain ⟨left, hleft, hnext⟩ := next_of_open_text hsource rfl htext
      rw [hnext]
      refine ⟨left, rfl, ?_⟩
      rw [hleft]
      show (feedLines rest).head?.toList ++ (feedLines rest).tail = feedLines rest
      cases feedLines rest with
      | nil => rfl
      | cons line lines => rfl

/-- Each operation takes a source to where it stands then, and gives at most the next line. -/
theorem perform_standing (operation : Operation) :
    ∃ left, ((standing stream owns past rest).perform operation).2 =
        standing stream owns (past ++ [operation]) left ∧
      ((standing stream owns past rest).perform operation).1.toList.filterMap line? ++
        feedLines left = feedLines rest := by
  obtain ⟨left, hstands, hlines⟩ := next_standing stream owns past rest
  have hanswer (answer : LineResult) :
      (some answer).toList.filterMap line? = (line? answer).toList := by
    rw [Option.toList_some, List.filterMap_cons]
    cases line? answer <;> rfl
  cases operation with
  | next =>
    refine ⟨left, ?_, ?_⟩
    · rw [standing_concat_next]
      exact hstands
    · rw [← hlines, perform, hanswer]
  | close => exact ⟨rest, close_standing stream owns past rest rfl, rfl⟩
  | closeSupply => exact ⟨rest, closeSupply_standing stream owns past rest, rfl⟩
  | readOne =>
    refine ⟨left, ?_, ?_⟩
    · rw [perform, readOne, hstands]
      exact close_standing stream owns past left rfl
    · rw [← hlines, perform, hanswer, readOne]

/-- Any number of operations takes a source to where it stands then, and gives the next lines. -/
theorem use_standing (operations : List Operation) :
    ∃ left, ((standing stream owns past rest).use operations).after =
        standing stream owns (past ++ operations) left ∧
      ((standing stream owns past rest).use operations).lines ++ feedLines left =
        feedLines rest := by
  induction operations generalizing past rest with
  | nil => exact ⟨rest, by rw [List.append_nil]; rfl, rfl⟩
  | cons operation later ih =>
    obtain ⟨mid, hstands, hfirst⟩ := perform_standing stream owns past rest operation
    obtain ⟨left, hafter, hlines⟩ := ih (past ++ [operation]) mid
    refine ⟨left, ?_, ?_⟩
    · rw [use, hstands, hafter, List.append_assoc, List.singleton_append]
    · rw [← hfirst, ← hlines, use, hstands]
      simp [Usage.lines]

end

/-- What operations on a source of a text come to, in any order and number. The source is closed if
and only if one of them closes it. The text is closed if and only if it was closed by itself, or by
the source, which it does only if it owns the text. A closed source has no more lines, whether or
not its text is closed; an open one of a closed text fails and stays as it is; and otherwise the
next line is the one behind those that were given, which are the first lines of the text. -/
theorem use_ofMemory (stream : TextStream) (owns : Bool) (operations : List Operation) :
    let used := (ofMemory stream owns).use operations
    (used.after.isClosed = true ↔ ∃ operation ∈ operations, operation.closes = true) ∧
      (used.after.supply.isClosed = true ↔ stream.isClosed = true ∨ .closeSupply ∈ operations ∨
        owns = true ∧ used.after.isClosed = true) ∧
      (used.after.isClosed = true → used.after.next = (.ok none, used.after)) ∧
      (used.after.isClosed = false → used.after.supply.isClosed = true →
        ∃ failure, failure.className = "ValueError" ∧
          used.after.next = (.error failure, used.after)) ∧
      (used.after.isClosed = false → used.after.supply.isClosed = false →
        used.after.next.1 = .ok (feedLines stream.rest)[used.lines.length]?) ∧
      used.lines <+: feedLines stream.rest := by
  intro used
  obtain ⟨left, hafter, hlines⟩ := use_standing stream owns [] stream.rest operations
  rw [standing_nil] at hafter hlines
  have hused : used.after = standing stream owns operations left := hafter
  have hgiven : used.lines ++ feedLines left = feedLines stream.rest := hlines
  rw [hused]
  refine ⟨List.any_eq_true, ?_, next_of_isClosed, ?_, ?_, ⟨feedLines left, hgiven⟩⟩
  · simp [standing, textStanding, Supply.isClosed, or_assoc]
  · intro hsource htext
    exact ⟨.textClosed, rfl, next_of_closed_text hsource rfl htext⟩
  · intro hsource htext
    obtain ⟨_, -, hnext⟩ := next_of_open_text hsource rfl htext
    have hfirst : (feedLines left).head? = (feedLines stream.rest)[used.lines.length]? := by
      rw [← hgiven, List.getElem?_append_right (Nat.le_refl _), Nat.sub_self,
        List.head?_eq_getElem?]
    rw [hnext, ← hfirst]
    rfl

/-- A text that the source owns, with an empty line in it: read on, closed under the source, and
left alone after the source was closed. -/
theorem use_ofMemory_owned :
    let source := ofMemory (.ofText "MOVE\n\nLEFT") true
    let reading := source.use [.next]
    let cutOff := source.use [.next, .closeSupply, .next]
    let closed := source.use [.next, .closeSupply, .readOne, .next]
    (reading.after.isClosed = false ∧ reading.after.supply.isClosed = false ∧
      reading.after.next.1 = .ok (some "")) ∧
    (cutOff.after.isClosed = false ∧ cutOff.after.supply.isClosed = true ∧
      ∃ failure, failure.className = "ValueError" ∧
        cutOff.after.next = (.error failure, cutOff.after)) ∧
    (closed.after.isClosed = true ∧ closed.after.next = (.ok none, closed.after) ∧
      closed.lines = ["MOVE"]) := by
  intro source reading cutOff closed
  obtain ⟨-, -, -, -, hreading, -⟩ := use_ofMemory (.ofText "MOVE\n\nLEFT") true [.next]
  obtain ⟨-, -, -, hcutOff, -, -⟩ :=
    use_ofMemory (.ofText "MOVE\n\nLEFT") true [.next, .closeSupply, .next]
  obtain ⟨-, -, hclosed, -, -, -⟩ :=
    use_ofMemory (.ofText "MOVE\n\nLEFT") true [.next, .closeSupply, .readOne, .next]
  exact ⟨⟨rfl, rfl, hreading rfl rfl⟩, ⟨rfl, rfl, hcutOff rfl rfl⟩, rfl, hclosed rfl, rfl⟩

end Source

end Tabletop
