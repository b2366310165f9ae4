import Mathlib.Data.List.Forall2
import Tabletop.Proofs.Source.Memory

/-!
# Delivery of a text in memory

A text in memory comes as pieces that each end in their only line feed, and what follows the last
one if there is anything (`CutAfterFeeds`). Together the pieces are the text
(`CutAfterFeeds.flatten_eq`), and their number is that of the line feeds and one more if the text
ends within a line (`CutAfterFeeds.length_eq`).

Each piece is delivered as one line, less the line feeds and carriage returns at its end
(`Stripped`), and after all of them there is nothing more (`ofText_delivers_lines`). A piece of
nothing but these is delivered as an empty line, so it is not taken for the end.
-/

set_option autoImplicit false

namespace Tabletop

namespace Text

/-! ## Cuts after line feeds -/

/-- A text cut into pieces that each end in their only line feed, and what follows the last line
feed if it is not empty. -/
inductive CutAfterFeeds : List Char → List (List Char) → Prop where
  | nothing : CutAfterFeeds [] []
  | last {body : List Char} : body ≠ [] → '\n' ∉ body → CutAfterFeeds body [body]
  | line {body rest : List Char} {pieces : List (List Char)} : '\n' ∉ body →
      CutAfterFeeds rest pieces →
        CutAfterFeeds (body ++ '\n' :: rest) ((body ++ ['\n']) :: pieces)

theorem cutAfterFeeds_piecesFrom {start : List Char} (h : '\n' ∉ start) (cs : List Char) :
    CutAfterFeeds (start ++ cs) (piecesFrom start cs) := by
  induction cs generalizing start with
  | nil =>
    rw [List.append_nil, piecesFrom]
    split
    · rename_i hnil
      rw [hnil]
      exact .nothing
    · rename_i hne
      exact .last hne h
  | cons c cs ih =>
    rw [piecesFrom]
    split
    · rename_i hfeed
      rw [hfeed]
      exact .line h (ih List.not_mem_nil)
    · rename_i hc
      have hstart : '\n' ∉ start ++ [c] := by
        simpa [h] using Ne.symm hc
      rw [← List.singleton_append, ← List.append_assoc]
      exact ih hstart

theorem cutAfterFeeds_pieces (cs : List Char) : CutAfterFeeds cs (pieces cs) :=
  cutAfterFeeds_piecesFrom List.not_mem_nil cs

section

variable {cs : List Char} {cut : List (List Char)}

/-- Nothing is lost in a cut, and nothing comes twice. -/
theorem CutAfterFeeds.flatten_eq (h : CutAfterFeeds cs cut) : cut.flatten = cs := by
  induction h with
  | nothing => rfl
  | last _ _ => exact List.flatten_singleton
  | line _ _ ih => rw [List.flatten_cons, ih, List.append_assoc, List.singleton_append]

/-- A cut has a piece for each line feed, and one more if the text ends within a line. -/
theorem CutAfterFeeds.length_eq (h : CutAfterFeeds cs cut) :
    cut.length = cs.count '\n' + if cs ≠ [] ∧ cs.getLast? ≠ some '\n' then 1 else 0 := by
  induction h with
  | nothing => rfl
  | @last body hne hbody =>
    have hlast : body.getLast? ≠ some '\n' := fun hfeed => hbody (List.mem_of_getLast? hfeed)
    rw [if_pos ⟨hne, hlast⟩, List.count_eq_zero_of_not_mem hbody]
    rfl
  | @line body rest cut hbody _ ih =>
    -- behind a line feed the text ends within a line exactly if the rest does
    have hends : (body ++ '\n' :: rest ≠ [] ∧ (body ++ '\n' :: rest).getLast? ≠ some '\n') ↔
        rest ≠ [] ∧ rest.getLast? ≠ some '\n' := by
      cases rest with
      | nil => simp
      | cons c rest => simp [List.getLast?_append, List.getLast?_cons_cons]
    rw [List.length_cons, ih, List.count_append, List.count_eq_zero_of_not_mem hbody,
      List.count_cons_self]
    simp only [hends]
    omega

end

/-! ## Lines without their ends -/

/-- A piece of a text as a line: line feeds and carriage returns are taken off its end, all that
there are and nothing else. -/
def Stripped (piece : List Char) (line : String) : Prop :=
  ∃ ending, piece = line.toList ++ ending ∧ (∀ c ∈ ending, c = '\n' ∨ c = '\r') ∧
    ∀ c ∈ line.toList.getLast?, c ≠ '\n' ∧ c ≠ '\r'

theorem isLineEnd_iff {c : Char} : isLineEnd c = true ↔ c = '\n' ∨ c = '\r' := by
  rw [isLineEnd, Bool.or_eq_true, decide_eq_true_eq, decide_eq_true_eq, or_comm]

theorem stripped_withoutEnd (piece : List Char) : Stripped piece (withoutEnd piece) := by
  have hline : (withoutEnd piece).toList = piece.rdropWhile isLineEnd := String.toList_ofList
  refine ⟨piece.rtakeWhile isLineEnd, ?_, ?_, ?_⟩
  · rw [hline, List.rdropWhile_append_rtakeWhile]
  · intro c hc
    exact isLineEnd_iff.1 (List.mem_rtakeWhile_imp hc)
  · intro c hc
    rw [hline] at hc
    have hne : piece.rdropWhile isLineEnd ≠ [] := by
      rintro hnil
      rw [hnil] at hc
      cases hc
    have hkept := List.rdropWhile_last_not isLineEnd piece hne
    rw [List.getLast?_eq_some_getLast hne, Option.mem_some_iff] at hc
    rw [hc, isLineEnd_iff, not_or] at hkept
    exact hkept

/-- The lines of a text in memory: its pieces without what ends them. -/
def feedLines (cs : List Char) : List String :=
  (pieces cs).map withoutEnd

theorem forall₂_stripped_feedLines (cs : List Char) :
    List.Forall₂ Stripped (pieces cs) (feedLines cs) := by
  rw [feedLines, List.forall₂_map_right_iff]
  exact List.forall₂_same.2 fun piece _ => stripped_withoutEnd piece

end Text

namespace Source

open Text

/-- An open text is read to its end without a failure. -/
theorem readAll_ofMemory {stream : TextStream} (hopen : stream.isClosed = false) (owns : Bool) :
    (ofMemory stream owns).readAll = ⟨feedLines stream.rest, none⟩ := by
  rw [feedLines]
  -- each read leaves the pieces behind the first one
  induction hcut : pieces stream.rest generalizing stream with
  | nil =>
    obtain ⟨rest, -, hnext⟩ := next_ofMemory hopen owns
    rw [readAll_eq, hnext, hcut]
    rfl
  | cons piece cut ih =>
    obtain ⟨rest, hrest, hnext⟩ := next_ofMemory hopen owns
    rw [hcut, List.tail_cons] at hrest
    have hread : (ofMemory { stream with rest } owns).readAll = ⟨cut.map withoutEnd, none⟩ :=
      ih hopen hrest
    rw [readAll_eq, hnext, hcut]
    simp only [List.head?_cons, Option.map_some, hread, List.map_cons]

/-- A text in memory is delivered piece by piece, each one once and in order, without the characters
that end it, and then nothing more at any further read. There is a line for each line feed, and one
more if the text ends within a line. Reading to the end comes to an end, with all the lines. -/
theorem ofText_delivers_lines (text : String) (owns : Bool) :
    ∃ cut lines, CutAfterFeeds text.toList cut ∧ cut.flatten = text.toList ∧
      List.Forall₂ Stripped cut lines ∧
      lines.length = text.toList.count '\n' +
        (if text.toList ≠ [] ∧ text.toList.getLast? ≠ some '\n' then 1 else 0) ∧
      (∀ n, (ofText text owns).nthRead n = .ok lines[n]?) ∧
      (ofText text owns).readAll = ⟨lines, none⟩ := by
  have hcut := cutAfterFeeds_pieces text.toList
  refine ⟨pieces text.toList, feedLines text.toList, hcut, hcut.flatten_eq,
    forall₂_stripped_feedLines _, ?_, ?_, readAll_ofMemory rfl owns⟩
  · rw [feedLines, List.length_map]
    exact hcut.length_eq
  · intro n
    rw [nthRead_ofText, feedLines, List.getElem?_map]

example : (ofText "\r\n\na\r\r\n\rb\r" false).readAll = ⟨["", "", "a", "\rb"], none⟩ := by
  decide +kernel

end Source

end Tabletop
