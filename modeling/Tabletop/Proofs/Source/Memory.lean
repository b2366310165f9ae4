import Tabletop.Proofs.Source.File

/-!
# Lines of a text in memory

A text in memory is cut after each line feed (`Text.pieces`), and each piece is a line once the
characters that end it are taken off (`nthRead_ofText`). A carriage return ends no line there,
unlike in a file. Where each of them has a line feed directly behind it (`Text.Paired`) the two come
to the same, so such a text is read from memory as it is from a file in UTF-8
(`nthRead_ofText_eq_ofFile`).
-/

set_option autoImplicit false

namespace Tabletop

namespace Text

/-! ## Cutting after line feeds -/

/-- The pieces of a text that each end in its only line feed, and what follows the last of them if
it is not empty. The text goes on from `start`. -/
def piecesFrom (start : List Char) : List Char → List (List Char)
  | [] => if start = [] then [] else [start]
  | c :: cs =>
    if c = '\n' then (start ++ ['\n']) :: piecesFrom [] cs else piecesFrom (start ++ [c]) cs

/-- A text cut after each line feed. -/
def pieces (cs : List Char) : List (List Char) :=
  piecesFrom [] cs

example : pieces "a\n\r\nb".toList = ["a\n".toList, "\r\n".toList, "b".toList] := by decide

section

variable {cs ds line rest : List Char}

theorem piecesFrom_append (h : '\n' ∉ cs) (start ds : List Char) :
    piecesFrom start (cs ++ ds) = piecesFrom (start ++ cs) ds := by
  induction cs generalizing start with
  | nil => rw [List.nil_append, List.append_nil]
  | cons c cs ih =>
    simp only [List.mem_cons, not_or] at h
    obtain ⟨hc, hcs⟩ := h
    rw [List.cons_append, piecesFrom, if_neg (Ne.symm hc), ih hcs, List.append_assoc,
      List.singleton_append]

theorem pieces_of_cutLine?_eq_some (h : cutLine? cs = some (line, rest)) :
    pieces cs = line :: pieces rest := by
  obtain ⟨body, hbody, rfl, rfl⟩ := cutLine?_eq_some_iff.1 h
  rw [pieces, List.append_assoc, piecesFrom_append hbody]
  rfl

theorem pieces_of_cutLine?_eq_none (h : cutLine? cs = none) :
    pieces cs = if cs = [] then [] else [cs] := by
  have happend := piecesFrom_append (cutLine?_eq_none_iff.1 h) [] []
  rw [List.append_nil, List.nil_append] at happend
  exact happend

/-! ## Paired line ends -/

/-- Each carriage return has a line feed directly behind it. -/
def Paired (cs : List Char) : Prop :=
  ∀ front back, cs = front ++ '\r' :: back → back.head? = some '\n'

theorem paired_nil : Paired [] := by
  intro front back h
  exact absurd h.symm (List.append_ne_nil_of_right_ne_nil _ (List.cons_ne_nil _ _))

theorem paired_cons_iff {c : Char} :
    Paired (c :: cs) ↔ (c = '\r' → cs.head? = some '\n') ∧ Paired cs := by
  constructor
  · intro h
    refine ⟨?_, fun front back hcs => h (c :: front) back (by rw [hcs]; rfl)⟩
    rintro rfl
    exact h [] cs rfl
  · rintro ⟨hfirst, hrest⟩ front back h
    cases front with
    | nil =>
      obtain ⟨hc, rfl⟩ := List.cons.inj h
      exact hfirst hc
    | cons d front =>
      obtain ⟨-, hcs⟩ := List.cons.inj h
      exact hrest front back hcs

instance Paired.decidable : DecidablePred Paired
  | [] => isTrue paired_nil
  | _ :: cs =>
    have := Paired.decidable cs
    decidable_of_iff _ paired_cons_iff.symm

theorem Paired.of_append (h : Paired (cs ++ ds)) : Paired ds := by
  intro front back hds
  apply h (cs ++ front) back
  rw [hds, List.append_assoc]

/-- Before the first line feed of a paired text at most the last character is a carriage return. -/
theorem Paired.exists_body (h : Paired (cs ++ '\n' :: ds)) (hfeed : '\n' ∉ cs) :
    ∃ body, (∀ c ∈ body, isLineEnd c = false) ∧ (cs = body ∨ cs = body ++ ['\r']) := by
  induction cs with
  | nil => exact ⟨[], by simp, .inl rfl⟩
  | cons c cs ih =>
    simp only [List.mem_cons, not_or] at hfeed
    obtain ⟨hc, hcs⟩ := hfeed
    by_cases hreturn : c = '\r'
    · -- the line feed behind the carriage return is the first one of all
      subst hreturn
      have hhead := h [] (cs ++ '\n' :: ds) rfl
      cases cs with
      | nil => exact ⟨[], by simp, .inr rfl⟩
      | cons d cs =>
        cases hhead
        exact absurd List.mem_cons_self hcs
    · obtain ⟨body, hbody, hend⟩ := ih (paired_cons_iff.1 h).2 hcs
      have hkeep : isLineEnd c = false := by simp [isLineEnd, hreturn, Ne.symm hc]
      refine ⟨c :: body, List.forall_mem_cons.2 ⟨hkeep, hbody⟩, ?_⟩
      rcases hend with rfl | rfl
      · exact .inl rfl
      · exact .inr rfl

/-- A paired text without a line feed has no character that ends a line. -/
theorem Paired.forall_of_feed_notMem (h : Paired cs) (hfeed : '\n' ∉ cs) :
    ∀ c ∈ cs, isLineEnd c = false := by
  have hreturn : '\r' ∉ cs := by
    intro hmem
    obtain ⟨front, back, rfl⟩ := List.append_of_mem hmem
    have hback := List.mem_of_mem_head? (h front back rfl)
    exact hfeed (List.mem_append_right _ (List.mem_cons_of_mem _ hback))
  exact fun c hc => isLineEnd_of_mem hreturn hfeed hc

theorem withoutEnd_concat_return_feed {body : List Char} (h : ∀ c ∈ body, isLineEnd c = false) :
    withoutEnd (body ++ ['\r', '\n']) = String.ofList body := by
  have hdrop : dropEndWhile isLineEnd ((body ++ ['\r']) ++ ['\n']) =
      dropEndWhile isLineEnd (body ++ ['\r']) :=
    List.rdropWhile_concat_pos isLineEnd (body ++ ['\r']) '\n' rfl
  have hdrop' : dropEndWhile isLineEnd (body ++ ['\r']) = dropEndWhile isLineEnd body :=
    List.rdropWhile_concat_pos isLineEnd body '\r' rfl
  rw [List.append_assoc] at hdrop
  rw [← withoutEnd_of_unended h, withoutEnd, withoutEnd]
  exact congrArg String.ofList (hdrop.trans hdrop')

/-- A text without a character that ends a line is one line, if it is not empty. -/
theorem lines_of_unended (h : ∀ c ∈ cs, isLineEnd c = false) :
    lines cs = if cs = [] then [] else [cs] := by
  have hcut := cutFrom_append h [] []
  rw [List.append_nil, List.nil_append] at hcut
  unfold lines endedLines
  rw [hcut]
  rfl

/-- The first piece of a paired text is its first line, and the rest has the other lines. -/
theorem Paired.lines_eq_cons (h : Paired cs) (hcut : cutLine? cs = some (line, rest)) :
    ∃ body, withoutEnd line = String.ofList body ∧ lines cs = body :: lines rest := by
  obtain ⟨front, hfeed, rfl, rfl⟩ := cutLine?_eq_some_iff.1 hcut
  rw [List.append_assoc, List.singleton_append] at h
  obtain ⟨body, hbody, rfl | rfl⟩ := h.exists_body hfeed
  · refine ⟨front, withoutEnd_concat_feed hbody, lines_of_cutFrom ?_⟩
    rw [List.append_assoc, cutFrom_append hbody]
    exact cutFrom_feed
  · rw [List.append_assoc]
    refine ⟨body, withoutEnd_concat_return_feed hbody, lines_of_cutFrom ?_⟩
    rw [List.append_assoc, cutFrom_append hbody]
    simp [cutFrom]

/-- The pieces of a paired text are its lines once their ends are taken off. -/
theorem Paired.map_withoutEnd_pieces (h : Paired cs) :
    (pieces cs).map withoutEnd = (lines cs).map String.ofList := by
  -- on the length, as each cut takes a line of any size away
  induction hlength : cs.length using Nat.strongRecOn generalizing cs with
  | ind length ih =>
    cases hcut : cutLine? cs with
    | none =>
      have hplain := h.forall_of_feed_notMem (cutLine?_eq_none_iff.1 hcut)
      rw [pieces_of_cutLine?_eq_none hcut, lines_of_unended hplain]
      by_cases hempty : cs = []
      · rw [if_pos hempty]
        rfl
      · rw [if_neg hempty, List.map_singleton, List.map_singleton, withoutEnd_of_unended hplain]
    | some cut =>
      obtain ⟨line, rest⟩ := cut
      obtain ⟨body, hbody, hlines⟩ := h.lines_eq_cons hcut
      obtain ⟨hne, hcs⟩ := cutLine?_eq_some hcut
      have hless : rest.length < length := by
        have hpos := List.length_pos_iff.2 hne
        rw [← hlength, hcs, List.length_append]
        omega
      rw [hcs] at h
      rw [pieces_of_cutLine?_eq_some hcut, hlines, List.map_cons, List.map_cons, hbody,
        ih _ hless h.of_append rfl]

end

end Text

namespace Source

open Text

variable {stream : TextStream}

/-- A source that reads from a text in memory. -/
def ofMemory (stream : TextStream) (owns : Bool) : Source where
  supply := .text stream
  owns := owns

/-- An open text gives its first piece, without what ends it, and leaves the others. -/
theorem next_ofMemory (hopen : stream.isClosed = false) (owns : Bool) :
    ∃ rest : List Char, pieces rest = (pieces stream.rest).tail ∧
      (ofMemory stream owns).next =
        (.ok ((pieces stream.rest).head?.map withoutEnd), ofMemory { stream with rest } owns) := by
  obtain ⟨left, isClosed⟩ := stream
  obtain rfl : isClosed = false := hopen
  simp only [next, ofMemory, Supply.next, TextStream.next, Bool.false_eq_true, if_false]
  cases hcut : cutLine? left with
  | some cut =>
    obtain ⟨line, rest⟩ := cut
    rw [pieces_of_cutLine?_eq_some hcut]
    exact ⟨rest, rfl, rfl⟩
  | none =>
    rw [pieces_of_cutLine?_eq_none hcut]
    cases left with
    | nil => exact ⟨[], rfl, rfl⟩
    | cons c left => exact ⟨[], rfl, rfl⟩

/-- The reads of an open text give its pieces, without what ends them, and then nothing more. -/
theorem nthRead_ofMemory (hopen : stream.isClosed = false) (owns : Bool) (n : Nat) :
    (ofMemory stream owns).nthRead n = .ok ((pieces stream.rest)[n]?.map withoutEnd) := by
  induction n generalizing stream with
  | zero =>
    obtain ⟨rest, -, hnext⟩ := next_ofMemory hopen owns
    rw [nthRead, hnext, List.head?_eq_getElem?]
  | succ n ih =>
    obtain ⟨rest, hrest, hnext⟩ := next_ofMemory hopen owns
    have hread : (ofMemory { stream with rest } owns).nthRead n =
        .ok ((pieces rest)[n]?.map withoutEnd) := ih hopen
    rw [nthRead, hnext, hread, hrest, List.getElem?_tail]

/-- The reads of a text in memory give its pieces, without what ends them, and then nothing more. -/
theorem nthRead_ofText (text : String) (owns : Bool) (n : Nat) :
    (ofText text owns).nthRead n = .ok ((pieces text.toList)[n]?.map withoutEnd) :=
  nthRead_ofMemory rfl owns n

/-- The reads of a file in UTF-8 give the lines of its text and then nothing more. -/
theorem nthRead_ofFile_encode (text : List Char) (n : Nat) :
    (ofFile (Utf8.encode text)).nthRead n = .ok ((lines text)[n]?.map String.ofList) := by
  have hleft := ByteStream.left_ofBytes (List.append_nil (Utf8.encode text)).symm Utf8.stuck_nil
  have hread := nthRead_of_left hleft n
  have hwhole : ByteStream.unifyBefore text [] = unify text := rfl
  rw [hwhole, lines_unify] at hread
  exact hread

/-- A text with paired line ends is read from memory as it is from a file. -/
theorem nthRead_ofText_eq_ofFile {text : String} (h : Paired text.toList) (owns : Bool) (n : Nat) :
    (ofText text owns).nthRead n = (ofFile (Utf8.encode text.toList)).nthRead n := by
  rw [nthRead_ofText, nthRead_ofFile_encode, ← List.getElem?_map, h.map_withoutEnd_pieces,
    List.getElem?_map]

end Source

end Tabletop
