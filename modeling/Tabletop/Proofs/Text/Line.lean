import Mathlib.Data.List.DropRight
import Tabletop.Text.Newline

/-!
# Lines of a text

`lines` cuts a text at each line feed, each carriage return, and each of both together, which is one
end and not two. Unifying the line ends first does not change the lines (`lines_unify`), and then
the first line is the one that `cutLine?` cuts off (`lines_of_cutLine?_eq_some`).

A text that comes in two pieces is unified as it would be at once (`unifyPiece_append`).
-/

set_option autoImplicit false

namespace Tabletop.Text

/-- A line before those that a text is cut into. -/
def consLine (line : List Char) (cut : List (List Char) × List Char) :
    List (List Char) × List Char :=
  (line :: cut.1, cut.2)

/-- The lines that end in a text and what follows the last end, where `line` is the start of the
first one. -/
def cutFrom (line : List Char) : List Char → List (List Char) × List Char
  | [] => ([], line)
  | '\r' :: '\n' :: rest => consLine line (cutFrom [] rest)
  | '\r' :: rest => consLine line (cutFrom [] rest)
  | '\n' :: rest => consLine line (cutFrom [] rest)
  | c :: rest => cutFrom (line ++ [c]) rest

/-- The lines of a text that are ended. -/
def endedLines (cs : List Char) : List (List Char) :=
  (cutFrom [] cs).1

/-- The lines of a text: those that are ended, and what follows the last end if it is not empty. -/
def lines (cs : List Char) : List (List Char) :=
  endedLines cs ++ (if (cutFrom [] cs).2 = [] then [] else [(cutFrom [] cs).2])

example : lines "ab\r\n\rc\n".toList = ["ab".toList, [], "c".toList] := by decide

section

variable {line cs : List Char}

theorem cutFrom_feed : cutFrom line ('\n' :: cs) = consLine line (cutFrom [] cs) := by
  simp [cutFrom]

theorem cutFrom_return (h : cs.head? ≠ some '\n') :
    cutFrom line ('\r' :: cs) = consLine line (cutFrom [] cs) := by
  cases cs with
  | nil => simp [cutFrom]
  | cons c cs =>
    have hc : c ≠ '\n' := fun same => h (congrArg some same)
    simp [cutFrom, hc]

theorem cutFrom_other {c : Char} (h : isLineEnd c = false) :
    cutFrom line (c :: cs) = cutFrom (line ++ [c]) cs := by
  simp only [isLineEnd, Bool.or_eq_false_iff, decide_eq_false_iff_not] at h
  simp [cutFrom, h.1, h.2]

end

/-- Characters that end no line make the first line longer. -/
theorem cutFrom_append {body : List Char} (h : ∀ c ∈ body, isLineEnd c = false)
    (line cs : List Char) : cutFrom line (body ++ cs) = cutFrom (line ++ body) cs := by
  induction body generalizing line with
  | nil => rw [List.nil_append, List.append_nil]
  | cons c body ih =>
    obtain ⟨hc, hbody⟩ := List.forall_mem_cons.1 h
    rw [List.cons_append, cutFrom_other hc, ih hbody, List.append_assoc, List.singleton_append]

theorem endedLines_of_cutFrom {text body rest : List Char}
    (h : cutFrom [] text = consLine body (cutFrom [] rest)) :
    endedLines text = body :: endedLines rest := by
  rw [endedLines, h]
  rfl

theorem lines_of_cutFrom {text body rest : List Char}
    (h : cutFrom [] text = consLine body (cutFrom [] rest)) : lines text = body :: lines rest := by
  rw [lines, endedLines_of_cutFrom h, h]
  rfl

/-! ## Unified line ends -/

/-- In the last case of `unifyPiece`, what the others leave over. -/
theorem ne_return {c : Char} {rest : List Char} (hlast : c = '\r' → rest = [] → False)
    (hmore : ∀ d ds, c = '\r' → rest = d :: ds → False) : c ≠ '\r' := by
  intro hc
  cases rest with
  | nil => exact hlast hc rfl
  | cons d ds => exact hmore d ds hc rfl

theorem unifyPiece_return {c : Char} {cs : List Char} (h : c ≠ '\n') :
    unifyPiece ('\r' :: c :: cs) = consPiece '\n' (unifyPiece (c :: cs)) := by
  rw [unifyPiece]
  exact fun hc => h hc

theorem unifyPiece_other {c : Char} {cs : List Char} (h : c ≠ '\r') :
    unifyPiece (c :: cs) = consPiece c (unifyPiece cs) := by
  rw [unifyPiece]
  · exact fun hc => absurd hc h
  · exact fun _ hc => absurd hc h
  · exact fun _ _ hc => absurd hc h

/-- A text in two pieces is unified as it would be at once: the carriage return that the first one
holds back stands before the second one. -/
theorem unifyPiece_append (cs ds : List Char) :
    unifyPiece (cs ++ ds) =
      ((unifyPiece cs).1 ++ (unifyPiece (heldStart (unifyPiece cs).2 ++ ds)).1,
        (unifyPiece (heldStart (unifyPiece cs).2 ++ ds)).2) := by
  fun_induction unifyPiece cs with
  | case1 => rfl
  | case2 => rfl
  | case3 rest ih =>
    exact congrArg (consPiece '\n') ih
  | case4 c rest hc ih =>
    exact (unifyPiece_return hc).trans (congrArg (consPiece '\n') ih)
  | case5 c rest hlast _ hmore ih =>
    exact (unifyPiece_other (ne_return hlast hmore)).trans (congrArg (consPiece c) ih)

theorem return_notMem_unifyPiece (cs : List Char) : '\r' ∉ (unifyPiece cs).1 := by
  fun_induction unifyPiece cs with
  | case1 => exact List.not_mem_nil
  | case2 => exact List.not_mem_nil
  | case3 rest ih => exact List.not_mem_cons_of_ne_of_not_mem (by decide) ih
  | case4 c rest _ ih => exact List.not_mem_cons_of_ne_of_not_mem (by decide) ih
  | case5 c rest hlast _ hmore ih =>
    exact List.not_mem_cons_of_ne_of_not_mem (ne_return hlast hmore).symm ih

theorem return_notMem_heldEnd (held : Bool) : '\r' ∉ heldEnd held := by
  cases held with
  | false => decide
  | true => decide

theorem cutFrom_unify (line cs : List Char) : cutFrom line (unify cs) = cutFrom line cs := by
  unfold unify
  fun_induction unifyPiece cs generalizing line with
  | case1 => rfl
  | case2 => rfl
  | case3 rest ih =>
    exact cutFrom_feed.trans (congrArg (consLine line) (ih []))
  | case4 c rest hc ih =>
    -- the carriage return ends the line alone, as the line feed does that it becomes
    have hhead : (c :: rest).head? ≠ some '\n' := fun h => hc (Option.some.inj h)
    rw [cutFrom_return hhead]
    exact cutFrom_feed.trans (congrArg (consLine line) (ih []))
  | case5 c rest hlast _ hmore ih =>
    by_cases hfeed : c = '\n'
    · subst hfeed
      rw [cutFrom_feed]
      exact cutFrom_feed.trans (congrArg (consLine line) (ih []))
    · have hc : isLineEnd c = false := by simp [isLineEnd, ne_return hlast hmore, hfeed]
      rw [cutFrom_other hc]
      exact (cutFrom_other hc).trans (ih (line ++ [c]))

theorem lines_unify (cs : List Char) : lines (unify cs) = lines cs := by
  simp only [lines, endedLines, cutFrom_unify]

/-! ## The first line of a unified text -/

theorem cutLine?_eq_none_iff {cs : List Char} : cutLine? cs = none ↔ '\n' ∉ cs := by
  induction cs with
  | nil => simp [cutLine?]
  | cons c cs ih =>
    by_cases hc : c = '\n'
    · simp [cutLine?, hc]
    · simp [cutLine?, hc, ih, Ne.symm hc]

theorem cutLine?_append {cs : List Char} (h : '\n' ∉ cs) (ds : List Char) :
    cutLine? (cs ++ ds) = (cutLine? ds).map fun cut => (cs ++ cut.1, cut.2) := by
  induction cs with
  | nil => simp
  | cons c cs ih =>
    simp only [List.mem_cons, not_or] at h
    obtain ⟨hc, hcs⟩ := h
    rw [List.cons_append, cutLine?, if_neg (Ne.symm hc), ih hcs, Option.map_map]
    rfl

theorem cutLine?_eq_some_iff {cs line rest : List Char} :
    cutLine? cs = some (line, rest) ↔
      ∃ body, '\n' ∉ body ∧ line = body ++ ['\n'] ∧ cs = line ++ rest := by
  constructor
  · intro h
    induction cs generalizing line with
    | nil => simp [cutLine?] at h
    | cons c cs ih =>
      simp only [cutLine?] at h
      split at h
      · rename_i hc
        simp only [Option.some.injEq, Prod.mk.injEq] at h
        obtain ⟨rfl, rfl⟩ := h
        exact ⟨[], List.not_mem_nil, rfl, by rw [hc]; rfl⟩
      · rename_i hc
        obtain ⟨⟨line', rest'⟩, hcut, he⟩ := Option.map_eq_some_iff.1 h
        simp only [Prod.mk.injEq] at he
        obtain ⟨rfl, rfl⟩ := he
        obtain ⟨body, hbody, rfl, rfl⟩ := ih hcut
        exact ⟨c :: body, List.not_mem_cons_of_ne_of_not_mem (Ne.symm hc) hbody, rfl, rfl⟩
  · rintro ⟨body, hbody, rfl, rfl⟩
    rw [List.append_assoc, cutLine?_append hbody]
    rfl

theorem isLineEnd_of_mem {cs : List Char} {c : Char} (hreturn : '\r' ∉ cs) (hfeed : '\n' ∉ cs)
    (h : c ∈ cs) : isLineEnd c = false := by
  have hr : c ≠ '\r' := fun same => hreturn (same ▸ h)
  have hn : c ≠ '\n' := fun same => hfeed (same ▸ h)
  simp [isLineEnd, hr, hn]

theorem withoutEnd_of_unended {body : List Char} (h : ∀ c ∈ body, isLineEnd c = false) :
    withoutEnd body = String.ofList body := by
  have hkept : dropEndWhile isLineEnd body = body := by
    refine List.rdropWhile_eq_self_iff.2 fun hne => ?_
    simp [h _ (List.getLast_mem hne)]
  rw [withoutEnd, hkept]

theorem withoutEnd_concat_feed {body : List Char} (h : ∀ c ∈ body, isLineEnd c = false) :
    withoutEnd (body ++ ['\n']) = String.ofList body := by
  have hdrop : dropEndWhile isLineEnd (body ++ ['\n']) = dropEndWhile isLineEnd body :=
    List.rdropWhile_concat_pos isLineEnd body '\n' rfl
  rw [withoutEnd, hdrop]
  exact withoutEnd_of_unended h

section

variable {text line rest : List Char}

/-- The line that is cut off a unified text is its first line, and the rest holds the others. -/
theorem cutFrom_of_cutLine?_eq_some (hunified : '\r' ∉ text)
    (h : cutLine? text = some (line, rest)) :
    ∃ body, withoutEnd line = String.ofList body ∧
      cutFrom [] text = consLine body (cutFrom [] rest) := by
  obtain ⟨body, hfeed, rfl, rfl⟩ := cutLine?_eq_some_iff.1 h
  have hreturn : '\r' ∉ body := by
    intro hmem
    apply hunified
    exact List.mem_append_left _ (List.mem_append_left _ hmem)
  have hbody : ∀ c ∈ body, isLineEnd c = false := fun c => isLineEnd_of_mem hreturn hfeed
  refine ⟨body, withoutEnd_concat_feed hbody, ?_⟩
  rw [List.append_assoc, cutFrom_append hbody]
  exact cutFrom_feed

/-- A unified text without a line feed is one line that is not ended. -/
theorem cutFrom_of_cutLine?_eq_none (hunified : '\r' ∉ text) (h : cutLine? text = none) :
    withoutEnd text = String.ofList text ∧ cutFrom [] text = ([], text) := by
  have htext : ∀ c ∈ text, isLineEnd c = false := fun c =>
    isLineEnd_of_mem hunified (cutLine?_eq_none_iff.1 h)
  refine ⟨withoutEnd_of_unended htext, ?_⟩
  have hcut := cutFrom_append htext [] []
  rw [List.append_nil, List.nil_append] at hcut
  exact hcut

end

/-! ## Lines of the start of a text -/

/-- More text after a unified one leaves the lines that are ended as they are. -/
theorem cutFrom_isPrefix_append {cs : List Char} (hunified : '\r' ∉ cs) (line ds : List Char) :
    (cutFrom line cs).1 <+: (cutFrom line (cs ++ ds)).1 := by
  induction cs generalizing line with
  | nil => exact List.nil_prefix
  | cons c cs ih =>
    simp only [List.mem_cons, not_or] at hunified
    obtain ⟨hreturn, hunified⟩ := hunified
    rw [List.cons_append]
    by_cases hfeed : c = '\n'
    · subst hfeed
      rw [cutFrom_feed, cutFrom_feed]
      exact (List.prefix_cons_inj line).2 (ih hunified [])
    · -- the line goes on, so the induction is for every start of a line
      have hc : isLineEnd c = false := by simp [isLineEnd, Ne.symm hreturn, hfeed]
      rw [cutFrom_other hc, cutFrom_other hc]
      exact ih hunified (line ++ [c])

/-- What is unified so far of a text ends no line that the text does not end. -/
theorem endedLines_unifyPiece (cs : List Char) :
    endedLines (unifyPiece cs).1 <+: endedLines cs := by
  have hprefix :=
    cutFrom_isPrefix_append (return_notMem_unifyPiece cs) [] (heldEnd (unifyPiece cs).2)
  have hwhole := cutFrom_unify [] cs
  rw [unify] at hwhole
  rw [hwhole] at hprefix
  exact hprefix

end Tabletop.Text
