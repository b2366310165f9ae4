import Tabletop.Text.Alphabet

/-!
# Resemblance

How much two words have in common. The longest block of neighbouring characters that stands in both
is set aside, the first such block if there are several; what stands before it in the two words is
compared in the same way, and likewise what stands after it. Two words resemble each other if at
least three fifths of their characters lie in such blocks.

`longestBlock_fits` says that a block lies within the first word.
-/

set_option autoImplicit false

namespace Tabletop.Text

/-- The number of characters with which two words start alike. -/
def commonStart : List Char → List Char → Nat
  | c :: cs, d :: ds => if c = d then commonStart cs ds + 1 else 0
  | _, _ => 0

/-- A block that two words share: where it starts in each, and its length. -/
structure Block where
  first : Nat
  second : Nat
  size : Nat
  deriving DecidableEq, Repr

/-- The block that starts at two places. -/
def blockAt (cs ds : List Char) (first second : Nat) : Block where
  first := first
  second := second
  size := commonStart (cs.drop first) (ds.drop second)

/-- The longer of two blocks, of equally long ones the first. -/
def Block.longer (block other : Block) : Block :=
  if block.size < other.size then other else block

/-- The longest block that two words share. -/
def longestBlock (cs ds : List Char) : Block :=
  let blocks := (List.range cs.length).flatMap fun first =>
    (List.range ds.length).map (blockAt cs ds first)
  blocks.foldl Block.longer ⟨0, 0, 0⟩

theorem commonStart_le_length (cs ds : List Char) : commonStart cs ds ≤ cs.length := by
  induction cs generalizing ds with
  | nil => simp [commonStart]
  | cons c cs ih =>
    cases ds with
    | nil => simp [commonStart]
    | cons d ds =>
      simp only [commonStart, List.length_cons]
      have := ih ds
      split <;> omega

/-- Of blocks within a word the longest lies within it. -/
theorem foldl_longer_fits {length : Nat} {blocks : List Block} {block : Block}
    (start : block.first + block.size ≤ length)
    (all : ∀ other ∈ blocks, other.first + other.size ≤ length) :
    (blocks.foldl Block.longer block).first + (blocks.foldl Block.longer block).size
      ≤ length := by
  induction blocks generalizing block with
  | nil => exact start
  | cons other blocks ih =>
    refine ih ?_ fun next member => all next (List.mem_cons_of_mem _ member)
    unfold Block.longer
    split
    · exact all other List.mem_cons_self
    · exact start

/-- The longest block lies within the first word. -/
theorem longestBlock_fits (cs ds : List Char) :
    (longestBlock cs ds).first + (longestBlock cs ds).size ≤ cs.length := by
  refine foldl_longer_fits (Nat.zero_le _) ?_
  intro other member
  obtain ⟨first, first_mem, member⟩ := List.mem_flatMap.1 member
  obtain ⟨second, _, rfl⟩ := List.mem_map.1 member
  have inside := List.mem_range.1 first_mem
  have bound := commonStart_le_length (cs.drop first) (ds.drop second)
  simp only [blockAt, List.length_drop] at bound ⊢
  omega

/-- The number of characters that two words share in blocks. -/
def shared (cs ds : List Char) : Nat :=
  match _h : longestBlock cs ds with
  | ⟨_, _, 0⟩ => 0
  | ⟨first, second, size + 1⟩ =>
    shared (cs.take first) (ds.take second) + (size + 1) +
      shared (cs.drop (first + (size + 1))) (ds.drop (second + (size + 1)))
termination_by cs.length
decreasing_by
  all_goals
    have fits := longestBlock_fits cs ds
    simp only [_h] at fits
    simp only [List.length_take, List.length_drop]
    omega

/-- Whether at least three fifths of the characters of two words are shared. -/
def resembles (cs ds : List Char) : Bool :=
  3 * (cs.length + ds.length) ≤ 10 * shared cs ds

/-- Whether a first word is at least as close to a given word as a second one is. Of words equally
close the later in the alphabet counts as closer. -/
def isCloser (word first second : String) : Bool :=
  let left := shared first.toList word.toList * (second.length + word.length)
  let right := shared second.toList word.toList * (first.length + word.length)
  right < left || (left = right && inOrder second first)

/-- The greatest number of words that are offered for another. -/
def maxOffered : Nat := 3

/-- The words that resemble a given one, the closest only if there are many, in the order of the
alphabet. -/
def resembling (word : String) (candidates : List String) : List String :=
  let close := candidates.filter fun candidate => resembles candidate.toList word.toList
  ((close.mergeSort (isCloser word)).take maxOffered).mergeSort inOrder

end Tabletop.Text
