import Tabletop.Text.Columns

/-!
# Clusters of characters

A character is shown as one with the characters without a width that follow it, and with what a
joiner adds, and they are never parted. A text is cut to a number of columns (`crop`) or into pieces
of at most so many columns (`chop`) between clusters.

`text_clusters` says that nothing is lost.
-/

set_option autoImplicit false

namespace Tabletop.Text

/-- Characters shown as one, and the columns they take together. -/
structure Cluster where
  text : List Char
  width : Nat
  deriving DecidableEq, Repr

/-- A cluster with more characters, which widen it by some columns. -/
def Cluster.extend (cluster : Cluster) (cs : List Char) (columns : Nat) : Cluster :=
  ⟨cluster.text ++ cs, cluster.width + columns⟩

/-- The clusters from one that may go on, where `widens` says whether a picture mark would widen
it. -/
def clustersFrom : Cluster → Bool → List Char → List Cluster
  | cluster, _, [] => [cluster]
  | cluster, widens, c :: cs =>
    if c = joiner then
      match cs with
      | [] => [cluster.extend [c] 0]
      | d :: rest => clustersFrom (cluster.extend [c, d] 0) widens rest
    else if c = pictureMark then
      clustersFrom (cluster.extend [c] (if widens then 1 else 0)) false cs
    else
      let width := charColumns c
      if width = 0 then clustersFrom (cluster.extend [c] 0) widens cs
      else cluster :: clustersFrom ⟨[c], width⟩ (hasPicture c) cs

/-- The clusters of a text. -/
def clusters : List Char → List Cluster
  | [] => []
  | c :: cs => clustersFrom ⟨[c], charColumns c⟩ (hasPicture c) cs

theorem text_clustersFrom (cluster : Cluster) (widens : Bool) (cs : List Char) :
    (clustersFrom cluster widens cs).flatMap Cluster.text = cluster.text ++ cs := by
  fun_induction clustersFrom cluster widens cs <;> simp_all [Cluster.extend]

theorem text_clusters (cs : List Char) : (clusters cs).flatMap Cluster.text = cs := by
  cases cs with
  | nil => rfl
  | cons c cs => exact text_clustersFrom ⟨[c], charColumns c⟩ (hasPicture c) cs

/-- The clusters that fit into a number of columns; where half of a wide one would fit stands a
space. -/
def cropClusters : Nat → List Cluster → List Char
  | 0, _ => []
  | _ + 1, [] => []
  | room + 1, cluster :: rest =>
    if cluster.width ≤ room + 1 then cluster.text ++ cropClusters (room + 1 - cluster.width) rest
    else List.replicate (room + 1) ' '

/-- A text cut to a number of columns. -/
def crop (room : Nat) (cs : List Char) : List Char :=
  cropClusters room (clusters cs)

/-- Pieces of at most `width` columns, given the last piece so far and its columns. A cluster that
is wider than a piece makes one by itself. -/
def chopClusters (width : Nat) (piece : List Char) (used : Nat) : List Cluster → List (List Char)
  | [] => if 0 < used then [piece] else []
  | cluster :: rest =>
    if width < used + cluster.width then
      piece :: chopClusters width cluster.text cluster.width rest
    else chopClusters width (piece ++ cluster.text) (used + cluster.width) rest

/-- A text in pieces of at most `width` columns. -/
def chop (width : Nat) (cs : List Char) : List (List Char) :=
  chopClusters width [] 0 (clusters cs)

end Tabletop.Text
