import LossProbe.Binary64

/-! # Similar words

Two words are similar if enough of their characters are the same at nearly the same places. Words
that are similar to one that is unknown are suggested instead of it. -/

namespace LossProbe.CommandLine

/-- How far apart the places of two characters may be that count as the same one. -/
def searchRange (a b : List Char) : Nat := max a.length b.length / 2 - 1

/-- The characters of `a` that are also in `b`, each at the first place near enough that no earlier
one has taken. The result are their places in `b`, in the order of `a`. -/
def placesOf (a b : List Char) : List Nat :=
  a.zipIdx.foldl (fun taken (c, i) =>
    let near := fun j => i ≤ j + searchRange a b && j ≤ i + searchRange a b
    match (List.range b.length).find? fun j => near j && b[j]? = some c && !taken.contains j with
    | some j => taken ++ [j]
    | none => taken) []

/-- How similar two words are, between zero and one: the mean of the share of each word that is in
the other, and the share of these characters that are in the same order. -/
def similarity (a b : List Char) : Binary64 :=
  let places := placesOf a b
  let matching := places.length
  if a = [] && b = [] then .ofNat 1
  else if matching = 0 then .zero
  else
    let moved := ((places.zip (places.mergeSort)).filter fun (i, j) => b[i]? ≠ b[j]?).length / 2
    let share := fun (n d : Nat) => Binary64.ofNat n / Binary64.ofNat d
    (share matching a.length + share matching b.length + share (matching - moved) matching) /
      .ofNat 3

/-- How similar a word has to be to be suggested. -/
def leastSimilarity : Binary64 := .ofQuotient false 7 10

/-- The names that are similar to a word, the most similar last. -/
def similarTo (word : String) (names : List String) : List String :=
  let rated := names.map fun name => ((similarity word.toList name.toList).magnitude, name)
  ((rated.filter fun r => leastSimilarity.magnitude < r.1).mergeSort fun r s => r.1 ≤ s.1).map
    Prod.snd

end LossProbe.CommandLine
