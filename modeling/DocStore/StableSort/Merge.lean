/-!
# Insertion and merging

Stable sorting of records that may change when they are compared: a comparison answers whether its
first record stands strictly before its second one, and hands both back. Which pairs are compared,
and in which order, is therefore part of the result.

* `insertionSort` inserts the records one by one, each from the end of the sorted ones.
* `merge` merges two sorted lists, from the front if the left one is not the longer, else from the
  back. A record of the left list stays before those of the right one that tie with it.
-/

namespace DocStore

/-- Whether the first record stands strictly before the second, with both as they are afterwards. -/
abbrev Precedes (m : Type → Type) (ρ : Type) := ρ → ρ → m (Bool × ρ × ρ)

namespace StableSort

variable {m : Type → Type} [Monad m] {ρ : Type}

/-- Puts a record into a sorted list that stands in reverse: it moves past the greater ones at the
end. -/
def insert (less : Precedes m ρ) (x : ρ) : List ρ → m (List ρ)
  | [] => return [x]
  | y :: ys => do
    let (before, x, y) ← less x y
    if before then
      let ys ← insert less x ys
      return y :: ys
    else
      return x :: y :: ys

/-- The stable sort by insertion. -/
def insertionSort (less : Precedes m ρ) (records : List ρ) : m (List ρ) := do
  let sorted ← records.foldlM (fun sorted x => insert less x sorted) []
  return sorted.reverse

/-- Merges two sorted lists from the front. -/
def mergeFront (less : Precedes m ρ) : List ρ → List ρ → m (List ρ)
  | [], right => return right
  | left, [] => return left
  | x :: left, y :: right => do
    let (before, y, x) ← less y x
    if before then
      let rest ← mergeFront less (x :: left) right
      return y :: rest
    else
      let rest ← mergeFront less left (y :: right)
      return x :: rest
termination_by left right => left.length + right.length

/-- Merges two sorted lists that stand in reverse, the greatest record first. -/
def mergeBack (less : Precedes m ρ) : List ρ → List ρ → m (List ρ)
  | [], right => return right
  | left, [] => return left
  | x :: left, y :: right => do
    let (before, y, x) ← less y x
    if before then
      let rest ← mergeBack less left (y :: right)
      return x :: rest
    else
      let rest ← mergeBack less (x :: left) right
      return y :: rest
termination_by left right => left.length + right.length

/-- Merges two sorted lists, beginning at the end where the shorter one lies. -/
def merge (less : Precedes m ρ) (left right : List ρ) : m (List ρ) := do
  if left.length ≤ right.length then
    mergeFront less left right
  else
    let merged ← mergeBack less left.reverse right.reverse
    return merged.reverse

end StableSort

end DocStore
