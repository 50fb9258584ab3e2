import DocStore.StableSort.Run
/-!
# Stable sorting

`stableSort` chooses by the length: short lists are sorted by insertion, those of two small runs by
merging, and in longer ones the ordered stretches are merged and the others sorted by partition.

`partitionSort` splits a list around a pivot and sorts both parts, keeping the records of each part
in their order. The pivot is a median of three records, or of medians in a long list. If no record
stands before the pivot, those that tie with it are in place and only the greater ones are left.
After too many splits the rest is sorted by its runs, so the work stays within bounds whatever the
pivots are.
-/

namespace DocStore

namespace StableSort

variable {m : Type → Type} [Monad m] {ρ : Type}

/-- Compares the records at two places of a list. -/
def lessAt (less : Precedes m ρ) (i j : Nat) (records : List ρ) : m (Bool × List ρ) :=
  match records[i]?, records[j]? with
  | some x, some y => do
    let (before, x, y) ← less x y
    return (before, (records.set i x).set j y)
  | _, _ => return (false, records)

/-- Which of three places holds the median. -/
def median (less : Precedes m ρ) (a b c : Nat) (records : List ρ) : m (Nat × List ρ) := do
  let (ab, records) ← lessAt less a b records
  let (ac, records) ← lessAt less a c records
  if ab == ac then
    let (bc, records) ← lessAt less b c records
    return (if bc == ab then b else c, records)
  else
    return (a, records)

/-- The median of three places, each of which stands for a stretch of `n` records: from a stretch of
8 records or more comes a median of its own. -/
def medianOfStretches (less : Precedes m ρ) (a b c n : Nat) (records : List ρ) :
    m (Nat × List ρ) := do
  if 8 ≤ n then
    let k := n / 8
    let (a, records) ← medianOfStretches less a (a + 4 * k) (a + 7 * k) k records
    let (b, records) ← medianOfStretches less b (b + 4 * k) (b + 7 * k) k records
    let (c, records) ← medianOfStretches less c (c + 4 * k) (c + 7 * k) k records
    median less a b c records
  else
    median less a b c records
termination_by n

/-- The place of the pivot of a list. -/
def pivotPlace (less : Precedes m ρ) (records : List ρ) : m (Nat × List ρ) :=
  let n := records.length / 8
  medianOfStretches less 0 (4 * n) (7 * n) n records

/-- Splits a list by a test against the pivot into those that pass and the others, each in order. -/
def split (test : Precedes m ρ) (pivot : ρ) : List ρ → m (List ρ × List ρ × ρ)
  | [] => return ([], [], pivot)
  | x :: xs => do
    let (passes, x, pivot) ← test x pivot
    let (yes, no, pivot) ← split test pivot xs
    return if passes then (x :: yes, no, pivot) else (yes, x :: no, pivot)

/-- Whether the first record does not stand after the second. -/
def notAfter (less : Precedes m ρ) : Precedes m ρ := fun x y => do
  let (after, y, x) ← less y x
  return (!after, x, y)

/-- Sorts a list by partition, with at most `limit` splits in a row. -/
def partitionSort (less : Precedes m ρ) : (limit : Nat) → List ρ → m (List ρ)
  | limit, records => do
    if records.length ≤ smallSize then
      insertionSort less records
    else
      match limit with
      | 0 => mergeSort less records
      | limit + 1 =>
        let (place, records) ← pivotPlace less records
        match records.drop place with
        | [] => mergeSort less records
        | pivot :: after =>
          let (below₁, above₁, pivot) ← split less pivot (records.take place)
          let (below₂, above₂, pivot) ← split less pivot after
          if below₁.isEmpty && below₂.isEmpty then
            let (ties₁, greater₁, pivot) ← split (notAfter less) pivot above₁
            let (ties₂, greater₂, pivot) ← split (notAfter less) pivot above₂
            let greater ← partitionSort less limit (greater₁ ++ greater₂)
            return ties₁ ++ pivot :: ties₂ ++ greater
          else
            let right ← partitionSort less limit (above₁ ++ pivot :: above₂)
            let left ← partitionSort less limit (below₁ ++ below₂)
            return left ++ right

end StableSort

open StableSort

variable {m : Type → Type} [Monad m] {ρ : Type}

/-- Sorts a list; records that tie keep their order. -/
def stableSort (less : Precedes m ρ) (records : List ρ) : m (List ρ) :=
  let n := records.length
  if n ≤ 20 then
    insertionSort less records
  else if n ≤ 2 * smallSize then
    mergeSort less records
  else
    let sort (records : List ρ) := partitionSort less (2 * records.length.log2) records
    let fresh (records : List ρ) : m (Run ρ × List ρ) :=
      return (⟨records.take (goodSize n), false⟩, records.drop (goodSize n))
    mergeRuns less sort fresh records

end DocStore
