import DocStore.StableSort.Merge
/-!
# Runs

A run is a stretch of the list under sorting that is known to be in order, or that is left to be
sorted later together with its neighbours. `mergeRuns` cuts a list into runs from the left and joins
neighbours as the levels of a balanced tree over the list demand, so that each record takes part in
few merges and long ordered stretches are merged as they are.
-/

namespace DocStore

/-- A stretch of records, in order or not yet. -/
structure Run (ρ : Type) where
  records : List ρ
  sorted : Bool

namespace Run

variable {m : Type → Type} [Monad m] {ρ : Type}

def size (run : Run ρ) : Nat := run.records.length

/-- The records of a run in order. -/
def settle (sort : List ρ → m (List ρ)) (run : Run ρ) : m (List ρ) :=
  if run.sorted then return run.records else sort run.records

/-- Joins two neighbours. Two runs that are not in order stay so, as one. -/
def join (less : Precedes m ρ) (sort : List ρ → m (List ρ)) (a b : Run ρ) : m (Run ρ) := do
  if a.sorted || b.sorted then
    let left ← a.settle sort
    let right ← b.settle sort
    let merged ← StableSort.merge less left right
    return ⟨merged, true⟩
  else
    return ⟨a.records ++ b.records, false⟩

/-- Extends a stretch beyond its last record, as long as each record stands strictly before the one
to its left, or as long as none does. -/
def extend (less : Precedes m ρ) (descending : Bool) (last : ρ) : List ρ → m (List ρ × List ρ)
  | [] => return ([last], [])
  | x :: xs => do
    let (before, x, last) ← less x last
    if before == descending then
      let (run, rest) ← extend less descending x xs
      return (last :: run, rest)
    else
      return ([last], x :: xs)

/-- The longest stretch at the front that ascends or strictly descends, and what follows it. -/
def leading (less : Precedes m ρ) : List ρ → m (Bool × List ρ × List ρ)
  | x :: y :: rest => do
    let (descending, y, x) ← less y x
    let (run, rest) ← extend less descending y rest
    return (descending, x :: run, rest)
  | records => return (false, records, [])

/-- Cuts a run off the front: an ordered stretch if there is one of `good` records or more, else
`fresh` says which records to take. -/
def next (less : Precedes m ρ) (good : Nat) (fresh : List ρ → m (Run ρ × List ρ))
    (records : List ρ) : m (Run ρ × List ρ) := do
  if good ≤ records.length then
    let (descending, run, rest) ← leading less records
    if good ≤ run.length then
      return (⟨if descending then run.reverse else run, true⟩, rest)
    else
      fresh (run ++ rest)
  else
    fresh records

end Run

namespace StableSort

variable {m : Type → Type} [Monad m] {ρ : Type}

/-- Runs of this many records are sorted by insertion. -/
def smallSize : Nat := 16

/-- A number near the square root: the mean of two powers of two that have it between them, the
second one corrected by the number. -/
def nearSqrt (n : Nat) : Nat :=
  let shift := (1 + n.log2) / 2
  ((1 <<< shift) + (n >>> shift)) / 2

/-- The size from which an ordered stretch of a list of `n` records is worth being kept. -/
def goodSize (n : Nat) : Nat := if n ≤ 4096 then min (n - n / 2) 64 else nearSqrt n

/-- The level at which two neighbouring runs, from `left` to `mid` and from `mid` to `right`, part
in a balanced tree over `n` records: the number of binary digits that their middles share, as
fractions of the list. -/
def level (n left mid right : Nat) : Nat :=
  let scale := (1 <<< 62 + n - 1) / n
  let apart := (scale * (left + mid)) ^^^ (scale * (mid + right))
  if apart = 0 then 64 else 63 - apart.log2

/-- Joins a run with the ones to its left whose level is not below a given one. -/
def collapse (join : Run ρ → Run ρ → m (Run ρ)) (depth : Nat) :
    List (Run ρ × Nat) → Run ρ → m (List (Run ρ × Nat) × Run ρ)
  | [], run => return ([], run)
  | (left, d) :: stack, run => do
    if depth ≤ d then
      let joined ← join left run
      collapse join depth stack joined
    else
      return ((left, d) :: stack, run)

/-- Cuts the rest of a list into runs and joins all of them. `stack` holds the runs before `run`,
the nearest first, each with the level at which it parts from the next; `scanned` counts the records
before the rest. Each run takes a record at least, so the length of the rest is `fuel` enough. -/
def joinAll (join : Run ρ → Run ρ → m (Run ρ)) (next : List ρ → m (Run ρ × List ρ)) (n : Nat) :
    (fuel : Nat) → List (Run ρ × Nat) → (scanned : Nat) → Run ρ → List ρ → m (Run ρ)
  | 0, stack, _, run, rest => do
    let (_, run) ← collapse join 0 stack run
    join run ⟨rest, false⟩
  | _ + 1, stack, _, run, [] => do
    let (_, run) ← collapse join 0 stack run
    return run
  | fuel + 1, stack, scanned, run, x :: xs => do
    let (following, rest) ← next (x :: xs)
    let scanned' := scanned + following.size
    let depth := level n (scanned - run.size) scanned scanned'
    let (stack, run) ← collapse join depth stack run
    joinAll join next n fuel ((run, depth) :: stack) scanned' following rest

/-- Sorts a list by its runs; `sort` is for the ones that are not in order. -/
def mergeRuns (less : Precedes m ρ) (sort : List ρ → m (List ρ))
    (fresh : List ρ → m (Run ρ × List ρ)) (records : List ρ) : m (List ρ) := do
  let n := records.length
  if n < 2 then
    return records
  let next := Run.next less (goodSize n) fresh
  let (first, rest) ← next records
  let run ← joinAll (Run.join less sort) next n n [] first.size first rest
  run.settle sort

/-- Sorts a list by runs that are all in order: short ones are made by insertion. -/
def mergeSort (less : Precedes m ρ) (records : List ρ) : m (List ρ) :=
  let fresh (records : List ρ) : m (Run ρ × List ρ) := do
    let sorted ← insertionSort less (records.take smallSize)
    return (⟨sorted, true⟩, records.drop smallSize)
  mergeRuns less (insertionSort less) fresh records

end StableSort

end DocStore
