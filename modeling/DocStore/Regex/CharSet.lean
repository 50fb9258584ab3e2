/-!
# Sets of characters

A `CharSet` is a list of disjoint ranges of code points in ascending order, with a gap between any
two. No range begins or ends with a surrogate, since no text holds one, but a range may run across
all of them.

`CharSet.ofTable` reads the tables of the standard: `41-5a` is a range in hexadecimal, `5f` a single
code point, and `100-12e/2` every second code point of a range.
-/

namespace DocStore.Regex

/-- The last code point. -/
def maxCode : Nat := 0x10FFFF

/-- The character after a code point; the surrogates are passed over. -/
def codeAfter (n : Nat) : Nat := if n = 0xD7FF then 0xE000 else n + 1

/-- The character before a code point; the surrogates are passed over. -/
def codeBefore (n : Nat) : Nat := if n = 0xE000 then 0xD7FF else n - 1

/-- Ranges of code points, both ends included. -/
structure CharSet where
  ranges : List (Nat × Nat)
  deriving DecidableEq

namespace CharSet

def empty : CharSet := ⟨[]⟩

def any : CharSet := ⟨[(0, maxCode)]⟩

def single (n : Nat) : CharSet := ⟨[(n, n)]⟩

/-- Whether a code point is in the set. -/
def holds (set : CharSet) (n : Nat) : Bool := set.ranges.any fun r => r.1 ≤ n && n ≤ r.2

def mem (set : CharSet) (c : Char) : Bool := set.holds c.toNat

/-- Joins ranges that touch or overlap, beginning with one; they are ordered by lower ends. -/
def mergeFrom (r : Nat × Nat) : List (Nat × Nat) → List (Nat × Nat)
  | [] => [r]
  | s :: rest =>
    if s.1 ≤ r.2 + 1 then mergeFrom (r.1, max r.2 s.2) rest else r :: mergeFrom s rest

def merge : List (Nat × Nat) → List (Nat × Nat)
  | [] => []
  | r :: rest => mergeFrom r rest

/-- The set of any list of ranges. -/
def ofRanges (ranges : List (Nat × Nat)) : CharSet :=
  ⟨merge (ranges.mergeSort fun a b => a.1 ≤ b.1)⟩

def union (a b : CharSet) : CharSet := ofRanges (a.ranges ++ b.ranges)

/-- What lies after a range, up to the next one or to the last code point. Where only surrogates
lie between two ranges, the ends are in the wrong order. -/
def gapsAfter (last : Nat) : List (Nat × Nat) → List (Nat × Nat)
  | [] => if last < maxCode then [(codeAfter last, maxCode)] else []
  | r :: rest => (codeAfter last, codeBefore r.1) :: gapsAfter r.2 rest

/-- What lies outside a list of ranges, with ends as in `gapsAfter`. -/
def gaps : List (Nat × Nat) → List (Nat × Nat)
  | [] => [(0, maxCode)]
  | r :: rest =>
    if 0 < r.1 then (0, codeBefore r.1) :: gapsAfter r.2 rest else gapsAfter r.2 rest

/-- The complement, in which ends that are in the wrong order change places: when one range ends
right before the surrogates and the next begins right after them, both neighbours of the surrogates
are in the complement as well. -/
def complement (set : CharSet) : CharSet :=
  ⟨(gaps set.ranges).map fun r => (min r.1 r.2, max r.1 r.2)⟩

/-- The common parts of two lists of ranges. -/
def overlaps : List (Nat × Nat) → List (Nat × Nat) → List (Nat × Nat)
  | [], _ => []
  | _ :: _, [] => []
  | r :: rs, s :: ss =>
    let later := if r.2 < s.2 then overlaps rs (s :: ss) else overlaps (r :: rs) ss
    if max r.1 s.1 ≤ min r.2 s.2 then (max r.1 s.1, min r.2 s.2) :: later else later
termination_by rs ss => rs.length + ss.length

def inter (a b : CharSet) : CharSet := ⟨overlaps a.ranges b.ranges⟩

def diff (a b : CharSet) : CharSet :=
  ⟨overlaps a.ranges ((gaps b.ranges).filter fun r => r.1 ≤ r.2)⟩

def symmDiff (a b : CharSet) : CharSet := (a.union b).diff (a.inter b)

/-- Whether the set holds ASCII characters only. -/
def isAscii (set : CharSet) : Bool := set.ranges.all fun r => r.2 < 128

end CharSet

/-- The number of hexadecimal digits in lower case. -/
def readHex (text : String) : Nat :=
  text.toList.foldl
    (fun n c => 16 * n + (if c.isDigit then c.toNat - '0'.toNat else c.toNat - 'a'.toNat + 10)) 0

/-- The range of a table entry without a step. -/
def readSpan (text : String) : Nat × Nat :=
  match text.splitOn "-" with
  | [low, high] => (readHex low, readHex high)
  | _ => (readHex text, readHex text)

/-- The ranges of a table entry; one with a step stands for single code points. -/
def readRange (entry : String) : List (Nat × Nat) :=
  match entry.splitOn "/" with
  | [text, step] =>
    let span := readSpan text
    let step := readHex step
    (List.range ((span.2 - span.1) / step + 1)).map fun i =>
      (span.1 + step * i, span.1 + step * i)
  | _ => [readSpan entry]

/-- The ranges of a table line, such as `41-5a 5f 100-12e/2`. -/
def readRanges (line : String) : List (Nat × Nat) :=
  ((line.splitOn " ").filter fun part => !part.isEmpty).flatMap readRange

/-- The set of a table of ranges. -/
def CharSet.ofTable (lines : List String) : CharSet := CharSet.ofRanges (lines.flatMap readRanges)

end DocStore.Regex
