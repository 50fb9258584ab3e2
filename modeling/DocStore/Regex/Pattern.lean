import DocStore.Regex.Class
/-!
# Patterns and where they match

A `Pattern` denotes, for a given text, the pairs of positions between which it matches. Patterns are
put together by `Pattern.ofSet`, `Pattern.sequence`, `Pattern.alternatives` and `Pattern.repeated`,
which keep them in a simple form: sequences and alternatives are flat, neighbouring literals are
joined, and what can only be one character out of a set is a set.

Matching works on sets of positions, which are bit masks: `Pattern.reach` takes the positions where
a match may begin to the positions where it may end. A repetition is iterated until nothing new can
come, which is at most once for every position.

* `Pattern.isMatch` says whether a pattern matches anywhere in a text.
-/

namespace DocStore.Regex

/-- A condition on the characters before and after a position. -/
inductive Look where
  | textStart
  | textEnd
  | lineStart
  | lineEnd
  | lineStartCrlf
  | lineEndCrlf
  | wordBoundary
  | notWordBoundary
  | wordStart
  | wordEnd
  | wordStartHalf
  | wordEndHalf
  deriving DecidableEq

/-- A pattern. Groups that capture are numbered, and a repetition prefers more or fewer rounds;
neither decides whether there is a match. -/
inductive Pattern where
  | empty
  | literal (text : List Char)
  | chars (set : CharSet)
  | look (condition : Look) (word : CharSet)
  | capture (index : Nat) (body : Pattern)
  | rep (body : Pattern) (least : Nat) (most : Option Nat) (greedy : Bool)
  | concat (parts : List Pattern)
  | alternation (branches : List Pattern)

namespace Look

/-- Whether the condition holds between two neighbours, where `none` is an end of the text. -/
def holds (word : CharSet) (before after : Option Char) : Look → Bool
  | .textStart => before.isNone
  | .textEnd => after.isNone
  | .lineStart => before.isNone || before == some '\n'
  | .lineEnd => after.isNone || after == some '\n'
  | .lineStartCrlf =>
    before.isNone || before == some '\n' || (before == some '\r' && after != some '\n')
  | .lineEndCrlf =>
    after.isNone || after == some '\r' || (after == some '\n' && before != some '\r')
  | .wordBoundary => before.any word.mem != after.any word.mem
  | .notWordBoundary => before.any word.mem == after.any word.mem
  | .wordStart => !before.any word.mem && after.any word.mem
  | .wordEnd => before.any word.mem && !after.any word.mem
  | .wordStartHalf => !before.any word.mem
  | .wordEndHalf => !after.any word.mem

end Look

namespace Pattern

/-! ## Lengths

Lengths of matches are counted in UTF-8 bytes. A pattern that cannot match has no least length, and
one without a bound has no greatest length. -/

/-- The number of UTF-8 bytes of a code point. -/
def utf8Length (n : Nat) : Nat := if n < 0x80 then 1 else if n < 0x800 then 2 else
  if n < 0x10000 then 3 else 4

mutual

def minLength : Pattern → Option Nat
  | empty => some 0
  | literal text => some (text.foldl (fun n c => n + c.utf8Size) 0)
  | chars set => set.ranges.head?.map fun r => utf8Length r.1
  | look _ _ => some 0
  | capture _ body => body.minLength
  | rep body least _ _ => body.minLength.map (· * least)
  | concat parts => minLengthAll parts
  | alternation branches => minLengthAny branches

/-- The least length of a sequence. -/
def minLengthAll : List Pattern → Option Nat
  | [] => some 0
  | p :: ps => do
    let n ← p.minLength
    let m ← minLengthAll ps
    return n + m

/-- The least length of alternatives. -/
def minLengthAny : List Pattern → Option Nat
  | [] => none
  | [p] => p.minLength
  | p :: ps => do
    let n ← p.minLength
    let m ← minLengthAny ps
    return min n m

end

mutual

def maxLength : Pattern → Option Nat
  | empty => some 0
  | literal text => some (text.foldl (fun n c => n + c.utf8Size) 0)
  | chars set => set.ranges.getLast?.map fun r => utf8Length r.2
  | look _ _ => some 0
  | capture _ body => body.maxLength
  | rep body _ most _ => do
    let n ← most
    let m ← body.maxLength
    return n * m
  | concat parts => maxLengthAll parts
  | alternation branches => maxLengthAny branches

/-- The greatest length of a sequence. -/
def maxLengthAll : List Pattern → Option Nat
  | [] => some 0
  | p :: ps => do
    let n ← p.maxLength
    let m ← maxLengthAll ps
    return n + m

/-- The greatest length of alternatives. -/
def maxLengthAny : List Pattern → Option Nat
  | [] => none
  | [p] => p.maxLength
  | p :: ps => do
    let n ← p.maxLength
    let m ← maxLengthAny ps
    return max n m

end

/-- Whether the pattern matches the empty text alone, if anything. -/
def isEmptyOnly (p : Pattern) : Bool := p.maxLength == some 0

/-! ## Equality -/

mutual

/-- Whether two patterns are the same. -/
def same : Pattern → Pattern → Bool
  | empty, empty => true
  | literal a, literal b => a == b
  | chars a, chars b => a == b
  | look a v, look b w => a == b && v == w
  | capture i p, capture j q => i == j && same p q
  | rep p k m g, rep q l n h => k == l && m == n && g == h && same p q
  | concat ps, concat qs => sameAll ps qs
  | alternation ps, alternation qs => sameAll ps qs
  | _, _ => false

def sameAll : List Pattern → List Pattern → Bool
  | [], [] => true
  | p :: ps, q :: qs => same p q && sameAll ps qs
  | _, _ => false

end

/-! ## Building patterns -/

/-- The pattern of one character out of a set. -/
def ofSet (set : CharSet) : Pattern :=
  match set.ranges with
  | [(low, high)] => if low = high then literal [Char.ofNat low] else chars set
  | _ => chars set

/-- Joins neighbouring literals. -/
def joinLiterals : List Pattern → List Pattern
  | [] => []
  | p :: ps =>
    match p, joinLiterals ps with
    | literal a, literal b :: rest => literal (a ++ b) :: rest
    | p, rest => p :: rest

/-- The parts of a pattern as a sequence. -/
def parts : Pattern → List Pattern
  | empty => []
  | concat ps => ps
  | p => [p]

/-- The patterns one after the other. -/
def sequence (ps : List Pattern) : Pattern :=
  match joinLiterals (ps.flatMap parts) with
  | [] => empty
  | [p] => p
  | ps => concat ps

/-- The body a number of times. What matches the empty text alone need not be repeated. -/
def repeated (body : Pattern) (least : Nat) (most : Option Nat) (greedy : Bool) : Pattern :=
  let (least, most) :=
    if body.isEmptyOnly then (min least 1, some (min (most.getD 1) 1)) else (least, most)
  if most = some 0 then empty
  else if least = 1 ∧ most = some 1 then body
  else rep body least most greedy

/-- The alternatives of a pattern. -/
def branches : Pattern → List Pattern
  | alternation ps => ps
  | p => [p]

/-- The set of a pattern that is one given character. -/
def singleton? : Pattern → Option (List (Nat × Nat))
  | literal [c] => some [(c.toNat, c.toNat)]
  | _ => none

def set? : Pattern → Option (List (Nat × Nat))
  | chars set => some set.ranges
  | _ => none

/-- The union of sets that stand for all patterns of a list. -/
def unionOf? (set? : Pattern → Option (List (Nat × Nat))) (ps : List Pattern) : Option CharSet :=
  (ps.mapM set?).map fun sets => CharSet.ofRanges sets.flatten

/-- Any of several patterns. Characters alone and sets alone are joined to one set. -/
def anyOf (ps : List Pattern) : Pattern :=
  match ps.flatMap branches with
  | [] => chars .empty
  | [p] => p
  | ps =>
    match unionOf? singleton? ps, unionOf? set? ps with
    | some set, _ => ofSet set
    | none, some set => ofSet set
    | none, none => alternation ps

/-- The longest list with which two lists of patterns begin. -/
def commonPrefix : List Pattern → List Pattern → List Pattern
  | p :: ps, q :: qs => if same p q then p :: commonPrefix ps qs else []
  | _, _ => []

/-- The parts with which all patterns begin, if all are sequences. -/
def sharedParts : List Pattern → List Pattern
  | [] => []
  | [concat ps] => ps
  | concat ps :: rest => commonPrefix ps (sharedParts rest)
  | _ :: _ => []

/-- Any of several patterns. Parts with which all alternatives begin come before the choice. -/
def alternatives (ps : List Pattern) : Pattern :=
  match anyOf ps with
  | alternation ps =>
    match sharedParts ps with
    | [] => alternation ps
    | shared =>
      let rests := ps.map fun p => sequence (p.parts.drop shared.length)
      sequence (shared ++ [anyOf rests])
  | p => p

end Pattern

/-! ## Matching -/

/-- Applies a step a number of times, or until it changes nothing. -/
def iterate (step : Nat → Nat) : Nat → Nat → Nat
  | 0, s => s
  | n + 1, s =>
    let t := step s
    if t = s then s else iterate step n t

/-- The mask of the positions below a bound at which a test holds. -/
def maskWhere (bound : Nat) (test : Nat → Bool) : Nat :=
  (List.range bound).foldl (fun mask i => if test i then mask ||| 1 <<< i else mask) 0

namespace Pattern

/-- The positions after one character that passes a test. -/
def reachChar (text : Array Char) (test : Char → Bool) (s : Nat) : Nat :=
  (s &&& maskWhere text.size fun i => text[i]?.any test) <<< 1

mutual

/-- The positions where a match that begins in a set of positions may end. -/
def reach (text : Array Char) : Pattern → Nat → Nat
  | empty, s => s
  | literal cs, s => cs.foldl (fun s c => if s = 0 then 0 else reachChar text (· == c) s) s
  | chars set, s => reachChar text set.mem s
  | look condition word, s =>
    s &&& maskWhere (text.size + 1) fun i =>
      condition.holds word (if i = 0 then none else text[i - 1]?) text[i]?
  | capture _ body, s => reach text body s
  | rep body least most _, s =>
    let enough := text.size + 2
    let start := iterate (reach text body) (min least enough) s
    let more := match most with
      | some most => min (most - least) enough
      | none => enough
    iterate (fun s => s ||| reach text body s) more start
  | concat ps, s => reachAll text ps s
  | alternation ps, s => reachAny text ps s

/-- The positions after a sequence. -/
def reachAll (text : Array Char) : List Pattern → Nat → Nat
  | [], s => s
  | p :: ps, s => reachAll text ps (reach text p s)

/-- The positions after any of the alternatives. -/
def reachAny (text : Array Char) : List Pattern → Nat → Nat
  | [], _ => 0
  | p :: ps, s => reach text p s ||| reachAny text ps s

end

/-- Whether the pattern matches somewhere in a text. -/
def isMatch (pattern : Pattern) (text : String) : Bool :=
  let chars := text.toList.toArray
  pattern.reach chars (1 <<< (chars.size + 1) - 1) != 0

end Pattern

end DocStore.Regex
