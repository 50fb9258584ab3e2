import DocStore.Regex.ByteRange
import Std.Data.HashMap
/-!
# The size of the automaton of a pattern

A pattern stands for an automaton over bytes that reads it forwards, and for one that reads it
backwards. A pattern for which one of them takes more than `Automaton.limit` bytes is refused:
`Pattern.isTooLarge`. Only sizes matter here, so an automaton is counted and not kept, and counting
stops once the limit is passed.

Every state takes 32 bytes, with 8 more for each range of bytes on which it moves and 4 more for
each choice that it offers; states that go on in a single way have no such list. States are numbered
in the order in which they are added. The states of a set of characters share common ends, as far as
a table with a fixed number of places remembers them.
-/

namespace DocStore.Regex

namespace Automaton

/-- The greatest number of bytes that an automaton may take. -/
def limit : Nat := 10485760

/-- The states of an automaton, and the bytes of their moves and choices. -/
structure Size where
  states : Nat
  listed : Nat

namespace Size

def bytes (size : Size) : Nat := 32 * size.states + size.listed

def isTooLarge (size : Size) : Bool := limit < size.bytes

def addStates (size : Size) (n : Nat) : Size := { size with states := size.states + n }

def addMoves (size : Size) (n : Nat) : Size := { size with listed := size.listed + 8 * n }

def addChoices (size : Size) (n : Nat) : Size := { size with listed := size.listed + 4 * n }

/-- Goes on from a state, which takes one more choice if the state offers choices. -/
def leave (size : Size) (offers : Bool) : Size := if offers then size.addChoices 1 else size

end Size

/-! ## Sets of characters -/

/-- A place among a number of them for a list of numbers. -/
def placeOf (places : Nat) (key : List Nat) : Nat :=
  let hash := key.foldl (fun hash n => (hash ^^^ UInt64.ofNat n) * 1099511628211)
    (14695981039346656037 : UInt64)
  hash.toNat % places

/-- A move on a range of bytes to a state. -/
structure Move where
  range : ByteRange
  target : Nat
  deriving DecidableEq

/-- The states that were added for a set, by the moves that they offer. -/
structure Sharing where
  size : Size
  known : Std.HashMap Nat (List Move × Nat)

/-- A state with some moves: one that is remembered, or a new one. -/
def Sharing.state (sharing : Sharing) (moves : List Move) : Nat × Sharing :=
  let place := placeOf 10000 (moves.flatMap fun m => [m.range.first, m.range.last, m.target])
  let fresh := sharing.size.states
  let added : Sharing :=
    ⟨(sharing.size.addStates 1).addMoves moves.length, sharing.known.insert place (moves, fresh)⟩
  match sharing.known[place]? with
  | some (found, state) => if found = moves then (state, sharing) else (fresh, added)
  | none => (fresh, added)

/-- A state that is not complete: its finished moves, and a last one whose target is not known. -/
structure Draft where
  moves : List Move
  pending : Option ByteRange

/-- All moves, the last one to a state. -/
def Draft.finish (draft : Draft) (target : Nat) : List Move :=
  match draft.pending with
  | some range => draft.moves ++ [⟨range, target⟩]
  | none => draft.moves

/-- Completes a chain of drafts, of which the last one leads to the final state. -/
def complete (final : Nat) : List Draft → Sharing → Nat × Sharing
  | [], sharing => (final, sharing)
  | draft :: drafts, sharing =>
    let (target, sharing) := complete final drafts sharing
    sharing.state (draft.finish target)

/-- Adds a sequence of byte ranges to a chain of drafts. What it does not share with the sequence
before is complete then. -/
def addSequence (final : Nat) : List Draft → List ByteRange → Sharing → List Draft × Sharing
  | draft :: drafts, range :: ranges, sharing =>
    if draft.pending = some range then
      let (drafts, sharing) := addSequence final drafts ranges sharing
      (draft :: drafts, sharing)
    else
      let (target, sharing) := complete final drafts sharing
      (⟨draft.finish target, some range⟩ :: ranges.map fun r => ⟨[], some r⟩, sharing)
  | drafts, _, sharing => (drafts, sharing)

/-- Adds a set that is read forwards. Common ends of its sequences are shared. -/
def addForwards (set : CharSet) (size : Size) : Size :=
  let final := size.states
  let (drafts, sharing) := (ByteRange.ofSet set).foldl
    (fun (drafts, sharing) ranges => addSequence final drafts ranges sharing)
    ([⟨[], none⟩], ⟨size.addStates 1, ∅⟩)
  (complete final drafts sharing).2.size

/-- The states that were added for a set that is read backwards, by their only move. -/
structure Threads where
  size : Size
  known : Std.HashMap Nat (Move × Nat)

/-- Puts a state before another one, unless it is remembered. -/
def Threads.before (threads : Threads) (range : ByteRange) (target : Nat) : Nat × Threads :=
  let place := placeOf 1000 [target, range.first, range.last]
  let fresh := threads.size.states
  let added : Threads :=
    ⟨threads.size.addStates 1, threads.known.insert place (⟨range, target⟩, fresh)⟩
  match threads.known[place]? with
  | some (found, state) => if found = ⟨range, target⟩ then (state, threads) else (fresh, added)
  | none => (fresh, added)

/-- Adds a set that is read backwards: a choice among its sequences, which share their ends. -/
def addBackwards (set : CharSet) (size : Size) : Size :=
  let final := size.states + 1
  let threads := (ByteRange.ofSet set).foldl
    (fun threads ranges =>
      let (_, threads) := ranges.foldl
        (fun (target, threads) range => Threads.before threads range target) (final, threads)
      { threads with size := threads.size.addChoices 1 })
    (⟨size.addStates 2, ∅⟩ : Threads)
  threads.size

/-- Adds a set of characters. A set of ASCII characters is one state. -/
def addSet (backwards : Bool) (set : CharSet) (size : Size) : Size :=
  if set.isAscii then (size.addStates 2).addMoves set.ranges.length
  else if backwards then addBackwards set size
  else addForwards set size

/-! ## Alternatives of literals

They form a tree, in which words that begin alike share states. The order of preference is kept: a
word that ends at a node closes the branches that were there before it. -/

/-- The branches of a node in groups, in reverse, with the one that is still open. -/
structure Branches where
  closed : List (List (List Nat))
  current : List (List Nat)

namespace Branches

def isLeaf (branches : Branches) : Bool :=
  branches.current.isEmpty && branches.closed.all List.isEmpty

/-- Adds a word to a node. -/
def add (branches : Branches) (word : List Nat) : Branches :=
  if !word.isEmpty then { branches with current := branches.current ++ [word] }
  else if branches.isLeaf && !branches.closed.isEmpty then branches
  else ⟨branches.current :: branches.closed, []⟩

def ofWords (words : List (List Nat)) : Branches := words.foldl add ⟨[], []⟩

end Branches

/-- The words of a group that begin with each byte, without that byte. -/
def byFirst : List (List Nat) → List (Nat × List (List Nat))
  | [] => []
  | [] :: words => byFirst words
  | (b :: rest) :: words =>
    let groups := byFirst words
    match groups.find? fun g => g.1 == b with
    | some g => (b, rest :: g.2) :: groups.filter fun h => h.1 != b
    | none => (b, [rest]) :: groups

/-- Adds a node of the tree with everything below it, down to a depth. -/
def addNode : Nat → List (List Nat) → Size → Size
  | 0, _, size => size
  | depth + 1, words, size =>
    let branches := Branches.ofWords words
    let groups := (branches.current :: branches.closed).filter fun g => !g.isEmpty
    let size := (size.addStates 1).addChoices (groups.length + branches.closed.length)
    groups.foldl
      (fun size group =>
        let children := byFirst group
        let size := size.addStates 1
        let size := if children.length = 1 then size else size.addMoves children.length
        children.foldl
          (fun size child => if child.2.all List.isEmpty then size else addNode depth child.2 size)
          size)
      size

/-- Adds alternatives of literals, given by their bytes. -/
def addWords (words : List (List Nat)) (size : Size) : Size :=
  addNode ((words.map List.length).foldl max 0) words (size.addStates 1)

/-! ## Patterns -/

/-- The UTF-8 bytes of a text. -/
def bytesOf (text : List Char) : List Nat := text.flatMap fun c => ByteRange.encode c.toNat

/-- The texts of patterns that are all literals. -/
def literals? (ps : List Pattern) : Option (List (List Char)) :=
  ps.mapM fun
    | .literal text => some text
    | _ => none

/-- Adds something a number of times in sequence. -/
def addTimes (add : Size → Size × Bool) : Nat → Bool → Size → Size × Bool
  | 0, offers, size => (size, offers)
  | n + 1, offers, size =>
    if size.isTooLarge then (size, offers)
    else
      let (size, next) := add size
      addTimes add n next (size.leave offers)

/-- Adds something exactly a number of times; no time at all is one state. -/
def addExactly (add : Size → Size × Bool) (n : Nat) (size : Size) : Size × Bool :=
  if n = 0 then (size.addStates 1, false) else addTimes add n false size

/-- Adds something a number of times, each after a choice to stop. -/
def addOptional (add : Size → Size × Bool) : Nat → Bool → Size → Size
  | 0, offers, size => size.leave offers
  | n + 1, offers, size =>
    if size.isTooLarge then size
    else
      let (size, next) := add (size.addStates 1)
      addOptional add n next ((size.leave offers).addChoices 2)

/-- Adds a repetition of a body, of which it is known whether it can match the empty text. -/
def addRepetition (add : Size → Size × Bool) (canBeEmpty : Bool) (least : Nat) (most : Option Nat)
    (size : Size) : Size × Bool :=
  match least, most with
  | 0, some 1 =>
    let (size, offers) := add (size.addStates 1)
    (((size.addStates 1).addChoices 2).leave offers, false)
  | 0, none =>
    if canBeEmpty then
      let (size, offers) := add size
      (((size.addStates 3).addChoices 4).leave offers, false)
    else
      let (size, offers) := add (size.addStates 1)
      ((size.addChoices 1).leave offers, true)
  | n + 1, none =>
    let (size, before) := if n = 0 then (size, false) else addExactly add n size
    let (size, offers) := add size
    ((((size.addStates 1).addChoices 1).leave before).leave offers, true)
  | least, some most =>
    let (size, offers) := addExactly add least size
    if most ≤ least then (size, offers)
    else (addOptional add (most - least) offers (size.addStates 1), false)

mutual

/-- Adds a pattern. The second part of the result is whether its last state offers choices. -/
def addPattern (backwards : Bool) : Pattern → Size → Size × Bool
  | .empty, size => (size.addStates 1, false)
  | .literal text, size => (size.addStates (bytesOf text).length, false)
  | .chars set, size => (addSet backwards set size, false)
  | .look _ _, size => (size.addStates 1, false)
  | .capture _ body, size =>
    if backwards then addPattern backwards body size
    else
      let (size, offers) := addPattern backwards body (size.addStates 1)
      ((size.addStates 1).leave offers, false)
  | .rep body least most _, size =>
    addRepetition (addPattern backwards body) (body.minLength.all (· == 0)) least most size
  | .concat parts, size =>
    if backwards then addBefore backwards parts size else addAfter backwards parts false size
  | .alternation branches, size =>
    match literals? branches with
    | some texts =>
      let words := texts.map bytesOf
      (addWords (if backwards then words.map List.reverse else words) size, false)
    | none => (addBranches backwards branches 0 size, false)

/-- Adds the parts of a sequence, the first one first. -/
def addAfter (backwards : Bool) : List Pattern → Bool → Size → Size × Bool
  | [], offers, size => (size, offers)
  | p :: ps, offers, size =>
    let (size, next) := addPattern backwards p size
    addAfter backwards ps next (size.leave offers)

/-- Adds the parts of a sequence, the last one first. -/
def addBefore (backwards : Bool) : List Pattern → Size → Size × Bool
  | [], size => (size, false)
  | p :: ps, size =>
    let (size, offers) := addBefore backwards ps size
    let (size, next) := addPattern backwards p size
    (size.leave offers, next)

/-- Adds alternatives. The states that begin and end them are added after the second one. -/
def addBranches (backwards : Bool) : List Pattern → Nat → Size → Size
  | [], _, size => size
  | p :: ps, index, size =>
    let (size, offers) := addPattern backwards p size
    let size := if index = 1 then size.addStates 2 else size
    addBranches backwards ps (index + 1) ((size.addChoices 1).leave offers)

end

end Automaton

namespace Pattern

mutual

/-- Whether every match begins at the start of the text because of a condition in front. -/
def beginsAtStart : Pattern → Bool
  | look condition _ => condition == .textStart
  | capture _ body => body.beginsAtStart
  | rep body least _ _ => 0 < least && body.beginsAtStart
  | concat ps => beginsAtStartAll ps
  | alternation ps => beginsAtStartAny ps
  | _ => false

def beginsAtStartAll : List Pattern → Bool
  | [] => false
  | p :: ps => p.beginsAtStart || (p.isEmptyOnly && beginsAtStartAll ps)

def beginsAtStartAny : List Pattern → Bool
  | [] => true
  | p :: ps => p.beginsAtStart && beginsAtStartAny ps

end

mutual

/-- Whether every match ends at the end of the text because of a condition at its end. -/
def finishesAtEnd : Pattern → Bool
  | look condition _ => condition == .textEnd
  | capture _ body => body.finishesAtEnd
  | rep body least _ _ => 0 < least && body.finishesAtEnd
  | concat ps => finishesAtEndAll ps
  | alternation ps => finishesAtEndAny ps
  | _ => false

def finishesAtEndAll : List Pattern → Bool
  | [] => false
  | p :: ps => finishesAtEndAll ps || (ps.all isEmptyOnly && p.finishesAtEnd)

def finishesAtEndAny : List Pattern → Bool
  | [] => true
  | p :: ps => p.finishesAtEnd && finishesAtEndAny ps

end

/-- The size of the automaton of a pattern. A match may begin anywhere, which takes three states
more, unless the pattern is bound to the end of the text at which reading begins. -/
def automatonSize (backwards : Bool) (p : Pattern) : Automaton.Size :=
  let isBound := if backwards then p.finishesAtEnd else p.beginsAtStart
  let start : Automaton.Size :=
    if isBound then ⟨1, 0⟩ else ((⟨3, 0⟩ : Automaton.Size).addMoves 1).addChoices 2
  let (size, offers) := Automaton.addPattern backwards (capture 0 p) start
  (size.addStates 1).leave offers

/-- Whether a pattern is refused because of the size of its automata. -/
def isTooLarge (p : Pattern) : Bool :=
  (p.automatonSize false).isTooLarge || (p.automatonSize true).isTooLarge

end Pattern

end DocStore.Regex
