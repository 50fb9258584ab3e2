import DocStore.Regex.Automaton
import DocStore.Text
/-!
# The syntax of patterns

Literals, classes, groups, alternatives, repetitions and conditions, in the usual notation. Groups
may be named and may set flags; bracketed classes nest and combine by `&&`, `--` and `~~`. There are
no references to groups and no look-around.

`Pattern.read?` gives the pattern of a text, or nothing when the text is not well formed or nested
too deeply. It reads from left to right with a stack of open groups; every step takes at least one
character. `Pattern.compile` also refuses patterns that are too large.
-/

namespace DocStore.Regex

/-- What the flags of a pattern say at a place. -/
structure Flags where
  ignoreCase : Bool
  multiLine : Bool
  dotAll : Bool
  crlf : Bool
  unicode : Bool
  verbose : Bool
  lazyFirst : Bool

namespace Flags

def plain : Flags := ⟨false, false, false, false, true, false, false⟩

/-- Turns one flag on or off; the letters are known. -/
def set (flags : Flags) (letter : Char) (on : Bool) : Flags :=
  match letter with
  | 'i' => { flags with ignoreCase := on }
  | 'm' => { flags with multiLine := on }
  | 's' => { flags with dotAll := on }
  | 'R' => { flags with crlf := on }
  | 'u' => { flags with unicode := on }
  | 'x' => { flags with verbose := on }
  | 'U' => { flags with lazyFirst := on }
  | _ => flags

def isLetter (c : Char) : Bool := "imsURux".toList.contains c

/-- The characters of words under these flags. -/
def word (flags : Flags) : CharSet := if flags.unicode then Class.word else Class.asciiWord

/-- Ignoring case where the flags say so. -/
def fold (flags : Flags) (set : CharSet) : CharSet :=
  if !flags.ignoreCase then set
  else if flags.unicode then set.caseClosure
  else
    let other := (List.range 26).flatMap fun i =>
      if set.holds (65 + i) || set.holds (97 + i) then [(65 + i, 65 + i), (97 + i, 97 + i)] else []
    CharSet.ofRanges (set.ranges ++ other)

/-- Folds a class, then complements it. Without Unicode a class must stay within ASCII. -/
def finish? (flags : Flags) (negated : Bool) (set : CharSet) : Option CharSet :=
  let folded := flags.fold set
  let final := if negated then folded.complement else folded
  if flags.unicode || final.isAscii then some final else none

end Flags

namespace Syntax

/-! ## Blanks and numbers -/

/-- Passes over white space and comments, which run from `#` to the end of the line. -/
def skipBlanks (comment : Bool) : List Char → List Char
  | [] => []
  | c :: cs =>
    if comment then skipBlanks (c != '\n') cs
    else if isBlank c then skipBlanks false cs
    else if c = '#' then skipBlanks true cs
    else c :: cs

def skip (flags : Flags) (cs : List Char) : List Char :=
  if flags.verbose then skipBlanks false cs else cs

/-- The decimal digits at the head of a text, between which blanks may stand when they are skipped,
and the rest after white space. -/
def digits (flags : Flags) : Nat → List Char → List Char × List Char
  | fuel + 1, c :: cs =>
    if c.isDigit then
      let (more, rest) := digits flags fuel (skip flags cs)
      (c :: more, rest)
    else ([], c :: cs)
  | _, cs => ([], cs)

/-- A decimal number below `2 ^ 32` with white space around it. -/
def decimal? (flags : Flags) (cs : List Char) : Option (Nat × List Char) :=
  let cs := trimStart cs
  let (ds, rest) := digits flags cs.length cs
  let n := ds.foldl (fun n c => 10 * n + (c.toNat - '0'.toNat)) 0
  if ds.isEmpty || 4294967296 ≤ n then none else some (n, skip flags (trimStart rest))

/-- The bounds of a counted repetition after its opening brace, and the rest after the closing
one. -/
def bounds? (flags : Flags) (cs : List Char) : Option ((Nat × Option Nat) × List Char) := do
  let (least, cs) ← decimal? flags (skip flags cs)
  let (most, cs) ← match cs with
    | ',' :: rest =>
      match skip flags rest with
      | '\x7d' :: rest => some (none, '\x7d' :: rest)
      | rest => (decimal? flags rest).map fun (n, rest) => (some n, rest)
    | cs => some (some least, cs)
  let cs ← match cs with
    | '\x7d' :: rest => some (skip flags rest)
    | _ => none
  if most.all fun n => least ≤ n then some ((least, most), cs) else none

/-! ## Escapes -/

/-- A part of a pattern that is not made of others. A literal is `raw` when it is written as a byte
in two hexadecimal digits. -/
inductive Primitive where
  | literal (c : Char) (raw : Bool)
  | charClass (set : CharSet)
  | look (condition : Look)

def hexValue? (c : Char) : Option Nat :=
  if c.isDigit then some (c.toNat - '0'.toNat)
  else if 'a' ≤ c ∧ c ≤ 'f' then some (c.toNat - 'a'.toNat + 10)
  else if 'A' ≤ c ∧ c ≤ 'F' then some (c.toNat - 'A'.toNat + 10)
  else none

/-- The character of a code point that has one. -/
def scalar? (n : Nat) : Option Char := if h : n.isValidChar then some (Char.ofNatAux n h) else none

/-- Reads `count` hexadecimal digits; blanks are skipped after each. -/
def hexDigits (flags : Flags) : Nat → Nat → List Char → Option (Nat × List Char)
  | 0, n, cs => some (n, cs)
  | count + 1, n, c :: cs => do
    let d ← hexValue? c
    hexDigits flags count (16 * n + d) (skip flags cs)
  | _ + 1, _, [] => none

/-- The characters up to a closing brace, without skipped blanks, and the rest after it. -/
def braced (flags : Flags) : Nat → List Char → Option (List Char × List Char)
  | fuel + 1, cs =>
    match skip flags cs with
    | [] => none
    | '\x7d' :: rest => some ([], rest)
    | c :: rest => (braced flags fuel rest).map fun (cs, rest) => (c :: cs, rest)
  | 0, _ => none

/-- The character of a hexadecimal escape after its letter. -/
def hexEscape? (flags : Flags) (letter : Char) (cs : List Char) : Option (Primitive × List Char) :=
  match skip flags cs with
  | '\x7b' :: cs => do
    let (content, rest) ← braced flags (cs.length + 1) cs
    let values ← content.mapM hexValue?
    let c ← scalar? (values.foldl (fun n d => 16 * n + d) 0)
    if content.isEmpty then none else some (.literal c false, skip flags rest)
  | cs => do
    let count := if letter = 'x' then 2 else if letter = 'u' then 4 else 8
    let (n, rest) ← hexDigits flags count 0 cs
    let c ← scalar? n
    some (.literal c (letter = 'x'), rest)

/-- The text before and after the first place where a separator stands. -/
def splitAt? (separator : List Char) : List Char → Option (List Char × List Char)
  | [] => none
  | c :: cs =>
    if separator.isPrefixOf (c :: cs) then some ([], (c :: cs).drop separator.length)
    else (splitAt? separator cs).map fun (before, after) => (c :: before, after)

/-- The class of the text between braces: a name, or a property and its value. -/
def classOf? (content : List Char) : Option (CharSet × Bool) :=
  let value (parts : List Char × List Char) (negated : Bool) :=
    (Class.valued? (String.ofList parts.1) (String.ofList parts.2)).map fun set => (set, negated)
  match splitAt? ['!', '='] content with
  | some parts => value parts true
  | none =>
    match (splitAt? [':'] content).orElse fun _ => splitAt? ['='] content with
    | some parts => value parts false
    | none => (Class.named? (String.ofList content)).map fun set => (set, false)

/-- The class of a property escape after its letter. -/
def propertyEscape? (flags : Flags) (negated : Bool) (cs : List Char) :
    Option (Primitive × List Char) := do
  let ((set, unequal), rest) ← match skip flags cs with
    | '\x7b' :: cs => do
      let (content, rest) ← braced flags (cs.length + 1) cs
      let found ← classOf? content
      some (found, rest)
    | '\\' :: _ => none
    | c :: rest => do
      let set ← Class.named? (String.ofList [c])
      some ((set, false), skip flags rest)
    | [] => none
  if !flags.unicode then none
  else
    let final ← flags.finish? (negated != unequal) set
    some (.charClass final, rest)

/-- The class of a one-letter escape for digits, white space and words. -/
def letterClass? (flags : Flags) (letter : Char) : Option CharSet :=
  let positive := match letter.toLower with
    | 'd' => if flags.unicode then Class.decimalDigit else Class.asciiDigit
    | 's' => if flags.unicode then Class.space else Class.asciiSpace
    | _ => flags.word
  let final := if letter.isUpper then positive.complement else positive
  if flags.unicode || final.isAscii then some final else none

/-- The word condition in braces, if the text after the brace begins like a name. -/
def specialBoundary? (flags : Flags) (cs : List Char) : Option (Option Look × List Char) :=
  let isName (c : Char) : Bool := c.isAlpha || c = '-'
  match skip flags cs with
  | [] => none
  | c :: _ =>
    if !isName c then some (none, '\x7b' :: cs)
    else do
      let (content, rest) ← braced flags (cs.length + 1) cs
      let condition ← match String.ofList content with
        | "start" => some Look.wordStart
        | "end" => some Look.wordEnd
        | "start-half" => some Look.wordStartHalf
        | "end-half" => some Look.wordEndHalf
        | _ => none
      some (some condition, rest)

/-- Whether a character that is no letter or digit may be escaped. -/
def isEscapable (c : Char) : Bool :=
  c.toNat < 128 && !c.isAlphanum && c != '<' && c != '>'

/-- The part that an escape stands for, after the backslash. -/
def escape? (flags : Flags) : List Char → Option (Primitive × List Char)
  | [] => none
  | c :: cs =>
    if c = 'x' ∨ c = 'u' ∨ c = 'U' then hexEscape? flags c cs
    else if c = 'p' ∨ c = 'P' then propertyEscape? flags (c = 'P') cs
    else if "dDsSwW".toList.contains c then
      (letterClass? flags c).map fun set => (.charClass set, cs)
    else if isEscapable c then some (.literal c false, cs)
    else match c with
      | 'a' => some (.literal '\x07' false, cs)
      | 'f' => some (.literal '\x0c' false, cs)
      | 't' => some (.literal '\t' false, cs)
      | 'n' => some (.literal '\n' false, cs)
      | 'r' => some (.literal '\r' false, cs)
      | 'v' => some (.literal '\x0b' false, cs)
      | 'A' => some (.look .textStart, cs)
      | 'z' => some (.look .textEnd, cs)
      | 'B' => some (.look .notWordBoundary, cs)
      | '<' => some (.look .wordStart, cs)
      | '>' => some (.look .wordEnd, cs)
      | 'b' =>
        match cs with
        | '\x7b' :: rest =>
          (specialBoundary? flags rest).map fun (special, rest) =>
            (.look (special.getD .wordBoundary), rest)
        | _ => some (.look .wordBoundary, cs)
      | _ => none

/-! ## Bracketed classes -/

inductive SetOperator where
  | inter
  | diff
  | symmDiff

def SetOperator.apply : SetOperator → CharSet → CharSet → CharSet
  | .inter, a, b => a.inter b
  | .diff, a, b => a.diff b
  | .symmDiff, a, b => a.symmDiff b

/-- The items of a class that were read so far: their ranges, their number, and how deeply they are
nested. -/
structure ClassItems where
  ranges : List (Nat × Nat)
  count : Nat
  deepest : Nat

namespace ClassItems

def empty : ClassItems := ⟨[], 0, 0⟩

def add (items : ClassItems) (ranges : List (Nat × Nat)) (depth : Nat) : ClassItems :=
  ⟨items.ranges ++ ranges, items.count + 1, max items.deepest depth⟩

/-- The depth of all items together; several items are one level above each of them. -/
def depth (items : ClassItems) : Nat := if items.count ≤ 1 then items.deepest else items.deepest + 1

end ClassItems

/-- An enclosing class with its items, or an operator that waits for its right side and has a set
and its depth on the left. -/
inductive ClassFrame where
  | bracket (negated : Bool) (outer : ClassItems)
  | operator (op : SetOperator) (left : CharSet) (depth : Nat)

/-- The set of the items, after the operator that waits for it, with its depth. -/
def applyOperators (flags : Flags) (items : ClassItems) :
    List ClassFrame → CharSet × Nat × List ClassFrame
  | .operator op left depth :: frames =>
    (op.apply (flags.fold left) (flags.fold (CharSet.ofRanges items.ranges)),
      max depth items.depth + 1, frames)
  | frames => (CharSet.ofRanges items.ranges, items.depth, frames)

/-- The opening of a bracketed class after its bracket: whether it is negated, the hyphens or the
bracket that stand for themselves, and the rest. -/
def openBracket? (flags : Flags) (cs : List Char) : Option (Bool × ClassItems × List Char) := do
  let cs := skip flags cs
  let (negated, cs) := match cs with
    | '^' :: rest => (true, skip flags rest)
    | cs => (false, cs)
  let rec hyphens : Nat → List Char → Nat × List Char
    | fuel + 1, '-' :: rest =>
      let (n, rest) := hyphens fuel (skip flags rest)
      (n + 1, rest)
    | _, cs => (0, cs)
  let (count, cs) := hyphens cs.length cs
  match cs with
  | [] => none
  | ']' :: rest =>
    if count = 0 then
      let rest := skip flags rest
      if rest.isEmpty then none else some (negated, ⟨[(93, 93)], 1, 0⟩, rest)
    else some (negated, ⟨[(45, 45)], count, 0⟩, cs)
  | _ => some (negated, if count = 0 then .empty else ⟨[(45, 45)], count, 0⟩, cs)

/-- A named ASCII class after `[`, with the rest after it. -/
def asciiClass? : List Char → Option ((Bool × CharSet) × List Char)
  | ':' :: cs => do
    let (negated, cs) := match cs with
      | '^' :: rest => (true, rest)
      | cs => (false, cs)
    let (name, rest) ← splitAt? [':'] cs
    let set ← Class.bracketed? (String.ofList name)
    match rest with
    | ']' :: rest => some ((negated, set), rest)
    | _ => none
  | _ => none

/-- One item of a class: an escape or a character. -/
def classItem? (flags : Flags) : List Char → Option (Primitive × List Char)
  | '\\' :: cs => escape? flags cs
  | c :: cs => some (.literal c false, cs)
  | [] => none

/-- The code point of an end of a range. Without Unicode it is an ASCII character. -/
def endpoint? (flags : Flags) : Primitive → Option Nat
  | .literal c _ => if flags.unicode || c.toNat < 128 then some c.toNat else none
  | _ => none

def itemRanges? (flags : Flags) : Primitive → Option (List (Nat × Nat))
  | .charClass set => some set.ranges
  | item => (endpoint? flags item).map fun n => [(n, n)]

/-- The character after blanks, which decides what a hyphen before them means. A comment counts as
blank up to its first character that is not white space. -/
def peek? (flags : Flags) (cs : List Char) : Option Char :=
  if flags.verbose then
    match trimStart cs with
    | '#' :: rest => (trimStart rest).head?
    | rest => rest.head?
  else cs.head?

/-- An item or a range of a class. A hyphen before `]` or another hyphen makes no range. -/
def classRange? (flags : Flags) (cs : List Char) : Option (List (Nat × Nat) × List Char) := do
  let (first, cs) ← classItem? flags cs
  let cs := skip flags cs
  let single := (itemRanges? flags first).map fun ranges => (ranges, cs)
  match cs with
  | [] => none
  | '-' :: rest =>
    if peek? flags rest = some ']' ∨ peek? flags rest = some '-' then single
    else do
      let (second, rest) ← classItem? flags (skip flags rest)
      let low ← endpoint? flags first
      let high ← endpoint? flags second
      if low ≤ high then some ([(low, high)], rest) else none
  | _ => single

/-- Reads a class to its closing bracket, and says how deeply it is nested. `items` are those of the
innermost class so far. -/
def classLoop? (flags : Flags) :
    Nat → List ClassFrame → ClassItems → List Char → Option ((CharSet × Nat) × List Char)
  | 0, _, _, _ => none
  | fuel + 1, frames, items, cs =>
    let operator (op : SetOperator) (rest : List Char) :=
      let (left, depth, frames) := applyOperators flags items frames
      classLoop? flags fuel (.operator op left depth :: frames) .empty rest
    match skip flags cs with
    | [] => none
    | '[' :: rest =>
      match asciiClass? rest with
      | some ((negated, set), rest) => do
        let set ← flags.finish? negated set
        classLoop? flags fuel frames (items.add set.ranges 0) rest
      | none => do
        let (negated, inner, rest) ← openBracket? flags rest
        classLoop? flags fuel (.bracket negated items :: frames) inner rest
    | ']' :: rest =>
      match applyOperators flags items frames with
      | (set, depth, .bracket negated outer :: frames) => do
        let set ← flags.finish? negated set
        if frames.isEmpty then some ((set, depth + 1), rest)
        else classLoop? flags fuel frames (outer.add set.ranges (depth + 1)) rest
      | _ => none
    | '&' :: '&' :: rest => operator .inter rest
    | '-' :: '-' :: rest => operator .diff rest
    | '~' :: '~' :: rest => operator .symmDiff rest
    | cs => do
      let (ranges, rest) ← classRange? flags cs
      classLoop? flags fuel frames (items.add ranges 0) rest

/-- A bracketed class after its opening bracket, with its depth. -/
def bracketed? (flags : Flags) (cs : List Char) : Option ((CharSet × Nat) × List Char) := do
  let (negated, items, rest) ← openBracket? flags cs
  classLoop? flags (rest.length + 1) [.bracket negated .empty] items rest

/-! ## Groups -/

/-- Flags with their states up to `)` or `:`, and the rest from there on. -/
def flagList? (on : Bool) (dangling : Bool) (seen : List Char) :
    List Char → Option (List (Char × Bool) × List Char)
  | [] => none
  | c :: cs =>
    if c = ':' ∨ c = ')' then if dangling then none else some ([], c :: cs)
    else if seen.contains c then none
    else if c = '-' then flagList? false true (c :: seen) cs
    else if Flags.isLetter c then
      (flagList? on false (c :: seen) cs).map fun (flags, rest) => ((c, on) :: flags, rest)
    else none

/-- The name of a group and the rest after its closing angle bracket. -/
def groupName? : List Char → Option (List Char × List Char)
  | cs => do
    let (name, rest) ← splitAt? ['>'] cs
    let isFirst (c : Char) := c == '_' || Class.alphabetic.mem c
    let isLater (c : Char) := "_.[]".toList.contains c || Class.alphanumeric.mem c
    match name with
    | [] => none
    | c :: more => if isFirst c && more.all isLater then some (name, rest) else none

/-- A pattern with the depth of its nesting; a setting of flags cannot be repeated. -/
structure Item where
  pattern : Pattern
  depth : Nat
  isFlags : Bool

/-- An open group: its finished alternatives and the items of the current one, both reversed, the
flags outside, and its number if it captures. -/
structure Level where
  branches : List Item
  items : List Item
  outer : Flags
  number : Option Nat

namespace Level

def new (outer : Flags) (number : Option Nat) : Level := ⟨[], [], outer, number⟩

def deepest (items : List Item) : Nat := items.foldl (fun d item => max d item.depth) 0

/-- The items of the current alternative in sequence. -/
def sequence (level : Level) : Item :=
  match level.items with
  | [item] => item
  | items =>
    ⟨Pattern.sequence (items.reverse.map Item.pattern),
      if items.isEmpty then 0 else deepest items + 1, false⟩

/-- The whole group. -/
def close (level : Level) : Item :=
  match level.branches with
  | [] => level.sequence
  | branches =>
    let all := level.sequence :: branches
    ⟨Pattern.alternatives (all.reverse.map Item.pattern), deepest all + 1, false⟩

end Level

/-- What is known while a pattern is read; `groups` is the number of groups that capture. -/
structure State where
  flags : Flags
  level : Level
  enclosing : List Level
  names : List (List Char)
  groups : Nat

namespace State

def push (st : State) (item : Item) : State :=
  { st with level := { st.level with items := item :: st.level.items } }

/-- Replaces the last item by its repetition, which a question mark turns round. -/
def repeatLast? (st : State) (least : Nat) (most : Option Nat) (cs : List Char) :
    Option (State × List Char) :=
  let (isTurned, rest) := match cs with
    | '?' :: rest => (true, rest)
    | cs => (false, cs)
  match st.level.items with
  | [] => none
  | item :: items =>
    if item.isFlags then none
    else
      let pattern := item.pattern.repeated least most (isTurned == st.flags.lazyFirst)
      some ({ st with level := { st.level with
        items := ⟨pattern, item.depth + 1, false⟩ :: items } }, rest)

/-- Opens a group. -/
def enter (st : State) (flags : Flags) (number : Option Nat) : State :=
  { st with flags := flags, level := .new st.flags number, enclosing := st.level :: st.enclosing }

/-- Opens a group that captures. -/
def enterCapture (st : State) : State :=
  { st with groups := st.groups + 1 }.enter st.flags (some (st.groups + 1))

def alternative (st : State) : State :=
  { st with level := { st.level with
    branches := st.level.sequence :: st.level.branches, items := [] } }

/-- Closes the innermost group. -/
def leave? (st : State) : Option State :=
  match st.enclosing with
  | [] => none
  | outer :: enclosing =>
    let item := st.level.close
    let pattern := match st.level.number with
      | some number => .capture number item.pattern
      | none => item.pattern
    some <| State.push ⟨st.level.outer, outer, enclosing, st.names, st.groups⟩
      ⟨pattern, item.depth + 1, false⟩

/-- The item of a single part under the flags in force. -/
def primitive? (st : State) : Primitive → Option Item
  | .literal c raw =>
    if !st.flags.unicode && raw && 127 < c.toNat then none
    else some ⟨.ofSet (st.flags.fold (.single c.toNat)), 0, false⟩
  | .charClass set => some ⟨.ofSet set, 0, false⟩
  | .look condition => some ⟨.look condition st.flags.word, 0, false⟩

/-- Takes an opening parenthesis. -/
def group? (st : State) (cs : List Char) : Option (State × List Char) :=
  let named (cs : List Char) := do
    let (name, rest) ← groupName? cs
    if st.names.contains name then none
    else some ({ st with names := name :: st.names }.enterCapture, rest)
  match skip st.flags cs with
  | '?' :: '=' :: _ | '?' :: '!' :: _ | '?' :: '<' :: '=' :: _ | '?' :: '<' :: '!' :: _ => none
  | '?' :: 'P' :: '<' :: cs => named cs
  | '?' :: '<' :: cs => named cs
  | '?' :: cs => do
    let (settings, rest) ← flagList? true false [] cs
    let flags := settings.foldl (fun f s => f.set s.1 s.2) st.flags
    match rest with
    | ')' :: rest =>
      if settings.isEmpty then none
      else some (State.push { st with flags := flags } ⟨.empty, 0, true⟩, rest)
    | _ :: rest => some (st.enter flags none, rest)
    | [] => none
  | cs => some (st.enterCapture, cs)

end State

/-- The pattern of any one character. -/
def dot? (flags : Flags) : Option Item :=
  let set := if flags.dotAll then CharSet.any
    else if flags.crlf then CharSet.complement ⟨[(10, 10), (13, 13)]⟩
    else CharSet.complement ⟨[(10, 10)]⟩
  if flags.unicode then some ⟨.ofSet set, 0, false⟩ else none

def lineStart (flags : Flags) : Look :=
  if flags.multiLine then if flags.crlf then .lineStartCrlf else .lineStart else .textStart

def lineEnd (flags : Flags) : Look :=
  if flags.multiLine then if flags.crlf then .lineEndCrlf else .lineEnd else .textEnd

/-- Takes the next part of a pattern. -/
def step? (st : State) : List Char → Option (State × List Char)
  | [] => none
  | '(' :: rest => st.group? rest
  | ')' :: rest => st.leave?.map fun st => (st, rest)
  | '|' :: rest => some (st.alternative, rest)
  | '[' :: rest => do
    let ((set, depth), rest) ← bracketed? st.flags rest
    some (st.push ⟨.ofSet set, depth, false⟩, rest)
  | '?' :: rest => st.repeatLast? 0 (some 1) rest
  | '*' :: rest => st.repeatLast? 0 none rest
  | '+' :: rest => st.repeatLast? 1 none rest
  | '\x7b' :: rest => do
    let ((least, most), rest) ← bounds? st.flags rest
    st.repeatLast? least most rest
  | '\\' :: rest => do
    let (part, rest) ← escape? st.flags rest
    let item ← st.primitive? part
    some (st.push item, rest)
  | '.' :: rest => (dot? st.flags).map fun item => (st.push item, rest)
  | '^' :: rest => (st.primitive? (.look (lineStart st.flags))).map fun item => (st.push item, rest)
  | '$' :: rest => (st.primitive? (.look (lineEnd st.flags))).map fun item => (st.push item, rest)
  | c :: rest => (st.primitive? (.literal c false)).map fun item => (st.push item, rest)

/-- Reads a pattern to the end of the text. -/
def loop? : Nat → State → List Char → Option Item
  | fuel, st, cs =>
    match fuel, skip st.flags cs with
    | _, [] => if st.enclosing.isEmpty then some st.level.close else none
    | 0, _ => none
    | fuel + 1, cs => do
      let (st, rest) ← step? st cs
      loop? fuel st rest

/-- The greatest depth of nesting. -/
def nestLimit : Nat := 250

end Syntax

/-- Why a text is refused as a pattern. -/
inductive PatternFault where
  | malformed
  | tooLarge

namespace Pattern

/-- The pattern of a text that is read with these flags. -/
def read? (flags : Flags) (text : String) : Option Pattern := do
  let item ← Syntax.loop? text.length ⟨flags, .new flags none, [], [], 0⟩ text.toList
  if item.depth ≤ Syntax.nestLimit then some item.pattern else none

/-- The pattern of a text, if it is well formed and not too large. -/
def compile (flags : Flags) (text : String) : Except PatternFault Pattern :=
  match read? flags text with
  | none => .error .malformed
  | some pattern => if pattern.isTooLarge then .error .tooLarge else .ok pattern

end Pattern

end DocStore.Regex
