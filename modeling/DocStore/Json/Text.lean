import DocStore.Json.Number
/-!
# Reading JSON text

Reading has two stages: `Token.scan` cuts the text into tokens, and `Draft.ofTokens?` builds a tree
from them with a stack of open lists and objects. Numbers that are too large and texts with half of
a surrogate pair are well formed but have no value: a `Draft` holds them as such, and
`Draft.toJson?` fails on them. So a reader can pass over parts of a text without giving them a
value.

`Draft.toJson?` also bounds the nesting.
-/

namespace DocStore.Json

/-- A well-formed tree; its numbers and texts may lack a value. -/
inductive Draft where
  | null
  | bool (flag : Bool)
  | number (value : Option Json)
  | string (value : Option String)
  | array (items : List Draft)
  | object (members : List (Option String × Draft))

/-- A token of JSON text; `leaf` is a complete value without parts. -/
inductive Token where
  | openArray
  | closeArray
  | openObject
  | closeObject
  | comma
  | colon
  | leaf (value : Draft)

/-! ## Tokens -/

/-- A text under way: the characters so far in reverse, a high surrogate that waits for its other
half, and whether the text has lost its value. -/
structure PartialText where
  chars : List Char
  high : Option Nat
  broken : Bool

namespace PartialText

def empty : PartialText := ⟨[], none, false⟩

def push (t : PartialText) (c : Char) : PartialText :=
  ⟨c :: t.chars, none, t.broken || t.high.isSome⟩

/-- Takes a 16-bit code unit: a character, or half of one. -/
def pushUnit (t : PartialText) (unit : Nat) : PartialText :=
  if 0xDC00 ≤ unit ∧ unit ≤ 0xDFFF then
    match t.high with
    | some high =>
      ⟨Char.ofNat (0x10000 + (high - 0xD800) * 1024 + (unit - 0xDC00)) :: t.chars, none, t.broken⟩
    | none => { t with broken := true }
  else if 0xD800 ≤ unit ∧ unit ≤ 0xDBFF then
    ⟨t.chars, some unit, t.broken || t.high.isSome⟩
  else t.push (Char.ofNat unit)

def finish (t : PartialText) : Option String :=
  if t.broken || t.high.isSome then none else some (String.ofList t.chars.reverse)

end PartialText

namespace Token

/-- Where the scanner is: between tokens, inside a word, or inside a text. -/
inductive Mode where
  | between
  | word (chars : List Char)
  | text (sofar : PartialText)
  | escape (sofar : PartialText)
  | unicode (sofar : PartialText) (count : Nat) (unit : Nat)

def isBlank (c : Char) : Bool := c == ' ' || c == '\n' || c == '\t' || c == '\r'

def isWord (c : Char) : Bool := c.isAlphanum || c == '+' || c == '-' || c == '.'

/-- The value of a word: a literal name or a number. -/
def ofWord? (chars : List Char) : Option Token :=
  let word := String.ofList chars
  if word = "null" then some (.leaf .null)
  else if word = "true" then some (.leaf (.bool true))
  else if word = "false" then some (.leaf (.bool false))
  else (Literal.read? chars).map fun l => .leaf (.number l.toJson?)

def punctuation? : Char → Option Token
  | '[' => some .openArray
  | ']' => some .closeArray
  | '\x7b' => some .openObject
  | '\x7d' => some .closeObject
  | ',' => some .comma
  | ':' => some .colon
  | _ => none

/-- The character of a one-letter escape. -/
def escaped? : Char → Option Char
  | '"' => some '"'
  | '\\' => some '\\'
  | '/' => some '/'
  | 'b' => some '\x08'
  | 'f' => some '\x0c'
  | 'n' => some '\n'
  | 'r' => some '\r'
  | 't' => some '\t'
  | _ => none

def hexValue? (c : Char) : Option Nat :=
  if '0' ≤ c ∧ c ≤ '9' then some (c.toNat - '0'.toNat)
  else if 'a' ≤ c ∧ c ≤ 'f' then some (c.toNat - 'a'.toNat + 10)
  else if 'A' ≤ c ∧ c ≤ 'F' then some (c.toNat - 'A'.toNat + 10)
  else none

/-- The scanner outside texts: the token of `c`, if any, and the next mode. -/
def start? (c : Char) : Option (List Token × Mode) :=
  if isBlank c then some ([], .between)
  else if c = '"' then some ([], .text PartialText.empty)
  else if isWord c then some ([], .word [c])
  else (punctuation? c).map fun token => ([token], .between)

/-- One character of the scanner: the tokens it completes and the next mode. -/
def step? : Mode → Char → Option (List Token × Mode)
  | .between, c => start? c
  | .word chars, c =>
    if isWord c then some ([], .word (c :: chars))
    else do
      let token ← ofWord? chars.reverse
      let (tokens, mode) ← start? c
      some (token :: tokens, mode)
  | .text sofar, c =>
    if c = '"' then some ([.leaf (.string sofar.finish)], .between)
    else if c = '\\' then some ([], .escape sofar)
    else if c.toNat < 32 then none
    else some ([], .text (sofar.push c))
  | .escape sofar, c =>
    if c = 'u' then some ([], .unicode sofar 0 0)
    else (escaped? c).map fun d => ([], .text (sofar.push d))
  | .unicode sofar count unit, c => do
    let digit ← hexValue? c
    let unit := 16 * unit + digit
    some ([], if count = 3 then .text (sofar.pushUnit unit) else .unicode sofar (count + 1) unit)

/-- The tokens of the rest of a text, when every part of it is well formed. -/
def scanFrom : Mode → List Char → Option (List Token)
  | .between, [] => some []
  | .word chars, [] => (ofWord? chars.reverse).map fun token => [token]
  | _, [] => none
  | mode, c :: cs => do
    let (tokens, mode) ← step? mode c
    let rest ← scanFrom mode cs
    some (tokens ++ rest)

def scan (text : String) : Option (List Token) := scanFrom .between text.toList

end Token

/-! ## Trees -/

namespace Draft

/-- An open list or object, with what it holds so far in reverse. -/
inductive Frame where
  | array (items : List Draft)
  | object (members : List (Option String × Draft)) (key : Option String)

/-- What the builder expects next. -/
inductive Expect where
  | value
  | firstItem
  | firstKey
  | key
  | colon (key : Option String)
  | separator
  | done (tree : Draft)

structure Builder where
  stack : List Frame
  expect : Expect

namespace Builder

/-- Puts a complete value into the innermost open list or object. -/
def add (value : Draft) : List Frame → Builder
  | [] => ⟨[], .done value⟩
  | .array items :: stack => ⟨.array (value :: items) :: stack, .separator⟩
  | .object members key :: stack => ⟨.object ((key, value) :: members) none :: stack, .separator⟩

/-- Takes the first token of a value. -/
def begin? (stack : List Frame) : Token → Option Builder
  | .leaf value => some (add value stack)
  | .openArray => some ⟨.array [] :: stack, .firstItem⟩
  | .openObject => some ⟨.object [] none :: stack, .firstKey⟩
  | _ => none

def key? (stack : List Frame) : Token → Option Builder
  | .leaf (.string key) => some ⟨stack, .colon key⟩
  | _ => none

/-- Closes the innermost list or object. -/
def close? : List Frame → Token → Option Builder
  | .array items :: stack, .closeArray => some (add (.array items.reverse) stack)
  | .object members _ :: stack, .closeObject => some (add (.object members.reverse) stack)
  | _, _ => none

def step? (b : Builder) (token : Token) : Option Builder :=
  match b.expect with
  | .value => begin? b.stack token
  | .firstItem =>
    match token with
    | .closeArray => close? b.stack token
    | _ => begin? b.stack token
  | .firstKey =>
    match token with
    | .closeObject => close? b.stack token
    | _ => key? b.stack token
  | .key => key? b.stack token
  | .colon key =>
    match b.stack, token with
    | .object members _ :: stack, .colon => some ⟨.object members key :: stack, .value⟩
    | _, _ => none
  | .separator =>
    match b.stack, token with
    | .array _ :: _, .comma => some ⟨b.stack, .value⟩
    | .object _ _ :: _, .comma => some ⟨b.stack, .key⟩
    | _, _ => close? b.stack token
  | .done _ => none

end Builder

/-- The tree of a sequence of tokens. -/
def ofTokens? (tokens : List Token) : Option Draft :=
  match tokens.foldlM Builder.step? ⟨[], .value⟩ with
  | some ⟨_, .done tree⟩ => some tree
  | _ => none

def read? (text : String) : Option Draft := (Token.scan text).bind ofTokens?

mutual

/-- The value of a tree with at most `depth` open lists and objects at a time. -/
def toJson? (depth : Nat) : Draft → Option Json
  | .null => some .null
  | .bool flag => some (.bool flag)
  | .number value => value
  | .string value => value.map Json.string
  | .array items =>
    if depth = 0 then none else (toJsonItems? (depth - 1) items).map Json.array
  | .object members =>
    if depth = 0 then none else (toJsonMembers? (depth - 1) members).map Json.object

def toJsonItems? (depth : Nat) : List Draft → Option (List Json)
  | [] => some []
  | item :: items => do
    let first ← toJson? depth item
    let rest ← toJsonItems? depth items
    some (first :: rest)

def toJsonMembers? (depth : Nat) : List (Option String × Draft) → Option (List (String × Json))
  | [] => some []
  | (key, item) :: members => do
    let name ← key
    let first ← toJson? depth item
    let rest ← toJsonMembers? depth members
    some ((name, first) :: rest)

end

end Draft

end DocStore.Json
