import DocStore.Error
/-!
# Sessions

An identifier has twenty-five characters: the letter `c`, then in base 36 eight digits of the clock,
four of a counter, four of a fingerprint of the host and eight random ones. Numbers are cut to their
lowest digits. An `IdSource` holds the counter, the fingerprint, and what the clock and the random
source will say at each draw.

An action may fail, draw identifiers and change the state of the host. What it did before it failed
stays done. `ActOn` is an action on any state, and `Act` one on a `Session`.
-/

namespace DocStore

/-! ## Identifiers -/

/-- The digit of a number below thirty-six. -/
def base36Digit (n : Nat) : Char :=
  if n < 10 then Char.ofNat ('0'.toNat + n) else Char.ofNat ('a'.toNat + (n - 10))

/-- The lowest `width` digits of a number in base 36. -/
def base36 : Nat → Nat → List Char
  | 0, _ => []
  | width + 1, n => base36 width (n / 36) ++ [base36Digit (n % 36)]

/-- What the outside world says at one draw: the time in milliseconds and two random blocks. -/
structure IdReading where
  millis : Nat
  first : Nat
  second : Nat

/-- A source of identifiers. -/
structure IdSource where
  counter : UInt64
  fingerprint : List Char
  readings : Nat → IdReading
  drawn : Nat

namespace IdSource

/-- Two digits for the process and two for the name of the host. -/
def fingerprintOf (process : Nat) (host : List UInt8) : List Char :=
  base36 2 process ++ base36 2 (host.foldl (fun n b => n + b.toNat) (host.length + 36))

/-- The identifier of a counter value and a reading. -/
def compose (fingerprint : List Char) (count : Nat) (reading : IdReading) : List Char :=
  'c' :: base36 8 reading.millis ++ base36 4 count ++ fingerprint ++ base36 4 reading.first ++
    base36 4 reading.second

/-- Draws the next identifier. -/
def draw (source : IdSource) : String × IdSource :=
  (String.ofList (compose source.fingerprint source.counter.toNat (source.readings source.drawn)),
    { source with counter := source.counter + 1, drawn := source.drawn + 1 })

end IdSource

/-- Whether a text has the shape of an identifier: it begins with `c` and has 25 bytes. -/
def isIdentifier (text : String) : Bool :=
  text.toList.head? == some 'c' && text.utf8ByteSize == 25

/-! ## Actions -/

/-- The source of identifiers and the state of the host. -/
structure Session (σ : Type) where
  ids : IdSource
  host : σ

/-- An action on a state that keeps its changes when it fails. -/
abbrev ActOn (τ α : Type) := ExceptT StoreError (StateM τ) α

/-- An action that uses only the session. -/
abbrev Act (σ α : Type) := ActOn (Session σ) α

namespace Act

variable {σ : Type}

/-- Draws an identifier. -/
def drawId : Act σ String :=
  modifyGet fun session =>
    let (id, ids) := session.ids.draw
    (id, { session with ids })

/-- Runs a computation of the host. -/
def onHost {α : Type} (f : StateM σ α) : Act σ α :=
  modifyGet fun session =>
    let (a, host) := f.run session.host
    (a, { session with host })

/-- The result of a pure step. -/
def ofExcept {α : Type} (result : Except StoreError α) : Act σ α :=
  ExceptT.mk (pure result)

end Act

end DocStore
