/-!
# A gate that admits one holder at a time

Calls that find the gate held wait in the order of arrival, and a release hands the gate to the next
of them. There are two kinds of calls. A task runs when it is admitted and holds the gate until it
releases it, possibly before it ends. A turn is signalled when it is admitted, and its caller may go
away before or after that: a cancelled turn keeps its place in the queue and is skipped there.

* `Gate.enter` and `Gate.acquire` are the arrivals of a task and of a turn, `Gate.release` hands the
  gate on, and `Gate.take` and `Gate.giveUp` say what becomes of a turn that waits.
* `Ticket.poll` and `Ticket.drop` are the moves of a caller that wants to hold the gate.
-/

namespace DocStore

/-- A task that wants the gate; it may release the gate before it ends. -/
structure GateTask where
  name : String
  releases : Bool

/-- A call with its number in the order of arrival. -/
inductive GateCall where
  | task (number : Nat) (work : GateTask)
  | turn (number : Nat) (cancelled : Bool)

namespace GateCall

def number : GateCall → Nat
  | .task number _ | .turn number _ => number

def taskName? : GateCall → Option String
  | .task _ work => some work.name
  | .turn _ _ => none

/-- Marks the turn with a number as cancelled. -/
def cancel (id : Nat) : GateCall → GateCall
  | .turn number cancelled => .turn number (cancelled || number == id)
  | call => call

end GateCall

/-- A gate. Turns stay signalled until their callers notice; `admitted` is the history of the calls
that got the gate, the latest last. -/
structure Gate where
  held : Bool
  queue : List GateCall
  arrived : Nat
  signalled : List Nat
  admitted : List GateCall

namespace Gate

/-- A free gate before the first call. -/
def empty : Gate := ⟨false, [], 0, [], []⟩

/-- The number of calls in the queue, with the cancelled ones. -/
def pending (gate : Gate) : Nat := gate.queue.length

/-- The names of the tasks that have run, the latest last. -/
def ran (gate : Gate) : List String := gate.admitted.filterMap GateCall.taskName?

def grant (gate : Gate) (call : GateCall) : Gate :=
  { gate with admitted := gate.admitted ++ [call] }

/-- Hands the gate to the first call of a queue. A task that releases the gate at once passes it on,
cancelled turns are skipped, and without calls the gate becomes free. -/
def handOver (gate : Gate) : List GateCall → Gate
  | [] => { gate with held := false, queue := [] }
  | .task number work :: rest =>
    let gate := gate.grant (.task number work)
    if work.releases then handOver gate rest else { gate with queue := rest }
  | .turn number cancelled :: rest =>
    if cancelled then handOver gate rest
    else
      { gate.grant (.turn number false) with
        queue := rest, signalled := gate.signalled ++ [number] }

/-- Releases the gate. -/
def release (gate : Gate) : Gate := gate.handOver gate.queue

/-- A task arrives: it runs now if the gate is free. -/
def enter (gate : Gate) (work : GateTask) : Gate :=
  let call := GateCall.task gate.arrived work
  let next := { gate with arrived := gate.arrived + 1 }
  if gate.held then { next with queue := gate.queue ++ [call] }
  else
    let next := { next.grant call with held := true }
    if work.releases then next.release else next

/-- A turn arrives: it gets the gate now, or else waits under the resulting number. -/
def acquire (gate : Gate) : Option Nat × Gate :=
  let call := GateCall.turn gate.arrived false
  let next := { gate with arrived := gate.arrived + 1 }
  if gate.held then (some gate.arrived, { next with queue := gate.queue ++ [call] })
  else (none, { next.grant call with held := true })

/-- The caller of a waiting turn looks whether it was signalled. -/
def take (gate : Gate) (number : Nat) : Bool × Gate :=
  if gate.signalled.contains number then
    (true, { gate with signalled := gate.signalled.erase number })
  else (false, gate)

/-- The caller of a waiting turn goes away. If the turn was signalled, the gate is handed on. -/
def giveUp (gate : Gate) (number : Nat) : Gate :=
  if gate.signalled.contains number then
    { gate with signalled := gate.signalled.erase number }.release
  else { gate with queue := gate.queue.map (GateCall.cancel number) }

end Gate

/-- A caller that wants to hold the gate. It arrives when it is polled first. -/
inductive Ticket where
  | fresh
  | waiting (number : Nat)
  | holding

/-- What polling a ticket says. -/
inductive TicketStatus where
  | held
  | ready
  | pending

namespace Ticket

/-- Moves a ticket forward. -/
def poll (gate : Gate) : Ticket → TicketStatus × Ticket × Gate
  | .fresh =>
    match gate.acquire with
    | (none, gate) => (.ready, .holding, gate)
    | (some number, gate) => (.pending, .waiting number, gate)
  | .waiting number =>
    match gate.take number with
    | (true, gate) => (.ready, .holding, gate)
    | (false, gate) => (.pending, .waiting number, gate)
  | .holding => (.held, .holding, gate)

/-- Drops a ticket: a holder releases the gate, and a waiting turn is given up. -/
def drop (gate : Gate) : Ticket → Gate
  | .fresh => gate
  | .waiting number => gate.giveUp number
  | .holding => gate.release

end Ticket

end DocStore
