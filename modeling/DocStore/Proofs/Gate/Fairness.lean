import DocStore.Proofs.Gate.Ownership
/-!
# Who is next at a gate

A gate admits its callers in the order of arrival (`GateTraffic.admission_order`). Numbers count the
arrivals and increase along the history of a gate, which only grows; everyone who still waits
arrived later than everyone who was admitted. While the gate is held, only a release admits anyone,
and then it is the earliest caller who has not gone away.
-/

namespace DocStore

namespace GateTraffic

/-- Whether an event releases the gate: a task that runs releases it, or a ticket is dropped whose
caller holds the gate or was signalled. -/
def Releases (t : GateTraffic) : GateEvent → Prop
  | .release task => task ∈ t.running
  | .drop place => ∃ ticket, t.tickets[place]? = some ticket ∧ ticket.owns t.gate = true
  | _ => False

/-- A caller that owns the gate and goes away hands it on; a signal that it has not seen is taken
back. -/
theorem drop_of_owns {gate : Gate} {ticket : Ticket} (howns : ticket.owns gate = true) :
    ∃ signalled, ticket.drop gate = Gate.release { gate with signalled } := by
  cases ticket with
  | fresh => cases howns
  | waiting number => exact ⟨gate.signalled.erase number, if_pos howns⟩
  | holding => exact ⟨gate.signalled, rfl⟩

/-- A caller that does not own the gate can go away without an admission. -/
theorem admitted_drop_of_not_owns {gate : Gate} {ticket : Ticket}
    (howns : ¬ ticket.owns gate = true) :
    (ticket.drop gate).admitted = gate.admitted := by
  cases ticket with
  | fresh => rfl
  | waiting number =>
    have hcancel : Ticket.drop gate (.waiting number) =
        { gate with queue := gate.queue.map (GateCall.cancel number) } := if_neg howns
    rw [hcancel]
  | holding => exact absurd rfl howns

/-- A caller that looks whether it was signalled admits nobody. -/
theorem admitted_poll_waiting (gate : Gate) (number : Nat) :
    ((Ticket.waiting number).poll gate).2.2.admitted = gate.admitted := by
  cases hsignalled : gate.signalled.contains number <;>
    simp only [Ticket.poll, Gate.take, hsignalled, Bool.false_eq_true, if_false, if_true]

/-- A gate of which `later` is the state after an arrival: nobody is admitted, or the gate was free
and the history goes on. -/
def AdmitsIfFree (gate later : Gate) : Prop :=
  later.admitted = gate.admitted ∨ gate.held = false ∧ gate.admitted <+: later.admitted

theorem admitsIfFree_enter (gate : Gate) (work : GateTask) :
    AdmitsIfFree gate (gate.enter work) := by
  cases hheld : gate.held with
  | true =>
    rw [Gate.enter_of_held hheld]
    exact .inl rfl
  | false =>
    have hletIn : gate.admitted <+: (gate.letIn (.task gate.arrived work)).admitted :=
      List.prefix_append _ _
    rw [Gate.enter_of_free hheld]
    refine .inr ⟨hheld, ?_⟩
    dsimp only
    split
    · exact hletIn.trans (Gate.admitted_prefix_handOver _ _)
    · exact hletIn

theorem admitsIfFree_poll (gate : Gate) (ticket : Ticket) :
    AdmitsIfFree gate (ticket.poll gate).2.2 := by
  cases ticket with
  | fresh =>
    cases hheld : gate.held with
    | true =>
      rw [Ticket.poll, Gate.acquire_of_held hheld]
      exact .inl rfl
    | false =>
      rw [Ticket.poll, Gate.acquire_of_free hheld]
      exact .inr ⟨hheld, List.prefix_append _ _⟩
  | waiting number => exact .inl (admitted_poll_waiting gate number)
  | holding => exact .inl rfl

variable {t : GateTraffic} {event : GateEvent}

/-- An event that releases the gate hands it on. -/
theorem gate_of_releases (h : t.Releases event) :
    ∃ signalled, (event.perform t).gate = Gate.release { t.gate with signalled } := by
  cases event with
  | enter | request | poll => exact h.elim
  | release task => exact ⟨t.gate.signalled, congrArg GateTraffic.gate (if_pos h)⟩
  | drop place =>
    obtain ⟨ticket, hticket, howns⟩ := h
    rw [GateEvent.perform, hticket]
    exact drop_of_owns howns

/-- Another event admits somebody only at a free gate. -/
theorem admitsIfFree_of_not_releases (h : ¬ t.Releases event) :
    AdmitsIfFree t.gate (event.perform t).gate := by
  cases event with
  | enter work => exact admitsIfFree_enter t.gate work
  | release task =>
    have hidle : (GateEvent.release task).perform t = t := if_neg h
    rw [hidle]
    exact .inl rfl
  | request => exact .inl rfl
  | poll place =>
    rw [GateEvent.perform]
    cases t.tickets[place]? with
    | none => exact .inl rfl
    | some ticket => exact admitsIfFree_poll t.gate ticket
  | drop place =>
    rw [GateEvent.perform]
    cases hticket : t.tickets[place]? with
    | none => exact .inl rfl
    | some ticket =>
      exact .inl (admitted_drop_of_not_owns fun howns => h ⟨ticket, hticket, howns⟩)

/-- Events only add to the history. -/
theorem admitted_prefix_perform (t : GateTraffic) (event : GateEvent) :
    t.gate.admitted <+: (event.perform t).gate.admitted := by
  by_cases h : t.Releases event
  · obtain ⟨signalled, hgate⟩ := gate_of_releases h
    rw [hgate]
    exact Gate.admitted_prefix_handOver { t.gate with signalled } t.gate.queue
  · obtain heq | ⟨-, hprefix⟩ := admitsIfFree_of_not_releases h
    · exact heq ▸ List.prefix_rfl
    · exact hprefix

/-- **A gate admits its callers in the order of arrival.** After any events of its parties:

* the numbers of arrival increase along the history of admissions, and the calls that wait arrived
  after those that were admitted;
* every further event only adds to the history; while the gate is held, only events that release it
  admit anyone, and they hand it on by a release;
* whenever a gate is released while a call waits that is not cancelled, the earliest such call is
  admitted and none is passed over; only if this call releases the gate at once does its release
  follow. -/
theorem admission_order (events : List GateEvent) :
    let t := after events
    (t.gate.admitted.map GateCall.number).Pairwise (· < ·) ∧
      (∀ admitted ∈ t.gate.admitted, ∀ waiting ∈ t.gate.queue, admitted.number < waiting.number) ∧
      (∀ call ∈ t.gate.calls, call.number < t.gate.arrived) ∧
      (∀ event : GateEvent,
        t.gate.admitted <+: (event.perform t).gate.admitted ∧
        (t.gate.held = true → ¬ t.Releases event →
          (event.perform t).gate.admitted = t.gate.admitted) ∧
        (t.Releases event →
          ∃ signalled, (event.perform t).gate = Gate.release { t.gate with signalled })) ∧
      ∀ (gate : Gate) (skipped rest : List GateCall) (call : GateCall),
        gate.queue = skipped ++ call :: rest → (∀ c ∈ skipped, c.isCancelled = true) →
        call.isCancelled = false →
        gate.release =
          if call.releasesAtOnce then (gate.handTo call rest).release
          else gate.handTo call rest := by
  intro t
  have hsound : t.gate.Sound := (sound_after events).gate
  have hcalls := List.pairwise_append.mp (List.map_append ▸ hsound.increasing)
  refine ⟨hcalls.1, ?_, ?_,
    fun event => ⟨admitted_prefix_perform t event, ?_, gate_of_releases⟩, ?_⟩
  · intro admitted hadmitted waiting hwaiting
    exact hcalls.2.2 _ (List.mem_map_of_mem hadmitted) _ (List.mem_map_of_mem hwaiting)
  · intro call hcall
    exact hsound.arrived call.number (List.mem_map_of_mem hcall)
  · intro hheld hreleases
    refine (admitsIfFree_of_not_releases hreleases).resolve_right fun hfree => ?_
    exact absurd (hheld.symm.trans hfree.1) Bool.noConfusion
  · intro gate skipped rest call
    exact Gate.release_eq_handTo

end GateTraffic

end DocStore
