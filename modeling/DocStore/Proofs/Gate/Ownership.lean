import DocStore.Proofs.Gate.Admission
import Mathlib.Data.List.Perm.Subperm
/-!
# Who owns a gate

A gate is used by tasks, which release it in the end, and by callers, each of which holds a
`Ticket`. `GateTraffic` is a gate with all of them, and a `GateEvent` is one thing that one of them
does: a task arrives or releases the gate, a caller asks for a ticket, polls it or drops it. Tickets
may be dropped at any time. Events come in any order, so what a task does while it runs is just a
later event.

`GateTraffic.owned` says that after any events at most one party owns the gate, and that the gate is
held exactly when some party owns it. The invariant behind it, `GateTraffic.Sound`, counts the
holders and matches the callers that wait with the turns that are signalled or still in the queue.
-/

namespace DocStore

namespace Ticket

def isHolding : Ticket → Bool
  | .holding => true
  | _ => false

/-- The number under which a caller waits. -/
def number? : Ticket → Option Nat
  | .waiting number => some number
  | _ => none

/-- Whether a caller owns a gate: it holds the gate, or it was signalled and has not looked yet. -/
def owns (gate : Gate) : Ticket → Bool
  | .fresh => false
  | .waiting number => gate.signalled.contains number
  | .holding => true

end Ticket

/-- A gate with the tickets of its callers and the numbers of the tasks that have released it. -/
structure GateTraffic where
  gate : Gate
  tickets : List Ticket
  released : List Nat

/-- What one of the parties at a gate does. Tickets are designated by their place. -/
inductive GateEvent where
  | enter (work : GateTask)
  | release (task : Nat)
  | request
  | poll (place : Nat)
  | drop (place : Nat)

namespace GateTraffic

/-- A new gate that nobody uses yet. -/
def empty : GateTraffic := ⟨Gate.empty, [], []⟩

/-- The tasks that run and have not released the gate. -/
def running (t : GateTraffic) : List Nat := t.gate.standing.filter (· ∉ t.released)

/-- The number of parties that own the gate. -/
def owners (t : GateTraffic) : Nat := t.tickets.countP (Ticket.owns t.gate) + t.running.length

end GateTraffic

/-- The traffic after an event. A task can release the gate while it runs and only once; at a place
without a ticket nothing happens. -/
def GateEvent.perform (t : GateTraffic) : GateEvent → GateTraffic
  | .enter work => { t with gate := t.gate.enter work }
  | .release task =>
    if task ∈ t.running then { t with gate := t.gate.release, released := task :: t.released }
    else t
  | .request => { t with tickets := t.tickets ++ [.fresh] }
  | .poll place =>
    match t.tickets[place]? with
    | some ticket =>
      let (_, ticket, gate) := ticket.poll t.gate
      { t with gate, tickets := t.tickets.set place ticket }
    | none => t
  | .drop place =>
    match t.tickets[place]? with
    | some ticket => { t with gate := ticket.drop t.gate, tickets := t.tickets.eraseIdx place }
    | none => t

namespace GateTraffic

/-- The traffic after events. -/
def after (events : List GateEvent) : GateTraffic := events.foldl GateEvent.perform empty

/-! ## The invariant -/

/-- The numbers under which callers wait. -/
def waiting (t : GateTraffic) : List Nat := t.tickets.filterMap Ticket.number?

/-- Callers that wait are those that are signalled or have a live turn in the queue, and `n` parties
hold the gate: callers, tasks that have not released it, and callers that are signalled. -/
structure Sound (t : GateTraffic) (n : Nat) : Prop where
  gate : t.gate.Sound
  waiting : t.waiting.Perm (t.gate.signalled ++ t.gate.live)
  released_nodup : t.released.Nodup
  released_subset : t.released ⊆ t.gate.standing
  holders : t.tickets.countP Ticket.isHolding + t.gate.standing.length + t.gate.signalled.length =
    t.released.length + n

variable {t : GateTraffic} {n : Nat}

theorem waiting_cons_waiting (gate : Gate) (number : Nat) (others : List Ticket)
    (released : List Nat) :
    waiting ⟨gate, .waiting number :: others, released⟩ =
      number :: waiting ⟨gate, others, released⟩ :=
  rfl

theorem sound_empty : empty.Sound 0 where
  gate := Gate.sound_empty
  waiting := List.Perm.nil
  released_nodup := List.nodup_nil
  released_subset := List.nil_subset _
  holders := rfl

theorem Sound.released_length_le (h : t.Sound n) : t.released.length ≤ t.gate.standing.length :=
  (List.subperm_of_subset h.released_nodup h.released_subset).length_le

/-- The places of the tickets do not matter. -/
theorem Sound.perm {gate : Gate} {tickets others : List Ticket} {released : List Nat}
    (h : Sound ⟨gate, tickets, released⟩ n) (hperm : others.Perm tickets) :
    Sound ⟨gate, others, released⟩ n where
  gate := h.gate
  waiting := (hperm.filterMap _).trans h.waiting
  released_nodup := h.released_nodup
  released_subset := h.released_subset
  holders := by
    rw [hperm.countP_eq]
    exact h.holders

/-- A gate that is held while nobody holds it is released. -/
theorem Sound.release (h : t.Sound 0) (hheld : t.gate.held = true) :
    { t with gate := t.gate.release }.Sound t.gate.release.held.toNat where
  gate := h.gate.release hheld
  waiting := by
    rw [Gate.signalled_append_live_release]
    exact h.waiting
  released_nodup := h.released_nodup
  released_subset := List.Subset.trans h.released_subset (Gate.standing_subset_release t.gate)
  holders := by
    have hrelease := Gate.length_standing_release hheld
    have hholders := h.holders
    dsimp only at hholders ⊢
    omega

/-- Who waits is either signalled or has a live turn, under a number of its own. -/
theorem Sound.nodup (h : t.Sound n) (hn : n ≤ 1) : (t.gate.signalled ++ t.gate.live).Nodup := by
  obtain ⟨-, hqueue, hbefore⟩ := List.pairwise_append.mp (List.map_append ▸ h.gate.increasing)
  refine List.nodup_append.mpr ⟨?_, ?_, ?_⟩
  · have hholders := h.holders
    have hreleased := h.released_length_le
    match t.gate.signalled, (by omega : t.gate.signalled.length ≤ 1) with
    | [], _ => exact List.nodup_nil
    | [number], _ => exact List.nodup_singleton number
  · refine (List.pairwise_map.mp hqueue).filterMap _
      fun call other hlt number hnumber number' hnumber' => ?_
    rw [← GateCall.number_of_live? hnumber, ← GateCall.number_of_live? hnumber']
    exact Nat.ne_of_lt hlt
  · intro number hsignalled live hlive
    obtain ⟨call, hcall, hnumber⟩ := List.mem_filterMap.mp hlive
    refine Nat.ne_of_lt (hbefore number (h.gate.signalled hsignalled) live ?_)
    exact List.mem_map.mpr ⟨call, hcall, GateCall.number_of_live? hnumber⟩

/-! ## What the parties do -/

section

variable {gate : Gate} {ticket : Ticket} {others : List Ticket} {released : List Nat}

/-- A gate that somebody holds or is to hold is not free. -/
theorem Sound.held_of_holder (h : Sound ⟨gate, ticket :: others, released⟩ gate.held.toNat)
    (howns : ticket.owns gate = true) : gate.held = true := by
  have hholders := h.holders
  have hreleased := h.released_length_le
  by_contra hfree
  rw [Bool.not_eq_true] at hfree
  simp only [hfree, Bool.toNat_false, List.countP_cons] at hholders hreleased
  cases ticket with
  | fresh => cases howns
  | waiting number =>
    have hsignalled : gate.signalled = [] := List.length_eq_zero_iff.mp (by omega)
    rw [Ticket.owns, hsignalled] at howns
    cases howns
  | holding =>
    simp only [Ticket.isHolding, if_true] at hholders
    omega

/-- The caller of a signalled turn, which is one of the holders, does not wait any more. -/
theorem Sound.unsignal {number : Nat}
    (h : Sound ⟨gate, .waiting number :: others, released⟩ (n + 1))
    (hsignalled : number ∈ gate.signalled) :
    Sound ⟨{ gate with signalled := gate.signalled.erase number }, others, released⟩ n where
  gate := h.gate.unsignal number
  waiting := by
    have hwaiting := h.waiting.erase number
    rw [List.erase_append_left _ hsignalled] at hwaiting
    rwa [waiting_cons_waiting, List.erase_cons_head] at hwaiting
  released_nodup := h.released_nodup
  released_subset := h.released_subset
  holders := by
    have hholders := h.holders
    have hlength := List.length_erase_of_mem hsignalled
    have hpos := List.length_pos_of_mem hsignalled
    simp only [List.countP_cons, Ticket.isHolding, Bool.false_eq_true, if_false] at hholders ⊢
    show _ + gate.standing.length + _ = _
    omega

/-- A caller that holds the gate beside those that hold it already. -/
theorem Sound.hold (h : Sound ⟨gate, others, released⟩ n) :
    Sound ⟨gate, .holding :: others, released⟩ (n + 1) where
  gate := h.gate
  waiting := h.waiting
  released_nodup := h.released_nodup
  released_subset := h.released_subset
  holders := by
    have hholders := h.holders
    simp only [List.countP_cons, Ticket.isHolding, if_true] at hholders ⊢
    omega

/-- A holder that goes away. -/
theorem Sound.leave (h : Sound ⟨gate, .holding :: others, released⟩ (n + 1)) :
    Sound ⟨gate, others, released⟩ n where
  gate := h.gate
  waiting := h.waiting
  released_nodup := h.released_nodup
  released_subset := h.released_subset
  holders := by
    have hholders := h.holders
    simp only [List.countP_cons, Ticket.isHolding, if_true] at hholders ⊢
    omega

/-- A fresh ticket does not count. -/
theorem sound_fresh :
    Sound ⟨gate, .fresh :: others, released⟩ n ↔ Sound ⟨gate, others, released⟩ n :=
  ⟨fun h => ⟨h.gate, h.waiting, h.released_nodup, h.released_subset, h.holders⟩,
    fun h => ⟨h.gate, h.waiting, h.released_nodup, h.released_subset, h.holders⟩⟩

/-- A call queues at a gate that is held. -/
theorem Sound.enqueue {call : GateCall} {tickets : List Ticket}
    (h : Sound ⟨gate, others, released⟩ n) (hheld : gate.held = true)
    (hnumber : call.number = gate.arrived)
    (htickets : tickets = call.live?.toList.map .waiting ++ others) :
    Sound ⟨gate.enqueue call, tickets, released⟩ n where
  gate := h.gate.wait hnumber hheld
  waiting := by
    rw [Gate.live_enqueue, ← List.append_assoc]
    refine List.Perm.trans ?_ (List.perm_append_comm.trans (h.waiting.append_right _))
    rw [htickets]
    cases call.live? <;> exact List.Perm.refl _
  released_nodup := h.released_nodup
  released_subset := h.released_subset
  holders := by
    have hholders := h.holders
    rw [htickets]
    cases call.live? <;> exact hholders

/-- A call finds the gate free. -/
theorem Sound.letIn (call : GateCall) (h : Sound ⟨gate, others, released⟩ n)
    (hfree : gate.held = false) (hnumber : call.number = gate.arrived) :
    Sound ⟨gate.letIn call, others, released⟩ (n + call.standing?.toList.length) where
  gate := h.gate.letIn hnumber hfree
  waiting := h.waiting
  released_nodup := h.released_nodup
  released_subset := by
    rw [Gate.standing_letIn]
    exact List.subset_append_of_subset_left _ h.released_subset
  holders := by
    have hholders := h.holders
    rw [Gate.standing_letIn, List.length_append]
    show _ + _ + gate.signalled.length = _
    dsimp only at hholders ⊢
    omega

/-- A turn that waits is cancelled. -/
theorem Sound.cancel {number : Nat} (h : Sound ⟨gate, .waiting number :: others, released⟩ n)
    (hn : n ≤ 1) (hsignalled : number ∉ gate.signalled) :
    Sound ⟨{ gate with queue := gate.queue.map (GateCall.cancel number) }, others, released⟩ n where
  gate := h.gate.cancel number
  waiting := by
    have hwaiting := h.waiting.erase number
    have hlive : gate.live.Nodup := (List.nodup_append.mp (h.nodup hn)).2.1
    rw [List.erase_append_right _ hsignalled, hlive.erase_eq_filter] at hwaiting
    rw [waiting_cons_waiting, List.erase_cons_head] at hwaiting
    rwa [Gate.live_cancel]
  released_nodup := h.released_nodup
  released_subset := h.released_subset
  holders := h.holders

/-- **Polling a ticket keeps the account.** -/
theorem Sound.poll (h : Sound ⟨gate, ticket :: others, released⟩ gate.held.toNat) :
    Sound ⟨(ticket.poll gate).2.2, (ticket.poll gate).2.1 :: others, released⟩
      (ticket.poll gate).2.2.held.toNat := by
  cases ticket with
  | fresh =>
    rw [sound_fresh] at h
    cases hheld : gate.held with
    | true =>
      rw [Ticket.poll, Gate.acquire_of_held hheld]
      exact h.enqueue hheld rfl rfl
    | false =>
      rw [hheld] at h
      rw [Ticket.poll, Gate.acquire_of_free hheld]
      exact (h.letIn _ hheld rfl).hold
  | waiting number =>
    by_cases hsignalled : number ∈ gate.signalled
    · have hheld := h.held_of_holder (List.contains_iff_mem.mpr hsignalled)
      rw [Ticket.poll, Gate.take, if_pos (List.contains_iff_mem.mpr hsignalled)]
      rw [hheld] at h
      have hsound : Sound _ true.toNat := (h.unsignal hsignalled).hold
      rwa [← hheld] at hsound
    · rw [Ticket.poll, Gate.take, if_neg (mt List.contains_iff_mem.mp hsignalled)]
      exact h
  | holding => exact h

/-- **Dropping a ticket keeps the account.** -/
theorem Sound.drop (h : Sound ⟨gate, ticket :: others, released⟩ gate.held.toNat) :
    Sound ⟨ticket.drop gate, others, released⟩ (ticket.drop gate).held.toNat := by
  cases ticket with
  | fresh => exact sound_fresh.mp h
  | waiting number =>
    by_cases hsignalled : number ∈ gate.signalled
    · have hheld := h.held_of_holder (List.contains_iff_mem.mpr hsignalled)
      rw [hheld] at h
      rw [Ticket.drop, Gate.giveUp, if_pos (List.contains_iff_mem.mpr hsignalled)]
      exact (h.unsignal hsignalled).release hheld
    · rw [Ticket.drop, Gate.giveUp, if_neg (mt List.contains_iff_mem.mp hsignalled)]
      exact h.cancel (Bool.toNat_le _) hsignalled
  | holding =>
    have hheld := h.held_of_holder rfl
    rw [hheld] at h
    exact h.leave.release hheld

end

/-- A task that runs releases the gate. -/
theorem Sound.releaseTask {task : Nat} (h : t.Sound t.gate.held.toNat)
    (hrunning : task ∈ t.running) :
    { t with gate := t.gate.release, released := task :: t.released }.Sound
      t.gate.release.held.toNat := by
  obtain ⟨hstanding, hfresh⟩ := List.mem_filter.mp hrunning
  have hnodup : (task :: t.released).Nodup :=
    List.nodup_cons.mpr ⟨of_decide_eq_true hfresh, h.released_nodup⟩
  have hsubset : task :: t.released ⊆ t.gate.standing :=
    List.cons_subset.mpr ⟨hstanding, h.released_subset⟩
  have hlength := (List.subperm_of_subset hnodup hsubset).length_le
  have hholders := h.holders
  have hheld : t.gate.held = true := by
    by_contra hfree
    rw [Bool.not_eq_true] at hfree
    simp only [hfree, Bool.toNat_false, List.length_cons] at hholders hlength
    omega
  refine Sound.release (t := { t with released := task :: t.released }) ?_ hheld
  refine ⟨h.gate, h.waiting, hnodup, hsubset, ?_⟩
  rw [hheld] at hholders
  simp only [List.length_cons, Bool.toNat_true] at hholders ⊢
  omega

/-- **Every event keeps the account.** -/
theorem Sound.perform (h : t.Sound t.gate.held.toNat) (event : GateEvent) :
    (event.perform t).Sound (event.perform t).gate.held.toNat := by
  cases event with
  | enter work =>
    cases hheld : t.gate.held with
    | true =>
      rw [GateEvent.perform, Gate.enter_of_held hheld]
      exact h.enqueue hheld rfl rfl
    | false =>
      rw [hheld] at h
      rw [GateEvent.perform, Gate.enter_of_free hheld]
      have hletIn := h.letIn (.task t.gate.arrived work) hheld rfl
      by_cases hreleases : work.releases = true
      · rw [GateCall.standing?, if_pos hreleases] at hletIn
        rw [if_pos hreleases]
        exact hletIn.release rfl
      · rw [GateCall.standing?, if_neg hreleases] at hletIn
        rw [if_neg hreleases]
        exact hletIn
  | release task =>
    rw [GateEvent.perform]
    by_cases hrunning : task ∈ t.running
    · rw [if_pos hrunning]
      exact h.releaseTask hrunning
    · rw [if_neg hrunning]
      exact h
  | request => exact (sound_fresh.mpr h).perm (List.perm_append_singleton _ _)
  | poll place =>
    rw [GateEvent.perform]
    cases hticket : t.tickets[place]? with
    | none => exact h
    | some ticket =>
      obtain ⟨hplace, rfl⟩ := List.getElem?_eq_some_iff.mp hticket
      have hfront := h.perm (List.getElem_cons_eraseIdx_perm hplace)
      exact hfront.poll.perm (List.set_perm_cons_eraseIdx hplace _)
  | drop place =>
    rw [GateEvent.perform]
    cases hticket : t.tickets[place]? with
    | none => exact h
    | some ticket =>
      obtain ⟨hplace, rfl⟩ := List.getElem?_eq_some_iff.mp hticket
      have hfront := h.perm (List.getElem_cons_eraseIdx_perm hplace)
      exact hfront.drop

/-- The account holds after any events. -/
theorem sound_after (events : List GateEvent) :
    (after events).Sound (after events).gate.held.toNat := by
  have hfrom (t : GateTraffic) (ht : t.Sound t.gate.held.toNat) :
      (events.foldl GateEvent.perform t).Sound
        (events.foldl GateEvent.perform t).gate.held.toNat := by
    induction events generalizing t with
    | nil => exact ht
    | cons event events ih => exact ih (event.perform t) (ht.perform event)
  exact hfrom empty sound_empty

/-! ## Owners -/

/-- Callers own the gate that hold it or wait under a number that is signalled. -/
theorem countP_owns (gate : Gate) (tickets : List Ticket) :
    tickets.countP (Ticket.owns gate) = tickets.countP Ticket.isHolding +
      (tickets.filterMap Ticket.number?).countP fun number => gate.signalled.contains number := by
  induction tickets with
  | nil => rfl
  | cons ticket tickets ih =>
    cases ticket with
    | fresh => exact ih
    | waiting number =>
      simp only [List.countP_cons, List.filterMap_cons, Ticket.owns, Ticket.isHolding,
        Ticket.number?, ih, Bool.false_eq_true, if_false, Nat.add_zero, Nat.add_assoc]
      rfl
    | holding =>
      simp only [List.countP_cons, List.filterMap_cons, Ticket.owns, Ticket.isHolding,
        Ticket.number?, ih, if_true]
      omega

theorem Sound.nodup_standing (h : t.Sound n) : t.gate.standing.Nodup := by
  obtain ⟨hadmitted, -, -⟩ := List.pairwise_append.mp (List.map_append ▸ h.gate.increasing)
  refine (List.pairwise_map.mp hadmitted).filterMap _
    fun call other hlt task htask task' htask' => ?_
  rw [← GateCall.number_of_standing? htask, ← GateCall.number_of_standing? htask']
  exact Nat.ne_of_lt hlt

/-- A task that keeps the gate runs until it has released it. -/
theorem Sound.length_running (h : t.Sound n) :
    t.running.length + t.released.length = t.gate.standing.length := by
  have hperm : (t.gate.standing.filter (· ∈ t.released)).Perm t.released := by
    refine (List.perm_ext_iff_of_nodup (h.nodup_standing.filter _) h.released_nodup).mpr
      fun task => ?_
    rw [List.mem_filter, decide_eq_true_iff]
    exact ⟨And.right, fun hreleased => ⟨h.released_subset hreleased, hreleased⟩⟩
  rw [← hperm.length_eq, running, ← List.countP_eq_length_filter, ← List.countP_eq_length_filter,
    List.length_eq_countP_add_countP (· ∈ t.released), Nat.add_comm]
  simp only [decide_not, decide_eq_true_eq]

/-- The owners are the holders. -/
theorem Sound.owners_eq (h : t.Sound n) (hn : n ≤ 1) : t.owners = n := by
  obtain ⟨-, -, hdisjoint⟩ := List.nodup_append.mp (h.nodup hn)
  have hwaiting : t.waiting.countP (fun number => t.gate.signalled.contains number) =
      t.gate.signalled.length := by
    have hlive : t.gate.live.countP (fun number => t.gate.signalled.contains number) = 0 :=
      List.countP_eq_zero.mpr fun number hnumber hsignalled =>
        hdisjoint number (List.contains_iff_mem.mp hsignalled) number hnumber rfl
    rw [h.waiting.countP_eq, List.countP_append, hlive, Nat.add_zero, List.countP_eq_length]
    exact fun number hnumber => List.contains_iff_mem.mpr hnumber
  have hrunning := h.length_running
  have hholders := h.holders
  rw [owners, countP_owns]
  rw [GateTraffic.waiting] at hwaiting
  omega

/-- **At most one party owns a gate, and a gate that is held has an owner**, after any events of its
parties in any order: an owner is a caller that holds the gate, a task that runs and has not
released it, or a caller that was signalled and has not looked yet. -/
theorem owned (events : List GateEvent) :
    (after events).owners ≤ 1 ∧ ((after events).gate.held = true ↔ 0 < (after events).owners) := by
  have howners := (sound_after events).owners_eq (Bool.toNat_le _)
  rw [howners]
  cases (after events).gate.held <;> decide

end GateTraffic

end DocStore
