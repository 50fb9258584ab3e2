import DocStore.Gate
import Mathlib.Data.List.Nodup
/-!
# How a gate is handed on

`Gate.handOver` walks along the queue until it meets a call that keeps the gate.
`Gate.handOver_cases` says once what it leaves; the rest is derived from it:

* `Gate.release_eq_handTo`: the gate goes to the earliest call that is not cancelled;
* `Gate.Sound.release`: calls are admitted in the order of arrival, and none waits at a free gate;
* `Gate.signalled_append_live_release` and `Gate.length_standing_release`: what becomes of the turns
  that wait, and how many calls hold the gate afterwards.
-/

namespace DocStore

namespace GateCall

/-- Whether the caller went away while it waited. -/
def isCancelled : GateCall → Bool
  | .task _ _ => false
  | .turn _ cancelled => cancelled

/-- Whether the call releases the gate at once when it gets it. -/
def releasesAtOnce : GateCall → Bool
  | .task _ work => work.releases
  | .turn _ _ => false

/-- The number of a task that keeps the gate when it gets it. -/
def standing? : GateCall → Option Nat
  | .task number work => if work.releases then none else some number
  | .turn _ _ => none

/-- The number of a turn that is not cancelled. -/
def live? : GateCall → Option Nat
  | .task _ _ => none
  | .turn number cancelled => if cancelled then none else some number

/-- A call that does not keep the gate: it is skipped, or it releases the gate at once. -/
def Passes (call : GateCall) : Prop := call.isCancelled = true ∨ call.releasesAtOnce = true

@[simp] theorem number_cancel (id : Nat) (call : GateCall) :
    (call.cancel id).number = call.number := by
  cases call <;> rfl

theorem live?_cancel (id : Nat) (call : GateCall) :
    (call.cancel id).live? = call.live?.filter (· != id) := by
  cases call with
  | task number work => rfl
  | turn number cancelled =>
    cases cancelled with
    | true => rfl
    | false => by_cases h : number = id <;> simp [cancel, live?, Option.filter, h]

theorem number_of_live? {call : GateCall} {number : Nat} (h : call.live? = some number) :
    call.number = number := by
  cases call with
  | task => cases h
  | turn n cancelled =>
    rw [live?, Option.ite_none_left_eq_some] at h
    exact Option.some.inj h.2

theorem number_of_standing? {call : GateCall} {number : Nat}
    (h : call.standing? = some number) : call.number = number := by
  cases call with
  | task n work =>
    rw [standing?, Option.ite_none_left_eq_some] at h
    exact Option.some.inj h.2
  | turn => cases h

theorem Passes.standing? {call : GateCall} (h : call.Passes) : call.standing? = none := by
  cases call with
  | task number work =>
    have hreleases : work.releases = true := h.resolve_left Bool.noConfusion
    exact if_pos hreleases
  | turn => rfl

theorem Passes.live? {call : GateCall} (h : call.Passes) : call.live? = none := by
  cases call with
  | task => rfl
  | turn number cancelled =>
    have hcancelled : cancelled = true := h.resolve_right Bool.noConfusion
    exact if_pos hcancelled

/-- A call that keeps the gate is a task or a turn, and not both. -/
theorem length_of_not_passes {call : GateCall} (h : ¬ call.Passes) :
    call.standing?.toList.length + call.live?.toList.length = 1 := by
  cases call with
  | task number work =>
    have hkeeps : work.releases ≠ true := fun hreleases => h (.inr hreleases)
    rw [GateCall.standing?, if_neg hkeeps]
    rfl
  | turn number cancelled =>
    have hlive : cancelled ≠ true := fun hcancelled => h (.inl hcancelled)
    rw [GateCall.live?, if_neg hlive]
    rfl

end GateCall

namespace Gate

/-- Everything a hand-over can do: calls that do not keep the gate are passed, and then the queue is
at its end and the gate is free, or the next call keeps the gate. -/
theorem handOver_cases (gate : Gate) (queue : List GateCall) :
    ∃ passed : List GateCall, (∀ call ∈ passed, call.Passes) ∧
      ((queue = passed ∧ gate.handOver queue =
          { gate with
            held := false, queue := []
            admitted := gate.admitted ++ passed.filter (!·.isCancelled) }) ∨
        ∃ call rest, queue = passed ++ call :: rest ∧ ¬ call.Passes ∧ gate.handOver queue =
          { gate with
            queue := rest, signalled := gate.signalled ++ call.live?.toList
            admitted := gate.admitted ++ passed.filter (!·.isCancelled) ++ [call] }) := by
  induction queue generalizing gate with
  | nil =>
    refine ⟨[], fun _ h => absurd h List.not_mem_nil, .inl ⟨rfl, ?_⟩⟩
    rw [List.filter_nil, List.append_nil]
    rfl
  | cons call queue ih =>
    cases call with
    | task number work =>
      by_cases hreleases : work.releases = true
      · obtain ⟨passed, hpassed, hend⟩ := ih (gate.grant (.task number work))
        refine ⟨.task number work :: passed, List.forall_mem_cons.mpr ⟨.inr hreleases, hpassed⟩, ?_⟩
        rw [handOver, if_pos hreleases, List.filter_cons_of_pos rfl, List.append_cons]
        exact hend.imp (.imp_left fun h => by rw [h])
          fun ⟨call, rest, hqueue, hkeeps⟩ => ⟨call, rest, by rw [hqueue, List.cons_append], hkeeps⟩
      · refine ⟨[], fun _ h => absurd h List.not_mem_nil,
          .inr ⟨.task number work, queue, rfl, ?_, ?_⟩⟩
        · exact fun h => hreleases (h.resolve_left Bool.noConfusion)
        · rw [handOver, if_neg hreleases, List.filter_nil, List.append_nil, GateCall.live?,
            Option.toList_none, List.append_nil]
          rfl
    | turn number cancelled =>
      cases cancelled with
      | true =>
        obtain ⟨passed, hpassed, hend⟩ := ih gate
        refine ⟨.turn number true :: passed, List.forall_mem_cons.mpr ⟨.inl rfl, hpassed⟩, ?_⟩
        rw [handOver, if_pos rfl, List.filter_cons_of_neg (by simp [GateCall.isCancelled])]
        exact hend.imp (.imp_left fun h => by rw [h])
          fun ⟨call, rest, hqueue, hkeeps⟩ => ⟨call, rest, by rw [hqueue, List.cons_append], hkeeps⟩
      | false =>
        refine ⟨[], fun _ h => absurd h List.not_mem_nil,
          .inr ⟨.turn number false, queue, rfl, ?_, ?_⟩⟩
        · exact fun h => h.elim Bool.noConfusion Bool.noConfusion
        · rw [handOver, if_neg Bool.false_ne_true, List.filter_nil, List.append_nil]
          rfl

/-! ## Who gets the gate -/

/-- The gate in the hands of a call, with the calls behind it waiting on. -/
def handTo (gate : Gate) (call : GateCall) (rest : List GateCall) : Gate :=
  { gate.grant call with queue := rest, signalled := gate.signalled ++ call.live?.toList }

/-- A hand-over does not look at the queue that is there. -/
theorem handOver_with_queue (gate : Gate) (queue other : List GateCall) :
    { gate with queue := other }.handOver queue = gate.handOver queue := by
  induction queue generalizing gate with
  | nil => rfl
  | cons call queue ih =>
    cases call with
    | task number work =>
      rw [handOver, handOver]
      split
      · exact ih (gate.grant (.task number work))
      · rfl
    | turn number cancelled =>
      rw [handOver, handOver]
      split
      · exact ih gate
      · rfl

/-- Cancelled calls are skipped. -/
theorem handOver_append_cancelled (gate : Gate) {skipped : List GateCall}
    (hskipped : ∀ call ∈ skipped, call.isCancelled = true) (queue : List GateCall) :
    gate.handOver (skipped ++ queue) = gate.handOver queue := by
  induction skipped with
  | nil => rfl
  | cons call skipped ih =>
    obtain ⟨hcall, hrest⟩ := List.forall_mem_cons.mp hskipped
    cases call with
    | task => cases hcall
    | turn number cancelled =>
      rw [GateCall.isCancelled] at hcall
      rw [List.cons_append, handOver, if_pos hcall, ih hrest]

/-- **A release hands the gate to the earliest call that is not cancelled.** If that call releases
it at once, the next release follows. -/
theorem release_eq_handTo {gate : Gate} {skipped rest : List GateCall} {call : GateCall}
    (hqueue : gate.queue = skipped ++ call :: rest)
    (hskipped : ∀ call ∈ skipped, call.isCancelled = true) (hcall : call.isCancelled = false) :
    gate.release =
      if call.releasesAtOnce then (gate.handTo call rest).release else gate.handTo call rest := by
  rw [release, hqueue, handOver_append_cancelled gate hskipped]
  cases call with
  | task number work =>
    rw [handOver, handTo, release, GateCall.live?, Option.toList_none, List.append_nil,
      GateCall.releasesAtOnce]
    congr 1
    exact (handOver_with_queue _ rest rest).symm
  | turn number cancelled =>
    rw [GateCall.isCancelled] at hcall
    subst hcall
    rfl

/-! ## The order of arrival -/

/-- The calls that were admitted or still wait, in this order. -/
def calls (gate : Gate) : List GateCall := gate.admitted ++ gate.queue

/-- Calls are numbered as they arrive, those that wait arrived after those that were admitted, and
no call waits at a free gate. Who is signalled was admitted. -/
structure Sound (gate : Gate) : Prop where
  increasing : (gate.calls.map GateCall.number).Pairwise (· < ·)
  arrived : ∀ number ∈ gate.calls.map GateCall.number, number < gate.arrived
  idle : gate.held = false → gate.queue = []
  signalled : gate.signalled ⊆ gate.admitted.map GateCall.number

theorem sound_empty : empty.Sound where
  increasing := List.Pairwise.nil
  arrived _ h := absurd h List.not_mem_nil
  idle _ := rfl
  signalled := List.nil_subset _

/-- Handing over only appends to the history. -/
theorem admitted_prefix_handOver (gate : Gate) (queue : List GateCall) :
    gate.admitted <+: (gate.handOver queue).admitted := by
  obtain ⟨passed, -, ⟨-, h⟩ | ⟨call, rest, -, -, h⟩⟩ := gate.handOver_cases queue
  · rw [h]
    exact List.prefix_append _ _
  · rw [h]
    exact (List.prefix_append _ _).trans (List.prefix_append _ _)

/-- Handing over moves calls from the queue to the history and drops cancelled ones; none overtakes
another. -/
theorem calls_handOver_sublist (gate : Gate) (queue : List GateCall) :
    (gate.handOver queue).calls.Sublist (gate.admitted ++ queue) := by
  obtain ⟨passed, -, ⟨rfl, h⟩ | ⟨call, rest, rfl, -, h⟩⟩ := gate.handOver_cases queue
  · rw [h, calls, List.append_nil]
    exact List.filter_sublist.append_left _
  · rw [h, calls, ← List.append_cons, List.append_assoc]
    exact (List.filter_sublist.append_right _).append_left _

theorem arrived_handOver (gate : Gate) (queue : List GateCall) :
    (gate.handOver queue).arrived = gate.arrived := by
  obtain ⟨passed, -, ⟨-, h⟩ | ⟨call, rest, -, -, h⟩⟩ := gate.handOver_cases queue <;> rw [h]

theorem Sound.release {gate : Gate} (h : gate.Sound) (hheld : gate.held = true) :
    gate.release.Sound where
  increasing := h.increasing.sublist ((calls_handOver_sublist gate gate.queue).map _)
  arrived number hnumber := by
    rw [Gate.release, arrived_handOver]
    exact h.arrived number (((calls_handOver_sublist gate gate.queue).map _).subset hnumber)
  idle := by
    rw [Gate.release]
    obtain ⟨passed, -, ⟨-, hgate⟩ | ⟨call, rest, -, -, hgate⟩⟩ := gate.handOver_cases gate.queue
    · rw [hgate]
      exact fun _ => rfl
    · rw [hgate]
      exact fun hfree => absurd (hheld.symm.trans hfree) Bool.noConfusion
  signalled := by
    rw [Gate.release]
    obtain ⟨passed, -, ⟨-, hgate⟩ | ⟨call, rest, -, -, hgate⟩⟩ := gate.handOver_cases gate.queue
    · rw [hgate, List.map_append]
      exact List.subset_append_of_subset_left _ h.signalled
    · rw [hgate, List.map_append, List.map_append]
      refine List.append_subset.mpr ⟨?_, ?_⟩
      · exact List.subset_append_of_subset_left _ (List.subset_append_of_subset_left _ h.signalled)
      · intro number hnumber
        rw [Option.mem_toList] at hnumber
        exact List.mem_append_right _
          (List.mem_singleton.mpr (GateCall.number_of_live? hnumber).symm)

/-- A call that arrives, whether it is admitted at once or waits. -/
theorem Sound.arrive {gate next : Gate} (h : gate.Sound)
    (hcalls : next.calls.map GateCall.number = gate.calls.map GateCall.number ++ [gate.arrived])
    (harrived : next.arrived = gate.arrived + 1) (hheld : next.held = true)
    (hsignalled : next.signalled = gate.signalled) (hadmitted : gate.admitted ⊆ next.admitted) :
    next.Sound where
  increasing := by
    rw [hcalls, List.pairwise_append]
    refine ⟨h.increasing, List.pairwise_singleton _ _, ?_⟩
    intro number hnumber last hlast
    rw [List.mem_singleton.mp hlast]
    exact h.arrived number hnumber
  arrived number hnumber := by
    rw [hcalls, List.mem_append, List.mem_singleton] at hnumber
    rw [harrived]
    rcases hnumber with hold | rfl
    · exact Nat.lt_succ_of_lt (h.arrived number hold)
    · exact Nat.lt_succ_self _
  idle hfree := absurd (hheld.symm.trans hfree) Bool.noConfusion
  signalled := by
    rw [hsignalled]
    exact List.Subset.trans h.signalled (List.map_subset _ hadmitted)

/-- A gate with one more call behind those that wait. -/
def enqueue (gate : Gate) (call : GateCall) : Gate :=
  { gate with arrived := gate.arrived + 1, queue := gate.queue ++ [call] }

/-- A gate that a call has found free. -/
def letIn (gate : Gate) (call : GateCall) : Gate :=
  { gate.grant call with arrived := gate.arrived + 1, held := true }

theorem acquire_of_held {gate : Gate} (hheld : gate.held = true) :
    gate.acquire = (some gate.arrived, gate.enqueue (.turn gate.arrived false)) := if_pos hheld

theorem acquire_of_free {gate : Gate} (hfree : gate.held = false) :
    gate.acquire = (none, gate.letIn (.turn gate.arrived false)) :=
  if_neg (ne_true_of_eq_false hfree)

theorem enter_of_held {gate : Gate} (hheld : gate.held = true) (work : GateTask) :
    gate.enter work = gate.enqueue (.task gate.arrived work) := if_pos hheld

theorem enter_of_free {gate : Gate} (hfree : gate.held = false) (work : GateTask) :
    gate.enter work =
      let next := gate.letIn (.task gate.arrived work)
      if work.releases then next.release else next :=
  if_neg (ne_true_of_eq_false hfree)

/-- A call that waits behind the others. -/
theorem Sound.wait {gate : Gate} (h : gate.Sound) {call : GateCall}
    (hnumber : call.number = gate.arrived) (hheld : gate.held = true) :
    (gate.enqueue call).Sound := by
  refine h.arrive ?_ rfl hheld rfl (List.Subset.refl _)
  rw [calls, calls, enqueue, ← List.append_assoc, List.map_append, List.map_singleton, hnumber]

/-- A call that finds the gate free. -/
theorem Sound.letIn {gate : Gate} (h : gate.Sound) {call : GateCall}
    (hnumber : call.number = gate.arrived) (hfree : gate.held = false) :
    (gate.letIn call).Sound := by
  refine h.arrive ?_ rfl rfl rfl (List.subset_append_left _ _)
  have hqueue : gate.queue = [] := h.idle hfree
  simp only [calls, Gate.letIn, grant, hqueue, List.append_nil, List.map_append, List.map_singleton,
    hnumber]

/-- A signal that its caller has noticed, or gives up. -/
theorem Sound.unsignal {gate : Gate} (h : gate.Sound) (number : Nat) :
    { gate with signalled := gate.signalled.erase number }.Sound where
  increasing := h.increasing
  arrived := h.arrived
  idle := h.idle
  signalled := List.Subset.trans List.erase_subset h.signalled

/-- A turn that is cancelled while it waits. -/
theorem Sound.cancel {gate : Gate} (h : gate.Sound) (number : Nat) :
    { gate with queue := gate.queue.map (GateCall.cancel number) }.Sound := by
  have hcalls : ({ gate with queue := gate.queue.map (GateCall.cancel number) } : Gate).calls.map
      GateCall.number = gate.calls.map GateCall.number := by
    simp [calls, Function.comp_def]
  constructor
  · rw [hcalls]
    exact h.increasing
  · rw [hcalls]
    exact h.arrived
  · intro hfree
    exact List.map_eq_nil_iff.mpr (h.idle hfree)
  · exact h.signalled

/-! ## Who holds the gate, and who waits -/

/-- The tasks that have been admitted and keep the gate until they release it. -/
def standing (gate : Gate) : List Nat := gate.admitted.filterMap GateCall.standing?

/-- The turns that wait and are not cancelled. -/
def live (gate : Gate) : List Nat := gate.queue.filterMap GateCall.live?

theorem live_enqueue (gate : Gate) (call : GateCall) :
    (gate.enqueue call).live = gate.live ++ call.live?.toList := by
  cases h : call.live? <;> simp [live, enqueue, List.filterMap_append, h]

theorem standing_letIn (gate : Gate) (call : GateCall) :
    (gate.letIn call).standing = gate.standing ++ call.standing?.toList := by
  cases h : call.standing? <;> simp [standing, letIn, grant, List.filterMap_append, h]

theorem live_cancel (gate : Gate) (number : Nat) :
    { gate with queue := gate.queue.map (GateCall.cancel number) }.live =
      gate.live.filter (· != number) := by
  rw [live, live, List.filterMap_map, List.filter_filterMap]
  exact List.filterMap_congr fun call _ => GateCall.live?_cancel number call

/-- Handing over signals the first of the turns that wait, if a turn gets the gate. -/
theorem signalled_append_live_release (gate : Gate) :
    gate.release.signalled ++ gate.release.live = gate.signalled ++ gate.live := by
  have hnone (passed : List GateCall) (hpassed : ∀ call ∈ passed, call.Passes) :
      passed.filterMap GateCall.live? = [] :=
    List.filterMap_eq_nil_iff.mpr fun call hcall => (hpassed call hcall).live?
  rw [release]
  obtain ⟨passed, hpassed, ⟨hqueue, hgate⟩ | ⟨call, rest, hqueue, -, hgate⟩⟩ :=
    gate.handOver_cases gate.queue
  · rw [hgate, live, live, hqueue, hnone passed hpassed, List.filterMap_nil]
  · rw [hgate, live, live, hqueue, List.filterMap_append, hnone passed hpassed, List.nil_append,
      List.append_assoc]
    cases hlive : call.live? with
    | none => rw [List.filterMap_cons_none hlive, Option.toList_none, List.nil_append]
    | some number => rw [List.filterMap_cons_some hlive, Option.toList_some, List.singleton_append]

/-- Handing over makes one holder more, unless the gate is free afterwards. -/
theorem length_standing_release {gate : Gate} (hheld : gate.held = true) :
    gate.release.standing.length + gate.release.signalled.length =
      gate.standing.length + gate.signalled.length + gate.release.held.toNat := by
  have hnone (passed : List GateCall) (hpassed : ∀ call ∈ passed, call.Passes) :
      (passed.filter (!·.isCancelled)).filterMap GateCall.standing? = [] :=
    List.filterMap_eq_nil_iff.mpr fun call hcall =>
      (hpassed call (List.mem_filter.mp hcall).1).standing?
  rw [release]
  obtain ⟨passed, hpassed, ⟨-, hgate⟩ | ⟨call, rest, -, hkeeps, hgate⟩⟩ :=
    gate.handOver_cases gate.queue
  · rw [hgate, standing, standing, List.filterMap_append, hnone passed hpassed, List.append_nil]
    rfl
  · have hone := GateCall.length_of_not_passes hkeeps
    have hcall : [call].filterMap GateCall.standing? = call.standing?.toList := by
      cases h : call.standing? <;> simp [h]
    rw [hgate, standing, standing, List.filterMap_append, List.filterMap_append,
      hnone passed hpassed, List.append_nil, hcall, List.length_append, List.length_append]
    simp only [hheld, Bool.toNat_true]
    omega

/-- The admitted calls keep their part in the account. -/
theorem standing_subset_release (gate : Gate) : gate.standing ⊆ gate.release.standing :=
  List.filterMap_subset _ (admitted_prefix_handOver gate gate.queue).subset

end Gate

end DocStore
