import DocStore.Session
/-!
# How actions run

An action runs on a state to a result and a state. `ActOn.run_bind` runs a sequence, and
`ActOn.bind_eq_ok` takes a sequence that succeeded apart.
-/

namespace DocStore

/-- A session whose source of identifiers nobody asks. -/
def Session.idleOn {σ : Type} (host : σ) : Session σ := ⟨⟨0, [], fun _ => ⟨0, 0, 0⟩, 0⟩, host⟩

/-- Such a session of a host without state. -/
def Session.idle : Session Unit := .idleOn ()

namespace ActOn

variable {τ α β : Type}

@[simp] theorem run_pure (a : α) (s : τ) : (pure a : ActOn τ α).run s = (.ok a, s) := rfl

@[simp] theorem run_throw (e : StoreError) (s : τ) :
    (throw e : ActOn τ α).run s = (.error e, s) := rfl

theorem run_get_bind (next : τ → ActOn τ α) (s : τ) :
    ((get : ActOn τ τ) >>= next).run s = (next s).run s := rfl

/-- The second action runs on the result and the state of the first, unless that failed. -/
theorem run_bind (act : ActOn τ α) (next : α → ActOn τ β) (s : τ) :
    (act >>= next).run s =
      match act.run s with
      | (.ok a, s') => (next a).run s'
      | (.error e, s') => (.error e, s') := by
  show (ExceptT.bindCont next (act.run s).1 : StateM τ _) (act.run s).2 = _
  rcases act.run s with ⟨_ | a, s'⟩ <;> rfl

theorem run_bind_of_ok {act : ActOn τ α} {next : α → ActOn τ β} {s s' : τ} {a : α}
    (h : act.run s = (.ok a, s')) : (act >>= next).run s = (next a).run s' := by
  rw [run_bind, h]

theorem run_bind_of_error {act : ActOn τ α} {next : α → ActOn τ β} {s s' : τ} {e : StoreError}
    (h : act.run s = (.error e, s')) : (act >>= next).run s = (.error e, s') := by
  rw [run_bind, h]

/-- A sequence that succeeds has succeeded in both parts. -/
theorem bind_eq_ok {act : ActOn τ α} {next : α → ActOn τ β} {s s' : τ} {b : β}
    (h : (act >>= next).run s = (.ok b, s')) :
    ∃ a t, act.run s = (.ok a, t) ∧ (next a).run t = (.ok b, s') := by
  rw [run_bind] at h
  rcases hact : act.run s with ⟨_ | a, t⟩
  · rw [hact] at h
    cases h
  · rw [hact] at h
    exact ⟨a, t, rfl, h⟩

/-- Dropping the result of an action does not change the state after it. -/
theorem run_discard_state (act : ActOn τ α) (s : τ) :
    ((do let _ ← act : ActOn τ Unit).run s).2 = (act.run s).2 := by
  rw [run_bind]
  rcases act.run s with ⟨_ | _, _⟩ <;> rfl

/-- What every action of a family keeps, the actions in turn keep, also when one fails. -/
theorem mapM_preserves {P : τ → Prop} {f : α → ActOn τ β}
    (h : ∀ a s, P s → P ((f a).run s).2) (items : List α) {s : τ} (hs : P s) :
    P ((items.mapM f).run s).2 := by
  induction items generalizing s with
  | nil => exact hs
  | cons a items ih =>
    have ha := h a s hs
    rw [List.mapM_cons, run_bind]
    rcases hrun : (f a).run s with ⟨e | b, t⟩
    · rw [hrun] at ha
      exact ha
    · rw [hrun] at ha
      have hrest := ih ha
      dsimp only
      rw [run_bind]
      rcases hruns : (items.mapM f).run t with ⟨e | bs, u⟩
      · rw [hruns] at hrest
        exact hrest
      · rw [hruns] at hrest
        exact hrest

/-- Every result of actions in turn is the result of one of them. -/
theorem exists_of_mem_mapM {f : α → ActOn τ β} {items : List α} {results : List β} {s s' : τ}
    (h : (items.mapM f).run s = (.ok results, s')) {b : β} (hb : b ∈ results) :
    ∃ a ∈ items, ∃ t t', (f a).run t = (.ok b, t') := by
  induction items generalizing results s with
  | nil =>
    cases h
    exact absurd hb List.not_mem_nil
  | cons a items ih =>
    rw [List.mapM_cons] at h
    obtain ⟨first, t, hfirst, hrest⟩ := bind_eq_ok h
    obtain ⟨others, t', hothers, hdone⟩ := bind_eq_ok hrest
    cases hdone
    rcases List.mem_cons.mp hb with rfl | hb
    · exact ⟨a, List.mem_cons_self, s, t, hfirst⟩
    · obtain ⟨other, hother, hrun⟩ := ih hothers hb
      exact ⟨other, List.mem_cons_of_mem _ hother, hrun⟩

end ActOn

namespace Act

variable {σ α : Type}

@[simp] theorem run_ofExcept (result : Except StoreError α) (s : Session σ) :
    (ofExcept result : Act σ α).run s = (result, s) := rfl

end Act

end DocStore
