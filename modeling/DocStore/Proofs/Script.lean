import DocStore.Script
/-!
# How scripts run

`Script.run_bind` runs a sequence. `Script.run_all` and `Script.run_any` say that the tests of a
list are asked in order, up to the one that decides.

A run preserves what the reads of the script preserve (`Script.run_preserves`), and it is the same
on states that hold more, if the reads are (`Script.run_erases`).
-/

namespace DocStore

/-- The first computation is the second one, on states that hold more. -/
def Erases {τ τ' α : Type} (forget : τ' → τ) (act' : StateM τ' α) (act : StateM τ α) : Prop :=
  ∀ s, act (forget s) = ((act' s).1, forget (act' s).2)

namespace Script

variable {τ τ' σ ω α β : Type}

section

variable (access : Access τ σ ω)

/-- The second script runs on the result of the first and in the state that the first leaves. -/
theorem run_bind (script : Script σ ω α) (next : α → Script σ ω β) (t : τ) :
    run access (script.bind next) t =
      run access (next (run access script t).1) (run access script t).2 := by
  induction script generalizing t with
  | done a => rfl
  | read path reply ih => exact ih _ _
  | look reply ih => exact ih _ _
  | write change rest ih => exact ih _
  | host reply ih => exact ih _ _
  | setHost state rest ih => exact ih _

theorem run_value (path : String) (next : Option Value → Script σ ω α) (t : τ) :
    run access ((value path).bind next) t =
      run access (next (access.value path t).1) (access.value path t).2 := rfl

/-- A test as a question to the record. -/
def question (test : Script σ ω Bool) : StateM τ Bool := run access test

theorem run_all (tests : List (Script σ ω Bool)) :
    question access (all tests) = (tests.map (question access)).allM id := by
  induction tests with
  | nil => rfl
  | cons test tests ih =>
    funext t
    rw [List.map_cons, List.allM_cons, ← ih, question, all, run_bind]
    show _ = (if (run access test t).1 then question access (all tests) else pure false)
      (run access test t).2
    split <;> rfl

theorem run_any (tests : List (Script σ ω Bool)) :
    question access (any tests) = (tests.map (question access)).anyM id := by
  induction tests with
  | nil => rfl
  | cons test tests ih =>
    funext t
    rw [List.map_cons, List.anyM_cons, ← ih, question, any, run_bind]
    show _ = (if (run access test t).1 then pure true else question access (any tests))
      (run access test t).2
    split <;> rfl

/-- The contrary of a test. -/
theorem run_not (test : Script σ ω Bool) :
    question access (test.bind fun b => .done !b) = (!·) <$> question access test := by
  funext t
  rw [question, run_bind]
  rfl

end

/-! ## What a run preserves -/

/-- On some answers, the script reads the path. -/
inductive MayRead (path : String) : Script σ ω α → Prop where
  | here {next : Option Value → Script σ ω α} : MayRead path (.read path next)
  | read {other : String} {next : Option Value → Script σ ω α} (answer : Option Value) :
    MayRead path (next answer) → MayRead path (.read other next)
  | look {next : Document → Script σ ω α} (data : Document) :
    MayRead path (next data) → MayRead path (.look next)
  | write {change : ω} {next : Script σ ω α} : MayRead path next → MayRead path (.write change next)
  | host {next : σ → Script σ ω α} (state : σ) :
      MayRead path (next state) → MayRead path (.host next)
  | setHost {state : σ} {next : Script σ ω α} :
      MayRead path next → MayRead path (.setHost state next)

/-- What the reads of a script preserve, the script preserves. -/
theorem run_preserves {access : Access τ σ ω} {P : τ → Prop} {script : Script σ ω α}
    (hread : ∀ path, MayRead path script → ∀ t, P t → P (access.value path t).2)
    (hwrite : ∀ change t, P t → P (access.write change t))
    (hhost : ∀ host t, P t → P (access.setHost host t)) {t : τ} (ht : P t) :
    P (run access script t).2 := by
  induction script generalizing t with
  | done a => exact ht
  | read path next ih =>
    exact ih _ (fun path' hmay => hread path' (.read _ hmay)) (hread path .here t ht)
  | look next ih => exact ih _ (fun path hmay => hread path (.look _ hmay)) ht
  | write change next ih =>
    exact ih (fun path hmay => hread path (.write hmay)) (hwrite change t ht)
  | host next ih => exact ih _ (fun path hmay => hread path (.host _ hmay)) ht
  | setHost host next ih => exact ih (fun path hmay => hread path (.setHost hmay)) (hhost host t ht)

/-- A script is the same on states that hold more, if its reads are. -/
theorem run_erases (access : Access τ σ ω) (access' : Access τ' σ ω) (forget : τ' → τ)
    (hread : ∀ path, Erases forget (access'.value path) (access.value path))
    (hdata : ∀ s, access.data (forget s) = access'.data s)
    (hwrite : ∀ change s, access.write change (forget s) = forget (access'.write change s))
    (hhost : ∀ s, access.host (forget s) = access'.host s)
    (hsetHost : ∀ host s, access.setHost host (forget s) = forget (access'.setHost host s))
    (script : Script σ ω α) : Erases forget (run access' script) (run access script) := by
  induction script with
  | done a => exact fun s => rfl
  | read path next ih =>
    intro s
    have hvalue := hread path s
    rw [run, StateT.run, hvalue]
    exact ih _ _
  | look next ih =>
    intro s
    rw [run, hdata]
    exact ih _ s
  | write change next ih =>
    intro s
    rw [run, hwrite]
    exact ih _
  | host next ih =>
    intro s
    rw [run, hhost]
    exact ih _ s
  | setHost host next ih =>
    intro s
    rw [run, hsetHost]
    exact ih _

end Script

end DocStore
