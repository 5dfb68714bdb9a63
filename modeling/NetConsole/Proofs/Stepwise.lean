/-!
# Steps that may fail

How a step that may fail takes a state to the next, whether it succeeds or not, and how such steps
are put together. What a step did to the state stays when a later one fails.
-/

set_option autoImplicit false

namespace NetConsole.Stepwise

variable {ε σ α β : Type}

theorem bind_eq_ok {first : Except ε α} {next : α → Except ε β} {result : β} :
    first >>= next = .ok result ↔ ∃ value, first = .ok value ∧ next value = .ok result := by
  cases first with
  | error cause =>
      constructor
      · intro same
        cases same
      · intro given
        obtain ⟨_, ⟨⟩, _⟩ := given
  | ok value =>
      constructor
      · exact fun done => ⟨value, rfl, done⟩
      · intro given
        obtain ⟨_, ⟨⟩, done⟩ := given
        exact done

theorem map_eq_ok {step : Except ε α} {wrap : α → β} {result : β}
    (done : step.map wrap = .ok result) : ∃ value, step = .ok value ∧ result = wrap value := by
  cases step with
  | error cause => cases done
  | ok value =>
      cases done
      exact ⟨value, rfl, rfl⟩

theorem map_eq_error {step : Except ε α} {wrap : α → β} {cause : ε}
    (failed : step.map wrap = .error cause) : step = .error cause := by
  cases step with
  | error other =>
      cases failed
      rfl
  | ok value => cases failed

theorem run_get (state : σ) : (get : ExceptT ε (StateM σ) σ).run state = (.ok state, state) := rfl

theorem run_modify (change : σ → σ) (state : σ) :
    (modify change : ExceptT ε (StateM σ) PUnit).run state = (.ok ⟨⟩, change state) := rfl

theorem run_liftM (result : Except ε α) (state : σ) :
    (liftM result : ExceptT ε (StateM σ) α).run state = (result, state) := rfl

/-- A failed first part ends the whole; what it did to the state stays. -/
theorem run_bind (op : ExceptT ε (StateM σ) α) (next : α → ExceptT ε (StateM σ) β) (state : σ) :
    (op >>= next).run state = match op.run state with
      | (.ok value, after) => (next value).run after
      | (.error cause, after) => (.error cause, after) := by
  rw [ExceptT.run_bind]
  change StateT.bind (ExceptT.run op) _ state = _
  simp only [StateT.bind]
  rcases ran : op.run state with ⟨result, after⟩
  cases result <;> rfl

theorem run_bind_ok {op : ExceptT ε (StateM σ) α} {next : α → ExceptT ε (StateM σ) β}
    {state after : σ} {value : α} (ran : op.run state = (.ok value, after)) :
    (op >>= next).run state = (next value).run after := by
  rw [run_bind, ran]

theorem run_bind_error {op : ExceptT ε (StateM σ) α} {next : α → ExceptT ε (StateM σ) β}
    {state after : σ} {cause : ε} (ran : op.run state = (.error cause, after)) :
    (op >>= next).run state = (.error cause, after) := by
  rw [run_bind, ran]

/-! ## Results side by side -/

/-- Results that fail for the same cause, or have values that go together. -/
inductive Matched (together : α → β → Prop) : Except ε α → Except ε β → Prop where
  | error (cause : ε) : Matched together (.error cause) (.error cause)
  | ok {one : α} {two : β} : together one two → Matched together (.ok one) (.ok two)

theorem Matched.refl {together : α → α → Prop} (same : ∀ value, together value value)
    (result : Except ε α) : Matched together result result := by
  cases result with
  | error cause => exact .error cause
  | ok value => exact .ok (same value)

theorem Matched.bind {γ δ : Type} {together : α → β → Prop} {after : γ → δ → Prop}
    {one : Except ε α} {two : Except ε β} {nextOne : α → Except ε γ} {nextTwo : β → Except ε δ}
    (matched : Matched together one two)
    (rest : ∀ first second, together first second →
      Matched after (nextOne first) (nextTwo second)) :
    Matched after (one >>= nextOne) (two >>= nextTwo) := by
  cases matched with
  | error cause => exact .error cause
  | ok values => exact rest _ _ values

/-! ## Steps side by side -/

/-- Two steps end in the same way, and leave states that go together. -/
def EndTogether (together : σ → σ → Prop) (one two : ExceptT ε (StateM σ) α) (first second : σ) :
    Prop :=
  (one.run first).1 = (two.run second).1 ∧ together (one.run first).2 (two.run second).2

/-- From states that go together, two steps end in the same way and leave states that go
together. -/
def Parallel (together : σ → σ → Prop) (one two : ExceptT ε (StateM σ) α) : Prop :=
  ∀ first second, together first second → EndTogether together one two first second

section

variable {together : σ → σ → Prop}

theorem parallel_pure (value : α) :
    Parallel together (pure value : ExceptT ε (StateM σ) α) (pure value) :=
  fun _ _ start => ⟨rfl, start⟩

theorem parallel_throw (cause : ε) :
    Parallel together (throw cause : ExceptT ε (StateM σ) α) (throw cause) :=
  fun _ _ start => ⟨rfl, start⟩

theorem EndTogether.exists_run {one two : ExceptT ε (StateM σ) α} {first second : σ}
    (steps : EndTogether together one two first second) :
    ∃ result afterOne afterTwo, one.run first = (result, afterOne) ∧
      two.run second = (result, afterTwo) ∧ together afterOne afterTwo :=
  ⟨_, _, (two.run second).2, rfl, Prod.ext steps.1.symm rfl, steps.2⟩

theorem EndTogether.bind {one two : ExceptT ε (StateM σ) α}
    {nextOne nextTwo : α → ExceptT ε (StateM σ) β} {first second : σ}
    (steps : EndTogether together one two first second)
    (rest : ∀ value, Parallel together (nextOne value) (nextTwo value)) :
    EndTogether together (one >>= nextOne) (two >>= nextTwo) first second := by
  obtain ⟨result, afterOne, afterTwo, ranOne, ranTwo, between⟩ := steps.exists_run
  unfold EndTogether
  cases result with
  | error cause =>
      rw [run_bind_error ranOne, run_bind_error ranTwo]
      exact ⟨rfl, between⟩
  | ok value =>
      rw [run_bind_ok ranOne, run_bind_ok ranTwo]
      exact rest value afterOne afterTwo between

theorem Parallel.bind {one two : ExceptT ε (StateM σ) α}
    {nextOne nextTwo : α → ExceptT ε (StateM σ) β} (steps : Parallel together one two)
    (rest : ∀ value, Parallel together (nextOne value) (nextTwo value)) :
    Parallel together (one >>= nextOne) (two >>= nextTwo) := fun first second start =>
  (steps first second start).bind rest

end

end NetConsole.Stepwise
