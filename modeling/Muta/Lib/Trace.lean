import Muta.Lib.Fail

/-! Runs of a labelled step function over a trace of calls.

A component is driven by calls applied one at a time; `Trace.run` applies a
trace in order. The two rules here are the ones every invariant and every
refinement of this development is assembled from: a predicate that each call
preserves holds after the whole trace, and a relation that each call carries
to the corresponding abstract step relates the two final states.
-/

set_option autoImplicit false

namespace Muta.Trace

variable {Call : Type*} {State Abstract : Type}

/-- The state a call of an `EStateM` method leaves behind, whether it returned
or failed: a method that panics part way keeps what it had already written. -/
def after {ε σ α : Type} : EStateM.Result ε σ α → σ
  | .ok _ state => state
  | .error _ state => state

@[simp] theorem after_ok {ε σ α : Type} (value : α) (state : σ) :
    after (.ok value state : EStateM.Result ε σ α) = state := rfl

@[simp] theorem after_error {ε σ α : Type} (failure : ε) (state : σ) :
    after (.error failure state : EStateM.Result ε σ α) = state := rfl

def returned {ε σ α : Type} : EStateM.Result ε σ α → Except ε α
  | .ok value _ => .ok value
  | .error failure _ => .error failure

@[simp] theorem returned_ok {ε σ α : Type} (value : α) (state : σ) :
    returned (.ok value state : EStateM.Result ε σ α) = .ok value := rfl

@[simp] theorem returned_error {ε σ α : Type} (failure : ε) (state : σ) :
    returned (.error failure state : EStateM.Result ε σ α) = .error failure := rfl

theorem bind_eq_ok {ε σ α β : Type} {first : EStateM ε σ α} {rest : α → EStateM ε σ β}
    {state after : σ} {value : β} (returns : (first >>= rest) state = .ok value after) :
    ∃ result mid, first state = .ok result mid ∧ rest result mid = .ok value after := by
  change EStateM.bind first rest state = _ at returns
  cases ran : first state with
  | ok result mid =>
    simp only [EStateM.bind, ran] at returns
    exact ⟨result, mid, rfl, returns⟩
  | error failure mid =>
    simp only [EStateM.bind, ran] at returns
    cases returns

theorem bind_of_eq_ok {ε σ α β : Type} {first : EStateM ε σ α} {rest : α → EStateM ε σ β}
    {state mid : σ} {result : α} (returns : first state = .ok result mid) :
    (first >>= rest) state = rest result mid := by
  change EStateM.bind first rest state = _
  simp only [EStateM.bind, returns]

theorem mapM_range_getElem {m : Type → Type} [Monad m] [LawfulMonad m] {α β : Type} (l : List α)
    (f : Option α → m β) :
    (List.range l.length).mapM (fun i => f l[i]?) = l.mapM (fun a => f (some a)) := by
  induction l with
  | nil => rfl
  | cons a rest ih =>
    -- the indices of the tail are those of the list shifted by one
    have shifted : ((fun i => f (a :: rest)[i]?) ∘ Nat.succ) = fun i => f rest[i]? := by
      funext i
      simp
    rw [List.length_cons, List.range_succ_eq_map, List.mapM_cons, List.mapM_cons, List.mapM_map,
      shifted, ih]
    rfl

def run (step : Call → State → State) : List Call → State → State
  | [], state => state
  | call :: rest, state => run step rest (step call state)

@[simp] theorem run_nil (step : Call → State → State) (state : State) :
    run step [] state = state := rfl

@[simp] theorem run_cons (step : Call → State → State) (call : Call) (rest : List Call)
    (state : State) : run step (call :: rest) state = run step rest (step call state) := rfl

theorem run_append (step : Call → State → State) (first second : List Call) (state : State) :
    run step (first ++ second) state = run step second (run step first state) := by
  induction first generalizing state with
  | nil => rfl
  | cons call rest ih => exact ih (step call state)

theorem run_invariant (step : Call → State → State) (admissible : Call → Prop)
    (Inv : State → Prop) (preserved : ∀ call state, admissible call → Inv state → Inv (step call state))
    (calls : List Call) (valid : ∀ call ∈ calls, admissible call) (state : State)
    (start : Inv state) : Inv (run step calls state) := by
  induction calls generalizing state with
  | nil => exact start
  | cons call rest ih =>
    exact ih (fun other member => valid other (List.mem_cons_of_mem call member))
      (step call state) (preserved call state (valid call List.mem_cons_self) start)

/-- Forward simulation: a relation that every admissible concrete call carries to
the abstract call of the same label relates the results of the two runs. -/
theorem run_simulation (step : Call → State → State) (abstract : Call → Abstract → Abstract)
    (admissible : Call → Prop) (R : State → Abstract → Prop)
    (carried : ∀ call state model, admissible call → R state model →
      R (step call state) (abstract call model))
    (calls : List Call) (valid : ∀ call ∈ calls, admissible call) (state : State)
    (model : Abstract) (start : R state model) :
    R (run step calls state) (run abstract calls model) := by
  induction calls generalizing state model with
  | nil => exact start
  | cons call rest ih =>
    exact ih (fun other member => valid other (List.mem_cons_of_mem call member))
      (step call state) (abstract call model)
      (carried call state model (valid call List.mem_cons_self) start)

/-- The states some admissible trace leads to from `init`. -/
def Reachable (step : Call → State → State) (admissible : Call → Prop) (init state : State) :
    Prop :=
  ∃ calls : List Call, (∀ call ∈ calls, admissible call) ∧ run step calls init = state

theorem Reachable.refl (step : Call → State → State) (admissible : Call → Prop) (init : State) :
    Reachable step admissible init init :=
  ⟨[], by simp, rfl⟩

theorem Reachable.step {step : Call → State → State} {admissible : Call → Prop}
    {init state : State} (reached : Reachable step admissible init state) (call : Call)
    (ok : admissible call) : Reachable step admissible init (step call state) := by
  obtain ⟨calls, valid, rfl⟩ := reached
  refine ⟨calls ++ [call], ?_, by simp [run_append]⟩
  intro other member
  rcases List.mem_append.mp member with member | member
  · exact valid other member
  · rw [List.mem_singleton.mp member]; exact ok

theorem Reachable.invariant {step : Call → State → State} {admissible : Call → Prop}
    {Inv : State → Prop} (preserved : ∀ call state, admissible call → Inv state → Inv (step call state))
    {init state : State} (start : Inv init) (reached : Reachable step admissible init state) :
    Inv state := by
  obtain ⟨calls, valid, rfl⟩ := reached
  exact run_invariant step admissible Inv preserved calls valid init start

theorem Reachable.trans {step : Call → State → State} {admissible : Call → Prop}
    {init mid state : State} (first : Reachable step admissible init mid)
    (second : Reachable step admissible mid state) : Reachable step admissible init state := by
  obtain ⟨calls, valid, rfl⟩ := first
  obtain ⟨more, more_valid, rfl⟩ := second
  refine ⟨calls ++ more, ?_, run_append step calls more init⟩
  intro call member
  rcases List.mem_append.mp member with member | member
  · exact valid call member
  · exact more_valid call member

theorem Reachable.mono {step : Call → State → State} {admissible weaker : Call → Prop}
    (implied : ∀ call, admissible call → weaker call) {init state : State}
    (reached : Reachable step admissible init state) : Reachable step weaker init state := by
  obtain ⟨calls, valid, rfl⟩ := reached
  exact ⟨calls, fun call member => implied call (valid call member), rfl⟩

/-- Stuttering simulation: when every admissible concrete call, from a state of
the invariant, moves the projection along some allowed abstract trace (possibly
the empty one), the projection of every reachable state is reachable. -/
theorem Reachable.simulate {Move : Type} {step : Call → State → State} {admissible : Call → Prop}
    {abstract : Move → Abstract → Abstract} {allowed : Move → Prop} (project : State → Abstract)
    {Inv : State → Prop} (preserved : ∀ call state, admissible call → Inv state → Inv (step call state))
    (carried : ∀ call state, admissible call → Inv state →
      Reachable abstract allowed (project state) (project (step call state)))
    {init state : State} (start : Inv init) (reached : Reachable step admissible init state) :
    Reachable abstract allowed (project init) (project state) := by
  obtain ⟨calls, valid, rfl⟩ := reached
  -- Along the trace from its first call, the invariant giving each call its abstract trace.
  induction calls generalizing init with
  | nil => exact Reachable.refl _ _ _
  | cons call rest ih =>
    have admitted := valid call List.mem_cons_self
    exact (carried call init admitted start).trans
      (ih (preserved call init admitted start)
        (fun other member => valid other (List.mem_cons_of_mem call member)))

end Muta.Trace
