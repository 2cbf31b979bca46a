import Mathlib

/-! Frame and progress rules for programs in `EStateM`.

A program keeps a view of its state when every run of it, whether it returns or
throws, ends in a state with the view it started in. Keeping a view composes
through `bind`, `mapM` and `forM` (`Keeps.bind`, `Keeps.mapM`, `Keeps.forM`), so a
view every primitive of a program keeps is kept by the program.

A program returns under an invariant when from every state of the invariant it
returns, without throwing, a value with a given property in a state of the
invariant. A list loop of such programs returns one value per element
(`Returns.mapM`), and a loop whose element throws throws the same error
(`mapM_append_error`).
-/

set_option autoImplicit false

namespace Muta.Frame

variable {ε σ β α γ : Type}

def final : EStateM.Result ε σ α → σ
  | .ok _ s => s
  | .error _ s => s

@[simp] theorem final_ok (value : α) (s : σ) : final (.ok value s : EStateM.Result ε σ α) = s := rfl

@[simp] theorem final_error (error : ε) (s : σ) : final (.error error s : EStateM.Result ε σ α) = s := rfl

/-! ### Keeping a view -/

/-- Every run of `program` ends in a state with the view it started in. -/
def Keeps (view : σ → β) (program : EStateM ε σ α) : Prop :=
  ∀ s, view (final (program.run s)) = view s

variable {view : σ → β}

theorem Keeps.pure (value : α) : Keeps view (Pure.pure value : EStateM ε σ α) := fun _ => rfl

theorem Keeps.throw (error : ε) : Keeps view (MonadExcept.throw error : EStateM ε σ α) := fun _ => rfl

theorem Keeps.get : Keeps view (MonadState.get : EStateM ε σ σ) := fun _ => rfl

theorem Keeps.modify {f : σ → σ} (keeps : ∀ s, view (f s) = view s) :
    Keeps view (modify f : EStateM ε σ PUnit) :=
  keeps

theorem Keeps.bind {x : EStateM ε σ α} {f : α → EStateM ε σ γ} (first : Keeps view x)
    (next : ∀ value, Keeps view (f value)) : Keeps view (x >>= f) := by
  intro s
  rw [EStateM.run_bind]
  -- the view is the one `x` left, and then the one the continuation kept
  cases run : x.run s with
  | ok value after =>
    rw [next value after]
    simpa [run] using first s
  | error error after => simpa [run] using first s

theorem Keeps.mapM {f : α → EStateM ε σ γ} :
    ∀ (xs : List α), (∀ x ∈ xs, Keeps view (f x)) → Keeps view (xs.mapM f)
  | [], _ => Keeps.pure _
  | x :: rest, each => by
    rw [List.mapM_cons]
    exact (each x List.mem_cons_self).bind fun _ =>
      (Keeps.mapM rest fun y member => each y (List.mem_cons_of_mem x member)).bind fun _ => Keeps.pure _

theorem Keeps.forM {f : α → EStateM ε σ PUnit} :
    ∀ (xs : List α), (∀ x ∈ xs, Keeps view (f x)) → Keeps view (xs.forM f)
  | [], _ => Keeps.pure _
  | x :: rest, each =>
    (each x List.mem_cons_self).bind fun _ =>
      Keeps.forM rest fun y member => each y (List.mem_cons_of_mem x member)

/-! ### Returning under an invariant -/

/-- From every state of `inv`, `program` returns a value with `post` in a state of `inv`. -/
def Returns (inv : σ → Prop) (post : α → Prop) (program : EStateM ε σ α) : Prop :=
  ∀ s, inv s → ∃ value after, program.run s = .ok value after ∧ post value ∧ inv after

variable {inv : σ → Prop}

theorem Returns.bind {post : α → Prop} {post' : γ → Prop} {x : EStateM ε σ α} {f : α → EStateM ε σ γ}
    (first : Returns inv post x) (next : ∀ value, post value → Returns inv post' (f value)) :
    Returns inv post' (x >>= f) := by
  intro s holds
  obtain ⟨value, middle, run, posted, holds_middle⟩ := first s holds
  obtain ⟨result, after, run_next, posted_next, holds_after⟩ := next value posted middle holds_middle
  exact ⟨result, after, by rw [EStateM.run_bind, run]; exact run_next, posted_next, holds_after⟩

theorem Returns.pure {post : α → Prop} {value : α} (posted : post value) :
    Returns inv post (Pure.pure value : EStateM ε σ α) :=
  fun s holds => ⟨value, s, rfl, posted, holds⟩

theorem Returns.get : Returns inv inv (MonadState.get : EStateM ε σ σ) :=
  fun s holds => ⟨s, s, rfl, holds, holds⟩

theorem Returns.set {s' : σ} (holds : inv s') : Returns inv (fun _ => True) (MonadState.set s' : EStateM ε σ PUnit) :=
  fun _ _ => ⟨PUnit.unit, s', rfl, trivial, holds⟩

theorem Returns.modify {f : σ → σ} (keeps : ∀ s, inv s → inv (f s)) :
    Returns inv (fun _ => True) (modify f : EStateM ε σ PUnit) :=
  fun s holds => ⟨PUnit.unit, f s, rfl, trivial, keeps s holds⟩

theorem Returns.forM {f : α → EStateM ε σ PUnit} :
    ∀ (xs : List α), (∀ x ∈ xs, Returns inv (fun _ => True) (f x)) → Returns inv (fun _ => True) (xs.forM f)
  | [], _ => Returns.pure trivial
  | x :: rest, each =>
    (each x List.mem_cons_self).bind fun _ _ =>
      Returns.forM rest fun y member => each y (List.mem_cons_of_mem x member)

theorem Returns.mapM {f : α → EStateM ε σ γ} {rel : α → γ → Prop} :
    ∀ (xs : List α), (∀ x ∈ xs, Returns inv (rel x) (f x)) → Returns inv (List.Forall₂ rel xs) (xs.mapM f)
  | [], _ => fun s holds => ⟨[], s, rfl, List.Forall₂.nil, holds⟩
  | x :: rest, each => by
    rw [List.mapM_cons]
    refine (each x List.mem_cons_self).bind fun value related => ?_
    refine (Returns.mapM rest fun y member => each y (List.mem_cons_of_mem x member)).bind
      fun values all_related => ?_
    exact fun s holds => ⟨value :: values, s, rfl, List.Forall₂.cons related all_related, holds⟩

theorem forall_mem_of_forall₂ {rel : α → γ → Prop} {post : γ → Prop} (implies : ∀ x y, rel x y → post y) :
    ∀ {xs : List α} {ys : List γ}, List.Forall₂ rel xs ys → ∀ y ∈ ys, post y
  | _, _, .nil => fun _ absent => absurd absent List.not_mem_nil
  | _, _, .cons related rest => fun y member => by
    rcases List.mem_cons.mp member with same | later
    · exact same ▸ implies _ _ related
    · exact forall_mem_of_forall₂ implies rest y later

theorem mapM_append_error {f : α → EStateM ε σ γ} (done : List α) (x : α) (rest : List α) {s middle after : σ}
    {values : List γ} {error : ε} (prefix_returns : (done.mapM f).run s = .ok values middle)
    (throws : (f x).run middle = .error error after) :
    ((done ++ x :: rest).mapM f).run s = .error error after := by
  induction done generalizing s values with
  | nil =>
    cases prefix_returns
    rw [List.nil_append, List.mapM_cons, EStateM.run_bind, throws]
  | cons y done ih =>
    rw [List.mapM_cons, EStateM.run_bind] at prefix_returns
    rw [List.cons_append, List.mapM_cons, EStateM.run_bind]
    -- the first element returned; the rest of the prefix runs from where it left
    cases first : (f y).run s with
    | error e s' => rw [first] at prefix_returns; cases prefix_returns
    | ok value s' =>
      rw [first] at prefix_returns
      simp only [EStateM.run_bind] at prefix_returns ⊢
      cases rest_run : (done.mapM f).run s' with
      | error e s'' => rw [rest_run] at prefix_returns; cases prefix_returns
      | ok more s'' =>
        simp only [rest_run, EStateM.run_pure, EStateM.Result.ok.injEq] at prefix_returns
        obtain ⟨-, rfl⟩ := prefix_returns
        rw [ih rest_run]

end Muta.Frame
