import Muta.Lib.Trace

/-! Forward simulation of a plain state program by one that runs over a store.

The concrete program reads an environment, runs over a store of its own and may
fail; the abstract one runs over a plain state and cannot. Under a relation of
the two states, the concrete program simulates the abstract one when, from
every related pair, it returns what the abstract one returns and leaves related
states. A property of the returned value rides along, so that what follows a
call may rely on it.

Simulation composes along `pure`, `bind`, `<$>` and a test both programs make,
and survives matching on a value they share: two instances of one program
written over any monad are related by following its text.
-/

set_option autoImplicit false

namespace Muta.Simulation

variable {ρ ε σ τ α β : Type}

/-- `conc` simulates `abs` under `R` in the environment `env`, and `post` holds of
what they return. -/
def Simulates (R : σ → τ → Prop) (env : ρ) (conc : ReaderT ρ (EStateM ε σ) α) (abs : StateM τ α)
    (post : α → Prop) : Prop :=
  ∀ s t, R s t → post (abs.run t).1 ∧
    ∃ s', conc.run env s = .ok (abs.run t).1 s' ∧ R s' (abs.run t).2

variable {R : σ → τ → Prop} {env : ρ}

theorem Simulates.pure {value : α} {post : α → Prop} (holds : post value) :
    Simulates R env (Pure.pure value : ReaderT ρ (EStateM ε σ) α) (Pure.pure value) post :=
  fun s _ related => ⟨holds, s, rfl, related⟩

theorem Simulates.bind {conc : ReaderT ρ (EStateM ε σ) α} {abs : StateM τ α} {post : α → Prop}
    {conc_next : α → ReaderT ρ (EStateM ε σ) β} {abs_next : α → StateM τ β} {post_next : β → Prop}
    (first : Simulates R env conc abs post)
    (next : ∀ value, post value → Simulates R env (conc_next value) (abs_next value) post_next) :
    Simulates R env (conc >>= conc_next) (abs >>= abs_next) post_next := by
  intro s t related
  obtain ⟨holds, mid, ran, related_mid⟩ := first s t related
  obtain ⟨holds_next, last, ran_next, related_last⟩ := next _ holds mid _ related_mid
  -- the abstract continuation runs from the state the first call left
  have abs_run : (abs >>= abs_next).run t = (abs_next (abs.run t).1).run (abs.run t).2 := rfl
  refine ⟨abs_run ▸ holds_next, last, ?_, abs_run ▸ related_last⟩
  rw [ReaderT.run_bind, Trace.bind_of_eq_ok ran, abs_run]
  exact ran_next

theorem Simulates.map {conc : ReaderT ρ (EStateM ε σ) α} {abs : StateM τ α} {post : α → Prop}
    (f : α → β) (simulates : Simulates R env conc abs post) :
    Simulates R env (f <$> conc) (f <$> abs) fun result => ∃ value, post value ∧ result = f value := by
  rw [← bind_pure_comp, ← bind_pure_comp]
  exact simulates.bind fun value holds => Simulates.pure ⟨value, holds, rfl⟩

theorem Simulates.mono {conc : ReaderT ρ (EStateM ε σ) α} {abs : StateM τ α} {post weaker : α → Prop}
    (simulates : Simulates R env conc abs post) (implies : ∀ value, post value → weaker value) :
    Simulates R env conc abs weaker := by
  intro s t related
  obtain ⟨holds, rest⟩ := simulates s t related
  exact ⟨implies _ holds, rest⟩

theorem Simulates.ite {c : Prop} [Decidable c] {conc conc' : ReaderT ρ (EStateM ε σ) α}
    {abs abs' : StateM τ α} {post : α → Prop} (yes : c → Simulates R env conc abs post)
    (no : ¬c → Simulates R env conc' abs' post) :
    Simulates R env (if c then conc else conc') (if c then abs else abs') post := by
  by_cases holds : c
  · simpa only [if_pos holds] using yes holds
  · simpa only [if_neg holds] using no holds

end Muta.Simulation
