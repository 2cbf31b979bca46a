import Mathlib

/-! How a call of Rust code can end without its value.

Besides returning an error, code can panic, and a panic unwinds past every `?`
to the nearest `catch_unwind`. A result of such code is an `Except (Fail ε) α`:
the error it returned, or the message of its panic. `map_fail` is `?` through a
`From` conversion, which converts an error and lets a panic pass; `expect` is
`.expect(..)` and `.unwrap_or_else(|e| panic!(..))`, which turn an error into a
panic.
-/

set_option autoImplicit false

namespace Muta

inductive Fail (ε : Type) where
  | error (error : ε)
  | panic (message : String)
  deriving DecidableEq, Repr

@[simp] theorem except_ok_bind {ε α β : Type} (value : α) (next : α → Except ε β) :
    (Except.ok value >>= next) = next value := rfl

@[simp] theorem except_error_bind {ε α β : Type} (failure : ε) (next : α → Except ε β) :
    (Except.error failure >>= next) = .error failure := rfl

@[simp] theorem except_map_ok {ε α β : Type} (f : α → β) (value : α) :
    Except.map f (.ok value : Except ε α) = .ok (f value) := rfl

@[simp] theorem except_mapError_ok {ε ε' α : Type} (f : ε → ε') (value : α) :
    Except.mapError f (.ok value : Except ε α) = .ok value := rfl

@[simp] theorem except_mapError_error {ε ε' α : Type} (f : ε → ε') (failure : ε) :
    Except.mapError f (.error failure : Except ε α) = .error (f failure) := rfl

@[simp] theorem except_throw {ε α : Type} (failure : ε) :
    (throw failure : Except ε α) = .error failure := rfl

theorem except_mapM_of_eq {ε α β : Type} {f : α → Except ε β} {g : α → β} {p : α → Bool}
    {failure : ε} (body : ∀ value, f value = if p value then .error failure else .ok (g value))
    (values : List α) :
    values.mapM f = if values.any p then .error failure else .ok (values.map g) := by
  induction values with
  | nil => rfl
  | cons value rest ih =>
    rw [List.mapM_cons, body value, ih]
    by_cases hit : p value
    · simp only [hit, ↓reduceIte, List.any_cons, Bool.true_or, except_error_bind]
    · by_cases later : rest.any p
      · simp only [hit, later, Bool.false_eq_true, ↓reduceIte, List.any_cons, Bool.or_true]
        rfl
      · simp only [hit, later, Bool.false_eq_true, ↓reduceIte, List.any_cons, Bool.or_false]
        rfl

/-- Code that returns no error but may panic: its value, or the message of its panic. -/
abbrev MayPanic (α : Type) := Except String α

namespace Fail

variable {ε ε' α : Type}

def mapError (convert : ε → ε') : Fail ε → Fail ε'
  | .error failure => .error (convert failure)
  | .panic message => .panic message

def mapFail (convert : ε → ε') (result : Except (Fail ε) α) : Except (Fail ε') α :=
  result.mapError (mapError convert)

/-- `.expect(message)`: an error becomes a panic with the message. -/
def expect (message : String) : Except (Fail ε) α → Except (Fail ε') α
  | .ok value => .ok value
  | .error (.error _) => .error (.panic message)
  | .error (.panic inner) => .error (.panic inner)

def expectValue (message : String) : Except (Fail ε) α → MayPanic α
  | .ok value => .ok value
  | .error (.error _) => .error message
  | .error (.panic inner) => .error inner

@[simp] theorem expect_value_ok (message : String) (value : α) :
    (expectValue message (.ok value : Except (Fail ε) α)) = .ok value := rfl

instance : MonadLift (Except ε) (Except (Fail ε)) := ⟨fun result => result.mapError .error⟩

def unwind (result : MayPanic α) : Except (Fail ε) α := result.mapError .panic

def NoPanic (result : Except (Fail ε) α) : Prop :=
  ∀ message, result ≠ .error (.panic message)

@[simp] theorem map_fail_ok (convert : ε → ε') (value : α) :
    mapFail convert (.ok value : Except (Fail ε) α) = .ok value := rfl

@[simp] theorem map_fail_error (convert : ε → ε') (failure : ε) :
    mapFail convert (.error (.error failure) : Except (Fail ε) α) =
      .error (.error (convert failure)) := rfl

@[simp] theorem map_fail_panic (convert : ε → ε') (message : String) :
    mapFail convert (.error (.panic message) : Except (Fail ε) α) = .error (.panic message) := rfl

@[simp] theorem expect_ok (message : String) (value : α) :
    (expect message (.ok value : Except (Fail ε) α) : Except (Fail ε') α) = .ok value := rfl

theorem NoPanic.ok (value : α) : NoPanic (.ok value : Except (Fail ε) α) := by
  intro _ same
  cases same

theorem NoPanic.error (failure : ε) : NoPanic (.error (.error failure) : Except (Fail ε) α) := by
  intro _ same
  cases same

@[simp] theorem lift_ok (value : α) :
    (monadLift (.ok value : Except ε α) : Except (Fail ε) α) = .ok value := rfl

@[simp] theorem lift_error (failure : ε) :
    (monadLift (.error failure : Except ε α) : Except (Fail ε) α) = .error (.error failure) := rfl

@[simp] theorem unwind_ok (value : α) : (unwind (.ok value) : Except (Fail ε) α) = .ok value := rfl

@[simp] theorem unwind_error (message : String) :
    (unwind (.error message) : Except (Fail ε) α) = .error (.panic message) := rfl

theorem NoPanic.lift (result : Except ε α) : NoPanic (monadLift result : Except (Fail ε) α) := by
  cases result with
  | ok value => exact NoPanic.ok value
  | error failure => exact NoPanic.error failure

theorem NoPanic.bind {β : Type} {first : Except (Fail ε) α} {rest : α → Except (Fail ε) β}
    (safe : NoPanic first) (then_safe : ∀ value, first = .ok value → NoPanic (rest value)) :
    NoPanic (first >>= rest) := by
  intro message same
  cases first with
  | ok value => exact then_safe value rfl message same
  | error failure =>
    cases failure with
    | error failure => cases same
    | panic inner =>
      cases same
      exact safe message rfl

theorem NoPanic.mapM {β : Type} (f : α → Except (Fail ε) β) (safe : ∀ value, NoPanic (f value)) :
    ∀ values : List α, NoPanic (values.mapM f)
  | [] => NoPanic.ok []
  | value :: rest => by
    rw [List.mapM_cons]
    exact NoPanic.bind (safe value) fun _ _ =>
      NoPanic.bind (NoPanic.mapM f safe rest) fun _ _ => NoPanic.ok _

theorem no_panic_bind_iff {β : Type} {first : Except (Fail ε) α} {rest : α → Except (Fail ε) β} :
    NoPanic (first >>= rest) ↔ NoPanic first ∧ ∀ value, first = .ok value → NoPanic (rest value) := by
  refine ⟨fun safe => ⟨?_, fun value ok => ?_⟩, fun ⟨safe, then_safe⟩ => NoPanic.bind safe then_safe⟩
  · intro message panics
    apply safe message
    rw [panics]
    rfl
  · rw [ok] at safe
    exact safe

@[simp] theorem no_panic_ok (value : α) : NoPanic (.ok value : Except (Fail ε) α) ↔ True :=
  iff_true_intro (NoPanic.ok value)

@[simp] theorem no_panic_error (failure : ε) :
    NoPanic (.error (.error failure) : Except (Fail ε) α) ↔ True :=
  iff_true_intro (NoPanic.error failure)

@[simp] theorem no_panic_lift (result : Except ε α) :
    NoPanic (monadLift result : Except (Fail ε) α) ↔ True :=
  iff_true_intro (NoPanic.lift result)

@[simp] theorem no_panic_map_iff {β : Type} (f : α → β) (result : Except (Fail ε) α) :
    NoPanic (f <$> result) ↔ NoPanic result := by
  cases result with
  | ok value => simp only [no_panic_ok]; exact iff_of_true (NoPanic.ok _) trivial
  | error failure =>
    cases failure with
    | error failure => exact iff_of_true (NoPanic.error failure) (NoPanic.error failure)
    | panic message =>
      exact iff_of_false (fun safe => safe message rfl) (fun safe => safe message rfl)

theorem no_panic_ite {c : Prop} [Decidable c] {yes no : Except (Fail ε) α} :
    NoPanic (if c then yes else no) ↔ (c → NoPanic yes) ∧ (¬c → NoPanic no) := by
  by_cases holds : c <;> simp [holds]

theorem NoPanic.mapFail {convert : ε → ε'} {result : Except (Fail ε) α} (safe : NoPanic result) :
    NoPanic (mapFail convert result) := by
  intro message same
  cases result with
  | ok value => cases same
  | error failure =>
    cases failure with
    | error failure => cases same
    | panic inner =>
      cases same
      exact safe message rfl

end Fail

end Muta
