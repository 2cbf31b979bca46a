import Muta.Protocol.Types
import Muta.Lib.Trace

/-! `ServiceContext` of `protocol/src/types/service_context.rs` and its cycle
accounting, with the guard the `#[cycles]` attribute of
`binding-macro/src/cycles.rs` puts in front of a service method.

The contexts of one transaction share the cells `cycles_used` and `events`
(`Rc<RefCell<..>>`): `with_context` clones the `Rc`s of the context it derives
from. The model keeps what a context owns in `ServiceContext` and the shared
counter as the state of its methods, `CyclesM`. `sub_cycles` compares
`get_cycles_used() + cycles` with the limit in `u64`, which wraps in a release
build, as the model's `UInt64` sum does.

The abstract layer is `Budget`: an unbounded counter that takes a charge
exactly when it still fits. The shared counter refines it over every run whose
charges cannot carry past `2^64` (`charges_refine_budget`). A charge that does
carry is taken whatever the limit, and the counter drops
(`sub_cycles_accepts_wrapping_sum`).
-/

set_option autoImplicit false

namespace Muta

/-- What a `ServiceContext` owns; the shared counter is the state of `CyclesM`, and
the shared `events` are read by nothing modelled here. -/
structure ServiceContext where
  tx_hash : Option Hash
  nonce : Option Hash
  cycles_limit : UInt64
  cycles_price : UInt64
  caller : Address
  height : UInt64
  service_name : String
  service_method : String
  service_payload : String
  extra : Option Bytes
  timestamp : UInt64
  deriving DecidableEq, Repr

/-- A method of a context, on the counter its whole family shares. -/
abbrev CyclesM := StateM UInt64

namespace ServiceContext

/-- `ServiceContext::with_context`: the new call's extra, name, method and payload;
everything else, and the shared cells, from `context`. -/
def withContext (context : ServiceContext) (extra : Option Bytes)
    (service_name service_method service_payload : String) : ServiceContext :=
  { context with extra, service_name, service_method, service_payload }

def getCyclesUsed : CyclesM UInt64 := get

/-- `sub_cycles`: the test and the update each read the counter. -/
def subCycles (context : ServiceContext) (cycles : UInt64) : CyclesM Bool := do
  if (← getCyclesUsed) + cycles ≤ context.cycles_limit then
    set ((← getCyclesUsed) + cycles)
    pure true
  else
    pure false

/-- The code `gen_cycles_code` wraps around a method body: charge `cycles_value`
first, and answer code 3 without running the body when the charge fails. -/
def genCyclesCode (context : ServiceContext) (cycles_value : UInt64)
    (body : CyclesM ServiceResponse) : CyclesM ServiceResponse := do
  if !(← context.subCycles cycles_value) then
    return ServiceResponse.fromError 3 "cycles macro consume cycles fialed: out of cycles"
  body

@[simp] theorem cycles_limit_with_context (context : ServiceContext) (extra : Option Bytes)
    (service_name service_method service_payload : String) :
    (context.withContext extra service_name service_method service_payload).cycles_limit =
      context.cycles_limit := rfl

theorem sub_cycles_run (context : ServiceContext) (cycles used : UInt64) :
    (context.subCycles cycles).run used =
      if used + cycles ≤ context.cycles_limit then (true, used + cycles) else (false, used) := by
  by_cases fits : used + cycles ≤ context.cycles_limit <;>
    simp [subCycles, getCyclesUsed, fits] <;> rfl

end ServiceContext

/-! ### The family of one counter -/

/-- The contexts that share the counter of `root`: `root`, and what `with_context`
derives from one of them. -/
inductive Derived (root : ServiceContext) : ServiceContext → Prop
  | root : Derived root root
  | withContext {context : ServiceContext} (extra : Option Bytes)
      (service_name service_method service_payload : String) :
      Derived root context →
      Derived root (context.withContext extra service_name service_method service_payload)

theorem Derived.cycles_limit_eq {root context : ServiceContext} (derived : Derived root context) :
    context.cycles_limit = root.cycles_limit := by
  induction derived with
  | root => rfl
  | withContext extra service_name service_method service_payload _ ih =>
    rw [ServiceContext.cycles_limit_with_context, ih]

structure Charge where
  context : ServiceContext
  cycles : UInt64

def Charge.step (charge : Charge) (used : UInt64) : UInt64 :=
  ((charge.context.subCycles charge.cycles).run used).2

/-- The `u64` sum of a counter within a limit and a charge lies under the limit
either when the exact sum does or when the exact sum carries past `2^64`: the
carried value is below the counter itself. -/
theorem wrapped_sum_le_iff {used cycles limit : UInt64} (within : used ≤ limit) :
    used + cycles ≤ limit ↔
      used.toNat + cycles.toNat ≤ limit.toNat ∨ 2 ^ 64 ≤ used.toNat + cycles.toNat := by
  have used_lt := used.toNat_lt
  have cycles_lt := cycles.toNat_lt
  rw [UInt64.le_iff_toNat_le] at within
  rw [UInt64.le_iff_toNat_le, UInt64.toNat_add]
  omega

theorem Charge.step_le {root : ServiceContext} {charge : Charge} {used : UInt64}
    (derived : Derived root charge.context) (within : used ≤ root.cycles_limit) :
    charge.step used ≤ root.cycles_limit := by
  rw [Charge.step, ServiceContext.sub_cycles_run, derived.cycles_limit_eq]
  split_ifs with fits
  · exact fits
  · exact within

theorem Charge.reachable_le {root : ServiceContext} {start used : UInt64}
    (within : start ≤ root.cycles_limit)
    (reached : Trace.Reachable Charge.step (fun charge => Derived root charge.context) start used) :
    used ≤ root.cycles_limit :=
  @Trace.Reachable.invariant Charge UInt64 Charge.step (fun charge => Derived root charge.context)
    (fun used => used ≤ root.cycles_limit) (fun _ _ derived within => Charge.step_le derived within)
    start used within reached

/-- From any counter a run of the family reaches, a charge on any context of the
family is taken exactly when its exact sum fits under the limit or carries past
`2^64`; a carried charge leaves the exact sum less `2^64`, below the counter it
started from. -/
theorem sub_cycles_accepts_wrapping_sum {root : ServiceContext} {start used : UInt64}
    (within : start ≤ root.cycles_limit)
    (reached : Trace.Reachable Charge.step (fun charge => Derived root charge.context) start used)
    {context : ServiceContext} (derived : Derived root context) (cycles : UInt64) :
    used ≤ root.cycles_limit ∧
      (((context.subCycles cycles).run used).1 = true ↔
        used.toNat + cycles.toNat ≤ root.cycles_limit.toNat ∨ 2 ^ 64 ≤ used.toNat + cycles.toNat) ∧
      (2 ^ 64 ≤ used.toNat + cycles.toNat →
        ((context.subCycles cycles).run used).2.toNat = used.toNat + cycles.toNat - 2 ^ 64) := by
  have bounded := Charge.reachable_le within reached
  have sum_le : used + cycles ≤ root.cycles_limit ↔ _ := wrapped_sum_le_iff bounded
  refine ⟨bounded, ?_, fun carries => ?_⟩
  · rw [ServiceContext.sub_cycles_run, derived.cycles_limit_eq]
    split_ifs with fits
    · exact ⟨fun _ => sum_le.mp fits, fun _ => rfl⟩
    · exact ⟨fun taken => by simp at taken, fun exact => absurd (sum_le.mpr exact) fits⟩
  · -- A carried sum is below the counter, so under the limit: the charge is taken.
    have fits : used + cycles ≤ context.cycles_limit := by
      rw [derived.cycles_limit_eq]
      exact sum_le.mpr (.inr carries)
    have used_lt := used.toNat_lt
    have cycles_lt := cycles.toNat_lt
    rw [ServiceContext.sub_cycles_run, if_pos fits, UInt64.toNat_add]
    omega

/-- The context `ServiceExecutor::read` builds for a query: no limit below `u64::MAX`. -/
def readContext : ServiceContext where
  tx_hash := none
  nonce := none
  cycles_limit := UInt64.ofNat (2 ^ 64 - 1)
  cycles_price := 1
  caller := ⟨List.replicate 20 0, Address.zeros_length⟩
  height := 0
  service_name := "asset"
  service_method := "get_balance"
  service_payload := ""
  extra := none
  timestamp := 0

/-- A query that has spent one cycle and charges `u64::MAX` more is let through,
and its counter goes back to zero. -/
theorem sub_cycles_accepts_wrapping_sum_after_one :
    ((readContext.subCycles (UInt64.ofNat (2 ^ 64 - 1))).run 1).1 = true ∧
      ((readContext.subCycles (UInt64.ofNat (2 ^ 64 - 1))).run 1).2.toNat = 0 := by
  have reached : Trace.Reachable Charge.step (fun charge => Derived readContext charge.context) 0 1 :=
    ⟨[⟨readContext, 1⟩], by simp [Derived.root], rfl⟩
  have wraps := sub_cycles_accepts_wrapping_sum (by decide) reached Derived.root
    (UInt64.ofNat (2 ^ 64 - 1))
  exact ⟨wraps.2.1.mpr (.inr (by decide)), by simpa using wraps.2.2 (by decide)⟩

/-! ### Exact accounting -/

def Budget.charge (limit cycles spent : Nat) : Bool × Nat :=
  if spent + cycles ≤ limit then (true, spent + cycles) else (false, spent)

def Charge.Uncarried (root : ServiceContext) (charge : Charge) : Prop :=
  Derived root charge.context ∧ root.cycles_limit.toNat + charge.cycles.toNat < 2 ^ 64

def Counts (root : ServiceContext) (used : UInt64) (spent : Nat) : Prop :=
  used.toNat = spent ∧ used ≤ root.cycles_limit

theorem Charge.step_counts {root : ServiceContext} {charge : Charge} {used : UInt64} {spent : Nat}
    (uncarried : charge.Uncarried root) (counts : Counts root used spent) :
    ((charge.context.subCycles charge.cycles).run used).1 =
        (Budget.charge root.cycles_limit.toNat charge.cycles.toNat spent).1 ∧
      Counts root (charge.step used)
        (Budget.charge root.cycles_limit.toNat charge.cycles.toNat spent).2 := by
  obtain ⟨derived, small⟩ := uncarried
  obtain ⟨exact, within⟩ := counts
  have no_carry : (used + charge.cycles).toNat = used.toNat + charge.cycles.toNat := by
    rw [UInt64.toNat_add]
    rw [UInt64.le_iff_toNat_le] at within
    omega
  have fits_iff : used + charge.cycles ≤ root.cycles_limit ↔
      spent + charge.cycles.toNat ≤ root.cycles_limit.toNat := by
    rw [UInt64.le_iff_toNat_le, no_carry, exact]
  rw [Charge.step, ServiceContext.sub_cycles_run, derived.cycles_limit_eq, Budget.charge]
  by_cases fits : used + charge.cycles ≤ root.cycles_limit
  · rw [if_pos fits, if_pos (fits_iff.mp fits)]
    exact ⟨rfl, by rw [no_carry, exact], fits⟩
  · rw [if_neg fits, if_neg (mt fits_iff.mpr fits)]
    exact ⟨rfl, exact, within⟩

/-- Over a run of uncarried charges of one family, the shared counter is the
exact budget's: the sum of the charges taken. -/
theorem charges_refine_budget (root : ServiceContext) (charges : List Charge)
    (uncarried : ∀ charge ∈ charges, charge.Uncarried root) {used : UInt64} {spent : Nat}
    (counts : Counts root used spent) :
    Counts root (Trace.run Charge.step charges used)
      (Trace.run (fun charge spent => (Budget.charge root.cycles_limit.toNat charge.cycles.toNat
        spent).2) charges spent) :=
  Trace.run_simulation _ _ (Charge.Uncarried root) (Counts root)
    (fun _ _ _ uncarried counts => (Charge.step_counts uncarried counts).2) charges uncarried
    used spent counts

def limitedContext : ServiceContext := { readContext with cycles_limit := 1000 }

/-- Charges of 300 and 800 on it: the first is taken, the second refused. -/
def twoCharges : List Charge := [⟨limitedContext, 300⟩, ⟨limitedContext, 800⟩]

theorem charges_refine_budget_two_charges :
    Counts limitedContext (Trace.run Charge.step twoCharges 0)
      (Trace.run (fun (charge : Charge) spent =>
        (Budget.charge limitedContext.cycles_limit.toNat charge.cycles.toNat spent).2) twoCharges 0) :=
  charges_refine_budget limitedContext twoCharges
    (fun charge member => by
      rcases List.mem_pair.mp member with rfl | rfl <;> exact ⟨Derived.root, by decide⟩)
    ⟨rfl, by decide⟩

end Muta
