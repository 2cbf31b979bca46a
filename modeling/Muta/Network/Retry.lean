import Muta.Lib.Saturating
import Muta.Lib.Trace

/-! The retry state of a peer, `core/network/src/peer_manager/retry.rs`, and the
backoff loop of `PeerManager::session_closed` in `peer_manager/mod.rs`.

`count` is an `AtomicU8` that `inc` advances with `fetch_add`, which wraps at
256; the exponent `inc` hands to `u64::pow` is the old count plus one,
saturated at 255, and that power wraps to zero from the exponent 64 on. Each
read of `time::now()` is a parameter `now`, in seconds. The loop of
`session_closed` reads the clock once per round in `eta` and once in `inc`; the
model reads one `now` for the whole loop.

So the count is the number of increments since the last `reset` or `set`
modulo 256 (`count_run_inc`), a run-out peer stops being one after enough
further increments, and from the count 63 on an increment sets no backoff at
all. The loop still ends from every state, through the wrap, as long as the
clock is 30 seconds short of `u64::MAX` (`session_closed_backoff_returns_iff`).
-/

set_option autoImplicit false

namespace Muta.Network

def BACKOFF_BASE : UInt64 := 2
def MAX_RETRY_INTERVAL : UInt64 := 512
def MAX_RETRY_COUNT : UInt8 := 30
def REPEATED_CONNECTION_TIMEOUT : UInt64 := 30

structure Retry where
  max : UInt8
  count : UInt8
  next_attempt_at : UInt64
  deriving DecidableEq, Repr

namespace Retry

def new (max : UInt8) : Retry := ⟨max, 0, 0⟩

def backoffSecs (count : UInt8) : UInt64 :=
  let secs := BACKOFF_BASE.wrappingPow count.toUInt32
  if secs > MAX_RETRY_INTERVAL then MAX_RETRY_INTERVAL else secs

/-- `inc` at clock `now`: `fetch_add` stores the wrapped successor and returns the
old count, whose saturated successor is the exponent. -/
def inc (now : UInt64) (retry : Retry) : Retry :=
  let count := retry.count.saturatingAdd 1
  { retry with
    count := retry.count + 1
    next_attempt_at := now.saturatingAdd (backoffSecs count) }

def eta (now : UInt64) (retry : Retry) : UInt64 := retry.next_attempt_at.saturatingSub now

def reset (retry : Retry) : Retry := { retry with count := 0 }

def ready (now : UInt64) (retry : Retry) : Bool := now > retry.next_attempt_at

def runOut (retry : Retry) : Bool := retry.count > retry.max

def setNextAttemptAt (retry : Retry) (next_attempt_at : UInt64) : Retry :=
  { retry with next_attempt_at }

def set (retry : Retry) (n : UInt8) : Retry := { retry with count := n }

@[simp] theorem count_inc (now : UInt64) (retry : Retry) :
    (retry.inc now).count = retry.count + 1 := rfl

@[simp] theorem max_inc (now : UInt64) (retry : Retry) : (retry.inc now).max = retry.max := rfl

@[simp] theorem next_attempt_at_inc (now : UInt64) (retry : Retry) :
    (retry.inc now).next_attempt_at = now.saturatingAdd (backoffSecs (retry.count.saturatingAdd 1)) :=
  rfl

/-! ### The delay -/

theorem backoff_secs_toNat_of_lt {count : UInt8} (small : count.toNat < 64) :
    (backoffSecs count).toNat = min (2 ^ count.toNat) 512 := by
  have exact : (BACKOFF_BASE.wrappingPow count.toUInt32).toNat = 2 ^ count.toNat := by
    rw [UInt64.toNat_wrapping_pow, UInt8.toNat_toUInt32]
    exact UInt64.two_pow_mod_of_lt small
  have cap : MAX_RETRY_INTERVAL.toNat = 512 := rfl
  dsimp only [backoffSecs]
  split_ifs with capped
  · rw [gt_iff_lt, UInt64.lt_iff_toNat_lt, exact, cap] at capped
    rw [cap, Nat.min_eq_right (Nat.le_of_lt capped)]
  · rw [gt_iff_lt, UInt64.lt_iff_toNat_lt, exact, cap] at capped
    rw [exact, Nat.min_eq_left (Nat.le_of_not_lt capped)]

theorem backoff_secs_of_wraps {count : UInt8} (large : 64 ≤ count.toNat) : backoffSecs count = 0 := by
  have wrapped : BACKOFF_BASE.wrappingPow count.toUInt32 = 0 := by
    apply UInt64.toNat_inj.mp
    rw [UInt64.toNat_wrapping_pow, UInt8.toNat_toUInt32]
    exact UInt64.two_pow_mod_of_le large
  simp [backoffSecs, wrapped]

theorem toNat_saturating_add_one (count : UInt8) :
    (count.saturatingAdd 1).toNat = min (count.toNat + 1) 255 := by
  simp

/-! ### Runs of increments -/

theorem count_run_inc (nows : List UInt64) (retry : Retry) :
    (Trace.run inc nows retry).count.toNat = (retry.count.toNat + nows.length) % 256 := by
  induction nows generalizing retry with
  | nil =>
    rw [Trace.run_nil, List.length_nil, Nat.add_zero, Nat.mod_eq_of_lt retry.count.toNat_lt]
  | cons now rest ih =>
    rw [Trace.run_cons, ih, count_inc, UInt8.toNat_add, List.length_cons]
    simp only [UInt8.toNat_one]
    omega

theorem max_run_inc (nows : List UInt64) (retry : Retry) :
    (Trace.run inc nows retry).max = retry.max := by
  induction nows generalizing retry with
  | nil => rfl
  | cons now rest ih => rw [Trace.run_cons, ih, max_inc]

/-- Increments wrap the count: it is their number since the state modulo 256, so
`run_out` holds exactly when that remainder passes `max`, and an increment from
the count 63 on sets the next attempt to the clock itself. -/
theorem retry_count_wraps (retry : Retry) (nows : List UInt64) :
    (Trace.run inc nows retry).count.toNat = (retry.count.toNat + nows.length) % 256 ∧
      (Trace.run inc nows retry).runOut =
        decide (retry.max.toNat < (retry.count.toNat + nows.length) % 256) ∧
      ∀ now, 63 ≤ retry.count.toNat → (retry.inc now).next_attempt_at = now := by
  have counted := count_run_inc nows retry
  refine ⟨counted, ?_, fun now late => ?_⟩
  · rw [runOut, max_run_inc, ← counted]
    exact decide_eq_decide.mpr UInt8.lt_iff_toNat_lt
  · have wraps : 64 ≤ (retry.count.saturatingAdd 1).toNat := by
      rw [toNat_saturating_add_one]
      omega
    apply UInt64.toNat_inj.mp
    rw [next_attempt_at_inc, backoff_secs_of_wraps wraps, UInt64.toNat_saturating_add]
    have below := now.toNat_lt
    simp only [UInt64.toNat_zero]
    omega

/-- A peer that has just run out is no longer run out 256 increments later, and an
increment at the count 63 sets no delay. -/
theorem retry_count_wraps_new_peer :
    (Trace.run inc (List.replicate 256 1000) (new MAX_RETRY_COUNT)).runOut = false ∧
      (((new MAX_RETRY_COUNT).set 63).inc 1000).next_attempt_at = 1000 :=
  ⟨(retry_count_wraps (new MAX_RETRY_COUNT) (List.replicate 256 1000)).2.1.trans
      (by rw [List.length_replicate]; decide),
    (retry_count_wraps ((new MAX_RETRY_COUNT).set 63) []).2.2 1000 (by decide)⟩

/-! ### The backoff loop of `session_closed` -/

/-- The loop `while retry.eta() < REPEATED_CONNECTION_TIMEOUT { retry.inc() }` with
the clock at `now`; `fuel` bounds its rounds, and `none` is running out of it. -/
def sessionClosedBackoff : Nat → UInt64 → Retry → Option Retry
  | 0, _, _ => none
  | fuel + 1, now, retry =>
    if retry.eta now < REPEATED_CONNECTION_TIMEOUT then sessionClosedBackoff fuel now (retry.inc now)
    else some retry

/-- The rounds before an increment sets a delay of at least 32 seconds: the counts
below 4 climb to 4, the counts from 63 on wrap round to 0 first. -/
def roundsLeft (count : UInt8) : Nat :=
  if count.toNat < 4 then 4 - count.toNat else if count.toNat ≤ 62 then 0 else 260 - count.toNat

theorem eta_inc_of_steady {now : UInt64} {retry : Retry}
    (clock : now.toNat + REPEATED_CONNECTION_TIMEOUT.toNat < 2 ^ 64)
    (steady : roundsLeft retry.count = 0) :
    REPEATED_CONNECTION_TIMEOUT ≤ (retry.inc now).eta now := by
  have range : 4 ≤ retry.count.toNat ∧ retry.count.toNat ≤ 62 := by
    have below := retry.count.toNat_lt
    unfold roundsLeft at steady
    split_ifs at steady <;> omega
  have exponent : (retry.count.saturatingAdd 1).toNat = retry.count.toNat + 1 := by
    rw [toNat_saturating_add_one]
    omega
  have delay : 32 ≤ (backoffSecs (retry.count.saturatingAdd 1)).toNat := by
    rw [backoff_secs_toNat_of_lt (by omega), exponent]
    have grown : 2 ^ 5 ≤ 2 ^ (retry.count.toNat + 1) := Nat.pow_le_pow_right (by decide) (by omega)
    omega
  rw [UInt64.le_iff_toNat_le, eta, UInt64.toNat_saturating_sub, next_attempt_at_inc,
    UInt64.toNat_saturating_add]
  have timeout : REPEATED_CONNECTION_TIMEOUT.toNat = 30 := rfl
  omega

theorem rounds_left_inc {count : UInt8} (unsteady : roundsLeft count ≠ 0) :
    roundsLeft (count + 1) + 1 = roundsLeft count := by
  have below := count.toNat_lt
  have next : (count + 1).toNat = (count.toNat + 1) % 256 := by
    rw [UInt8.toNat_add, UInt8.toNat_one]
  unfold roundsLeft at unsteady ⊢
  rw [next]
  split_ifs at unsteady ⊢ <;> omega

theorem session_closed_backoff_returns {now : UInt64}
    (clock : now.toNat + REPEATED_CONNECTION_TIMEOUT.toNat < 2 ^ 64) :
    ∀ (rounds : Nat) (retry : Retry), roundsLeft retry.count = rounds →
      ∃ after, sessionClosedBackoff (rounds + 2) now retry = some after ∧
        REPEATED_CONNECTION_TIMEOUT ≤ after.eta now := by
  intro rounds
  induction rounds with
  | zero =>
    intro retry steady
    by_cases waiting : retry.eta now < REPEATED_CONNECTION_TIMEOUT
    · -- One increment sets a long enough delay, and the next test lets it out.
      have accepted := eta_inc_of_steady clock steady
      refine ⟨retry.inc now, ?_, accepted⟩
      simp [sessionClosedBackoff, waiting, UInt64.not_lt.mpr accepted]
    · exact ⟨retry, by simp [sessionClosedBackoff, waiting], UInt64.not_lt.mp waiting⟩
  | succ rounds ih =>
    intro retry left
    by_cases waiting : retry.eta now < REPEATED_CONNECTION_TIMEOUT
    · have closer := rounds_left_inc (show roundsLeft retry.count ≠ 0 by omega)
      obtain ⟨after, ran, accepted⟩ := ih (retry.inc now) (by rw [count_inc]; omega)
      refine ⟨after, ?_, accepted⟩
      rw [sessionClosedBackoff, if_pos waiting]
      exact ran
    · exact ⟨retry, by simp [sessionClosedBackoff, waiting], UInt64.not_lt.mp waiting⟩

/-- Within 30 seconds of the end of `u64` the delay saturates below 30 seconds, and
the loop never ends. -/
theorem session_closed_backoff_spins {now : UInt64}
    (late : 2 ^ 64 ≤ now.toNat + REPEATED_CONNECTION_TIMEOUT.toNat) :
    ∀ (fuel : Nat) (retry : Retry), sessionClosedBackoff fuel now retry = none := by
  intro fuel
  induction fuel with
  | zero => intro retry; rfl
  | succ fuel ih =>
    intro retry
    have waiting : retry.eta now < REPEATED_CONNECTION_TIMEOUT := by
      rw [UInt64.lt_iff_toNat_lt, eta, UInt64.toNat_saturating_sub]
      have timeout : REPEATED_CONNECTION_TIMEOUT.toNat = 30 := rfl
      have bounded := retry.next_attempt_at.toNat_lt
      omega
    rw [sessionClosedBackoff, if_pos waiting]
    exact ih (retry.inc now)

/-- The backoff loop of `session_closed` ends from every retry state exactly when the
clock is more than 30 seconds short of `u64::MAX`. -/
theorem session_closed_backoff_returns_iff (now : UInt64) (retry : Retry) :
    (∃ fuel after, sessionClosedBackoff fuel now retry = some after) ↔
      now.toNat + REPEATED_CONNECTION_TIMEOUT.toNat < 2 ^ 64 := by
  constructor
  · rintro ⟨fuel, after, ran⟩
    by_contra late
    rw [session_closed_backoff_spins (Nat.le_of_not_lt late) fuel retry] at ran
    cases ran
  · intro clock
    obtain ⟨after, ran, -⟩ := session_closed_backoff_returns clock _ retry rfl
    exact ⟨_, after, ran⟩

end Retry

end Muta.Network
