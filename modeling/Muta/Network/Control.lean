import Muta.Network.Peer
import Muta.Lib.Fail

/-! Sending to sessions: `ConnectionServiceControl` of
`core/network/src/connection/control.rs` over the session book of the peer
manager, `SharedSessions` of `core/network/src/peer_manager/shared.rs`.

`filter_blocked` first lets `refresh_blocked` unblock the sessions whose pending
data would be written in time, then splits the target into the sessions it can
send to and those still blocked. When nothing is blocked it returns the target
as it is. Otherwise a `Multi` target is partitioned, and an empty one reaches the
`unreachable!()` of the branch where both parts are empty.

`users_send` sends to `Multi` of the connected sessions `by_chain` finds for the
addresses, and that list is empty as soon as none of them has a connected peer.
So `users_send` panics exactly when the refresh panics (a window size of zero)
or when no address is connected and some session stays blocked
(`users_send_panics_iff`). The tentacle broadcast is a parameter: what it
answers for a priority and a target. The events `users_send` sends to the peer
manager change nothing modelled here.
-/

set_option autoImplicit false

namespace Muta.Network

inductive TargetSession where
  | Single (sid : SessionId)
  | Multi (sids : List SessionId)
  | All
  deriving DecidableEq, Repr

inductive Priority where
  | High
  | Normal
  deriving DecidableEq, Repr

/-- What `send` reads of an error of tentacle's broadcast: the kind of an `IoError`,
or another error. -/
inductive TentacleError where
  | BrokenPipe
  | WouldBlock
  | OtherIo
  | Other
  deriving DecidableEq, Repr

/-- A session of the book: its id, its `blocked` flag, and what its context still
has to write. -/
structure Session where
  id : SessionId
  blocked : Bool
  pending_data_size : Nat
  deriving DecidableEq, Repr

/-- `SharedSessions`: the sessions of the peer manager, the chain index from
addresses to peers, and `SharedSessionsConfig`. -/
structure SharedSessions where
  sessions : List Session
  chain : Address → Option Peer
  max_stream_window_size : Nat
  write_timeout : UInt64

abbrev SessionsM := EStateM (Fail NetworkError) SharedSessions

def unreachableMessage : String := "internal error: entered unreachable code"

def divideMessage : String := "attempt to divide by zero"

namespace SessionsM

def lift {α : Type} : Except (Fail NetworkError) α → SessionsM α
  | .ok value => pure value
  | .error failure => throw failure

def observe {α : Type} (call : SessionsM α) : SessionsM (Except NetworkError α) := fun book =>
  match call book with
  | .ok value after => .ok (.ok value) after
  | .error (.error failure) after => .ok (.error failure) after
  | .error (.panic message) after => .error (.panic message) after

theorem observe_run {α : Type} (call : SessionsM α) (book : SharedSessions) :
    (observe call).run book =
      match call.run book with
      | .ok value after => .ok (.ok value) after
      | .error (.error failure) after => .ok (.error failure) after
      | .error (.panic message) after => .error (.panic message) after := rfl

end SessionsM

open SessionsM

namespace SharedSessions

def allSendable (book : SharedSessions) : List SessionId :=
  (book.sessions.filter fun session => !session.blocked).map (·.id)

def allBlocked (book : SharedSessions) : List SessionId :=
  (book.sessions.filter (·.blocked)).map (·.id)

/-- The loop body of `refresh_blocked`: a blocked session whose pending data takes
fewer than `write_timeout` windows is unblocked. The estimate divides by the
window size, which panics when that is zero. -/
def refreshSession (book : SharedSessions) (session : Session) : MayPanic Session :=
  if !session.blocked then .ok session
  else if book.max_stream_window_size = 0 then .error divideMessage
  else if session.pending_data_size / book.max_stream_window_size < book.write_timeout.toNat then
    .ok { session with blocked := false }
  else .ok session

def refreshBlocked : SessionsM Unit := do
  let book ← get
  let sessions ← lift (Fail.unwind (book.sessions.mapM book.refreshSession))
  set { book with sessions }

def staysBlocked (book : SharedSessions) (session : Session) : Bool :=
  session.blocked &&
    !decide (session.pending_data_size / book.max_stream_window_size < book.write_timeout.toNat)

def refreshed (book : SharedSessions) : SharedSessions :=
  { book with sessions := book.sessions.map fun session =>
      { session with blocked := book.staysBlocked session } }

theorem refresh_session_eq (book : SharedSessions) (session : Session) :
    book.refreshSession session =
      if decide (book.max_stream_window_size = 0) && session.blocked then .error divideMessage
      else .ok { session with blocked := book.staysBlocked session } := by
  obtain ⟨id, blocked, pending⟩ := session
  cases blocked
  case false => simp [refreshSession, staysBlocked]
  case true =>
    by_cases zero : book.max_stream_window_size = 0
    · simp [refreshSession, zero]
    · by_cases fast : pending / book.max_stream_window_size < book.write_timeout.toNat
      · simp [refreshSession, staysBlocked, zero, fast]
      · simp [refreshSession, staysBlocked, zero, fast]

theorem all_blocked_ne_nil_iff (book : SharedSessions) :
    book.allBlocked ≠ [] ↔ ∃ session ∈ book.sessions, session.blocked = true := by
  simp [allBlocked, List.filter_eq_nil_iff]

theorem refresh_blocked_eq (book : SharedSessions) :
    refreshBlocked.run book =
      if book.max_stream_window_size = 0 ∧ book.allBlocked ≠ [] then
        .error (.panic divideMessage) book
      else .ok () book.refreshed := by
  have loop := except_mapM_of_eq book.refresh_session_eq book.sessions
  have panics : (book.sessions.any fun session =>
      decide (book.max_stream_window_size = 0) && session.blocked) = true ↔
      book.max_stream_window_size = 0 ∧ book.allBlocked ≠ [] := by
    rw [all_blocked_ne_nil_iff]
    simp only [List.any_eq_true, Bool.and_eq_true, decide_eq_true_eq]
    exact ⟨fun ⟨session, mem, zero, blocked⟩ => ⟨zero, session, mem, blocked⟩,
      fun ⟨zero, session, mem, blocked⟩ => ⟨session, mem, zero, blocked⟩⟩
  simp only [refreshBlocked, EStateM.run_bind, EStateM.run_get, loop, panics]
  split_ifs <;> rfl

/-- `by_chain`: the sessions of the connected peers of the addresses, and the
addresses of the known peers that are not connected; unknown addresses are
left out of both. -/
def byChain (book : SharedSessions) (addrs : List Address) : List SessionId × List Address :=
  addrs.foldl (fun (connected, unconnected) addr =>
    match book.chain addr with
    | some peer =>
      if peer.getConnectedness == some .Connected then (connected ++ [peer.session_id], unconnected)
      else (connected, unconnected ++ [addr])
    | none => (connected, unconnected)) ([], [])

def peersByChain (book : SharedSessions) (addrs : List Address) : List PeerId × List Address :=
  addrs.foldl (fun (peers, unknown) addr =>
    match book.chain addr with
    | some peer => (peers ++ [peer.id], unknown)
    | none => (peers, unknown ++ [addr])) ([], [])

end SharedSessions

open SharedSessions

def nonempty {α : Type} (items : List α) : Option (List α) :=
  if items.isEmpty then none else some items

/-- What `filter_blocked` does after its refresh, given the sessions then blocked
and those sendable: the target to send to, and the requested sessions that are
blocked. -/
def partitionTarget (allBlocked allSendable : List SessionId) (tar : TargetSession) :
    MayPanic (Option TargetSession × Option (List SessionId)) :=
  if allBlocked.isEmpty then .ok (some tar, none)
  else match tar with
  | .Single sid =>
    if allBlocked.contains sid then .ok (none, some [sid])
    else .ok (some (.Single sid), none)
  | .Multi sids =>
    let (sendable, blocked) := sids.partition fun sid => !allBlocked.contains sid
    if sendable.isEmpty && blocked.isEmpty then .error unreachableMessage
    else if sendable.isEmpty then .ok (none, some blocked)
    else if blocked.isEmpty then .ok (some (.Multi sendable), none)
    else .ok (some (.Multi sendable), some blocked)
  | .All => .ok (some (.Multi allSendable), some allBlocked)

section Partition

variable (allBlocked allSendable : List SessionId)

theorem eq_nil_of_filter_of_filter_not {α : Type} (p : α → Bool) {items : List α}
    (kept : items.filter p = []) (dropped : (items.filter fun item => !p item) = []) :
    items = [] := by
  rw [List.filter_eq_nil_iff] at kept dropped
  refine List.eq_nil_iff_forall_not_mem.mpr fun item mem => ?_
  have fails := kept item mem
  have holds := dropped item mem
  simp_all

@[simp] theorem nonempty_eq_none_iff {α : Type} (items : List α) :
    nonempty items = none ↔ items = [] := by
  simp [nonempty]

/-- A `Multi` target is split by filtering: into the sessions not blocked and
those blocked, each kept in its order, and `Some` only when not empty. An empty
target reaches the `unreachable!()` as soon as any session is blocked. -/
theorem partition_target_multi (sids : List SessionId) :
    partitionTarget allBlocked allSendable (.Multi sids) =
      if allBlocked.isEmpty then .ok (some (.Multi sids), none)
      else if sids = [] then .error unreachableMessage
      else .ok ((nonempty (sids.filter fun sid => !allBlocked.contains sid)).map .Multi,
        nonempty (sids.filter allBlocked.contains)) := by
  have compose : (not ∘ fun sid => !allBlocked.contains sid) = allBlocked.contains := by
    funext sid
    simp
  simp only [partitionTarget, List.partition_eq_filter_filter, compose]
  by_cases none_blocked : allBlocked.isEmpty
  · simp only [none_blocked, ↓reduceIte]
  · by_cases empty : sids = []
    · subst empty
      simp [none_blocked]
    · -- some session of the target lands in one of the two parts
      have both : ¬ ((sids.filter fun sid => !allBlocked.contains sid).isEmpty = true ∧
          (sids.filter allBlocked.contains).isEmpty = true) := by
        simp only [List.isEmpty_iff]
        exact fun both => empty (eq_nil_of_filter_of_filter_not allBlocked.contains both.2 both.1)
      simp only [none_blocked, empty, Bool.false_eq_true, ↓reduceIte]
      split_ifs with parts sendable blocked
      · simp only [Bool.and_eq_true] at parts
        exact absurd parts both
      · have kept : (sids.filter allBlocked.contains).isEmpty = false :=
          Bool.eq_false_iff.mpr fun kept => both ⟨sendable, kept⟩
        simp only [nonempty, sendable, kept, ↓reduceIte, Bool.false_eq_true, Option.map_none]
      · simp only [nonempty, sendable, blocked, ↓reduceIte, Bool.false_eq_true, Option.map_some]
      · simp only [nonempty, sendable, blocked, ↓reduceIte, Bool.false_eq_true, Option.map_some]

theorem partition_target_panics_iff (tar : TargetSession) :
    (∃ message, partitionTarget allBlocked allSendable tar = .error message) ↔
      tar = .Multi [] ∧ allBlocked ≠ [] := by
  by_cases none_blocked : allBlocked.isEmpty
  · simp [partitionTarget, List.isEmpty_iff.mp none_blocked]
  · have blocked : allBlocked ≠ [] := fun empty => none_blocked (List.isEmpty_iff.mpr empty)
    cases tar with
    | Single sid =>
      simp only [partitionTarget, none_blocked]
      split_ifs <;> simp
    | Multi sids =>
      rw [partition_target_multi]
      by_cases empty : sids = []
      · simp [none_blocked, empty, blocked]
      · simp [none_blocked, empty]
    | All => simp [partitionTarget, none_blocked]

theorem partition_target_ne_none_none (tar : TargetSession) :
    partitionTarget allBlocked allSendable tar ≠ .ok (none, none) := by
  by_cases none_blocked : allBlocked.isEmpty
  · simp [partitionTarget, none_blocked]
  · cases tar with
    | Single sid =>
      simp only [partitionTarget, none_blocked]
      split_ifs <;> simp
    | Multi sids =>
      rw [partition_target_multi]
      split_ifs with empty
      · simp
      · intro parts
        simp only [Except.ok.injEq, Prod.mk.injEq, Option.map_eq_none_iff,
          nonempty_eq_none_iff] at parts
        exact empty (eq_nil_of_filter_of_filter_not allBlocked.contains parts.2 parts.1)
    | All => simp [partitionTarget, none_blocked]

def TargetSession.ids (all : List SessionId) : TargetSession → List SessionId
  | .Single sid => [sid]
  | .Multi sids => sids
  | .All => all

theorem partition_target_unblocked {tar target : TargetSession}
    (returns : partitionTarget allBlocked allSendable tar = .ok (some target, none))
    (all : List SessionId) :
    target = tar ∧ ∀ sid ∈ tar.ids all, allBlocked.contains sid = false := by
  by_cases none_blocked : allBlocked.isEmpty
  · simp only [partitionTarget, none_blocked, ↓reduceIte, Except.ok.injEq, Prod.mk.injEq,
      Option.some.injEq, and_true] at returns
    simp [returns, List.isEmpty_iff.mp none_blocked]
  · cases tar with
    | Single sid =>
      simp only [partitionTarget, none_blocked, Bool.false_eq_true, ↓reduceIte] at returns
      split_ifs at returns with blocked
      · simp at returns
      · simp only [Except.ok.injEq, Prod.mk.injEq, Option.some.injEq, and_true] at returns
        refine ⟨returns.symm, fun other mem => ?_⟩
        rw [TargetSession.ids, List.mem_singleton] at mem
        rw [mem]
        exact Bool.eq_false_iff.mpr blocked
    | Multi sids =>
      rw [partition_target_multi] at returns
      split_ifs at returns with empty
      · simp only [Except.ok.injEq, Prod.mk.injEq, nonempty_eq_none_iff,
          List.filter_eq_nil_iff] at returns
        -- no session of the target is blocked, so the sendable part is all of it
        have unblocked : ∀ sid ∈ sids, allBlocked.contains sid = false := by
          simpa using returns.2
        have sendable : (sids.filter fun sid => !allBlocked.contains sid) = sids :=
          List.filter_eq_self.mpr fun sid mem => by rw [unblocked sid mem]; rfl
        simp only [sendable, nonempty, List.isEmpty_iff, empty, ↓reduceIte, Option.map_some,
          Option.some.injEq] at returns
        exact ⟨returns.1.symm, unblocked⟩
    | All => simp [partitionTarget, none_blocked] at returns

end Partition

def filterBlocked (tar : TargetSession) :
    SessionsM (Option TargetSession × Option (List SessionId)) := do
  refreshBlocked
  let book ← get
  lift (Fail.unwind (partitionTarget book.allBlocked book.allSendable tar))

theorem filter_blocked_eq (tar : TargetSession) (book : SharedSessions) :
    (filterBlocked tar).run book =
      if book.max_stream_window_size = 0 ∧ book.allBlocked ≠ [] then
        .error (.panic divideMessage) book
      else match partitionTarget book.refreshed.allBlocked book.refreshed.allSendable tar with
        | .ok result => .ok result book.refreshed
        | .error message => .error (.panic message) book.refreshed := by
  simp only [filterBlocked, EStateM.run_bind, refresh_blocked_eq]
  split_ifs
  · rfl
  · simp only [EStateM.run_get]
    cases partitionTarget book.refreshed.allBlocked book.refreshed.allSendable tar <;> rfl

def broadcastError : TentacleError → NetworkError
  | .BrokenPipe => .Shutdown
  | .WouldBlock => .Busy
  | _ => .UnexpectedError

/-- `MessageSender::send`, with tentacle's broadcast for each priority as a parameter. -/
def send (broadcast : Priority → TargetSession → Except TentacleError Unit) (tar : TargetSession)
    (pri : Priority) : SessionsM Unit := do
  let (tar, opt_blocked) ← match ← filterBlocked tar with
    | (none, none) => lift (.error (.panic unreachableMessage))
    | (none, blocked) => lift (.error (.error (NetworkError.send blocked none)))
    | (some tar, opt_blocked) => pure (tar, opt_blocked)
  let ret := (broadcast pri tar).mapError broadcastError
  match ret, opt_blocked with
  | .ok (), none => pure ()
  | .ok (), some _ => throw (.error (NetworkError.send opt_blocked none))
  | .error other, _ => throw (.error (NetworkError.send opt_blocked (some other)))

section Send

variable (broadcast : Priority → TargetSession → Except TentacleError Unit) (pri : Priority)
variable {tar : TargetSession} {book after : SharedSessions}

theorem send_eq_of_filtered {target : TargetSession} {blocked : Option (List SessionId)}
    (filtered : (filterBlocked tar).run book = .ok (some target, blocked) after) :
    (send broadcast tar pri).run book =
      match (broadcast pri target).mapError broadcastError, blocked with
      | .ok (), none => .ok () after
      | .ok (), some _ => .error (.error (NetworkError.send blocked none)) after
      | .error other, _ => .error (.error (NetworkError.send blocked (some other))) after := by
  simp only [send, EStateM.run_bind, filtered, EStateM.run_pure]
  cases (broadcast pri target).mapError broadcastError <;> cases blocked <;> rfl

theorem send_eq_of_blocked {blocked : List SessionId}
    (filtered : (filterBlocked tar).run book = .ok (none, some blocked) after) :
    (send broadcast tar pri).run book =
      .error (.error (NetworkError.send (some blocked) none)) after := by
  simp only [send, EStateM.run_bind, filtered]
  rfl

theorem send_eq_of_failed {failure : Fail NetworkError}
    (fails : (filterBlocked tar).run book = .error failure after) :
    (send broadcast tar pri).run book = .error failure after := by
  simp only [send, EStateM.run_bind, fails]

theorem send_no_panic_of_partitioned
    {result : Option TargetSession × Option (List SessionId)}
    (passes : ¬ (book.max_stream_window_size = 0 ∧ book.allBlocked ≠ []))
    (partitioned : partitionTarget book.refreshed.allBlocked book.refreshed.allSendable tar =
      .ok result) (message : String) (after : SharedSessions) :
    (send broadcast tar pri).run book ≠ .error (.panic message) after := by
  have filtered : (filterBlocked tar).run book = .ok result book.refreshed := by
    rw [filter_blocked_eq, if_neg passes, partitioned]
  obtain ⟨target, blocked⟩ := result
  cases target with
  | none =>
    cases blocked with
    | none => exact absurd partitioned (partition_target_ne_none_none _ _ tar)
    | some blocked =>
      rw [send_eq_of_blocked broadcast pri filtered]
      simp
  | some target =>
    rw [send_eq_of_filtered broadcast pri filtered]
    cases (broadcast pri target).mapError broadcastError <;> cases blocked <;> simp

/-- `send` panics exactly where `filter_blocked` does: in the refresh when the window
size is zero, or on an empty `Multi` target while a session stays blocked. -/
theorem send_panics_iff :
    (∃ message after, (send broadcast tar pri).run book = .error (.panic message) after) ↔
      (book.max_stream_window_size = 0 ∧ book.allBlocked ≠ []) ∨
        (tar = .Multi [] ∧ book.refreshed.allBlocked ≠ []) := by
  have filtered := filter_blocked_eq tar book
  have partition_panics := partition_target_panics_iff book.refreshed.allBlocked
    book.refreshed.allSendable tar
  split_ifs at filtered with panics
  · rw [send_eq_of_failed broadcast pri filtered]
    simp [panics]
  · cases partitioned : partitionTarget book.refreshed.allBlocked book.refreshed.allSendable tar with
    | error message =>
      rw [partitioned] at filtered
      rw [send_eq_of_failed broadcast pri filtered]
      simp only [EStateM.Result.error.injEq, Fail.panic.injEq]
      exact ⟨fun _ => .inr (partition_panics.mp ⟨message, partitioned⟩),
        fun _ => ⟨message, book.refreshed, rfl, rfl⟩⟩
    | ok result =>
      have returns : ¬ (tar = .Multi [] ∧ book.refreshed.allBlocked ≠ []) := fun empty => by
        obtain ⟨message, fails⟩ := partition_panics.mpr empty
        rw [partitioned] at fails
        cases fails
      simp only [panics, returns, or_self, iff_false, not_exists]
      exact send_no_panic_of_partitioned broadcast pri panics partitioned

@[simp] theorem refreshed_ids (book : SharedSessions) :
    book.refreshed.sessions.map (·.id) = book.sessions.map (·.id) := by
  simp [refreshed]

/-- `send` returns only when the broadcast to the whole target succeeded and no
session the target asks for is blocked after the refresh. -/
theorem send_ok (returns : (send broadcast tar pri).run book = .ok () after) :
    after = book.refreshed ∧ broadcast pri tar = .ok () ∧
      ∀ sid ∈ tar.ids (book.sessions.map (·.id)), book.refreshed.allBlocked.contains sid = false := by
  have filtered := filter_blocked_eq tar book
  split_ifs at filtered with panics
  · rw [send_eq_of_failed broadcast pri filtered] at returns
    cases returns
  · cases partitioned : partitionTarget book.refreshed.allBlocked book.refreshed.allSendable tar with
    | error message =>
      rw [partitioned] at filtered
      rw [send_eq_of_failed broadcast pri filtered] at returns
      cases returns
    | ok result =>
      rw [partitioned] at filtered
      obtain ⟨target, blocked⟩ := result
      cases target with
      | none =>
        cases blocked with
        | none => exact absurd partitioned (partition_target_ne_none_none _ _ tar)
        | some blocked =>
          rw [send_eq_of_blocked broadcast pri filtered] at returns
          cases returns
      | some target =>
        rw [send_eq_of_filtered broadcast pri filtered] at returns
        -- only a broadcast that succeeded with nothing blocked returns
        cases sent : broadcast pri target <;> cases blocked <;>
          simp only [sent, except_mapError_ok, except_mapError_error, reduceCtorEq,
            EStateM.Result.ok.injEq, true_and] at returns
        obtain ⟨same, unblocked⟩ :=
          partition_target_unblocked _ _ partitioned (book.sessions.map (·.id))
        subst same
        exact ⟨returns.symm, sent, unblocked⟩

def openBook : SharedSessions where
  sessions := [⟨1, false, 0⟩]
  chain := fun _ => none
  max_stream_window_size := 1
  write_timeout := 10

theorem send_ok_to_open_session :
    openBook.refreshed = openBook.refreshed ∧ (Except.ok () : Except TentacleError Unit) = .ok () ∧
      ∀ sid ∈ (TargetSession.Single 1).ids (openBook.sessions.map (·.id)),
        openBook.refreshed.allBlocked.contains sid = false :=
  send_ok (fun _ _ => .ok ()) .High (by rfl)

end Send

/-- The end of `users_send`, after its send: the send's result when every address
was connected, and otherwise an error naming the addresses not connected and those
unknown, along with the send's error. -/
def reportUnconnected (send_ret : Except NetworkError Unit) (unconnected : List Address) :
    SessionsM Unit := do
  if unconnected.isEmpty then
    lift (send_ret.mapError .error)
  else
    let (_, unknown) := (← get).peersByChain unconnected
    let unconnected := unconnected.filter fun addr => !unknown.contains addr
    let other := match send_ret with
      | .ok () => none
      | .error failure => some failure
    if other.isSome || !unconnected.isEmpty || !unknown.isEmpty then
      throw (.error (NetworkError.userSend (nonempty unconnected) (nonempty unknown) other))

def usersSend (broadcast : Priority → TargetSession → Except TentacleError Unit)
    (chain_addrs : List Address) (pri : Priority) : SessionsM Unit := do
  let (connected, unconnected) := (← get).byChain chain_addrs
  let send_ret ← observe (send broadcast (.Multi connected) pri)
  reportUnconnected send_ret unconnected

theorem report_unconnected_no_panic (send_ret : Except NetworkError Unit)
    (unconnected : List Address) (book after : SharedSessions) (message : String) :
    (reportUnconnected send_ret unconnected).run book ≠ .error (.panic message) after := by
  unfold reportUnconnected
  split_ifs
  · cases send_ret <;> simp [lift]
  · simp only [EStateM.run_bind, EStateM.run_get]
    split_ifs <;> simp

section UsersSend

variable (broadcast : Priority → TargetSession → Except TentacleError Unit)
  (chain_addrs : List Address) (pri : Priority) (book : SharedSessions)

theorem users_send_eq_of_send_panics {message : String} {after : SharedSessions}
    (panics : (send broadcast (.Multi (book.byChain chain_addrs).1) pri).run book =
      .error (.panic message) after) :
    (usersSend broadcast chain_addrs pri).run book = .error (.panic message) after := by
  simp only [usersSend, EStateM.run_bind, EStateM.run_get, observe_run, panics]

theorem users_send_no_panic_of_send
    (safe : ∀ message after, (send broadcast (.Multi (book.byChain chain_addrs).1) pri).run book ≠
      .error (.panic message) after) (message : String) (after : SharedSessions) :
    (usersSend broadcast chain_addrs pri).run book ≠ .error (.panic message) after := by
  simp only [usersSend, EStateM.run_bind, EStateM.run_get, observe_run]
  cases sent : (send broadcast (.Multi (book.byChain chain_addrs).1) pri).run book with
  | ok value mid => exact report_unconnected_no_panic _ _ mid after message
  | error failure mid =>
    cases failure with
    | error failure => exact report_unconnected_no_panic _ _ mid after message
    | panic inner => exact absurd sent (safe inner mid)

/-- `users_send` panics exactly when the refresh divides by a window size of zero,
or when none of the addresses has a connected peer while a session stays blocked:
it then sends to an empty `Multi` target, which `filter_blocked` cannot partition. -/
theorem users_send_panics_iff :
    (∃ message after, (usersSend broadcast chain_addrs pri).run book =
      .error (.panic message) after) ↔
      (book.max_stream_window_size = 0 ∧ book.allBlocked ≠ []) ∨
        ((book.byChain chain_addrs).1 = [] ∧ book.refreshed.allBlocked ≠ []) := by
  have sends := @send_panics_iff broadcast pri (.Multi (book.byChain chain_addrs).1) book
  simp only [TargetSession.Multi.injEq] at sends
  rw [← sends]
  constructor
  · rintro ⟨message, after, panics⟩
    by_contra safe
    exact users_send_no_panic_of_send broadcast chain_addrs pri book
      (fun message after sent => safe ⟨message, after, sent⟩) message after panics
  · rintro ⟨message, after, panics⟩
    exact ⟨message, after, users_send_eq_of_send_panics broadcast chain_addrs pri book panics⟩

/-- `users_send` to addresses none of which has a connected peer, while some session
stays blocked after the refresh, reaches the `unreachable!()` of `filter_blocked`
and panics. -/
theorem users_send_panics_without_connected (window : book.max_stream_window_size ≠ 0)
    (none_connected : (book.byChain chain_addrs).1 = [])
    (still_blocked : book.refreshed.allBlocked ≠ []) :
    (usersSend broadcast chain_addrs pri).run book =
      .error (.panic unreachableMessage) book.refreshed := by
  have passes : ¬ (book.max_stream_window_size = 0 ∧ book.allBlocked ≠ []) :=
    fun ⟨zero, _⟩ => window zero
  have partitioned : partitionTarget book.refreshed.allBlocked book.refreshed.allSendable
      (.Multi []) = .error unreachableMessage := by
    rw [partition_target_multi]
    simp [still_blocked]
  have filtered : (filterBlocked (.Multi [])).run book =
      .error (.panic unreachableMessage) book.refreshed := by
    rw [filter_blocked_eq, if_neg passes, partitioned]
  apply users_send_eq_of_send_panics
  rw [none_connected]
  exact send_eq_of_failed broadcast pri filtered

end UsersSend

/-- One session blocked behind 1000 pending bytes, with a window of one byte and a
write timeout of ten seconds, and no peer in the chain index yet. -/
def stalledBook : SharedSessions where
  sessions := [⟨1, true, 1000⟩]
  chain := fun _ => none
  max_stream_window_size := 1
  write_timeout := 10

def unknownValidator : Address := ⟨List.replicate 20 0, Address.zeros_length⟩

theorem users_send_panics_without_connected_stalled :
    stalledBook.max_stream_window_size ≠ 0 ∧ (stalledBook.byChain [unknownValidator]).1 = [] ∧
      stalledBook.refreshed.allBlocked ≠ [] ∧
      (usersSend (fun _ _ => .ok ()) [unknownValidator] .High).run stalledBook =
        .error (.panic unreachableMessage) stalledBook.refreshed :=
  ⟨by decide, rfl, by decide,
    users_send_panics_without_connected _ _ _ _ (by decide) rfl (by decide)⟩

end Muta.Network
