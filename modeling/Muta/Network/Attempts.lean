import Muta.Network.Sessions

/-! The connection attempts of the peer manager.

`connect_peers_now` dials every multiaddr of a peer (`all_raw`) but starts the
attempt's counter at the number of those it may still dial (`connectable_len`),
and each failure of a dial takes one off the counter with an unchecked
`fetch_sub`. A peer some of whose multiaddrs are given up is therefore dialed
more times than its counter counts: the attempt ends while dials are pending,
and when none of its multiaddrs is connectable the first failure wraps the
counter round. Every later failure then keeps the attempt waiting, so the peer
stays `Connecting` after all its dials failed
(`attempt_counts_connectable_but_dials_all`).
-/

set_option autoImplicit false

namespace Muta.Network

namespace PeerManager

variable {m : PeerManager}

/-! ### The attempt of a peer -/

theorem attempt_congr {m' : PeerManager} (connecting : m'.connecting = m.connecting)
    (ids : ∀ r, (m'.heap r).peer.id = (m.heap r).peer.id) (pid : PeerId) : m'.attempt pid = m.attempt pid := by
  unfold attempt
  rw [connecting]
  exact List.find?_congr fun a _ => by rw [ids]

theorem attempt_modify_peer (m : PeerManager) {f : ArcPeer → ArcPeer} (keeps : KeepsIdent f) (r : PeerRef)
    (pid : PeerId) : (m.modifyPeer r f).attempt pid = m.attempt pid :=
  @attempt_congr m (m.modifyPeer r f) rfl
    (fun r' => congrArg (·.1) (congrArg (Book.ident · r') (book_modify_peer keeps m r))) pid

theorem attempt_remove_attempt (m : PeerManager) (pid : PeerId) : (m.removeAttempt pid).attempt pid = none := by
  simp [attempt, removeAttempt]

theorem attempt_insert_attempt {a : ConnectingAttempt} {pid : PeerId} (named : (m.heap a.peer).peer.id = pid)
    (idle : m.attempt pid = none) : (m.insertAttempt a).attempt pid = some a := by
  subst named
  have absent : (m.connecting.any fun other => (m.heap other.peer).peer.id == (m.heap a.peer).peer.id) = false := by
    simpa [attempt] using idle
  simp only [insertAttempt, absent, Bool.false_eq_true, if_false]
  unfold attempt
  rw [List.find?_append, show (m.connecting.find? fun other =>
    (m.heap other.peer).peer.id == (m.heap a.peer).peer.id) = none from idle]
  simp

/-! ### Dialing -/

@[simp] theorem insert_attempt_heap (m : PeerManager) (a : ConnectingAttempt) : (m.insertAttempt a).heap = m.heap := by
  dsimp only [insertAttempt]
  split <;> rfl

@[simp] theorem insert_attempt_sent (m : PeerManager) (a : ConnectingAttempt) : (m.insertAttempt a).sent = m.sent := by
  dsimp only [insertAttempt]
  split <;> rfl

@[simp] theorem insert_attempt_inner (m : PeerManager) (a : ConnectingAttempt) :
    (m.insertAttempt a).inner = m.inner := by
  dsimp only [insertAttempt]
  split <;> rfl

@[simp] theorem connectedness_set_connectedness (p : ArcPeer) (flag : Connectedness) :
    (p.setConnectedness flag).connectedness = some flag := by
  simp [ArcPeer.setConnectedness, ArcPeer.connectedness, Peer.setConnectedness, Peer.getConnectedness]

@[simp] theorem id_set_connectedness (p : ArcPeer) (flag : Connectedness) :
    (p.setConnectedness flag).peer.id = p.peer.id := rfl

@[simp] theorem all_raw_set_connectedness (p : ArcPeer) (flag : Connectedness) :
    (p.setConnectedness flag).allRaw = p.allRaw := rfl

@[simp] theorem connectable_len_set_connectedness (p : ArcPeer) (flag : Connectedness) :
    (p.setConnectedness flag).connectableLen = p.connectableLen := rfl

theorem connect_peers_by_id_dials {pid : PeerId} {r : PeerRef} (found : m.peer pid = some r)
    (open_list : m.config.whitelist_peers_only = false)
    (dialable : (m.heap r).connectedness = some .CanConnect ∨ (m.heap r).connectedness = some .NotConnected)
    (idle : m.attempt pid = none) :
    (m.connectPeersById [pid]).sent = m.sent ++ [.Connect (m.heap r).allRaw] ∧
      (m.connectPeersById [pid]).attempt pid = some ⟨r, UInt64.ofNat (m.heap r).connectableLen⟩ ∧
      ((m.connectPeersById [pid]).heap r).connectedness = some .Connecting ∧
      (m.connectPeersById [pid]).peer pid = some r := by
  obtain ⟨-, named⟩ := peer_spec found
  have chosen : m.connectPeersById [pid] = m.connectPeersNow [r] := by
    have connectable : ((m.heap r).connectedness == some .CanConnect ||
        (m.heap r).connectedness == some .NotConnected) = true := by
      rcases dialable with same | same <;> simp [same]
    simp [connectPeersById, connectPeers, found, open_list, connectable]
  -- the peer is marked, then its attempt is kept, then its multiaddrs are dialed
  have ids : ∀ r', ((m.modifyPeer r (·.setConnectedness .Connecting)).heap r').peer.id = (m.heap r').peer.id :=
    modify_peer_id m rfl
  have kept : ((m.modifyPeer r (·.setConnectedness .Connecting)).insertAttempt
      ⟨r, UInt64.ofNat (m.heap r).connectableLen⟩).attempt pid = some ⟨r, UInt64.ofNat (m.heap r).connectableLen⟩ := by
    refine attempt_insert_attempt (by simpa using named) ?_
    exact (attempt_modify_peer m (fun p => ArcPeer.ident_set_connectedness p .Connecting) r pid).trans idle
  rw [chosen]
  simp only [connectPeersNow, List.foldl_cons, List.foldl_nil, List.nil_append]
  simp only [modify_peer_heap_self, connectable_len_set_connectedness, all_raw_set_connectedness]
  refine ⟨by simp [modifyPeer], kept, by simp, ?_⟩
  rw [← found]
  exact @peer_congr m _ (by simp [modifyPeer]) (fun r' _ => by simpa using ids r') pid

/-! ### Failed dials -/

theorem attempt_spec {pid : PeerId} {a : ConnectingAttempt} (pending : m.attempt pid = some a) :
    a ∈ m.connecting ∧ (m.heap a.peer).peer.id = pid :=
  ⟨List.mem_of_find?_eq_some pending, by simpa using List.find?_some pending⟩

theorem modify_peer_connectedness (m : PeerManager) {f : ArcPeer → ArcPeer}
    (keeps : ∀ p, (f p).connectedness = p.connectedness) (r r' : PeerRef) :
    ((m.modifyPeer r f).heap r').connectedness = (m.heap r').connectedness := by
  by_cases here : r' = r
  · subst here
    simp [keeps]
  · rw [modify_peer_heap_of_ne m f here]

@[simp] theorem connectedness_inc_failure (p : ArcPeer) (pma : PeerMultiaddr) :
    (p.incFailure pma).connectedness = p.connectedness := by
  simp only [ArcPeer.incFailure, ArcPeer.updateFailure]
  split <;> rfl

theorem complete_attempt_waits {pid : PeerId} {a : ConnectingAttempt} (pending : m.attempt pid = some a)
    (live : (m.heap a.peer).connectedness ≠ some .Unconnectable) (left : a.multiaddrs - 1 ≠ 0) (now : UInt64) :
    m.completeAttempt pid now = (m.removeAttempt pid).insertAttempt a.completeOneMultiaddr := by
  simp [completeAttempt, takeAttempt, pending, live, left, ConnectingAttempt.completeOneMultiaddr]

theorem connect_failed_io_waits {keys : KeyScheme} {addr : Multiaddr} {pid : PeerId} {r : PeerRef}
    {a : ConnectingAttempt} (named : extractId keys addr = some pid) (found : m.peer pid = some r) (pending : m.attempt pid = some a)
    (dialing : (m.heap a.peer).connectedness = some .Connecting) (left : a.multiaddrs - 1 ≠ 0) (now : UInt64) :
    (m.connectFailed keys addr .Io now).attempt pid = some a.completeOneMultiaddr ∧
      ((m.connectFailed keys addr .Io now).heap a.peer).connectedness = some .Connecting ∧
      (m.connectFailed keys addr .Io now).peer pid = some r := by
  -- the failure is charged to the multiaddr; ids and connectedness stay
  have charged : m.connectFailed keys addr .Io now =
      (m.modifyPeer r (·.incFailure ⟨addr⟩)).completeAttempt pid now := by
    simp [connectFailed, named, found, chargeFailure]
  have ids : ∀ r', ((m.modifyPeer r (·.incFailure ⟨addr⟩)).heap r').peer.id = (m.heap r').peer.id :=
    modify_peer_id m (congrArg (·.1) (ArcPeer.ident_inc_failure (m.heap r) ⟨addr⟩))
  have linked := modify_peer_connectedness m (connectedness_inc_failure · ⟨addr⟩) r a.peer
  have pending' := (attempt_modify_peer m (fun p => ArcPeer.ident_inc_failure p ⟨addr⟩) r pid).trans pending
  rw [charged, complete_attempt_waits pending' (by simp [linked, dialing]) left]
  refine ⟨attempt_insert_attempt ?_ (attempt_remove_attempt _ pid), by simp [removeAttempt, linked, dialing], ?_⟩
  · simpa [removeAttempt, ConnectingAttempt.completeOneMultiaddr, ids] using (attempt_spec pending).2
  · rw [← found]
    exact @peer_congr m _ (by simp [removeAttempt, modifyPeer]) (fun r' _ => by simpa [removeAttempt] using ids r') pid

theorem sub_one_sub_ofNat (x : UInt64) (i : Nat) : x - 1 - UInt64.ofNat i = x - UInt64.ofNat (i + 1) := by
  rw [sub_sub, UInt64.ofNat_add, add_comm]
  rfl

theorem zero_sub_ofNat_toNat (k : Nat) (small : k < 2 ^ 64) :
    ((0 : UInt64) - UInt64.ofNat k).toNat = (2 ^ 64 - k) % 2 ^ 64 := by
  rw [UInt64.toNat_sub, UInt64.toNat_ofNat', Nat.mod_eq_of_lt small]
  simp

theorem zero_sub_ofNat_ne_zero {k : Nat} (pos : 0 < k) (small : k < 2 ^ 64) : (0 : UInt64) - UInt64.ofNat k ≠ 0 := by
  intro zero
  have read := zero_sub_ofNat_toNat k small
  rw [zero, UInt64.toNat_zero] at read
  omega

/-- Failed dials (`Io`) of a connecting peer, none of which brings its counter to
zero: the attempt waits on with the counter that many down, and the peer stays
connecting. -/
theorem attempt_after_failures (keys : KeyScheme) {pid : PeerId} {r : PeerRef} (now : UInt64) :
    ∀ (addrs : List Multiaddr) (m : PeerManager) (a : ConnectingAttempt),
      (∀ addr ∈ addrs, extractId keys addr = some pid) →
      m.peer pid = some r → m.attempt pid = some a → (m.heap a.peer).connectedness = some .Connecting →
      (∀ i, 0 < i → i ≤ addrs.length → a.multiaddrs - UInt64.ofNat i ≠ 0) →
      (Trace.run (PeerManager.step keys) (addrs.map fun addr => .event (.ConnectFailed addr .Io) now) m).attempt pid =
          some { a with multiaddrs := a.multiaddrs - UInt64.ofNat addrs.length } ∧
        ((Trace.run (PeerManager.step keys) (addrs.map fun addr => .event (.ConnectFailed addr .Io) now) m).heap
          a.peer).connectedness = some .Connecting
  | [], m, a, _, _, pending, dialing, _ => by simpa using ⟨pending, dialing⟩
  | addr :: rest, m, a, named, found, pending, dialing, left => by
    -- the first failure takes one off, and the rest start from one down
    obtain ⟨pending', dialing', found'⟩ := connect_failed_io_waits (named addr List.mem_cons_self) found pending dialing
      (by simpa using left 1 Nat.one_pos (by simp)) now
    have rest_left : ∀ i, 0 < i → i ≤ rest.length → a.completeOneMultiaddr.multiaddrs - UInt64.ofNat i ≠ 0 :=
      fun i pos small => by
        simpa [ConnectingAttempt.completeOneMultiaddr, sub_one_sub_ofNat] using
          left (i + 1) (Nat.succ_pos i) (by simpa using small)
    have after := attempt_after_failures keys now rest (m.connectFailed keys addr .Io now) a.completeOneMultiaddr
      (fun addr' mem => named addr' (List.mem_cons_of_mem addr mem)) found' pending' dialing' rest_left
    simp only [List.map_cons, Trace.run_cons, PeerManager.step, processEvent, Option.getD_some]
    simpa [ConnectingAttempt.completeOneMultiaddr, sub_one_sub_ofNat] using after

end PeerManager

/-- A dial of a peer from `ConnectPeersNow` and the failures of its dials: all the
peer's multiaddrs are dialed while its attempt counts the connectable ones only,
and when none is connectable the failure of every dial leaves the counter wrapped
round to `2^64 - k` after `k` dials, the attempt waiting and the peer connecting. -/
theorem attempt_counts_connectable_but_dials_all (keys : KeyScheme) {m : PeerManager} {pid : PeerId} {r : PeerRef}
    (found : m.peer pid = some r) (open_list : m.config.whitelist_peers_only = false)
    (dialable : (m.heap r).connectedness = some .CanConnect ∨ (m.heap r).connectedness = some .NotConnected)
    (idle : m.attempt pid = none) (now : UInt64) :
    (PeerManager.step keys (.event (.ConnectPeersNow [pid]) now) m).sent = m.sent ++ [.Connect (m.heap r).allRaw] ∧
      (PeerManager.step keys (.event (.ConnectPeersNow [pid]) now) m).attempt pid =
        some ⟨r, UInt64.ofNat (m.heap r).connectableLen⟩ ∧
      ((m.heap r).connectableLen = 0 → (∀ addr ∈ (m.heap r).allRaw, extractId keys addr = some pid) →
        (m.heap r).allRaw.length < 2 ^ 64 → ∀ now',
        let failed := Trace.run (PeerManager.step keys)
          ((m.heap r).allRaw.map fun addr => .event (.ConnectFailed addr .Io) now')
          (PeerManager.step keys (.event (.ConnectPeersNow [pid]) now) m)
        failed.attempt pid = some ⟨r, 0 - UInt64.ofNat (m.heap r).allRaw.length⟩ ∧
          (failed.heap r).connectedness = some .Connecting ∧
          (0 - UInt64.ofNat (m.heap r).allRaw.length).toNat = (2 ^ 64 - (m.heap r).allRaw.length) % 2 ^ 64) := by
  obtain ⟨sent, pending, dialing, found'⟩ := PeerManager.connect_peers_by_id_dials found open_list dialable idle
  simp only [PeerManager.step, PeerManager.processEvent, Option.getD_some]
  refine ⟨sent, pending, fun none_connectable named small now' => ?_⟩
  rw [none_connectable] at pending
  -- from zero, no count of failures up to the number of dials gets back to zero
  have wraps : ∀ i, 0 < i → i ≤ (m.heap r).allRaw.length → UInt64.ofNat 0 - UInt64.ofNat i ≠ 0 :=
    fun i pos le => PeerManager.zero_sub_ofNat_ne_zero pos (lt_of_le_of_lt le small)
  obtain ⟨waiting, connecting⟩ := PeerManager.attempt_after_failures keys now' (m.heap r).allRaw _ _ named found'
    pending dialing wraps
  exact ⟨waiting, connecting, PeerManager.zero_sub_ofNat_toNat _ small⟩

/-- The peer of the key `[7]` after its one multiaddr was given up: discovered,
dialed, and answered by a peer of another id. -/
def givenUpPeer : PeerManager :=
  Trace.run (PeerManager.step sampleKeys)
    [.event (.DiscoverMultiAddrs [sampleAddr]) 1, .event (.ConnectPeersNow [sampleKeys.peer_id [7]]) 2,
      .event (.ConnectFailed sampleAddr .PeerIdNotMatch) 3]
    (PeerManager.start sampleKeys sampleConfig [] [])

theorem redial_of_given_up_peer_wraps :
    let failed := Trace.run (PeerManager.step sampleKeys) [.event (.ConnectFailed sampleAddr .Io) 5]
      (PeerManager.step sampleKeys (.event (.ConnectPeersNow [sampleKeys.peer_id [7]]) 4) givenUpPeer)
    failed.attempt (sampleKeys.peer_id [7]) = some ⟨0, 0 - UInt64.ofNat 1⟩ ∧
      (failed.heap 0).connectedness = some .Connecting := by
  have dialed := @attempt_counts_connectable_but_dials_all sampleKeys givenUpPeer (sampleKeys.peer_id [7]) 0
    (by decide +kernel) (by decide +kernel) (by decide +kernel) (by decide +kernel) 4
  obtain ⟨waiting, connecting, -⟩ := dialed.2.2 (by decide +kernel) (by decide +kernel) (by decide +kernel) 5
  exact ⟨waiting, connecting⟩

end Muta.Network
