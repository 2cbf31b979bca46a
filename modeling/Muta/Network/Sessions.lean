import Muta.Network.Index

/-! What a session event does to its remote peer, and where the chain index and
the peers' connectedness then part from the sessions.

`discover_multiaddr` puts a peer the book lacks into it as an object without
key, and the index, keyed by chain address, cannot take it. When that peer then
connects, `new_session` sets its key on the book's object and, the book holding
the id, never calls `add_peer`: the peer is connected under a chain address the
index does not map to it (`chain_index_misses_discovered_peers`).

A session that `new_session` refuses at the connection limit marks its remote
peer disconnected before anything checks that the peer is connected already:
the peer's first session stays while the peer reads `CanConnect` with no session
id (`connectedness_parts_from_sessions`).
-/

set_option autoImplicit false

namespace Muta.Network

namespace PeerManager

variable {keys : KeyScheme} {m : PeerManager}

/-! ### Discovery -/

theorem discover_multiaddr_absent (holds : Consistent keys m) {addr : Multiaddr} {pid : PeerId}
    (named : extractId keys addr = some pid) (other : pid ≠ m.peer_id) (absent : m.peer pid = none) :
    m.discoverMultiaddr keys addr =
      { m with heap := Function.update m.heap m.next ((ArcPeer.new pid).insert [⟨addr⟩]), next := m.next + 1,
               inner := { m.inner with peers := m.inner.peers ++ [m.next] } } := by
  have fresh : (m.alloc ((ArcPeer.new pid).insert [⟨addr⟩])).2.contains pid = false := by
    simp [contains, holds.peer_alloc, absent]
  -- the fresh object has the id and no chain address, so only the book takes it
  have id_new : ((ArcPeer.new pid).insert [⟨addr⟩]).peer.id = pid := rfl
  have chain_new : ((ArcPeer.new pid).insert [⟨addr⟩]).peer.chain_addr = none := rfl
  simp only [discoverMultiaddr, named, other, absent, beq_iff_eq, if_false]
  simp only [addPeer, insertPeer, alloc] at fresh ⊢
  simp only [Function.update_self, id_new, fresh, Bool.false_eq_true, if_false, indexPeer, chain_new]

/-! ### The remote peer of a session -/

theorem remote_peer_of_found {pid : PeerId} {r : PeerRef} (found : m.peer pid = some r) :
    m.remotePeer pid = (r, m) := by
  simp [remotePeer, found]

theorem record_remote_eq (m : PeerManager) (r : PeerRef) (pubkey : Bytes) (ctx : SessionContext) :
    m.recordRemote keys r pubkey ctx = { m with heap := (m.recordRemote keys r pubkey ctx).heap } := by
  unfold recordRemote setRemotePubkey recordMultiaddr
  split <;> split <;> (try split) <;> rfl

@[simp] theorem record_remote_inner (m : PeerManager) (r : PeerRef) (pubkey : Bytes) (ctx : SessionContext) :
    (m.recordRemote keys r pubkey ctx).inner = m.inner := by
  rw [record_remote_eq]

@[simp] theorem record_remote_config (m : PeerManager) (r : PeerRef) (pubkey : Bytes) (ctx : SessionContext) :
    (m.recordRemote keys r pubkey ctx).config = m.config := by
  rw [record_remote_eq]

theorem record_multiaddr_connectedness (m : PeerManager) (r : PeerRef) (pma : PeerMultiaddr) (ty : SessionType)
    (r' : PeerRef) : ((m.recordMultiaddr r pma ty).heap r').peer.connectedness = (m.heap r').peer.connectedness := by
  by_cases here : r' = r
  · subst here
    unfold recordMultiaddr
    split
    · simp [ArcPeer.remove]
    · simp only [modify_peer_heap_self]
      split
      · simp only [ArcPeer.resetFailure, ArcPeer.updateFailure]
        split <;> rfl
      · simp [ArcPeer.insert]
  · unfold recordMultiaddr
    split <;> rw [modify_peer_heap_of_ne _ _ here]

theorem record_remote_sets_key {r : PeerRef} {pubkey : Bytes} (no_key : (m.heap r).peer.pubkey = none)
    (owned : keys.peer_id pubkey = (m.heap r).peer.id) (ctx : SessionContext) :
    ((m.recordRemote keys r pubkey ctx).heap r).peer.chain_addr = some (keys.chainAddr pubkey) ∧
      ((m.recordRemote keys r pubkey ctx).heap r).peer.connectedness = (m.heap r).peer.connectedness := by
  have keyed : m.setRemotePubkey keys r pubkey = m.modifyPeer r fun p =>
      { p with peer := { m.heap r |>.peer with pubkey := some pubkey, chain_addr := some (keys.chainAddr pubkey) } } := by
    simp [setRemotePubkey, ArcPeer.hasPubkey, no_key, Peer.set_pubkey_eq, owned]
  have framed := record_multiaddr_framed (m.setRemotePubkey keys r pubkey) r
    (PeerMultiaddr.new ctx.address (keys.peer_id pubkey)) ctx.ty
  have ident := congrArg (fun b => (b.ident r).2.2) framed.1
  simp only [book, ArcPeer.ident] at ident
  refine ⟨?_, ?_⟩
  · rw [recordRemote, ident, keyed, modify_peer_heap_self]
  · rw [recordRemote, record_multiaddr_connectedness, keyed, modify_peer_heap_self]

/-! ### Accepted and refused sessions -/

@[simp] theorem insert_session_heap (m : PeerManager) (session : ArcSession) :
    (m.insertSession session).heap = m.heap := by
  unfold insertSession
  split <;> rfl

@[simp] theorem insert_session_peers (m : PeerManager) (session : ArcSession) :
    (m.insertSession session).inner.peers = m.inner.peers := by
  unfold insertSession
  split <;> rfl

@[simp] theorem insert_session_chain (m : PeerManager) (session : ArcSession) :
    (m.insertSession session).inner.chain = m.inner.chain := by
  unfold insertSession
  split <;> rfl

theorem accept_session_of_booked {r : PeerRef} {pid : PeerId} (present : m.contains pid = true)
    (unconnected : (m.heap r).connectedness ≠ some .Connected) (ctx : SessionContext) (now : UInt64) :
    m.acceptSession r pid ctx now = (m.insertSession ⟨ctx.id, r, false⟩).modifyPeer r (·.markConnected ctx.id now) := by
  simp [acceptSession, present, unconnected]

@[simp] theorem connectedness_mark_connected (p : ArcPeer) (sid : SessionId) (now : UInt64) :
    (p.markConnected sid now).connectedness = some .Connected := by
  simp [ArcPeer.markConnected, ArcPeer.connectedness, Peer.getConnectedness]

@[simp] theorem chain_addr_mark_connected (p : ArcPeer) (sid : SessionId) (now : UInt64) :
    (p.markConnected sid now).peer.chain_addr = p.peer.chain_addr := rfl

@[simp] theorem connectedness_mark_disconnected (p : ArcPeer) (now : UInt64) :
    (p.markDisconnected now).connectedness = some .CanConnect := by
  simp [ArcPeer.markDisconnected, ArcPeer.updateAlive, ArcPeer.connectedness, Peer.getConnectedness]

@[simp] theorem session_id_mark_disconnected (p : ArcPeer) (now : UInt64) :
    (p.markDisconnected now).peer.session_id = 0 := by
  simp [ArcPeer.markDisconnected, ArcPeer.updateAlive]

/-! ### `new_session` -/

@[simp] theorem modify_peer_inner (m : PeerManager) (r : PeerRef) (f : ArcPeer → ArcPeer) :
    (m.modifyPeer r f).inner = m.inner := rfl

@[simp] theorem remove_attempt_heap (m : PeerManager) (pid : PeerId) : (m.removeAttempt pid).heap = m.heap := rfl

@[simp] theorem remove_attempt_inner (m : PeerManager) (pid : PeerId) : (m.removeAttempt pid).inner = m.inner := rfl

@[simp] theorem remove_attempt_config (m : PeerManager) (pid : PeerId) : (m.removeAttempt pid).config = m.config :=
  rfl

theorem new_session_eq {r : PeerRef} {pubkey : Bytes} (found : m.peer (keys.peer_id pubkey) = some r)
    (ctx : SessionContext) (now : UInt64) :
    m.newSession keys pubkey ctx now =
      let m' := (m.removeAttempt (keys.peer_id pubkey)).recordRemote keys r pubkey ctx
      if m.config.whitelist_peers_only && !m'.whitelisted r then m'.rejectSession r ctx.id now
      else if m.connected ≥ m.config.max_connections && !m.whitelistedByChainAddr (keys.chainAddr pubkey) then
        m'.rejectSession r ctx.id now
      else m'.acceptSession r (keys.peer_id pubkey) ctx now := by
  unfold newSession
  dsimp only
  rw [remote_peer_of_found (show (m.removeAttempt (keys.peer_id pubkey)).peer _ = some r from found)]
  simp only [Peer.pubkey_to_chain_addr_eq, record_remote_config, record_remote_inner, connected, whitelistedByChainAddr]
  rfl

/-- A session of a book peer without key that the manager has room for: the
book's object gets the key and its chain address and is connected, while the
book and the index stay as they were. -/
theorem new_session_keys_booked_peer {r : PeerRef} {pubkey : Bytes} (found : m.peer (keys.peer_id pubkey) = some r)
    (no_key : (m.heap r).peer.pubkey = none) (open_list : m.config.whitelist_peers_only = false)
    (room : m.connected < m.config.max_connections) (unconnected : (m.heap r).connectedness ≠ some .Connected)
    (ctx : SessionContext) (now : UInt64) :
    (m.newSession keys pubkey ctx now).inner.peers = m.inner.peers ∧
      (m.newSession keys pubkey ctx now).inner.chain = m.inner.chain ∧
      ((m.newSession keys pubkey ctx now).heap r).peer.chain_addr = some (keys.chainAddr pubkey) ∧
      ((m.newSession keys pubkey ctx now).heap r).connectedness = some .Connected := by
  obtain ⟨-, named⟩ := peer_spec found
  obtain ⟨keyed, linked⟩ :=
    @record_remote_sets_key keys (m.removeAttempt (keys.peer_id pubkey)) r pubkey no_key named.symm ctx
  have inner : ((m.removeAttempt (keys.peer_id pubkey)).recordRemote keys r pubkey ctx).inner = m.inner :=
    record_remote_inner _ r pubkey ctx
  -- the book still finds the object, which is not connected
  have present : ((m.removeAttempt (keys.peer_id pubkey)).recordRemote keys r pubkey ctx).contains
      (keys.peer_id pubkey) = true := by
    rw [contains_congr (congrArg Inner.peers inner) fun r' _ => record_remote_id _ r pubkey ctx r']
    simp [contains, found]
  have still : (((m.removeAttempt (keys.peer_id pubkey)).recordRemote keys r pubkey ctx).heap r).connectedness ≠
      some .Connected := by
    simpa [ArcPeer.connectedness, Peer.getConnectedness, linked] using unconnected
  rw [new_session_eq found]
  simp only [open_list, Bool.false_and, Bool.false_eq_true, if_false, ge_iff_le, Nat.not_le.mpr room, decide_false]
  rw [accept_session_of_booked present still]
  simp [keyed]

theorem new_session_at_capacity {r : PeerRef} {pubkey : Bytes} (found : m.peer (keys.peer_id pubkey) = some r)
    (open_list : m.config.whitelist_peers_only = false) (full : m.config.max_connections ≤ m.connected)
    (unlisted : m.whitelistedByChainAddr (keys.chainAddr pubkey) = false) (ctx : SessionContext) (now : UInt64) :
    (m.newSession keys pubkey ctx now).inner.sessions = m.inner.sessions ∧
      ((m.newSession keys pubkey ctx now).heap r).connectedness = some .CanConnect ∧
      ((m.newSession keys pubkey ctx now).heap r).peer.session_id = 0 := by
  have inner : ((m.removeAttempt (keys.peer_id pubkey)).recordRemote keys r pubkey ctx).inner = m.inner :=
    record_remote_inner _ r pubkey ctx
  rw [new_session_eq found]
  simp only [open_list, Bool.false_and, Bool.false_eq_true, if_false, ge_iff_le, full, decide_true, unlisted,
    Bool.not_false, Bool.and_self, if_true]
  simp [rejectSession, disconnectSession]

theorem peer_discovered (holds : Consistent keys m) {addr : Multiaddr} {pid : PeerId}
    (named : extractId keys addr = some pid) (other : pid ≠ m.peer_id) (absent : m.peer pid = none) :
    (m.discoverMultiaddr keys addr).peer pid = some m.next := by
  rw [discover_multiaddr_absent holds named other absent]
  unfold peer
  -- the objects of the book keep their ids and none has this one
  have before : (m.inner.peers.find? fun r =>
      (Function.update m.heap m.next ((ArcPeer.new pid).insert [⟨addr⟩]) r).peer.id == pid) = none := by
    rw [← absent]
    exact List.find?_congr fun r mem => by
      rw [Function.update_of_ne (Nat.ne_of_lt (holds.peers_allocated r mem))]
  have id_new : ((ArcPeer.new pid).insert [⟨addr⟩]).peer.id = pid := rfl
  simp only [List.find?_append, before, Option.none_or, List.find?_singleton, Function.update_self, id_new,
    beq_self_eq_true, if_true]

end PeerManager

/-- The chain index of a running manager: each of its entries is an object of the
book's ids under its own chain address, but a peer discovered before it connects
is connected under its chain address without the index mapping it. -/
theorem chain_index_misses_discovered_peers (keys : KeyScheme) {config : PeerManagerConfig}
    {bootstraps : List Peer} {file : List SerdePeer}
    (keyed : ∀ peer ∈ bootstraps, peer.chain_addr = peer.pubkey.map keys.chainAddr) {m : PeerManager}
    (reached : Trace.Reachable (PeerManager.step keys) Input.Admissible (PeerManager.start keys config bootstraps file) m) :
    (∀ a r, m.inner.chain a = some r → m.contains (m.heap r).peer.id = true ∧ (m.heap r).peer.chain_addr = some a) ∧
    ∀ (addr : Multiaddr) (pubkey : Bytes) (ctx : SessionContext) (now now' : UInt64),
      idBytes addr = some (keys.peer_id pubkey) → keys.peer_id pubkey ≠ m.peer_id →
      m.peer (keys.peer_id pubkey) = none → m.config.whitelist_peers_only = false →
      m.connected < m.config.max_connections →
      let m' := PeerManager.step keys (.event (.NewSession (keys.peer_id pubkey) pubkey ctx) now')
        (PeerManager.step keys (.event (.DiscoverMultiAddrs [addr]) now) m)
      m.next ∈ m'.inner.peers ∧ (m'.heap m.next).peer.chain_addr = some (keys.chainAddr pubkey) ∧
        (m'.heap m.next).connectedness = some .Connected ∧ m'.inner.chain = m.inner.chain ∧
        m'.inner.chain (keys.chainAddr pubkey) ≠ some m.next := by
  have holds := PeerManager.consistent_of_reachable keyed reached
  refine ⟨fun a r found => ⟨holds.chain_booked a r found, holds.chain_owned a r found⟩, ?_⟩
  intro addr pubkey ctx now now' named other absent open_list room
  -- a key's peer id is a `PeerId`, so the multiaddr is taken
  replace named := extract_id_of_key named
  have found := PeerManager.peer_discovered holds named other absent
  have discovered := PeerManager.discover_multiaddr_absent holds named other absent
  simp only [PeerManager.step, PeerManager.processEvent, Option.getD_some, PeerManager.dicoverMultiMultiaddrs,
    List.foldl_cons, List.foldl_nil]
  -- the session then keys the book's fresh object
  obtain ⟨peers, chain, owned, connected⟩ := PeerManager.new_session_keys_booked_peer found
    (by simp [discovered, ArcPeer.insert, ArcPeer.new, Peer.new]) (by simpa [discovered] using open_list)
    (by simpa [discovered, PeerManager.connected] using room)
    (by simp [discovered, ArcPeer.connectedness, ArcPeer.insert, ArcPeer.new, Peer.new, Peer.getConnectedness])
    ctx now'
  refine ⟨by rw [peers, discovered]; simp, owned, connected, by rw [chain, discovered], fun indexed => ?_⟩
  -- the index holds allocated objects only, and this one is fresh
  rw [chain, discovered] at indexed
  exact Nat.lt_irrefl _ (holds.chain_allocated _ _ indexed)


def paddedDigest (bytes : Bytes) : Hash := ⟨(bytes ++ List.replicate 32 0).take 32, by simp⟩

def sampleKeys : KeyScheme where
  peer_id pubkey := sha256Multihash (paddedDigest pubkey)
  inner pubkey := pubkey
  digest := paddedDigest
  is_peer_id := isSha256Multihash
  peer_id_valid _ := is_sha256_multihash_sha256_multihash _

def sampleConfig : PeerManagerConfig := ⟨sampleKeys.peer_id [9], [], false, 1⟩

def sampleAddr : Multiaddr := [.Other [1], .P2P (sampleKeys.peer_id [7])]

theorem discovered_peer_missing_from_index :
    let m := PeerManager.start sampleKeys sampleConfig [] []
    let m' := PeerManager.step sampleKeys
      (.event (.NewSession (sampleKeys.peer_id [7]) [7] ⟨1, sampleAddr, .Outbound⟩) 2)
      (PeerManager.step sampleKeys (.event (.DiscoverMultiAddrs [sampleAddr]) 1) m)
    m.next ∈ m'.inner.peers ∧ (m'.heap m.next).peer.chain_addr = some (sampleKeys.chainAddr [7]) ∧
      (m'.heap m.next).connectedness = some .Connected ∧ m'.inner.chain = m.inner.chain ∧
      m'.inner.chain (sampleKeys.chainAddr [7]) ≠ some m.next :=
  (chain_index_misses_discovered_peers sampleKeys (fun _ absent => absurd absent List.not_mem_nil)
    (Trace.Reachable.refl _ _ _)).2 sampleAddr [7] ⟨1, sampleAddr, .Outbound⟩ 1 2 rfl
    (by decide +kernel) (by decide +kernel) rfl (by decide +kernel)

/-- Sessions and connectedness of a running manager: every session's peer is an
object of the book, but a session of a peer refused at the connection limit
leaves the peer's sessions in place while the peer reads `CanConnect` with no
session id. -/
theorem connectedness_parts_from_sessions (keys : KeyScheme) {config : PeerManagerConfig}
    {bootstraps : List Peer} {file : List SerdePeer}
    (keyed : ∀ peer ∈ bootstraps, peer.chain_addr = peer.pubkey.map keys.chainAddr) {m : PeerManager}
    (reached : Trace.Reachable (PeerManager.step keys) Input.Admissible (PeerManager.start keys config bootstraps file) m) :
    (∀ s ∈ m.inner.sessions, s.peer ∈ m.inner.peers) ∧
    ∀ s ∈ m.inner.sessions, ∀ (pubkey : Bytes) (ctx : SessionContext) (now : UInt64),
      keys.peer_id pubkey = (m.heap s.peer).peer.id → m.config.whitelist_peers_only = false →
      m.config.max_connections ≤ m.connected → m.whitelistedByChainAddr (keys.chainAddr pubkey) = false →
      let m' := PeerManager.step keys (.event (.NewSession (keys.peer_id pubkey) pubkey ctx) now) m
      s ∈ m'.inner.sessions ∧ (m'.heap s.peer).connectedness = some .CanConnect ∧
        (m'.heap s.peer).peer.session_id = 0 := by
  have holds := PeerManager.consistent_of_reachable keyed reached
  refine ⟨holds.sessions_booked, fun s mem pubkey ctx now named open_list full unlisted => ?_⟩
  -- the book finds the session's peer by the key's id
  have found : m.peer (keys.peer_id pubkey) = some s.peer := named ▸ holds.peer_of_mem (holds.sessions_booked s mem)
  obtain ⟨sessions, disconnected, cleared⟩ := PeerManager.new_session_at_capacity found open_list full unlisted ctx now
  simp only [PeerManager.step, PeerManager.processEvent, Option.getD_some]
  exact ⟨sessions ▸ mem, disconnected, cleared⟩

theorem second_session_at_limit_disconnects_peer :
    let m := PeerManager.step sampleKeys
      (.event (.NewSession (sampleKeys.peer_id [7]) [7] ⟨1, sampleAddr, .Outbound⟩) 1)
      (PeerManager.start sampleKeys sampleConfig [] [])
    let m' := PeerManager.step sampleKeys
      (.event (.NewSession (sampleKeys.peer_id [7]) [7] ⟨2, sampleAddr, .Inbound⟩) 2) m
    (⟨1, 0, false⟩ : ArcSession) ∈ m'.inner.sessions ∧ (m'.heap 0).connectedness = some .CanConnect ∧
      (m'.heap 0).peer.session_id = 0 := by
  intro m m'
  have reached : Trace.Reachable (PeerManager.step sampleKeys) Input.Admissible
      (PeerManager.start sampleKeys sampleConfig [] []) m :=
    (Trace.Reachable.refl _ _ _).step
      (Input.event (.NewSession (sampleKeys.peer_id [7]) [7] ⟨1, sampleAddr, .Outbound⟩) 1)
      (by show (1 : UInt64).toNat + REPEATED_CONNECTION_TIMEOUT.toNat < 2 ^ 64; decide)
  have violated := (connectedness_parts_from_sessions sampleKeys (fun _ absent => absurd absent List.not_mem_nil)
    reached).2 ⟨1, 0, false⟩ (by decide +kernel) [7] ⟨2, sampleAddr, .Inbound⟩ 2 (by decide +kernel)
    (by decide +kernel) (by decide +kernel) (by decide +kernel)
  exact violated

end Muta.Network
