import Muta.Network.Peer

/-! Saving the peers to the peer dat file and restoring them,
`core/network/src/peer_manager/save_restore.rs`.

A peer is saved as a `SerdePeer`: its connectedness normalised to `Unconnectable`
or `CanConnect`, and its retry count and next attempt in two `#[serde(skip)]`
fields, which bincode does not write and reads back as zero. The file is
modelled by the list of `SerdePeer`s bincode reads from it: `save` gives what
bincode reads back of what it wrote, and `restore` takes any list, as any
content of the file that decodes gives one. The I/O errors of the file and the
error of bincode are left out.

`restore` rebuilds each peer through `TryFrom<SerdePeer>` and drops those it
refuses. A saved peer comes back with the normalised connectedness, a fresh
retry and no session (`restore_save`). Every restored peer is well formed and
keeps only multiaddrs of its own id, but its connectedness is the raw `usize`
read from the file: `Connectedness::from` transmutes it under a `debug_assert!`,
and `set_connectedness` casts it straight back.
-/

set_option autoImplicit false

namespace Muta.Network

structure SerdePeer where
  id : PeerId
  pubkey : Option Bytes
  multiaddrs : List PeerMultiaddr
  connectedness : Nat
  retry : UInt8
  next_attempt_at : UInt64
  connected_at : UInt64
  disconnected_at : UInt64
  alive : UInt64
  deriving DecidableEq, Repr

namespace SerdePeer

def fromPeer (peer : Peer) : SerdePeer where
  id := peer.id
  pubkey := peer.pubkey
  multiaddrs := peer.multiaddrs
  connectedness := match peer.getConnectedness with
    | some .Unconnectable => Connectedness.Unconnectable.toUsize
    | _ => Connectedness.CanConnect.toUsize
  retry := peer.retry.count
  next_attempt_at := peer.retry.next_attempt_at
  connected_at := peer.connected_at
  disconnected_at := peer.disconnected_at
  alive := peer.alive

/-- What bincode reads back of what it wrote: the `#[serde(skip)]` fields come
back as their `Default`. -/
def skip (serde_peer : SerdePeer) : SerdePeer :=
  { serde_peer with retry := 0, next_attempt_at := 0 }

end SerdePeer

namespace Peer

def tryFrom (keys : KeyScheme) (serde_peer : SerdePeer) : Except PeerKeyError Peer := do
  let peer_id := serde_peer.id
  let peer := Peer.new peer_id
  let peer ← match serde_peer.pubkey with
    | some pubkey => peer.setPubkey keys pubkey
    | none => pure peer
  -- each recovered multiaddr is given the peer's id, then `PeerAddrSet::set` filters them
  let peer := peer.setMultiaddrs
    (serde_peer.multiaddrs.map fun ma => PeerMultiaddr.new ma.multiaddr peer_id)
  -- `set_connectedness(Connectedness::from(raw))`: the transmute and the cast back
  -- to `usize` leave the raw value as it was read
  let peer := { peer with connectedness := serde_peer.connectedness }
  let peer := { peer with
    retry := (peer.retry.set serde_peer.retry).setNextAttemptAt serde_peer.next_attempt_at }
  pure { peer with
    connected_at := serde_peer.connected_at
    disconnected_at := serde_peer.disconnected_at
    alive := serde_peer.alive }

/-- What a saved peer is restored as: connectedness `Unconnectable` if it was, and
`CanConnect` otherwise, a fresh retry and no session. -/
def saved (peer : Peer) : Peer :=
  { peer with
    connectedness :=
      if peer.getConnectedness = some .Unconnectable then Connectedness.Unconnectable.toUsize
      else Connectedness.CanConnect.toUsize
    retry := Retry.new MAX_RETRY_COUNT
    session_id := 0 }

end Peer

namespace Peer

variable {keys : KeyScheme}

theorem multiaddr_new_of_has_id {ma : Multiaddr} (named : hasId ma = true) (peer_id : PeerId) :
    PeerMultiaddr.new ma peer_id = ⟨ma⟩ := by
  simp [PeerMultiaddr.new, named]

theorem recover_multiaddrs {peer : Peer} (formed : peer.WellFormed keys) :
    (peer.multiaddrs.map fun ma => PeerMultiaddr.new ma.multiaddr peer.id) = peer.multiaddrs := by
  conv_rhs => rw [← List.map_id peer.multiaddrs]
  refine List.map_congr_left fun pma mem => ?_
  have named := formed.multiaddrs_match pma mem
  simp only [matchPeerId, Bool.and_eq_true] at named
  exact multiaddr_new_of_has_id named.1 _

theorem try_from_saved {peer : Peer} (formed : peer.WellFormed keys) :
    tryFrom keys (SerdePeer.fromPeer peer).skip = .ok peer.saved := by
  have recovered := recover_multiaddrs formed
  have kept : ((Peer.new peer.id).setMultiaddrs peer.multiaddrs).multiaddrs = peer.multiaddrs :=
    set_multiaddrs_of_match formed.multiaddrs_match formed.multiaddrs_nodup
  have chain := formed.chain_addr
  have owner := formed.pubkey_id
  obtain ⟨id, multiaddrs, retry, pubkey, chain_addr, connectedness, session_id, connected_at,
    disconnected_at, alive⟩ := peer
  simp only at recovered kept chain owner
  subst chain
  cases pubkey with
  -- the multiaddrs come back by `kept`, the other fields are copied or reset; only
  -- the normalised connectedness is left, a `match` against the `if` of `saved`
  | none =>
    simp [tryFrom, SerdePeer.fromPeer, SerdePeer.skip, saved, recovered]
    refine congrArg Except.ok ?_
    congr 1
    split <;> simp_all
  | some pubkey =>
    have named : (Peer.new id).id = id := rfl
    simp [tryFrom, SerdePeer.fromPeer, SerdePeer.skip, saved, recovered, set_pubkey_eq, owner, named]
    exact ⟨rfl, kept, rfl, rfl, rfl, by split <;> simp_all, rfl⟩

/-- `try_from` on a record whose key, if any, hashes to its id: a fresh peer with the
record's multiaddrs given its id and filtered, its key and chain address, and the
record's other fields as they are, the connectedness included. -/
theorem try_from_eq (serde_peer : SerdePeer)
    (owned : ∀ pubkey, serde_peer.pubkey = some pubkey → keys.peer_id pubkey = serde_peer.id) :
    tryFrom keys serde_peer = .ok
      { (Peer.new serde_peer.id).setMultiaddrs
          (serde_peer.multiaddrs.map fun ma => PeerMultiaddr.new ma.multiaddr serde_peer.id) with
        pubkey := serde_peer.pubkey
        chain_addr := serde_peer.pubkey.map keys.chainAddr
        connectedness := serde_peer.connectedness
        retry := ⟨MAX_RETRY_COUNT, serde_peer.retry, serde_peer.next_attempt_at⟩
        connected_at := serde_peer.connected_at
        disconnected_at := serde_peer.disconnected_at
        alive := serde_peer.alive } := by
  have named : (Peer.new serde_peer.id).id = serde_peer.id := rfl
  cases known : serde_peer.pubkey with
  | none =>
    simp only [tryFrom, known]
    rfl
  | some pubkey =>
    simp only [tryFrom, known, set_pubkey_eq, named, if_pos (owned pubkey known)]
    rfl

theorem try_from_refused {serde_peer : SerdePeer} {pubkey : Bytes}
    (known : serde_peer.pubkey = some pubkey) (other : keys.peer_id pubkey ≠ serde_peer.id) :
    tryFrom keys serde_peer = .error .PublicKeyNotMatchId := by
  have named : (Peer.new serde_peer.id).id = serde_peer.id := rfl
  simp only [tryFrom, known, set_pubkey_eq, named, if_neg other]
  rfl

theorem try_from_ok {serde_peer : SerdePeer} {peer : Peer}
    (returns : tryFrom keys serde_peer = .ok peer) :
    peer.WellFormed keys ∧ peer.id = serde_peer.id ∧
      peer.connectedness = serde_peer.connectedness := by
  by_cases owned : ∀ pubkey, serde_peer.pubkey = some pubkey → keys.peer_id pubkey = serde_peer.id
  · rw [try_from_eq serde_peer owned, Except.ok.injEq] at returns
    subst returns
    -- the address set is the one `set_multiaddrs` builds on a fresh peer of that id
    have base := (new_wellFormed serde_peer.id : (Peer.new serde_peer.id).WellFormed keys).setMultiaddrs
      (serde_peer.multiaddrs.map fun ma => PeerMultiaddr.new ma.multiaddr serde_peer.id)
    exact ⟨{
      pubkey_id := owned
      chain_addr := rfl
      retry_max := rfl
      multiaddrs_match := base.multiaddrs_match
      multiaddrs_nodup := base.multiaddrs_nodup }, rfl, rfl⟩
  · push Not at owned
    obtain ⟨pubkey, known, other⟩ := owned
    rw [try_from_refused known other] at returns
    cases returns

end Peer

namespace PeerDatFile

def save (peers : List Peer) : List SerdePeer :=
  peers.map fun peer => (SerdePeer.fromPeer peer).skip

def restore (keys : KeyScheme) (peers_to_restore : List SerdePeer) : List Peer :=
  peers_to_restore.filterMap fun serde_peer => (Peer.tryFrom keys serde_peer).toOption

variable {keys : KeyScheme}

/-- Restoring the saved well-formed peers gives each of them back as `saved` says,
in order. -/
theorem restore_save {peers : List Peer} (formed : ∀ peer ∈ peers, peer.WellFormed keys) :
    restore keys (save peers) = peers.map Peer.saved := by
  induction peers with
  | nil => rfl
  | cons peer rest ih =>
    have head := Peer.try_from_saved (formed peer List.mem_cons_self)
    have tail := ih fun other mem => formed other (List.mem_cons_of_mem _ mem)
    simp only [restore, save, List.map_cons, List.filterMap_cons, head] at tail ⊢
    rw [tail]
    rfl

/-- Every peer `restore` returns, from any file, is well formed, and it has the id
and the raw connectedness of a record of the file. -/
theorem restore_of_file (file : List SerdePeer) :
    ∀ peer ∈ restore keys file, peer.WellFormed keys ∧
      ∃ serde_peer ∈ file, peer.id = serde_peer.id ∧ peer.connectedness = serde_peer.connectedness := by
  intro peer mem
  obtain ⟨serde_peer, mem_file, accepted⟩ := List.mem_filterMap.mp mem
  have returns : Peer.tryFrom keys serde_peer = .ok peer := by
    cases built : Peer.tryFrom keys serde_peer <;> simp_all [Except.toOption]
  obtain ⟨formed, same_id, raw⟩ := Peer.try_from_ok returns
  exact ⟨formed, serde_peer, mem_file, same_id, raw⟩

theorem restore_single {serde_peer : SerdePeer}
    (owned : ∀ pubkey, serde_peer.pubkey = some pubkey → keys.peer_id pubkey = serde_peer.id) :
    ∃ peer, restore keys [serde_peer] = [peer] ∧ Peer.tryFrom keys serde_peer = .ok peer :=
  ⟨_, by simp [restore, Peer.try_from_eq serde_peer owned, Except.toOption],
    Peer.try_from_eq serde_peer owned⟩

end PeerDatFile

open PeerDatFile

/-- A save and a restore give every well-formed peer back with its connectedness
normalised, a fresh retry and no session, and whatever the file holds, every
restored peer keeps only multiaddrs of its own id. But the connectedness of a
restored peer is the raw value of its record, whichever it is. -/
theorem restore_keeps_raw_connectedness (keys : KeyScheme) :
    (∀ peers : List Peer, (∀ peer ∈ peers, peer.WellFormed keys) →
      restore keys (save peers) = peers.map Peer.saved) ∧
    (∀ file : List SerdePeer, ∀ peer ∈ restore keys file,
      ∀ pma ∈ peer.multiaddrs, peer.matchPeerId pma = true) ∧
    (∀ serde_peer : SerdePeer,
      (∀ pubkey, serde_peer.pubkey = some pubkey → keys.peer_id pubkey = serde_peer.id) →
      ∃ peer, restore keys [serde_peer] = [peer] ∧ peer.connectedness = serde_peer.connectedness) := by
  refine ⟨fun peers formed => restore_save formed, fun file peer mem => ?_, fun serde_peer owned => ?_⟩
  · exact (restore_of_file file peer mem).1.multiaddrs_match
  · obtain ⟨peer, restored, returns⟩ := restore_single owned
    exact ⟨peer, restored, (Peer.try_from_ok returns).2.2⟩

def constantKeys : KeyScheme where
  peer_id := fun _ => sha256Multihash ⟨List.replicate 32 0, Hash.zeros_length⟩
  inner := fun _ => []
  digest := fun _ => ⟨List.replicate 32 0, Hash.zeros_length⟩
  is_peer_id := isSha256Multihash
  peer_id_valid := fun _ => is_sha256_multihash_sha256_multihash _

/-- A record of the file with the connectedness `1`, which no `Connectedness` has,
under a peer id the file's `SerdePeerId` reads. -/
def oddRecord : SerdePeer where
  id := sha256Multihash ⟨List.replicate 32 1, Hash.ones_length⟩
  pubkey := none
  multiaddrs := []
  connectedness := 1
  retry := 0
  next_attempt_at := 0
  connected_at := 0
  disconnected_at := 0
  alive := 0

theorem restore_keeps_raw_connectedness_odd_record :
    ∃ peer, restore constantKeys [oddRecord] = [peer] ∧ peer.getConnectedness = none := by
  obtain ⟨peer, restored, raw⟩ :=
    (restore_keeps_raw_connectedness constantKeys).2.2 oddRecord fun _ absent => by cases absent
  refine ⟨peer, restored, ?_⟩
  rw [Peer.getConnectedness, raw]
  rfl

end Muta.Network
