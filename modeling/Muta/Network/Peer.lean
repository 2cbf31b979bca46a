import Muta.Network.Retry
import Muta.Network.Error

/-! The peers of the peer manager, `core/network/src/peer_manager/peer.rs`, with
their multiaddrs (`peer_manager/addr_set.rs`, `common.rs`).

A peer keeps its connectedness in an `AtomicUsize`. `set_connectedness` stores
the discriminant of a `Connectedness`, and `connectedness()` reads it back with
`Connectedness::from(usize)`, a `transmute` under a `debug_assert!`: of a value
that is no discriminant the model reads `none`.

A multiaddr is its list of protocols; only the `/p2p` component that names a
peer matters here, every other protocol is kept as it is.
-/

set_option autoImplicit false

namespace Muta.Network

abbrev PeerId := Bytes

inductive Connectedness where
  | NotConnected
  | CanConnect
  | Connected
  | Unconnectable
  | Connecting
  deriving DecidableEq, Repr

namespace Connectedness

/-- `flag as usize`: the discriminants `0 << 1` to `4 << 1`. -/
def toUsize : Connectedness → Nat
  | .NotConnected => 0
  | .CanConnect => 2
  | .Connected => 4
  | .Unconnectable => 6
  | .Connecting => 8

def fromUsize (src : Nat) : Option Connectedness :=
  [NotConnected, CanConnect, Connected, Unconnectable, Connecting].find? (·.toUsize == src)

@[simp] theorem from_usize_to_usize (flag : Connectedness) : fromUsize flag.toUsize = some flag := by
  cases flag <;> rfl

end Connectedness

inductive Protocol where
  | P2P (bytes : Bytes)
  | Other (bytes : Bytes)
  deriving DecidableEq, Repr

abbrev Multiaddr := List Protocol

def idBytes : Multiaddr → Option Bytes
  | [] => none
  | .P2P bytes :: _ => some bytes
  | .Other _ :: rest => idBytes rest

def hasId (multiaddr : Multiaddr) : Bool := (idBytes multiaddr).isSome

def pushId (multiaddr : Multiaddr) (peer_id : PeerId) : Multiaddr := multiaddr ++ [.P2P peer_id]

structure PeerMultiaddr where
  multiaddr : Multiaddr
  deriving DecidableEq, Repr

def PeerMultiaddr.new (ma : Multiaddr) (peer_id : PeerId) : PeerMultiaddr :=
  if !hasId ma then ⟨pushId ma peer_id⟩ else ⟨ma⟩

/-- A peer. `multiaddrs` is the set of `PeerAddrSet`, as a list without repeats. -/
structure Peer where
  id : PeerId
  multiaddrs : List PeerMultiaddr
  retry : Retry
  pubkey : Option Bytes
  chain_addr : Option Address
  connectedness : Nat
  session_id : SessionId
  connected_at : UInt64
  disconnected_at : UInt64
  alive : UInt64
  deriving DecidableEq, Repr

/-- What the peer manager reads of tentacle's `PublicKey`, kept as its encoded
bytes: the peer id it hashes to, its raw bytes, and `Hash::digest`, from which
the chain address is derived; and which bytes `PeerId::from_bytes` accepts, which
every key's peer id is. -/
structure KeyScheme where
  peer_id : Bytes → PeerId
  inner : Bytes → Bytes
  digest : Bytes → Hash
  is_peer_id : Bytes → Bool
  peer_id_valid : ∀ pubkey, is_peer_id (peer_id pubkey) = true

def extractId (keys : KeyScheme) (multiaddr : Multiaddr) : Option PeerId :=
  (idBytes multiaddr).filter keys.is_peer_id

theorem extract_id_of_key {keys : KeyScheme} {multiaddr : Multiaddr} {pubkey : Bytes}
    (named : idBytes multiaddr = some (keys.peer_id pubkey)) :
    extractId keys multiaddr = some (keys.peer_id pubkey) := by
  simp [extractId, named, keys.peer_id_valid]

/-- A sha2-256 multihash: the code `0x12`, the length `0x20` and the 32 bytes of
the digest, which is how tentacle derives a peer id from a key. -/
def sha256Multihash (digest : Hash) : PeerId := 0x12 :: 0x20 :: digest.bytes

def isSha256Multihash (bytes : Bytes) : Bool :=
  bytes.length == 34 && bytes.take 2 == [0x12, 0x20]

theorem is_sha256_multihash_sha256_multihash (digest : Hash) :
    isSha256Multihash (sha256Multihash digest) = true := by
  simp [isSha256Multihash, sha256Multihash, digest.length_eq]

def KeyScheme.chainAddr (keys : KeyScheme) (pubkey : Bytes) : Address :=
  Address.ofHash (keys.digest (keys.inner pubkey))

inductive PeerKeyError where
  | PublicKeyNotMatchId
  | NoChainAddress
  deriving DecidableEq, Repr

namespace Peer

def new (peer_id : PeerId) : Peer where
  id := peer_id
  multiaddrs := []
  retry := Retry.new MAX_RETRY_COUNT
  pubkey := none
  chain_addr := none
  connectedness := Connectedness.NotConnected.toUsize
  session_id := 0
  connected_at := 0
  disconnected_at := 0
  alive := 0

def getConnectedness (peer : Peer) : Option Connectedness := Connectedness.fromUsize peer.connectedness

def setConnectedness (peer : Peer) (flag : Connectedness) : Peer :=
  { peer with connectedness := flag.toUsize }

def matchPeerId (peer : Peer) (pma : PeerMultiaddr) : Bool :=
  hasId pma.multiaddr && idBytes pma.multiaddr == some peer.id

def setMultiaddrs (peer : Peer) (multiaddrs : List PeerMultiaddr) : Peer :=
  { peer with multiaddrs := (multiaddrs.filter peer.matchPeerId).dedup }

def pubkeyToChainAddr (keys : KeyScheme) (pubkey : Bytes) : Except PeerKeyError Address :=
  (Address.fromPubkeyBytes keys.digest (keys.inner pubkey)).mapError fun _ => .NoChainAddress

/-- `set_pubkey`: a key of another peer is refused, and the chain address is derived
from the key. -/
def setPubkey (keys : KeyScheme) (peer : Peer) (pubkey : Bytes) : Except PeerKeyError Peer :=
  if keys.peer_id pubkey != peer.id then .error .PublicKeyNotMatchId
  else do
    let chain_addr ← pubkeyToChainAddr keys pubkey
    pure { peer with pubkey := some pubkey, chain_addr := some chain_addr }

variable {keys : KeyScheme}

@[simp] theorem pubkey_to_chain_addr_eq (pubkey : Bytes) :
    pubkeyToChainAddr keys pubkey = .ok (keys.chainAddr pubkey) := by
  simp [pubkeyToChainAddr, Address.fromPubkeyBytes, KeyScheme.chainAddr]

theorem set_pubkey_eq (peer : Peer) (pubkey : Bytes) :
    peer.setPubkey keys pubkey =
      if keys.peer_id pubkey = peer.id then
        .ok { peer with pubkey := some pubkey, chain_addr := some (keys.chainAddr pubkey) }
      else .error .PublicKeyNotMatchId := by
  by_cases same : keys.peer_id pubkey = peer.id
  · simp [setPubkey, same]
  · simp [setPubkey, same]

theorem set_multiaddrs_of_match {peer : Peer} {multiaddrs : List PeerMultiaddr}
    (named : ∀ pma ∈ multiaddrs, peer.matchPeerId pma = true) (distinct : multiaddrs.Nodup) :
    (peer.setMultiaddrs multiaddrs).multiaddrs = multiaddrs := by
  rw [setMultiaddrs, List.filter_eq_self.mpr named]
  exact distinct.dedup

/-- What holds of every peer the manager builds: a public key, once set, hashes to
the peer's id and gives its chain address; the retry keeps its maximum; and the
address set holds multiaddrs of this peer only, once each. -/
structure WellFormed (keys : KeyScheme) (peer : Peer) : Prop where
  pubkey_id : ∀ pubkey, peer.pubkey = some pubkey → keys.peer_id pubkey = peer.id
  chain_addr : peer.chain_addr = peer.pubkey.map keys.chainAddr
  retry_max : peer.retry.max = MAX_RETRY_COUNT
  multiaddrs_match : ∀ pma ∈ peer.multiaddrs, peer.matchPeerId pma = true
  multiaddrs_nodup : peer.multiaddrs.Nodup

theorem new_wellFormed (peer_id : PeerId) : (Peer.new peer_id).WellFormed keys where
  pubkey_id := by simp [Peer.new]
  chain_addr := rfl
  retry_max := rfl
  multiaddrs_match := fun _ absent => absurd absent (List.not_mem_nil)
  multiaddrs_nodup := List.nodup_nil

theorem WellFormed.setPubkey {peer after : Peer} {pubkey : Bytes} (formed : peer.WellFormed keys)
    (set : peer.setPubkey keys pubkey = .ok after) : after.WellFormed keys := by
  rw [set_pubkey_eq] at set
  split_ifs at set with same
  cases set
  exact {
    pubkey_id := by simpa using same
    chain_addr := rfl
    retry_max := formed.retry_max
    multiaddrs_match := formed.multiaddrs_match
    multiaddrs_nodup := formed.multiaddrs_nodup }

theorem WellFormed.setMultiaddrs {peer : Peer} (formed : peer.WellFormed keys)
    (multiaddrs : List PeerMultiaddr) : (peer.setMultiaddrs multiaddrs).WellFormed keys where
  pubkey_id := formed.pubkey_id
  chain_addr := formed.chain_addr
  retry_max := formed.retry_max
  multiaddrs_match := fun _ mem => (List.mem_filter.mp (List.mem_dedup.mp mem)).2
  multiaddrs_nodup := List.nodup_dedup _

end Peer

end Muta.Network
