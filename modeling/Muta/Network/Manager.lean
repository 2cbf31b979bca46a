import Muta.Network.SaveRestore
import Muta.Network.Control
import Muta.Lib.Trace

/-! The peer manager of `core/network/src/peer_manager/mod.rs`.

The manager keeps its peers as shared objects (`ArcPeer`, an `Arc<Peer>` whose
fields are atomics and locks): the book `inner.peers`, the chain index
`inner.chain`, the sessions and the connecting attempts each hold references to
them, and every handler changes a peer in place, through whichever reference it
holds. The model keeps the objects in a heap indexed by `PeerRef` and the
collections as lists of references. The book and the attempts are `HashSet`s
keyed by the peer's id and the sessions a `HashSet` keyed by the session id:
`insert` keeps an element already there under the key, `HashMap::insert` of the
chain index replaces it.

Each event the manager processes reads the clock once (`now`); what it sends to
the connection service is kept in `sent`. `poll` processes the pending events,
then tops the connections up with peers `choose_multiple` picks at random from
the connectable ones, a choice the input carries.
-/

set_option autoImplicit false

namespace Muta.Network

def MAX_CONNECTING_MARGIN : Nat := 10

def SHORT_ALIVE_SESSION : UInt64 := 3

def WHITELIST_TIMEOUT : UInt64 := 2 * 60 * 60

def MAX_ADDR_FAILURE : UInt8 := MAX_RETRY_COUNT

/-- The rounds `session_closed`'s backoff loop is given; every run of the loop
that ends takes fewer. -/
def BACKOFF_FUEL : Nat := 256

abbrev PeerRef := Nat

/-- A peer object, `ArcPeer`: the peer, and the failure count of each multiaddr of
its `PeerAddrSet` (`AddrInfo::failure`). -/
structure ArcPeer where
  peer : Peer
  failure : PeerMultiaddr → Nat

inductive SessionType where
  | Inbound
  | Outbound
  deriving DecidableEq, Repr

inductive ConnectionType where
  | Inbound
  | Outbound
  deriving DecidableEq, Repr

/-- What the manager reads of tentacle's `SessionContext`. -/
structure SessionContext where
  id : SessionId
  address : Multiaddr
  ty : SessionType
  deriving DecidableEq, Repr

/-- `ArcSession`, without the connected address only logs read. -/
structure ArcSession where
  id : SessionId
  peer : PeerRef
  blocked : Bool
  deriving DecidableEq, Repr

/-- `ConnectingAttempt`: the peer dialed, and the `AtomicUsize` of its multiaddrs
still to answer. -/
structure ConnectingAttempt where
  peer : PeerRef
  multiaddrs : UInt64
  deriving DecidableEq, Repr

inductive ExpireTime where
  | At (secs : UInt64)
  | Never
  deriving DecidableEq, Repr

structure WhitelistedPeer where
  chain_addr : Address
  expire : ExpireTime
  deriving DecidableEq, Repr

/-- The kinds of the events, without the errors they carry, which only logs read. -/
inductive ConnectionErrorKind where
  | Io
  | DNSResolver
  | SecioHandshake
  | PeerIdNotMatch
  | ProtocolHandle
  deriving DecidableEq, Repr

inductive SessionErrorKind where
  | Io
  | Protocol
  | Unexpected
  deriving DecidableEq, Repr

inductive MisbehaviorKind where
  | Discovery
  | PingTimeout
  | PingUnexpect
  deriving DecidableEq, Repr

/-- `ConnectionEvent`, what the manager sends to the connection service; `Connect`
always targets every protocol. -/
inductive ConnectionEvent where
  | Connect (addrs : List Multiaddr)
  | Disconnect (sid : SessionId)
  deriving DecidableEq, Repr

/-- `PeerManagerEvent`. A public key is kept as its encoded bytes (`KeyScheme`). -/
inductive PeerManagerEvent where
  | ConnectPeersNow (pids : List PeerId)
  | ConnectFailed (addr : Multiaddr) (kind : ConnectionErrorKind)
  | NewSession (pid : PeerId) (pubkey : Bytes) (ctx : SessionContext)
  | RepeatedConnection (ty : ConnectionType) (sid : SessionId) (addr : Multiaddr)
  | SessionBlocked (ctx : SessionContext)
  | SessionClosed (pid : PeerId) (sid : SessionId)
  | SessionFailed (sid : SessionId) (kind : SessionErrorKind)
  | PeerAlive (pid : PeerId)
  | Misbehave (pid : PeerId) (kind : MisbehaviorKind)
  | WhitelistPeersByChainAddr (chain_addrs : List Address)
  | DiscoverMultiAddrs (addrs : List Multiaddr)
  | IdentifiedAddrs (pid : PeerId) (addrs : List Multiaddr)
  | AddNewListenAddr (addr : Multiaddr)
  | RemoveListenAddr (addr : Multiaddr)
  deriving DecidableEq, Repr

/-- What `PeerManagerConfig` holds that the manager reads. -/
structure PeerManagerConfig where
  our_id : PeerId
  whitelist_by_chain_addrs : List Address
  whitelist_peers_only : Bool
  max_connections : Nat
  deriving DecidableEq, Repr

structure Inner where
  whitelist : List WhitelistedPeer
  sessions : List ArcSession
  peers : List PeerRef
  chain : Address → Option PeerRef
  listen : List PeerMultiaddr

/-- `PeerManager`, with the heap of peer objects and what it has sent. -/
structure PeerManager where
  heap : PeerRef → ArcPeer
  next : PeerRef
  inner : Inner
  config : PeerManagerConfig
  peer_id : PeerId
  bootstraps : List PeerRef
  connecting : List ConnectingAttempt
  sent : List ConnectionEvent

namespace ArcPeer

def new (peer_id : PeerId) : ArcPeer := ⟨Peer.new peer_id, fun _ => 0⟩

def connectedness (p : ArcPeer) : Option Connectedness := p.peer.getConnectedness

def setConnectedness (p : ArcPeer) (flag : Connectedness) : ArcPeer := { p with peer := p.peer.setConnectedness flag }

def hasPubkey (p : ArcPeer) : Bool := p.peer.pubkey.isSome

def ownedChainAddr (p : ArcPeer) : Option Address := p.peer.chain_addr

def contains (p : ArcPeer) (pma : PeerMultiaddr) : Bool := p.peer.multiaddrs.contains pma

def connectable (p : ArcPeer) (pma : PeerMultiaddr) : Bool := decide (p.failure pma ≤ MAX_ADDR_FAILURE.toNat)

def connectableLen (p : ArcPeer) : Nat := (p.peer.multiaddrs.filter p.connectable).length

def all (p : ArcPeer) : List PeerMultiaddr := p.peer.multiaddrs

def allRaw (p : ArcPeer) : List Multiaddr := p.peer.multiaddrs.map PeerMultiaddr.multiaddr

/-- `PeerAddrSet::insert`: the multiaddrs of this peer the set lacks, without
failures; those it has keep theirs. -/
def insert (p : ArcPeer) (multiaddrs : List PeerMultiaddr) : ArcPeer :=
  let added := (multiaddrs.filter fun pma => p.peer.matchPeerId pma && !p.contains pma).dedup
  { peer := { p.peer with multiaddrs := p.peer.multiaddrs ++ added }
    failure := fun pma => if pma ∈ added then 0 else p.failure pma }

def remove (p : ArcPeer) (pma : PeerMultiaddr) : ArcPeer :=
  { p with peer := { p.peer with multiaddrs := p.peer.multiaddrs.erase pma } }

def updateFailure (p : ArcPeer) (pma : PeerMultiaddr) (f : Nat → Nat) : ArcPeer :=
  if p.contains pma then { p with failure := Function.update p.failure pma (f (p.failure pma)) } else p

def incFailure (p : ArcPeer) (pma : PeerMultiaddr) : ArcPeer := p.updateFailure pma (· + 1)

def giveUp (p : ArcPeer) (pma : PeerMultiaddr) : ArcPeer :=
  p.updateFailure pma fun _ => MAX_ADDR_FAILURE.toNat + 1

def resetFailure (p : ArcPeer) (pma : PeerMultiaddr) : ArcPeer := p.updateFailure pma fun _ => 0

def incRetry (p : ArcPeer) (now : UInt64) : ArcPeer := { p with peer := { p.peer with retry := p.peer.retry.inc now } }

def resetRetry (p : ArcPeer) : ArcPeer := { p with peer := { p.peer with retry := p.peer.retry.reset } }

/-- `update_alive`: the seconds between the clock and the connection, either way
round (`time::duration_since`). -/
def updateAlive (p : ArcPeer) (now : UInt64) : ArcPeer :=
  let connected_at := p.peer.connected_at
  { p with peer := { p.peer with alive := if connected_at ≤ now then now - connected_at else connected_at - now } }

def markConnected (p : ArcPeer) (sid : SessionId) (now : UInt64) : ArcPeer :=
  { p with peer := { p.peer with
      connectedness := Connectedness.Connected.toUsize
      session_id := sid
      retry := p.peer.retry.reset
      connected_at := now } }

def markDisconnected (p : ArcPeer) (now : UInt64) : ArcPeer :=
  ({ p with peer := { p.peer with
      connectedness := Connectedness.CanConnect.toUsize
      session_id := 0
      disconnected_at := now } }).updateAlive now

/-- What the book and the chain index read of a peer object: its id, its key and
its chain address. -/
def ident (p : ArcPeer) : PeerId × Option Bytes × Option Address := (p.peer.id, p.peer.pubkey, p.peer.chain_addr)

@[simp] theorem ident_set_connectedness (p : ArcPeer) (flag : Connectedness) :
    (p.setConnectedness flag).ident = p.ident := rfl

@[simp] theorem ident_insert (p : ArcPeer) (multiaddrs : List PeerMultiaddr) : (p.insert multiaddrs).ident = p.ident :=
  rfl

@[simp] theorem ident_remove (p : ArcPeer) (pma : PeerMultiaddr) : (p.remove pma).ident = p.ident := rfl

@[simp] theorem ident_update_failure (p : ArcPeer) (pma : PeerMultiaddr) (f : Nat → Nat) :
    (p.updateFailure pma f).ident = p.ident := by
  unfold updateFailure
  split <;> rfl

@[simp] theorem ident_inc_failure (p : ArcPeer) (pma : PeerMultiaddr) : (p.incFailure pma).ident = p.ident :=
  ident_update_failure p pma _

@[simp] theorem ident_give_up (p : ArcPeer) (pma : PeerMultiaddr) : (p.giveUp pma).ident = p.ident :=
  ident_update_failure p pma _

@[simp] theorem ident_reset_failure (p : ArcPeer) (pma : PeerMultiaddr) : (p.resetFailure pma).ident = p.ident :=
  ident_update_failure p pma _

@[simp] theorem ident_inc_retry (p : ArcPeer) (now : UInt64) : (p.incRetry now).ident = p.ident := rfl

@[simp] theorem ident_reset_retry (p : ArcPeer) : p.resetRetry.ident = p.ident := rfl

@[simp] theorem ident_update_alive (p : ArcPeer) (now : UInt64) : (p.updateAlive now).ident = p.ident := rfl

@[simp] theorem ident_mark_connected (p : ArcPeer) (sid : SessionId) (now : UInt64) :
    (p.markConnected sid now).ident = p.ident := rfl

@[simp] theorem ident_mark_disconnected (p : ArcPeer) (now : UInt64) : (p.markDisconnected now).ident = p.ident :=
  rfl

end ArcPeer

namespace WhitelistedPeer

def refreshExpireTime (peer : WhitelistedPeer) (now : UInt64) : WhitelistedPeer :=
  match peer.expire with
  | .At _ => { peer with expire := .At (now + WHITELIST_TIMEOUT) }
  | .Never => peer

def isExpired (peer : WhitelistedPeer) (now : UInt64) : Bool :=
  match peer.expire with
  | .At secs => now > secs
  | .Never => false

end WhitelistedPeer

/-- `complete_one_multiaddr`, a `fetch_sub` that wraps. -/
def ConnectingAttempt.completeOneMultiaddr (attempt : ConnectingAttempt) : ConnectingAttempt :=
  { attempt with multiaddrs := attempt.multiaddrs - 1 }

namespace PeerManager

variable (keys : KeyScheme)

/-! ### The shared objects -/

def modifyPeer (m : PeerManager) (r : PeerRef) (f : ArcPeer → ArcPeer) : PeerManager :=
  { m with heap := Function.update m.heap r (f (m.heap r)) }

def alloc (m : PeerManager) (p : ArcPeer) : PeerRef × PeerManager :=
  (m.next, { m with heap := Function.update m.heap m.next p, next := m.next + 1 })

def allocAll (m : PeerManager) (peers : List Peer) : List PeerRef × PeerManager :=
  peers.foldl (fun (refs, m) peer => let (r, m) := m.alloc ⟨peer, fun _ => 0⟩; (refs ++ [r], m)) ([], m)

/-! ### `Inner` -/

def peer (m : PeerManager) (peer_id : PeerId) : Option PeerRef :=
  m.inner.peers.find? fun r => (m.heap r).peer.id == peer_id

def contains (m : PeerManager) (peer_id : PeerId) : Bool := (m.peer peer_id).isSome

def connected (m : PeerManager) : Nat := m.inner.sessions.length

def insertPeer (m : PeerManager) (r : PeerRef) : PeerManager :=
  if m.contains (m.heap r).peer.id then m
  else { m with inner := { m.inner with peers := m.inner.peers ++ [r] } }

/-- `chain.insert` of an object under its chain address, when it has one: the
index takes the new object. -/
def indexPeer (m : PeerManager) (r : PeerRef) : PeerManager :=
  match (m.heap r).peer.chain_addr with
  | some chain_addr => { m with inner := { m.inner with chain := Function.update m.inner.chain chain_addr (some r) } }
  | none => m

def addPeer (m : PeerManager) (r : PeerRef) : PeerManager := (m.insertPeer r).indexPeer r

def connectablePeers (m : PeerManager) (now : UInt64) : List PeerRef :=
  m.inner.peers.filter fun r =>
    let p := m.heap r
    (p.connectedness == some .NotConnected || p.connectedness == some .CanConnect) &&
      p.peer.retry.ready now && decide (p.connectableLen > 0)

def whitelistedByChainAddr (m : PeerManager) (chain_addr : Address) : Bool :=
  m.inner.whitelist.any (·.chain_addr == chain_addr)

/-- `Inner::whitelisted`: a peer without chain address is not. -/
def whitelisted (m : PeerManager) (r : PeerRef) : Bool :=
  match (m.heap r).ownedChainAddr with
  | some chain_addr => m.whitelistedByChainAddr chain_addr
  | none => false

def whitelistPeersByChainAddr (chain_addrs : List Address) (now : UInt64) (m : PeerManager) : PeerManager :=
  let addition_whitelist := (chain_addrs.filter fun ca => !m.whitelistedByChainAddr ca).map
    fun ca => (⟨ca, .At (now + WHITELIST_TIMEOUT)⟩ : WhitelistedPeer)
  let refreshed := m.inner.whitelist.map fun peer =>
    if chain_addrs.contains peer.chain_addr then peer.refreshExpireTime now else peer
  -- `HashSet::extend` keeps the first of several additions of one address
  let whitelist := addition_whitelist.foldl
    (fun whitelist peer => if whitelist.any (·.chain_addr == peer.chain_addr) then whitelist else whitelist ++ [peer])
    refreshed
  { m with inner := { m.inner with whitelist } }

def whitelistNeverExpiredPeersByChainAddr (chain_addrs : List Address) (m : PeerManager) : PeerManager :=
  let whitelist := chain_addrs.foldl
    (fun whitelist ca => if whitelist.any (·.chain_addr == ca) then whitelist else whitelist ++ [⟨ca, .Never⟩])
    m.inner.whitelist
  { m with inner := { m.inner with whitelist } }

def session (m : PeerManager) (sid : SessionId) : Option ArcSession := m.inner.sessions.find? (·.id == sid)

def removeSession (m : PeerManager) (sid : SessionId) : Option ArcSession × PeerManager :=
  (m.session sid, { m with inner := { m.inner with sessions := m.inner.sessions.filter (·.id != sid) } })

def insertSession (m : PeerManager) (session : ArcSession) : PeerManager :=
  if (m.session session.id).isSome then m
  else { m with inner := { m.inner with sessions := m.inner.sessions ++ [session] } }

/-- `Inner::restore`: the book takes the objects of ids it lacks, the chain index
every object with a chain address. -/
def restore (peers : List Peer) (m : PeerManager) : PeerManager :=
  let (refs, m) := m.allocAll peers
  -- `peers.extend`, then `chain.extend` with the objects that have a chain address
  refs.foldl indexPeer (refs.foldl insertPeer m)

/-! ### `PeerManager` -/

def insertAttempt (m : PeerManager) (attempt : ConnectingAttempt) : PeerManager :=
  let peer_id := (m.heap attempt.peer).peer.id
  if m.connecting.any fun other => (m.heap other.peer).peer.id == peer_id then m
  else { m with connecting := m.connecting ++ [attempt] }

def removeAttempt (m : PeerManager) (peer_id : PeerId) : PeerManager :=
  { m with connecting := m.connecting.filter fun attempt => (m.heap attempt.peer).peer.id != peer_id }

def attempt (m : PeerManager) (peer_id : PeerId) : Option ConnectingAttempt :=
  m.connecting.find? fun attempt => (m.heap attempt.peer).peer.id == peer_id

def takeAttempt (m : PeerManager) (peer_id : PeerId) : Option (ConnectingAttempt × PeerManager) :=
  (m.attempt peer_id).map fun attempt => (attempt, m.removeAttempt peer_id)

def disconnectSession (m : PeerManager) (sid : SessionId) : PeerManager :=
  { m with sent := m.sent ++ [.Disconnect sid] }

/-- `PeerManager::new`: the config's bootstrap peers as new objects, and its
never expiring whitelist. -/
def new (config : PeerManagerConfig) (bootstraps : List Peer) : PeerManager :=
  let m : PeerManager := {
    heap := fun r => if h : r < bootstraps.length then ⟨bootstraps[r], fun _ => 0⟩ else ArcPeer.new []
    next := bootstraps.length
    inner := ⟨[], [], [], fun _ => none, []⟩
    config
    peer_id := config.our_id
    -- `HashSet::from_iter` keeps the first peer of an id
    bootstraps := (List.range bootstraps.length).filter fun r =>
      (List.range r).all fun earlier => (bootstraps[earlier]?.map Peer.id) != (bootstraps[r]?.map Peer.id)
    connecting := []
    sent := [] }
  m.whitelistNeverExpiredPeersByChainAddr config.whitelist_by_chain_addrs

def restorePeers (file : List SerdePeer) (m : PeerManager) : PeerManager :=
  m.restore (PeerDatFile.restore keys file)

def connectPeersNow (peers : List PeerRef) (m : PeerManager) : PeerManager :=
  let (addrs, m) := peers.foldl (fun (addrs, m) r =>
    let m := m.modifyPeer r (·.setConnectedness .Connecting)
    let peer_addrs := (m.heap r).allRaw
    let m := m.insertAttempt ⟨r, UInt64.ofNat (m.heap r).connectableLen⟩
    (addrs ++ peer_addrs, m)) ([], m)
  { m with sent := m.sent ++ [.Connect addrs] }

def connectPeers (peers : List PeerRef) (m : PeerManager) : PeerManager :=
  let connectablePeers := peers.filter fun r =>
    !(m.config.whitelist_peers_only && !m.whitelisted r) &&
      ((m.heap r).connectedness == some .CanConnect || (m.heap r).connectedness == some .NotConnected)
  if connectablePeers.isEmpty then m else m.connectPeersNow connectablePeers

def connectPeersById (pids : List PeerId) (m : PeerManager) : PeerManager :=
  m.connectPeers (pids.filterMap m.peer)

def bootstrap (m : PeerManager) : PeerManager :=
  let m := m.bootstraps.foldl (fun m b =>
    match m.peer (m.heap b).peer.id with
    | some peer_exist => m.modifyPeer peer_exist (·.insert (m.heap b).all)
    | none => m.addPeer b) m
  m.connectPeers m.bootstraps

/-- The book's object of the remote peer, or a new one (`unwrap_or_else(ArcPeer::new)`). -/
def remotePeer (m : PeerManager) (remote_peer_id : PeerId) : PeerRef × PeerManager :=
  match m.peer remote_peer_id with
  | some r => (r, m)
  | none => m.alloc (ArcPeer.new remote_peer_id)

/-- `set_pubkey` on a remote peer that has no key; a refused key is only logged. -/
def setRemotePubkey (m : PeerManager) (remotePeer : PeerRef) (pubkey : Bytes) : PeerManager :=
  if !(m.heap remotePeer).hasPubkey then
    match (m.heap remotePeer).peer.setPubkey keys pubkey with
    | .ok peer => m.modifyPeer remotePeer fun p => { p with peer }
    | .error _ => m
  else m

/-- The session's address on the remote peer: an inbound session's is dropped
(it is the client's), an outbound one's is kept with no failure. -/
def recordMultiaddr (m : PeerManager) (remotePeer : PeerRef) (remote_multiaddr : PeerMultiaddr)
    (ty : SessionType) : PeerManager :=
  match ty with
  | .Inbound => m.modifyPeer remotePeer (·.remove remote_multiaddr)
  | .Outbound => m.modifyPeer remotePeer fun p =>
    if p.contains remote_multiaddr then p.resetFailure remote_multiaddr else p.insert [remote_multiaddr]

def recordRemote (m : PeerManager) (remotePeer : PeerRef) (pubkey : Bytes) (ctx : SessionContext) : PeerManager :=
  (m.setRemotePubkey keys remotePeer pubkey).recordMultiaddr remotePeer
    (PeerMultiaddr.new ctx.address (keys.peer_id pubkey)) ctx.ty

def rejectSession (m : PeerManager) (remotePeer : PeerRef) (sid : SessionId) (now : UInt64) : PeerManager :=
  (m.modifyPeer remotePeer (·.markDisconnected now)).disconnectSession sid

/-- An accepted session: its peer enters the book; a second session of a connected
peer is closed, otherwise the session is kept and the peer marked connected. -/
def acceptSession (m : PeerManager) (remotePeer : PeerRef) (remote_peer_id : PeerId) (ctx : SessionContext)
    (now : UInt64) : PeerManager :=
  let m := if !m.contains remote_peer_id then m.addPeer remotePeer else m
  let exist_sid := (m.heap remotePeer).peer.session_id
  if (m.heap remotePeer).connectedness == some .Connected && exist_sid != ctx.id &&
      (m.session exist_sid).isSome then
    -- we don't support multiple connections
    m.disconnectSession ctx.id
  else
    (m.insertSession ⟨ctx.id, remotePeer, false⟩).modifyPeer remotePeer (·.markConnected ctx.id now)

def newSession (pubkey : Bytes) (ctx : SessionContext) (now : UInt64) (m : PeerManager) : PeerManager :=
  let remote_peer_id := keys.peer_id pubkey
  let (remotePeer, m) := (m.removeAttempt remote_peer_id).remotePeer remote_peer_id
  let m := m.recordRemote keys remotePeer pubkey ctx
  if m.config.whitelist_peers_only && !m.whitelisted remotePeer then m.rejectSession remotePeer ctx.id now
  else
    let whitelisted := match Peer.pubkeyToChainAddr keys pubkey with
      | .ok ca => m.whitelistedByChainAddr ca
      | .error _ => false
    if m.connected ≥ m.config.max_connections && !whitelisted then m.rejectSession remotePeer ctx.id now
    else m.acceptSession remotePeer remote_peer_id ctx now

/-- `session_closed`; `none` when the backoff loop does not end. -/
def sessionClosed (sid : SessionId) (now : UInt64) (m : PeerManager) : Option PeerManager :=
  match m.removeSession sid with
  | (none, _) => some m
  | (some session, m) =>
    let m := m.modifyPeer session.peer (·.markDisconnected now)
    if (m.heap session.peer).peer.alive < SHORT_ALIVE_SESSION then
      (Retry.sessionClosedBackoff BACKOFF_FUEL now (m.heap session.peer).peer.retry).map fun retry =>
        m.modifyPeer session.peer fun p => { p with peer := { p.peer with retry } }
    else some m

def chargeFailure (m : PeerManager) (peer : PeerRef) (peer_addr : PeerMultiaddr) (error_kind : ConnectionErrorKind) :
    PeerManager :=
  match error_kind with
  | .Io | .DNSResolver => m.modifyPeer peer (·.incFailure peer_addr)
  | .PeerIdNotMatch => m.modifyPeer peer (·.giveUp peer_addr)
  | .SecioHandshake | .ProtocolHandle => m.modifyPeer peer (·.setConnectedness .Unconnectable)

/-- One dialed multiaddr of the attempt on `peer_id` answered with a failure: an
attempt on a given-up peer is dropped; once no multiaddr is left the peer may be
dialed again, or is given up when its retries ran out; otherwise the attempt
waits for the others. -/
def completeAttempt (m : PeerManager) (peer_id : PeerId) (now : UInt64) : PeerManager :=
  match m.takeAttempt peer_id with
  | none => m
  | some (attempt, m) =>
    if (m.heap attempt.peer).connectedness == some .Unconnectable then m
    else
      let attempt := attempt.completeOneMultiaddr
      if attempt.multiaddrs == 0 then
        let m := m.modifyPeer attempt.peer fun p => (p.incRetry now).setConnectedness .CanConnect
        if (m.heap attempt.peer).peer.retry.runOut then
          m.modifyPeer attempt.peer (·.setConnectedness .Unconnectable)
        else m
      else m.insertAttempt attempt

def connectFailed (addr : Multiaddr) (error_kind : ConnectionErrorKind) (now : UInt64) (m : PeerManager) :
    PeerManager :=
  match extractId keys addr with
  | none => m
  | some peer_id =>
    match m.peer peer_id with
    | none => m
    | some peer => (m.chargeFailure peer ⟨addr⟩ error_kind).completeAttempt peer_id now

def sessionFailed (sid : SessionId) (error_kind : SessionErrorKind) (now : UInt64) (m : PeerManager) :
    PeerManager :=
  match m.removeSession sid with
  | (none, _) => m
  | (some session, m) =>
    let m := (m.disconnectSession sid).modifyPeer session.peer (·.markDisconnected now)
    match error_kind with
    | .Io => m.modifyPeer session.peer (·.incRetry now)
    | .Protocol | .Unexpected => m.modifyPeer session.peer (·.setConnectedness .Unconnectable)

def updatePeerAlive (pid : PeerId) (now : UInt64) (m : PeerManager) : PeerManager :=
  match m.peer pid with
  | some peer => m.modifyPeer peer fun p => p.resetRetry.updateAlive now
  | none => m

def peerMisbehave (pid : PeerId) (kind : MisbehaviorKind) (now : UInt64) (m : PeerManager) : PeerManager :=
  match m.peer pid with
  | none => m
  | some peer =>
    let sid := (m.heap peer).peer.session_id
    if sid == 0 then m
    else
      let m := ((m.removeSession sid).2.modifyPeer peer (·.markDisconnected now)).disconnectSession sid
      match kind with
      | .PingTimeout => m.modifyPeer peer (·.incRetry now)
      | .PingUnexpect | .Discovery => m.modifyPeer peer (·.setConnectedness .Unconnectable)

def sessionBlocked (ctx : SessionContext) (m : PeerManager) : PeerManager :=
  { m with inner := { m.inner with
      sessions := m.inner.sessions.map fun session => if session.id == ctx.id then { session with blocked := true } else session } }

def discoverMultiaddr (addr : Multiaddr) (m : PeerManager) : PeerManager :=
  match extractId keys addr with
  | none => m
  | some peer_id =>
    let peer_addr : PeerMultiaddr := ⟨addr⟩
    if peer_id == m.peer_id then m
    else
      match m.peer peer_id with
      | some peer => m.modifyPeer peer (·.insert [peer_addr])
      | none =>
        let (new_peer, m) := m.alloc ((ArcPeer.new peer_id).insert [peer_addr])
        m.addPeer new_peer

def dicoverMultiMultiaddrs (addrs : List Multiaddr) (m : PeerManager) : PeerManager :=
  addrs.foldl (fun m addr => m.discoverMultiaddr keys addr) m

def identifiedAddrs (pid : PeerId) (addrs : List Multiaddr) (m : PeerManager) : PeerManager :=
  match m.peer pid with
  | some peer => m.modifyPeer peer (·.insert (addrs.map fun a => PeerMultiaddr.new a pid))
  | none => m

def repeatedConnection (ty : ConnectionType) (sid : SessionId) (addr : Multiaddr) (m : PeerManager) : PeerManager :=
  match m.session sid with
  | none => m
  | some session =>
    let peer_addr := PeerMultiaddr.new addr (m.heap session.peer).peer.id
    match ty with
    | .Inbound => m.modifyPeer session.peer (·.remove peer_addr)
    | .Outbound => m.modifyPeer session.peer (·.resetFailure peer_addr)

def processEvent (event : PeerManagerEvent) (now : UInt64) (m : PeerManager) : Option PeerManager :=
  match event with
  | .ConnectPeersNow pids => some (m.connectPeersById pids)
  | .ConnectFailed addr kind => some (m.connectFailed keys addr kind now)
  | .NewSession _ pubkey ctx => some (m.newSession keys pubkey ctx now)
  | .RepeatedConnection ty sid addr => some (m.repeatedConnection ty sid addr)
  | .SessionBlocked ctx => some (m.sessionBlocked ctx)
  | .SessionClosed _ sid => m.sessionClosed sid now
  | .SessionFailed sid kind => some (m.sessionFailed sid kind now)
  | .PeerAlive pid => some (m.updatePeerAlive pid now)
  | .Misbehave pid kind => some (m.peerMisbehave pid kind now)
  | .WhitelistPeersByChainAddr chain_addrs => some (m.whitelistPeersByChainAddr chain_addrs now)
  | .DiscoverMultiAddrs addrs => some (m.dicoverMultiMultiaddrs keys addrs)
  | .IdentifiedAddrs pid addrs => some (m.identifiedAddrs pid addrs)
  | .AddNewListenAddr addr =>
    let peer_addr := PeerMultiaddr.new addr m.peer_id
    some { m with inner := { m.inner with
      listen := if peer_addr ∈ m.inner.listen then m.inner.listen else m.inner.listen ++ [peer_addr] } }
  | .RemoveListenAddr addr =>
    some { m with inner := { m.inner with listen := m.inner.listen.erase (PeerMultiaddr.new addr m.peer_id) } }

/-- What `poll` does after the pending events: it tops the connections up with the
peers `choose_multiple` picks, and drops the expired whitelist entries. -/
def routine (now : UInt64) (choose_multiple : Nat → List PeerRef → List PeerRef) (m : PeerManager) :
    PeerManager :=
  let connected_count := m.connected
  let connection_attempts := connected_count + m.connecting.length
  let max_connection_attempts := m.config.max_connections + MAX_CONNECTING_MARGIN
  let m :=
    if connected_count < m.config.max_connections && connection_attempts < max_connection_attempts then
      let remain_count := max_connection_attempts - connection_attempts
      let connectablePeers := choose_multiple remain_count (m.connectablePeers now)
      if !connectablePeers.isEmpty then m.connectPeers connectablePeers else m
    else m
  { m with inner := { m.inner with whitelist := m.inner.whitelist.filter fun peer => !peer.isExpired now } }

/-- The manager after construction, `restore_peers` and, with bootstrap peers,
`bootstrap`, as the network service starts it. -/
def start (config : PeerManagerConfig) (bootstraps : List Peer) (file : List SerdePeer) : PeerManager :=
  let m := (new config bootstraps).restorePeers keys file
  if bootstraps.isEmpty then m else m.bootstrap

end PeerManager

/-- What drives the manager: an event with the clock when it is processed, or the
end of a `poll` with the clock and the random choice of `choose_multiple`. -/
inductive Input where
  | event (event : PeerManagerEvent) (now : UInt64)
  | poll (now : UInt64) (choose_multiple : Nat → List PeerRef → List PeerRef)

namespace Input

/-- An input from a run of the service: the clock is 30 seconds short of the end of
`u64`, and `choose_multiple` picks without repetition as many as it is asked, or
all there are. -/
def Admissible : Input → Prop
  | .event _ now => now.toNat + REPEATED_CONNECTION_TIMEOUT.toNat < 2 ^ 64
  | .poll now choose_multiple => now.toNat + REPEATED_CONNECTION_TIMEOUT.toNat < 2 ^ 64 ∧
      ∀ amount peers, (choose_multiple amount peers).Subperm peers ∧
        (choose_multiple amount peers).length = min amount peers.length

end Input

/-- One input processed. A backoff loop that never ends does not occur in an
admissible run; the model then leaves the manager as it was. -/
def PeerManager.step (keys : KeyScheme) : Input → PeerManager → PeerManager
  | .event event now, m => (m.processEvent keys event now).getD m
  | .poll now choose_multiple, m => m.routine now choose_multiple

end Muta.Network
