import Muta.Network.Manager

/-! What every run of the peer manager keeps of its book, its chain index and its
sessions.

The book `inner.peers` only grows, and the chain index `inner.chain` gains an
entry only in `Inner::add_peer` and `Inner::restore`, for an object with that
chain address. A peer's chain address never changes once set: `new_session`
sets the key of a peer that has none, and the chain address comes with the key.
So in every state a run reaches, each entry of the chain index is a peer of the
book under its own chain address, and each session's peer is an object of the
book (`Consistent`).

What the index misses is every peer whose key came after it entered the book:
`discover_multiaddr` adds a peer without key, `new_session` then sets the key of
that object and, the peer being in the book already, never calls `add_peer`.
-/

set_option autoImplicit false

namespace Muta.Network

/-- What the chain index and the sessions read of the manager: the identity of
each object, the next fresh reference, the book, the index and the bootstrap
peers. -/
structure Book where
  ident : PeerRef → PeerId × Option Bytes × Option Address
  next : PeerRef
  peers : List PeerRef
  chain : Address → Option PeerRef
  bootstraps : List PeerRef

namespace PeerManager

def book (m : PeerManager) : Book := ⟨fun r => (m.heap r).ident, m.next, m.inner.peers, m.inner.chain, m.bootstraps⟩

def links (m : PeerManager) : List (SessionId × PeerRef) := m.inner.sessions.map fun s => (s.id, s.peer)

/-- A change that keeps the book and the index, and only drops sessions. -/
def Framed (m m' : PeerManager) : Prop := m'.book = m.book ∧ m'.links.Sublist m.links

theorem Framed.refl (m : PeerManager) : Framed m m := ⟨rfl, List.Sublist.refl _⟩

theorem Framed.trans {m₁ m₂ m₃ : PeerManager} (first : Framed m₁ m₂) (second : Framed m₂ m₃) : Framed m₁ m₃ :=
  ⟨second.1.trans first.1, second.2.trans first.2⟩

/-! ### Framed steps -/

def KeepsIdent (f : ArcPeer → ArcPeer) : Prop := ∀ p, (f p).ident = p.ident

theorem book_modify_peer {f : ArcPeer → ArcPeer} (keeps : KeepsIdent f) (m : PeerManager) (r : PeerRef) :
    (m.modifyPeer r f).book = m.book := by
  simp only [book, modifyPeer, Book.mk.injEq, and_true]
  funext other
  by_cases same : other = r
  · subst same
    simp [keeps _]
  · simp [Function.update_of_ne same]

theorem framed_modify_peer {f : ArcPeer → ArcPeer} (keeps : KeepsIdent f) (m : PeerManager) (r : PeerRef) :
    Framed m (m.modifyPeer r f) :=
  ⟨book_modify_peer keeps m r, List.Sublist.refl _⟩

theorem Framed.modifyPeer {m m' : PeerManager} (framed : Framed m m') {f : ArcPeer → ArcPeer}
    (keeps : KeepsIdent f) (r : PeerRef) : Framed m (m'.modifyPeer r f) :=
  framed.trans (framed_modify_peer keeps m' r)

theorem framed_disconnect_session (m : PeerManager) (sid : SessionId) : Framed m (m.disconnectSession sid) :=
  Framed.refl m

theorem framed_insert_attempt (m : PeerManager) (attempt : ConnectingAttempt) : Framed m (m.insertAttempt attempt) := by
  dsimp only [insertAttempt]
  split
  · exact Framed.refl m
  · exact Framed.refl m

theorem framed_take_attempt {m m' : PeerManager} {peer_id : PeerId} {attempt : ConnectingAttempt}
    (taken : m.takeAttempt peer_id = some (attempt, m')) : Framed m m' := by
  unfold takeAttempt at taken
  obtain ⟨_, -, same⟩ := Option.map_eq_some_iff.mp taken
  cases same
  exact Framed.refl m

theorem framed_remove_session (m : PeerManager) (sid : SessionId) : Framed m (m.removeSession sid).2 := by
  have kept : (m.inner.sessions.filter (·.id != sid)).Sublist m.inner.sessions := List.filter_sublist
  exact ⟨rfl, by simpa [links, removeSession] using kept.map fun s => (s.id, s.peer)⟩

theorem framed_of_removed {m removed : PeerManager} {sid : SessionId} {session : ArcSession}
    (removed_eq : m.removeSession sid = (some session, removed)) : Framed m removed := by
  have framed := framed_remove_session m sid
  rwa [removed_eq] at framed

theorem framed_session_blocked (m : PeerManager) (ctx : SessionContext) : Framed m (m.sessionBlocked ctx) := by
  refine ⟨rfl, ?_⟩
  have same : (m.sessionBlocked ctx).links = m.links := by
    simp only [links, sessionBlocked, List.map_map]
    congr 1
    funext session
    by_cases blocked : session.id = ctx.id <;> simp [blocked]
  rw [same]

theorem framed_foldl {α : Type} (step : PeerManager → α → PeerManager) (framed : ∀ m x, Framed m (step m x)) :
    ∀ (xs : List α) (m : PeerManager), Framed m (xs.foldl step m)
  | [], m => Framed.refl m
  | x :: rest, m => (framed m x).trans (framed_foldl step framed rest (step m x))

theorem framed_foldl_pair {α β : Type} (step : β × PeerManager → α → β × PeerManager)
    (framed : ∀ acc x, Framed acc.2 (step acc x).2) :
    ∀ (xs : List α) (acc : β × PeerManager), Framed acc.2 (xs.foldl step acc).2
  | [], acc => Framed.refl acc.2
  | x :: rest, acc => (framed acc x).trans (framed_foldl_pair step framed rest (step acc x))

theorem framed_connect_peers_now (m : PeerManager) (peers : List PeerRef) : Framed m (m.connectPeersNow peers) := by
  have loop := framed_foldl_pair (fun (acc : List Multiaddr × PeerManager) r =>
      (acc.1 ++ ((acc.2.modifyPeer r (·.setConnectedness .Connecting)).heap r).allRaw,
        (acc.2.modifyPeer r (·.setConnectedness .Connecting)).insertAttempt
          ⟨r, UInt64.ofNat ((acc.2.modifyPeer r (·.setConnectedness .Connecting)).heap r).connectableLen⟩))
    (fun acc r => (framed_modify_peer (fun p => ArcPeer.ident_set_connectedness p _) acc.2 r).trans
      (framed_insert_attempt _ _)) peers ([], m)
  exact ⟨loop.1, loop.2⟩

theorem framed_connect_peers (m : PeerManager) (peers : List PeerRef) : Framed m (m.connectPeers peers) := by
  dsimp only [connectPeers]
  split
  · exact Framed.refl m
  · exact framed_connect_peers_now m _

theorem framed_charge_failure (m : PeerManager) (peer : PeerRef) (peer_addr : PeerMultiaddr)
    (error_kind : ConnectionErrorKind) : Framed m (m.chargeFailure peer peer_addr error_kind) := by
  cases error_kind
  · exact framed_modify_peer (fun p => ArcPeer.ident_inc_failure p peer_addr) m peer
  · exact framed_modify_peer (fun p => ArcPeer.ident_inc_failure p peer_addr) m peer
  · exact framed_modify_peer (fun p => ArcPeer.ident_set_connectedness p _) m peer
  · exact framed_modify_peer (fun p => ArcPeer.ident_give_up p peer_addr) m peer
  · exact framed_modify_peer (fun p => ArcPeer.ident_set_connectedness p _) m peer

theorem framed_complete_attempt (m : PeerManager) (peer_id : PeerId) (now : UInt64) :
    Framed m (m.completeAttempt peer_id now) := by
  unfold completeAttempt
  split
  · exact Framed.refl m
  · rename_i taking
    have framed := framed_take_attempt taking
    dsimp only
    split
    · exact framed
    · split
      · split
        · exact (framed.modifyPeer (fun p => by simp) _).modifyPeer (fun p => by simp) _
        · exact framed.modifyPeer (fun p => by simp) _
      · exact framed.trans (framed_insert_attempt _ _)

theorem framed_connect_failed (keys : KeyScheme) (m : PeerManager) (addr : Multiaddr)
    (error_kind : ConnectionErrorKind) (now : UInt64) : Framed m (m.connectFailed keys addr error_kind now) := by
  unfold connectFailed
  split
  · exact Framed.refl m
  · split
    · exact Framed.refl m
    · exact (framed_charge_failure m _ _ error_kind).trans (framed_complete_attempt _ _ now)

theorem framed_session_failed (m : PeerManager) (sid : SessionId) (error_kind : SessionErrorKind) (now : UInt64) :
    Framed m (m.sessionFailed sid error_kind now) := by
  unfold sessionFailed
  split
  · exact Framed.refl m
  · rename_i session _ removed_eq
    have framed := ((framed_of_removed removed_eq).trans (framed_disconnect_session _ sid)).modifyPeer
      (fun p => ArcPeer.ident_mark_disconnected p now) session.peer
    dsimp only
    cases error_kind
    · exact framed.modifyPeer (fun p => by simp) _
    · exact framed.modifyPeer (fun p => by simp) _
    · exact framed.modifyPeer (fun p => by simp) _

theorem framed_session_closed {sid : SessionId} {now : UInt64} {m m' : PeerManager}
    (closed : m.sessionClosed sid now = some m') : Framed m m' := by
  unfold sessionClosed at closed
  split at closed
  · cases closed
    exact Framed.refl m
  · rename_i session _ removed_eq
    have framed := (framed_of_removed removed_eq).modifyPeer (fun p => ArcPeer.ident_mark_disconnected p now)
      session.peer
    dsimp only at closed
    split at closed
    · obtain ⟨retry, -, rfl⟩ := Option.map_eq_some_iff.mp closed
      exact framed.modifyPeer (fun p => by rfl) session.peer
    · cases closed
      exact framed

theorem framed_update_peer_alive (m : PeerManager) (pid : PeerId) (now : UInt64) :
    Framed m (m.updatePeerAlive pid now) := by
  unfold updatePeerAlive
  split
  · exact framed_modify_peer (fun p => by simp) m _
  · exact Framed.refl m

theorem framed_peer_misbehave (m : PeerManager) (pid : PeerId) (kind : MisbehaviorKind) (now : UInt64) :
    Framed m (m.peerMisbehave pid kind now) := by
  unfold peerMisbehave
  split
  · exact Framed.refl m
  · rename_i peer _
    dsimp only
    split
    · exact Framed.refl m
    · have framed := ((framed_remove_session m (m.heap peer).peer.session_id).modifyPeer
        (fun p => ArcPeer.ident_mark_disconnected p now) peer).trans
        (framed_disconnect_session _ (m.heap peer).peer.session_id)
      cases kind
      · exact framed.modifyPeer (fun p => by simp) _
      · exact framed.modifyPeer (fun p => by simp) _
      · exact framed.modifyPeer (fun p => by simp) _

theorem framed_identified_addrs (m : PeerManager) (pid : PeerId) (addrs : List Multiaddr) :
    Framed m (m.identifiedAddrs pid addrs) := by
  unfold identifiedAddrs
  split
  · exact framed_modify_peer (fun p => ArcPeer.ident_insert p _) m _
  · exact Framed.refl m

theorem framed_repeated_connection (m : PeerManager) (ty : ConnectionType) (sid : SessionId) (addr : Multiaddr) :
    Framed m (m.repeatedConnection ty sid addr) := by
  unfold repeatedConnection
  split
  · exact Framed.refl m
  · cases ty
    · exact framed_modify_peer (fun p => ArcPeer.ident_remove p _) m _
    · exact framed_modify_peer (fun p => ArcPeer.ident_reset_failure p _) m _

theorem framed_routine (m : PeerManager) (now : UInt64) (choose_multiple : Nat → List PeerRef → List PeerRef) :
    Framed m (m.routine now choose_multiple) := by
  unfold routine
  dsimp only
  -- dropping expired whitelist entries changes neither the book nor the sessions
  split
  · split
    · exact framed_connect_peers m _
    · exact Framed.refl m
  · exact Framed.refl m

/-! ### Lookups by id -/

theorem contains_iff (m : PeerManager) (pid : PeerId) :
    m.contains pid = true ↔ ∃ r ∈ m.inner.peers, (m.heap r).peer.id = pid := by
  simp [contains, peer]

theorem peer_spec {m : PeerManager} {pid : PeerId} {r : PeerRef} (found : m.peer pid = some r) :
    r ∈ m.inner.peers ∧ (m.heap r).peer.id = pid :=
  ⟨List.mem_of_find?_eq_some found, by simpa using List.find?_some found⟩

theorem peer_congr {m m' : PeerManager} (peers : m'.inner.peers = m.inner.peers)
    (ids : ∀ r ∈ m.inner.peers, (m'.heap r).peer.id = (m.heap r).peer.id) (pid : PeerId) :
    m'.peer pid = m.peer pid := by
  unfold peer
  rw [peers]
  exact List.find?_congr fun r mem => by rw [ids r mem]

theorem contains_congr {m m' : PeerManager} (peers : m'.inner.peers = m.inner.peers)
    (ids : ∀ r ∈ m.inner.peers, (m'.heap r).peer.id = (m.heap r).peer.id) (pid : PeerId) :
    m'.contains pid = m.contains pid := by
  simp only [contains, peer_congr peers ids]

/-! ### The invariant -/

section Consistent

variable (keys : KeyScheme)

/-- What every manager a run reaches keeps of its objects, its book and its chain
index: keys and chain addresses agree, the book is a set by id of allocated
objects, every entry of the index is an allocated object under its own chain
address whose id the book holds, and every session's peer is an object of the
book. -/
structure Consistent (m : PeerManager) : Prop where
  keyed : ∀ r, (m.heap r).peer.chain_addr = (m.heap r).peer.pubkey.map keys.chainAddr
  peers_allocated : ∀ r ∈ m.inner.peers, r < m.next
  peers_unique : (m.inner.peers.map fun r => (m.heap r).peer.id).Nodup
  chain_allocated : ∀ a r, m.inner.chain a = some r → r < m.next
  chain_owned : ∀ a r, m.inner.chain a = some r → (m.heap r).peer.chain_addr = some a
  chain_booked : ∀ a r, m.inner.chain a = some r → m.contains (m.heap r).peer.id = true
  sessions_booked : ∀ s ∈ m.inner.sessions, s.peer ∈ m.inner.peers
  bootstraps_allocated : ∀ r ∈ m.bootstraps, r < m.next

variable {keys} {m : PeerManager}

theorem Consistent.peer_of_mem (holds : Consistent keys m) {r : PeerRef} (mem : r ∈ m.inner.peers) :
    m.peer (m.heap r).peer.id = some r := by
  have found : (m.peer (m.heap r).peer.id).isSome := by
    simpa [contains] using (contains_iff m _).mpr ⟨r, mem, rfl⟩
  obtain ⟨r', found⟩ := Option.isSome_iff_exists.mp found
  obtain ⟨mem', same⟩ := peer_spec found
  rw [found, List.inj_on_of_nodup_map holds.peers_unique mem' mem same]

theorem Consistent.of_framed {m' : PeerManager} (holds : Consistent keys m) (framed : Framed m m') :
    Consistent keys m' := by
  obtain ⟨same, sublist⟩ := framed
  simp only [book, Book.mk.injEq] at same
  obtain ⟨ident, next, peers, chain, bootstraps⟩ := same
  -- the invariant reads of an object only its identity
  have ident_eq : ∀ r, (m'.heap r).ident = (m.heap r).ident := fun r => congrFun ident r
  simp only [ArcPeer.ident, Prod.mk.injEq] at ident_eq
  have lookup : ∀ pid, m'.contains pid = m.contains pid :=
    contains_congr peers fun r _ => (ident_eq r).1
  refine ⟨fun r => ?_, ?_, ?_, ?_, fun a r => ?_, fun a r => ?_, fun s mem => ?_, ?_⟩
  · rw [(ident_eq r).2.1, (ident_eq r).2.2]
    exact holds.keyed r
  · rw [peers, next]
    exact holds.peers_allocated
  · simpa only [peers, (ident_eq _).1] using holds.peers_unique
  · rw [chain, next]
    exact holds.chain_allocated
  · rw [chain, (ident_eq r).2.2]
    exact holds.chain_owned a r
  · rw [chain, (ident_eq r).1, lookup]
    exact holds.chain_booked a r
  · -- a session left is one the manager had
    have link : (s.id, s.peer) ∈ m.links := sublist.subset (List.mem_map_of_mem mem)
    obtain ⟨s', mem', same⟩ := List.mem_map.mp link
    rw [peers, ← (Prod.mk.inj same).2]
    exact holds.sessions_booked s' mem'
  · rw [bootstraps, next]
    exact holds.bootstraps_allocated

theorem alloc_heap_of_lt (m : PeerManager) (p : ArcPeer) {r : PeerRef} (old : r < m.next) :
    (m.alloc p).2.heap r = m.heap r := by
  simp [alloc, Function.update_of_ne (Nat.ne_of_lt old)]

theorem Consistent.peer_alloc (holds : Consistent keys m) (p : ArcPeer) (pid : PeerId) :
    (m.alloc p).2.peer pid = m.peer pid :=
  @peer_congr m (m.alloc p).2 rfl (fun r mem => congrArg (·.peer.id) (alloc_heap_of_lt m p (holds.peers_allocated r mem))) pid

theorem Consistent.alloc (holds : Consistent keys m) {p : ArcPeer}
    (keyed : p.peer.chain_addr = p.peer.pubkey.map keys.chainAddr) : Consistent keys (m.alloc p).2 := by
  have old : ∀ r, r < m.next → (m.alloc p).2.heap r = m.heap r := fun r => alloc_heap_of_lt m p
  have lookup : ∀ pid, (m.alloc p).2.contains pid = m.contains pid := fun pid => by
    simp only [contains, holds.peer_alloc]
  refine ⟨fun r => ?_, fun r mem => ?_, ?_, fun a r found => ?_, fun a r found => ?_, fun a r found => ?_,
    holds.sessions_booked, fun r mem => Nat.lt_succ_of_lt (holds.bootstraps_allocated r mem)⟩
  · by_cases fresh : r = m.next
    · subst fresh
      simpa [PeerManager.alloc] using keyed
    · simpa [PeerManager.alloc, Function.update_of_ne fresh] using holds.keyed r
  · exact Nat.lt_succ_of_lt (holds.peers_allocated r mem)
  · have same := List.map_congr_left fun r mem => congrArg (·.peer.id) (old r (holds.peers_allocated r mem))
    exact same ▸ holds.peers_unique
  · exact Nat.lt_succ_of_lt (holds.chain_allocated a r found)
  · rw [old r (holds.chain_allocated a r found)]
    exact holds.chain_owned a r found
  · rw [old r (holds.chain_allocated a r found), lookup]
    exact holds.chain_booked a r found

theorem Consistent.insertPeer (holds : Consistent keys m) {r : PeerRef} (allocated : r < m.next) :
    Consistent keys (m.insertPeer r) := by
  unfold PeerManager.insertPeer
  split
  · exact holds
  · rename_i absent
    have grown : ∀ pid, m.contains pid = true →
        ({ m with inner := { m.inner with peers := m.inner.peers ++ [r] } } : PeerManager).contains pid = true := by
      intro pid present
      obtain ⟨r', mem, same⟩ := (contains_iff m pid).mp present
      exact (contains_iff _ pid).mpr ⟨r', List.mem_append_left _ mem, same⟩
    refine ⟨holds.keyed, fun r' mem => ?_, ?_, holds.chain_allocated, holds.chain_owned,
      fun a r' found => grown _ (holds.chain_booked a r' found), fun s mem => ?_, holds.bootstraps_allocated⟩
    · rcases List.mem_append.mp mem with old | new
      · exact holds.peers_allocated r' old
      · rw [List.mem_singleton.mp new]
        exact allocated
    · -- the new object's id is none of the book's
      have fresh : ∀ r' ∈ m.inner.peers, (m.heap r').peer.id ≠ (m.heap r).peer.id :=
        fun r' mem same => absent ((contains_iff m _).mpr ⟨r', mem, same⟩)
      simpa [List.nodup_append] using ⟨holds.peers_unique, fresh⟩
    · exact List.mem_append_left _ (holds.sessions_booked s mem)

theorem Consistent.indexPeer (holds : Consistent keys m) {r : PeerRef} (allocated : r < m.next)
    (booked : m.contains (m.heap r).peer.id = true) : Consistent keys (m.indexPeer r) := by
  unfold PeerManager.indexPeer
  split
  · rename_i a owned
    refine ⟨holds.keyed, holds.peers_allocated, holds.peers_unique, fun a' r' found => ?_, fun a' r' found => ?_,
      fun a' r' found => ?_, holds.sessions_booked, holds.bootstraps_allocated⟩ <;> by_cases same : a' = a
    all_goals simp only [same, Function.update_self, Function.update_of_ne, Option.some.injEq, ne_eq,
      not_false_eq_true] at found
    · rw [← found]; exact allocated
    · exact holds.chain_allocated a' r' found
    · rw [← found, owned, same]
    · exact holds.chain_owned a' r' found
    · rw [← found]; exact booked
    · exact holds.chain_booked a' r' found
  · exact holds

@[simp] theorem insert_peer_heap (m : PeerManager) (r : PeerRef) : (m.insertPeer r).heap = m.heap := by
  unfold PeerManager.insertPeer
  split <;> rfl

@[simp] theorem insert_peer_next (m : PeerManager) (r : PeerRef) : (m.insertPeer r).next = m.next := by
  unfold PeerManager.insertPeer
  split <;> rfl

theorem contains_insert_peer_self (m : PeerManager) (r : PeerRef) :
    (m.insertPeer r).contains (m.heap r).peer.id = true := by
  unfold PeerManager.insertPeer
  split
  · assumption
  · exact (contains_iff _ _).mpr ⟨r, List.mem_append_right _ (List.mem_singleton_self r), rfl⟩

theorem Consistent.addPeer (holds : Consistent keys m) {r : PeerRef} (allocated : r < m.next) :
    Consistent keys (m.addPeer r) :=
  (holds.insertPeer allocated).indexPeer (by simpa using allocated)
    (by simpa using contains_insert_peer_self m r)

theorem Consistent.modifyPeer (holds : Consistent keys m) {f : ArcPeer → ArcPeer} (keeps : KeepsIdent f)
    (r : PeerRef) : Consistent keys (m.modifyPeer r f) :=
  holds.of_framed (framed_modify_peer keeps m r)

@[simp] theorem modify_peer_heap_self (m : PeerManager) (r : PeerRef) (f : ArcPeer → ArcPeer) :
    (m.modifyPeer r f).heap r = f (m.heap r) := by
  simp [PeerManager.modifyPeer]

theorem modify_peer_heap_of_ne (m : PeerManager) {r r' : PeerRef} (f : ArcPeer → ArcPeer) (other : r' ≠ r) :
    (m.modifyPeer r f).heap r' = m.heap r' := by
  simp [PeerManager.modifyPeer, Function.update_of_ne other]

theorem modify_peer_id (m : PeerManager) {r : PeerRef} {f : ArcPeer → ArcPeer}
    (same_id : (f (m.heap r)).peer.id = (m.heap r).peer.id) (r' : PeerRef) :
    ((m.modifyPeer r f).heap r').peer.id = (m.heap r').peer.id := by
  by_cases here : r' = r
  · subst here
    simpa using same_id
  · rw [modify_peer_heap_of_ne m f here]

theorem Consistent.modify_unindexed (holds : Consistent keys m) {r : PeerRef} {f : ArcPeer → ArcPeer}
    (same_id : (f (m.heap r)).peer.id = (m.heap r).peer.id)
    (keyed : (f (m.heap r)).peer.chain_addr = (f (m.heap r)).peer.pubkey.map keys.chainAddr)
    (unindexed : ∀ a, m.inner.chain a ≠ some r) : Consistent keys (m.modifyPeer r f) := by
  have ids := modify_peer_id m same_id
  have indexed : ∀ a r', m.inner.chain a = some r' → (m.modifyPeer r f).heap r' = m.heap r' :=
    fun a r' found => modify_peer_heap_of_ne m f fun here => unindexed a (here ▸ found)
  refine ⟨fun r' => ?_, holds.peers_allocated, ?_, holds.chain_allocated, fun a r' found => ?_,
    fun a r' found => ?_, holds.sessions_booked, holds.bootstraps_allocated⟩
  · by_cases here : r' = r
    · subst here
      simpa using keyed
    · simpa [modify_peer_heap_of_ne m f here] using holds.keyed r'
  · show (m.inner.peers.map fun r' => ((m.modifyPeer r f).heap r').peer.id).Nodup
    simpa only [ids] using holds.peers_unique
  · rw [indexed a r' found]
    exact holds.chain_owned a r' found
  · rw [indexed a r' found, @contains_congr m (m.modifyPeer r f) rfl fun r _ => ids r]
    exact holds.chain_booked a r' found

theorem Consistent.unindexed_of_no_pubkey (holds : Consistent keys m) {r : PeerRef}
    (no_key : (m.heap r).peer.pubkey = none) (a : Address) : m.inner.chain a ≠ some r := by
  intro found
  have owned := holds.chain_owned a r found
  rw [holds.keyed r, no_key] at owned
  cases owned

theorem Consistent.setPubkey (holds : Consistent keys m) {r : PeerRef} {pubkey : Bytes} {peer : Peer}
    (no_key : (m.heap r).hasPubkey = false) (set : (m.heap r).peer.setPubkey keys pubkey = .ok peer) :
    Consistent keys (m.modifyPeer r fun p => { p with peer }) := by
  rw [Peer.set_pubkey_eq] at set
  split_ifs at set
  cases set
  exact holds.modify_unindexed rfl rfl
    (holds.unindexed_of_no_pubkey (by simpa [ArcPeer.hasPubkey] using no_key))

theorem set_remote_pubkey_id (m : PeerManager) (r : PeerRef) (pubkey : Bytes) (r' : PeerRef) :
    ((m.setRemotePubkey keys r pubkey).heap r').peer.id = (m.heap r').peer.id := by
  unfold PeerManager.setRemotePubkey
  split
  · split
    · rename_i peer set
      -- a key is set only on the peer of its id
      rw [Peer.set_pubkey_eq] at set
      split_ifs at set
      cases set
      exact modify_peer_id m rfl r'
    · rfl
  · rfl

theorem record_multiaddr_framed (m : PeerManager) (r : PeerRef) (pma : PeerMultiaddr) (ty : SessionType) :
    Framed m (m.recordMultiaddr r pma ty) := by
  unfold PeerManager.recordMultiaddr
  split
  · exact framed_modify_peer (fun p => ArcPeer.ident_remove p pma) m r
  · exact framed_modify_peer (fun p => by split <;> simp) m r

theorem record_remote_id (m : PeerManager) (r : PeerRef) (pubkey : Bytes) (ctx : SessionContext) (r' : PeerRef) :
    ((m.recordRemote keys r pubkey ctx).heap r').peer.id = (m.heap r').peer.id := by
  have framed := record_multiaddr_framed (m.setRemotePubkey keys r pubkey) r
    (PeerMultiaddr.new ctx.address (keys.peer_id pubkey)) ctx.ty
  have ident := congrArg (fun b => (b.ident r').1) framed.1
  simp only [book] at ident
  exact ident.trans (set_remote_pubkey_id m r pubkey r')

@[simp] theorem record_remote_next (m : PeerManager) (r : PeerRef) (pubkey : Bytes) (ctx : SessionContext) :
    (m.recordRemote keys r pubkey ctx).next = m.next :=
  (congrArg Book.next (record_multiaddr_framed _ r _ ctx.ty).1).trans (by
    unfold PeerManager.setRemotePubkey
    split
    · split <;> rfl
    · rfl)

@[simp] theorem record_remote_peers (m : PeerManager) (r : PeerRef) (pubkey : Bytes) (ctx : SessionContext) :
    (m.recordRemote keys r pubkey ctx).inner.peers = m.inner.peers :=
  (congrArg Book.peers (record_multiaddr_framed _ r _ ctx.ty).1).trans (by
    unfold PeerManager.setRemotePubkey
    split
    · split <;> rfl
    · rfl)

theorem Consistent.setRemotePubkey (holds : Consistent keys m) (r : PeerRef) (pubkey : Bytes) :
    Consistent keys (m.setRemotePubkey keys r pubkey) := by
  unfold PeerManager.setRemotePubkey
  split
  · split
    · rename_i no_key _ peer set
      exact holds.setPubkey (by simpa using no_key) set
    · exact holds
  · exact holds

theorem Consistent.recordRemote (holds : Consistent keys m) (r : PeerRef) (pubkey : Bytes) (ctx : SessionContext) :
    Consistent keys (m.recordRemote keys r pubkey ctx) :=
  (holds.setRemotePubkey r pubkey).of_framed (record_multiaddr_framed _ r _ ctx.ty)

theorem Consistent.rejectSession (holds : Consistent keys m) (r : PeerRef) (sid : SessionId) (now : UInt64) :
    Consistent keys (m.rejectSession r sid now) :=
  holds.of_framed ((framed_modify_peer (fun p => ArcPeer.ident_mark_disconnected p now) m r).trans
    (framed_disconnect_session _ sid))

theorem Consistent.insertSession (holds : Consistent keys m) {session : ArcSession}
    (booked : session.peer ∈ m.inner.peers) : Consistent keys (m.insertSession session) := by
  unfold PeerManager.insertSession
  split
  · exact holds
  · refine { holds with sessions_booked := fun s mem => ?_ }
    rcases List.mem_append.mp mem with old | new
    · exact holds.sessions_booked s old
    · rw [List.mem_singleton.mp new]
      exact booked

@[simp] theorem index_peer_heap (m : PeerManager) (r : PeerRef) : (m.indexPeer r).heap = m.heap := by
  unfold PeerManager.indexPeer
  split <;> rfl

@[simp] theorem index_peer_next (m : PeerManager) (r : PeerRef) : (m.indexPeer r).next = m.next := by
  unfold PeerManager.indexPeer
  split <;> rfl

@[simp] theorem index_peer_peers (m : PeerManager) (r : PeerRef) : (m.indexPeer r).inner.peers = m.inner.peers := by
  unfold PeerManager.indexPeer
  split <;> rfl

theorem mem_add_peer_self {m : PeerManager} {r : PeerRef} (absent : m.contains (m.heap r).peer.id = false) :
    r ∈ (m.addPeer r).inner.peers := by
  simp [PeerManager.addPeer, PeerManager.insertPeer, absent]

theorem Consistent.acceptSession (holds : Consistent keys m) {r : PeerRef} {remote_peer_id : PeerId}
    (allocated : r < m.next) (named : (m.heap r).peer.id = remote_peer_id)
    (booked : m.contains remote_peer_id = true → r ∈ m.inner.peers) (ctx : SessionContext) (now : UInt64) :
    Consistent keys (m.acceptSession r remote_peer_id ctx now) := by
  unfold PeerManager.acceptSession
  dsimp only
  -- first the book takes the remote object, then the session is closed or kept
  generalize entered_eq : (if !m.contains remote_peer_id then m.addPeer r else m) = entered
  obtain ⟨holds', mem⟩ : Consistent keys entered ∧ r ∈ entered.inner.peers := by
    subst entered_eq
    cases present : m.contains remote_peer_id
    · rw [← named] at present
      exact ⟨holds.addPeer allocated, mem_add_peer_self present⟩
    · exact ⟨holds, booked present⟩
  split
  · exact holds'.of_framed (framed_disconnect_session entered ctx.id)
  · exact (holds'.insertSession (show (⟨ctx.id, r, false⟩ : ArcSession).peer ∈ entered.inner.peers from mem)).modifyPeer
      (fun p => ArcPeer.ident_mark_connected p ctx.id now) r

theorem Consistent.remotePeer (holds : Consistent keys m) (pid : PeerId) :
    Consistent keys (m.remotePeer pid).2 ∧ (m.remotePeer pid).1 < (m.remotePeer pid).2.next ∧
      ((m.remotePeer pid).2.heap (m.remotePeer pid).1).peer.id = pid ∧
      ((m.remotePeer pid).2.contains pid = true → (m.remotePeer pid).1 ∈ (m.remotePeer pid).2.inner.peers) := by
  unfold PeerManager.remotePeer
  split
  · rename_i r found
    obtain ⟨mem, named⟩ := peer_spec found
    exact ⟨holds, holds.peers_allocated r mem, named, fun _ => mem⟩
  · rename_i absent
    refine ⟨holds.alloc (by simp [ArcPeer.new, Peer.new]), Nat.lt_succ_self _,
      by simp [PeerManager.alloc, ArcPeer.new, Peer.new], fun present => ?_⟩
    simp [contains, holds.peer_alloc, absent] at present

theorem framed_remove_attempt (m : PeerManager) (peer_id : PeerId) : Framed m (m.removeAttempt peer_id) :=
  Framed.refl m

theorem Consistent.newSession (holds : Consistent keys m) (pubkey : Bytes) (ctx : SessionContext) (now : UInt64) :
    Consistent keys (m.newSession keys pubkey ctx now) := by
  unfold PeerManager.newSession
  dsimp only
  have dropped := holds.of_framed (framed_remove_attempt m (keys.peer_id pubkey))
  obtain ⟨remote, allocated, named, booked⟩ := dropped.remotePeer (keys.peer_id pubkey)
  generalize (m.removeAttempt (keys.peer_id pubkey)).remotePeer (keys.peer_id pubkey) = found at *
  obtain ⟨r, m'⟩ := found
  have recorded := remote.recordRemote r pubkey ctx
  dsimp only at allocated named booked ⊢
  have accepted : Consistent keys ((m'.recordRemote keys r pubkey ctx).acceptSession r (keys.peer_id pubkey) ctx now) := by
    refine recorded.acceptSession (by simpa using allocated) ?_ ?_ ctx now
    · rw [record_remote_id]
      exact named
    · rw [contains_congr (record_remote_peers m' r pubkey ctx) fun r' _ => record_remote_id m' r pubkey ctx r']
      simpa using booked
  have rejected := recorded.rejectSession r ctx.id now
  -- every exit is a refusal or the acceptance
  split
  · exact rejected
  · split <;> split
    all_goals first | exact rejected | exact accepted

theorem Consistent.discoverMultiaddr (holds : Consistent keys m) (addr : Multiaddr) :
    Consistent keys (m.discoverMultiaddr keys addr) := by
  unfold PeerManager.discoverMultiaddr
  split
  · exact holds
  · split
    · exact holds
    · split
      · exact holds.modifyPeer (fun p => ArcPeer.ident_insert p _) _
      · exact (holds.alloc (by simp [ArcPeer.insert, ArcPeer.new, Peer.new])).addPeer (Nat.lt_succ_self m.next)

theorem Consistent.dicoverMultiMultiaddrs (holds : Consistent keys m) (addrs : List Multiaddr) :
    Consistent keys (m.dicoverMultiMultiaddrs keys addrs) :=
  List.foldlRecOn addrs _ holds fun _ holds' addr _ => holds'.discoverMultiaddr addr

theorem contains_insert_peer_of {pid : PeerId} (present : m.contains pid = true) (r : PeerRef) :
    (m.insertPeer r).contains pid = true := by
  unfold PeerManager.insertPeer
  split
  · exact present
  · obtain ⟨r', mem, same⟩ := (contains_iff m pid).mp present
    exact (contains_iff _ pid).mpr ⟨r', List.mem_append_left _ mem, same⟩

@[simp] theorem foldl_insert_peer_heap (refs : List PeerRef) (m : PeerManager) :
    (refs.foldl insertPeer m).heap = m.heap :=
  List.foldlRecOn refs _ (motive := fun m' : PeerManager => m'.heap = m.heap) rfl fun m' same r _ => by simpa using same

theorem contains_foldl_insert_peer_of {pid : PeerId} (present : m.contains pid = true) (refs : List PeerRef) :
    (refs.foldl insertPeer m).contains pid = true :=
  List.foldlRecOn refs _ (motive := fun m' : PeerManager => m'.contains pid = true) present
    fun _ present' r _ => contains_insert_peer_of present' r

theorem contains_foldl_insert_peer :
    ∀ (refs : List PeerRef) (m : PeerManager), ∀ r ∈ refs, (refs.foldl insertPeer m).contains (m.heap r).peer.id = true
  | [], _, _, absent => absurd absent List.not_mem_nil
  | r' :: rest, m, r, mem => by
    rw [List.foldl_cons]
    rcases List.mem_cons.mp mem with here | later
    · -- the id entered with the first object, and the book only grows
      subst here
      exact contains_foldl_insert_peer_of (contains_insert_peer_self m r) rest
    · simpa using contains_foldl_insert_peer rest (m.insertPeer r') r later

theorem Consistent.allocAll (holds : Consistent keys m) {peers : List Peer}
    (keyed : ∀ peer ∈ peers, peer.chain_addr = peer.pubkey.map keys.chainAddr) :
    Consistent keys (m.allocAll peers).2 ∧ ∀ r ∈ (m.allocAll peers).1, r < (m.allocAll peers).2.next :=
  List.foldlRecOn peers _
    (motive := fun acc : List PeerRef × PeerManager => Consistent keys acc.2 ∧ ∀ r ∈ acc.1, r < acc.2.next)
    ⟨holds, fun _ absent => absurd absent List.not_mem_nil⟩
    fun ⟨refs, m'⟩ ⟨holds', below⟩ peer mem => by
      refine ⟨holds'.alloc (keyed peer mem), fun r mem' => ?_⟩
      rcases List.mem_append.mp mem' with old | new
      · exact Nat.lt_succ_of_lt (below r old)
      · rw [List.mem_singleton.mp new]
        exact Nat.lt_succ_self _

theorem Consistent.restore (holds : Consistent keys m) {peers : List Peer}
    (keyed : ∀ peer ∈ peers, peer.chain_addr = peer.pubkey.map keys.chainAddr) : Consistent keys (m.restore peers) := by
  obtain ⟨allocated, below⟩ := holds.allocAll keyed
  unfold PeerManager.restore
  generalize m.allocAll peers = created at allocated below ⊢
  obtain ⟨refs, m₁⟩ := created
  dsimp only at allocated below ⊢
  -- the book takes the objects, then the index those with a chain address
  have booked : Consistent keys (refs.foldl PeerManager.insertPeer m₁) ∧ (refs.foldl PeerManager.insertPeer m₁).next = m₁.next :=
    List.foldlRecOn refs _ (motive := fun m' : PeerManager => Consistent keys m' ∧ m'.next = m₁.next)
      ⟨allocated, rfl⟩ fun m' ⟨holds', next⟩ r mem => ⟨holds'.insertPeer (next ▸ below r mem), by simpa using next⟩
  have contained := contains_foldl_insert_peer refs m₁
  have heap₂ := foldl_insert_peer_heap refs m₁
  generalize refs.foldl PeerManager.insertPeer m₁ = m₂ at booked contained heap₂ ⊢
  refine (List.foldlRecOn refs _ (motive := fun m' : PeerManager =>
      Consistent keys m' ∧ m'.heap = m₂.heap ∧ m'.next = m₂.next ∧ m'.inner.peers = m₂.inner.peers)
    ⟨booked.1, rfl, rfl, rfl⟩ fun m' ⟨holds', heap, next, peers⟩ r mem => ?_).1
  refine ⟨holds'.indexPeer (by rw [next, booked.2]; exact below r mem) ?_, by simpa using heap,
    by simpa using next, by simpa using peers⟩
  rw [contains_congr peers fun r' _ => by rw [heap], heap, heap₂]
  exact contained r mem

theorem Consistent.restorePeers (holds : Consistent keys m) (file : List SerdePeer) :
    Consistent keys (m.restorePeers keys file) :=
  holds.restore fun peer mem => (PeerDatFile.restore_of_file file peer mem).1.chain_addr

theorem framed_whitelist_never_expired_peers_by_chain_addr (m : PeerManager) (chain_addrs : List Address) :
    Framed m (m.whitelistNeverExpiredPeersByChainAddr chain_addrs) :=
  Framed.refl m

theorem consistent_new (config : PeerManagerConfig) {bootstraps : List Peer}
    (keyed : ∀ peer ∈ bootstraps, peer.chain_addr = peer.pubkey.map keys.chainAddr) :
    Consistent keys (new config bootstraps) := by
  unfold PeerManager.new
  refine Consistent.of_framed ?_ (framed_whitelist_never_expired_peers_by_chain_addr _ _)
  -- the book, the index and the sessions start empty
  refine ⟨fun r => ?_, by simp, by simp, by simp, by simp, by simp, by simp, fun r mem => ?_⟩
  · by_cases below : r < bootstraps.length
    · simpa [below] using keyed _ (List.getElem_mem below)
    · simp [below, ArcPeer.new, Peer.new]
  · exact List.mem_range.mp (List.mem_filter.mp mem).1

theorem Consistent.bootstrap (holds : Consistent keys m) : Consistent keys m.bootstrap := by
  unfold PeerManager.bootstrap
  dsimp only
  refine Consistent.of_framed ?_ (framed_connect_peers _ _)
  -- each bootstrap peer adds its multiaddrs to the book's object of its id, or enters the book
  refine (List.foldlRecOn (motive := fun m' : PeerManager => Consistent keys m' ∧ m'.next = m.next) _ _
    ⟨holds, rfl⟩ fun m' ⟨holds', next⟩ b mem => ?_).1
  split
  · exact ⟨holds'.modifyPeer (fun p => ArcPeer.ident_insert p _) _, next⟩
  · exact ⟨holds'.addPeer (next ▸ holds.bootstraps_allocated b mem), by simpa [PeerManager.addPeer] using next⟩

theorem consistent_start (config : PeerManagerConfig) {bootstraps : List Peer}
    (keyed : ∀ peer ∈ bootstraps, peer.chain_addr = peer.pubkey.map keys.chainAddr) (file : List SerdePeer) :
    Consistent keys (start keys config bootstraps file) := by
  unfold PeerManager.start
  have restored := (consistent_new config keyed).restorePeers file
  split
  · exact restored
  · exact restored.bootstrap

theorem Consistent.processEvent (holds : Consistent keys m) {event : PeerManagerEvent} {now : UInt64}
    {m' : PeerManager} (processed : m.processEvent keys event now = some m') : Consistent keys m' := by
  unfold PeerManager.processEvent at processed
  -- the session and discovery events change the book; every other one is framed
  cases event <;> (try simp only [Option.some.injEq] at processed) <;> (try subst processed)
  case ConnectPeersNow pids => exact holds.of_framed (framed_connect_peers m _)
  case ConnectFailed addr kind => exact holds.of_framed (framed_connect_failed keys m addr kind now)
  case NewSession pubkey ctx => exact holds.newSession pubkey ctx now
  case RepeatedConnection ty sid addr => exact holds.of_framed (framed_repeated_connection m ty sid addr)
  case SessionBlocked ctx => exact holds.of_framed (framed_session_blocked m ctx)
  case SessionClosed sid => exact holds.of_framed (framed_session_closed processed)
  case SessionFailed sid kind => exact holds.of_framed (framed_session_failed m sid kind now)
  case PeerAlive pid => exact holds.of_framed (framed_update_peer_alive m pid now)
  case Misbehave pid kind => exact holds.of_framed (framed_peer_misbehave m pid kind now)
  case WhitelistPeersByChainAddr chain_addrs => exact holds.of_framed (Framed.refl m)
  case DiscoverMultiAddrs addrs => exact holds.dicoverMultiMultiaddrs addrs
  case IdentifiedAddrs pid addrs => exact holds.of_framed (framed_identified_addrs m pid addrs)
  case AddNewListenAddr addr => exact holds.of_framed (Framed.refl m)
  case RemoveListenAddr addr => exact holds.of_framed (Framed.refl m)

theorem Consistent.step (holds : Consistent keys m) (input : Input) : Consistent keys (PeerManager.step keys input m) := by
  cases input with
  | event event now =>
    cases processed : m.processEvent keys event now with
    | none => simpa [PeerManager.step, processed] using holds
    | some m' => simpa [PeerManager.step, processed] using holds.processEvent processed
  | poll now choose_multiple => exact holds.of_framed (framed_routine m now choose_multiple)

theorem consistent_of_reachable {config : PeerManagerConfig} {bootstraps : List Peer}
    (keyed : ∀ peer ∈ bootstraps, peer.chain_addr = peer.pubkey.map keys.chainAddr) {file : List SerdePeer}
    (reached : Trace.Reachable (PeerManager.step keys) Input.Admissible (start keys config bootstraps file) m) :
    Consistent keys m :=
  reached.invariant (fun input _ _ holds => holds.step input) (consistent_start config keyed file)

end Consistent

end PeerManager

end Muta.Network
