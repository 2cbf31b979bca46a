import Muta.FixedCodec.Primitive
import Muta.Lib.Journal
import Muta.Lib.Trace

/-! `GeneralServiceState` and its trie, from `binding::state`.

A service's state reads in three layers: the cache of the calls of the running
transaction, the stash of the transactions before it, and the trie of the
committed blocks. `insert` writes the cache; `revert_cache` drops it, `stash`
drains it into the stash, and `commit` drains the stash into the trie and
returns the trie's root. The trie is taken to be a persistent finite map, as
`cita_trie`'s `PatriciaTrie` is: its contents are a map from byte keys to byte
values, its root is a function of them, and the database keeps the contents of
every committed root.

Seen from the keys, the state is a journal (`Journal`): the current map is what
`get` reads, and the checkpoint is the stash laid over the trie; `revert_cache`
rolls back, `stash` saves and `commit` changes neither (`Represents`). So every
key reads as its most recent insert that no `revert_cache` discarded.
-/

set_option autoImplicit false

namespace Muta.Framework

open FixedCodec

inductive StoreError where
  | GetNone
  | OutRange
  | DecodeError
  | Overflow
  deriving DecidableEq, Repr

/-- `ProtocolError` as the framework sees it: the errors of the codecs, of the
trie (`MPTTrieError`) and of the stores, each of kind `FixedCodec` or `Binding`. -/
inductive ProtocolError where
  | FixedCodec (error : FixedCodecError)
  | Trie
  | Store (error : StoreError)
  deriving DecidableEq, Repr

abbrev ProtocolResult (α : Type) := Except (Fail ProtocolError) α

def codec {α : Type} (result : Muta.ProtocolResult α) : ProtocolResult α :=
  Fail.mapFail ProtocolError.FixedCodec result

@[simp] theorem codec_ok {α : Type} (value : α) : codec (.ok value) = .ok value := rfl

/-! ### The trie -/

abbrev Contents := Bytes → Option Bytes

/-- `MPTTrie`: what the framework uses of `cita_trie`'s `PatriciaTrie` over its
node database, which lies outside this repository. A trie reads and writes byte
keys; `commit` writes its nodes and returns its root; `from` opens the trie the
database of a trie holds under a root. The framework is proved for every trie
with these laws, those of the persistent finite map the claims take it to be.
The crate removes a key written with an empty value, which these laws do not
provide for. -/
class MPTTrie (T : Type) where
  get : T → Bytes → Option Bytes
  insert : T → Bytes → Bytes → T
  commit : T → T × MerkleRoot
  «from» : T → MerkleRoot → Option T
  get_insert : ∀ trie key value, get (insert trie key value) = Function.update (get trie) key (some value)
  get_commit : ∀ trie, get (commit trie).1 = get trie
  from_commit : ∀ trie, «from» (commit trie).1 (commit trie).2 = some (commit trie).1

namespace MPTTrie

variable {T : Type} [MPTTrie T]

def contains (trie : T) (key : Bytes) : Bool := (get trie key).isSome

theorem get_foldl_insert (entries : List (Sigma fun _ : Bytes => Bytes)) (trie : T) :
    get (entries.foldl (fun trie entry => insert trie entry.1 entry.2) trie) =
      entries.foldl (fun (map : Contents) entry => Function.update map entry.1 (some entry.2)) (get trie) := by
  induction entries generalizing trie with
  | nil => rfl
  | cons entry rest ih => rw [List.foldl_cons, List.foldl_cons, ih, get_insert]

end MPTTrie

/-- A trie as the finite map the laws describe: its contents, the contents the
database holds under each committed root, and the root of given contents. -/
structure MapTrie where
  root : MerkleRoot
  contents : Contents
  db : MerkleRoot → Option Contents
  root_of : Contents → MerkleRoot

namespace MapTrie

def new (db : MerkleRoot → Option Contents) (root_of : Contents → MerkleRoot) : MapTrie :=
  ⟨root_of fun _ => none, fun _ => none, db, root_of⟩

instance : MPTTrie MapTrie where
  get trie := trie.contents
  insert trie key value := { trie with contents := Function.update trie.contents key (some value) }
  commit trie :=
    let root := trie.root_of trie.contents
    ({ trie with root, db := Function.update trie.db root (some trie.contents) }, root)
  «from» trie root := (trie.db root).map fun contents => { trie with root, contents }
  get_insert _ _ _ := rfl
  get_commit _ := rfl
  from_commit _ := by simp

end MapTrie

/-! ### The state -/

abbrev BytesMap := AList fun _ : Bytes => Bytes

structure GeneralServiceState (T : Type) where
  trie : T
  cache_map : BytesMap
  stash_map : BytesMap

namespace GeneralServiceState

variable {T : Type} [MPTTrie T]

def new (trie : T) : GeneralServiceState T := ⟨trie, ∅, ∅⟩

def get {Key Ret : Type} [FixedCodec Key] [FixedCodec Ret] (state : GeneralServiceState T)
    (key : Key) : ProtocolResult (Option Ret) := do
  let encoded_key ← codec (encode_fixed key)
  match state.cache_map.lookup encoded_key with
  | some value_bytes => return some (← codec (decode_fixed value_bytes))
  | none =>
    match state.stash_map.lookup encoded_key with
    | some value_bytes => return some (← codec (decode_fixed value_bytes))
    | none =>
      match MPTTrie.get state.trie encoded_key with
      | some value_bytes => return some (← codec (decode_fixed value_bytes))
      | none => return none

def contains {Key : Type} [FixedCodec Key] (state : GeneralServiceState T) (key : Key) :
    ProtocolResult Bool := do
  let encoded_key ← codec (encode_fixed key)
  if (state.cache_map.lookup encoded_key).isSome then return true
  if (state.stash_map.lookup encoded_key).isSome then return true
  return MPTTrie.contains state.trie encoded_key

/-- `insert`: into the cache, the key encoded before the value. -/
def insert {Key Value : Type} [FixedCodec Key] [FixedCodec Value] (state : GeneralServiceState T)
    (key : Key) (value : Value) : ProtocolResult (GeneralServiceState T) := do
  let encoded_key ← codec (encode_fixed key)
  let encoded_value ← codec (encode_fixed value)
  return { state with cache_map := state.cache_map.insert encoded_key encoded_value }

def getAddressKey {Key : Type} [FixedCodec Key] (digest : Bytes → Hash) (address : Address)
    (key : Key) : ProtocolResult Hash := do
  let encoded_key ← codec (encode_fixed key)
  return digest (address.asBytes ++ encoded_key)

def getAccountValue {Key Ret : Type} [FixedCodec Key] [FixedCodec Ret] (digest : Bytes → Hash)
    (state : GeneralServiceState T) (address : Address) (key : Key) : ProtocolResult (Option Ret) := do
  let hash_key ← getAddressKey digest address key
  state.get hash_key

def setAccountValue {Key Val : Type} [FixedCodec Key] [FixedCodec Val] (digest : Bytes → Hash)
    (state : GeneralServiceState T) (address : Address) (key : Key) (val : Val) :
    ProtocolResult (GeneralServiceState T) := do
  let hash_key ← getAddressKey digest address key
  state.insert hash_key val

def revertCache (state : GeneralServiceState T) : GeneralServiceState T :=
  { state with cache_map := ∅ }

def stash (state : GeneralServiceState T) : GeneralServiceState T :=
  { state with
    cache_map := ∅
    stash_map := state.cache_map.entries.foldl (fun stash entry => stash.insert entry.1 entry.2)
      state.stash_map }

def commit (state : GeneralServiceState T) : GeneralServiceState T × MerkleRoot :=
  let trie := state.stash_map.entries.foldl (fun trie entry => MPTTrie.insert trie entry.1 entry.2) state.trie
  let committed := MPTTrie.commit trie
  ({ state with trie := committed.1, stash_map := ∅ }, committed.2)

/-! ### What the state reads as -/

/-- The bytes `get` finds under an encoded key: the cache's, else the stash's,
else the trie's. -/
def view (state : GeneralServiceState T) (key : Bytes) : Option Bytes :=
  (state.cache_map.lookup key).or ((state.stash_map.lookup key).or (MPTTrie.get state.trie key))

/-- What the state falls back to when its cache is dropped: the stash laid over the trie. -/
def savedView (state : GeneralServiceState T) (key : Bytes) : Option Bytes :=
  (state.stash_map.lookup key).or (MPTTrie.get state.trie key)

theorem get_eq {Key Ret : Type} [FixedCodec Key] [FixedCodec Ret] (state : GeneralServiceState T)
    (key : Key) : (state.get key : ProtocolResult (Option Ret)) = do
      let encoded_key ← codec (encode_fixed key)
      match state.view encoded_key with
      | some value_bytes => return some (← codec (decode_fixed value_bytes))
      | none => return none := by
  unfold get view
  cases codec (encode_fixed key) with
  | error failure => rfl
  | ok encoded_key =>
    simp only [except_ok_bind]
    -- one case per layer that holds the key first
    cases state.cache_map.lookup encoded_key with
    | some _ => rfl
    | none =>
      cases state.stash_map.lookup encoded_key with
      | some _ => rfl
      | none => simp only [Option.none_or]

theorem contains_eq {Key : Type} [FixedCodec Key] (state : GeneralServiceState T) (key : Key) :
    state.contains key = do
      let encoded_key ← codec (encode_fixed key)
      return (state.view encoded_key).isSome := by
  unfold contains view
  cases codec (encode_fixed key) with
  | error failure => rfl
  | ok encoded_key =>
    simp only [except_ok_bind]
    cases state.cache_map.lookup encoded_key with
    | some _ => rfl
    | none =>
      cases state.stash_map.lookup encoded_key with
      | some _ => rfl
      | none => simp [MPTTrie.contains]

theorem get_congr {Key Ret : Type} [FixedCodec Key] [FixedCodec Ret] {state other : GeneralServiceState T}
    (same : state.view = other.view) (key : Key) :
    (state.get key : ProtocolResult (Option Ret)) = other.get key ∧
      state.contains key = other.contains key := by
  rw [get_eq, get_eq, contains_eq, contains_eq, same]
  exact ⟨rfl, rfl⟩

omit [MPTTrie T] in
theorem insert_eq_ok {Key Value : Type} [FixedCodec Key] [FixedCodec Value]
    (state : GeneralServiceState T) {key : Key} {value : Value} {encoded_key encoded_value : Bytes}
    (key_ok : encode_fixed key = .ok encoded_key) (value_ok : encode_fixed value = .ok encoded_value) :
    state.insert key value =
      .ok { state with cache_map := state.cache_map.insert encoded_key encoded_value } := by
  simp [insert, key_ok, value_ok]

omit [MPTTrie T] in
theorem insert_of_key_error {Key Value : Type} [FixedCodec Key] [FixedCodec Value]
    (state : GeneralServiceState T) {key : Key} {failure : Fail FixedCodecError} (value : Value)
    (key_fails : encode_fixed key = .error failure) :
    state.insert key value = .error (Fail.mapError ProtocolError.FixedCodec failure) := by
  simp only [insert, key_fails]
  rfl

omit [MPTTrie T] in
theorem insert_of_value_error {Key Value : Type} [FixedCodec Key] [FixedCodec Value]
    (state : GeneralServiceState T) {key : Key} {value : Value} {encoded_key : Bytes}
    {failure : Fail FixedCodecError} (key_ok : encode_fixed key = .ok encoded_key)
    (value_fails : encode_fixed value = .error failure) :
    state.insert key value = .error (Fail.mapError ProtocolError.FixedCodec failure) := by
  simp only [insert, key_ok, value_fails, codec_ok, except_ok_bind]
  rfl

theorem view_write (state : GeneralServiceState T) (key value : Bytes) :
    view { state with cache_map := state.cache_map.insert key value } =
      Function.update state.view key (some value) := by
  funext other
  by_cases same : other = key
  · subst same
    simp [view]
  · simp [view, same, AList.lookup_insert_ne same]

theorem saved_view_write (state : GeneralServiceState T) (key value : Bytes) :
    savedView { state with cache_map := state.cache_map.insert key value } = state.savedView :=
  rfl

theorem view_revert_cache (state : GeneralServiceState T) : state.revertCache.view = state.savedView := by
  funext key
  simp [view, savedView, revertCache]

theorem saved_view_revert_cache (state : GeneralServiceState T) :
    state.revertCache.savedView = state.savedView :=
  rfl

theorem view_stash (state : GeneralServiceState T) : state.stash.view = state.view := by
  funext key
  simp only [view, stash, AList.lookup_empty, Option.none_or]
  rw [lookup_foldl_insert state.cache_map.nodupKeys, ← AList.lookup]
  cases state.cache_map.lookup key <;> simp

theorem saved_view_stash (state : GeneralServiceState T) : state.stash.savedView = state.view := by
  rw [← view_stash]
  funext key
  simp [view, savedView, stash]

theorem commit_contents (state : GeneralServiceState T) (key : Bytes) :
    MPTTrie.get state.commit.1.trie key = state.savedView key := by
  simp only [commit, MPTTrie.get_commit, MPTTrie.get_foldl_insert]
  rw [foldl_update state.stash_map.nodupKeys, ← AList.lookup]
  rfl

theorem view_commit (state : GeneralServiceState T) : state.commit.1.view = state.view := by
  funext key
  have contents := commit_contents state key
  simp only [commit] at contents
  simp [view, savedView, commit, contents]

theorem saved_view_commit (state : GeneralServiceState T) :
    state.commit.1.savedView = state.savedView := by
  funext key
  have contents := commit_contents state key
  simp only [commit] at contents
  simp [savedView, commit, contents]

/-! ### Runs of calls -/

/-- A call that changes the state; an insert is given by the encodings of its
key and value (`insert_eq_ok`). -/
inductive Call where
  | insert (key value : Bytes)
  | revertCache
  | stash
  | commit
  deriving DecidableEq, Repr

def Call.step : Call → GeneralServiceState T → GeneralServiceState T
  | .insert key value, state => { state with cache_map := state.cache_map.insert key value }
  | .revertCache, state => state.revertCache
  | .stash, state => state.stash
  | .commit, state => state.commit.1

@[simp] theorem Call.view_insert (key value : Bytes) (state : GeneralServiceState T) :
    ((Call.insert key value).step state).view = Function.update state.view key (some value) :=
  view_write state key value

def Call.journal : Call → Journal Bytes Bytes → Journal Bytes Bytes
  | .insert key value, journal => journal.write key value
  | .revertCache, journal => journal.rollback
  | .stash, journal => journal.save
  | .commit, journal => journal

def Call.history : Call → History Bytes Bytes → History Bytes Bytes
  | .insert key value, history => history.write key value
  | .revertCache, history => history.rollback
  | .stash, history => history.save
  | .commit, history => history

/-- The state reads as the journal's current map, and falls back to its checkpoint. -/
def Represents (state : GeneralServiceState T) (journal : Journal Bytes Bytes) : Prop :=
  state.view = journal.current ∧ state.savedView = journal.saved

theorem Call.step_represents (call : Call) {state : GeneralServiceState T}
    {journal : Journal Bytes Bytes} (represents : Represents state journal) :
    Represents (call.step state) (call.journal journal) := by
  obtain ⟨current, saved⟩ := represents
  cases call with
  | insert key value =>
    exact ⟨by rw [step, view_write, current]; rfl, by rw [step, saved_view_write, saved]; rfl⟩
  | revertCache =>
    exact ⟨by rw [step, view_revert_cache, saved]; rfl, by rw [step, saved_view_revert_cache, saved]; rfl⟩
  | stash => exact ⟨by rw [step, view_stash, current]; rfl, by rw [step, saved_view_stash, current]; rfl⟩
  | commit => exact ⟨by rw [step, view_commit, current]; rfl, by rw [step, saved_view_commit, saved]; rfl⟩

theorem Call.step_tracks (call : Call) {base : Contents} {journal : Journal Bytes Bytes}
    {history : History Bytes Bytes} (tracks : Tracks base journal history) :
    Tracks base (call.journal journal) (call.history history) := by
  cases call with
  | insert key value => exact tracks.write key value
  | revertCache => exact tracks.rollback
  | stash => exact tracks.save
  | commit => exact tracks

theorem represents_new (trie : T) : Represents (new trie) (Journal.start (MPTTrie.get trie)) := by
  constructor <;> funext key <;> simp [view, savedView, new, Journal.start]

/-- From a new state, every encoded key reads as its most recent insert that no
`revert_cache` discarded, and as the trie where it has none. -/
theorem view_run (trie : T) (calls : List Call) (key : Bytes) :
    (Trace.run Call.step calls (new trie)).view key =
      (lastWrite (Trace.run Call.history calls History.empty).survivors key).or (MPTTrie.get trie key) := by
  -- the state refines the journal, which tracks the history, along the whole run
  have represents := Trace.run_simulation Call.step Call.journal (fun _ => True) Represents
    (fun call _ _ _ represents => call.step_represents represents) calls (fun _ _ => trivial)
    (new trie) (Journal.start (MPTTrie.get trie)) (represents_new trie)
  have tracks := Trace.run_simulation Call.journal Call.history (fun _ => True) (Tracks (MPTTrie.get trie))
    (fun call _ _ _ tracks => call.step_tracks tracks) calls (fun _ _ => trivial)
    (Journal.start (MPTTrie.get trie)) History.empty (Tracks.start (MPTTrie.get trie))
  rw [represents.1, tracks.current_eq]

/-! ### Runs of a service's operations -/

/-- An operation of a service on its state: an insert with a key and a value of
their own types, or one of the operations on the layers. -/
inductive Op : Type 1 where
  | insert {Key Value : Type} [FixedCodec Key] [FixedCodec Value] (key : Key) (value : Value)
  | revertCache
  | stash
  | commit

/-- The state an operation leaves: an insert whose key or value does not encode
returns the error and writes nothing. -/
def Op.step : Op → GeneralServiceState T → GeneralServiceState T
  | @Op.insert _ _ _ _ key value, state =>
    match state.insert key value with
    | .ok written => written
    | .error _ => state
  | .revertCache, state => state.revertCache
  | .stash, state => state.stash
  | .commit, state => state.commit.1

def Op.call : Op → Option Call
  | @Op.insert _ _ _ _ key value =>
    match encode_fixed key, encode_fixed value with
    | .ok encoded_key, .ok encoded_value => some (.insert encoded_key encoded_value)
    | _, _ => none
  | .revertCache => some .revertCache
  | .stash => some .stash
  | .commit => some .commit

theorem Op.step_eq (op : Op) (state : GeneralServiceState T) :
    op.step state = (op.call.map fun call => call.step state).getD state := by
  cases op with
  | insert key value =>
    simp only [step, call]
    -- the insert fails exactly where one of the encodings does
    cases key_ok : encode_fixed key with
    | error failure => simp [insert_of_key_error state value key_ok]
    | ok encoded_key =>
      cases value_ok : encode_fixed value with
      | error failure => simp [insert_of_value_error state key_ok value_ok]
      | ok encoded_value => simp [insert_eq_ok state key_ok value_ok, Call.step]
  | revertCache => rfl
  | stash => rfl
  | commit => rfl

theorem Op.run_eq (ops : List Op) (state : GeneralServiceState T) :
    Trace.run Op.step ops state = Trace.run Call.step (ops.filterMap Op.call) state := by
  induction ops generalizing state with
  | nil => rfl
  | cons op rest ih =>
    rw [Trace.run_cons, ih, Op.step_eq]
    cases made : op.call with
    | none => simp [made]
    | some call => simp [made]

theorem get_eq_of_view {Key Ret : Type} [FixedCodec Key] [FixedCodec Ret]
    {state other : GeneralServiceState T} {key : Key} {encoded_key : Bytes}
    (encodes : encode_fixed key = .ok encoded_key) (same : state.view encoded_key = other.view encoded_key) :
    (state.get key : ProtocolResult (Option Ret)) = other.get key := by
  rw [get_eq, get_eq, encodes]
  simp only [codec_ok, except_ok_bind, same]

theorem from_commit (state : GeneralServiceState T) :
    MPTTrie.from state.commit.1.trie state.commit.2 = some state.commit.1.trie :=
  MPTTrie.from_commit _

theorem view_new_commit (state : GeneralServiceState T) :
    (new state.commit.1.trie).view = state.commit.1.savedView := by
  funext key
  simp [view, savedView, new, commit]

theorem general_service_state_journal :
    (∀ (trie : T) (ops : List Op) {Key Ret : Type} [FixedCodec Key] [FixedCodec Ret] (key : Key),
      ((Trace.run Op.step ops (new trie)).get key : ProtocolResult (Option Ret)) = do
        let encoded_key ← codec (encode_fixed key)
        match (lastWrite (Trace.run Call.history (ops.filterMap Op.call) History.empty).survivors
            encoded_key).or (MPTTrie.get trie encoded_key) with
        | some value_bytes => return some (← codec (decode_fixed value_bytes))
        | none => return none) ∧
    (∀ (state : GeneralServiceState T) {Key Ret : Type} [FixedCodec Key] [FixedCodec Ret] (key : Key),
      (state.stash.get key : ProtocolResult (Option Ret)) = state.get key ∧
        state.stash.contains key = state.contains key ∧
        (state.commit.1.get key : ProtocolResult (Option Ret)) = state.get key ∧
        state.commit.1.contains key = state.contains key) ∧
    (∀ state : GeneralServiceState T, ∃ trie,
      MPTTrie.from state.commit.1.trie state.commit.2 = some trie ∧
      ∀ {Key Ret : Type} [FixedCodec Key] [FixedCodec Ret] (key : Key) (encoded_key : Bytes),
        encode_fixed key = .ok encoded_key → state.commit.1.cache_map.lookup encoded_key = none →
        ((new trie).get key : ProtocolResult (Option Ret)) = state.commit.1.get key) := by
  refine ⟨fun trie ops Key Ret _ _ key => ?_, fun state Key Ret _ _ key => ?_,
    fun state => ⟨_, from_commit state, fun key encoded_key encodes uncached => ?_⟩⟩
  · -- the run of operations is that of their writes, whose view is read key by key
    have reads := view_run trie (ops.filterMap Op.call)
    rw [Op.run_eq, get_eq]
    simp only [reads]
  · obtain ⟨stash_get, stash_contains⟩ := @get_congr _ _ Key Ret _ _ _ _ (view_stash state) key
    obtain ⟨commit_get, commit_contains⟩ := @get_congr _ _ Key Ret _ _ _ _ (view_commit state) key
    exact ⟨stash_get, stash_contains, commit_get, commit_contains⟩
  · -- under a key the cache does not hold, the committed state reads its stash and trie
    refine get_eq_of_view encodes ?_
    rw [view_new_commit]
    simp [view, savedView, uncached]

end GeneralServiceState

/-! ### The state in a cell

The stores and the services hold the state in an `Rc<RefCell<_>>` and change it
in place: a call that fails keeps what it wrote before it failed. -/

abbrev WithState (T α : Type) := EStateM (Fail ProtocolError) (GeneralServiceState T) α

namespace WithState

variable {T : Type}

def lift {α : Type} (result : ProtocolResult α) : WithState T α := fun state =>
  match result with
  | .ok value => .ok value state
  | .error failure => .error failure state

def get [MPTTrie T] {Key Ret : Type} [FixedCodec Key] [FixedCodec Ret] (key : Key) : WithState T (Option Ret) :=
  fun state => lift (state.get key) state

def insert {Key Value : Type} [FixedCodec Key] [FixedCodec Value] (key : Key) (value : Value) :
    WithState T Unit := fun state =>
  match state.insert key value with
  | .ok written => .ok () written
  | .error failure => .error failure state

/-- `.unwrap_or_else(|e| panic!("{message}: {}", e))` and `.expect(message)`: an
error becomes a panic, with what the call wrote kept. -/
def expect {α : Type} (message : String) (call : WithState T α) : WithState T α := fun state =>
  match call state with
  | .ok value state => .ok value state
  | .error (.error _) state => .error (.panic message) state
  | .error (.panic inner) state => .error (.panic inner) state

@[simp] theorem lift_ok {α : Type} (value : α) (state : GeneralServiceState T) :
    lift (.ok value) state = .ok value state := rfl

@[simp] theorem lift_error {α : Type} (failure : Fail ProtocolError) (state : GeneralServiceState T) :
    (lift (.error failure) state : EStateM.Result (Fail ProtocolError) (GeneralServiceState T) α) =
      .error failure state := rfl

theorem insert_ok [MPTTrie T] {Key Value : Type} [FixedCodec Key] [FixedCodec Value] {key : Key}
    {value : Value} {encoded_key encoded_value : Bytes} (key_ok : encode_fixed key = .ok encoded_key)
    (value_ok : encode_fixed value = .ok encoded_value) (state : GeneralServiceState T) :
    insert key value state =
      .ok () ((GeneralServiceState.Call.insert encoded_key encoded_value).step state) := by
  simp [insert, GeneralServiceState.insert_eq_ok state key_ok value_ok,
    GeneralServiceState.Call.step]

@[simp] theorem lift_ok_bind {α β : Type} (value : α) (next : α → WithState T β)
    (state : GeneralServiceState T) : (lift (.ok value) >>= next) state = next value state := rfl

@[simp] theorem lift_error_bind {α β : Type} (failure : Fail ProtocolError) (next : α → WithState T β)
    (state : GeneralServiceState T) : (lift (.error failure) >>= next) state = .error failure state :=
  rfl

theorem bind_of_ok {α β : Type} {call : WithState T α} {next : α → WithState T β}
    {state written : GeneralServiceState T} {value : α} (returns : call state = .ok value written) :
    (call >>= next) state = next value written := by
  show EStateM.bind _ _ _ = _
  simp [EStateM.bind, returns]

@[simp] theorem pure_run {α : Type} (value : α) (state : GeneralServiceState T) :
    (pure value : WithState T α) state = .ok value state := rfl

theorem insert_bind [MPTTrie T] {Key Value β : Type} [FixedCodec Key] [FixedCodec Value] {key : Key}
    {value : Value} {encoded_key encoded_value : Bytes} (key_ok : encode_fixed key = .ok encoded_key)
    (value_ok : encode_fixed value = .ok encoded_value) (next : Unit → WithState T β)
    (state : GeneralServiceState T) :
    (insert key value >>= next) state =
      next () ((GeneralServiceState.Call.insert encoded_key encoded_value).step state) := by
  show EStateM.bind _ _ _ = _
  simp [EStateM.bind, insert_ok key_ok value_ok]

@[simp] theorem expect_ok {α : Type} (message : String) {call : WithState T α} {value : α}
    {state written : GeneralServiceState T} (returns : call state = .ok value written) :
    expect message call state = .ok value written := by
  simp [expect, returns]

theorem map_of_ok {α β : Type} {f : α → β} {call : WithState T α} {state written : GeneralServiceState T}
    {value : α} (returns : call state = .ok value written) :
    (f <$> call) state = .ok (f value) written := by
  show EStateM.map _ _ _ = _
  simp [EStateM.map, returns]

theorem mapM_ok {α β : Type} {f : α → WithState T β} {state : GeneralServiceState T} {items : List α}
    {results : List β} (returns : List.Forall₂ (fun item result => f item state = .ok result state)
      items results) :
    items.mapM f state = .ok results state := by
  induction returns with
  | nil => rfl
  | cons first _ ih =>
    rw [List.mapM_cons, bind_of_ok first, bind_of_ok ih]
    rfl

end WithState

end Muta.Framework
