import Muta.Framework.Store.Map

/-! The maps of a service refine insertion-ordered maps.

A service opens its maps by name over one state, and every call of the service
opens them again with `new`. Each name stands for an `OrderedMap`: along any run
of inserts, removals, reopenings and writes of the state by anything else, each
handle and the state hold the ordered map of its name (`Stores`), so that `get`,
`contains`, `len` and `iter` answer as the ordered map does.

Three assumptions carry it. Keys and values read back what they write
(`Inverse`). The digest has no collision among the slots of the run's names and
keys (`CollisionFree`): a 32-byte digest is injective on no infinite set, so this
is said of the slots a run uses. And the keys are fewer than 2^32 (`ShortKeys`):
`len` is the length `as u32`, and without the bound it wraps
(`store_map_len_wraps`). The key list is written as one `Vec<u8>`, so its
encoding has a machine length, which is all its reading back needs.
-/

set_option autoImplicit false

namespace Muta.Framework

open FixedCodec

namespace DefaultStoreMap

variable {K V : Type} [FixedCodec K] [DecidableEq K] [FixedCodec V] (digest : Bytes → Hash)

/-! ### Slots -/

def varSlot (name : String) : Hash := digest (Rlp.utf8 (name ++ "map"))

def valueSlot (name : String) (key : K) : ProtocolResult Hash := do
  let encoded ← codec (encode_fixed key)
  pure (digest ((varSlot digest name).asBytes ++ encoded))

omit [DecidableEq K] [FixedCodec V] in
theorem get_map_key_of_named {map : DefaultStoreMap K V} {name : String}
    (named : map.var_name = varSlot digest name) (key : K) :
    map.getMapKey digest key = valueSlot digest name key := by
  unfold getMapKey valueSlot
  rw [named]

omit [DecidableEq K] in
theorem value_slot_ok (inverse_key : Inverse K) (name : String) (key : K) :
    ∃ slot, valueSlot digest name key = .ok slot := by
  obtain ⟨encoded, encodes, -⟩ := inverse_key key
  refine ⟨digest ((varSlot digest name).asBytes ++ encoded), ?_⟩
  simp [valueSlot, encodes]

/-- The key list the state holds under a slot, as `new` reads it: bytes that
decode as the list, or nothing for no keys. -/
def ListedAt (view : Bytes → Option Bytes) (slot : Hash) (keys : List K) : Prop :=
  match view (stateKey slot) with
  | some bytes => decode_fixed bytes = .ok (⟨keys⟩ : FixedKeys K)
  | none => keys = []

def HoldsAt {α : Type} [FixedCodec α] (view : Bytes → Option Bytes) (slot : Hash) (value : α) :
    Prop :=
  ∃ bytes, view (stateKey slot) = some bytes ∧ decode_fixed bytes = .ok value

/-- The handle of the map named `name` and the state's `view` hold `model`: the
handle has the model's keys in their order, the name slot lists them, and each
key's slot holds its value. -/
structure Stores (name : String) (map : DefaultStoreMap K V) (model : OrderedMap K V)
    (view : Bytes → Option Bytes) : Prop where
  named : map.var_name = varSlot digest name
  keys_eq : map.keys.inner = model.keys
  listed : ListedAt view (varSlot digest name) model.keys
  held : ∀ key value, model.get key = some value →
    ∃ slot, valueSlot digest name key = .ok slot ∧ HoldsAt view slot value

def Occupies (name : String) (model : OrderedMap K V) (slot : Hash) : Prop :=
  slot = varSlot digest name ∨ ∃ key ∈ model.keys, valueSlot digest name key = .ok slot

section Frame

variable {digest} {name : String} {map : DefaultStoreMap K V} {model : OrderedMap K V}
  {view : Bytes → Option Bytes}

theorem Stores.frame (stores : Stores digest name map model view) {view' : Bytes → Option Bytes}
    (same : ∀ slot, Occupies digest name model slot → view' (stateKey slot) = view (stateKey slot)) :
    Stores digest name map model view' := by
  constructor
  · exact stores.named
  · exact stores.keys_eq
  · unfold ListedAt
    rw [same _ (Or.inl rfl)]
    exact stores.listed
  · intro key value found
    obtain ⟨slot, slot_ok, bytes, held, decodes⟩ := stores.held key value found
    have present : key ∈ model.keys := OrderedMap.mem_keys_iff.mpr ⟨value, found⟩
    exact ⟨slot, slot_ok, bytes, by rw [same _ (Or.inr ⟨key, present, slot_ok⟩), held], decodes⟩

theorem Stores.write_apart (stores : Stores digest name map model view) {written : Bytes}
    (apart : ∀ slot, Occupies digest name model slot → stateKey slot ≠ written) (bytes : Bytes) :
    Stores digest name map model (Function.update view written (some bytes)) :=
  stores.frame fun slot occupied => Function.update_of_ne (apart slot occupied) _ _

theorem Stores.reopen (stores : Stores digest name map model view) :
    Stores digest name ⟨varSlot digest name, ⟨model.keys⟩⟩ model view :=
  ⟨rfl, rfl, stores.listed, stores.held⟩

end Frame

/-! ### Collision freedom and short keys -/

/-- `digest` has no collision among the slots of the maps named `names` with
keys from `keys`: the name slots are distinct, the value slots are distinct, and
no value slot is a name slot. -/
structure CollisionFree (names : List String) (keys : List K) : Prop where
  var_injective : ∀ a ∈ names, ∀ b ∈ names, varSlot digest a = varSlot digest b → a = b
  value_injective : ∀ a ∈ names, ∀ b ∈ names, ∀ k ∈ keys, ∀ j ∈ keys,
    valueSlot digest a k = valueSlot digest b j → a = b ∧ k = j
  value_not_var : ∀ a ∈ names, ∀ b ∈ names, ∀ k ∈ keys,
    valueSlot digest a k ≠ .ok (varSlot digest b)

/-- The keys are fewer than 2^32, and every list of them the map writes is a
byte vector of a machine length, as every `Vec<u8>` is. -/
structure ShortKeys (keys : List K) : Prop where
  few : keys.length < 2 ^ 32
  fits : ∀ listed : List K, listed.Nodup → listed ⊆ keys → ∀ bytes,
    encode_fixed (⟨listed⟩ : FixedKeys K) = .ok bytes → bytes.length < 2 ^ 64

section Distinct

variable {digest} {names : List String} {keys : List K} (distinct : CollisionFree digest names keys)
include distinct

omit [DecidableEq K] in
theorem CollisionFree.var_ne_var {a b : String} (a_mem : a ∈ names) (b_mem : b ∈ names)
    (differ : a ≠ b) : stateKey (varSlot digest a) ≠ stateKey (varSlot digest b) :=
  fun same => differ (distinct.var_injective a a_mem b b_mem (state_key_injective same))

omit [DecidableEq K] in
theorem CollisionFree.value_ne_var {a b : String} {k : K} {slot : Hash} (a_mem : a ∈ names)
    (b_mem : b ∈ names) (k_mem : k ∈ keys) (slot_ok : valueSlot digest a k = .ok slot) :
    stateKey slot ≠ stateKey (varSlot digest b) := by
  intro same
  apply distinct.value_not_var a a_mem b b_mem k k_mem
  rw [slot_ok, state_key_injective same]

omit [DecidableEq K] in
theorem CollisionFree.value_ne_value {a b : String} {k j : K} {slot other : Hash}
    (a_mem : a ∈ names) (b_mem : b ∈ names) (k_mem : k ∈ keys) (j_mem : j ∈ keys)
    (slot_ok : valueSlot digest a k = .ok slot) (other_ok : valueSlot digest b j = .ok other)
    (differ : a ≠ b ∨ k ≠ j) : stateKey slot ≠ stateKey other := by
  intro same
  rw [state_key_injective same] at slot_ok
  obtain ⟨same_name, same_key⟩ :=
    distinct.value_injective a a_mem b b_mem k k_mem j j_mem (slot_ok.trans other_ok.symm)
  rcases differ with differ | differ
  · exact differ same_name
  · exact differ same_key

omit [DecidableEq K] [FixedCodec V] in
theorem CollisionFree.apart_var {other name : String} {model : OrderedMap K V}
    (other_mem : other ∈ names) (name_mem : name ∈ names) (differ : other ≠ name)
    (drawn : model.keys ⊆ keys) :
    ∀ slot, Occupies digest other model slot → stateKey slot ≠ stateKey (varSlot digest name) := by
  rintro slot (rfl | ⟨key, member, slot_ok⟩)
  · exact distinct.var_ne_var other_mem name_mem differ
  · exact distinct.value_ne_var other_mem name_mem (drawn member) slot_ok

omit [DecidableEq K] [FixedCodec V] in
theorem CollisionFree.apart_value {other name : String} {model : OrderedMap K V} {key : K}
    {written : Hash} (other_mem : other ∈ names) (name_mem : name ∈ names) (key_mem : key ∈ keys)
    (drawn : model.keys ⊆ keys) (written_ok : valueSlot digest name key = .ok written)
    (differ : other ≠ name ∨ key ∉ model.keys) :
    ∀ slot, Occupies digest other model slot → stateKey slot ≠ stateKey written := by
  rintro slot (rfl | ⟨j, member, slot_ok⟩)
  · exact (distinct.value_ne_var name_mem other_mem key_mem written_ok).symm
  · apply distinct.value_ne_value other_mem name_mem (drawn member) key_mem slot_ok written_ok
    rcases differ with differ | absent
    · exact Or.inl differ
    · exact Or.inr fun same => absent (same ▸ member)

end Distinct

omit [DecidableEq K] [FixedCodec V] in
theorem ShortKeys.listed {keys : List K} (short : ShortKeys keys) (inverse_key : Inverse K)
    {listed : List K} (nodup : listed.Nodup) (drawn : listed ⊆ keys) :
    ∃ bytes, encode_fixed (⟨listed⟩ : FixedKeys K) = .ok bytes ∧
      (decode_fixed bytes : Muta.ProtocolResult (FixedKeys K)) = .ok ⟨listed⟩ := by
  obtain ⟨bytes, writes⟩ := FixedKeys.encode_fixed_ok inverse_key listed
  exact ⟨bytes, writes,
    FixedKeys.decode_encode_fixed inverse_key writes (short.fits listed nodup drawn bytes writes)⟩

omit [DecidableEq K] in
theorem short_hashes {keys : List Hash} (few : keys.length < 2 ^ 32) : ShortKeys keys := by
  refine ⟨few, fun listed nodup drawn bytes writes => ?_⟩
  have listed_few : listed.length < 2 ^ 32 :=
    lt_of_le_of_lt (List.Nodup.subperm nodup drawn).length_le few
  refine FixedKeys.length_encode_fixed_lt hash_inverse listed_few (fun key _ bytes encodes => ?_) writes
  rw [Hash.encode_fixed_eq] at encodes
  cases encodes
  simp

/-! ### One map's calls -/

section Steps

variable {digest} {names : List String} {keys : List K} (distinct : CollisionFree digest names keys)
  {name : String} {map : DefaultStoreMap K V} {model : OrderedMap K V} {view : Bytes → Option Bytes}
include distinct

theorem Stores.insert_present (stores : Stores digest name map model view)
    (drawn : model.keys ⊆ keys) (name_mem : name ∈ names) {key : K} (present : key ∈ model.keys)
    {slot : Hash} (slot_ok : valueSlot digest name key = .ok slot) {value : V} {encoded : Bytes}
    (decodes : decode_fixed encoded = .ok value) :
    Stores digest name map (model.insert key value)
      (Function.update view (stateKey slot) (some encoded)) := by
  have key_mem := drawn present
  have keys_same : (model.insert key value).keys = model.keys := by
    rw [OrderedMap.keys_insert, if_pos present]
  constructor
  · exact stores.named
  · rw [keys_same]
    exact stores.keys_eq
  · -- the name slot is not the key's slot
    unfold ListedAt
    rw [Function.update_of_ne (distinct.value_ne_var name_mem name_mem key_mem slot_ok).symm,
      keys_same]
    exact stores.listed
  · intro other found_value found
    rw [OrderedMap.get_insert] at found
    by_cases same : other = key
    · rw [if_pos same] at found
      cases found
      subst same
      exact ⟨slot, slot_ok, encoded, Function.update_self _ _ _, decodes⟩
    · rw [if_neg same] at found
      obtain ⟨other_slot, other_ok, bytes, held, other_decodes⟩ := stores.held other found_value found
      have other_mem := drawn (OrderedMap.mem_keys_iff.mpr ⟨found_value, found⟩)
      refine ⟨other_slot, other_ok, bytes, ?_, other_decodes⟩
      rw [Function.update_of_ne
        (distinct.value_ne_value name_mem name_mem other_mem key_mem other_ok slot_ok (Or.inr same))]
      exact held

theorem Stores.relist (stores : Stores digest name map model view) (drawn : model.keys ⊆ keys)
    (name_mem : name ∈ names) {key : K} (key_mem : key ∈ keys) {slot : Hash}
    (slot_ok : valueSlot digest name key = .ok slot) {model' : OrderedMap K V}
    {keys_bytes slot_bytes : Bytes}
    (listed : decode_fixed keys_bytes = .ok (⟨model'.keys⟩ : FixedKeys K))
    (others : ∀ other value, other ≠ key → model'.get other = some value → model.get other = some value)
    (own : ∀ value, model'.get key = some value → decode_fixed slot_bytes = .ok value) :
    Stores digest name ⟨varSlot digest name, ⟨model'.keys⟩⟩ model'
      (Function.update (Function.update view (stateKey (varSlot digest name)) (some keys_bytes))
        (stateKey slot) (some slot_bytes)) := by
  constructor
  · rfl
  · rfl
  · unfold ListedAt
    rw [Function.update_of_ne (distinct.value_ne_var name_mem name_mem key_mem slot_ok).symm,
      Function.update_self]
    exact listed
  · intro other value found
    by_cases same : other = key
    · subst same
      exact ⟨slot, slot_ok, slot_bytes, Function.update_self _ _ _, own value found⟩
    · -- another key's slot is neither of the two written
      have old := others other value same found
      obtain ⟨other_slot, other_ok, bytes, held, decodes⟩ := stores.held other value old
      have other_mem := drawn (OrderedMap.mem_keys_iff.mpr ⟨value, old⟩)
      refine ⟨other_slot, other_ok, bytes, ?_, decodes⟩
      rw [Function.update_of_ne
          (distinct.value_ne_value name_mem name_mem other_mem key_mem other_ok slot_ok (Or.inr same)),
        Function.update_of_ne (distinct.value_ne_var name_mem name_mem other_mem other_ok)]
      exact held

end Steps

end DefaultStoreMap

/-! ### The maps of a service -/

structure StoreMaps (K V T : Type) where
  state : GeneralServiceState T
  handles : String → DefaultStoreMap K V

inductive MapCall (K V : Type) where
  | insert (name : String) (key : K) (value : V)
  | remove (name : String) (key : K)
  | reopen (name : String)
  | other (call : GeneralServiceState.Call)

namespace StoreMaps

variable {K V : Type} [FixedCodec K] [DecidableEq K] [FixedCodec V] (digest : Bytes → Hash)
variable {T : Type} [MPTTrie T]

def start (trie : T) : StoreMaps K V T :=
  ⟨GeneralServiceState.new trie, fun name => ⟨DefaultStoreMap.varSlot digest name, ⟨[]⟩⟩⟩

omit [FixedCodec K] [DecidableEq K] [FixedCodec V] [MPTTrie T] in
theorem start_keys (trie : T) (name : String) :
    ((start digest trie : StoreMaps K V T).handles name).keys.inner = [] := rfl

omit [FixedCodec K] [DecidableEq K] [FixedCodec V] in
def replace (maps : StoreMaps K V T) (name : String)
    (result : EStateM.Result (Fail ProtocolError) (GeneralServiceState T) (DefaultStoreMap K V)) :
    StoreMaps K V T :=
  match result with
  | .ok handle state => ⟨state, Function.update maps.handles name handle⟩
  | .error _ state => { maps with state }

end StoreMaps

namespace MapCall

variable {K V : Type} [FixedCodec K] [DecidableEq K] [FixedCodec V] (digest : Bytes → Hash)
variable {T : Type} [MPTTrie T]

open DefaultStoreMap

def step : MapCall K V → StoreMaps K V T → StoreMaps K V T
  | .insert name key value, maps =>
    maps.replace name ((maps.handles name).insert digest key value maps.state)
  | .remove name key, maps =>
    maps.replace name ((Prod.fst <$> (maps.handles name).remove digest key) maps.state)
  | .reopen name, maps => maps.replace name (new digest name maps.state)
  | .other call, maps => { maps with state := call.step maps.state }

omit [FixedCodec K] [FixedCodec V] in
/-- The ordered maps' step: a reopening and the state's other calls change none. -/
def abstract : MapCall K V → (String → OrderedMap K V) → String → OrderedMap K V
  | .insert name key value, models => Function.update models name ((models name).insert key value)
  | .remove name key, models => Function.update models name ((models name).remove key)
  | .reopen _, models => models
  | .other _, models => models

omit [DecidableEq K] [FixedCodec V] in
/-- The calls of a run over the maps named `names` with keys from `keys`: their
own, and any write of the state outside their slots, `stash` and `commit`. A
`revert_cache` drops writes the handles still hold, and ends the service call. -/
def Admissible (names : List String) (keys : List K) : MapCall K V → Prop
  | .insert name key _ => name ∈ names ∧ key ∈ keys
  | .remove name key => name ∈ names ∧ key ∈ keys
  | .reopen name => name ∈ names
  | .other (.insert written _) => ∀ name ∈ names, written ≠ stateKey (varSlot digest name) ∧
      ∀ key ∈ keys, ∀ slot, valueSlot digest name key = .ok slot → written ≠ stateKey slot
  | .other .revertCache => False
  | .other .stash => True
  | .other .commit => True

def Refines (names : List String) (keys : List K) (maps : StoreMaps K V T)
    (models : String → OrderedMap K V) : Prop :=
  ∀ name ∈ names, Stores digest name (maps.handles name) (models name) maps.state.view ∧
    (models name).keys ⊆ keys

def run (calls : List (MapCall K V)) (trie : T) : StoreMaps K V T :=
  Trace.run (step digest) calls (StoreMaps.start digest trie)

omit [FixedCodec K] [FixedCodec V] in
def models (calls : List (MapCall K V)) : String → OrderedMap K V :=
  Trace.run abstract calls fun _ => OrderedMap.empty

end MapCall

namespace DefaultStoreMap

variable {T : Type} [MPTTrie T]
variable {K V : Type} [FixedCodec K] [DecidableEq K] [FixedCodec V] {digest : Bytes → Hash}
  {name : String} {map : DefaultStoreMap K V} {model : OrderedMap K V} {state : GeneralServiceState T}

/-! ### What a map that holds its model answers -/

omit [FixedCodec K] [DecidableEq K] [FixedCodec V] in
theorem len_mk (var_name : Hash) (inner : List K) :
    (⟨var_name, ⟨inner⟩⟩ : DefaultStoreMap K V).len = UInt32.ofNat inner.length := rfl

theorem Stores.contains_eq (stores : Stores digest name map model state.view) (key : K) :
    map.contains key = decide (key ∈ model.keys) := by
  rw [Bool.eq_iff_iff, contains_iff, stores.keys_eq, decide_eq_true_iff]

theorem Stores.get_eq (stores : Stores digest name map model state.view) (key : K) :
    map.get digest key state = .ok (model.get key) state := by
  cases contained : map.contains key with
  | true =>
    have present : key ∈ model.keys := by
      rw [← stores.keys_eq, ← contains_iff]
      exact contained
    obtain ⟨value, found⟩ := OrderedMap.mem_keys_iff.mp present
    obtain ⟨slot, slot_ok, bytes, held, decodes⟩ := stores.held key value found
    rw [found]
    apply get_run digest map contained _ state held decodes
    rw [get_map_key_of_named digest stores.named, slot_ok]
  | false =>
    have absent : key ∉ model.keys := by
      rw [← stores.keys_eq, ← contains_iff, contained]
      simp
    rw [OrderedMap.get_eq_none.mpr absent]
    exact get_run_absent digest map contained state

theorem Stores.len_eq (stores : Stores digest name map model state.view)
    (few : model.keys.length < 2 ^ 32) : map.len.toNat = model.keys.length := by
  rw [len_toNat map (by rw [stores.keys_eq]; exact few), stores.keys_eq]

theorem Stores.iter_eq (stores : Stores digest name map model state.view)
    (few : model.keys.length < 2 ^ 32) : map.iter digest state = .ok model.entries state := by
  apply iter_run digest map stores.keys_eq (by simpa [OrderedMap.keys] using few) state
  intro entry member
  have reads := stores.get_eq entry.1
  rwa [OrderedMap.get_of_mem member] at reads

omit [FixedCodec K] [FixedCodec V] in
theorem drawn_insert {keys : List K} (drawn : model.keys ⊆ keys) {key : K} (key_mem : key ∈ keys)
    (value : V) : (model.insert key value).keys ⊆ keys := by
  intro other member
  rcases OrderedMap.mem_keys_insert.mp member with rfl | old
  · exact key_mem
  · exact drawn old

omit [FixedCodec K] [FixedCodec V] in
theorem drawn_remove {keys : List K} (drawn : model.keys ⊆ keys) (key : K) :
    (model.remove key).keys ⊆ keys :=
  fun _ member => drawn (OrderedMap.mem_keys_remove.mp member).2

/-! ### One insert or removal -/

section Insert

variable {names : List String} {keys : List K} (inverse_key : Inverse K)
  (distinct : CollisionFree digest names keys) (short : ShortKeys keys)
include inverse_key distinct short

/-- An insert into a map that holds its model: the handle and the state it leaves
hold the model with the key inserted, and only the name slot and the key's slot
are written. -/
theorem Stores.insert_run (stores : Stores digest name map model state.view)
    (drawn : model.keys ⊆ keys) (name_mem : name ∈ names) {key : K} (key_mem : key ∈ keys)
    {value : V} {encoded : Bytes} (value_ok : encode_fixed value = .ok encoded)
    (decodes : decode_fixed encoded = .ok value) {slot : Hash}
    (slot_ok : valueSlot digest name key = .ok slot) :
    ∃ map' state', map.insert digest key value state = .ok map' state' ∧
      Stores digest name map' (model.insert key value) state'.view ∧
      ∀ written, written ≠ stateKey (varSlot digest name) → written ≠ stateKey slot →
        state'.view written = state.view written := by
  have key_slot : map.getMapKey digest key = .ok slot := by
    rw [get_map_key_of_named digest stores.named, slot_ok]
  cases contained : map.contains key with
  | true =>
    -- the key is there: only its slot is written
    have present : key ∈ model.keys := by
      rw [← stores.keys_eq, ← contains_iff]
      exact contained
    have returns := inner_insert_run_present digest _ contained key_slot value_ok state
    refine ⟨map, _, WithState.expect_ok _ returns, ?_, fun written _ apart => ?_⟩
    · rw [GeneralServiceState.Call.view_insert]
      exact stores.insert_present distinct drawn name_mem present slot_ok decodes
    · rw [GeneralServiceState.Call.view_insert, Function.update_of_ne apart]
  | false =>
    -- a new key: the longer list is written, then the key's slot
    have absent : key ∉ model.keys := by
      rw [← stores.keys_eq, ← contains_iff, contained]
      simp
    have appended : (model.insert key value).keys = map.keys.inner ++ [key] := by
      rw [OrderedMap.keys_insert, if_neg absent, stores.keys_eq]
    obtain ⟨keys_bytes, keys_ok, keys_decode⟩ :=
      short.listed inverse_key (model.insert key value).keys_nodup (drawn_insert drawn key_mem value)
    rw [appended] at keys_ok
    have returns := inner_insert_run_absent digest _ contained key_slot value_ok keys_ok state
    refine ⟨_, _, WithState.expect_ok _ returns, ?_, fun written named apart => ?_⟩
    · simp only [GeneralServiceState.Call.view_insert, stores.named]
      rw [← appended]
      refine stores.relist distinct drawn name_mem key_mem slot_ok keys_decode ?_ ?_
      · intro key' found differ held
        rwa [OrderedMap.get_insert, if_neg differ] at held
      · intro found held
        rw [OrderedMap.get_insert, if_pos rfl] at held
        cases held
        exact decodes
    · simp only [GeneralServiceState.Call.view_insert, stores.named]
      rw [Function.update_of_ne apart, Function.update_of_ne named]

/-- A removal from a map that holds its model: the handle and the state it leaves
hold the model without the key, and only the name slot and the key's slot are
written. -/
theorem Stores.remove_run (stores : Stores digest name map model state.view)
    (drawn : model.keys ⊆ keys) (name_mem : name ∈ names) {key : K} (key_mem : key ∈ keys)
    {slot : Hash} (slot_ok : valueSlot digest name key = .ok slot) :
    ∃ map' removed state', map.remove digest key state = .ok (map', removed) state' ∧
      Stores digest name map' (model.remove key) state'.view ∧
      ∀ written, written ≠ stateKey (varSlot digest name) → written ≠ stateKey slot →
        state'.view written = state.view written := by
  have key_slot : map.getMapKey digest key = .ok slot := by
    rw [get_map_key_of_named digest stores.named, slot_ok]
  cases contained : map.contains key with
  | true =>
    -- the value is read, the shorter list written, then empty bytes to the key's slot
    have present : key ∈ model.keys := by
      rw [← stores.keys_eq, ← contains_iff]
      exact contained
    obtain ⟨value, found⟩ := OrderedMap.mem_keys_iff.mp present
    obtain ⟨held_slot, held_ok, bytes, held, decodes⟩ := stores.held key value found
    rw [slot_ok] at held_ok
    cases held_ok
    have reads := inner_get_run digest _ contained key_slot state held decodes
    have erased : (model.remove key).keys = map.keys.inner.erase key := by
      rw [OrderedMap.keys_remove, stores.keys_eq]
    obtain ⟨keys_bytes, keys_ok, keys_decode⟩ :=
      short.listed inverse_key (model.remove key).keys_nodup (drawn_remove drawn key)
    rw [erased] at keys_ok
    have returns := inner_remove_run_present digest _ contained key_slot state reads keys_ok
    refine ⟨_, _, _, WithState.expect_ok _ returns, ?_, fun written named apart => ?_⟩
    · simp only [GeneralServiceState.Call.view_insert, stores.named]
      rw [← erased]
      refine stores.relist distinct drawn name_mem key_mem slot_ok keys_decode ?_ ?_
      · intro key' found differ held
        rwa [OrderedMap.get_remove, if_neg differ] at held
      · intro found held
        rw [OrderedMap.get_remove, if_pos rfl] at held
        cases held
    · simp only [GeneralServiceState.Call.view_insert, stores.named]
      rw [Function.update_of_ne apart, Function.update_of_ne named]
  | false =>
    -- a key the map does not hold: nothing is written, and the model keeps it out
    have absent : key ∉ model.keys := by
      rw [← stores.keys_eq, ← contains_iff, contained]
      simp
    have returns := inner_remove_run_absent digest _ contained state
    refine ⟨map, none, state, WithState.expect_ok _ returns, ?_, fun _ _ _ => rfl⟩
    rw [OrderedMap.remove_of_not_mem absent]
    exact stores

end Insert

end DefaultStoreMap

/-! ### Runs -/

namespace MapCall

variable {T : Type} [MPTTrie T]
variable {K V : Type} [FixedCodec K] [DecidableEq K] [FixedCodec V] {digest : Bytes → Hash}
  {names : List String} {keys : List K} {maps : StoreMaps K V T} {abstracts : String → OrderedMap K V}

open DefaultStoreMap

section Steps

variable (inverse_key : Inverse K) (inverse_value : Inverse V)
  (distinct : CollisionFree digest names keys) (short : ShortKeys keys)

-- A call through the handle of `name` that writes only its name slot and one value
-- slot: the handle it returns holds the new model, and every other map keeps its own.
theorem Refines.replace_handle (refines : Refines digest names keys maps abstracts)
    (distinct : CollisionFree digest names keys) {name : String} (name_mem : name ∈ names)
    {key : K} (key_mem : key ∈ keys) {slot : Hash} (slot_ok : valueSlot digest name key = .ok slot)
    {handle : DefaultStoreMap K V} {state : GeneralServiceState T} {model : OrderedMap K V}
    (stores : Stores digest name handle model state.view) (drawn : model.keys ⊆ keys)
    (frame : ∀ written, written ≠ stateKey (varSlot digest name) → written ≠ stateKey slot →
      state.view written = maps.state.view written) :
    Refines digest names keys (maps.replace name (.ok handle state)) (Function.update abstracts name model) := by
  intro other other_mem
  simp only [StoreMaps.replace]
  by_cases same : other = name
  · subst same
    simp only [Function.update_self]
    exact ⟨stores, drawn⟩
  · -- the other maps' slots are neither of the two written
    simp only [Function.update_of_ne same]
    obtain ⟨other_stores, other_drawn⟩ := refines other other_mem
    refine ⟨other_stores.frame fun occupied_slot occupied => frame _ ?_ ?_, other_drawn⟩
    · exact distinct.apart_var other_mem name_mem same other_drawn occupied_slot occupied
    · exact distinct.apart_value other_mem name_mem key_mem other_drawn slot_ok (Or.inl same)
        occupied_slot occupied

include inverse_key inverse_value distinct short in
theorem step_insert (refines : Refines digest names keys maps abstracts) {name : String} {key : K}
    (name_mem : name ∈ names) (key_mem : key ∈ keys) (value : V) :
    Refines digest names keys ((MapCall.insert name key value).step digest maps)
      ((MapCall.insert name key value).abstract abstracts) := by
  obtain ⟨stores, drawn⟩ := refines name name_mem
  obtain ⟨slot, slot_ok⟩ := value_slot_ok digest inverse_key name key
  obtain ⟨encoded, value_ok, decodes⟩ := inverse_value value
  obtain ⟨map', state', returns, stores', frame⟩ :=
    stores.insert_run inverse_key distinct short drawn name_mem key_mem value_ok decodes slot_ok
  simp only [step, abstract]
  rw [returns]
  exact refines.replace_handle distinct name_mem key_mem slot_ok stores'
    (drawn_insert drawn key_mem value) frame

include inverse_key distinct short in
theorem step_remove (refines : Refines digest names keys maps abstracts) {name : String} {key : K}
    (name_mem : name ∈ names) (key_mem : key ∈ keys) :
    Refines digest names keys ((MapCall.remove name key : MapCall K V).step digest maps)
      ((MapCall.remove name key : MapCall K V).abstract abstracts) := by
  obtain ⟨stores, drawn⟩ := refines name name_mem
  obtain ⟨slot, slot_ok⟩ := value_slot_ok digest inverse_key name key
  obtain ⟨map', removed, state', returns, stores', frame⟩ :=
    stores.remove_run inverse_key distinct short drawn name_mem key_mem slot_ok
  simp only [step, abstract, WithState.map_of_ok returns]
  exact refines.replace_handle distinct name_mem key_mem slot_ok stores' (drawn_remove drawn key) frame

theorem step_reopen (refines : Refines digest names keys maps abstracts) {name : String}
    (name_mem : name ∈ names) :
    Refines digest names keys ((MapCall.reopen name : MapCall K V).step digest maps)
      ((MapCall.reopen name : MapCall K V).abstract abstracts) := by
  obtain ⟨stores, drawn⟩ := refines name name_mem
  have returns : (new digest name : WithState T (DefaultStoreMap K V)) maps.state = _ :=
    new_run digest name maps.state stores.listed
  simp only [step, abstract, returns, StoreMaps.replace]
  intro other other_mem
  by_cases same : other = name
  · subst same
    simp only [Function.update_self]
    exact ⟨stores.reopen, drawn⟩
  · simp only [Function.update_of_ne same]
    exact refines other other_mem

theorem step_other (refines : Refines digest names keys maps abstracts)
    (call : GeneralServiceState.Call) (admitted : Admissible digest names keys (.other call : MapCall K V)) :
    Refines digest names keys ((MapCall.other call : MapCall K V).step digest maps)
      ((MapCall.other call : MapCall K V).abstract abstracts) := by
  cases call with
  | insert written bytes =>
    intro name name_mem
    obtain ⟨stores, drawn⟩ := refines name name_mem
    simp only [step, abstract, GeneralServiceState.Call.view_insert]
    refine ⟨stores.write_apart ?_ bytes, drawn⟩
    rintro slot (rfl | ⟨key, member, slot_ok⟩) same
    · exact (admitted name name_mem).1 same.symm
    · exact (admitted name name_mem).2 key (drawn member) slot slot_ok same.symm
  | revertCache => exact admitted.elim
  | stash =>
    simpa only [Refines, step, abstract, GeneralServiceState.Call.step,
      GeneralServiceState.view_stash] using refines
  | commit =>
    simpa only [Refines, step, abstract, GeneralServiceState.Call.step,
      GeneralServiceState.view_commit] using refines

include inverse_key inverse_value distinct short in
/-- Every admissible call keeps each map holding its model. -/
theorem step_refines (call : MapCall K V) (admitted : Admissible digest names keys call)
    (refines : Refines digest names keys maps abstracts) :
    Refines digest names keys (call.step digest maps) (call.abstract abstracts) := by
  cases call with
  | insert name key value =>
    exact step_insert inverse_key inverse_value distinct short refines admitted.1 admitted.2 value
  | remove name key => exact step_remove inverse_key distinct short refines admitted.1 admitted.2
  | reopen name => exact step_reopen refines admitted
  | other call => exact step_other refines call admitted

end Steps

theorem refines_start (trie : T)
    (fresh : ∀ name ∈ names, MPTTrie.get trie (stateKey (varSlot digest name)) = none) :
    Refines digest names keys (StoreMaps.start digest trie : StoreMaps K V T)
      fun _ => OrderedMap.empty := by
  intro name name_mem
  refine ⟨⟨rfl, rfl, ?_, ?_⟩, by simp⟩
  · unfold ListedAt
    simp [GeneralServiceState.view, GeneralServiceState.new, StoreMaps.start, fresh name name_mem]
  · intro key value found
    simp at found

theorem refines_run (inverse_key : Inverse K) (inverse_value : Inverse V)
    (distinct : CollisionFree digest names keys) (short : ShortKeys keys) (trie : T)
    (fresh : ∀ name ∈ names, MPTTrie.get trie (stateKey (varSlot digest name)) = none)
    (calls : List (MapCall K V)) (admitted : ∀ call ∈ calls, Admissible digest names keys call) :
    Refines digest names keys (run digest calls trie) (models calls) :=
  Trace.run_simulation (step digest) abstract (Admissible digest names keys) (Refines digest names keys)
    (fun call _ _ admitted refines =>
      step_refines inverse_key inverse_value distinct short call admitted refines)
    calls admitted _ _ (refines_start trie fresh)

theorem store_map_refines_ordered_map (inverse_key : Inverse K) (inverse_value : Inverse V)
    (distinct : CollisionFree digest names keys) (short : ShortKeys keys) (trie : T)
    (fresh : ∀ name ∈ names, MPTTrie.get trie (stateKey (varSlot digest name)) = none)
    (calls : List (MapCall K V)) (admitted : ∀ call ∈ calls, Admissible digest names keys call)
    (name : String) (name_mem : name ∈ names) :
    (∀ key, ((run digest calls trie).handles name).get digest key (run digest calls trie).state =
        .ok ((models calls name).get key) (run digest calls trie).state) ∧
      (∀ key, ((run digest calls trie).handles name).contains key =
        decide (key ∈ (models calls name).keys)) ∧
      ((run digest calls trie).handles name).len.toNat = (models calls name).keys.length ∧
      ((run digest calls trie).handles name).iter digest (run digest calls trie).state =
        .ok (models calls name).entries (run digest calls trie).state := by
  obtain ⟨stores, drawn⟩ :=
    refines_run inverse_key inverse_value distinct short trie fresh calls admitted name name_mem
  -- the model's keys are drawn from `keys`, so fewer than 2^32
  have few : (models calls name).keys.length < 2 ^ 32 :=
    lt_of_le_of_lt (OrderedMap.length_keys_le drawn) short.few
  exact ⟨stores.get_eq, stores.contains_eq, stores.len_eq few, stores.iter_eq few⟩

/-- The repository's map test, `test_default_store_map`, with `Hash` keys and a
digest that keeps the last 32 bytes of its input. -/
def testDigest (bytes : Bytes) : Hash :=
  ⟨(List.replicate 32 0 ++ bytes).drop bytes.length, by
    simp only [List.length_drop, List.length_append, List.length_replicate]
    omega⟩

def testKey (byte : UInt8) : Hash := ⟨List.replicate 32 byte, Hash.replicate_length byte⟩

def testCalls : List (MapCall Hash Bytes) :=
  [.insert "test" (testKey 1) [0x76, 0x31], .insert "test" (testKey 2) [0x76, 0x32],
    .reopen "test", .remove "test" (testKey 1)]

def testTrie : MapTrie := MapTrie.new (fun _ => none) fun _ => testKey 0

theorem store_map_refines_ordered_map_test :
    (∀ key, ((run testDigest testCalls testTrie).handles "test").get testDigest key
        (run testDigest testCalls testTrie).state =
        .ok ((models testCalls "test").get key) (run testDigest testCalls testTrie).state) ∧
      (∀ key, ((run testDigest testCalls testTrie).handles "test").contains key =
        decide (key ∈ (models testCalls "test").keys)) ∧
      ((run testDigest testCalls testTrie).handles "test").len.toNat =
        (models testCalls "test").keys.length ∧
      ((run testDigest testCalls testTrie).handles "test").iter testDigest
          (run testDigest testCalls testTrie).state =
        .ok (models testCalls "test").entries (run testDigest testCalls testTrie).state :=
  store_map_refines_ordered_map hash_inverse bytes_inverse
    (show CollisionFree testDigest ["test"] [testKey 1, testKey 2] from
      ⟨by decide, by decide, by decide⟩)
    (short_hashes (by decide)) testTrie
    (fun _ _ => rfl) testCalls (by simp [testCalls, Admissible]) "test" (by simp)

/-! ### `len` wraps -/

section Wrap

variable (inverse_key : Inverse K) (inverse_value : Inverse V)
include inverse_key inverse_value

theorem handles_run_inserts (name : String) (value : V) {inserted : List K} (nodup : inserted.Nodup)
    (maps : StoreMaps K V T) (unheld : ∀ key ∈ inserted, key ∉ (maps.handles name).keys.inner) :
    (Trace.run (step digest) (inserted.map fun key => .insert name key value) maps).handles name =
      ⟨(maps.handles name).var_name, ⟨(maps.handles name).keys.inner ++ inserted⟩⟩ := by
  induction inserted generalizing maps with
  | nil => simp
  | cons key rest ih =>
    obtain ⟨absent, rest_nodup⟩ := List.nodup_cons.mp nodup
    obtain ⟨encoded, encodes, -⟩ := inverse_key key
    obtain ⟨value_bytes, value_ok, -⟩ := inverse_value value
    obtain ⟨keys_bytes, keys_ok⟩ :=
      FixedKeys.encode_fixed_ok inverse_key ((maps.handles name).keys.inner ++ [key])
    have contained : (maps.handles name).contains key = false := by
      rw [Bool.eq_false_iff, ne_eq, contains_iff]
      exact unheld key List.mem_cons_self
    -- the first insert appends its key; the rest then append theirs
    have returns := inner_insert_run_absent digest _ contained
      (get_map_key_eq digest (maps.handles name) encodes) value_ok keys_ok maps.state
    rw [List.map_cons, Trace.run_cons, ih rest_nodup]
    · simp [step, DefaultStoreMap.insert, WithState.expect_ok _ returns, StoreMaps.replace]
    · intro other member
      simp only [step, DefaultStoreMap.insert, WithState.expect_ok _ returns, StoreMaps.replace,
        Function.update_self, List.mem_append, List.mem_singleton, not_or]
      exact ⟨unheld other (List.mem_cons_of_mem key member), fun same => absent (same ▸ member)⟩

omit inverse_key inverse_value [FixedCodec K] [FixedCodec V] in
theorem models_run_inserts (name : String) (value : V) {inserted : List K} (nodup : inserted.Nodup)
    (abstracts : String → OrderedMap K V) (unheld : ∀ key ∈ inserted, key ∉ (abstracts name).keys) :
    (Trace.run abstract (inserted.map fun key => .insert name key value) abstracts name).keys =
      (abstracts name).keys ++ inserted := by
  induction inserted generalizing abstracts with
  | nil => simp
  | cons key rest ih =>
    obtain ⟨absent, rest_nodup⟩ := List.nodup_cons.mp nodup
    have appended : ((abstracts name).insert key value).keys = (abstracts name).keys ++ [key] := by
      rw [OrderedMap.keys_insert, if_neg (unheld key List.mem_cons_self)]
    rw [List.map_cons, Trace.run_cons, ih rest_nodup]
    · simp [abstract, appended]
    · intro other member
      simp only [abstract, Function.update_self, appended, List.mem_append, List.mem_singleton,
        not_or]
      exact ⟨unheld other (List.mem_cons_of_mem key member), fun same => absent (same ▸ member)⟩

end Wrap

/-- Inserting the 2^32 numbers below 2^32 into one map leaves its `len` at 0,
where the ordered map holds 2^32 keys: `len() as u32` wraps, whatever the digest
and the state. -/
theorem run_inserts_len_wraps (digest : Bytes → Hash) (trie : T) (value : Bytes) :
    ((run digest (((List.range (2 ^ 32)).map UInt64.ofNat).map fun key => .insert "map" key value)
      trie).handles "map").len = 0 ∧
    (models (((List.range (2 ^ 32)).map UInt64.ofNat).map fun key =>
      (.insert "map" key value : MapCall UInt64 Bytes)) "map").keys.length = 2 ^ 32 := by
  -- the numbers are distinct as 64-bit words
  have nodup : ((List.range (2 ^ 32)).map UInt64.ofNat).Nodup := by
    apply List.Nodup.map_on _ List.nodup_range
    intro a a_mem b b_mem same
    have a_small : a < 2 ^ 64 := by rw [List.mem_range] at a_mem; omega
    have b_small : b < 2 ^ 64 := by rw [List.mem_range] at b_mem; omega
    have := congrArg UInt64.toNat same
    rwa [UInt64.toNat_ofNat_of_lt' a_small, UInt64.toNat_ofNat_of_lt' b_small] at this
  -- the list is never evaluated: only its length is computed, by rewriting
  constructor
  · rw [run, handles_run_inserts uint64_inverse bytes_inverse "map" value nodup _
      (fun key _ => List.not_mem_nil), len_mk, StoreMaps.start_keys, List.nil_append,
      List.length_map, List.length_range]
    decide
  · rw [models, models_run_inserts "map" value nodup _ (fun key _ => List.not_mem_nil),
      List.length_append, List.length_map, List.length_range]
    rfl

theorem store_map_len_wraps :
    ((run testDigest (((List.range (2 ^ 32)).map UInt64.ofNat).map fun key =>
      (.insert "map" key [] : MapCall UInt64 Bytes)) testTrie).handles "map").len = 0 ∧
    (models (((List.range (2 ^ 32)).map UInt64.ofNat).map fun key =>
      (.insert "map" key [] : MapCall UInt64 Bytes)) "map").keys.length = 2 ^ 32 :=
  run_inserts_len_wraps testDigest testTrie []

end MapCall

end Muta.Framework
