import Muta.Framework.Store.Keys
import Muta.Lib.OrderedMap

/-! `DefaultStoreMap`, from `binding::store::map`.

The map keeps its keys twice: in the handle, in first-insertion order, and as a
`FixedKeys` list in the state under the digest of its name. Each value lies
under the digest of the name's digest followed by the key's encoding. An insert
of a new key appends it and rewrites the list; a removal drops it, rewrites the
list and writes empty bytes to its slot. `get_` reads a slot only for a key the
handle holds, and `len` is the length of the key list `as u32`.

The lemmas below say what one call does: which slots it writes, with what, and
what it returns (`inner_insert_run_absent`, `inner_remove_run_present`, `new_run`, ...).
-/

set_option autoImplicit false

namespace Muta.Framework

open FixedCodec

structure DefaultStoreMap (K V : Type) where
  var_name : Hash
  keys : FixedKeys K

namespace DefaultStoreMap

variable {K V : Type} [FixedCodec K] [DecidableEq K] [FixedCodec V] (digest : Bytes → Hash)
variable {T : Type} [MPTTrie T]

def new (name : String) : WithState T (DefaultStoreMap K V) := do
  let var_name := digest (Rlp.utf8 (name ++ "map"))
  let opt_bs : Option Bytes ← WithState.expect "get map should not fail" (WithState.get var_name)
  let keys ← match opt_bs with
    | some bs => WithState.lift (Fail.expect "decode keys should not fail" (codec (decode_fixed bs)))
    | none => pure ⟨[]⟩
  pure ⟨var_name, keys⟩

def getMapKey (map : DefaultStoreMap K V) (key : K) : ProtocolResult Hash := do
  let name_bytes := map.var_name.asBytes ++ (← codec (encode_fixed key))
  pure (digest name_bytes)

def contains (map : DefaultStoreMap K V) (key : K) : Bool := map.keys.inner.contains key

def get_ (map : DefaultStoreMap K V) (key : K) : WithState T (Option V) :=
  if map.contains key then do
    let mk ← WithState.lift (map.getMapKey digest key)
    match (← WithState.get mk : Option V) with
    | some v => pure (some v)
    -- a slot with nothing in it reads as the empty bytes
    | none => do
      let value ← WithState.lift (Fail.mapFail (fun _ => ProtocolError.Store .DecodeError) (decode_fixed []))
      pure (some value)
  else pure none

def insert_ (map : DefaultStoreMap K V) (key : K) (value : V) : WithState T (DefaultStoreMap K V) := do
  let mk ← WithState.lift (map.getMapKey digest key)
  let map ← if !map.contains key then do
      let map : DefaultStoreMap K V := { map with keys := ⟨map.keys.inner ++ [key]⟩ }
      WithState.insert map.var_name (← WithState.lift (codec (encode_fixed map.keys)))
      pure map
    else pure map
  WithState.insert mk value
  pure map

def remove_ (map : DefaultStoreMap K V) (key : K) : WithState T (DefaultStoreMap K V × Option V) :=
  if map.contains key then do
    let value : V ← do
      match (← map.get_ digest key) with
      | some value => pure value
      | none => WithState.lift (.error (.panic "value should be existed"))
    -- `Vec::remove_item` drops the first occurrence
    let map : DefaultStoreMap K V := { map with keys := ⟨map.keys.inner.erase key⟩ }
    WithState.insert map.var_name (← WithState.lift (codec (encode_fixed map.keys)))
    WithState.insert (← WithState.lift (map.getMapKey digest key)) ([] : Bytes)
    pure (map, some value)
  else pure (map, none)

def get (map : DefaultStoreMap K V) (key : K) : WithState T (Option V) :=
  WithState.expect "StoreMap get failed" (map.get_ digest key)

def insert (map : DefaultStoreMap K V) (key : K) (value : V) : WithState T (DefaultStoreMap K V) :=
  WithState.expect "StoreMap insert failed" (map.insert_ digest key value)

def remove (map : DefaultStoreMap K V) (key : K) : WithState T (DefaultStoreMap K V × Option V) :=
  WithState.expect "StoreMap remove failed" (map.remove_ digest key)

/-- `len`: the number of keys, `as u32`. -/
def len (map : DefaultStoreMap K V) : UInt32 := UInt32.ofNat map.keys.inner.length

def isEmpty (map : DefaultStoreMap K V) : Bool := map.len == 0

def iter (map : DefaultStoreMap K V) : WithState T (List (K × V)) :=
  (List.range map.len.toNat).mapM fun idx => do
    let key ← WithState.lift (match map.keys.inner[idx]? with
      | some key => .ok key
      | none => .error (.panic "get key should not fail"))
    match (← map.get digest key) with
    | some value => pure (key, value)
    | none => WithState.lift (.error (.panic "get value should not fail"))

/-! ### What one call does -/

def stateKey (slot : Hash) : Bytes := [0xe1, 0xa0] ++ slot.asBytes

theorem state_key_injective {slot other : Hash} (same : stateKey slot = stateKey other) :
    slot = other := by
  apply Hash.ext
  simpa [stateKey, Hash.asBytes] using same

omit [FixedCodec K] [FixedCodec V] in
theorem contains_iff (map : DefaultStoreMap K V) (key : K) :
    map.contains key = true ↔ key ∈ map.keys.inner := by
  simp [contains]

omit [DecidableEq K] [FixedCodec V] in
theorem get_map_key_eq (map : DefaultStoreMap K V) {key : K} {encoded : Bytes}
    (encodes : encode_fixed key = .ok encoded) :
    map.getMapKey digest key = .ok (digest (map.var_name.asBytes ++ encoded)) := by
  simp [getMapKey, encodes]

theorem get_slot {Ret : Type} [FixedCodec Ret] (state : GeneralServiceState T) (slot : Hash)
    {bytes : Bytes} (held : state.view (stateKey slot) = some bytes) :
    (state.get slot : ProtocolResult (Option Ret)) = some <$> codec (decode_fixed bytes) := by
  rw [GeneralServiceState.get_eq, Hash.encode_fixed_eq]
  simp only [codec_ok, except_ok_bind]
  rw [show [0xe1, 0xa0] ++ slot.asBytes = stateKey slot from rfl]
  simp only [held]
  cases codec (decode_fixed bytes : Muta.ProtocolResult Ret) <;> rfl

theorem get_slot_none {Ret : Type} [FixedCodec Ret] (state : GeneralServiceState T) (slot : Hash)
    (empty : state.view (stateKey slot) = none) :
    (state.get slot : ProtocolResult (Option Ret)) = .ok none := by
  rw [GeneralServiceState.get_eq, Hash.encode_fixed_eq]
  simp only [codec_ok, except_ok_bind]
  rw [show [0xe1, 0xa0] ++ slot.asBytes = stateKey slot from rfl, empty]
  rfl

theorem insert_slot {Value β : Type} [FixedCodec Value] (slot : Hash) {value : Value}
    {encoded : Bytes} (value_ok : encode_fixed value = .ok encoded) (next : Unit → WithState T β)
    (state : GeneralServiceState T) :
    (WithState.insert slot value >>= next) state =
      next () ((GeneralServiceState.Call.insert (stateKey slot) encoded).step state) :=
  WithState.insert_bind (Hash.encode_fixed_eq slot) value_ok next state

theorem inner_get_run (map : DefaultStoreMap K V) {key : K} (present : map.contains key = true)
    {slot : Hash} (slot_ok : map.getMapKey digest key = .ok slot) (state : GeneralServiceState T)
    {value : V} {bytes : Bytes} (held : state.view (stateKey slot) = some bytes)
    (decodes : decode_fixed bytes = .ok value) :
    map.get_ digest key state = .ok (some value) state := by
  have read : (state.get slot : ProtocolResult (Option V)) = .ok (some value) := by
    rw [get_slot state slot held, decodes]
    rfl
  simp only [get_, present, if_true, slot_ok, WithState.lift_ok_bind]
  show EStateM.bind _ _ _ = _
  simp [EStateM.bind, WithState.get, read, WithState.lift]

theorem inner_get_run_absent (map : DefaultStoreMap K V) {key : K} (absent : map.contains key = false)
    (state : GeneralServiceState T) : map.get_ digest key state = .ok none state := by
  simp [get_, absent, WithState.pure_run]

theorem inner_insert_run_present (map : DefaultStoreMap K V) {key : K} (present : map.contains key = true)
    {slot : Hash} (slot_ok : map.getMapKey digest key = .ok slot) {value : V} {encoded : Bytes}
    (value_ok : encode_fixed value = .ok encoded) (state : GeneralServiceState T) :
    map.insert_ digest key value state =
      .ok map ((GeneralServiceState.Call.insert (stateKey slot) encoded).step state) := by
  simp only [insert_, slot_ok, WithState.lift_ok_bind, present, Bool.not_true, Bool.false_eq_true,
    if_false, pure_bind]
  rw [insert_slot slot value_ok]
  rfl

theorem inner_insert_run_absent (map : DefaultStoreMap K V) {key : K} (absent : map.contains key = false)
    {slot : Hash} (slot_ok : map.getMapKey digest key = .ok slot) {value : V} {encoded : Bytes}
    (value_ok : encode_fixed value = .ok encoded) {keys_bytes : Bytes}
    (keys_ok : encode_fixed (⟨map.keys.inner ++ [key]⟩ : FixedKeys K) = .ok keys_bytes)
    (state : GeneralServiceState T) :
    map.insert_ digest key value state =
      .ok ⟨map.var_name, ⟨map.keys.inner ++ [key]⟩⟩
        ((GeneralServiceState.Call.insert (stateKey slot) encoded).step
          ((GeneralServiceState.Call.insert (stateKey map.var_name) keys_bytes).step state)) := by
  simp only [insert_, slot_ok, WithState.lift_ok_bind, absent, Bool.not_false, if_true, keys_ok,
    codec_ok]
  -- the appended list is written first, then the value
  rw [insert_slot map.var_name (bytes_encode_fixed keys_bytes)]
  simp only [pure_bind]
  rw [insert_slot slot value_ok]
  rfl

theorem inner_remove_run_present (map : DefaultStoreMap K V) {key : K} (present : map.contains key = true)
    {slot : Hash} (slot_ok : map.getMapKey digest key = .ok slot) {value : V}
    (state : GeneralServiceState T) (reads : map.get_ digest key state = .ok (some value) state)
    {keys_bytes : Bytes}
    (keys_ok : encode_fixed (⟨map.keys.inner.erase key⟩ : FixedKeys K) = .ok keys_bytes) :
    map.remove_ digest key state =
      .ok (⟨map.var_name, ⟨map.keys.inner.erase key⟩⟩, some value)
        ((GeneralServiceState.Call.insert (stateKey slot) []).step
          ((GeneralServiceState.Call.insert (stateKey map.var_name) keys_bytes).step state)) := by
  simp only [remove_, present, if_true]
  rw [WithState.bind_of_ok reads]
  simp only [pure_bind, keys_ok, codec_ok, WithState.lift_ok_bind]
  rw [insert_slot map.var_name (bytes_encode_fixed keys_bytes)]
  -- the new handle has the same name, so the same slot for the key
  simp only [show (⟨map.var_name, ⟨map.keys.inner.erase key⟩⟩ : DefaultStoreMap K V).getMapKey digest key =
    .ok slot from slot_ok, WithState.lift_ok_bind]
  rw [insert_slot slot (bytes_encode_fixed [])]
  rfl

theorem inner_remove_run_absent (map : DefaultStoreMap K V) {key : K} (absent : map.contains key = false)
    (state : GeneralServiceState T) : map.remove_ digest key state = .ok (map, none) state := by
  simp [remove_, absent, WithState.pure_run]

omit [DecidableEq K] [FixedCodec V] in
theorem new_run (name : String) (state : GeneralServiceState T) {keys : List K}
    (listed : match state.view (stateKey (digest (Rlp.utf8 (name ++ "map")))) with
      | some bytes => decode_fixed bytes = .ok (⟨keys⟩ : FixedKeys K)
      | none => keys = []) :
    (new digest name : WithState T (DefaultStoreMap K V)) state =
      .ok ⟨digest (Rlp.utf8 (name ++ "map")), ⟨keys⟩⟩ state := by
  simp only [new]
  split at listed
  case h_1 bytes held =>
    have read : (state.get (digest (Rlp.utf8 (name ++ "map"))) : ProtocolResult (Option Bytes)) =
        .ok (some bytes) := by
      rw [get_slot state _ held]
      rfl
    have decoded : codec (decode_fixed bytes : Muta.ProtocolResult (FixedKeys K)) = .ok ⟨keys⟩ := by
      rw [listed]
      rfl
    show EStateM.bind _ _ _ = _
    simp only [EStateM.bind, WithState.expect, WithState.get, read, WithState.lift, decoded,
      Fail.expect]
    rfl
  case h_2 empty =>
    subst listed
    have read : (state.get (digest (Rlp.utf8 (name ++ "map"))) : ProtocolResult (Option Bytes)) =
        .ok none := get_slot_none state _ empty
    show EStateM.bind _ _ _ = _
    simp [EStateM.bind, WithState.expect, WithState.get, read, WithState.lift]

theorem get_run (map : DefaultStoreMap K V) {key : K} (present : map.contains key = true)
    {slot : Hash} (slot_ok : map.getMapKey digest key = .ok slot) (state : GeneralServiceState T)
    {value : V} {bytes : Bytes} (held : state.view (stateKey slot) = some bytes)
    (decodes : decode_fixed bytes = .ok value) :
    map.get digest key state = .ok (some value) state :=
  WithState.expect_ok _ (inner_get_run digest map present slot_ok state held decodes)

theorem get_run_absent (map : DefaultStoreMap K V) {key : K} (absent : map.contains key = false)
    (state : GeneralServiceState T) : map.get digest key state = .ok none state :=
  WithState.expect_ok _ (inner_get_run_absent digest map absent state)

omit [FixedCodec K] [DecidableEq K] [FixedCodec V] in
theorem len_toNat (map : DefaultStoreMap K V) (few : map.keys.inner.length < 2 ^ 32) :
    map.len.toNat = map.keys.inner.length := by
  rw [len, UInt32.toNat_ofNat_of_lt' few]

theorem iter_run (map : DefaultStoreMap K V) {entries : List (K × V)}
    (keys_eq : map.keys.inner = entries.map Prod.fst) (few : entries.length < 2 ^ 32)
    (state : GeneralServiceState T)
    (reads : ∀ entry ∈ entries, map.get digest entry.1 state = .ok (some entry.2) state) :
    map.iter digest state = .ok entries state := by
  -- the loop over the indices below `len` is a loop over the keys
  have indices := Trace.mapM_range_getElem map.keys.inner fun found => (do
    let key ← WithState.lift (match found with
      | some key => .ok key
      | none => .error (.panic "get key should not fail"))
    match (← map.get digest key) with
    | some value => pure (key, value)
    | none => WithState.lift (.error (.panic "get value should not fail")) : WithState T (K × V))
  have length_eq : map.len.toNat = map.keys.inner.length := by
    apply len_toNat
    simpa [keys_eq] using few
  rw [iter, length_eq, indices, keys_eq]
  apply WithState.mapM_ok
  rw [List.forall₂_map_left_iff, List.forall₂_same]
  intro entry member
  simp only [WithState.lift_ok_bind]
  rw [WithState.bind_of_ok (reads entry member)]
  rfl

end DefaultStoreMap

end Muta.Framework
