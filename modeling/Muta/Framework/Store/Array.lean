import Muta.Framework.Store.Keys

/-! `DefaultStoreArray`, from `binding::store::array`.

The array keeps its element keys as a `FixedKeys` list under its name's digest,
and every element under the digest of its own encoding. So the state is keyed
by content, not by position: two equal elements share one slot, and `remove`,
which writes empty bytes to the slot of the element it removes, clears the
slot of every element equal to it (`store_array_remove_clears_equal`).
-/

set_option autoImplicit false

namespace Muta.Framework

open FixedCodec

structure DefaultStoreArray (E : Type) where
  var_name : Hash
  keys : FixedKeys Hash

namespace DefaultStoreArray

variable {E : Type} [FixedCodec E] (digest : Bytes → Hash)
variable {T : Type} [MPTTrie T]

def new (name : String) : WithState T (DefaultStoreArray E) := do
  let var_name := digest (Rlp.utf8 (name ++ "array"))
  let opt_bs : Option Bytes ← WithState.expect "get array should not fail" (WithState.get var_name)
  let keys ← match opt_bs with
    | some bs => WithState.lift (Fail.expect "decode keys should not fail" (codec (decode_fixed bs)))
    | none => pure ⟨[]⟩
  pure ⟨var_name, keys⟩

def get_ (array : DefaultStoreArray E) (index : UInt32) : WithState T E :=
  match array.keys.inner[index.toNat]? with
  | some key => do
    match (← WithState.get key : Option E) with
    | some value => pure value
    -- a slot with nothing in it reads as the empty bytes
    | none => WithState.lift (Fail.mapFail (fun _ => ProtocolError.Store .DecodeError) (decode_fixed []))
  | none => WithState.lift (.error (.error (.Store .OutRange)))

def push_ (array : DefaultStoreArray E) (elm : E) : WithState T (DefaultStoreArray E) := do
  let key := digest (← WithState.lift (codec (encode_fixed elm)))
  let array : DefaultStoreArray E := { array with keys := ⟨array.keys.inner ++ [key]⟩ }
  WithState.insert array.var_name (← WithState.lift (codec (encode_fixed array.keys)))
  WithState.insert key elm
  pure array

def remove_ (array : DefaultStoreArray E) (index : UInt32) : WithState T (DefaultStoreArray E) :=
  match array.keys.inner[index.toNat]? with
  -- `Vec::remove` panics on an index past the end
  | none => WithState.lift (.error (.panic "removal index should be < len"))
  | some key => do
    let array : DefaultStoreArray E := { array with keys := ⟨array.keys.inner.eraseIdx index.toNat⟩ }
    WithState.insert array.var_name (← WithState.lift (codec (encode_fixed array.keys)))
    WithState.insert key ([] : Bytes)
    pure array

def get (array : DefaultStoreArray E) (index : UInt32) : WithState T E :=
  WithState.expect "StoreArray get value failed" (array.get_ index)

def push (array : DefaultStoreArray E) (elm : E) : WithState T (DefaultStoreArray E) :=
  WithState.expect "StoreArray push value failed" (array.push_ digest elm)

def remove (array : DefaultStoreArray E) (index : UInt32) : WithState T (DefaultStoreArray E) :=
  WithState.expect "StoreArray remove value failed" (array.remove_ index)

def len (array : DefaultStoreArray E) : UInt32 := UInt32.ofNat array.keys.inner.length

def isEmpty (array : DefaultStoreArray E) : Bool := array.len == 0

def iter (array : DefaultStoreArray E) : WithState T (List (UInt32 × E)) :=
  (List.range array.len.toNat).mapM fun index => do
    let ele ← array.get (UInt32.ofNat index)
    pure (UInt32.ofNat index, ele)

/-! ### Equal elements share a slot -/

theorem get_written {Key : Type} [FixedCodec Key] {key : Key} {encoded_key : Bytes}
    (encodes : encode_fixed key = .ok encoded_key) (value : Bytes) (state : GeneralServiceState T) :
    (((GeneralServiceState.Call.insert encoded_key value).step state).get key : ProtocolResult (Option E)) =
      some <$> codec (decode_fixed value) := by
  rw [GeneralServiceState.get_eq, encodes]
  simp only [codec_ok, except_ok_bind, GeneralServiceState.Call.step,
    GeneralServiceState.view_write, Function.update_self]
  cases codec (decode_fixed value : Muta.ProtocolResult E) <;> rfl

theorem push_run (array : DefaultStoreArray E) (elm : E) {encoded : Bytes}
    (encodes : encode_fixed elm = .ok encoded) (state : GeneralServiceState T) :
    ∃ keys_bytes, push_ digest array elm state =
      .ok ⟨array.var_name, ⟨array.keys.inner ++ [digest encoded]⟩⟩
        ((GeneralServiceState.Call.insert ([0xe1, 0xa0] ++ (digest encoded).asBytes) encoded).step
          ((GeneralServiceState.Call.insert ([0xe1, 0xa0] ++ array.var_name.asBytes) keys_bytes).step
            state)) := by
  obtain ⟨keys_bytes, keys_written⟩ :=
    FixedKeys.encode_fixed_ok hash_inverse (array.keys.inner ++ [digest encoded])
  refine ⟨keys_bytes, ?_⟩
  simp only [push_, encodes, keys_written, codec_ok, WithState.lift_ok_bind,
    WithState.insert_bind (Hash.encode_fixed_eq _) (bytes_encode_fixed _),
    WithState.insert_bind (Hash.encode_fixed_eq _) encodes, WithState.pure_run]

omit [FixedCodec E] in
theorem remove_run (array : DefaultStoreArray E) (index : UInt32) {key : Hash}
    (found : array.keys.inner[index.toNat]? = some key) (state : GeneralServiceState T) :
    ∃ keys_bytes, array.remove_ index state =
      .ok ⟨array.var_name, ⟨array.keys.inner.eraseIdx index.toNat⟩⟩
        ((GeneralServiceState.Call.insert ([0xe1, 0xa0] ++ key.asBytes) []).step
          ((GeneralServiceState.Call.insert ([0xe1, 0xa0] ++ array.var_name.asBytes) keys_bytes).step
            state)) := by
  obtain ⟨keys_bytes, keys_written⟩ :=
    FixedKeys.encode_fixed_ok hash_inverse (array.keys.inner.eraseIdx index.toNat)
  refine ⟨keys_bytes, ?_⟩
  simp only [remove_, found, keys_written, codec_ok, WithState.lift_ok_bind,
    WithState.insert_bind (Hash.encode_fixed_eq _) (bytes_encode_fixed _), WithState.pure_run]

theorem inner_get_run (array : DefaultStoreArray E) (index : UInt32) {key : Hash}
    (found : array.keys.inner[index.toNat]? = some key) (state : GeneralServiceState T) :
    array.get_ index state =
      match (state.get key : ProtocolResult (Option E)) with
      | .ok (some value) => .ok value state
      | .ok none => WithState.lift (Fail.mapFail (fun _ => ProtocolError.Store .DecodeError)
          (decode_fixed [])) state
      | .error failure => .error failure state := by
  simp only [get_, found]
  show EStateM.bind _ _ _ = _
  simp only [EStateM.bind, WithState.get, WithState.lift]
  cases (state.get key : ProtocolResult (Option E)) with
  | ok value => cases value <;> rfl
  | error failure => rfl

/-- Pushing an element twice and removing the first copy leaves the second one
reading as the empty bytes: both copies have the slot of the element's digest. -/
theorem store_array_remove_clears_equal (var_name : Hash) (elm : E) {encoded : Bytes}
    (encodes : encode_fixed elm = .ok encoded) (state : GeneralServiceState T) :
    Trace.returned ((do
        let array ← push_ digest (⟨var_name, ⟨[]⟩⟩ : DefaultStoreArray E) elm
        let array ← push_ digest array elm
        let array ← remove_ array 0
        array.get_ 0) state) = codec (decode_fixed ([] : Bytes)) := by
  obtain ⟨first_keys, first⟩ := push_run digest ⟨var_name, ⟨[]⟩⟩ elm encodes state
  obtain ⟨second_keys, second⟩ := push_run (T := T) digest _ elm encodes _
  -- both copies carry the key `digest encoded`; removing position 0 leaves one
  obtain ⟨removed_keys, removed⟩ :=
    remove_run (T := T) (⟨var_name, ⟨[digest encoded, digest encoded]⟩⟩ : DefaultStoreArray E) 0 rfl _
  rw [WithState.bind_of_ok first, WithState.bind_of_ok second]
  simp only [List.nil_append, List.singleton_append]
  rw [WithState.bind_of_ok removed]
  -- the last write to the slot of `digest encoded` is the removal's empty bytes
  rw [inner_get_run (T := T) _ 0 rfl, get_written (Hash.encode_fixed_eq _) []]
  cases (codec (decode_fixed ([] : Bytes)) : ProtocolResult E) <;> rfl

/-- The repository's own test array of `Bytes`: after pushing `"111"` twice and
removing position 0, position 0 reads the empty bytes, whatever the digest. -/
theorem store_array_remove_clears_equal_bytes :
    Trace.returned ((do
        let array ← push_ (fun _ => ⟨List.replicate 32 0, Hash.zeros_length⟩)
          (⟨⟨List.replicate 32 0, Hash.zeros_length⟩, ⟨[]⟩⟩ : DefaultStoreArray Bytes)
          ([0x31, 0x31, 0x31] : Bytes)
        let array ← push_ (fun _ => ⟨List.replicate 32 0, Hash.zeros_length⟩) array
          ([0x31, 0x31, 0x31] : Bytes)
        let array ← remove_ array 0
        array.get_ 0) (GeneralServiceState.new (MapTrie.new (fun _ => none)
          (fun _ => ⟨List.replicate 32 0, Hash.zeros_length⟩)))) = .ok [] :=
  store_array_remove_clears_equal (fun _ => ⟨List.replicate 32 0, Hash.zeros_length⟩)
    ⟨List.replicate 32 0, Hash.zeros_length⟩ ([0x31, 0x31, 0x31] : Bytes) rfl _

end DefaultStoreArray

end Muta.Framework
