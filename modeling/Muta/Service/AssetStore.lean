import Muta.Service.Asset
import Muta.FixedCodec.Block
import Muta.Framework.Store.MapRefinement
import Muta.Lib.Simulation

/-! The asset service over the state of its SDK, and that it refines the plain maps.

`types.rs` writes an `Asset` as the list of its five fields, and an
`AssetBalance` as its value followed by the list of its allowances, each an
`AllowanceCodec` of an address and an amount, in the order of the `BTreeMap`;
the decoder inserts them back one by one. Both read back (`asset_readback`,
`asset_balance_readback`).

`AssetService<SDK>` keeps its assets in the `DefaultStoreMap` "assets", opened
by `AssetService::new` on every call, and each balance under `get_address_key`
of its address and asset id in the SDK's `GeneralServiceState`; a failure of the
SDK or of the map panics. `SdkM` runs the methods of `Muta.AssetService` there.
With `Hash::digest` collision-free on the slots of the addresses and ids a run
uses, each call of the SDK does what the plain-map call does (`Holds`), every
call of the service returns the same response as over `AssetState`, and a run of
calls from genesis leaves a state that represents the plain maps' run
(`store_refines_plain_maps`).
-/

set_option autoImplicit false

namespace Muta.AssetService

open Rlp FixedCodec

/-! ### The codecs of `types.rs` -/

def Asset.rlpAppend (asset : Asset) : MayPanic Bytes :=
  beginList [Encodable.rlpAppend asset.id, Encodable.rlpAppend asset.name,
    Encodable.rlpAppend asset.symbol, Encodable.rlpAppend asset.supply,
    Encodable.rlpAppend asset.issuer]

/-- `impl rlp::Decodable for Asset`: the five items read in turn, with no check of
their number. -/
def Asset.decode (r : Rlp) : Rlp.Result Asset := do
  let id ← (← r.at 0).asVal
  let name ← (← r.at 1).asVal
  let symbol ← (← r.at 2).asVal
  let supply ← (← r.at 3).asVal
  let issuer ← (← r.at 4).asVal
  pure ⟨id, name, symbol, supply, issuer⟩

instance : Rlp.Encodable Asset := ⟨Asset.rlpAppend⟩
instance : Rlp.Decodable Asset := ⟨Asset.decode⟩

/-- `AllowanceCodec`: one allowance as it is written. -/
structure AllowanceCodec where
  addr : Address
  total : UInt64

def AllowanceCodec.rlpAppend (codec : AllowanceCodec) : MayPanic Bytes :=
  beginList [Encodable.rlpAppend codec.addr, Encodable.rlpAppend codec.total]

def AllowanceCodec.decode (r : Rlp) : Rlp.Result AllowanceCodec := do
  let addr ← (← r.at 0).asVal
  let total ← (← r.at 1).asVal
  pure ⟨addr, total⟩

instance : Rlp.Encodable AllowanceCodec := ⟨AllowanceCodec.rlpAppend⟩
instance : Rlp.Decodable AllowanceCodec := ⟨AllowanceCodec.decode⟩

/-- The allowances in the order `BTreeMap::iter` yields them. -/
def AssetBalance.codecList (balance : AssetBalance) : List AllowanceCodec :=
  balance.allowance.entries.map fun entry => ⟨entry.1, entry.2⟩

def AssetBalance.rlpAppend (balance : AssetBalance) : MayPanic Bytes :=
  beginList [Encodable.rlpAppend balance.value, appendList balance.codecList]

/-- `impl rlp::Decodable for AssetBalance`: the allowances are read with
`rlp::decode_list`, which panics on a list it cannot read, and inserted in order
into an empty map. -/
def AssetBalance.decode (r : Rlp) : Rlp.Result AssetBalance := do
  let value ← (← r.at 0).asVal
  let codec_list : List AllowanceCodec ← decodeList (← r.at 1).asRaw
  let allowance := codec_list.foldl (fun allowance v => allowance.insert v.addr v.total) SortedMap.empty
  pure ⟨value, allowance⟩

instance : Rlp.Encodable AssetBalance := ⟨AssetBalance.rlpAppend⟩
instance : Rlp.Decodable AssetBalance := ⟨AssetBalance.decode⟩

instance : FixedCodec Asset := implDefaultFixedCodecFor Asset
instance : FixedCodec AssetBalance := implDefaultFixedCodecFor AssetBalance

/-! ### Read back -/

theorem asset_readback : Readback Asset (fun _ => True) := by
  intro asset _
  obtain ⟨e0, w0, r0⟩ := hash_readback asset.id trivial
  obtain ⟨e1, w1, r1⟩ := readback_string asset.name trivial
  obtain ⟨e2, w2, r2⟩ := readback_string asset.symbol trivial
  obtain ⟨e3, w3, r3⟩ := readback_uint64 asset.supply trivial
  obtain ⟨e4, w4, r4⟩ := address_readback asset.issuer trivial
  refine ⟨encodeList [e0, e1, e2, e3, e4].flatten, ?_,
    reads_of_items ⟨r0.framed, r1.framed, r2.framed, r3.framed, r4.framed⟩ fun r view fits => ?_⟩
  · show Asset.rlpAppend _ = _
    simp [Asset.rlpAppend, beginList, List.mapM_cons, w0, w1, w2, w3, w4]
  · obtain ⟨f0, f1, f2, f3, f4⟩ := fits
    show Asset.decode r = _
    simp [Asset.decode, view.at_eq, Rlp.asVal, r0.decode f0, r1.decode f1, r2.decode f2,
      r3.decode f3, r4.decode f4]

theorem allowance_codec_readback : Readback AllowanceCodec (fun _ => True) := by
  intro codec _
  obtain ⟨e0, w0, r0⟩ := address_readback codec.addr trivial
  obtain ⟨e1, w1, r1⟩ := readback_uint64 codec.total trivial
  refine ⟨encodeList [e0, e1].flatten, ?_,
    reads_of_items ⟨r0.framed, r1.framed⟩ fun r view fits => ?_⟩
  · show AllowanceCodec.rlpAppend _ = _
    simp [AllowanceCodec.rlpAppend, beginList, List.mapM_cons, w0, w1]
  · obtain ⟨f0, f1⟩ := fits
    show AllowanceCodec.decode r = _
    simp [AllowanceCodec.decode, view.at_eq, Rlp.asVal, r0.decode f0, r1.decode f1]

theorem foldl_codecList (balance : AssetBalance) :
    balance.codecList.foldl (fun allowance v => allowance.insert v.addr v.total) SortedMap.empty =
      balance.allowance := by
  rw [AssetBalance.codecList, List.foldl_map]
  exact SortedMap.foldl_insert_entries balance.allowance

theorem asset_balance_readback : Readback AssetBalance (fun _ => True) := by
  intro balance _
  obtain ⟨e0, w0, r0⟩ := readback_uint64 balance.value trivial
  obtain ⟨e1, w1, r1⟩ := readback_list allowance_codec_readback balance.codecList fun _ _ => trivial
  refine ⟨encodeList [e0, e1].flatten, ?_,
    reads_of_items ⟨r0.framed, fun fits => (r1 fits).1⟩ fun r view fits => ?_⟩
  · show AssetBalance.rlpAppend _ = _
    simp [AssetBalance.rlpAppend, beginList, List.mapM_cons, w0, w1]
  · obtain ⟨f0, f1⟩ := fits
    show AssetBalance.decode r = _
    simp [AssetBalance.decode, view.at_eq, Rlp.asVal, Rlp.asRaw, r0.decode f0,
      decode_list_readback r1 f1, foldl_codecList]

/-! ### Lengths

A balance with fewer than 2^32 allowances, and an asset whose name and symbol
have fewer than 2^62 bytes, are written as byte vectors of a machine length, so
their codecs round trip with no further condition. -/

theorem fixed_bytes_rlp_append_eq (bytes : Bytes) :
    fixedBytesRlpAppend bytes = .ok (encodeList (encodeValue bytes)) := by
  have written := begin_list_ok [encodeValue bytes]
  simp only [List.map_cons, List.map_nil, List.flatten_cons, List.flatten_nil, List.append_nil] at written
  exact written

@[simp] theorem uint64_rlp_append (n : UInt64) :
    Encodable.rlpAppend n = .ok (encodeValue (toBe n.toNat)) := rfl

theorem length_fixed_bytes_le (bytes : Bytes) (fits : bytes.length < 2 ^ 62) :
    (encodeList (encodeValue bytes)).length ≤ bytes.length + 18 := by
  have value := length_encode_value_le bytes (by omega)
  have list := length_encode_list_le (encodeValue bytes) (by omega)
  omega

theorem length_uint64_le (n : UInt64) : (encodeValue (toBe n.toNat)).length ≤ 17 := by
  have digits : (toBe n.toNat).length ≤ 8 := length_to_be_le.mpr (by simpa using n.toNat_lt)
  have value := length_encode_value_le (toBe n.toNat) (by omega)
  omega

def AllowanceCodec.encoding (codec : AllowanceCodec) : Bytes :=
  encodeList (encodeList (encodeValue codec.addr.asBytes) ++ encodeValue (toBe codec.total.toNat))

theorem AllowanceCodec.rlp_append_eq (codec : AllowanceCodec) :
    Encodable.rlpAppend codec = .ok codec.encoding := by
  show AllowanceCodec.rlpAppend codec = _
  simpa [AllowanceCodec.rlpAppend, Encodable.rlpAppend, Address.rlpAppend,
    fixed_bytes_rlp_append_eq, AllowanceCodec.encoding] using
    begin_list_ok [encodeList (encodeValue codec.addr.asBytes), encodeValue (toBe codec.total.toNat)]

theorem AllowanceCodec.length_encoding_le (codec : AllowanceCodec) : codec.encoding.length ≤ 64 := by
  have address := length_fixed_bytes_le codec.addr.asBytes (by simp [Address.asBytes, codec.addr.length_eq])
  have total := length_uint64_le codec.total
  have length_eq : codec.addr.asBytes.length = 20 := codec.addr.length_eq
  have list := length_encode_list_le (encodeList (encodeValue codec.addr.asBytes) ++
    encodeValue (toBe codec.total.toNat)) (by simp only [List.length_append]; omega)
  simp only [List.length_append] at list
  unfold AllowanceCodec.encoding
  omega

def AssetBalance.encoding (balance : AssetBalance) : Bytes :=
  encodeList (encodeValue (toBe balance.value.toNat) ++
    encodeList (balance.codecList.map AllowanceCodec.encoding).flatten)

theorem AssetBalance.rlp_append_eq (balance : AssetBalance) :
    Encodable.rlpAppend balance = .ok balance.encoding := by
  have items : balance.codecList.map (Encodable.rlpAppend : AllowanceCodec → MayPanic Bytes) =
      (balance.codecList.map AllowanceCodec.encoding).map .ok := by
    simp only [List.map_map]
    exact List.map_congr_left fun codec _ => codec.rlp_append_eq
  show AssetBalance.rlpAppend balance = _
  simp only [AssetBalance.rlpAppend, appendList, items, begin_list_ok]
  simpa [AssetBalance.encoding] using begin_list_ok [encodeValue (toBe balance.value.toNat),
    encodeList (balance.codecList.map AllowanceCodec.encoding).flatten]

theorem AssetBalance.length_encoding_lt (balance : AssetBalance)
    (few : balance.allowance.entries.length < 2 ^ 32) : balance.encoding.length < 2 ^ 64 := by
  have count : (balance.codecList.map AllowanceCodec.encoding).length < 2 ^ 32 := by
    simpa [AssetBalance.codecList] using few
  have payload : (balance.codecList.map AllowanceCodec.encoding).flatten.length ≤
      (balance.codecList.map AllowanceCodec.encoding).length * 64 := by
    rw [List.length_flatten]
    calc ((balance.codecList.map AllowanceCodec.encoding).map List.length).sum
        ≤ ((balance.codecList.map AllowanceCodec.encoding).map List.length).length • 64 :=
          List.sum_le_card_nsmul _ _ (by simp [AllowanceCodec.length_encoding_le])
      _ = (balance.codecList.map AllowanceCodec.encoding).length * 64 := by simp
  have value := length_uint64_le balance.value
  have list := length_encode_list_le (balance.codecList.map AllowanceCodec.encoding).flatten (by omega)
  have whole := length_encode_list_le (encodeValue (toBe balance.value.toNat) ++
    encodeList (balance.codecList.map AllowanceCodec.encoding).flatten)
    (by simp only [List.length_append]; omega)
  simp only [List.length_append] at whole
  unfold AssetBalance.encoding
  omega

theorem asset_balance_round_trip (balance : AssetBalance)
    (few : balance.allowance.entries.length < 2 ^ 32) :
    encode_fixed balance = .ok balance.encoding ∧ decode_fixed balance.encoding = .ok balance := by
  obtain ⟨bytes, writes, reads⟩ := round_trips_of_readback asset_balance_readback balance trivial
  have same : bytes = balance.encoding := by
    simp only [default_encode_fixed, Rlp.encode, AssetBalance.rlp_append_eq] at writes
    exact (Except.ok.inj writes).symm
  subst same
  exact ⟨writes, reads (balance.length_encoding_lt few)⟩

def Asset.Short (asset : Asset) : Prop :=
  (Rlp.utf8 asset.name).length + (Rlp.utf8 asset.symbol).length < 2 ^ 62

instance : DecidablePred Asset.Short := fun asset =>
  inferInstanceAs (Decidable ((Rlp.utf8 asset.name).length + (Rlp.utf8 asset.symbol).length < 2 ^ 62))

def Asset.encoding (asset : Asset) : Bytes :=
  encodeList (encodeList (encodeValue asset.id.asBytes) ++ encodeValue (Rlp.utf8 asset.name) ++
    encodeValue (Rlp.utf8 asset.symbol) ++ encodeValue (toBe asset.supply.toNat) ++
    encodeList (encodeValue asset.issuer.asBytes))

theorem Asset.rlp_append_eq (asset : Asset) : Encodable.rlpAppend asset = .ok asset.encoding := by
  show Asset.rlpAppend asset = _
  simpa [Asset.rlpAppend, Encodable.rlpAppend, Hash.rlpAppend, Address.rlpAppend,
    fixed_bytes_rlp_append_eq, Asset.encoding] using
    begin_list_ok [encodeList (encodeValue asset.id.asBytes), encodeValue (Rlp.utf8 asset.name),
      encodeValue (Rlp.utf8 asset.symbol), encodeValue (toBe asset.supply.toNat),
      encodeList (encodeValue asset.issuer.asBytes)]

theorem Asset.length_encoding_lt (asset : Asset) (short : asset.Short) : asset.encoding.length < 2 ^ 64 := by
  unfold Asset.Short at short
  have id_length : asset.id.asBytes.length = 32 := asset.id.as_bytes_length
  have issuer_length : asset.issuer.asBytes.length = 20 := asset.issuer.length_eq
  have id := length_fixed_bytes_le asset.id.asBytes (by omega)
  have name := length_encode_value_le (Rlp.utf8 asset.name) (by omega)
  have symbol := length_encode_value_le (Rlp.utf8 asset.symbol) (by omega)
  have supply := length_uint64_le asset.supply
  have issuer := length_fixed_bytes_le asset.issuer.asBytes (by omega)
  have whole := length_encode_list_le (encodeList (encodeValue asset.id.asBytes) ++
    encodeValue (Rlp.utf8 asset.name) ++ encodeValue (Rlp.utf8 asset.symbol) ++
    encodeValue (toBe asset.supply.toNat) ++ encodeList (encodeValue asset.issuer.asBytes))
    (by simp only [List.length_append]; omega)
  simp only [List.length_append] at whole
  unfold Asset.encoding
  omega

theorem asset_round_trip (asset : Asset) (short : asset.Short) :
    encode_fixed asset = .ok asset.encoding ∧ decode_fixed asset.encoding = .ok asset := by
  obtain ⟨bytes, writes, reads⟩ := round_trips_of_readback asset_readback asset trivial
  have same : bytes = asset.encoding := by
    simp only [default_encode_fixed, Rlp.encode, Asset.rlp_append_eq] at writes
    exact (Except.ok.inj writes).symm
  subst same
  exact ⟨writes, reads (asset.length_encoding_lt short)⟩

/-- The codecs of `types.rs` write and read back every balance with fewer than 2^32
allowances, its allowances in the order of the map, and every asset whose name and
symbol have a machine length. -/
theorem asset_codecs_round_trip :
    (∀ balance : AssetBalance, balance.allowance.entries.length < 2 ^ 32 →
      encode_fixed balance = .ok balance.encoding ∧ decode_fixed balance.encoding = .ok balance) ∧
    ∀ asset : Asset, asset.Short →
      encode_fixed asset = .ok asset.encoding ∧ decode_fixed asset.encoding = .ok asset :=
  ⟨asset_balance_round_trip, asset_round_trip⟩

/-- A balance of 1000 with one allowance, and the asset of genesis. -/
theorem asset_codecs_round_trip_sample :
    decode_fixed (⟨1000, SortedMap.empty.insert (sampleAddress 2) 5⟩ : AssetBalance).encoding =
        .ok (⟨1000, SortedMap.empty.insert (sampleAddress 2) 5⟩ : AssetBalance) ∧
      decode_fixed (⟨sampleHash 1, "Muta", "MT", 1000, sampleAddress 1⟩ : Asset).encoding =
        .ok (⟨sampleHash 1, "Muta", "MT", 1000, sampleAddress 1⟩ : Asset) :=
  ⟨(asset_codecs_round_trip.1 _ (by decide)).2, (asset_codecs_round_trip.2 _ (by decide)).2⟩

/-! ### The service over its SDK -/

open Framework
open Framework.DefaultStoreMap (stateKey varSlot valueSlot HoldsAt Stores state_key_injective)

/-- What a call of the service works on: the state of its SDK, and the handle of
the map "assets" that `AssetService::new` opened. -/
structure ServiceStore (T : Type) where
  state : GeneralServiceState T
  assets : DefaultStoreMap Hash Asset

/-- The methods over the SDK, with `Hash::digest` given: a failure of the SDK or
of the map panics, and what was written before it stays. -/
abbrev SdkM (T : Type) := ReaderT (Bytes → Hash) (EStateM (Fail Framework.ProtocolError) (ServiceStore T))

instance serviceSdk {T : Type} [MPTTrie T] : AssetSdk (SdkM T) where
  assetsContains id := fun _ store => .ok (store.assets.contains id) store
  assetsInsert id asset := fun digest store =>
    match store.assets.insert digest id asset store.state with
    | .ok assets state => .ok () ⟨state, assets⟩
    | .error failure state => .error failure { store with state }
  getAccountValue address asset_id := fun digest store =>
    match Fail.expect "service sdk get account value failed"
        (store.state.getAccountValue digest address asset_id :
          Framework.ProtocolResult (Option AssetBalance)) with
    | .ok found => .ok found store
    | .error failure => .error failure store
  setAccountValue address asset_id balance := fun digest store =>
    match Fail.expect "service sdk set account value failed"
        (store.state.setAccountValue digest address asset_id balance) with
    | .ok state => .ok () { store with state }
    | .error failure => .error failure store


section SdkRun

variable {T : Type} [MPTTrie T] (digest : Bytes → Hash) (store : ServiceStore T)

theorem sdk_assets_contains_run (id : Hash) :
    (assetsContains id : SdkM T Bool).run digest store = .ok (store.assets.contains id) store := rfl

theorem sdk_assets_insert_run {id : Hash} {asset : Asset} {assets : DefaultStoreMap Hash Asset}
    {state : GeneralServiceState T} (returns : store.assets.insert digest id asset store.state = .ok assets state) :
    (assetsInsert id asset : SdkM T Unit).run digest store = .ok () ⟨state, assets⟩ := by
  simp only [ReaderT.run, assetsInsert, returns]

theorem sdk_get_account_value_run {address : Address} {asset_id : Hash} {found : Option AssetBalance}
    (read : (store.state.getAccountValue digest address asset_id : Framework.ProtocolResult _) = .ok found) :
    (getAccountValue address asset_id : SdkM T _).run digest store = .ok found store := by
  simp only [ReaderT.run, getAccountValue, read, Fail.expect_ok]

theorem sdk_set_account_value_run {address : Address} {asset_id : Hash} {balance : AssetBalance}
    {state : GeneralServiceState T}
    (written : store.state.setAccountValue digest address asset_id balance = .ok state) :
    (setAccountValue address asset_id balance : SdkM T Unit).run digest store = .ok () { store with state } := by
  simp only [ReaderT.run, setAccountValue, written, Fail.expect_ok]

end SdkRun

/-! ### Slots -/

section Slots

variable (digest : Bytes → Hash) (addresses : List Address) (ids : List Hash)

def accountSlot (address : Address) (asset_id : Hash) : Hash :=
  digest (address.asBytes ++ stateKey asset_id)

theorem get_address_key_eq (address : Address) (asset_id : Hash) :
    GeneralServiceState.getAddressKey digest address asset_id = .ok (accountSlot digest address asset_id) := by
  simp only [GeneralServiceState.getAddressKey, Hash.encode_fixed_eq, codec_ok, except_ok_bind]
  rfl

/-- `Hash::digest` has no collision among the slots a run over `addresses` and
`ids` writes: those of the map "assets" with keys from `ids`, and the account of
each address in each asset. Both lists are shorter than 2^32. -/
structure SlotsApart : Prop where
  map : DefaultStoreMap.CollisionFree digest ["assets"] ids
  account_injective : ∀ a ∈ addresses, ∀ i ∈ ids, ∀ b ∈ addresses, ∀ j ∈ ids,
    accountSlot digest a i = accountSlot digest b j → a = b ∧ i = j
  account_not_var : ∀ a ∈ addresses, ∀ i ∈ ids, accountSlot digest a i ≠ varSlot digest "assets"
  account_not_value : ∀ a ∈ addresses, ∀ i ∈ ids, ∀ k ∈ ids,
    (valueSlot digest "assets" k : Framework.ProtocolResult Hash) ≠ .ok (accountSlot digest a i)
  few_addresses : addresses.length < 2 ^ 32
  few_ids : ids.length < 2 ^ 32

def AccountAt (view : Bytes → Option Bytes) (address : Address) (asset_id : Hash) :
    Option AssetBalance → Prop
  | some balance => HoldsAt view (accountSlot digest address asset_id) balance
  | none => view (stateKey (accountSlot digest address asset_id)) = none

def Granted (balance : AssetBalance) : Prop := balance.allowance.keys ⊆ addresses

variable {digest addresses ids}

theorem AccountAt.congr {view view' : Bytes → Option Bytes} {address : Address} {asset_id : Hash}
    {account : Option AssetBalance} (at_slot : AccountAt digest view address asset_id account)
    (same : view' (stateKey (accountSlot digest address asset_id)) =
      view (stateKey (accountSlot digest address asset_id))) :
    AccountAt digest view' address asset_id account := by
  cases account with
  | none => exact same.trans at_slot
  | some balance =>
    obtain ⟨bytes, held, decodes⟩ := at_slot
    exact ⟨bytes, same.trans held, decodes⟩

theorem SlotsApart.account_key_ne (apart : SlotsApart digest addresses ids) {a b : Address} {i j : Hash}
    (a_mem : a ∈ addresses) (i_mem : i ∈ ids) (b_mem : b ∈ addresses) (j_mem : j ∈ ids)
    (differ : ¬(a = b ∧ i = j)) :
    stateKey (accountSlot digest a i) ≠ stateKey (accountSlot digest b j) := fun same =>
  differ (apart.account_injective a a_mem i i_mem b b_mem j j_mem (state_key_injective same))

theorem SlotsApart.occupied_ne_account (apart : SlotsApart digest addresses ids)
    {model : OrderedMap Hash Asset} (drawn : model.keys ⊆ ids) {address : Address}
    (address_mem : address ∈ addresses) {asset_id : Hash} (id_mem : asset_id ∈ ids) :
    ∀ slot, DefaultStoreMap.Occupies digest "assets" model slot →
      stateKey slot ≠ stateKey (accountSlot digest address asset_id) := by
  rintro slot (rfl | ⟨key, member, slot_ok⟩) same
  · exact apart.account_not_var address address_mem asset_id id_mem (state_key_injective same).symm
  · rw [state_key_injective same] at slot_ok
    exact apart.account_not_value address address_mem asset_id id_mem key (drawn member) slot_ok

theorem Granted.getD {found : Option AssetBalance} (granted : ∀ balance ∈ found, Granted addresses balance) :
    Granted addresses (found.getD .empty) := by
  cases found with
  | none => intro _ member; simp [AssetBalance.empty, SortedMap.keys, SortedMap.empty] at member
  | some balance => exact granted balance rfl

theorem Granted.fresh (value : UInt64) : Granted addresses ⟨value, .empty⟩ := by
  intro _ member
  simp [SortedMap.keys, SortedMap.empty] at member

theorem Granted.with_value {balance : AssetBalance} (granted : Granted addresses balance) (value : UInt64) :
    Granted addresses ⟨value, balance.allowance⟩ :=
  granted

theorem Granted.insert {balance : AssetBalance} (granted : Granted addresses balance) {grantee : Address}
    (grantee_mem : grantee ∈ addresses) (amount : UInt64) :
    Granted addresses ⟨balance.value, balance.allowance.insert grantee amount⟩ := by
  intro other member
  rcases SortedMap.mem_keys_insert.mp member with rfl | old
  · exact grantee_mem
  · exact granted old

theorem Granted.few (few : addresses.length < 2 ^ 32) {balance : AssetBalance} (granted : Granted addresses balance) :
    balance.allowance.entries.length < 2 ^ 32 := by
  have length : balance.allowance.keys.length = balance.allowance.entries.length := List.length_map _
  have bound := ((SortedMap.keys_nodup balance.allowance).subperm granted).length_le
  omega

end Slots

/-! ### The store holds the plain maps -/

section Holds

variable {T : Type} [MPTTrie T] (digest : Bytes → Hash) (addresses : List Address) (ids : List Hash)

/-- The store holds the plain maps: the handle "assets" and the state hold the
plain assets, whose ids are drawn from `ids`, and the slot of each account of
`addresses` in `ids` holds the plain account, granted to `addresses` only. -/
structure Holds (store : ServiceStore T) (state : AssetState) : Prop where
  assets : ∃ model : OrderedMap Hash Asset, Stores digest "assets" store.assets model store.state.view ∧
    model.keys ⊆ ids ∧ ∀ id, state.assets id = model.get id
  accounts : ∀ address ∈ addresses, ∀ asset_id ∈ ids,
    AccountAt digest store.state.view address asset_id (state.accounts address asset_id)
  granted : ∀ address ∈ addresses, ∀ asset_id ∈ ids, ∀ balance ∈ state.accounts address asset_id,
    Granted addresses balance

/-- Between calls only the state stays: it holds the plain maps under the handle
the next call opens. -/
def Represents (state : GeneralServiceState T) (plain : AssetState) : Prop :=
  ∃ assets, Holds digest addresses ids ⟨state, assets⟩ plain

end Holds

/-! ### Each call of the SDK does what the plain call does -/

section Calls

open Simulation

variable {T : Type} [MPTTrie T] {digest : Bytes → Hash} {addresses : List Address} {ids : List Hash}

theorem get_account_value_eq (state : GeneralServiceState T) (address : Address) (asset_id : Hash) :
    (state.getAccountValue digest address asset_id : Framework.ProtocolResult (Option AssetBalance)) =
      state.get (accountSlot digest address asset_id) := by
  simp only [GeneralServiceState.getAccountValue, get_address_key_eq, except_ok_bind]

theorem Holds.get_account_value {store : ServiceStore T} {state : AssetState}
    (holds : Holds digest addresses ids store state) {address : Address} (address_mem : address ∈ addresses)
    {asset_id : Hash} (id_mem : asset_id ∈ ids) :
    (store.state.getAccountValue digest address asset_id : Framework.ProtocolResult (Option AssetBalance)) =
      .ok (state.accounts address asset_id) := by
  rw [get_account_value_eq]
  have at_slot := holds.accounts address address_mem asset_id id_mem
  cases found : state.accounts address asset_id with
  | none =>
    rw [found] at at_slot
    exact DefaultStoreMap.get_slot_none _ _ at_slot
  | some balance =>
    rw [found] at at_slot
    obtain ⟨bytes, held, decodes⟩ := at_slot
    rw [DefaultStoreMap.get_slot _ _ held, decodes]
    rfl

theorem assets_contains_simulates (id : Hash) :
    Simulates (Holds digest addresses ids) digest (assetsContains id : SdkM T Bool) (assetsContains id)
      fun _ => True := by
  intro store state holds
  obtain ⟨model, stores, -, assets_eq⟩ := holds.assets
  refine ⟨trivial, store, ?_, holds⟩
  -- the handle has the id exactly when the plain map has an asset under it
  have same : store.assets.contains id = (state.assets id).isSome := by
    rw [stores.contains_eq, assets_eq]
    cases found : model.get id with
    | none => simp [OrderedMap.get_eq_none.mp found]
    | some asset => simp [OrderedMap.mem_keys_iff.mpr ⟨asset, found⟩]
  rw [sdk_assets_contains_run, same]
  rfl

theorem get_account_value_simulates {address : Address} (address_mem : address ∈ addresses)
    {asset_id : Hash} (id_mem : asset_id ∈ ids) :
    Simulates (Holds digest addresses ids) digest (getAccountValue address asset_id : SdkM T _)
      (getAccountValue address asset_id) fun found => ∀ balance ∈ found, Granted addresses balance := by
  intro store state holds
  exact ⟨holds.granted address address_mem asset_id id_mem, store,
    sdk_get_account_value_run digest store (holds.get_account_value address_mem id_mem), holds⟩

theorem set_account_value_simulates (apart : SlotsApart digest addresses ids) {address : Address}
    (address_mem : address ∈ addresses) {asset_id : Hash} (id_mem : asset_id ∈ ids)
    {balance : AssetBalance} (granted : Granted addresses balance) :
    Simulates (Holds digest addresses ids) digest (setAccountValue address asset_id balance : SdkM T Unit)
      (setAccountValue address asset_id balance) fun _ => True := by
  intro store state holds
  obtain ⟨encodes, decodes⟩ := asset_balance_round_trip balance (granted.few apart.few_addresses)
  set key := stateKey (accountSlot digest address asset_id)
  have written : (store.state.setAccountValue digest address asset_id balance :
      Framework.ProtocolResult (GeneralServiceState T)) =
        .ok { store.state with cache_map := store.state.cache_map.insert key balance.encoding } := by
    simp only [GeneralServiceState.setAccountValue, get_address_key_eq, except_ok_bind]
    exact GeneralServiceState.insert_eq_ok _ (Hash.encode_fixed_eq _) encodes
  refine ⟨trivial, _, sdk_set_account_value_run digest store written, ?_⟩
  obtain ⟨model, stores, drawn, assets_eq⟩ := holds.assets
  refine ⟨⟨model, ?_, drawn, assets_eq⟩, fun other other_mem other_id other_id_mem => ?_,
    fun other other_mem other_id other_id_mem => ?_⟩
  · -- the map's slots are apart from the account's
    simp only [GeneralServiceState.view_write]
    exact stores.write_apart (apart.occupied_ne_account drawn address_mem id_mem) _
  · simp only [GeneralServiceState.view_write]
    show AccountAt digest _ other other_id ((state.setAccount address asset_id balance).accounts other other_id)
    rw [AssetState.accounts_set_account]
    split_ifs with same
    · obtain ⟨rfl, rfl⟩ := same
      exact ⟨balance.encoding, Function.update_self .., decodes⟩
    · refine (holds.accounts other other_mem other_id other_id_mem).congr ?_
      exact Function.update_of_ne (apart.account_key_ne other_mem other_id_mem address_mem id_mem same) _ _
  · show ∀ found ∈ (state.setAccount address asset_id balance).accounts other other_id, Granted addresses found
    rw [AssetState.accounts_set_account]
    split_ifs with same
    · rintro found ⟨⟩
      exact granted
    · exact holds.granted other other_mem other_id other_id_mem

theorem assets_insert_simulates (apart : SlotsApart digest addresses ids) {id : Hash} (id_mem : id ∈ ids)
    {asset : Asset} (short : asset.Short) :
    Simulates (Holds digest addresses ids) digest (assetsInsert id asset : SdkM T Unit) (assetsInsert id asset)
      fun _ => True := by
  intro store state holds
  obtain ⟨model, stores, drawn, assets_eq⟩ := holds.assets
  obtain ⟨encodes, decodes⟩ := asset_round_trip asset short
  obtain ⟨slot, slot_ok⟩ := DefaultStoreMap.value_slot_ok digest hash_inverse "assets" id
  obtain ⟨assets, state', returns, stores', frame⟩ :=
    stores.insert_run hash_inverse apart.map (DefaultStoreMap.short_hashes apart.few_ids) drawn
      (List.mem_singleton_self _) id_mem encodes decodes slot_ok
  refine ⟨trivial, ⟨state', assets⟩, sdk_assets_insert_run digest store returns, ?_⟩
  refine ⟨⟨model.insert id asset, stores', DefaultStoreMap.drawn_insert drawn id_mem asset, fun other => ?_⟩,
    fun other other_mem other_id other_id_mem => ?_, holds.granted⟩
  · show Function.update state.assets id (some asset) other = _
    rw [OrderedMap.get_insert, Function.update_apply, assets_eq]
  · -- the insert writes the map's name slot and the id's slot, neither an account's
    refine (holds.accounts other other_mem other_id other_id_mem).congr (frame _ ?_ ?_)
    · exact fun same => apart.account_not_var other other_mem other_id other_id_mem (state_key_injective same)
    · intro same
      rw [← state_key_injective same] at slot_ok
      exact apart.account_not_value other other_mem other_id other_id_mem id id_mem slot_ok

end Calls

/-! ### Each method does what it does over the plain maps -/

section Methods

open Simulation

variable {T : Type} [MPTTrie T] {digest : Bytes → Hash} {addresses : List Address} {ids : List Hash}
  (apart : SlotsApart digest addresses ids)
include apart

theorem _transfer_simulates {sender recipient : Address} (sender_mem : sender ∈ addresses)
    (recipient_mem : recipient ∈ addresses) {asset_id : Hash} (id_mem : asset_id ∈ ids) (value : UInt64) :
    Simulates (Holds digest addresses ids) digest (_transfer sender recipient asset_id value : SdkM T _)
      (_transfer sender recipient asset_id value) fun _ => True := by
  unfold _transfer
  refine Simulates.ite (fun _ => Simulates.pure trivial) fun _ => ?_
  refine (get_account_value_simulates (T := T) sender_mem id_mem).bind fun sender_found sender_granted => ?_
  refine Simulates.ite (fun _ => Simulates.pure trivial) fun _ => ?_
  refine (get_account_value_simulates (T := T) recipient_mem id_mem).bind fun recipient_found recipient_granted => ?_
  dsimp only
  -- both sides test the same sums
  generalize (recipient_found.getD .empty).value.overflowingAdd value = credited
  obtain ⟨credit, overflow⟩ := credited
  refine Simulates.ite (fun _ => Simulates.pure trivial) fun _ => ?_
  refine (set_account_value_simulates (T := T) apart recipient_mem id_mem
    ((Granted.getD recipient_granted).with_value _)).bind fun _ _ => ?_
  generalize (sender_found.getD .empty).value.overflowingSub value = debited
  obtain ⟨debit, underflow⟩ := debited
  refine Simulates.ite (fun _ => Simulates.pure trivial) fun _ => ?_
  exact (set_account_value_simulates (T := T) apart sender_mem id_mem
    ((Granted.getD sender_granted).with_value _)).bind fun _ _ => Simulates.pure trivial

theorem transfer_simulates (ctx : ServiceContext) (payload : TransferPayload)
    (caller_mem : ctx.caller ∈ addresses) (to_mem : payload.to ∈ addresses) (id_mem : payload.asset_id ∈ ids) :
    Simulates (Holds digest addresses ids) digest (transfer ctx payload : SdkM T _) (transfer ctx payload)
      fun _ => True := by
  unfold transfer
  refine (assets_contains_simulates (T := T) payload.asset_id).bind fun _ _ => ?_
  refine Simulates.ite (fun _ => Simulates.pure trivial) fun _ => ?_
  refine (_transfer_simulates apart caller_mem to_mem id_mem payload.value).bind fun result _ => ?_
  -- the answer follows the error of `_transfer`, the same on both sides
  cases result <;> exact Simulates.pure trivial

theorem approve_simulates (ctx : ServiceContext) (payload : ApprovePayload)
    (caller_mem : ctx.caller ∈ addresses) (to_mem : payload.to ∈ addresses) (id_mem : payload.asset_id ∈ ids) :
    Simulates (Holds digest addresses ids) digest (approve ctx payload : SdkM T _) (approve ctx payload)
      fun _ => True := by
  unfold approve
  refine Simulates.ite (fun _ => Simulates.pure trivial) fun _ => ?_
  refine (assets_contains_simulates (T := T) payload.asset_id).bind fun _ _ => ?_
  refine Simulates.ite (fun _ => Simulates.pure trivial) fun _ => ?_
  refine (get_account_value_simulates (T := T) caller_mem id_mem).bind fun found granted => ?_
  exact (set_account_value_simulates (T := T) apart caller_mem id_mem
    ((Granted.getD granted).insert to_mem _)).bind fun _ _ => Simulates.pure trivial

theorem transfer_from_simulates (ctx : ServiceContext) (payload : TransferFromPayload)
    (caller_mem : ctx.caller ∈ addresses) (sender_mem : payload.sender ∈ addresses)
    (recipient_mem : payload.recipient ∈ addresses) (id_mem : payload.asset_id ∈ ids) :
    Simulates (Holds digest addresses ids) digest (transferFrom ctx payload : SdkM T _) (transferFrom ctx payload)
      fun _ => True := by
  unfold transferFrom
  refine (assets_contains_simulates (T := T) payload.asset_id).bind fun _ _ => ?_
  refine Simulates.ite (fun _ => Simulates.pure trivial) fun _ => ?_
  refine (get_account_value_simulates (T := T) sender_mem id_mem).bind fun found granted => ?_
  refine Simulates.ite (fun _ => Simulates.pure trivial) fun _ => ?_
  -- the spent allowance is written before the transfer
  refine (set_account_value_simulates (T := T) apart sender_mem id_mem
    ((Granted.getD granted).insert caller_mem _)).bind fun _ _ => ?_
  refine (_transfer_simulates apart sender_mem recipient_mem id_mem payload.value).bind fun result _ => ?_
  cases result <;> exact Simulates.pure trivial

theorem create_asset_simulates (payload_json : CreateAssetPayload → String) (ctx : ServiceContext)
    (payload : CreateAssetPayload) (caller_mem : ctx.caller ∈ addresses)
    (id_mem : digest (Rlp.utf8 (payload_json payload ++ ctx.caller.asHex)) ∈ ids)
    (short : (Rlp.utf8 payload.name).length + (Rlp.utf8 payload.symbol).length < 2 ^ 62) :
    Simulates (Holds digest addresses ids) digest (createAsset digest payload_json ctx payload : SdkM T _)
      (createAsset digest payload_json ctx payload) fun _ => True := by
  unfold createAsset
  refine (assets_contains_simulates (T := T) _).bind fun _ _ => ?_
  refine Simulates.ite (fun _ => Simulates.pure trivial) fun _ => ?_
  have asset_short : Asset.Short ⟨digest (Rlp.utf8 (payload_json payload ++ ctx.caller.asHex)), payload.name,
      payload.symbol, payload.supply, ctx.caller⟩ := short
  refine (assets_insert_simulates (T := T) apart id_mem asset_short).bind fun _ _ => ?_
  exact (set_account_value_simulates (T := T) apart caller_mem id_mem (Granted.fresh _)).bind fun _ _ =>
    Simulates.pure trivial

theorem init_genesis_simulates (payload : InitGenesisPayload) (issuer_mem : payload.issuer ∈ addresses)
    (id_mem : payload.id ∈ ids) (short : (Rlp.utf8 payload.name).length + (Rlp.utf8 payload.symbol).length < 2 ^ 62) :
    Simulates (Holds digest addresses ids) digest (initGenesis payload : SdkM T Unit) (initGenesis payload)
      fun _ => True := by
  unfold initGenesis
  have asset_short : Asset.Short ⟨payload.id, payload.name, payload.symbol, payload.supply, payload.issuer⟩ :=
    short
  exact (assets_insert_simulates (T := T) apart id_mem asset_short).bind fun _ _ =>
    set_account_value_simulates apart issuer_mem id_mem (Granted.fresh _)

end Methods

/-- A call whose addresses are among `addresses` and whose asset ids are among
`ids`, and whose new asset, if it makes one, has a name and a symbol of a machine
length. -/
def AssetCall.Admissible (digest : Bytes → Hash) (json : Json) (addresses : List Address) (ids : List Hash) :
    AssetCall → Prop
  | .createAsset ctx payload => ctx.caller ∈ addresses ∧
    digest (Rlp.utf8 (json.create_payload payload ++ ctx.caller.asHex)) ∈ ids ∧
    (Rlp.utf8 payload.name).length + (Rlp.utf8 payload.symbol).length < 2 ^ 62
  | .transfer ctx payload => ctx.caller ∈ addresses ∧ payload.to ∈ addresses ∧ payload.asset_id ∈ ids
  | .approve ctx payload => ctx.caller ∈ addresses ∧ payload.to ∈ addresses ∧ payload.asset_id ∈ ids
  | .transferFrom ctx payload => ctx.caller ∈ addresses ∧ payload.sender ∈ addresses ∧
    payload.recipient ∈ addresses ∧ payload.asset_id ∈ ids

instance (digest : Bytes → Hash) (json : Json) (addresses : List Address) (ids : List Hash) :
    DecidablePred (AssetCall.Admissible digest json addresses ids) := fun call => by
  cases call <;> unfold AssetCall.Admissible <;> infer_instance

theorem AssetCall.write_simulates {T : Type} [MPTTrie T] {digest : Bytes → Hash} {addresses : List Address}
    {ids : List Hash} (apart : SlotsApart digest addresses ids) (json : Json) (call : AssetCall)
    (admitted : call.Admissible digest json addresses ids) :
    Simulation.Simulates (Holds digest addresses ids) digest (call.write_ digest json : SdkM T _)
      (call.write_ digest json) fun _ => True := by
  cases call with
  | createAsset ctx payload =>
    obtain ⟨caller_mem, id_mem, short⟩ := admitted
    exact ((create_asset_simulates apart json.create_payload ctx payload caller_mem id_mem short).map _).mono
      fun _ _ => trivial
  | transfer ctx payload =>
    obtain ⟨caller_mem, to_mem, id_mem⟩ := admitted
    exact ((transfer_simulates apart ctx payload caller_mem to_mem id_mem).map _).mono fun _ _ => trivial
  | approve ctx payload =>
    obtain ⟨caller_mem, to_mem, id_mem⟩ := admitted
    exact ((approve_simulates apart ctx payload caller_mem to_mem id_mem).map _).mono fun _ _ => trivial
  | transferFrom ctx payload =>
    obtain ⟨caller_mem, sender_mem, recipient_mem, id_mem⟩ := admitted
    exact ((transfer_from_simulates apart ctx payload caller_mem sender_mem recipient_mem id_mem).map _).mono
      fun _ _ => trivial

/-! ### Calls of the service over the state -/

section Runs

variable {T : Type} [MPTTrie T]

/-- A call on the service that `AssetService::new` makes over the state: the handle
of "assets" read from the state, then the method over the SDK. -/
def withService {α : Type} (digest : Bytes → Hash) (method : SdkM T α) : WithState T α := fun state =>
  match (DefaultStoreMap.new digest "assets" : WithState T (DefaultStoreMap Hash Asset)) state with
  | .ok assets state =>
    match method.run digest ⟨state, assets⟩ with
    | .ok value store => .ok value store.state
    | .error failure store => .error failure store.state
  | .error failure state => .error failure state

def AssetCall.run (digest : Bytes → Hash) (json : Json) (call : AssetCall) : WithState T ServiceResponse :=
  withService digest (call.write_ digest json)

def AssetCall.exec (digest : Bytes → Hash) (json : Json) (call : AssetCall) (state : GeneralServiceState T) :
    GeneralServiceState T :=
  Trace.after (call.run digest json state)

def genesisStore (digest : Bytes → Hash) (payload : InitGenesisPayload) (trie : T) : GeneralServiceState T :=
  Trace.after (withService digest (initGenesis payload) (GeneralServiceState.new trie))

variable {digest : Bytes → Hash} {addresses : List Address} {ids : List Hash}

/-- A call over a state that represents the plain maps returns what the plain call
returns and leaves a state that represents the plain state after it. -/
theorem with_service_run {α : Type} {method : SdkM T α} {plain : AssetM α} {post : α → Prop}
    (simulates : Simulation.Simulates (Holds digest addresses ids) digest method plain post)
    {state : GeneralServiceState T} {before : AssetState} (represents : Represents digest addresses ids state before) :
    ∃ state', withService digest method state = .ok (plain.run before).1 state' ∧
      Represents digest addresses ids state' (plain.run before).2 := by
  obtain ⟨assets, holds⟩ := represents
  obtain ⟨model, stores, drawn, assets_eq⟩ := holds.assets
  -- the call opens the handle again, and it holds the same model
  have opened : (DefaultStoreMap.new digest "assets" : WithState T (DefaultStoreMap Hash Asset)) state =
      .ok ⟨varSlot digest "assets", ⟨model.keys⟩⟩ state :=
    DefaultStoreMap.new_run digest "assets" state stores.listed
  have reopened : Holds digest addresses ids ⟨state, ⟨varSlot digest "assets", ⟨model.keys⟩⟩⟩ before :=
    ⟨⟨model, stores.reopen, drawn, assets_eq⟩, holds.accounts, holds.granted⟩
  obtain ⟨-, store, ran, holds'⟩ := simulates _ _ reopened
  refine ⟨store.state, ?_, store.assets, holds'⟩
  simp only [withService, opened, ran]

theorem AssetCall.run_refines (apart : SlotsApart digest addresses ids) (json : Json) {call : AssetCall}
    (admitted : call.Admissible digest json addresses ids) {state : GeneralServiceState T} {before : AssetState}
    (represents : Represents digest addresses ids state before) :
    ∃ state', call.run digest json state = .ok ((call.write_ (m := AssetM) digest json).run before).1 state' ∧
      Represents digest addresses ids state' (call.step digest json before) :=
  with_service_run (AssetCall.write_simulates apart json call admitted) represents

theorem AssetCall.exec_represents (apart : SlotsApart digest addresses ids) (json : Json) {call : AssetCall}
    (admitted : call.Admissible digest json addresses ids) {state : GeneralServiceState T} {before : AssetState}
    (represents : Represents digest addresses ids state before) :
    Represents digest addresses ids (call.exec digest json state) (call.step digest json before) := by
  obtain ⟨state', ran, represents'⟩ := AssetCall.run_refines apart json admitted represents
  rw [AssetCall.exec, ran, Trace.after_ok]
  exact represents'

theorem represents_new (trie : T) (fresh_assets : MPTTrie.get trie (stateKey (varSlot digest "assets")) = none)
    (fresh_accounts : ∀ a ∈ addresses, ∀ i ∈ ids, MPTTrie.get trie (stateKey (accountSlot digest a i)) = none) :
    Represents digest addresses ids (GeneralServiceState.new trie) AssetState.empty := by
  have view_new : (GeneralServiceState.new trie).view = MPTTrie.get trie := by
    funext key
    simp [GeneralServiceState.view, GeneralServiceState.new]
  refine ⟨⟨varSlot digest "assets", ⟨[]⟩⟩, ⟨⟨OrderedMap.empty, ⟨rfl, rfl, ?_, ?_⟩, by simp, fun _ => rfl⟩,
    fun a a_mem i i_mem => ?_,
    fun _ _ _ _ balance found => (Option.not_mem_none balance found).elim⟩⟩
  · show DefaultStoreMap.ListedAt _ _ []
    rw [DefaultStoreMap.ListedAt, view_new, fresh_assets]
  · intro key value found
    simp at found
  · show (GeneralServiceState.new trie).view (stateKey (accountSlot digest a i)) = none
    rw [view_new, fresh_accounts a a_mem i i_mem]

theorem genesis_represents (apart : SlotsApart digest addresses ids) (trie : T)
    (fresh_assets : MPTTrie.get trie (stateKey (varSlot digest "assets")) = none)
    (fresh_accounts : ∀ a ∈ addresses, ∀ i ∈ ids, MPTTrie.get trie (stateKey (accountSlot digest a i)) = none)
    (genesis : InitGenesisPayload) (issuer_mem : genesis.issuer ∈ addresses) (id_mem : genesis.id ∈ ids)
    (short : (Rlp.utf8 genesis.name).length + (Rlp.utf8 genesis.symbol).length < 2 ^ 62) :
    Represents digest addresses ids (genesisStore digest genesis trie) (genesisState genesis) := by
  obtain ⟨state', ran, represents'⟩ := with_service_run (init_genesis_simulates apart genesis issuer_mem id_mem short)
    (represents_new trie fresh_assets fresh_accounts)
  rw [genesisStore, ran, Trace.after_ok]
  exact represents'

theorem Represents.get_account_value {state : GeneralServiceState T} {plain : AssetState}
    (represents : Represents digest addresses ids state plain) {address : Address} (address_mem : address ∈ addresses)
    {asset_id : Hash} (id_mem : asset_id ∈ ids) :
    (state.getAccountValue digest address asset_id : Framework.ProtocolResult (Option AssetBalance)) =
      .ok (plain.accounts address asset_id) := by
  obtain ⟨_, holds⟩ := represents
  exact holds.get_account_value address_mem id_mem

theorem Represents.assets_get {state : GeneralServiceState T} {plain : AssetState}
    (represents : Represents digest addresses ids state plain) :
    ∃ assets, (DefaultStoreMap.new digest "assets" : WithState T (DefaultStoreMap Hash Asset)) state =
      .ok assets state ∧ ∀ id, assets.get digest id state = .ok (plain.assets id) state := by
  obtain ⟨_, holds⟩ := represents
  obtain ⟨model, stores, -, assets_eq⟩ := holds.assets
  refine ⟨_, DefaultStoreMap.new_run digest "assets" state stores.listed, fun id => ?_⟩
  rw [assets_eq]
  exact stores.reopen.get_eq id

/-- The service over its SDK refines the service over plain maps. From a new
chain, genesis and then any run of admissible calls leave a state whose account
store answers `get_account_value` with the plain accounts, whose map "assets"
opens to a handle that answers `get` with the plain assets, and on which every
admissible call answers as it does over the plain maps. -/
theorem store_refines_plain_maps (apart : SlotsApart digest addresses ids) (json : Json) (trie : T)
    (fresh_assets : MPTTrie.get trie (stateKey (varSlot digest "assets")) = none)
    (fresh_accounts : ∀ a ∈ addresses, ∀ i ∈ ids, MPTTrie.get trie (stateKey (accountSlot digest a i)) = none)
    (genesis : InitGenesisPayload) (issuer_mem : genesis.issuer ∈ addresses) (id_mem : genesis.id ∈ ids)
    (short : (Rlp.utf8 genesis.name).length + (Rlp.utf8 genesis.symbol).length < 2 ^ 62)
    (calls : List AssetCall) (admitted : ∀ call ∈ calls, call.Admissible digest json addresses ids) :
    let final := Trace.run (AssetCall.exec digest json) calls (genesisStore digest genesis trie)
    let plain := Trace.run (AssetCall.step digest json) calls (genesisState genesis)
    (∀ address ∈ addresses, ∀ asset_id ∈ ids,
      (final.getAccountValue digest address asset_id : Framework.ProtocolResult (Option AssetBalance)) =
        .ok (plain.accounts address asset_id)) ∧
    (∃ assets, (DefaultStoreMap.new digest "assets" : WithState T (DefaultStoreMap Hash Asset)) final =
        .ok assets final ∧ ∀ id, assets.get digest id final = .ok (plain.assets id) final) ∧
    ∀ call : AssetCall, call.Admissible digest json addresses ids →
      ∃ after, call.run digest json final = .ok ((call.write_ (m := AssetM) digest json).run plain).1 after := by
  intro final plain
  have represents : Represents digest addresses ids final plain :=
    Trace.run_simulation (AssetCall.exec digest json) (AssetCall.step digest json)
      (AssetCall.Admissible digest json addresses ids) (Represents digest addresses ids)
      (fun _ _ _ admitted represents => AssetCall.exec_represents apart json admitted represents) calls
      admitted _ _ (genesis_represents apart trie fresh_assets fresh_accounts genesis issuer_mem id_mem short)
  refine ⟨fun _ address_mem _ id_mem => represents.get_account_value address_mem id_mem,
    represents.assets_get, fun call admitted => ?_⟩
  obtain ⟨after, ran, -⟩ := AssetCall.run_refines apart json admitted represents
  exact ⟨after, ran⟩

end Runs

def sampleDigest (bytes : Bytes) : Hash :=
  ⟨(bytes.take 16 ++ bytes.reverse.take 16 ++ List.replicate 32 0).take 32, by
    simp only [List.length_take, List.length_append, List.length_reverse, List.length_replicate]
    omega⟩

def sampleCalls : List AssetCall :=
  [.approve (sampleContext (sampleAddress 1)) ⟨sampleHash 1, sampleAddress 2, 5⟩,
    .transferFrom (sampleContext (sampleAddress 2)) ⟨sampleHash 1, sampleAddress 1, sampleAddress 2, 3⟩,
    .transfer (sampleContext (sampleAddress 1)) ⟨sampleHash 1, sampleAddress 2, 300⟩]

def sampleTrie : MapTrie := MapTrie.new (fun _ => none) fun _ => sampleHash 0

def sampleStoreRun : GeneralServiceState MapTrie :=
  Trace.run (AssetCall.exec sampleDigest sampleJson) sampleCalls (genesisStore sampleDigest sampleGenesis sampleTrie)

def samplePlainRun : AssetState :=
  Trace.run (AssetCall.step sampleDigest sampleJson) sampleCalls (genesisState sampleGenesis)

theorem store_refines_plain_maps_sample :
    (∀ address ∈ [sampleAddress 1, sampleAddress 2], ∀ asset_id ∈ [sampleHash 1],
      (sampleStoreRun.getAccountValue sampleDigest address asset_id :
          Framework.ProtocolResult (Option AssetBalance)) =
        .ok (samplePlainRun.accounts address asset_id)) ∧
    (∃ assets, (DefaultStoreMap.new sampleDigest "assets" : WithState MapTrie (DefaultStoreMap Hash Asset))
        sampleStoreRun = .ok assets sampleStoreRun ∧
      ∀ id, assets.get sampleDigest id sampleStoreRun = .ok (samplePlainRun.assets id) sampleStoreRun) ∧
    ∀ call : AssetCall, call.Admissible sampleDigest sampleJson [sampleAddress 1, sampleAddress 2] [sampleHash 1] →
      ∃ after, call.run sampleDigest sampleJson sampleStoreRun =
        .ok ((call.write_ (m := AssetM) sampleDigest sampleJson).run samplePlainRun).1 after :=
  store_refines_plain_maps
    (show SlotsApart sampleDigest [sampleAddress 1, sampleAddress 2] [sampleHash 1] from
      ⟨⟨by decide, by decide, by decide⟩, by decide, by decide, by decide, by decide, by decide⟩)
    sampleJson sampleTrie rfl (fun _ _ _ _ => rfl) sampleGenesis (by decide) (by decide) (by decide)
    sampleCalls (by decide)

end Muta.AssetService
