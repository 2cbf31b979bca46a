import Muta.Codec.Proto
import Muta.FixedCodec.Basic
import Muta.Lib.ByteStore

/-! The storage adapters of `core/storage`: schemas, their key and value codecs, and
the `StorageAdapter` methods over a byte store.

A `StorageSchema` names the category of its column and the `ProtocolCodec`s of its
keys and values. Keys are written by their `encode_sync`: a `u64` as its eight
little-endian bytes, a `Hash` as prost writes the `Hash` message, the field key
`0x0a`, the length `0x20` and the 32 bytes. So the two kinds of keys never meet
(`UInt64.encode_sync_ne_hash`), and each is injective.

An adapter is its map from categories to columns: `MemoryAdapter` keeps every
category in its one `HashMap`, `RocksAdapter` opens a column family for each
(`map_category`); `cf_handle` cannot miss, since `RocksAdapter::new` opens all four.
The methods read and write the byte store through the schema's `Layout`.
-/

set_option autoImplicit false

namespace Muta.Storage

open ByteStore Function

inductive StorageCategory where
  | Block
  | Receipt
  | SignedTransaction
  | Wal
  deriving DecidableEq, Repr

inductive StorageError where
  | GetNone
  deriving DecidableEq, Repr

/-- `MemoryAdapterError` and `RocksAdapterError`, as far as the adapters return them. -/
inductive AdapterError where
  | BatchLengthMismatch
  deriving DecidableEq, Repr

set_option linter.dupNamespace false in
/-- The errors the storage returns, each the `ProtocolError` of its kind. -/
inductive ProtocolError where
  | Codec (error : Proto.ProtocolError)
  | FixedCodec (error : FixedCodecError)
  | Storage (error : StorageError)
  | Adapter (error : AdapterError)
  deriving DecidableEq, Repr

abbrev StorageResult (α : Type) := Except (Fail ProtocolError) α

/-! ### Key codecs -/

/-- prost's varint: seven bits a byte, least significant first, the high bit set on
every byte but the last. -/
def encodeVarint (n : Nat) : Bytes :=
  if n < 128 then [UInt8.ofNat n] else UInt8.ofNat (n % 128 + 128) :: encodeVarint (n / 128)
termination_by n
decreasing_by omega

/-- prost's encoding of the `Hash` message, `bytes value = 1`: the key of field 1
with wire type 2, the length and the bytes; prost leaves an empty value out. -/
def Proto.Hash.encodeToVec (hash : Proto.Hash) : Bytes :=
  if hash.value = [] then [] else 0x0a :: encodeVarint hash.value.length ++ hash.value

def Hash.encodeSync (hash : Hash) : Bytes := Proto.Hash.encodeToVec (Muta.Proto.Hash.«from» hash)

def UInt64.encodeSync (n : UInt64) : Bytes := LittleEndian.write 8 n.toNat

/-- `u64::decode_sync`: `LittleEndian::read_u64`, which panics on fewer than eight bytes. -/
def UInt64.decodeSync (bytes : Bytes) : StorageResult UInt64 :=
  Fail.unwind (UInt64.ofNat <$> LittleEndian.read 8 bytes)

theorem Hash.encode_sync_eq (hash : Hash) : Hash.encodeSync hash = [0x0a, 0x20] ++ hash.bytes := by
  have nonempty : hash.bytes ≠ [] := List.ne_nil_of_length_pos (by rw [hash.length_eq]; decide)
  have length : encodeVarint 32 = [0x20] := by
    rw [encodeVarint]
    rfl
  simp [Hash.encodeSync, Proto.Hash.encodeToVec, Muta.Proto.Hash.«from», Muta.Hash.asBytes, nonempty,
    hash.length_eq, length]

@[simp] theorem Hash.length_encode_sync (hash : Hash) : (Hash.encodeSync hash).length = 34 := by
  simp [Hash.encode_sync_eq, hash.length_eq]

theorem Hash.encode_sync_injective : Injective Hash.encodeSync := by
  intro hash other same
  rw [Hash.encode_sync_eq, Hash.encode_sync_eq] at same
  exact Muta.Hash.ext (List.append_cancel_left same)

@[simp] theorem UInt64.length_encode_sync (n : UInt64) : (UInt64.encodeSync n).length = 8 := by
  simp [UInt64.encodeSync]

theorem UInt64.encode_sync_injective : Injective UInt64.encodeSync := by
  intro n m same
  -- both read back through `read_u64`
  have fits : ∀ k : UInt64, k.toNat < 256 ^ 8 := fun k => k.toNat_lt
  have read := congrArg (LittleEndian.read 8) same
  rw [UInt64.encodeSync, UInt64.encodeSync, LittleEndian.read_write (fits n),
    LittleEndian.read_write (fits m)] at read
  exact UInt64.toNat_inj.mp (Except.ok.inj read)

theorem UInt64.decode_sync_encode_sync (n : UInt64) : UInt64.decodeSync (UInt64.encodeSync n) = .ok n := by
  have fits : n.toNat < 256 ^ 8 := n.toNat_lt
  simp [UInt64.decodeSync, UInt64.encodeSync, LittleEndian.read_write fits]

theorem UInt64.encode_sync_ne_hash (n : UInt64) (hash : Hash) : UInt64.encodeSync n ≠ Hash.encodeSync hash :=
  fun same => by simpa using congrArg List.length same

/-! ### Schemas and adapters -/

/-- A `StorageSchema`: the category of its column, and the `ProtocolCodec`s of its
keys and values; the value codec reads back what it writes. -/
structure StorageSchema (K V : Type) where
  category : StorageCategory
  encode_key : K → Bytes
  encodeValue : V → Bytes
  decodeValue : Bytes → StorageResult V
  decode_encode : ∀ value, decodeValue (encodeValue value) = .ok value

inductive StorageBatchModify (V : Type) where
  | Remove
  | Insert (value : V)

def StorageBatchModify.value {V : Type} : StorageBatchModify V → Option V
  | .Remove => none
  | .Insert value => some value

/-- `MemoryAdapter`: one `HashMap` for every category. -/
def MemoryAdapter.getColumn (_ : StorageCategory) : Unit := ()

def RocksAdapter.mapCategory : StorageCategory → String
  | .Block => "c1"
  | .Receipt => "c3"
  | .SignedTransaction => "c2"
  | .Wal => "c4"

theorem RocksAdapter.map_category_injective : Injective RocksAdapter.mapCategory := by
  intro category other same
  cases category <;> cases other <;> simp_all [RocksAdapter.mapCategory]

section Adapter

variable {Column : Type} [DecidableEq Column] (getColumn : StorageCategory → Column)
variable {K V : Type}

def StorageSchema.layout (schema : StorageSchema K V) : Layout Column K V :=
  ⟨getColumn schema.category, schema.encode_key, schema.encodeValue⟩

def insert (schema : StorageSchema K V) (key : K) (val : V) (db : Store Column) : Store Column :=
  db.set (getColumn schema.category) (schema.encode_key key) (some (schema.encodeValue val))

def get (schema : StorageSchema K V) (key : K) (db : Store Column) : StorageResult (Option V) :=
  match db (getColumn schema.category) (schema.encode_key key) with
  | some bytes => some <$> schema.decodeValue bytes
  | none => .ok none

/-- The default `get_batch`: `get` of every key in turn, up to the first error. -/
def getBatch (schema : StorageSchema K V) (keys : List K) (db : Store Column) : StorageResult (List (Option V)) :=
  keys.mapM fun key => get getColumn schema key db

/-- `batch_modify`: the keys and the modifications pair up, each pair is encoded,
and the pairs are written in order. -/
def batchModify (schema : StorageSchema K V) (keys : List K) (vals : List (StorageBatchModify V))
    (db : Store Column) : StorageResult (Store Column) :=
  if keys.length ≠ vals.length then .error (.error (.Adapter .BatchLengthMismatch))
  else
    let pairs := (keys.zip vals).map fun (key, modify) => (schema.encode_key key, modify.value.map schema.encodeValue)
    .ok (db.setAll (getColumn schema.category) pairs)

def StorageSchema.Holds (schema : StorageSchema K V) (keys : Set K) (map : K → Option V) (db : Store Column) :
    Prop :=
  (schema.layout getColumn).Holds keys map db

variable {getColumn} {K' V' : Type} {schema : StorageSchema K V} {keys : Set K} {map : K → Option V}
  {db : Store Column}

theorem batch_modify_insert (keyed : V → K) (values : List V) :
    batchModify getColumn schema (values.map keyed) (values.map .Insert) db =
      .ok (db.setAll (schema.layout getColumn).column
        ((values.map fun value => (keyed value, some value)).map (schema.layout getColumn).write)) := by
  have pairs : ((values.map keyed).zip (values.map StorageBatchModify.Insert)).map
      (fun (p : K × StorageBatchModify V) => (schema.encode_key p.1, p.2.value.map schema.encodeValue)) =
      (values.map fun value => (keyed value, some value)).map (schema.layout getColumn).write := by
    induction values with
    | nil => rfl
    | cons value rest ih =>
      simp only [List.map_cons, List.zip_cons_cons, ih]
      rfl
  simp only [batchModify, List.length_map, ne_eq, not_true_eq_false, ↓reduceIte]
  rw [pairs]
  rfl

namespace StorageSchema.Holds

omit [DecidableEq Column] in
theorem empty (schema : StorageSchema K V) (keys : Set K) :
    schema.Holds getColumn keys (fun _ => none) Store.empty :=
  Layout.holds_empty _ keys

omit [DecidableEq Column] in
theorem get (holds : schema.Holds getColumn keys map db) {key : K} (member : key ∈ keys) :
    Storage.get getColumn schema key db = .ok (map key) := by
  have stored : db (getColumn schema.category) (schema.encode_key key) = (map key).map schema.encodeValue :=
    holds key member
  cases found : map key with
  | none => simp [Storage.get, stored, found]
  | some value => simp [Storage.get, stored, found, schema.decode_encode]

omit [DecidableEq Column] in
theorem getBatch (holds : schema.Holds getColumn keys map db) (hashes : List K)
    (members : ∀ key ∈ hashes, key ∈ keys) :
    Storage.getBatch getColumn schema hashes db = .ok (hashes.map map) := by
  induction hashes with
  | nil => rfl
  | cons key rest ih =>
    rw [Storage.getBatch, List.mapM_cons, holds.get (members key List.mem_cons_self)]
    rw [Storage.getBatch] at ih
    rw [ih (fun other member => members other (List.mem_cons_of_mem key member))]
    rfl

theorem setAll [DecidableEq K] (holds : schema.Holds getColumn keys map db) (injective : Injective schema.encode_key)
    (entries : List (K × Option V)) :
    schema.Holds getColumn keys (assign map entries)
      (db.setAll (schema.layout getColumn).column (entries.map (schema.layout getColumn).write)) :=
  Layout.Holds.setAll holds injective entries

theorem insert_other (separate : Injective getColumn) {other : StorageSchema K' V'}
    (distinct : other.category ≠ schema.category) (holds : schema.Holds getColumn keys map db)
    (key : K') (val : V') : schema.Holds getColumn keys map (insert getColumn other key val db) :=
  Layout.Holds.set_apart holds _ fun _ _ => apart_of_column_ne (separate.ne distinct) _ _

theorem set_all_other (separate : Injective getColumn) {other : StorageSchema K' V'}
    (distinct : other.category ≠ schema.category) (holds : schema.Holds getColumn keys map db)
    (writes : List (Bytes × Option Bytes)) :
    schema.Holds getColumn keys map (db.setAll (other.layout getColumn).column writes) :=
  Layout.Holds.set_all_apart holds writes fun _ _ _ _ => apart_of_column_ne (separate.ne distinct) _ _

theorem insert_apart {other : StorageSchema K' V'} (column : other.category = schema.category)
    (holds : schema.Holds getColumn keys map db) {key : K'}
    (apart : ∀ k ∈ keys, other.encode_key key ≠ schema.encode_key k) (val : V') :
    schema.Holds getColumn keys map (insert getColumn other key val db) :=
  Layout.Holds.set_apart holds _ fun k member same =>
    apart k member (Prod.mk.inj (column ▸ same : (getColumn schema.category, _) = _)).2

theorem insert_same [DecidableEq K] (injective : Injective schema.encode_key)
    (holds : schema.Holds getColumn keys map db) (key : K) (val : V) :
    schema.Holds getColumn keys (update map key (some val)) (insert getColumn schema key val db) :=
  Layout.Holds.set_same holds injective (key, some val)

theorem insert_single (injective : Injective schema.encode_key) {key : K} {value : Option V}
    (holds : schema.Holds getColumn {key} (fun _ => value) db) (val : V) :
    schema.Holds getColumn {key} (fun _ => some val) (insert getColumn schema key val db) := by
  classical
  refine Layout.Holds.congr (holds.insert_same injective key val) fun k member => ?_
  rw [Set.mem_singleton_iff.mp member, update_self]

end StorageSchema.Holds

end Adapter

end Muta.Storage
