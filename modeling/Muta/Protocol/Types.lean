import Muta.Lib.Base16
import Muta.Lib.Rlp

/-! The protocol data model of `protocol::types`.

Byte strings are lists of bytes. The fixed-width byte arrays (`Hash`, `Address`
and the 2048-bit `Bloom`) carry their width as a field, so that a value of the
wrong width cannot be built, and `from_bytes` is the only way from raw bytes to
one of them. Unsigned machine integers keep their Rust widths.
-/

set_option autoImplicit false

namespace Muta

abbrev Bytes := List UInt8

inductive TypesError where
  | LengthMismatch (expect real : Nat)
  | HexPrefix
  deriving DecidableEq, Repr

inductive ProtocolErrorKind where
  | API
  | Consensus
  | Executor
  | Mempool
  | Network
  | Storage
  | Runtime
  | Binding
  | BindingMacro
  | Service
  | Main
  | Codec
  | FixedCodec
  | Types
  deriving DecidableEq, Repr

def ensureLen (real expect : Nat) : Except TypesError Unit :=
  if real = expect then .ok () else .error (.LengthMismatch expect real)

structure Hash where
  bytes : Bytes
  length_eq : bytes.length = 32
  deriving DecidableEq, Repr

abbrev MerkleRoot := Hash

def Hash.asBytes (hash : Hash) : Bytes := hash.bytes

def Hash.fromBytes (bytes : Bytes) : Except TypesError Hash :=
  if h : bytes.length = 32 then .ok ⟨bytes, h⟩ else .error (.LengthMismatch 32 bytes.length)

theorem Hash.ext {a b : Hash} (same : a.bytes = b.bytes) : a = b := by
  cases a; cases b; cases same; rfl

@[simp] theorem Hash.as_bytes_length (hash : Hash) : hash.asBytes.length = 32 :=
  hash.length_eq

@[simp] theorem Hash.from_bytes_as_bytes (hash : Hash) : Hash.fromBytes hash.asBytes = .ok hash := by
  simp [fromBytes, asBytes, hash.length_eq]

structure Address where
  bytes : Bytes
  length_eq : bytes.length = 20
  deriving DecidableEq, Repr

def Address.asBytes (address : Address) : Bytes := address.bytes

def Address.fromBytes (bytes : Bytes) : Except TypesError Address :=
  if h : bytes.length = 20 then .ok ⟨bytes, h⟩ else .error (.LengthMismatch 20 bytes.length)

theorem Address.ext {a b : Address} (same : a.bytes = b.bytes) : a = b := by
  cases a; cases b; cases same; rfl

/-- The derived `Ord` of `Address([u8; 20])`: the bytes compared in order. -/
instance : LinearOrder Address :=
  LinearOrder.lift' (fun address => address.bytes.map UInt8.toNat) fun _ _ same =>
    Address.ext (List.map_injective_iff.mpr (fun _ _ => UInt8.toNat_inj.mp) same)

@[simp] theorem Address.from_bytes_as_bytes (address : Address) :
    Address.fromBytes address.asBytes = .ok address := by
  simp [fromBytes, asBytes, address.length_eq]

def Address.ofHash (hash : Hash) : Address :=
  ⟨hash.bytes.take 20, by simp [hash.length_eq]⟩

def Address.fromHash (hash : Hash) : Except TypesError Address :=
  Address.fromBytes (hash.bytes.take 20)

/-- `Address::from_pubkey_bytes`, with `Hash::digest` as a parameter. -/
def Address.fromPubkeyBytes (digest : Bytes → Hash) (bytes : Bytes) : Except TypesError Address :=
  Address.fromHash (digest bytes)

@[simp] theorem Address.from_hash_eq (hash : Hash) : Address.fromHash hash = .ok (Address.ofHash hash) := by
  simp [fromHash, fromBytes, ofHash, hash.length_eq]

def Hash.asHex (hash : Hash) : String := "0x" ++ Base16.encode hash.bytes

def Address.asHex (address : Address) : String := "0x" ++ Base16.encode address.bytes

/-- `ethbloom::Bloom`, a 2048-bit filter stored as 256 bytes. -/
structure Bloom where
  bytes : Bytes
  length_eq : bytes.length = 256
  deriving DecidableEq, Repr

/-! The lengths of the constant hashes, addresses and filters of one repeated
byte, stated once so that every constant built from one of them carries the
same proof. -/

theorem Hash.replicate_length (byte : UInt8) : (List.replicate 32 byte).length = 32 :=
  List.length_replicate

theorem Address.replicate_length (byte : UInt8) : (List.replicate 20 byte).length = 20 :=
  List.length_replicate

theorem Hash.zeros_length : (List.replicate 32 (0 : UInt8)).length = 32 := List.length_replicate

theorem Hash.ones_length : (List.replicate 32 (1 : UInt8)).length = 32 := List.length_replicate

theorem Address.zeros_length : (List.replicate 20 (0 : UInt8)).length = 20 := List.length_replicate

theorem Bloom.zeros_length : (List.replicate 256 (0 : UInt8)).length = 256 := List.length_replicate

/-- `Hex(String)`: the field is private and `Hex::from_string` requires the
`0x` prefix, but `Default` builds the empty string, so the prefix is a property
of a value and not of the type. -/
structure Hex where
  value : String
  deriving DecidableEq, Repr

def startsWith (s pat : String) : Bool := (Rlp.utf8 pat).isPrefixOf (Rlp.utf8 s)

def Hex.fromString (s : String) : Except TypesError Hex :=
  if startsWith s "0x" then .ok ⟨s⟩ else .error .HexPrefix

/-- `Hex::as_string_trim0x`, `&self.0[2..]`: the string after its first two
bytes. The slice panics where the string is shorter or byte 2 is inside a character. -/
def Hex.asStringTrim0x (hex : Hex) : MayPanic String :=
  let bytes := Rlp.utf8 hex.value
  if bytes.length < 2 then .error "byte index 2 is out of bounds"
  else
    match Rlp.fromUtf8 (bytes.drop 2) with
    | some s => .ok s
    | none => .error "byte index 2 is not a char boundary"

/-- The invariant `Hex::from_string` establishes: the string is `0x` and the digits. -/
def Hex.Prefixed (hex : Hex) : Prop := ∃ digits, hex.value = "0x" ++ digits

structure Proof where
  height : UInt64
  round : UInt64
  block_hash : Hash
  signature : Bytes
  bitmap : Bytes
  deriving DecidableEq, Repr

structure Validator where
  address : Address
  propose_weight : UInt32
  vote_weight : UInt32
  deriving DecidableEq, Repr

structure BlockHeader where
  chain_id : Hash
  height : UInt64
  exec_height : UInt64
  pre_hash : Hash
  timestamp : UInt64
  logs_bloom : List Bloom
  order_root : MerkleRoot
  confirm_root : List MerkleRoot
  state_root : MerkleRoot
  receipt_root : List MerkleRoot
  cycles_used : List UInt64
  proposer : Address
  proof : Proof
  validator_version : UInt64
  validators : List Validator
  deriving DecidableEq, Repr

structure Block where
  header : BlockHeader
  ordered_tx_hashes : List Hash
  deriving DecidableEq, Repr

structure Pill where
  block : Block
  propose_hashes : List Hash
  deriving DecidableEq, Repr

structure TransactionRequest where
  service_name : String
  method : String
  payload : String
  deriving DecidableEq, Repr

structure RawTransaction where
  chain_id : Hash
  nonce : Hash
  timeout : UInt64
  cycles_price : UInt64
  cycles_limit : UInt64
  request : TransactionRequest
  deriving DecidableEq, Repr

structure SignedTransaction where
  raw : RawTransaction
  tx_hash : Hash
  pubkey : Bytes
  signature : Bytes
  deriving DecidableEq, Repr

/-- `ServiceResponse<String>`, the form receipts carry. -/
structure ServiceResponse where
  code : UInt64
  succeed_data : String
  error_message : String
  deriving DecidableEq, Repr

/-- `ServiceResponse::from_error`, with the default `String` as data. -/
def ServiceResponse.fromError (code : UInt64) (error_message : String) : ServiceResponse :=
  ⟨code, "", error_message⟩

def ServiceResponse.fromSucceed (succeed_data : String) : ServiceResponse :=
  ⟨0, succeed_data, ""⟩

def ServiceResponse.isError (response : ServiceResponse) : Bool :=
  response.code != 0

structure Event where
  service : String
  data : String
  deriving DecidableEq, Repr

structure ReceiptResponse where
  service_name : String
  method : String
  response : ServiceResponse
  deriving DecidableEq, Repr

structure Receipt where
  state_root : MerkleRoot
  height : UInt64
  tx_hash : Hash
  cycles_used : UInt64
  events : List Event
  response : ReceiptResponse
  deriving DecidableEq, Repr

structure ValidatorExtend where
  bls_pub_key : Hex
  address : Address
  propose_weight : UInt32
  vote_weight : UInt32
  deriving DecidableEq, Repr

structure Metadata where
  chain_id : Hash
  common_ref : Hex
  timeout_gap : UInt64
  cycles_limit : UInt64
  cycles_price : UInt64
  interval : UInt64
  verifier_list : List ValidatorExtend
  propose_ratio : UInt64
  prevote_ratio : UInt64
  precommit_ratio : UInt64
  brake_ratio : UInt64
  tx_num_limit : UInt64
  max_tx_size : UInt64
  deriving DecidableEq, Repr

end Muta
