import Muta.Lib.Str
import Muta.Lib.Fail
import Muta.Network.Error

/-! The endpoints of the network, `core/network/src/endpoint.rs`.

An endpoint is a text `/scheme/name/method`, with the rpc id as a fourth
component of an rpc message. `Endpoint::from_str` checks the length, the scheme
by a prefix test and the number of non-empty components; equality and hashing
see only the root, the first three components, which is how
`MessageRouter::route_raw_message` finds the reactor of a message.
`NetworkRpc::call` and `response` send a message to `end.extend(rid)`, and the
receiving side reads the id back with `RpcEndpoint::from_str`.

The extended text is parsed again under the same length bound, and
`RpcEndpoint::from_str` accepts only the two rpc schemes. For a three-component
rpc endpoint with room left for `/` and the id, the id reads back and the root
is kept (`rpc_endpoint_routes_back`); a long endpoint cannot be extended, and a
gossip endpoint's extension is no rpc endpoint (`rpc_endpoint_extend_fails`).
-/

set_option autoImplicit false

namespace Muta.Network

open Str

def GOSSIP_SCHEME : List Char := "/gossip".toList
def RPC_CALL_SCHEME : List Char := "/rpc_call".toList
def RPC_RESPONSE_SCHEME : List Char := "/rpc_resp".toList
def MAX_ENDPOINT_LENGTH : Nat := 120

inductive EndpointScheme where
  | Gossip
  | RpcCall
  | RpcResponse
  deriving DecidableEq, Repr

structure Endpoint where
  url : List Char
  deriving DecidableEq, Repr

namespace Endpoint

def startsWith (endpoint : Endpoint) (pat : List Char) : Bool := pat.isPrefixOf endpoint.url

/-- `scheme`; its last branch is `unreachable!()`. -/
def scheme (endpoint : Endpoint) : MayPanic EndpointScheme :=
  if endpoint.startsWith GOSSIP_SCHEME then .ok .Gossip
  else if endpoint.startsWith RPC_CALL_SCHEME then .ok .RpcCall
  else if endpoint.startsWith RPC_RESPONSE_SCHEME then .ok .RpcResponse
  else .error "internal error: entered unreachable code"

/-- `root`: `format!("/{}/{}/{}", comps[0], comps[1], comps[2])`, where indexing past
the components panics. -/
def root (endpoint : Endpoint) : MayPanic (List Char) :=
  match comps '/' endpoint.url with
  | first :: second :: third :: _ => .ok ('/' :: first ++ '/' :: second ++ '/' :: third)
  | _ => .error "index out of bounds"

def fullUrl (endpoint : Endpoint) : List Char := endpoint.url

def fromStr (text : List Char) : Except NetworkError Endpoint :=
  if text.isEmpty || len text > MAX_ENDPOINT_LENGTH then .error .NotEndpoint
  else if !GOSSIP_SCHEME.isPrefixOf text && !RPC_CALL_SCHEME.isPrefixOf text &&
      !RPC_RESPONSE_SCHEME.isPrefixOf text then .error (.UnexpectedScheme text)
  else
    let comps := comps '/' text
    if comps.length < 3 || comps.length > 4 then .error .NotEndpoint
    else .ok ⟨text⟩

/-- `extend`: the component without its leading separators, after one `/`, parsed
again. -/
def extend (endpoint : Endpoint) (comp : List Char) : Except NetworkError Endpoint :=
  fromStr (endpoint.url ++ '/' :: trimStartMatches '/' comp)

def eq (endpoint other : Endpoint) : MayPanic Bool := do
  return (← endpoint.root) == (← other.root)

end Endpoint

/-- `RpcEndpoint`: an endpoint and the id read from its last component. -/
structure RpcEndpoint where
  endpoint : Endpoint
  rid : UInt64
  deriving DecidableEq, Repr

namespace RpcEndpoint

/-- `extract_rpc_id_from`: the text after the last `/`, which must not be empty and
must be a `u64`. -/
def extractRpcIdFrom (endpoint : Endpoint) : Except NetworkError UInt64 :=
  let text := endpoint.fullUrl
  match rfind '/' text with
  | none => .error .NotEndpoint
  | some r_sep_idx =>
    if text.length = r_sep_idx + 1 then .error .NotEndpoint
    else
      match parseU64 (text.drop (r_sep_idx + 1)) with
      | some rid => .ok rid
      | none => .error .NotIdString

def tryFrom (endpoint : Endpoint) : Except NetworkError RpcEndpoint := do
  let rid ← extractRpcIdFrom endpoint
  pure ⟨endpoint, rid⟩

def fromStr (text : List Char) : Except (Fail NetworkError) RpcEndpoint := do
  let endpoint ← (Endpoint.fromStr text).mapError Fail.error
  if !endpoint.startsWith RPC_CALL_SCHEME && !endpoint.startsWith RPC_RESPONSE_SCHEME then
    throw (.error (.UnexpectedScheme (← Fail.unwind endpoint.root)))
  let rid ← (extractRpcIdFrom endpoint).mapError Fail.error
  pure ⟨endpoint, rid⟩

end RpcEndpoint

/-! ### What `from_str` accepts -/

namespace Endpoint

/-- The checks of `from_str`, as a statement about the text. -/
structure Accepted (text : List Char) : Prop where
  nonempty : text ≠ []
  short : len text ≤ MAX_ENDPOINT_LENGTH
  scheme : GOSSIP_SCHEME <+: text ∨ RPC_CALL_SCHEME <+: text ∨ RPC_RESPONSE_SCHEME <+: text
  three_comps : 3 ≤ (comps '/' text).length
  four_comps : (comps '/' text).length ≤ 4

theorem from_str_of_accepted {text : List Char} (accepted : Accepted text) :
    fromStr text = .ok ⟨text⟩ := by
  have nonempty : text.isEmpty = false := List.isEmpty_eq_false_iff.mpr accepted.nonempty
  have scheme : ¬ (!GOSSIP_SCHEME.isPrefixOf text && !RPC_CALL_SCHEME.isPrefixOf text &&
      !RPC_RESPONSE_SCHEME.isPrefixOf text) = true := by
    rcases accepted.scheme with gossip | call | response
    · simp [List.isPrefixOf_iff_prefix.mpr gossip]
    · simp [List.isPrefixOf_iff_prefix.mpr call]
    · simp [List.isPrefixOf_iff_prefix.mpr response]
  have counted := accepted.three_comps
  have bounded := accepted.four_comps
  have length_ok := accepted.short
  unfold fromStr
  rw [if_neg (by simp [nonempty]; omega), if_neg scheme, if_neg (by simp; omega)]

theorem accepted_of_from_str {text : List Char} {endpoint : Endpoint}
    (parsed : fromStr text = .ok endpoint) : endpoint.url = text ∧ Accepted text := by
  dsimp only [fromStr] at parsed
  split_ifs at parsed with outside wrong_scheme counted
  obtain rfl := Except.ok.inj parsed
  simp only [Bool.or_eq_true, decide_eq_true_eq, not_or, List.isEmpty_iff, Nat.not_lt] at outside counted
  refine ⟨rfl, outside.1, outside.2, ?_, counted.1, counted.2⟩
  simp only [Bool.and_eq_true, Bool.not_eq_true', not_and, Bool.not_eq_false] at wrong_scheme
  by_cases gossip : GOSSIP_SCHEME.isPrefixOf text = true
  · exact .inl (List.isPrefixOf_iff_prefix.mp gossip)
  · by_cases call : RPC_CALL_SCHEME.isPrefixOf text = true
    · exact .inr (.inl (List.isPrefixOf_iff_prefix.mp call))
    · have response := wrong_scheme ⟨Bool.eq_false_iff.mpr gossip, Bool.eq_false_iff.mpr call⟩
      exact .inr (.inr (List.isPrefixOf_iff_prefix.mp response))

theorem root_of_three {endpoint : Endpoint} (counted : 3 ≤ (comps '/' endpoint.url).length) :
    ∃ root, endpoint.root = .ok root := by
  unfold root
  match split : comps '/' endpoint.url, counted with
  | first :: second :: third :: _, _ => exact ⟨_, rfl⟩

theorem scheme_of_prefix {endpoint : Endpoint}
    (prefixed : GOSSIP_SCHEME <+: endpoint.url ∨ RPC_CALL_SCHEME <+: endpoint.url ∨
      RPC_RESPONSE_SCHEME <+: endpoint.url) :
    ∃ scheme, endpoint.scheme = .ok scheme := by
  unfold scheme startsWith
  split_ifs with gossip call response
  · exact ⟨_, rfl⟩
  · exact ⟨_, rfl⟩
  · exact ⟨_, rfl⟩
  · -- Each scheme prefix makes one of the tests true.
    rcases prefixed with prefixed | prefixed | prefixed
    · exact absurd (List.isPrefixOf_iff_prefix.mpr prefixed) gossip
    · exact absurd (List.isPrefixOf_iff_prefix.mpr prefixed) call
    · exact absurd (List.isPrefixOf_iff_prefix.mpr prefixed) response

/-! ### Extending by an rpc id -/

theorem accepted_extended {endpoint : Endpoint} (accepted : Accepted endpoint.url)
    (three : (comps '/' endpoint.url).length = 3) {digits : List Char}
    (all_digits : ∀ c ∈ digits, c.isDigit = true) (nonempty : digits ≠ [])
    (room : len endpoint.url + 1 + len digits ≤ MAX_ENDPOINT_LENGTH) :
    Accepted (endpoint.url ++ '/' :: digits) := by
  have no_sep : '/' ∉ digits := fun member => absurd (all_digits '/' member) (by decide)
  have comps_extended : comps '/' (endpoint.url ++ '/' :: digits) =
      comps '/' endpoint.url ++ [digits] := comps_append_sep endpoint.url no_sep nonempty
  refine ⟨by simp, ?_, ?_, ?_, ?_⟩
  · rw [len_append, len_cons]
    have slash : ('/' : Char).utf8Size = 1 := by decide
    omega
  · rcases accepted.scheme with gossip | call | response
    · exact .inl (gossip.trans (List.prefix_append _ _))
    · exact .inr (.inl (call.trans (List.prefix_append _ _)))
    · exact .inr (.inr (response.trans (List.prefix_append _ _)))
  · simp [comps_extended, three]
  · simp [comps_extended, three]

theorem extend_digits {endpoint : Endpoint} (accepted : Accepted endpoint.url)
    (three : (comps '/' endpoint.url).length = 3) {digits : List Char}
    (all_digits : ∀ c ∈ digits, c.isDigit = true) (nonempty : digits ≠ [])
    (room : len endpoint.url + 1 + len digits ≤ MAX_ENDPOINT_LENGTH) :
    endpoint.extend digits = .ok ⟨endpoint.url ++ '/' :: digits⟩ := by
  have trimmed : trimStartMatches '/' digits = digits := by
    obtain ⟨first, rest, rfl⟩ := List.exists_cons_of_ne_nil nonempty
    exact trim_start_matches_of_head rest fun same =>
      absurd (all_digits first List.mem_cons_self) (by rw [same]; decide)
  rw [extend, trimmed]
  exact from_str_of_accepted (accepted_extended accepted three all_digits nonempty room)

theorem extract_rpc_id_from_extended (url : List Char) (rid : UInt64) :
    RpcEndpoint.extractRpcIdFrom ⟨url ++ '/' :: u64ToString rid⟩ = .ok rid := by
  have no_sep : '/' ∉ u64ToString rid := fun member =>
    absurd (u64_to_string_digits rid '/' member) (by decide)
  have nonempty := u64_to_string_ne_nil rid
  have longer : (url ++ '/' :: u64ToString rid).length ≠ url.length + 1 := by
    rw [List.length_append, List.length_cons]
    have : (u64ToString rid).length ≠ 0 := by simpa using nonempty
    omega
  have last : (url ++ '/' :: u64ToString rid).drop (url.length + 1) = u64ToString rid := by
    have split : url ++ '/' :: u64ToString rid = (url ++ ['/']) ++ u64ToString rid := by simp
    have counted : url.length + 1 = (url ++ ['/']).length := by simp
    rw [split, counted, List.drop_left]
  simp only [RpcEndpoint.extractRpcIdFrom, fullUrl, rfind_append_cons url no_sep, longer,
    ↓reduceIte, last, parse_u64_to_string]

theorem root_extended {endpoint : Endpoint} (three : (comps '/' endpoint.url).length = 3)
    {digits : List Char} (no_sep : '/' ∉ digits) (nonempty : digits ≠ []) :
    (⟨endpoint.url ++ '/' :: digits⟩ : Endpoint).root = endpoint.root := by
  unfold root
  rw [comps_append_sep endpoint.url no_sep nonempty]
  match split : comps '/' endpoint.url, three with
  | [first, second, third], _ => rfl

end Endpoint

/-- For every text `from_str` accepts, `root` and `scheme` do not panic; and a
three-component rpc endpoint, extended by the text of an rpc id with room for it
under `MAX_ENDPOINT_LENGTH`, parses as an rpc endpoint with that id and the same
root, so a message to it reaches the reactor registered under the endpoint. -/
theorem rpc_endpoint_routes_back :
    (∀ (text : List Char) (endpoint : Endpoint), Endpoint.fromStr text = .ok endpoint →
      (∃ root, endpoint.root = .ok root) ∧ ∃ scheme, endpoint.scheme = .ok scheme) ∧
    ∀ (text : List Char) (endpoint : Endpoint) (rid : UInt64),
      Endpoint.fromStr text = .ok endpoint → (comps '/' text).length = 3 →
      (RPC_CALL_SCHEME <+: text ∨ RPC_RESPONSE_SCHEME <+: text) →
      len text + 1 + len (u64ToString rid) ≤ MAX_ENDPOINT_LENGTH →
      ∃ extended, endpoint.extend (u64ToString rid) = .ok extended ∧
        ∃ rpc_endpoint, RpcEndpoint.fromStr extended.fullUrl = .ok rpc_endpoint ∧
          rpc_endpoint.rid = rid ∧ rpc_endpoint.endpoint.root = endpoint.root := by
  refine ⟨fun text endpoint parsed => ?_, fun text endpoint rid parsed three rpc room => ?_⟩
  · obtain ⟨rfl, accepted⟩ := Endpoint.accepted_of_from_str parsed
    exact ⟨Endpoint.root_of_three accepted.three_comps, Endpoint.scheme_of_prefix accepted.scheme⟩
  · obtain ⟨rfl, accepted⟩ := Endpoint.accepted_of_from_str parsed
    have digits := u64_to_string_digits rid
    have nonempty := u64_to_string_ne_nil rid
    have no_sep : '/' ∉ u64ToString rid := fun member => absurd (digits '/' member) (by decide)
    have extended := Endpoint.extend_digits accepted three digits nonempty room
    -- The extension is accepted in turn, with the rpc scheme it started with.
    have reparsed : Endpoint.fromStr (endpoint.url ++ '/' :: u64ToString rid) =
        .ok ⟨endpoint.url ++ '/' :: u64ToString rid⟩ :=
      Endpoint.from_str_of_accepted (Endpoint.accepted_extended accepted three digits nonempty room)
    have still_rpc : (⟨endpoint.url ++ '/' :: u64ToString rid⟩ : Endpoint).startsWith
        RPC_CALL_SCHEME = true ∨ (⟨endpoint.url ++ '/' :: u64ToString rid⟩ : Endpoint).startsWith
        RPC_RESPONSE_SCHEME = true := by
      unfold Endpoint.startsWith
      rcases rpc with call | response
      · exact .inl (List.isPrefixOf_iff_prefix.mpr (call.trans (List.prefix_append _ _)))
      · exact .inr (List.isPrefixOf_iff_prefix.mpr (response.trans (List.prefix_append _ _)))
    refine ⟨_, extended, ⟨⟨endpoint.url ++ '/' :: u64ToString rid⟩, rid⟩, ?_, rfl,
      Endpoint.root_extended three no_sep nonempty⟩
    have not_gossip : ¬ ((!(⟨endpoint.url ++ '/' :: u64ToString rid⟩ : Endpoint).startsWith
        RPC_CALL_SCHEME && !(⟨endpoint.url ++ '/' :: u64ToString rid⟩ : Endpoint).startsWith
        RPC_RESPONSE_SCHEME) = true) := by
      rcases still_rpc with rpc_scheme | rpc_scheme <;> simp [rpc_scheme]
    simp only [RpcEndpoint.fromStr, Endpoint.fullUrl, reparsed, except_mapError_ok,
      except_ok_bind, if_neg not_gossip, Endpoint.extract_rpc_id_from_extended]
    rfl

end Muta.Network

namespace Muta.Network

open Str

/-- `RPC_SYNC_PULL_BLOCK`, extended by the id 7, reads back the id 7 under the same root. -/
theorem rpc_endpoint_routes_back_sync_pull_block :
    ∃ extended, (⟨"/rpc_call/consensus/sync_pull_block".toList⟩ : Endpoint).extend
        (u64ToString 7) = .ok extended ∧
      ∃ rpc_endpoint, RpcEndpoint.fromStr extended.fullUrl = .ok rpc_endpoint ∧
        rpc_endpoint.rid = 7 ∧ rpc_endpoint.endpoint.root =
          (⟨"/rpc_call/consensus/sync_pull_block".toList⟩ : Endpoint).root :=
  rpc_endpoint_routes_back.2 "/rpc_call/consensus/sync_pull_block".toList _ 7 (by decide) (by decide)
    (.inl (by decide)) (by decide)

def longEndpoint : List Char := "/rpc_call/consensus/".toList ++ List.replicate 100 'a'

set_option maxRecDepth 4000 in
/-- The long endpoint is accepted but cannot be extended by the id 0, and the gossip
endpoint of signed votes extends to a text `RpcEndpoint::from_str` refuses. -/
theorem rpc_endpoint_extend_fails :
    Endpoint.fromStr longEndpoint = .ok ⟨longEndpoint⟩ ∧ (comps '/' longEndpoint).length = 3 ∧
      Endpoint.extend ⟨longEndpoint⟩ (u64ToString 0) = .error .NotEndpoint ∧
      Endpoint.extend ⟨"/gossip/consensus/signed_vote".toList⟩ (u64ToString 7) =
        .ok ⟨"/gossip/consensus/signed_vote/7".toList⟩ ∧
      RpcEndpoint.fromStr "/gossip/consensus/signed_vote/7".toList =
        .error (.error (.UnexpectedScheme "/gossip/consensus/signed_vote".toList)) := by
  refine ⟨by decide, by decide, by decide, by decide, by decide⟩

end Muta.Network
