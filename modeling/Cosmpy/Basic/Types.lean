import Mathlib

/-!
# The values `ledger.py` works with

`cosmpy/clients/ledger.py` is a client: it builds protobuf messages, sends them to a node, and
reads the node's answers.  This file fixes the Python values the client passes around, before
any of them is sent anywhere.

* `Exc` is a raised exception: its class, its message, and its `__cause__`.  The class is an
  `ExcKind`; the handful the module raises or catches by name are constructors, and everything a
  collaborator may raise (a gRPC error, an HTTP error, an `OSError` from reading a file) is
  `ExcKind.other`.
* `Json` is what `json.loads` returns and what `JSONLike` stands for: nested lists and dicts with
  string keys over strings and other scalars.  A dict keeps its entries in insertion order, as
  Python's does.
* The protobuf messages the module builds or reads (`Coin`, `Tx` and its parts, the packed
  `Msg`s, the requests and responses of the node's services) are structures with the fields the
  module touches.  A packed `Any` keeps the message itself in place of its serialisation, which
  is out of scope (the wire format is a collaborator's job).
* `Lib` collects the library functions the module calls and does not define: serialisation,
  signing, `gzip`, `json`, `MessageToDict`, and Python's `int` and `str` on a JSON value.  Each is
  a field, so every theorem holds for every implementation of them that raises what the Python
  function raises: `json.loads` and the two `int` conversions carry, as fields, the classes of
  exception they can raise.

Intervals are `NNRat` seconds.  `__init__` accepts a negative interval, on which `time.sleep`
raises `ValueError`; the model is of clients whose intervals are lengths of sleep.
-/

set_option autoImplicit false

namespace Cosmpy

/-! ## Exceptions -/

/-- The exception classes `ledger.py` raises or catches by name, and those the library functions
it calls raise; `other` is any class a collaborator raises. -/
inductive ExcKind where
  | broadcastException
  | ledgerServerNotAvailable
  | runtimeError
  | typeError
  | valueError
  | assertionError
  | attributeError
  | keyError
  | jsonDecodeError
  | overflowError
  | recursionError
  | unicodeDecodeError
  | other (name : String)
  deriving DecidableEq, Repr

/-- A raised exception: its class, the message it was built with, and `__cause__` (set by
`raise … from e`). -/
structure Exc where
  kind : ExcKind
  msg : String
  cause : Option Exc

namespace Exc

/-- `raise kind(msg)` outside an `except` block: no cause. -/
def raise (kind : ExcKind) (msg : String) : Exc := ⟨kind, msg, none⟩

/-- `str(e)` inside an f-string, where `e` may be `None`. -/
def str : Option Exc → String
  | none => "None"
  | some e => e.msg

end Exc

/-! ## JSON values -/

/-- A value as `json.loads` returns it.  Numbers keep their literal text: nothing here computes
with them except Python's `int` and `str`, which are `Lib` fields. -/
inductive Json where
  | null
  | bool (b : Bool)
  | number (literal : String)
  | str (s : String)
  | arr (items : List Json)
  | obj (fields : List (String × Json))

/-- `d[key]` on a dict: the value of the first entry with that key, as a `KeyError` otherwise.
A dict from `json.loads` has each key once. -/
def Json.getItem (fields : List (String × Json)) (key : String) : Except Exc Json :=
  match fields.lookup key with
  | some v => .ok v
  | none => .error (Exc.raise .keyError key)

theorem Json.getItem_eq_error {fields : List (String × Json)} {key : String} {e : Exc}
    (h : Json.getItem fields key = .error e) : e = Exc.raise .keyError key := by
  unfold Json.getItem at h
  split at h <;> cases h
  rfl

/-- `value[key]` on a JSON value: a dict looks the key up, anything else raises `TypeError`. -/
def Json.index (j : Json) (key : String) : Except Exc Json :=
  match j with
  | .obj fields => Json.getItem fields key
  | .arr _ => .error (Exc.raise .typeError "list indices must be integers or slices, not str")
  | .str _ => .error (Exc.raise .typeError "string indices must be integers, not 'str'")
  | .null => .error (Exc.raise .typeError "'NoneType' object is not subscriptable")
  | .bool _ => .error (Exc.raise .typeError "'bool' object is not subscriptable")
  | .number lit =>
    if lit.any fun c => c == '.' || c == 'e' || c == 'E' || c == 'N' || c == 'I' then
      .error (Exc.raise .typeError "'float' object is not subscriptable")
    else .error (Exc.raise .typeError "'int' object is not subscriptable")

/-- `value != s` for a string `s`: a JSON value equals `s` only when it is that string. -/
def Json.isStr (j : Json) (s : String) : Bool :=
  match j with
  | .str t => t == s
  | _ => false

@[simp] theorem Json.isStr_eq_true (j : Json) (s : String) : j.isStr s = true ↔ j = .str s := by
  cases j <;> simp [Json.isStr]

/-! ## Protobuf messages -/

/-- Raw bytes. -/
abbrev Bytes := List UInt8

/-- `cosmos.base.v1beta1.Coin`; the amount is a decimal string on the wire. -/
structure Coin where
  denom : String
  amount : String

/-- `cosmos.tx.signing.v1beta1.SignMode`. -/
inductive SignMode where
  | unspecified
  | direct
  | textual
  | legacyAminoJson
  deriving DecidableEq, Repr

/-- `cosmos.tx.v1beta1.BroadcastMode`. -/
inductive BroadcastMode where
  | unspecified
  | block
  | sync
  | async
  deriving DecidableEq, Repr

/-- The messages the module packs into a `google.protobuf.Any`. -/
inductive Msg where
  | msgSend (fromAddress toAddress : String) (amount : List Coin)
  | msgStoreCode (sender : String) (wasmByteCode : Bytes)
  | msgInstantiateContract (sender : String) (codeId : Int) (msg : Bytes) (label : String)
      (funds : List Coin)
  | msgExecuteContract (sender contract : String) (msg : Bytes) (funds : List Coin)
  | pubKey (key : Bytes)

/-- The protobuf full name of a message's type. -/
def Msg.fullName : Msg → String
  | .msgSend .. => "cosmos.bank.v1beta1.MsgSend"
  | .msgStoreCode .. => "cosmwasm.wasm.v1.MsgStoreCode"
  | .msgInstantiateContract .. => "cosmwasm.wasm.v1.MsgInstantiateContract"
  | .msgExecuteContract .. => "cosmwasm.wasm.v1.MsgExecuteContract"
  | .pubKey .. => "cosmos.crypto.secp256k1.PubKey"

/-- A packed `Any`; the message stands for its serialisation. -/
structure ProtoAny where
  typeUrl : String
  value : Msg

/-- `packed.Pack(msg, type_url_prefix="/")`. -/
def ProtoAny.pack (m : Msg) : ProtoAny := ⟨"/" ++ m.fullName, m⟩

structure ModeInfo where
  single : SignMode

structure SignerInfo where
  publicKey : ProtoAny
  modeInfo : ModeInfo
  sequence : Nat

structure Fee where
  amount : List Coin
  gasLimit : Nat

structure AuthInfo where
  signerInfos : List SignerInfo
  fee : Fee

structure TxBody where
  messages : List ProtoAny
  memo : String

structure Tx where
  body : TxBody
  authInfo : AuthInfo
  signatures : List Bytes

/-- `cosmos.auth.v1beta1.BaseAccount`, without the public key nothing here reads. -/
structure BaseAccount where
  address : String
  accountNumber : Nat
  sequence : Nat

/-- The `Any` holding an account: a `BaseAccount`, or an account of some other type. -/
inductive AnyAccount where
  | baseAccount (account : BaseAccount)
  | other (typeUrl : String)

/-! ### Requests and responses of the node's services -/

structure QueryAccountRequest where
  address : String

structure QueryAccountResponse where
  account : AnyAccount

/-- Also what `get_balances` sends to `AllBalances`, with the denom left empty. -/
structure QueryBalanceRequest where
  address : String
  denom : String

structure QueryBalanceResponse where
  balance : Coin

structure QueryAllBalancesResponse where
  balances : List Coin

structure QuerySmartContractStateRequest where
  address : String
  queryData : Bytes

structure QuerySmartContractStateResponse where
  data : Bytes

structure BroadcastTxRequest where
  txBytes : Bytes
  mode : BroadcastMode

/-- `cosmos.base.abci.v1beta1.TxResponse`, the fields the module reads. -/
structure TxResponse where
  txhash : String
  code : Nat
  rawLog : String

structure BroadcastTxResponse where
  txResponse : TxResponse

structure GetTxRequest where
  hash : String

structure GetTxResponse where
  txResponse : TxResponse

structure NodeInfo where
  network : String

structure GetNodeInfoResponse where
  defaultNodeInfo : NodeInfo

/-- The part of a `requests.Response` the faucet refill reads. -/
structure HttpResponse where
  statusCode : Nat

/-! ## Collaborators -/

/-- The library functions the module calls.  `loads` and `loadsBytes` are `json.loads` on text
and on bytes, and `int` and `intOfStr` are Python's `int` on a JSON value and on a string; each
carries, as a field, the classes of exception Python's function raises. -/
structure Lib where
  serializeToString : Tx → Bytes
  signTransaction : Tx → Bytes → String → Nat → Tx
  gzipCompress : Bytes → Bytes
  jsonDumps : Json → Bytes
  loads : String → Except Exc Json
  loadsBytes : Bytes → Except Exc Json
  messageToDict : GetTxResponse → Json
  int : Json → Except Exc Int
  intOfStr : String → Except Exc Int
  str : Json → String
  /-- `json.loads` raises `JSONDecodeError` on text that is not JSON, `RecursionError` on too
  deep a nesting, and `ValueError` on an integer past the digit limit. -/
  loads_raises : ∀ s e, loads s = .error e →
    e.kind ∈ [.jsonDecodeError, .valueError, .recursionError]
  /-- On bytes it also raises `UnicodeDecodeError` when they do not decode. -/
  loadsBytes_raises : ∀ b e, loadsBytes b = .error e →
    e.kind ∈ [.jsonDecodeError, .valueError, .recursionError, .unicodeDecodeError]
  /-- `int` of a JSON value raises `ValueError` on a string that is no integer or on `nan`,
  `TypeError` on `None`, a list or a dict, and `OverflowError` on an infinite float. -/
  int_raises : ∀ v e, int v = .error e → e.kind ∈ [.valueError, .typeError, .overflowError]
  /-- `int` of a string raises `ValueError` only. -/
  intOfStr_raises : ∀ s e, intOfStr s = .error e → e.kind = .valueError

/-- A `Lib` for concrete runs: serialisation gives no bytes, signing leaves the transaction as it
is, `json.loads` refuses everything, and so do the two `int` conversions. -/
def sampleLib : Lib where
  serializeToString _ := []
  signTransaction tx _ _ _ := tx
  gzipCompress data := data
  jsonDumps _ := []
  loads _ := .error (Exc.raise .jsonDecodeError "Expecting value")
  loadsBytes _ := .error (Exc.raise .jsonDecodeError "Expecting value")
  messageToDict _ := .null
  int _ := .error (Exc.raise .valueError "invalid literal for int()")
  intOfStr _ := .error (Exc.raise .valueError "invalid literal for int()")
  str _ := ""
  loads_raises _ _ h := by cases h; exact List.mem_cons_self _ _
  loadsBytes_raises _ _ h := by cases h; exact List.mem_cons_self _ _
  int_raises _ _ h := by cases h; exact List.mem_cons_self _ _
  intOfStr_raises _ _ h := by cases h; rfl

/-- The signing key material: what `get_address()`, `get_pubkey_as_bytes()` and `private_key`
return.  Its mutable `account_number` lives in the `World`. -/
structure CosmosCrypto where
  address : String
  pubkey : Bytes
  privateKey : Bytes

/-- Seconds to sleep. -/
abbrev Seconds := NNRat

end Cosmpy
