import Cosmpy.Trace

/-!
# Which services each method calls

Each public method of the client talks to a few services only: `get_balance` to the bank's
`Balance`, `sign_tx` to the auth service's `Account` and to nothing else, the contract workflows to
`Account`, `BroadcastTx` and `GetTx` (and `deploy_contract` to the file system first), the faucet
refill to `AllBalances` and the faucet.  This file proves each method's footprint, for every reply
of the node, and so what a method never does: the queries never broadcast, nothing but the faucet
refill ever posts to the faucet, and nothing but a workflow or `broadcast_tx` ever polls `GetTx`.

* `Call.kind` is the service a call goes to, and `Event.outside ks` holds of a call to a service
  not among `ks`.
* `Emits ks x` is `AddsAtMost (Event.outside ks) 0 x`: every run of `x`, returning or raising,
  calls only services among `ks`.  The closure lemmas of `Cosmpy.Trace` give it of every `do`
  block; `Emits.addsAtMost` turns it into `AddsAtMost p 0 x` for every `p` that holds only of
  calls outside `ks`, which is how the later files show that a function adds none of the events
  they count.
* `Op.footprint` is the footprint of each public method, and `runSession_emits` bounds a session
  by the footprints of its calls.
-/

set_option autoImplicit false

namespace Cosmpy

open Ledger

/-- A service the client calls, without the call's arguments. -/
inductive CallKind where
  | account
  | balance
  | allBalances
  | smartContractState
  | broadcastTx
  | getTx
  | getNodeInfo
  | restGet
  | faucetPost
  | readFile
  deriving DecidableEq, Repr

/-- The service a call goes to. -/
def Call.kind : Call → CallKind
  | .account _ => .account
  | .balance _ => .balance
  | .allBalances _ => .allBalances
  | .smartContractState _ => .smartContractState
  | .broadcastTx _ => .broadcastTx
  | .getTx _ => .getTx
  | .getNodeInfo => .getNodeInfo
  | .restGet _ => .restGet
  | .faucetPost _ _ => .faucetPost
  | .readFile _ => .readFile

/-- The event is a call to a service not among `ks`; a sleep never is. -/
def Event.outside (ks : List CallKind) : Event → Bool
  | .call c _ => c.kind ∉ ks
  | .sleep _ => false

/-- Every run of `x`, whether it returns or raises, calls only services among `ks`. -/
abbrev Emits {α : Type} (ks : List CallKind) (x : Ledger α) : Prop :=
  AddsAtMost (Event.outside ks) 0 x

section Emits

variable {α : Type} {ks ks' : List CallKind} {x : Ledger α}

theorem emits_call {c : Call} (h : c.kind ∈ ks) : Emits ks (call c) :=
  addsAtMost_call fun _ => by simp [Event.outside, h]

/-- A run that calls only services among `ks` adds none of the events that only calls to other
services are. -/
theorem Emits.addsAtMost {p : Event → Bool} (hx : Emits ks x)
    (hp : ∀ e, p e = true → e.outside ks = true) : AddsAtMost p 0 x :=
  Appends.mono hx fun _ hc => (List.countP_mono_left fun e _ => hp e).trans hc

theorem Emits.mono (hx : Emits ks x) (h : ks ⊆ ks') : Emits ks' x :=
  hx.addsAtMost fun
    | .call c _, he => by simp only [Event.outside, decide_eq_true_eq] at he ⊢; exact mt (@h _) he
    | .sleep _, he => he

end Emits

/-! ## The footprint of each function -/

namespace CosmosLedger

variable (lib : Lib) (self : CosmosLedger)

theorem queryAccountDataLoop_emits (address : String) :
    ∀ k le accountResponse, Emits [.account] (self.queryAccountDataLoop address k le accountResponse)
  | 0, _, _ => addsAtMost_pure _
  | k + 1, _, _ => addsAtMost_zero_bind (addsAtMost_observe (emits_call (List.mem_cons_self _ _))) fun
    | .ok _ => addsAtMost_pure _
    | .error _ => addsAtMost_zero_bind (addsAtMost_sleep rfl) fun _ =>
      queryAccountDataLoop_emits address k _ _

theorem queryAccountData_emits (address : String) :
    Emits [.account] (self.queryAccountData address) :=
  addsAtMost_zero_bind (self.queryAccountDataLoop_emits address _ _ _) fun
    | (_, none) => addsAtMost_throw _
    | (_, some ⟨.baseAccount _⟩) => addsAtMost_pure _
    | (_, some ⟨.other _⟩) => addsAtMost_throw _

theorem queryContractState_emits (contractAddress : String) (msg : Json) (nRetries : Option Int) :
    Emits [.smartContractState] (self.queryContractState lib contractAddress msg nRetries) :=
  addsAtMost_zero_bind (retryLoop_addsAtMost_zero rfl (emits_call (List.mem_cons_self _ _)) _ _ _) fun
    | (_, none) => addsAtMost_throw _
    | (_, some _) => addsAtMost_ofExcept _

theorem getBalance_emits (address denom : String) :
    Emits [.balance] (self.getBalance lib address denom) :=
  addsAtMost_zero_bind (retryLoop_addsAtMost_zero rfl (emits_call (List.mem_cons_self _ _)) _ _ _) fun
    | (_, none) => addsAtMost_throw _
    | (_, some _) => addsAtMost_ofExcept _

theorem getBalances_emits (address : String) : Emits [.allBalances] (self.getBalances address) :=
  addsAtMost_zero_bind (retryLoop_addsAtMost_zero rfl (emits_call (List.mem_cons_self _ _)) _ _ _) fun
    | (_, none) => addsAtMost_throw _
    | (_, some _) => addsAtMost_pure _

theorem checkAvailability_emits :
    Emits [.getNodeInfo, .restGet] (checkAvailability lib self) :=
  checkAvailability_appends lib self fun r => by
    have : self.availabilityCall.kind ∈ [.getNodeInfo, .restGet] := by
      unfold availabilityCall; split <;> decide
    simp [Event.outside, this]

theorem querySignerInfos_emits : ∀ signers, Emits [.account] (self.querySignerInfos signers)
  | [] => addsAtMost_pure _
  | (_, _) :: rest => addsAtMost_zero_bind (self.queryAccountData_emits _) fun _ =>
    addsAtMost_zero_bind (querySignerInfos_emits rest) fun _ => addsAtMost_pure _

theorem generateTx_emits (packedMsgs : List ProtoAny) (fromAddresses : List String)
    (pubKeys : List Bytes) (fee : Option (List Coin)) (memo : String) (gasLimit : Nat) :
    Emits [.account] (self.generateTx packedMsgs fromAddresses pubKeys fee memo gasLimit) :=
  addsAtMost_zero_bind (self.querySignerInfos_emits _) fun _ => addsAtMost_pure _

theorem signTx_emits (crypto : CosmosCrypto) (tx : Tx) :
    Emits [.account] (self.signTx lib crypto tx) := by
  refine addsAtMost_zero_bind ?_ fun _ => addsAtMost_zero_bind addsAtMost_get fun w => ?_
  · refine addsAtMost_zero_bind addsAtMost_get fun w => addsAtMost_ite ?_ (addsAtMost_pure _)
    exact addsAtMost_zero_bind (self.queryAccountData_emits _) fun _ =>
      addsAtMost_modify fun _ => rfl
  · cases w.accountNumber
    exacts [addsAtMost_throw _, addsAtMost_pure _]

theorem getTx_emits (txhash : String) : Emits [.getTx] (self.getTx txhash) :=
  callWithRetry_addsAtMost _ (retryLoop_addsAtMost_zero rfl (emits_call (List.mem_cons_self _ _)) _ _ _)

theorem broadcastTx_emits (tx : Tx) (retries : Option Int) :
    Emits [.broadcastTx, .getTx] (self.broadcastTx lib tx retries) :=
  addsAtMost_zero_bind (callWithRetry_addsAtMost _
      (retryLoop_addsAtMost_zero rfl (emits_call (List.mem_cons_self _ _)) _ _ _)) fun _ =>
    addsAtMost_ite (addsAtMost_zero_bind (addsAtMost_throw _) fun _ =>
        (self.getTx_emits _).mono (by decide))
      (addsAtMost_zero_bind (addsAtMost_pure _) fun _ => (self.getTx_emits _).mono (by decide))

theorem getPackedStoreMsg_emits (senderAddress contractFilename : String) :
    Emits [.readFile] (getPackedStoreMsg lib senderAddress contractFilename) :=
  addsAtMost_zero_bind (emits_call (List.mem_cons_self _ _)) fun
    | some _ => addsAtMost_pure _
    | none => addsAtMost_throw _

/-- Building and signing a transaction adds the account queries to what its message calls. -/
theorem prepareTx_emits {ks : List CallKind} {msg : Ledger ProtoAny} (hm : Emits ks msg)
    (crypto : CosmosCrypto) (gas : Nat) :
    Emits (ks ++ [.account]) (self.prepareTx lib msg crypto gas) :=
  addsAtMost_zero_bind (hm.mono (List.subset_append_left _ _)) fun _ =>
    addsAtMost_zero_bind ((self.generateTx_emits _ _ _ _ _ _).mono (List.subset_append_right _ _))
      fun _ => (self.signTx_emits lib crypto _).mono (List.subset_append_right _ _)

/-- A transaction built and signed for a message that adds none of the events `p` counts adds none
either, when `p` counts no account query. -/
theorem prepareTx_addsAtMost {p : Event → Bool} {msg : Ledger ProtoAny} (hm : AddsAtMost p 0 msg)
    (hp : ∀ e, p e = true → e.outside [.account] = true) (crypto : CosmosCrypto) (gas : Nat) :
    AddsAtMost p 0 (self.prepareTx lib msg crypto gas) :=
  addsAtMost_zero_bind hm fun _ =>
    addsAtMost_zero_bind ((self.generateTx_emits _ _ _ _ _ _).addsAtMost hp) fun _ =>
      (self.signTx_emits lib crypto _).addsAtMost hp

variable (crypto : CosmosCrypto) (gas : Nat)

/-- An attempt of a workflow: its message's calls, the account queries, the broadcast and the
poll. -/
theorem submitTx_emits {ks : List CallKind} {msg : Ledger ProtoAny} (hm : Emits ks msg) :
    Emits (ks ++ [.account, .broadcastTx, .getTx]) (self.submitTx lib msg crypto gas) :=
  addsAtMost_zero_bind ((self.prepareTx_emits lib hm crypto gas).mono (by simp)) fun _ =>
    (self.broadcastTx_emits lib _ _).mono (by simp)

theorem deployContract_emits (contractFilename : String) :
    Emits [.readFile, .account, .broadcastTx, .getTx]
      (self.deployContract lib crypto contractFilename gas) :=
  addsAtMost_zero_bind ((sendLoop_addsAtMost _ _ rfl
      (self.submitTx_emits lib crypto gas (getPackedStoreMsg_emits lib _ _)) _ _).mono
      (Nat.mul_zero _).le) fun st => by
    split <;> first | exact addsAtMost_pure _ | exact addsAtMost_throw _

theorem instantiateContract_emits (codeId : Int) (initMsg : Json) (label : String) :
    Emits [.account, .broadcastTx, .getTx]
      (self.instantiateContract lib crypto codeId initMsg label gas) := by
  rw [instantiateContract, instantiateLoop_eq_sendLoop]
  exact addsAtMost_zero_bind ((sendLoop_addsAtMost _ _ rfl
      (self.submitTx_emits lib crypto gas (show Emits [] _ from addsAtMost_pure _)) _ _).mono
      (Nat.mul_zero _).le) fun st => by
    split <;> first | exact addsAtMost_pure _ | exact addsAtMost_throw _

theorem executeLoop_emits {ks : List CallKind} {submit : Ledger GetTxResponse}
    (hs : Emits ks submit) :
    ∀ k res lastException, Emits ks (self.executeLoop submit k res lastException) :=
  (concat_countP_zero _).executeLoop_appends self (Nat.le_refl 0) hs

theorem executeContract_emits (contractAddress : String) (executeMsg : Json)
    (amount : Option (List Coin)) (nRetries : Option Int) :
    Emits [.account, .broadcastTx, .getTx]
      (self.executeContract lib crypto contractAddress executeMsg gas amount nRetries) :=
  addsAtMost_zero_bind (self.executeLoop_emits
      (self.submitTx_emits lib crypto gas (show Emits [] _ from addsAtMost_pure _)) _ _ _) fun
    | (some _, _) => addsAtMost_pure _
    | (none, _) => addsAtMost_throw _

theorem sendFunds_emits (toAddress : String) (amountCoins : List Coin) :
    Emits [.account, .broadcastTx, .getTx] (self.sendFunds lib crypto toAddress amountCoins) :=
  self.submitTx_emits lib crypto _ (show Emits [] _ from addsAtMost_pure _)

theorem refillWealthFromValidator_emits (addresses : List String) (amountCoins : List Coin) :
    Emits [.account, .broadcastTx, .getTx]
      (self.refillWealthFromValidator lib crypto addresses amountCoins) :=
  (addsAtMost_forM (fun _ => 0) (fun _ => addsAtMost_bind_zero
    (self.sendFunds_emits lib crypto _ _) fun _ => addsAtMost_pure _) addresses).mono (by simp)

theorem faucetAttempt_emits (minAmount : Int) (address : String) :
    Emits [.allBalances, .faucetPost] (self.faucetAttempt lib minAmount address) := by
  refine addsAtMost_zero_bind ((self.getBalances_emits address).mono (by decide)) fun _ => ?_
  dsimp only
  split <;>
    exact addsAtMost_zero_bind
      (by first | exact addsAtMost_ofExcept _ | exact addsAtMost_pure _) fun _ =>
      addsAtMost_ite (addsAtMost_zero_bind (emits_call (by simp [Call.kind])) fun _ =>
          addsAtMost_zero_bind (addsAtMost_attr _ _) fun _ =>
            addsAtMost_zero_bind (addsAtMost_sleep rfl) fun _ => addsAtMost_pure _)
        (addsAtMost_pure _)

theorem faucetLoop_emits (minAmount : Int) (address : String) :
    ∀ k, Emits [.allBalances, .faucetPost] (self.faucetLoop lib minAmount address k)
  | 0 => addsAtMost_pure _
  | k + 1 =>
    addsAtMost_zero_bind (addsAtMost_observe (self.faucetAttempt_emits lib _ _)) fun
    | .ok true => addsAtMost_pure _
    | .ok false => faucetLoop_emits minAmount address k
    | .error _ => addsAtMost_zero_bind (addsAtMost_sleep rfl) fun _ =>
      faucetLoop_emits minAmount address k

theorem refillWealthFromFaucet_emits (addresses : List String) (amount : Option Int) :
    Emits [.allBalances, .faucetPost] (self.refillWealthFromFaucet lib addresses amount) :=
  (addsAtMost_forM _ (fun _ => self.faucetLoop_emits lib _ _ _) addresses).mono (by simp)

end CosmosLedger

/-! ## Sessions -/

/-- The services one call of the method can call. -/
def Op.footprint : Op → List CallKind
  | .deployContract .. => [.readFile, .account, .broadcastTx, .getTx]
  | .instantiateContract .. | .executeContract .. | .sendFunds .. =>
    [.account, .broadcastTx, .getTx]
  | .queryContractState .. => [.smartContractState]
  | .getBalance .. => [.balance]
  | .getBalances _ => [.allBalances]
  | .refillWealthFromFaucet .. => [.allBalances, .faucetPost]
  | .generateTx .. | .signTx _ | .queryAccountData _ => [.account]
  | .broadcastTx .. => [.broadcastTx, .getTx]
  | .getTx _ => [.getTx]
  | .checkAvailability => [.getNodeInfo, .restGet]

section Sessions

variable (lib : Lib) (self : CosmosLedger) (crypto : CosmosCrypto)

theorem Op.run_emits : ∀ op : Op, Emits op.footprint (op.run lib self crypto)
  | .deployContract .. =>
    addsAtMost_zero_bind (self.deployContract_emits lib crypto _ _) fun _ => addsAtMost_pure _
  | .instantiateContract .. =>
    addsAtMost_zero_bind (self.instantiateContract_emits lib crypto _ _ _ _) fun _ =>
      addsAtMost_pure _
  | .executeContract .. =>
    addsAtMost_zero_bind (self.executeContract_emits lib crypto _ _ _ _ _) fun _ =>
      addsAtMost_pure _
  | .queryContractState .. =>
    addsAtMost_zero_bind (self.queryContractState_emits lib _ _ _) fun _ => addsAtMost_pure _
  | .getBalance .. =>
    addsAtMost_zero_bind (self.getBalance_emits lib _ _) fun _ => addsAtMost_pure _
  | .getBalances _ => addsAtMost_zero_bind (self.getBalances_emits _) fun _ => addsAtMost_pure _
  | .sendFunds .. =>
    addsAtMost_zero_bind (self.sendFunds_emits lib crypto _ _) fun _ => addsAtMost_pure _
  | .refillWealthFromFaucet .. => self.refillWealthFromFaucet_emits lib _ _
  | .generateTx .. =>
    addsAtMost_zero_bind (self.generateTx_emits _ _ _ _ _ _) fun _ => addsAtMost_pure _
  | .signTx _ => addsAtMost_zero_bind (self.signTx_emits lib crypto _) fun _ => addsAtMost_pure _
  | .broadcastTx .. =>
    addsAtMost_zero_bind (self.broadcastTx_emits lib _ _) fun _ => addsAtMost_pure _
  | .getTx _ => addsAtMost_zero_bind (self.getTx_emits _) fun _ => addsAtMost_pure _
  | .queryAccountData _ =>
    addsAtMost_zero_bind (self.queryAccountData_emits _) fun _ => addsAtMost_pure _
  | .checkAvailability => CosmosLedger.checkAvailability_emits lib self

/-- **What a session calls.**  For every list of calls to the client and every world, a session
calls only the services in the footprints of its calls, whatever each call raises: the contract
workflows and `send_funds` only `Account`, `BroadcastTx` and `GetTx` (and `deploy_contract` the
file system), `broadcast_tx` only `BroadcastTx` and `GetTx`, the refill only `AllBalances` and the
faucet, and each query, `generate_tx`, `sign_tx`, `get_tx` and `check_availability` only the one
service it reads.  So no query ever broadcasts, and nothing but the refill posts to the faucet. -/
theorem runSession_emits :
    ∀ ops : List Op, Emits (ops.flatMap Op.footprint) (runSession lib self crypto ops)
  | [] => addsAtMost_pure _
  | op :: ops => by
    rw [runSession, List.forM_cons', List.flatMap_cons]
    exact addsAtMost_zero_bind (addsAtMost_zero_bind
      (addsAtMost_observe ((op.run_emits lib self crypto).mono (List.subset_append_left _ _)))
        fun _ => addsAtMost_pure _) fun _ =>
      (runSession_emits ops).mono (List.subset_append_right _ _)

end Sessions

end Cosmpy
