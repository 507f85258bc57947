import Cosmpy.Submissions

/-!
# How many calls one call can make

Every retry budget of the client bounds a loop, and the loops nest: each attempt of a contract
workflow queries the account up to `n_total_msg_retries` times in `generate_tx` and as many again
in `sign_tx`, broadcasts up to `n_total_msg_retries` times, and polls up to
`n_get_response_retries` times.  This file bounds, for every reply of the node, how many calls (to
the node, the faucet or the file system) each public method makes, and so a whole session.

* `CallsAtMost n x` is `AddsAtMost Event.isCall n x`: every run of `x` records at most `n` calls.
  A call records one, `sleep` none, and bounds add up under `bind`.
* One lemma per function gives its bound from the bounds of what it calls; a loop multiplies the
  bound of its body by its budget (`retryLoop_addsAtMost`, `sendLoop_addsAtMost`).
* `Op.callBudget` is the bound of each public method: quadratic in `n_total_msg_retries` for the
  contract workflows, since an attempt's queries and broadcast have that budget too.
  `runSession_callsAtMost` bounds a session by the sum of its calls' budgets.
-/

set_option autoImplicit false

namespace Cosmpy

open Ledger

/-- Every run of `x` records at most `n` calls. -/
abbrev CallsAtMost {α : Type} (n : Nat) (x : Ledger α) : Prop := AddsAtMost Event.isCall n x

namespace CosmosLedger

variable (lib : Lib) (self : CosmosLedger)

/-! ## Queries -/

theorem queryAccountDataLoop_callsAtMost (address : String) :
    ∀ k le accountResponse, CallsAtMost k (self.queryAccountDataLoop address k le accountResponse)
  | 0, _, _ => addsAtMost_pure _
  | k + 1, _, _ =>
    (addsAtMost_bind (addsAtMost_observe (addsAtMost_call_one _)) fun
      | .ok _ => (addsAtMost_pure _).mono (Nat.zero_le _)
      | .error _ => addsAtMost_zero_bind (addsAtMost_sleep rfl) fun _ =>
        queryAccountDataLoop_callsAtMost address k _ _).mono (Nat.add_comm 1 k).le

theorem queryAccountData_callsAtMost (address : String) :
    CallsAtMost self.nTotalMsgRetries.toNat (self.queryAccountData address) :=
  addsAtMost_bind_zero (self.queryAccountDataLoop_callsAtMost address _ _ _) fun
    | (_, none) => addsAtMost_throw _
    | (_, some ⟨.baseAccount _⟩) => addsAtMost_pure _
    | (_, some ⟨.other _⟩) => addsAtMost_throw _

theorem queryContractState_callsAtMost (contractAddress : String) (msg : Json)
    (nRetries : Option Int) :
    CallsAtMost (nRetries.getD self.nTotalMsgRetries).toNat
      (self.queryContractState lib contractAddress msg nRetries) :=
  addsAtMost_bind_zero
    ((retryLoop_addsAtMost rfl (addsAtMost_call_one _) _ _ _).mono (Nat.mul_one _).le) fun
    | (_, none) => addsAtMost_throw _
    | (_, some _) => addsAtMost_ofExcept _

theorem getBalance_callsAtMost (address denom : String) :
    CallsAtMost self.nTotalMsgRetries.toNat (self.getBalance lib address denom) :=
  addsAtMost_bind_zero
    ((retryLoop_addsAtMost rfl (addsAtMost_call_one _) _ _ _).mono (Nat.mul_one _).le) fun
    | (_, none) => addsAtMost_throw _
    | (_, some _) => addsAtMost_ofExcept _

theorem getBalances_callsAtMost (address : String) :
    CallsAtMost self.nTotalMsgRetries.toNat (self.getBalances address) :=
  addsAtMost_bind_zero
    ((retryLoop_addsAtMost rfl (addsAtMost_call_one _) _ _ _).mono (Nat.mul_one _).le) fun
    | (_, none) => addsAtMost_throw _
    | (_, some _) => addsAtMost_pure _

theorem checkAvailability_callsAtMost : CallsAtMost 1 (checkAvailability lib self) :=
  checkAvailability_appends lib self fun _ => List.countP_le_length _

/-! ## Building, signing and broadcasting a transaction -/

theorem querySignerInfos_callsAtMost :
    ∀ signers, CallsAtMost (signers.length * self.nTotalMsgRetries.toNat)
      (self.querySignerInfos signers)
  | [] => (addsAtMost_pure _).mono (Nat.zero_le _)
  | (_, _) :: rest => by
    rw [List.length_cons, Nat.succ_mul, Nat.add_comm]
    exact addsAtMost_bind (self.queryAccountData_callsAtMost _) fun _ =>
      addsAtMost_bind_zero (querySignerInfos_callsAtMost rest) fun _ => addsAtMost_pure _

theorem generateTx_callsAtMost (packedMsgs : List ProtoAny) (fromAddresses : List String)
    (pubKeys : List Bytes) (fee : Option (List Coin)) (memo : String) (gasLimit : Nat) :
    CallsAtMost ((fromAddresses.zip pubKeys).length * self.nTotalMsgRetries.toNat)
      (self.generateTx packedMsgs fromAddresses pubKeys fee memo gasLimit) :=
  addsAtMost_bind_zero (self.querySignerInfos_callsAtMost _) fun _ => addsAtMost_pure _

/-- `sign_tx` queries the account only when no number is cached. -/
theorem signTx_callsAtMost (crypto : CosmosCrypto) (tx : Tx) :
    CallsAtMost self.nTotalMsgRetries.toNat (self.signTx lib crypto tx) := by
  refine addsAtMost_bind_zero ?_ fun _ => addsAtMost_zero_bind addsAtMost_get fun w => ?_
  · refine addsAtMost_zero_bind addsAtMost_get fun w =>
      addsAtMost_ite ?_ ((addsAtMost_pure _).mono (Nat.zero_le _))
    exact addsAtMost_bind_zero (self.queryAccountData_callsAtMost _) fun _ =>
      addsAtMost_modify fun _ => rfl
  · cases w.accountNumber
    exacts [addsAtMost_throw _, addsAtMost_pure _]

theorem getTx_callsAtMost (txhash : String) :
    CallsAtMost self.nGetResponseRetries.toNat (self.getTx txhash) :=
  callWithRetry_addsAtMost _
    ((retryLoop_addsAtMost rfl (addsAtMost_call_one _) _ _ _).mono (Nat.mul_one _).le)

/-- `broadcast_tx`: its own budget of broadcasts, then the poll's. -/
theorem broadcastTx_callsAtMost (tx : Tx) (retries : Option Int) :
    CallsAtMost ((retries.getD self.nTotalMsgRetries).toNat + self.nGetResponseRetries.toNat)
      (self.broadcastTx lib tx retries) :=
  addsAtMost_bind (callWithRetry_addsAtMost _
      ((retryLoop_addsAtMost rfl (addsAtMost_call_one _) _ _ _).mono (Nat.mul_one _).le))
    fun _ => addsAtMost_ite
      (addsAtMost_zero_bind (addsAtMost_throw _) fun _ => self.getTx_callsAtMost _)
      (addsAtMost_zero_bind (addsAtMost_pure _) fun _ => self.getTx_callsAtMost _)

theorem getPackedStoreMsg_callsAtMost (senderAddress contractFilename : String) :
    CallsAtMost 1 (getPackedStoreMsg lib senderAddress contractFilename) :=
  addsAtMost_bind_zero (addsAtMost_call_one _) fun
    | some _ => addsAtMost_pure _
    | none => addsAtMost_throw _

variable (crypto : CosmosCrypto) (gas : Nat)

/-- An attempt: the message's calls, two account queries of `n_total_msg_retries` tries, the
broadcast's tries and the poll's. -/
theorem submitTx_callsAtMost {m : Nat} {msg : Ledger ProtoAny} (hm : CallsAtMost m msg) :
    CallsAtMost (m + 3 * self.nTotalMsgRetries.toNat + self.nGetResponseRetries.toNat)
      (self.submitTx lib msg crypto gas) :=
  (addsAtMost_bind
    (addsAtMost_bind hm fun _ =>
      addsAtMost_bind ((self.generateTx_callsAtMost _ _ _ _ _ _).mono (Nat.one_mul _).le) fun _ =>
        self.signTx_callsAtMost lib crypto _)
    fun _ => self.broadcastTx_callsAtMost lib _ none).mono (by rw [Option.getD_none]; omega)

/-! ## The workflows -/

theorem deployContract_callsAtMost (contractFilename : String) :
    CallsAtMost (self.nTotalMsgRetries.toNat *
        (1 + 3 * self.nTotalMsgRetries.toNat + self.nGetResponseRetries.toNat))
      (self.deployContract lib crypto contractFilename gas) :=
  addsAtMost_bind_zero (sendLoop_addsAtMost _ _ rfl (self.submitTx_callsAtMost lib crypto gas
      (getPackedStoreMsg_callsAtMost lib _ _)) _ _) fun st => by
    split <;> first | exact addsAtMost_pure _ | exact addsAtMost_throw _

theorem instantiateContract_callsAtMost (codeId : Int) (initMsg : Json) (label : String) :
    CallsAtMost (self.nTotalMsgRetries.toNat *
        (3 * self.nTotalMsgRetries.toNat + self.nGetResponseRetries.toNat))
      (self.instantiateContract lib crypto codeId initMsg label gas) := by
  rw [instantiateContract, instantiateLoop_eq_sendLoop]
  exact addsAtMost_bind_zero (sendLoop_addsAtMost _ _ rfl
      ((self.submitTx_callsAtMost lib crypto gas (addsAtMost_pure _)).mono (by omega)) _ _)
    fun st => by split <;> first | exact addsAtMost_pure _ | exact addsAtMost_throw _

theorem executeLoop_callsAtMost {n : Nat} {submit : Ledger GetTxResponse}
    (hs : CallsAtMost n submit) :
    ∀ k res lastException, CallsAtMost (k * n) (self.executeLoop submit k res lastException)
  | 0, _, _ => (addsAtMost_pure _).mono (Nat.zero_le _)
  | k + 1, _, _ => by
    rw [Nat.succ_mul, Nat.add_comm (k * _)]
    exact addsAtMost_bind (addsAtMost_observe hs) fun
      | .ok _ => (addsAtMost_pure _).mono (Nat.zero_le _)
      | .error _ => by
        dsimp only
        exact addsAtMost_ite (addsAtMost_zero_bind (addsAtMost_sleep rfl) fun _ =>
          executeLoop_callsAtMost hs k _ _) ((addsAtMost_throw _).mono (Nat.zero_le _))

theorem executeContract_callsAtMost (contractAddress : String) (executeMsg : Json)
    (amount : Option (List Coin)) (nRetries : Option Int) :
    CallsAtMost ((nRetries.getD self.nSendingRetries).toNat *
        (3 * self.nTotalMsgRetries.toNat + self.nGetResponseRetries.toNat))
      (self.executeContract lib crypto contractAddress executeMsg gas amount nRetries) :=
  addsAtMost_bind_zero (self.executeLoop_callsAtMost
      ((self.submitTx_callsAtMost lib crypto gas (addsAtMost_pure _)).mono (by omega)) _ _ _) fun
    | (some _, _) => addsAtMost_pure _
    | (none, _) => addsAtMost_throw _

theorem sendFunds_callsAtMost (toAddress : String) (amountCoins : List Coin) :
    CallsAtMost (3 * self.nTotalMsgRetries.toNat + self.nGetResponseRetries.toNat)
      (self.sendFunds lib crypto toAddress amountCoins) :=
  (self.submitTx_callsAtMost lib crypto _ (addsAtMost_pure _)).mono (by omega)

/-! ## The faucet -/

theorem faucetAttempt_callsAtMost (minAmount : Int) (address : String) :
    CallsAtMost (self.nTotalMsgRetries.toNat + 1) (self.faucetAttempt lib minAmount address) := by
  refine addsAtMost_bind (self.getBalances_callsAtMost address) fun balances => ?_
  dsimp only
  split <;>
    exact addsAtMost_zero_bind
      (by first | exact addsAtMost_ofExcept _ | exact addsAtMost_pure _) fun _ =>
      addsAtMost_ite (addsAtMost_bind_zero (addsAtMost_call_one _) fun _ =>
          addsAtMost_zero_bind (addsAtMost_attr _ _) fun _ =>
            addsAtMost_zero_bind (addsAtMost_sleep rfl) fun _ => addsAtMost_pure _)
        ((addsAtMost_pure _).mono (Nat.zero_le _))

theorem faucetLoop_callsAtMost (minAmount : Int) (address : String) :
    ∀ k, CallsAtMost (k * (self.nTotalMsgRetries.toNat + 1))
      (self.faucetLoop lib minAmount address k)
  | 0 => (addsAtMost_pure _).mono (Nat.zero_le _)
  | k + 1 => by
    rw [Nat.succ_mul, Nat.add_comm (k * _)]
    exact addsAtMost_bind (addsAtMost_observe (self.faucetAttempt_callsAtMost lib _ _)) fun
      | .ok true => (addsAtMost_pure _).mono (Nat.zero_le _)
      | .ok false => faucetLoop_callsAtMost minAmount address k
      | .error _ => addsAtMost_zero_bind (addsAtMost_sleep rfl) fun _ =>
        faucetLoop_callsAtMost minAmount address k

theorem refillWealthFromFaucet_callsAtMost (addresses : List String) (amount : Option Int) :
    CallsAtMost (addresses.length * (self.nTotalMsgRetries.toNat * (self.nTotalMsgRetries.toNat + 1)))
      (self.refillWealthFromFaucet lib addresses amount) :=
  (addsAtMost_forM _ (fun _ => self.faucetLoop_callsAtMost lib _ _ _) addresses).mono (by simp)

end CosmosLedger

/-! ## Sessions -/

/-- The most calls one call of the method can make. -/
def Op.callBudget (self : CosmosLedger) : Op → Nat
  | .deployContract .. =>
    self.nTotalMsgRetries.toNat *
      (1 + 3 * self.nTotalMsgRetries.toNat + self.nGetResponseRetries.toNat)
  | .instantiateContract .. =>
    self.nTotalMsgRetries.toNat * (3 * self.nTotalMsgRetries.toNat + self.nGetResponseRetries.toNat)
  | .executeContract _ _ _ _ nRetries =>
    (nRetries.getD self.nSendingRetries).toNat *
      (3 * self.nTotalMsgRetries.toNat + self.nGetResponseRetries.toNat)
  | .queryContractState _ _ nRetries => (nRetries.getD self.nTotalMsgRetries).toNat
  | .getBalance .. | .getBalances _ | .signTx _ | .queryAccountData _ => self.nTotalMsgRetries.toNat
  | .sendFunds .. => 3 * self.nTotalMsgRetries.toNat + self.nGetResponseRetries.toNat
  | .refillWealthFromFaucet addresses _ =>
    addresses.length * (self.nTotalMsgRetries.toNat * (self.nTotalMsgRetries.toNat + 1))
  | .generateTx _ fromAddresses pubKeys .. =>
    (fromAddresses.zip pubKeys).length * self.nTotalMsgRetries.toNat
  | .broadcastTx _ retries =>
    (retries.getD self.nTotalMsgRetries).toNat + self.nGetResponseRetries.toNat
  | .getTx _ => self.nGetResponseRetries.toNat
  | .checkAvailability => 1

section Sessions

variable (lib : Lib) (self : CosmosLedger) (crypto : CosmosCrypto)

theorem Op.run_callsAtMost : ∀ op : Op, CallsAtMost (op.callBudget self) (op.run lib self crypto)
  | .deployContract .. => addsAtMost_bind_zero (self.deployContract_callsAtMost lib crypto _ _)
    fun _ => addsAtMost_pure _
  | .instantiateContract .. =>
    addsAtMost_bind_zero (self.instantiateContract_callsAtMost lib crypto _ _ _ _) fun _ =>
      addsAtMost_pure _
  | .executeContract .. =>
    addsAtMost_bind_zero (self.executeContract_callsAtMost lib crypto _ _ _ _ _) fun _ =>
      addsAtMost_pure _
  | .queryContractState .. =>
    addsAtMost_bind_zero (self.queryContractState_callsAtMost lib _ _ _) fun _ => addsAtMost_pure _
  | .getBalance .. =>
    addsAtMost_bind_zero (self.getBalance_callsAtMost lib _ _) fun _ => addsAtMost_pure _
  | .getBalances _ =>
    addsAtMost_bind_zero (self.getBalances_callsAtMost _) fun _ => addsAtMost_pure _
  | .sendFunds .. => addsAtMost_bind_zero (self.sendFunds_callsAtMost lib crypto _ _) fun _ =>
    addsAtMost_pure _
  | .refillWealthFromFaucet .. => self.refillWealthFromFaucet_callsAtMost lib _ _
  | .generateTx .. =>
    addsAtMost_bind_zero (self.generateTx_callsAtMost _ _ _ _ _ _) fun _ => addsAtMost_pure _
  | .signTx _ =>
    addsAtMost_bind_zero (self.signTx_callsAtMost lib crypto _) fun _ => addsAtMost_pure _
  | .broadcastTx .. =>
    addsAtMost_bind_zero (self.broadcastTx_callsAtMost lib _ _) fun _ => addsAtMost_pure _
  | .getTx _ => addsAtMost_bind_zero (self.getTx_callsAtMost _) fun _ => addsAtMost_pure _
  | .queryAccountData _ =>
    addsAtMost_bind_zero (self.queryAccountData_callsAtMost _) fun _ => addsAtMost_pure _
  | .checkAvailability => CosmosLedger.checkAvailability_callsAtMost lib self

/-- **The calls of a session.**  For every list of calls to the client and every world, a session
makes at most the sum of the calls' budgets of calls to the node, the faucet and the file system,
whatever each call raises.  A contract workflow's budget is its attempt budget times the calls of
one attempt: two account queries and a broadcast of `n_total_msg_retries` tries each, and a poll
of `n_get_response_retries` tries (and the contract file read, for `deploy_contract`). -/
theorem runSession_callsAtMost (ops : List Op) :
    CallsAtMost (ops.map (Op.callBudget self)).sum (runSession lib self crypto ops) :=
  addsAtMost_forM _ (fun op => addsAtMost_bind_zero
    (addsAtMost_observe (op.run_callsAtMost lib self crypto)) fun _ => addsAtMost_pure _) ops

end Sessions

end Cosmpy
