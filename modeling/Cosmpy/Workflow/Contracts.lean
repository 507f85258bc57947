import Cosmpy.Workflow.Loop
import Cosmpy.Tx.Broadcast
import Cosmpy.Extract

/-!
# Deploying, instantiating and executing a contract

The three workflows build a transaction with one message, sign it, broadcast it and wait for it,
inside a loop of their own (`Workflow/Loop.lean`):

* `deployContract` is `deploy_contract`: the loop is `sendLoop` itself, catching
  `BroadcastException`, and the code id is read off the confirmed log by `get_code_id`;
* `instantiateContract` is `instantiate_contract`: it also catches `JSONDecodeError`, and sleeps
  after the `try` under `if contract_address is None`; `instantiateLoop_eq_sendLoop` shows that
  this sleeps exactly when the others do;
* `executeContract` is `execute_contract`: its loop has no identifier to wait for and leaves with
  `break` as soon as `broadcast_tx` returns; `executeLoop_eq_sendLoop` shows it is `sendLoop`
  returning the response itself.

What the three have in common is `prepareTx` (the message, `generate_tx` and `sign_tx`) and
`submitTx` (that, then `broadcast_tx`).  The results:

* `contractWorkflows_attempts`: each workflow, for every budget and every world, runs as
  `sendLoop_spec` describes, and returns or raises what the last attempt decides;
* `accepted_attempt_retried_only_on_timeout`: once the node has accepted an attempt's
  transaction, the only exception that makes the loop try again is the confirmation poll running
  out (or, for `instantiate_contract`, a log that is not JSON);
* `deployContract_resubmits_after_timeout`: and then the loop does submit again.
-/

set_option autoImplicit false

namespace Cosmpy

open Ledger

namespace CosmosLedger

variable (lib : Lib) (self : CosmosLedger)

/-! ## One attempt -/

/-- `except BroadcastException`. -/
def catchesBroadcast (k : ExcKind) : Bool := k == .broadcastException

/-- `except BroadcastException` and `except json.decoder.JSONDecodeError`. -/
def catchesBroadcastOrDecode (k : ExcKind) : Bool :=
  k == .broadcastException || k == .jsonDecodeError

/-- The `try` of an attempt up to `self.sign_tx(sender_crypto, tx)`: the message, then a
transaction for it with one signer, then the signature. -/
def prepareTx (msg : Ledger ProtoAny) (senderCrypto : CosmosCrypto) (gas : Nat) : Ledger Tx := do
  let msg ← msg
  let tx ← self.generateTx [msg] [senderCrypto.address] [senderCrypto.pubkey] none "" gas
  self.signTx lib senderCrypto tx

/-- The `try` of an attempt up to `res = self.broadcast_tx(tx)`. -/
def submitTx (msg : Ledger ProtoAny) (senderCrypto : CosmosCrypto) (gas : Nat) :
    Ledger GetTxResponse := do
  let tx ← self.prepareTx lib msg senderCrypto gas
  self.broadcastTx lib tx none

/-! ## `deploy_contract` -/

/-- The error `deploy_contract` raises once its budget is spent. -/
def deployFailed (lastException : Option Exc) : Exc :=
  Exc.raise .broadcastException
    ("Failed to deploy contract code after multiple attempts: " ++ Exc.str lastException)

/-- `deploy_contract(sender_crypto, contract_filename, gas)`. -/
def deployContract (senderCrypto : CosmosCrypto) (contractFilename : String) (gas : Nat) :
    Ledger (Int × Json) := do
  let st ← sendLoop self.msgFailedRetryInterval catchesBroadcast
    (self.submitTx lib (getPackedStoreMsg lib senderCrypto.address contractFilename) senderCrypto
      gas)
    (getCodeId lib) self.nTotalMsgRetries.toNat {}
  match st.result, st.res with
  | some codeId, some res => pure (codeId, lib.messageToDict res)
  | _, _ => throw (deployFailed st.lastException)

/-! ## `instantiate_contract` -/

/-- The loop of `instantiate_contract`: the sleep comes after the `try`, under
`if contract_address is None`. -/
def instantiateLoop (submit : Ledger GetTxResponse) :
    Nat → SendState String → Ledger (SendState String)
  | 0, st => pure st
  | k + 1, st =>
    if st.result.isSome then pure st else do
    let st ← match ← attempt catchesBroadcastOrDecode submit (getContractAddress lib) with
      | .success res contractAddress => pure { st with res := some res, result := some contractAddress }
      | .caught e res => pure { st with res := res.or st.res, lastException := some e }
      | .uncaught e => throw e
    if st.result.isNone then sleep self.msgFailedRetryInterval
    instantiateLoop submit k st

/-- The error `instantiate_contract` raises once its budget is spent: it quotes the log of the
latest confirmed response, if any (a response message is always true in Python). -/
def instantiateFailed (lastException : Option Exc) (res : Option GetTxResponse) : Exc :=
  let errorMsg := match res with
    | some res => res.txResponse.rawLog
    | none => ""
  Exc.raise .broadcastException
    ("Failed to init contract after multiple attempts: " ++ Exc.str lastException ++ " " ++
      errorMsg)

/-- `instantiate_contract(sender_crypto, code_id, init_msg, label, gas)`. -/
def instantiateContract (senderCrypto : CosmosCrypto) (codeId : Int) (initMsg : Json)
    (label : String) (gas : Nat) : Ledger (String × Json) := do
  let st ← self.instantiateLoop lib
    (self.submitTx lib (pure (getPackedInitMsg lib senderCrypto.address codeId initMsg label none))
      senderCrypto gas)
    self.nTotalMsgRetries.toNat {}
  match st.result, st.res with
  | some contractAddress, some res => pure (contractAddress, lib.messageToDict res)
  | _, _ => throw (instantiateFailed st.lastException st.res)

/-- Sleeping under `if contract_address is None` is sleeping after each caught exception. -/
theorem instantiateLoop_eq_sendLoop (submit : Ledger GetTxResponse) (k : Nat)
    (st : SendState String) :
    self.instantiateLoop lib submit k st =
      sendLoop self.msgFailedRetryInterval catchesBroadcastOrDecode submit (getContractAddress lib)
        k st := by
  induction k generalizing st with
  | zero => rfl
  | succ k ih =>
    rw [instantiateLoop, sendLoop]
    split
    · rfl
    · have hst : st.result = none := Option.not_isSome_iff_eq_none.mp ‹_›
      simp only [bind_assoc]
      congr 1
      funext o
      cases o with
      | success res b => simp [ih]
      | caught e res => simp [hst, ih]
      | uncaught e => rfl

/-! ## `execute_contract` -/

/-- The loop of `execute_contract`: `broadcast_tx` never returns `None`, so the `break` is taken
as soon as it returns. -/
def executeLoop (submit : Ledger GetTxResponse) :
    Nat → Option GetTxResponse → Option Exc → Ledger (Option GetTxResponse × Option Exc)
  | 0, res, lastException => pure (res, lastException)
  | k + 1, res, lastException => do
    match ← observe submit with
    | .ok res => pure (some res, lastException)
    | .error e =>
      if e.kind = .broadcastException then
        sleep self.msgFailedRetryInterval
        executeLoop submit k res (some e)
      else throw e

/-- The error `execute_contract` raises once its budget is spent, `from last_exception`. -/
def executeFailed (lastException : Option Exc) : Exc :=
  ⟨.broadcastException,
    "Failed to execute contract after multiple attempts: " ++ Exc.str lastException, lastException⟩

/-- `execute_contract(sender_crypto, contract_address, execute_msg, gas, amount, n_retries)`. -/
def executeContract (senderCrypto : CosmosCrypto) (contractAddress : String) (executeMsg : Json)
    (gas : Nat) (amount : Option (List Coin)) (nRetries : Option Int) : Ledger (Json × Nat) := do
  let (res, lastException) ← self.executeLoop
    (self.submitTx lib (pure (getPackedExecMsg lib senderCrypto.address contractAddress executeMsg
      amount)) senderCrypto gas)
    (nRetries.getD self.nSendingRetries).toNat none none
  match res with
  | some res => pure (lib.messageToDict res, res.txResponse.code)
  | none => throw (executeFailed lastException)

/-- The loop of `execute_contract` is `sendLoop` with the response as its result. -/
theorem executeLoop_eq_sendLoop (submit : Ledger GetTxResponse) (k : Nat)
    (lastException : Option Exc) (w : World) :
    self.executeLoop submit k none lastException w =
      match sendLoop self.msgFailedRetryInterval catchesBroadcast submit pure k
          { lastException := lastException } w with
      | .ok st w' => .ok (st.result, st.lastException) w'
      | .error e w' => .error e w' := by
  induction k generalizing lastException w with
  | zero => rfl
  | succ k ih =>
    rw [executeLoop, sendLoop, if_neg (by simp), bind_apply, bind_apply, observe_apply,
      attempt_apply]
    cases submit w with
    | ok res w' =>
      show _ = match sendLoop _ _ _ _ k { res := some res, result := some res, lastException } w' with
        | .ok st w' => .ok (st.result, st.lastException) w'
        | .error e w' => .error e w'
      rw [sendLoop_of_isSome] <;> rfl
    | error e w' =>
      by_cases he : e.kind = .broadcastException
      · simp [AttemptEnd.ofExc, catchesBroadcast, he, sleep_bind, ih]
      · simp [AttemptEnd.ofExc, catchesBroadcast, he]

/-! ## Every run, attempt by attempt -/

section Runs

variable (senderCrypto : CosmosCrypto) (gas : Nat) (w : World)

theorem deployContract_runsAs (contractFilename : String) :
    RunsAs self.msgFailedRetryInterval catchesBroadcast
      (self.submitTx lib (getPackedStoreMsg lib senderCrypto.address contractFilename)
        senderCrypto gas)
      (getCodeId lib) self.nTotalMsgRetries.toNat w
      (fun res codeId => (codeId, lib.messageToDict res)) (fun st => deployFailed st.lastException)
      (self.deployContract lib senderCrypto contractFilename gas w) :=
  runsAs_bind _ _ _ _ _ _ _ _ _ (fun _ _ _ _ => rfl) fun st w' h => by
    simp only [h]
    rfl

theorem instantiateContract_runsAs (codeId : Int) (initMsg : Json) (label : String) :
    RunsAs self.msgFailedRetryInterval catchesBroadcastOrDecode
      (self.submitTx lib (pure (getPackedInitMsg lib senderCrypto.address codeId initMsg label
        none)) senderCrypto gas)
      (getContractAddress lib) self.nTotalMsgRetries.toNat w
      (fun res contractAddress => (contractAddress, lib.messageToDict res))
      (fun st => instantiateFailed st.lastException st.res)
      (self.instantiateContract lib senderCrypto codeId initMsg label gas w) := by
  rw [instantiateContract, instantiateLoop_eq_sendLoop]
  exact runsAs_bind _ _ _ _ _ _ _ _ _ (fun _ _ _ _ => rfl) fun st w' h => by
    simp only [h]
    rfl

theorem executeContract_runsAs (contractAddress : String) (executeMsg : Json)
    (amount : Option (List Coin)) (nRetries : Option Int) :
    RunsAs self.msgFailedRetryInterval catchesBroadcast
      (self.submitTx lib (pure (getPackedExecMsg lib senderCrypto.address contractAddress
        executeMsg amount)) senderCrypto gas)
      pure (nRetries.getD self.nSendingRetries).toNat w
      (fun _ res => (lib.messageToDict res, res.txResponse.code))
      (fun st => executeFailed st.lastException)
      (self.executeContract lib senderCrypto contractAddress executeMsg gas amount nRetries w) := by
  have h : self.executeContract lib senderCrypto contractAddress executeMsg gas amount nRetries w =
      (sendLoop self.msgFailedRetryInterval catchesBroadcast
        (self.submitTx lib (pure (getPackedExecMsg lib senderCrypto.address contractAddress
          executeMsg amount)) senderCrypto gas)
        pure (nRetries.getD self.nSendingRetries).toNat {} >>= fun st =>
          match st.result with
          | some res => pure (lib.messageToDict res, res.txResponse.code)
          | none => throw (executeFailed st.lastException)) w := by
    rw [executeContract, bind_apply, executeLoop_eq_sendLoop, bind_apply]
    cases sendLoop _ _ _ _ _ _ w <;> rfl
  rw [h]
  exact runsAs_bind _ _ _ _ _ _ _ _ _ (fun _ _ _ _ => rfl) fun st w' h => by
    simp only [h]
    rfl

/-- **`instantiate_contract` returns only a well-formed address.**  For every node behaviour, a
run raises, or it returns the address that `get_contract_address` read off the confirmed
response, which its check accepted: a nonempty run of lowercase letters, then 39 lowercase letters
or digits, and then either nothing or one newline. -/
theorem instantiateContract_returns_valid_address (codeId : Int) (initMsg : Json) (label : String) :
    (∃ e w', self.instantiateContract lib senderCrypto codeId initMsg label gas w = .error e w') ∨
    ∃ contractAddress res w',
      self.instantiateContract lib senderCrypto codeId initMsg label gas w =
        .ok (contractAddress, res) w' ∧
      ∃ p q, (contractAddress.toList = p ++ q ∨ contractAddress.toList = p ++ q ++ ['\n']) ∧
        p ≠ [] ∧ (∀ c ∈ p, 'a' ≤ c ∧ c ≤ 'z') ∧ q.length = 39 ∧
        ∀ c ∈ q, ('0' ≤ c ∧ c ≤ '9') ∨ ('a' ≤ c ∧ c ≤ 'z') := by
  rcases instantiateContract_runsAs lib self senderCrypto gas w codeId initMsg label with
    ⟨_, _, _, _, _, b, w₂, _, ha, hr⟩ | ⟨_, _, _, _, e, w₂, _, _, _, hr⟩ | ⟨_, w₁, _, hr⟩
  · exact .inr ⟨b, _, w₂, hr, isValidCryptoAddress_default_shape
      (getContractAddress_valid lib (attempt_eq_success _ _ _ ha))⟩
  · exact .inl ⟨e, w₂, hr⟩
  · exact .inl ⟨_, w₁, hr⟩

end Runs

/-! ## After the node has accepted a transaction

The spec's confirmation timeout is a `BroadcastException` like a rejection, and the workflow loops
catch it: an attempt whose transaction the node accepted but did not confirm in time is followed
by a new transaction. -/

/-- `Accepted msg senderCrypto gas w tx w₁ j resp`: an attempt started in `w` builds and signs
`tx`, ending in `w₁`, and its broadcast gets its first response, `resp`, at try `j` of its
budget: the node accepted the transaction (code `0`). -/
structure Accepted (msg : Ledger ProtoAny) (senderCrypto : CosmosCrypto) (gas : Nat) (w : World)
    (tx : Tx) (w₁ : World) (j : Nat) (resp : BroadcastTxResponse) : Prop where
  prepared : self.prepareTx lib msg senderCrypto gas w = .ok tx w₁
  within : j < self.nTotalMsgRetries.toNat
  before : ∀ i < j, (w₁.replies i (.broadcastTx (broadcastRequest lib tx))).isValue = false
  answered : w₁.replies j (.broadcastTx (broadcastRequest lib tx)) = .value resp
  accepted : resp.txResponse.code = 0

/-- The world once the broadcast of `tx` has had `j + 1` tries from `w₁`. -/
def afterBroadcast (tx : Tx) (j : Nat) (w₁ : World) : World :=
  World.afterAttempts (.broadcastTx (broadcastRequest lib tx)) self.msgRetryInterval (j + 1) w₁

/-- `e` is the confirmation poll for `resp` running out from `w₂`: no `GetTx` call for its hash
got a response within the budget, and `get_tx` raised its `BroadcastException`. -/
def ConfirmationTimedOut (resp : BroadcastTxResponse) (w₂ : World) (e : Exc) : Prop :=
  (∀ i < self.nGetResponseRetries.toNat,
      (w₂.replies i (.getTx ⟨resp.txResponse.txhash⟩)).isValue = false) ∧
    e = self.getTxRetrier.exhausted
      (lastRaise (fun i => w₂.replies i (.getTx ⟨resp.txResponse.txhash⟩))
        self.nGetResponseRetries.toNat)

section Accepted

variable {msg : Ledger ProtoAny} {senderCrypto : CosmosCrypto} {gas : Nat} {w w₁ : World} {tx : Tx}
  {j : Nat} {resp : BroadcastTxResponse}

/-- Once the node has accepted the transaction, the attempt only waits for it. -/
theorem submitTx_of_accepted (h : Accepted lib self msg senderCrypto gas w tx w₁ j resp) :
    self.submitTx lib msg senderCrypto gas w =
      self.getTx resp.txResponse.txhash (self.afterBroadcast lib tx j w₁) := by
  obtain ⟨hprep, hj, hpre, hv, hcode⟩ := h
  rw [submitTx, bind_of_ok hprep, broadcastTx_of_response lib self
    (Retrier.callWithRetry_of_firstValue
      (self.broadcastRetrier ((none : Option Int).getD self.nTotalMsgRetries)) _ hj hpre hv),
    if_neg (not_not.2 hcode)]
  rfl

/-- An attempt whose transaction was accepted raises what its loop catches only when the
confirmation poll ran out, or when reading the response raised it. -/
theorem attempt_caught_of_accepted {β : Type} {catches : ExcKind → Bool}
    {extract : GetTxResponse → Except Exc β} {e : Exc} {res : Option GetTxResponse} {w' : World}
    (h : Accepted lib self msg senderCrypto gas w tx w₁ j resp)
    (ha : attempt catches (self.submitTx lib msg senderCrypto gas) extract w =
      .ok (.caught e res) w') :
    self.ConfirmationTimedOut resp (self.afterBroadcast lib tx j w₁) e ∨
      ∃ r, extract r = .error e ∧ catches e.kind = true := by
  rw [attempt_apply, submitTx_of_accepted lib self h] at ha
  cases hg : self.getTx resp.txResponse.txhash (self.afterBroadcast lib tx j w₁) with
  | error e' w₂ =>
    rw [hg] at ha
    obtain ⟨rfl, -⟩ := AttemptEnd.ofExc_eq_caught (EStateM.Result.ok.inj ha).1
    exact .inl (Retrier.callWithRetry_eq_error _ _ hg)
  | ok r w₂ =>
    rw [hg] at ha
    dsimp only at ha
    cases hx : extract r with
    | ok b => rw [hx] at ha; cases ha
    | error e' =>
      rw [hx] at ha
      obtain ⟨rfl, hc⟩ := AttemptEnd.ofExc_eq_caught (EStateM.Result.ok.inj ha).1
      exact .inr ⟨r, hx, hc⟩

end Accepted

end CosmosLedger

/-- A client with a budget of two attempts per workflow and one `GetTx` poll. -/
def timeoutLedger : CosmosLedger :=
  { CosmosLedger.sampleLedger with nTotalMsgRetries := 2, nGetResponseRetries := 1 }

/-- A signer whose account number is already cached. -/
def sampleCrypto : CosmosCrypto := ⟨"fetch1", [2], [3]⟩

/-- A node that accepts every transaction and confirms none: every `GetTx` raises. -/
def acceptingWorld : World :=
  ⟨fun _ c => match c with
    | .readFile _ => .value []
    | .account _ => .value ⟨.baseAccount CosmosLedger.sampleAccount⟩
    | .broadcastTx _ => .value ⟨⟨"h", 0, ""⟩⟩
    | .getTx _ => .raise (Exc.raise (.other "RpcError") "unavailable")
    | _ => .none, [], some 7⟩

namespace CosmosLedger

variable (lib : Lib) (self : CosmosLedger)

/-- **An accepted transaction is submitted again only after a confirmation timeout.**  In
`deploy_contract`, `instantiate_contract` and `execute_contract`, whatever the message, an
attempt whose transaction the node accepted ends in an exception the loop catches (the only way
the loop goes on to a new attempt, and so to a new `BroadcastTx`) only when no `GetTx` poll for
it got a response within `n_get_response_retries`, and `get_tx` raised its `BroadcastException`;
or, for `instantiate_contract`, when the confirmed log is not JSON. -/
theorem accepted_attempt_retried_only_on_timeout (msg : Ledger ProtoAny)
    (senderCrypto : CosmosCrypto) (gas : Nat) (w w₁ : World) (tx : Tx) (j : Nat)
    (resp : BroadcastTxResponse) (e : Exc) (res : Option GetTxResponse) (w' : World) :
    (Accepted lib self msg senderCrypto gas w tx w₁ j resp →
      attempt catchesBroadcast (self.submitTx lib msg senderCrypto gas) (getCodeId lib) w =
        .ok (.caught e res) w' →
      self.ConfirmationTimedOut resp (self.afterBroadcast lib tx j w₁) e) ∧
    (Accepted lib self msg senderCrypto gas w tx w₁ j resp →
      attempt catchesBroadcastOrDecode (self.submitTx lib msg senderCrypto gas)
          (getContractAddress lib) w = .ok (.caught e res) w' →
      self.ConfirmationTimedOut resp (self.afterBroadcast lib tx j w₁) e ∨
        e.kind = .jsonDecodeError) ∧
    (Accepted lib self msg senderCrypto gas w tx w₁ j resp →
      attempt catchesBroadcast (self.submitTx lib msg senderCrypto gas) pure w =
        .ok (.caught e res) w' →
      self.ConfirmationTimedOut resp (self.afterBroadcast lib tx j w₁) e) := by
  refine ⟨fun h ha => ?_, fun h ha => ?_, fun h ha => ?_⟩
  · refine (attempt_caught_of_accepted lib self h ha).resolve_right ?_
    rintro ⟨r, hr, hc⟩
    simp only [catchesBroadcast, beq_iff_eq] at hc
    exact absurd (hc ▸ getCodeId_eq_error lib hr) (by decide)
  · refine (attempt_caught_of_accepted lib self h ha).imp_right ?_
    rintro ⟨r, hr, hc⟩
    simp only [catchesBroadcastOrDecode, Bool.or_eq_true, beq_iff_eq] at hc
    exact hc.resolve_left fun hb => absurd (hb ▸ getContractAddress_eq_error lib hr) (by decide)
  · refine (attempt_caught_of_accepted lib self h ha).resolve_right ?_
    rintro ⟨r, hr, -⟩
    cases hr

/-- Against a node that accepts every transaction and never confirms one, the attempt of each
workflow is caught, and the first poll's exception is the confirmation timeout. -/
theorem accepted_attempt_retried_only_on_timeout_accepting :
    ∃ tx w₁ e w', Accepted sampleLib timeoutLedger
        (getPackedStoreMsg sampleLib "fetch1" "contract.wasm") sampleCrypto defaultGasLimit
        acceptingWorld tx w₁ 0 ⟨⟨"h", 0, ""⟩⟩ ∧
      attempt catchesBroadcast (timeoutLedger.submitTx sampleLib
          (getPackedStoreMsg sampleLib "fetch1" "contract.wasm") sampleCrypto defaultGasLimit)
        (getCodeId sampleLib) acceptingWorld = .ok (.caught e none) w' ∧
      attempt catchesBroadcastOrDecode (timeoutLedger.submitTx sampleLib
          (getPackedStoreMsg sampleLib "fetch1" "contract.wasm") sampleCrypto defaultGasLimit)
        (getContractAddress sampleLib) acceptingWorld = .ok (.caught e none) w' ∧
      attempt catchesBroadcast (timeoutLedger.submitTx sampleLib
          (getPackedStoreMsg sampleLib "fetch1" "contract.wasm") sampleCrypto defaultGasLimit)
        pure acceptingWorld = .ok (.caught e none) w' ∧
      timeoutLedger.ConfirmationTimedOut ⟨⟨"h", 0, ""⟩⟩
        (timeoutLedger.afterBroadcast sampleLib tx 0 w₁) e := by
  refine ⟨_, _, _, _, ⟨rfl, by decide, fun _ h => absurd h (Nat.not_lt_zero _), rfl, rfl⟩, rfl, rfl,
    rfl, ?_⟩
  exact (accepted_attempt_retried_only_on_timeout sampleLib timeoutLedger
    (getPackedStoreMsg sampleLib "fetch1" "contract.wasm") sampleCrypto defaultGasLimit
    acceptingWorld _ _ 0 _ _ none _).1
      ⟨rfl, by decide, fun _ h => absurd h (Nat.not_lt_zero _), rfl, rfl⟩ rfl

end CosmosLedger

/-- The code of the response to a `BroadcastTx` call, for an event that is one answered by a
response. -/
def Event.broadcastCode? : Event → Option Nat
  | .call (.broadcastTx _) (.value resp) => some (resp : BroadcastTxResponse).txResponse.code
  | _ => none

/-- With a budget of two attempts, `deploy_contract` against a node that accepts every
transaction but never confirms one broadcasts twice: both `BroadcastTx` calls are answered with
code `0`. -/
theorem deployContract_resubmits_after_timeout :
    ∃ e w', timeoutLedger.deployContract sampleLib sampleCrypto "contract.wasm" defaultGasLimit
        acceptingWorld = .error e w' ∧
      w'.trace.filterMap Event.broadcastCode? = [0, 0] :=
  ⟨_, _, rfl, rfl⟩

end Cosmpy
