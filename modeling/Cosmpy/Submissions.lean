import Cosmpy.Footprint

/-!
# How many broadcasts one call can have answered

A contract workflow builds and broadcasts a new transaction on every attempt, and an attempt can
fail after the node has accepted its transaction (the confirmation poll runs out, or the log does
not parse), so one call may get several transactions onto the chain.  This file bounds how many
of its broadcasts the node answers at all, accepted or rejected: within an attempt
`broadcast_tx`'s `Retrier` stops at the node's first answer, so an attempt has at most one
broadcast answered, and a call at most one per attempt of its budget.

* For every `p` that rejects all events but broadcasts (`Event.isBroadcast`), the functions that
  make no broadcast add none of them (`AddsAtMost p 0`): the queries, `generate_tx`, `sign_tx`,
  `get_tx`, the faucet and `check_availability`.
* `AnswersAtMost` counts the broadcasts the node answered (`Event.isBroadcastAnswer`), and a retry
  loop around any call adds at most one of them, since it stops at the first
  (`retryLoop_call_answersAtMost_one`).
* `workflows_answersAtMost`: `deploy_contract` and `instantiate_contract` have at most
  `n_total_msg_retries` broadcasts answered, `execute_contract` at most its `n_retries`,
  `send_funds` at most one, and `ensure_funds` at most one per address.
* `runSession_answersAtMost`: a session of calls gets at most the sum of the calls' budgets
  (`Op.answerBudget`) answered.
-/

set_option autoImplicit false

namespace Cosmpy

open Ledger

/-- The call is a `BroadcastTx`. -/
def Call.isBroadcast : Call → Bool
  | .broadcastTx _ => true
  | _ => false

/-- The event is a call to `BroadcastTx`, whatever the node answered. -/
def Event.isBroadcast : Event → Bool
  | .call c _ => c.isBroadcast
  | .sleep _ => false

/-- The event is a broadcast that the node answered with a response. -/
def Event.isBroadcastAnswer : Event → Bool
  | .call (.broadcastTx _) (.value _) => true
  | _ => false

theorem Event.isBroadcastAnswer_raise (c : Call) (e : Exc) :
    (Event.call c (.raise e)).isBroadcastAnswer = false := by
  cases c <;> rfl

theorem Event.isBroadcastAnswer_none (c : Call) : (Event.call c .none).isBroadcastAnswer = false := by
  cases c <;> rfl

/-- Only a broadcast is an answered broadcast. -/
theorem Event.isBroadcastAnswer_eq_false :
    ∀ e : Event, e.isBroadcast = false → e.isBroadcastAnswer = false
  | .call (.broadcastTx _) _, h => nomatch h
  | .call (.account _) _, _ | .call (.balance _) _, _ | .call (.allBalances _) _, _
  | .call (.smartContractState _) _, _ | .call (.getTx _) _, _ | .call .getNodeInfo _, _
  | .call (.restGet _) _, _ | .call (.faucetPost _ _) _, _ | .call (.readFile _) _, _
  | .sleep _, _ => rfl

/-- Every run of `x` adds at most `n` broadcasts that the node answered. -/
abbrev AnswersAtMost {α : Type} (n : Nat) (x : Ledger α) : Prop :=
  AddsAtMost Event.isBroadcastAnswer n x

/-- **A retry loop gets at most one answer.**  It stops at the first call answered with a value,
and a call answered with `None` or an exception is no answered broadcast. -/
theorem retryLoop_call_answersAtMost_one (s : Seconds) (c : Call) :
    ∀ k le, AnswersAtMost 1 (retryLoop s (call c) k le none)
  | 0, _ => (addsAtMost_pure _).mono (Nat.zero_le _)
  | k + 1, le => fun w => by
    -- an attempt with no answer leaves its events and the rest of the loop
    have hrest (hv : (w.replies 0 c).isValue = false)
        (h0 : (attemptEvents c s (w.replies 0 c)).countP Event.isBroadcastAnswer = 0) :
        ∃ evs, (endWorld (retryLoop s (call c) (k + 1) le none w)).trace = w.trace ++ evs ∧
          evs.countP Event.isBroadcastAnswer ≤ 1 := by
      rw [retryLoop_succ_of_isValue_false s c hv]
      obtain ⟨evs, ht, hn⟩ := retryLoop_call_answersAtMost_one s c k _ (w.afterAttempt c s)
      exact ⟨_ ++ evs, by rw [ht]; exact List.append_assoc .., by
        rw [List.countP_append, h0, Nat.zero_add]; exact hn⟩
    cases h : w.replies 0 c with
    | value v =>
      rw [retryLoop_succ_of_value s c h]
      exact ⟨attemptEvents c s (w.replies 0 c), rfl, by rw [h]; exact List.countP_le_length _⟩
    | none => exact hrest (by rw [h]; rfl) (by simp [h, attemptEvents, Event.isBroadcastAnswer_none])
    | raise e =>
      exact hrest (by rw [h]; rfl)
        (by simp [h, attemptEvents, Event.isBroadcastAnswer_raise, Event.isBroadcastAnswer])

/-! ## The functions that make no broadcast -/

/-- A broadcast that the node answered is a broadcast. -/
theorem Event.isBroadcast_of_isBroadcastAnswer (e : Event) (h : e.isBroadcastAnswer = true) :
    e.isBroadcast = true := by
  cases hb : e.isBroadcast
  · rw [Event.isBroadcastAnswer_eq_false e hb] at h
    cases h
  · rfl

/-- Only a call to `BroadcastTx` is a broadcast. -/
theorem Event.outside_of_isBroadcast {ks : List CallKind} (h : CallKind.broadcastTx ∉ ks) :
    ∀ e : Event, e.isBroadcast = true → e.outside ks = true
  | .call (.broadcastTx _) _, _ => by simpa [Event.outside, Call.kind] using h
  | .call (.account _) _, h' | .call (.balance _) _, h' | .call (.allBalances _) _, h'
  | .call (.smartContractState _) _, h' | .call (.getTx _) _, h' | .call .getNodeInfo _, h'
  | .call (.restGet _) _, h' | .call (.faucetPost _ _) _, h' | .call (.readFile _) _, h'
  | .sleep _, h' => nomatch h'

/-- A run that never calls `BroadcastTx` gets no broadcast answered. -/
theorem Emits.answersAtMost_zero {α : Type} {ks : List CallKind} {x : Ledger α} (hx : Emits ks x)
    (h : CallKind.broadcastTx ∉ ks) : AnswersAtMost 0 x :=
  hx.addsAtMost fun e he => Event.outside_of_isBroadcast h e (e.isBroadcast_of_isBroadcastAnswer he)

namespace CosmosLedger

variable (lib : Lib) (self : CosmosLedger)

/-! ## The functions that broadcast -/

/-- `broadcast_tx`: one answer at most, since the poll that follows makes no broadcast. -/
theorem broadcastTx_answersAtMost (tx : Tx) (retries : Option Int) :
    AnswersAtMost 1 (self.broadcastTx lib tx retries) :=
  addsAtMost_bind_zero (callWithRetry_addsAtMost _ (retryLoop_call_answersAtMost_one _ _ _ _))
    fun _ => addsAtMost_ite
      (addsAtMost_zero_bind (addsAtMost_throw _) fun _ =>
        (self.getTx_emits _).answersAtMost_zero (by decide))
      (addsAtMost_zero_bind (addsAtMost_pure _) fun _ =>
        (self.getTx_emits _).answersAtMost_zero (by decide))

variable (crypto : CosmosCrypto) (gas : Nat)

theorem submitTx_answersAtMost {msg : Ledger ProtoAny} (hm : AnswersAtMost 0 msg) :
    AnswersAtMost 1 (self.submitTx lib msg crypto gas) :=
  addsAtMost_zero_bind (self.prepareTx_addsAtMost lib hm (fun e he =>
      Event.outside_of_isBroadcast (by decide) e (e.isBroadcast_of_isBroadcastAnswer he)) crypto gas)
    fun _ => self.broadcastTx_answersAtMost lib _ _

theorem deployContract_answersAtMost (contractFilename : String) :
    AnswersAtMost self.nTotalMsgRetries.toNat (self.deployContract lib crypto contractFilename gas) :=
  addsAtMost_bind_zero ((sendLoop_addsAtMost _ _ rfl (self.submitTx_answersAtMost lib crypto gas
      ((getPackedStoreMsg_emits lib _ _).answersAtMost_zero (by decide))) _ _).mono
      (Nat.mul_one _).le) fun st => by
    split <;> first | exact addsAtMost_pure _ | exact addsAtMost_throw _

theorem instantiateContract_answersAtMost (codeId : Int) (initMsg : Json) (label : String) :
    AnswersAtMost self.nTotalMsgRetries.toNat
      (self.instantiateContract lib crypto codeId initMsg label gas) := by
  rw [instantiateContract, instantiateLoop_eq_sendLoop]
  exact addsAtMost_bind_zero ((sendLoop_addsAtMost _ _ rfl
      (self.submitTx_answersAtMost lib crypto gas (addsAtMost_pure _)) _ _).mono
      (Nat.mul_one _).le) fun st => by
    split <;> first | exact addsAtMost_pure _ | exact addsAtMost_throw _

theorem executeLoop_answersAtMost {n : Nat} {submit : Ledger GetTxResponse}
    (hs : AnswersAtMost n submit) :
    ∀ k res lastException, AnswersAtMost (k * n) (self.executeLoop submit k res lastException)
  | 0, _, _ => (addsAtMost_pure _).mono (by rw [Nat.zero_mul])
  | k + 1, _, _ => by
    rw [Nat.succ_mul, Nat.add_comm]
    exact addsAtMost_bind (addsAtMost_observe hs) fun
      | .ok _ => (addsAtMost_pure _).mono (Nat.zero_le _)
      | .error _ => by
        dsimp only
        exact addsAtMost_ite (addsAtMost_zero_bind (addsAtMost_sleep rfl) fun _ =>
          executeLoop_answersAtMost hs k _ _) ((addsAtMost_throw _).mono (Nat.zero_le _))

theorem executeContract_answersAtMost (contractAddress : String) (executeMsg : Json)
    (amount : Option (List Coin)) (nRetries : Option Int) :
    AnswersAtMost (nRetries.getD self.nSendingRetries).toNat
      (self.executeContract lib crypto contractAddress executeMsg gas amount nRetries) :=
  addsAtMost_bind_zero ((self.executeLoop_answersAtMost
      (self.submitTx_answersAtMost lib crypto gas (addsAtMost_pure _)) _ _ _).mono
      (Nat.mul_one _).le) fun
    | (some _, _) => addsAtMost_pure _
    | (none, _) => addsAtMost_throw _

theorem sendFunds_answersAtMost (toAddress : String) (amountCoins : List Coin) :
    AnswersAtMost 1 (self.sendFunds lib crypto toAddress amountCoins) :=
  self.submitTx_answersAtMost lib crypto _ (addsAtMost_pure _)

/-- `ensure_funds`: nothing from the faucet, and one `send_funds` per address from the
validator. -/
theorem ensureFunds_answersAtMost (addresses : List String) (amountCoins : Option (List Coin)) :
    AnswersAtMost addresses.length (self.ensureFunds lib addresses amountCoins) := by
  unfold ensureFunds
  split
  · exact ((self.refillWealthFromFaucet_emits lib _ _).answersAtMost_zero (by decide)).mono
      (Nat.zero_le _)
  · split
    · exact (addsAtMost_throw _).mono (Nat.zero_le _)
    · exact (addsAtMost_forM _ (fun _ => addsAtMost_bind_zero
        (self.sendFunds_answersAtMost lib _ _ _) fun _ => addsAtMost_pure _) addresses).mono
        (by simp)
  · exact (addsAtMost_throw _).mono (Nat.zero_le _)

/-- **One answered broadcast per attempt.**  For every world and every run, whether it returns or
raises: `deploy_contract` and `instantiate_contract` have at most `max(n_total_msg_retries, 0)`
of their broadcasts answered by the node, `execute_contract` at most `max(n_retries, 0)` (by
default `n_sending_retries`), `send_funds` at most one, and `ensure_funds` at most one per
address.  So a call gets at most that many transactions accepted, whatever the node does. -/
theorem workflows_answersAtMost (crypto : CosmosCrypto) (gas : Nat) :
    (∀ contractFilename, AnswersAtMost self.nTotalMsgRetries.toNat
      (self.deployContract lib crypto contractFilename gas)) ∧
    (∀ codeId initMsg label, AnswersAtMost self.nTotalMsgRetries.toNat
      (self.instantiateContract lib crypto codeId initMsg label gas)) ∧
    (∀ contractAddress executeMsg amount nRetries,
      AnswersAtMost (nRetries.getD self.nSendingRetries).toNat
        (self.executeContract lib crypto contractAddress executeMsg gas amount nRetries)) ∧
    (∀ toAddress amountCoins, AnswersAtMost 1 (self.sendFunds lib crypto toAddress amountCoins)) ∧
    (∀ addresses amountCoins,
      AnswersAtMost addresses.length (self.ensureFunds lib addresses amountCoins)) :=
  ⟨self.deployContract_answersAtMost lib crypto gas,
    self.instantiateContract_answersAtMost lib crypto gas,
    self.executeContract_answersAtMost lib crypto gas, self.sendFunds_answersAtMost lib crypto,
    self.ensureFunds_answersAtMost lib⟩

end CosmosLedger

/-! ## Sessions -/

/-- The most broadcasts one call of the method can get answered: the budget of a workflow's
attempts, one for `send_funds` and `broadcast_tx`, none for the others. -/
def Op.answerBudget (self : CosmosLedger) : Op → Nat
  | .deployContract .. | .instantiateContract .. => self.nTotalMsgRetries.toNat
  | .executeContract _ _ _ _ nRetries => (nRetries.getD self.nSendingRetries).toNat
  | .sendFunds .. | .broadcastTx .. => 1
  | _ => 0

section Sessions

open Event

variable (lib : Lib) (self : CosmosLedger) (crypto : CosmosCrypto)

theorem Op.run_answersAtMost : ∀ op : Op, AnswersAtMost (op.answerBudget self) (op.run lib self crypto)
  | .deployContract .. => addsAtMost_bind_zero (self.deployContract_answersAtMost lib crypto _ _)
    fun _ => addsAtMost_pure _
  | .instantiateContract .. =>
    addsAtMost_bind_zero (self.instantiateContract_answersAtMost lib crypto _ _ _ _) fun _ =>
      addsAtMost_pure _
  | .executeContract .. =>
    addsAtMost_bind_zero (self.executeContract_answersAtMost lib crypto _ _ _ _ _) fun _ =>
      addsAtMost_pure _
  | .sendFunds .. => addsAtMost_bind_zero (self.sendFunds_answersAtMost lib crypto _ _) fun _ =>
    addsAtMost_pure _
  | .broadcastTx .. => addsAtMost_bind_zero (self.broadcastTx_answersAtMost lib _ _) fun _ =>
    addsAtMost_pure _
  | .queryContractState .. | .getBalance .. | .getBalances _ | .refillWealthFromFaucet ..
  | .generateTx .. | .signTx _ | .getTx _ | .queryAccountData _ | .checkAvailability =>
    (Op.run_emits lib self crypto _).answersAtMost_zero (by simp [Op.footprint])

/-- **The broadcasts of a session.**  For every list of calls to the client and every world, a
session gets at most the sum of the calls' budgets of broadcasts answered by the node: the attempt
budget of each contract workflow, one for each `send_funds` and `broadcast_tx`, and none for the
queries, `generate_tx`, `sign_tx`, `get_tx`, the faucet and `check_availability`, whatever each of
them raises. -/
theorem runSession_answersAtMost (ops : List Op) :
    AnswersAtMost (ops.map (Op.answerBudget self)).sum (runSession lib self crypto ops) :=
  addsAtMost_forM _ (fun op => addsAtMost_bind_zero
    (addsAtMost_observe (op.run_answersAtMost lib self crypto)) fun _ => addsAtMost_pure _) ops

end Sessions

end Cosmpy
