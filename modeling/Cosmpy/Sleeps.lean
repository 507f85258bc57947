import Cosmpy.Requests
import Cosmpy.Refill

/-!
# How long one call can sleep

The client never waits for the node other than by sleeping between tries: every `Retrier` and
every hand-written loop sleeps a fixed interval after a failed try, and nothing else sleeps.  With
the calls bounded (`Cosmpy.Requests`), the sleeps are what is left of how long a method can take
beyond the node's own answers, and this file bounds them for every reply of the node.

* `SleepsAtMost t x`: every run of `x`, returning or raising, sleeps at most `t` seconds in all
  (`Event.waited` summed over what it appends).  A run with no sleep sleeps `0`, `sleep s` sleeps
  `s`, and bounds add up under `bind`.
* A retry loop of `k` tries at interval `s` sleeps at most `k * s`, and a workflow loop of `k`
  attempts at most `k` times what an attempt sleeps plus `msg_failed_retry_interval`.
* `Op.sleepBudget` is the bound of each public method; `runSession_sleepsAtMost` bounds a session
  by the sum of its calls' budgets.
-/

set_option autoImplicit false

namespace Cosmpy

open Ledger

/-- The seconds the event spent sleeping. -/
def Event.waited : Event → Seconds
  | .sleep s => s
  | .call .. => 0

/-- Events with no sleep among them spend no time sleeping. -/
theorem sum_waited_eq_zero {evs : List Event} (h : evs.countP Event.isSleep = 0) :
    (evs.map Event.waited).sum = 0 :=
  List.sum_eq_zero fun t ht => by
    obtain ⟨e, he, rfl⟩ := List.mem_map.1 ht
    cases e with
    | sleep s => exact absurd rfl (List.countP_eq_zero.1 h _ he)
    | call => rfl

/-- Every run of `x`, whether it returns or raises, sleeps at most `t` seconds in all. -/
def SleepsAtMost {α : Type} (t : Seconds) (x : Ledger α) : Prop :=
  Appends (fun evs => (evs.map Event.waited).sum ≤ t) x

/-! ## The primitives, and `bind` -/

section Closure

variable {α β : Type} {t t' : Seconds} {x : Ledger α} {f : α → Ledger β}

theorem SleepsAtMost.mono (h : SleepsAtMost t x) (ht : t ≤ t') : SleepsAtMost t' x :=
  Appends.mono h fun _ hs => hs.trans ht

/-- A run that makes no sleep sleeps no time. -/
theorem sleepsAtMost_of_addsAtMost (hx : AddsAtMost Event.isSleep 0 x) : SleepsAtMost 0 x :=
  Appends.mono hx fun _ h => (sum_waited_eq_zero (Nat.le_zero.1 h)).le

theorem sleepsAtMost_pure (b : α) : SleepsAtMost 0 (pure b : Ledger α) :=
  sleepsAtMost_of_addsAtMost (addsAtMost_pure b)

theorem sleepsAtMost_throw (e : Exc) : SleepsAtMost 0 (throw e : Ledger α) :=
  sleepsAtMost_of_addsAtMost (addsAtMost_throw e)

theorem sleepsAtMost_call (c : Call) : SleepsAtMost 0 (call c) :=
  sleepsAtMost_of_addsAtMost (addsAtMost_call fun _ => rfl)

theorem sleepsAtMost_sleep (s : Seconds) : SleepsAtMost s (sleep s) :=
  appends_sleep (by simp [Event.waited])

theorem sleepsAtMost_bind (hx : SleepsAtMost t x) (hf : ∀ b, SleepsAtMost t' (f b)) :
    SleepsAtMost (t + t') (x >>= f) :=
  appends_bind hx hf (fun _ _ h₁ h₂ => by rw [List.map_append, List.sum_append]; exact add_le_add h₁ h₂)
    fun _ h => h.trans le_self_add

/-- A step that sleeps no time leaves the bound of what follows it. -/
theorem sleepsAtMost_zero_bind (hx : SleepsAtMost 0 x) (hf : ∀ b, SleepsAtMost t (f b)) :
    SleepsAtMost t (x >>= f) :=
  (sleepsAtMost_bind hx hf).mono (zero_add t).le

/-- What follows a step and sleeps no time leaves the bound of the step. -/
theorem sleepsAtMost_bind_zero (hx : SleepsAtMost t x) (hf : ∀ b, SleepsAtMost 0 (f b)) :
    SleepsAtMost t (x >>= f) :=
  (sleepsAtMost_bind hx hf).mono (add_zero t).le

theorem sleepsAtMost_observe (hx : SleepsAtMost t x) : SleepsAtMost t (observe x) :=
  appends_observe hx

theorem sleepsAtMost_ite {c : Prop} [Decidable c] {y : Ledger α} (hx : SleepsAtMost t x)
    (hy : SleepsAtMost t y) : SleepsAtMost t (if c then x else y) :=
  appends_ite hx hy

/-- A loop adds up the bounds of its rounds. -/
theorem sleepsAtMost_forM {γ : Type} {g : γ → Ledger Unit} (b : γ → Seconds)
    (hg : ∀ c, SleepsAtMost (b c) (g c)) :
    ∀ cs : List γ, SleepsAtMost (cs.map b).sum (cs.forM g)
  | [] => sleepsAtMost_pure _
  | c :: cs => by
    rw [List.forM_cons', List.map_cons, List.sum_cons]
    exact sleepsAtMost_bind (hg c) fun _ => sleepsAtMost_forM b hg cs

end Closure

/-! ## The loops -/

section Loops

/-- A retry loop of `k` tries around a call that does not sleep sleeps at most `k` times its
interval: once after each try that raised. -/
theorem retryLoop_sleepsAtMost {α : Type} (s : Seconds) {call : Ledger (Option α)}
    (hc : SleepsAtMost 0 call) :
    ∀ (k : Nat) le response, SleepsAtMost (k * s) (retryLoop s call k le response)
  | 0, _, _ => (sleepsAtMost_pure _).mono (by rw [Nat.cast_zero, zero_mul])
  | k + 1, _, _ => by
    rw [Nat.cast_succ, add_one_mul, add_comm (k * s : Seconds)]
    exact sleepsAtMost_zero_bind (sleepsAtMost_observe hc) fun
      | .ok (some _) => (sleepsAtMost_pure _).mono (zero_le _)
      | .ok none => (retryLoop_sleepsAtMost s hc k _ _).mono le_add_self
      | .error _ => sleepsAtMost_bind (sleepsAtMost_sleep s) fun _ =>
        retryLoop_sleepsAtMost s hc k _ _

theorem callWithRetry_sleepsAtMost {α : Type} {t : Seconds} (r : Retrier)
    {call : Ledger (Option α)}
    (hc : SleepsAtMost t (retryLoop r.retryInterval call r.nRetries.toNat none none)) :
    SleepsAtMost t (r.callWithRetry call) :=
  sleepsAtMost_bind_zero hc fun
    | (_, some _) => sleepsAtMost_pure _
    | (_, none) => sleepsAtMost_throw _

variable {β : Type} {t : Seconds} {interval : Seconds} (catches : ExcKind → Bool)
  {submit : Ledger GetTxResponse} (extract : GetTxResponse → Except Exc β)

theorem attempt_sleepsAtMost (hs : SleepsAtMost t submit) :
    SleepsAtMost t (attempt catches submit extract) :=
  sleepsAtMost_bind_zero (sleepsAtMost_observe hs) fun
    | .error _ => sleepsAtMost_pure _
    | .ok res => by
      dsimp only
      split <;> exact sleepsAtMost_pure _

/-- The workflow loop: at most what an attempt sleeps, and the interval after it, per attempt. -/
theorem sendLoop_sleepsAtMost (hs : SleepsAtMost t submit) :
    ∀ (k : Nat) st,
      SleepsAtMost (k * (t + interval)) (sendLoop interval catches submit extract k st)
  | 0, _ => (sleepsAtMost_pure _).mono (by rw [Nat.cast_zero, zero_mul])
  | k + 1, st => by
    rw [sendLoop, Nat.cast_succ, add_one_mul, add_comm _ (t + interval)]
    split
    · exact (sleepsAtMost_pure _).mono (zero_le _)
    · refine (sleepsAtMost_bind (attempt_sleepsAtMost catches extract hs) fun
        | .success _ _ => (sendLoop_sleepsAtMost hs k _).mono le_add_self
        | .caught _ _ => sleepsAtMost_bind (sleepsAtMost_sleep interval) fun _ =>
            sendLoop_sleepsAtMost hs k _
        | .uncaught _ => (sleepsAtMost_throw _).mono (zero_le _)).mono ?_
      rw [add_assoc]

end Loops

/-! ## Queries -/

namespace CosmosLedger

variable (lib : Lib) (self : CosmosLedger)

theorem queryAccountDataLoop_sleepsAtMost (address : String) :
    ∀ (k : Nat) le accountResponse,
      SleepsAtMost (k * self.msgRetryInterval)
        (self.queryAccountDataLoop address k le accountResponse)
  | 0, _, _ => (sleepsAtMost_pure _).mono (by rw [Nat.cast_zero, zero_mul])
  | k + 1, _, _ => by
    rw [Nat.cast_succ, add_one_mul, add_comm (k * _ : Seconds)]
    exact sleepsAtMost_zero_bind (sleepsAtMost_observe (sleepsAtMost_call _)) fun
      | .ok _ => (sleepsAtMost_pure _).mono (zero_le _)
      | .error _ => sleepsAtMost_bind (sleepsAtMost_sleep _) fun _ =>
        queryAccountDataLoop_sleepsAtMost address k _ _

theorem queryAccountData_sleepsAtMost (address : String) :
    SleepsAtMost (self.nTotalMsgRetries.toNat * self.msgRetryInterval)
      (self.queryAccountData address) :=
  sleepsAtMost_bind_zero (self.queryAccountDataLoop_sleepsAtMost address _ _ _) fun
    | (_, none) => sleepsAtMost_throw _
    | (_, some ⟨.baseAccount _⟩) => sleepsAtMost_pure _
    | (_, some ⟨.other _⟩) => sleepsAtMost_throw _

theorem queryContractState_sleepsAtMost (contractAddress : String) (msg : Json)
    (nRetries : Option Int) :
    SleepsAtMost ((nRetries.getD self.nTotalMsgRetries).toNat * self.msgFailedRetryInterval)
      (self.queryContractState lib contractAddress msg nRetries) :=
  sleepsAtMost_bind_zero (retryLoop_sleepsAtMost _ (sleepsAtMost_call _) _ _ _) fun
    | (_, none) => sleepsAtMost_throw _
    | (_, some _) => sleepsAtMost_of_addsAtMost (addsAtMost_ofExcept _)

theorem getBalance_sleepsAtMost (address denom : String) :
    SleepsAtMost (self.nTotalMsgRetries.toNat * self.msgRetryInterval)
      (self.getBalance lib address denom) :=
  sleepsAtMost_bind_zero (retryLoop_sleepsAtMost _ (sleepsAtMost_call _) _ _ _) fun
    | (_, none) => sleepsAtMost_throw _
    | (_, some _) => sleepsAtMost_of_addsAtMost (addsAtMost_ofExcept _)

theorem getBalances_sleepsAtMost (address : String) :
    SleepsAtMost (self.nTotalMsgRetries.toNat * self.msgRetryInterval)
      (self.getBalances address) :=
  sleepsAtMost_bind_zero (retryLoop_sleepsAtMost _ (sleepsAtMost_call _) _ _ _) fun
    | (_, none) => sleepsAtMost_throw _
    | (_, some _) => sleepsAtMost_pure _

theorem checkAvailability_sleepsAtMost : SleepsAtMost 0 (checkAvailability lib self) :=
  checkAvailability_appends lib self fun _ => le_of_eq (List.sum_singleton)

/-! ## Building, signing and broadcasting a transaction -/

theorem querySignerInfos_sleepsAtMost :
    ∀ signers, SleepsAtMost (signers.length * (self.nTotalMsgRetries.toNat * self.msgRetryInterval))
      (self.querySignerInfos signers)
  | [] => (sleepsAtMost_pure _).mono (by rw [List.length_nil, Nat.cast_zero, zero_mul])
  | (_, _) :: rest => by
    rw [List.length_cons, Nat.cast_succ, add_one_mul, add_comm (rest.length * _ : Seconds)]
    exact sleepsAtMost_bind (self.queryAccountData_sleepsAtMost _) fun _ =>
      sleepsAtMost_bind_zero (querySignerInfos_sleepsAtMost rest) fun _ => sleepsAtMost_pure _

theorem generateTx_sleepsAtMost (packedMsgs : List ProtoAny) (fromAddresses : List String)
    (pubKeys : List Bytes) (fee : Option (List Coin)) (memo : String) (gasLimit : Nat) :
    SleepsAtMost ((fromAddresses.zip pubKeys).length *
        (self.nTotalMsgRetries.toNat * self.msgRetryInterval))
      (self.generateTx packedMsgs fromAddresses pubKeys fee memo gasLimit) :=
  sleepsAtMost_bind_zero (self.querySignerInfos_sleepsAtMost _) fun _ => sleepsAtMost_pure _

/-- `sign_tx` queries the account only when no number is cached. -/
theorem signTx_sleepsAtMost (crypto : CosmosCrypto) (tx : Tx) :
    SleepsAtMost (self.nTotalMsgRetries.toNat * self.msgRetryInterval)
      (self.signTx lib crypto tx) := by
  refine sleepsAtMost_bind_zero ?_ fun _ => sleepsAtMost_zero_bind (sleepsAtMost_of_addsAtMost
    addsAtMost_get) fun w => ?_
  · refine sleepsAtMost_zero_bind (sleepsAtMost_of_addsAtMost addsAtMost_get) fun w =>
      sleepsAtMost_ite ?_ ((sleepsAtMost_pure _).mono (zero_le _))
    exact sleepsAtMost_bind_zero (self.queryAccountData_sleepsAtMost _) fun _ =>
      sleepsAtMost_of_addsAtMost (addsAtMost_modify fun _ => rfl)
  · cases w.accountNumber
    exacts [sleepsAtMost_throw _, sleepsAtMost_pure _]

theorem getTx_sleepsAtMost (txhash : String) :
    SleepsAtMost (self.nGetResponseRetries.toNat * self.getResponseRetryInterval)
      (self.getTx txhash) :=
  callWithRetry_sleepsAtMost _ (retryLoop_sleepsAtMost _ (sleepsAtMost_call _) _ _ _)

/-- `broadcast_tx`: its own tries at `msg_retry_interval`, then the poll's. -/
theorem broadcastTx_sleepsAtMost (tx : Tx) (retries : Option Int) :
    SleepsAtMost ((retries.getD self.nTotalMsgRetries).toNat * self.msgRetryInterval +
        self.nGetResponseRetries.toNat * self.getResponseRetryInterval)
      (self.broadcastTx lib tx retries) :=
  sleepsAtMost_bind (callWithRetry_sleepsAtMost _
      (retryLoop_sleepsAtMost _ (sleepsAtMost_call _) _ _ _))
    fun _ => sleepsAtMost_ite
      (sleepsAtMost_zero_bind (sleepsAtMost_throw _) fun _ => self.getTx_sleepsAtMost _)
      (sleepsAtMost_zero_bind (sleepsAtMost_pure _) fun _ => self.getTx_sleepsAtMost _)

theorem getPackedStoreMsg_sleepsAtMost (senderAddress contractFilename : String) :
    SleepsAtMost 0 (getPackedStoreMsg lib senderAddress contractFilename) :=
  sleepsAtMost_bind_zero (sleepsAtMost_call _) fun
    | some _ => sleepsAtMost_pure _
    | none => sleepsAtMost_throw _

variable (crypto : CosmosCrypto) (gas : Nat)

/-- An attempt: what the message sleeps, two account queries and a broadcast of
`n_total_msg_retries` tries at `msg_retry_interval`, and the poll. -/
theorem submitTx_sleepsAtMost {t : Seconds} {msg : Ledger ProtoAny} (hm : SleepsAtMost t msg) :
    SleepsAtMost (t + 3 * (self.nTotalMsgRetries.toNat * self.msgRetryInterval) +
        self.nGetResponseRetries.toNat * self.getResponseRetryInterval)
      (self.submitTx lib msg crypto gas) :=
  (sleepsAtMost_bind
    (sleepsAtMost_bind hm fun _ =>
      sleepsAtMost_bind (self.generateTx_sleepsAtMost _ _ _ _ _ _) fun _ =>
        self.signTx_sleepsAtMost lib crypto _)
    fun _ => self.broadcastTx_sleepsAtMost lib _ none).mono (le_of_eq (by simp; ring))

/-! ## The workflows -/

theorem deployContract_sleepsAtMost (contractFilename : String) :
    SleepsAtMost (self.nTotalMsgRetries.toNat *
        (3 * (self.nTotalMsgRetries.toNat * self.msgRetryInterval) +
          self.nGetResponseRetries.toNat * self.getResponseRetryInterval +
          self.msgFailedRetryInterval))
      (self.deployContract lib crypto contractFilename gas) :=
  sleepsAtMost_bind_zero ((sendLoop_sleepsAtMost _ _ (self.submitTx_sleepsAtMost lib crypto gas
      (getPackedStoreMsg_sleepsAtMost lib _ _)) _ _).mono (by rw [zero_add])) fun st => by
    split <;> first | exact sleepsAtMost_pure _ | exact sleepsAtMost_throw _

theorem instantiateContract_sleepsAtMost (codeId : Int) (initMsg : Json) (label : String) :
    SleepsAtMost (self.nTotalMsgRetries.toNat *
        (3 * (self.nTotalMsgRetries.toNat * self.msgRetryInterval) +
          self.nGetResponseRetries.toNat * self.getResponseRetryInterval +
          self.msgFailedRetryInterval))
      (self.instantiateContract lib crypto codeId initMsg label gas) := by
  rw [instantiateContract, instantiateLoop_eq_sendLoop]
  exact sleepsAtMost_bind_zero ((sendLoop_sleepsAtMost _ _
      (self.submitTx_sleepsAtMost lib crypto gas (sleepsAtMost_pure _)) _ _).mono
        (by rw [zero_add])) fun st => by
    split <;> first | exact sleepsAtMost_pure _ | exact sleepsAtMost_throw _

theorem executeLoop_sleepsAtMost {t : Seconds} {submit : Ledger GetTxResponse}
    (hs : SleepsAtMost t submit) :
    ∀ (k : Nat) res lastException, SleepsAtMost (k * (t + self.msgFailedRetryInterval))
      (self.executeLoop submit k res lastException)
  | 0, _, _ => (sleepsAtMost_pure _).mono (by rw [Nat.cast_zero, zero_mul])
  | k + 1, _, _ => by
    rw [Nat.cast_succ, add_one_mul, add_comm (k * _ : Seconds), add_assoc]
    exact sleepsAtMost_bind (sleepsAtMost_observe hs) fun
      | .ok _ => (sleepsAtMost_pure _).mono (zero_le _)
      | .error _ => by
        dsimp only
        exact sleepsAtMost_ite (sleepsAtMost_bind (sleepsAtMost_sleep _) fun _ =>
          executeLoop_sleepsAtMost hs k _ _) ((sleepsAtMost_throw _).mono (zero_le _))

theorem executeContract_sleepsAtMost (contractAddress : String) (executeMsg : Json)
    (amount : Option (List Coin)) (nRetries : Option Int) :
    SleepsAtMost ((nRetries.getD self.nSendingRetries).toNat *
        (3 * (self.nTotalMsgRetries.toNat * self.msgRetryInterval) +
          self.nGetResponseRetries.toNat * self.getResponseRetryInterval +
          self.msgFailedRetryInterval))
      (self.executeContract lib crypto contractAddress executeMsg gas amount nRetries) :=
  sleepsAtMost_bind_zero ((self.executeLoop_sleepsAtMost
      (self.submitTx_sleepsAtMost lib crypto gas (sleepsAtMost_pure _)) _ _ _).mono
        (by rw [zero_add])) fun
    | (some _, _) => sleepsAtMost_pure _
    | (none, _) => sleepsAtMost_throw _

theorem sendFunds_sleepsAtMost (toAddress : String) (amountCoins : List Coin) :
    SleepsAtMost (3 * (self.nTotalMsgRetries.toNat * self.msgRetryInterval) +
        self.nGetResponseRetries.toNat * self.getResponseRetryInterval)
      (self.sendFunds lib crypto toAddress amountCoins) :=
  (self.submitTx_sleepsAtMost lib crypto _ (sleepsAtMost_pure _)).mono (by rw [zero_add])

/-! ## The faucet -/

/-- An attempt of the faucet loop: the balance query, and the wait after a faucet request. -/
theorem faucetAttempt_sleepsAtMost (minAmount : Int) (address : String) :
    SleepsAtMost (self.nTotalMsgRetries.toNat * self.msgRetryInterval + self.faucetRetryInterval)
      (self.faucetAttempt lib minAmount address) := by
  refine sleepsAtMost_bind (self.getBalances_sleepsAtMost address) fun balances => ?_
  dsimp only
  split <;>
    exact sleepsAtMost_zero_bind
      (by first | exact sleepsAtMost_of_addsAtMost (addsAtMost_ofExcept _)
                | exact sleepsAtMost_pure _) fun _ =>
      sleepsAtMost_ite (sleepsAtMost_zero_bind (sleepsAtMost_call _) fun _ =>
          sleepsAtMost_zero_bind (sleepsAtMost_of_addsAtMost (addsAtMost_attr _ _)) fun _ =>
            sleepsAtMost_bind_zero (sleepsAtMost_sleep _) fun _ => sleepsAtMost_pure _)
        ((sleepsAtMost_pure _).mono (zero_le _))

/-- An attempt that raised did so before its wait, having slept at most what its balance query
did: it raised reading the balance, or right after its request to the faucet. -/
theorem faucetAttempt_sleepsAtMost_of_error (minAmount : Int) (address : String)
    {w w' : World} {e : Exc} (h : self.faucetAttempt lib minAmount address w = .error e w') :
    ∃ evs, w'.trace = w.trace ++ evs ∧
      (evs.map Event.waited).sum ≤ self.nTotalMsgRetries.toNat * self.msgRetryInterval := by
  rw [faucetAttempt_eq, bind_apply] at h
  cases hb : self.getBalances address w with
  | error e₁ w₁ =>
    rw [hb] at h
    cases h
    exact (self.getBalances_sleepsAtMost address).of_error hb
  | ok balances w₁ =>
    rw [hb] at h
    obtain ⟨evs₁, ht₁, hs₁⟩ := (self.getBalances_sleepsAtMost address).of_ok hb
    dsimp only at h
    rw [bind_apply] at h
    cases hr : readBalance lib balances w₁ with
    | error e₂ w₂ =>
      rw [hr] at h
      cases h
      cases readBalance_eq_error lib hr
      exact ⟨evs₁, ht₁, hs₁⟩
    | ok balance w₂ =>
      rw [hr] at h
      obtain ⟨rfl, -⟩ := readBalance_eq_ok lib minAmount hr
      dsimp only at h
      split at h
      · rcases self.askFaucet_spec address w₂ with ⟨e', he⟩ | he <;> rw [he] at h <;> cases h
        exact ⟨evs₁ ++ [.call _ (w₂.replies 0 (.faucetPost self.faucetClaimsUrl address))],
          by simp [World.afterCall, ht₁], by simpa [Event.waited] using hs₁⟩
      · cases h

/-- A round of the faucet loop sleeps at most what an attempt does: an attempt that raised has
not reached its own wait, and the loop's takes its place. -/
theorem faucetLoop_sleepsAtMost (minAmount : Int) (address : String) :
    ∀ k : Nat, SleepsAtMost
      (k * (self.nTotalMsgRetries.toNat * self.msgRetryInterval + self.faucetRetryInterval))
      (self.faucetLoop lib minAmount address k)
  | 0 => (sleepsAtMost_pure _).mono (by rw [Nat.cast_zero, zero_mul])
  | k + 1 => fun w => by
    rw [Nat.cast_succ, add_one_mul, add_comm (k * _ : Seconds)]
    cases ha : self.faucetAttempt lib minAmount address w with
    | ok enough w₁ =>
      obtain ⟨evs₁, ht₁, hs₁⟩ := (self.faucetAttempt_sleepsAtMost lib minAmount address).of_ok ha
      rw [faucetLoop, bind_of_ok (observe_of_ok ha)]
      cases enough with
      | true => exact ⟨evs₁, ht₁, hs₁.trans le_self_add⟩
      | false =>
        obtain ⟨evs₂, ht₂, hs₂⟩ := faucetLoop_sleepsAtMost minAmount address k w₁
        refine ⟨evs₁ ++ evs₂, by rw [ht₂, ht₁, List.append_assoc], ?_⟩
        simp only [List.map_append, List.sum_append]
        exact add_le_add hs₁ hs₂
    | error e w₁ =>
      obtain ⟨evs₁, ht₁, hs₁⟩ := self.faucetAttempt_sleepsAtMost_of_error lib minAmount address ha
      obtain ⟨evs₂, ht₂, hs₂⟩ := faucetLoop_sleepsAtMost minAmount address k
        { w₁ with trace := w₁.trace ++ [.sleep self.faucetRetryInterval] }
      rw [faucetLoop, bind_of_ok (observe_of_error ha)]
      refine ⟨evs₁ ++ .sleep self.faucetRetryInterval :: evs₂, ?_, ?_⟩
      · show (endWorld ((sleep _ >>= fun _ => self.faucetLoop lib minAmount address k) w₁)).trace = _
        rw [sleep_bind, ht₂]
        simp only [ht₁, List.append_assoc, List.singleton_append]
      · simp only [List.map_append, List.sum_append, List.map_cons, List.sum_cons, Event.waited,
          ← add_assoc]
        exact add_le_add (add_le_add hs₁ le_rfl) hs₂

theorem refillWealthFromFaucet_sleepsAtMost (addresses : List String) (amount : Option Int) :
    SleepsAtMost (addresses.length * (self.nTotalMsgRetries.toNat *
        (self.nTotalMsgRetries.toNat * self.msgRetryInterval + self.faucetRetryInterval)))
      (self.refillWealthFromFaucet lib addresses amount) :=
  (sleepsAtMost_forM _ (fun _ => self.faucetLoop_sleepsAtMost lib _ _ _) addresses).mono
    (by simp)

end CosmosLedger

/-! ## Sessions -/

/-- The longest one call of the method can sleep. -/
def Op.sleepBudget (self : CosmosLedger) : Op → Seconds
  | .deployContract .. | .instantiateContract .. =>
    self.nTotalMsgRetries.toNat *
      (3 * (self.nTotalMsgRetries.toNat * self.msgRetryInterval) +
        self.nGetResponseRetries.toNat * self.getResponseRetryInterval +
        self.msgFailedRetryInterval)
  | .executeContract _ _ _ _ nRetries =>
    (nRetries.getD self.nSendingRetries).toNat *
      (3 * (self.nTotalMsgRetries.toNat * self.msgRetryInterval) +
        self.nGetResponseRetries.toNat * self.getResponseRetryInterval +
        self.msgFailedRetryInterval)
  | .queryContractState _ _ nRetries =>
    (nRetries.getD self.nTotalMsgRetries).toNat * self.msgFailedRetryInterval
  | .getBalance .. | .getBalances _ | .signTx _ | .queryAccountData _ =>
    self.nTotalMsgRetries.toNat * self.msgRetryInterval
  | .sendFunds .. =>
    3 * (self.nTotalMsgRetries.toNat * self.msgRetryInterval) +
      self.nGetResponseRetries.toNat * self.getResponseRetryInterval
  | .refillWealthFromFaucet addresses _ =>
    addresses.length * (self.nTotalMsgRetries.toNat *
      (self.nTotalMsgRetries.toNat * self.msgRetryInterval + self.faucetRetryInterval))
  | .generateTx _ fromAddresses pubKeys .. =>
    (fromAddresses.zip pubKeys).length * (self.nTotalMsgRetries.toNat * self.msgRetryInterval)
  | .broadcastTx _ retries =>
    (retries.getD self.nTotalMsgRetries).toNat * self.msgRetryInterval +
      self.nGetResponseRetries.toNat * self.getResponseRetryInterval
  | .getTx _ => self.nGetResponseRetries.toNat * self.getResponseRetryInterval
  | .checkAvailability => 0

section Sessions

variable (lib : Lib) (self : CosmosLedger) (crypto : CosmosCrypto)

theorem Op.run_sleepsAtMost :
    ∀ op : Op, SleepsAtMost (op.sleepBudget self) (op.run lib self crypto)
  | .deployContract .. =>
    sleepsAtMost_bind_zero (self.deployContract_sleepsAtMost lib crypto _ _) fun _ =>
      sleepsAtMost_pure _
  | .instantiateContract .. =>
    sleepsAtMost_bind_zero (self.instantiateContract_sleepsAtMost lib crypto _ _ _ _) fun _ =>
      sleepsAtMost_pure _
  | .executeContract .. =>
    sleepsAtMost_bind_zero (self.executeContract_sleepsAtMost lib crypto _ _ _ _ _) fun _ =>
      sleepsAtMost_pure _
  | .queryContractState .. =>
    sleepsAtMost_bind_zero (self.queryContractState_sleepsAtMost lib _ _ _) fun _ =>
      sleepsAtMost_pure _
  | .getBalance .. =>
    sleepsAtMost_bind_zero (self.getBalance_sleepsAtMost lib _ _) fun _ => sleepsAtMost_pure _
  | .getBalances _ =>
    sleepsAtMost_bind_zero (self.getBalances_sleepsAtMost _) fun _ => sleepsAtMost_pure _
  | .sendFunds .. =>
    sleepsAtMost_bind_zero (self.sendFunds_sleepsAtMost lib crypto _ _) fun _ =>
      sleepsAtMost_pure _
  | .refillWealthFromFaucet .. => self.refillWealthFromFaucet_sleepsAtMost lib _ _
  | .generateTx .. =>
    sleepsAtMost_bind_zero (self.generateTx_sleepsAtMost _ _ _ _ _ _) fun _ => sleepsAtMost_pure _
  | .signTx _ =>
    sleepsAtMost_bind_zero (self.signTx_sleepsAtMost lib crypto _) fun _ => sleepsAtMost_pure _
  | .broadcastTx .. =>
    sleepsAtMost_bind_zero (self.broadcastTx_sleepsAtMost lib _ _) fun _ => sleepsAtMost_pure _
  | .getTx _ => sleepsAtMost_bind_zero (self.getTx_sleepsAtMost _) fun _ => sleepsAtMost_pure _
  | .queryAccountData _ =>
    sleepsAtMost_bind_zero (self.queryAccountData_sleepsAtMost _) fun _ => sleepsAtMost_pure _
  | .checkAvailability => CosmosLedger.checkAvailability_sleepsAtMost lib self

/-- **The sleeps of a session.**  For every list of calls to the client and every world, a session
sleeps at most the sum of the calls' budgets, whatever each call raises.  A contract workflow
sleeps, per attempt of its budget, at most two account queries' and a broadcast's worth of
`msg_retry_interval`s, the poll's `get_response_retry_interval`s and one
`msg_failed_retry_interval`; the faucet, per attempt, at most a balance query's worth and one
`faucet_retry_interval`. -/
theorem runSession_sleepsAtMost (ops : List Op) :
    SleepsAtMost (ops.map (Op.sleepBudget self)).sum (runSession lib self crypto ops) :=
  sleepsAtMost_forM _ (fun op => sleepsAtMost_bind_zero
    (sleepsAtMost_observe (op.run_sleepsAtMost lib self crypto)) fun _ => sleepsAtMost_pure _) ops

end Sessions

end Cosmpy
