import Cosmpy.Submissions

/-!
# A cooperative node: every workflow goes through at its first attempt

The other files bound what a run can do whatever the node answers.  This one says when a run
succeeds.  On a node that answers every call with a value, every account query with a
`BaseAccount`, every broadcast with code `CLIENT_CODE_MESSAGE_SUCCESSFUL` and every poll with a
response the workflow can read, each workflow returns after broadcasting exactly one
transaction, as long as its budgets allow one attempt: no call of the client raises on such a
node, and nothing is retried.

* `Answers confirms c v`: what a cooperative node answers to `c`.  `Cooperative confirms
  replies`: every pending reply of the node is such an answer; answering a call keeps a node
  cooperative (`Cooperative.shift`).
* `Progresses confirms n P x`: from every world whose node is cooperative, `x` returns a result
  satisfying `P`, appends events with `n` broadcasts and leaves the node cooperative.  It is kept
  by `bind` (`Progresses.bind`), and each function of the client has one lemma, assembled from
  its callees' lemmas.
* `workflows_progress`: `send_funds`, `broadcast_tx`, `execute_contract`, `deploy_contract` and
  `instantiate_contract` each return after one broadcast.
-/

set_option autoImplicit false

namespace Cosmpy

open Ledger

/-- What a cooperative node answers to `c`: an account of type `BaseAccount`, an accepted
broadcast, a poll response satisfying `confirms`, and anything to the other calls. -/
def Answers (confirms : GetTxResponse → Prop) : (c : Call) → c.Resp → Prop
  | .account _, r => ∃ account, (r : QueryAccountResponse).account = .baseAccount account
  | .broadcastTx _, resp =>
    (resp : BroadcastTxResponse).txResponse.code = clientCodeMessageSuccessful
  | .getTx _, res => confirms res
  | _, _ => True

/-- Every pending reply of the node is a value that a cooperative node answers. -/
def Cooperative (confirms : GetTxResponse → Prop) (replies : Nat → (c : Call) → Reply c.Resp) :
    Prop :=
  ∀ i c, ∃ v, replies i c = .value v ∧ Answers confirms c v

/-- From every world whose node is cooperative, `x` returns a result satisfying `P`, appends
events with `n` broadcasts, and leaves the node cooperative. -/
def Progresses {α : Type} (confirms : GetTxResponse → Prop) (n : Nat) (P : α → Prop)
    (x : Ledger α) : Prop :=
  ∀ w, Cooperative confirms w.replies → ∃ a w', x w = .ok a w' ∧ P a ∧
    Cooperative confirms w'.replies ∧ ∃ evs, w'.trace = w.trace ++ evs ∧
      evs.countP Event.isBroadcast = n

section Combinators

variable {α β : Type} {confirms : GetTxResponse → Prop} {n m : Nat} {P : α → Prop}
  {Q : β → Prop}

theorem Cooperative.shift {replies : Nat → (c : Call) → Reply c.Resp}
    (h : Cooperative confirms replies) : Cooperative confirms fun i => replies (i + 1) :=
  fun i => h (i + 1)

theorem Progresses.imp {x : Ledger α} {P' : α → Prop} (hx : Progresses confirms n P x)
    (h : ∀ a, P a → P' a) : Progresses confirms n P' x :=
  fun w hw => (hx w hw).imp fun a ⟨w', hr, hp, rest⟩ => ⟨w', hr, h a hp, rest⟩

theorem progresses_pure {a : α} (h : P a) : Progresses confirms 0 P (pure a) :=
  fun w hw => ⟨a, w, rfl, h, hw, [], (List.append_nil _).symm, rfl⟩

theorem Progresses.bind {x : Ledger α} {f : α → Ledger β} (hx : Progresses confirms n P x)
    (hf : ∀ a, P a → Progresses confirms m Q (f a)) : Progresses confirms (m + n) Q (x >>= f) :=
  fun w hw => by
    obtain ⟨a, w₁, hr, hp, hw₁, evs₁, ht₁, hn₁⟩ := hx w hw
    obtain ⟨b, w₂, hr₂, hq, hw₂, evs₂, ht₂, hn₂⟩ := hf a hp w₁ hw₁
    exact ⟨b, w₂, by rw [bind_of_ok hr, hr₂], hq, hw₂, evs₁ ++ evs₂,
      by rw [ht₂, ht₁, List.append_assoc], by rw [List.countP_append, hn₁, hn₂, Nat.add_comm]⟩

/-- `try: x` on a cooperative node: nothing is raised to catch. -/
theorem Progresses.observe {x : Ledger α} (hx : Progresses confirms n P x) :
    Progresses confirms n (fun r => ∃ a, r = .ok a ∧ P a) (observe x) :=
  fun w hw => by
    obtain ⟨a, w', hr, hp, rest⟩ := hx w hw
    exact ⟨.ok a, w', observe_of_ok hr, ⟨a, rfl, hp⟩, rest⟩

/-- One call to a cooperative node is answered with a value. -/
theorem progresses_call (c : Call) :
    Progresses confirms c.isBroadcast.toNat (fun o => ∃ v, o = some v ∧ Answers confirms c v)
      (call c) := fun w hw => by
  obtain ⟨v, hv, ha⟩ := hw 0 c
  refine ⟨some v, w.afterCall c, call_of_value hv, ⟨v, rfl, ha⟩, hw.shift,
    [.call c (.value v)], by rw [World.afterCall, hv], ?_⟩
  cases hc : c.isBroadcast <;> simp [Event.isBroadcast, hc]

/-- A `Retrier` with a budget of at least one attempt returns the first answer. -/
theorem callWithRetry_progresses (r : Retrier) (hr : 0 < r.nRetries) (c : Call) :
    Progresses confirms c.isBroadcast.toNat (Answers confirms c) (r.callWithRetry (call c)) :=
  fun w hw => by
  obtain ⟨v, hv, ha⟩ := hw 0 c
  refine ⟨v, _, Retrier.callWithRetry_of_firstValue r c
      (show 0 < r.nRetries.toNat by omega) (fun _ h => absurd h (Nat.not_lt_zero _)) hv, ha,
    hw.shift, [.call c (.value v)],
    by simp [World.afterAttempts, World.afterAttempt, attemptEvents, hv], ?_⟩
  cases hc : c.isBroadcast <;> simp [Event.isBroadcast, hc]

end Combinators

namespace CosmosLedger

variable (lib : Lib) (self : CosmosLedger) {confirms : GetTxResponse → Prop}

/-! ## Building and signing a transaction -/

section Build

variable (hm : 0 < self.nTotalMsgRetries)
include hm

/-- `query_account_data` on a cooperative node: its first query is answered with a
`BaseAccount`, which it returns. -/
theorem queryAccountData_progresses (address : String) :
    Progresses confirms 0 (fun _ => True) (self.queryAccountData address) := by
  obtain ⟨k, hk⟩ : ∃ k, self.nTotalMsgRetries.toNat = k + 1 :=
    ⟨_, (Nat.succ_pred_eq_of_pos (by omega)).symm⟩
  have hloop : Progresses confirms 0
      (fun p : Option Exc × Option QueryAccountResponse =>
        ∃ r, p.2 = some r ∧ ∃ account, r.account = .baseAccount account)
      (self.queryAccountDataLoop address (k + 1) none none) := by
    rw [queryAccountDataLoop]
    refine (progresses_call (.account ⟨address⟩)).observe.bind fun _ ⟨_, h, v, hv, ha⟩ => ?_
    subst h hv
    exact progresses_pure ⟨v, rfl, ha⟩
  rw [queryAccountData, hk]
  refine hloop.bind fun ⟨_, resp⟩ ⟨r, hr, account, ha⟩ => ?_
  cases hr
  dsimp only
  rw [ha]
  exact progresses_pure trivial

theorem querySignerInfos_progresses : ∀ signers : List (String × Bytes),
    Progresses confirms 0 (fun _ => True) (self.querySignerInfos signers)
  | [] => progresses_pure trivial
  | (fromAddress, _) :: rest =>
    (self.queryAccountData_progresses hm fromAddress).bind fun _ _ =>
      (querySignerInfos_progresses rest).bind fun _ _ => progresses_pure trivial

theorem generateTx_progresses (packedMsgs : List ProtoAny) (fromAddresses : List String)
    (pubKeys : List Bytes) (fee : Option (List Coin)) (memo : String) (gasLimit : Nat) :
    Progresses confirms 0 (fun _ => True)
      (self.generateTx packedMsgs fromAddresses pubKeys fee memo gasLimit) :=
  (self.querySignerInfos_progresses hm _).bind fun _ _ => progresses_pure trivial

/-- `sign_tx` signs at once with a cached account number, and otherwise after one answered
account query. -/
theorem signTx_progresses (crypto : CosmosCrypto) (tx : Tx) :
    Progresses confirms 0 (fun _ => True) (self.signTx lib crypto tx) := fun w hw => by
  rw [signTx_spec]
  cases w.accountNumber with
  | some _ => exact ⟨_, w, rfl, trivial, hw, [], (List.append_nil _).symm, rfl⟩
  | none =>
    obtain ⟨_, w₁, hq, -, hw₁, rest⟩ := self.queryAccountData_progresses hm crypto.address w hw
    rw [hq]
    exact ⟨_, _, rfl, trivial, hw₁, rest⟩

theorem prepareTx_progresses {msg : Ledger ProtoAny}
    (hmsg : Progresses confirms 0 (fun _ => True) msg) (crypto : CosmosCrypto) (gas : Nat) :
    Progresses confirms 0 (fun _ => True) (self.prepareTx lib msg crypto gas) :=
  hmsg.bind fun _ _ => (self.generateTx_progresses hm _ _ _ _ _ _).bind fun _ _ =>
    self.signTx_progresses lib hm _ _

end Build

/-- `get_packed_store_msg` on a node that hands over the file. -/
theorem getPackedStoreMsg_progresses (senderAddress contractFilename : String) :
    Progresses confirms 0 (fun _ => True) (getPackedStoreMsg lib senderAddress contractFilename) :=
  (progresses_call (.readFile contractFilename)).bind fun _ ⟨_, h, _⟩ => by
    subst h
    exact progresses_pure trivial

/-! ## Broadcasting it -/

/-- `broadcast_tx`: the broadcast is accepted at once, and the first poll confirms it. -/
theorem broadcastTx_progresses (hg : 0 < self.nGetResponseRetries) (tx : Tx)
    (retries : Option Int) (hr : 0 < retries.getD self.nTotalMsgRetries) :
    Progresses confirms 1 confirms (self.broadcastTx lib tx retries) := fun w hw => by
  obtain ⟨resp, w₁, hb, hcode, hw₁, evs₁, ht₁, hn₁⟩ :=
    callWithRetry_progresses (self.broadcastRetrier _) hr (.broadcastTx (broadcastRequest lib tx))
      w hw
  obtain ⟨res, w₂, hp, hc, hw₂, evs₂, ht₂, hn₂⟩ :=
    callWithRetry_progresses self.getTxRetrier hg (.getTx ⟨resp.txResponse.txhash⟩) w₁ hw₁
  rw [broadcastTx_of_response lib self hb, if_neg (not_not.2 (show _ = 0 from hcode))]
  exact ⟨res, w₂, hp, hc, hw₂, evs₁ ++ evs₂, by rw [ht₂, ht₁, List.append_assoc],
    by rw [List.countP_append, hn₁, hn₂]; rfl⟩

theorem submitTx_progresses (hm : 0 < self.nTotalMsgRetries) (hg : 0 < self.nGetResponseRetries)
    {msg : Ledger ProtoAny} (hmsg : Progresses confirms 0 (fun _ => True) msg)
    (crypto : CosmosCrypto) (gas : Nat) :
    Progresses confirms 1 confirms (self.submitTx lib msg crypto gas) :=
  (self.prepareTx_progresses lib hm hmsg crypto gas).bind fun tx _ =>
    self.broadcastTx_progresses lib hg tx none hm

end CosmosLedger

/-! ## The loops -/

section Loops

variable {β : Type} {confirms : GetTxResponse → Prop} (interval : Seconds)
  (catches : ExcKind → Bool) {submit : Ledger GetTxResponse}
  {extract : GetTxResponse → Except Exc β}

/-- An attempt whose transaction is confirmed with a response `extract` reads goes through. -/
theorem attempt_progresses (hs : Progresses confirms 1 confirms submit)
    (hx : ∀ res, confirms res → ∃ b, extract res = .ok b) :
    Progresses confirms 1 (fun o => ∃ res b, o = AttemptEnd.success res b)
      (attempt catches submit extract) := fun w hw => by
  obtain ⟨res, w', hsw, hc, rest⟩ := hs w hw
  obtain ⟨b, hb⟩ := hx res hc
  refine ⟨.success res b, w', ?_, ⟨res, b, rfl⟩, rest⟩
  rw [attempt_apply, hsw]
  simp only [hb]

/-- The workflow loop ends with its first attempt, with a result. -/
theorem sendLoop_progresses (hs : Progresses confirms 1 confirms submit)
    (hx : ∀ res, confirms res → ∃ b, extract res = .ok b) (k : Nat) {st : SendState β}
    (hst : st.result = none) :
    Progresses confirms 1 (fun st' : SendState β => ∃ res b, st'.res = some res ∧ st'.result = some b)
      (sendLoop interval catches submit extract (k + 1) st) := fun w hw => by
  obtain ⟨_, w', ho, ⟨res, b, rfl⟩, rest⟩ := attempt_progresses catches hs hx w hw
  rw [sendLoop_succ_of_success _ _ _ _ hst ho, sendLoop_of_isSome _ _ _ _
    (show ({ st with res := some res, result := some b } : SendState β).result.isSome from rfl)]
  exact ⟨_, w', rfl, ⟨res, b, rfl, rfl⟩, rest⟩

/-- The loop of `execute_contract` breaks after its first attempt. -/
theorem executeLoop_progresses (self : CosmosLedger) (hs : Progresses confirms 1 confirms submit)
    (k : Nat) (res : Option GetTxResponse) (lastException : Option Exc) :
    Progresses confirms 1 (fun p => p.1.isSome)
      (self.executeLoop submit (k + 1) res lastException) := by
  rw [CosmosLedger.executeLoop]
  refine hs.observe.bind fun _ ⟨_, h, _⟩ => ?_
  subst h
  exact progresses_pure rfl

end Loops

/-! ## The workflows -/

namespace CosmosLedger

variable (lib : Lib) (self : CosmosLedger)

/-- What a node that takes every transaction answers to each call. -/
def cooperativeAnswer : (c : Call) → c.Resp
  | .account _ => ⟨.baseAccount sampleAccount⟩
  | .balance _ => ⟨⟨"atestfet", "0"⟩⟩
  | .allBalances _ => ⟨[]⟩
  | .smartContractState _ => ⟨[]⟩
  | .broadcastTx _ => ⟨⟨"0A", 0, "[]"⟩⟩
  | .getTx _ => ⟨⟨"0A", 0, "[]"⟩⟩
  | .getNodeInfo => ⟨⟨"fetchchain"⟩⟩
  | .restGet _ => ""
  | .faucetPost _ _ => ⟨200⟩
  | .readFile _ => []

/-- A node that answers every call with `cooperativeAnswer`. -/
def cooperativeWorld : World := ⟨fun _ c => .value (cooperativeAnswer c), [], none⟩

/-- **Progress on a cooperative node.**  On a node that answers every call with a value, every
account query with a `BaseAccount`, every broadcast with code `0` and every poll with a
response satisfying `confirms`, and with budgets of at least one attempt: `send_funds` and
`broadcast_tx` return the confirmed response, and `execute_contract` returns, each after
broadcasting exactly one transaction; so do `deploy_contract` and `instantiate_contract` when
every such response carries a code id, or a contract address, that they can read.  None of
them raises, and none retries. -/
theorem workflows_progress (confirms : GetTxResponse → Prop) (crypto : CosmosCrypto) (gas : Nat)
    (hm : 0 < self.nTotalMsgRetries) (hg : 0 < self.nGetResponseRetries) :
    (∀ toAddress amountCoins,
      Progresses confirms 1 confirms (self.sendFunds lib crypto toAddress amountCoins)) ∧
    (∀ tx, Progresses confirms 1 confirms (self.broadcastTx lib tx none)) ∧
    (∀ contractAddress executeMsg amount nRetries, 0 < nRetries.getD self.nSendingRetries →
      Progresses confirms 1 (fun _ => True)
        (self.executeContract lib crypto contractAddress executeMsg gas amount nRetries)) ∧
    ((∀ res, confirms res → ∃ codeId, getCodeId lib res = .ok codeId) → ∀ contractFilename,
      Progresses confirms 1 (fun _ => True) (self.deployContract lib crypto contractFilename gas)) ∧
    ((∀ res, confirms res → ∃ contractAddress, getContractAddress lib res = .ok contractAddress) →
      ∀ codeId initMsg label, Progresses confirms 1 (fun _ => True)
        (self.instantiateContract lib crypto codeId initMsg label gas)) := by
  obtain ⟨k, hk⟩ : ∃ k, self.nTotalMsgRetries.toNat = k + 1 :=
    ⟨_, (Nat.succ_pred_eq_of_pos (by omega)).symm⟩
  have hsubmit := fun msg (hmsg : Progresses confirms 0 (fun _ => True) msg) =>
    self.submitTx_progresses lib hm hg hmsg crypto gas
  refine ⟨fun _ _ => self.submitTx_progresses lib hm hg (progresses_pure trivial) crypto _,
    fun tx => self.broadcastTx_progresses lib hg tx none hm, fun _ _ _ nRetries hn => ?_,
    fun hx _ => ?_, fun hx _ _ _ => ?_⟩
  · obtain ⟨j, hj⟩ : ∃ j, (nRetries.getD self.nSendingRetries).toNat = j + 1 :=
      ⟨_, (Nat.succ_pred_eq_of_pos (by omega)).symm⟩
    rw [executeContract, hj]
    exact (executeLoop_progresses self (hsubmit _ (progresses_pure trivial)) j none none).bind
      fun | (some _, _), _ => progresses_pure trivial
  · rw [deployContract, hk]
    exact (sendLoop_progresses _ _ (hsubmit _ (getPackedStoreMsg_progresses lib _ _)) hx k rfl).bind
      fun st ⟨_, _, hres, hb⟩ => by
        rw [hres, hb]
        exact progresses_pure trivial
  · rw [instantiateContract, instantiateLoop_eq_sendLoop, hk]
    exact (sendLoop_progresses _ _ (hsubmit _ (progresses_pure trivial)) hx k rfl).bind
      fun st ⟨_, _, hres, hb⟩ => by
        rw [hres, hb]
        exact progresses_pure trivial

/-- A contract address the default check accepts. -/
def sampleContractAddress : String := "fetch1qqqqqqqqqqqqqqqqqqqqqqqqqqqqqqqqqqqqqq"

/-- A log that records a stored code and an instantiated contract, as `json.loads` returns it. -/
def sampleLog : Json :=
  .arr [.obj [("key", .str "code_id"), ("value", .str "7")],
    .obj [("key", .str "contract_address"), ("value", .str sampleContractAddress)]]

/-- A `Lib` whose `json.loads` reads every log as `sampleLog`, whose `int` reads every value as
`7`, and whose `str` returns a string value as it is. -/
def logLib : Lib :=
  { sampleLib with
    loads := fun _ => .ok sampleLog
    int := fun _ => .ok 7
    str := fun v => match v with
      | .str s => s
      | _ => ""
    loads_raises := fun _ _ h => nomatch h
    int_raises := fun _ _ h => nomatch h }

/-- On `cooperativeWorld`, with `logLib`, whose log lookups read every confirmed response,
`send_funds`, `deploy_contract` and `instantiate_contract` all return. -/
theorem workflows_progress_cooperativeWorld :
    (0 < sampleLedger.nTotalMsgRetries ∧ 0 < sampleLedger.nGetResponseRetries) ∧
    (∀ res, ∃ codeId, getCodeId logLib res = .ok codeId) ∧
    (∀ res, ∃ contractAddress, getContractAddress logLib res = .ok contractAddress) ∧
    (∃ res w', sampleLedger.sendFunds logLib sampleCrypto "fetch1" [] cooperativeWorld =
      .ok res w') ∧
    (∃ r w', sampleLedger.deployContract logLib sampleCrypto "contract.wasm" 0 cooperativeWorld =
      .ok r w') ∧
    (∃ r w', sampleLedger.instantiateContract logLib sampleCrypto 7 .null "label" 0
      cooperativeWorld = .ok r w') := by
  have hm : 0 < sampleLedger.nTotalMsgRetries := by decide
  have hg : 0 < sampleLedger.nGetResponseRetries := by decide
  have hcode : ∀ res, ∃ codeId, getCodeId logLib res = .ok codeId := fun _ => ⟨7, rfl⟩
  have haddr : ∀ res, ∃ contractAddress, getContractAddress logLib res = .ok contractAddress :=
    fun _ => ⟨sampleContractAddress, rfl⟩
  have hcoop : Cooperative (fun _ => True) cooperativeWorld.replies :=
    fun _ c => ⟨_, rfl, by cases c <;> first | trivial | exact ⟨_, rfl⟩⟩
  obtain ⟨hsend, -, -, hdeploy, hinst⟩ :=
    workflows_progress logLib sampleLedger (fun _ => True) sampleCrypto 0 hm hg
  obtain ⟨res, w', h, -⟩ := hsend "fetch1" [] cooperativeWorld hcoop
  obtain ⟨r₁, w₁, h₁, -⟩ := hdeploy (fun res _ => hcode res) "contract.wasm" cooperativeWorld hcoop
  obtain ⟨r₂, w₂, h₂, -⟩ := hinst (fun res _ => haddr res) 7 .null "label" cooperativeWorld hcoop
  exact ⟨⟨hm, hg⟩, hcode, haddr, ⟨res, w', h⟩, ⟨r₁, w₁, h₁⟩, ⟨r₂, w₂, h₂⟩⟩

end CosmosLedger

end Cosmpy
