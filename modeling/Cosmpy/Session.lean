import Cosmpy.Funds

/-!
# The account-number cache over whole sessions

The one piece of state `ledger.py` keeps from one call to the next is `crypto.account_number`
on the signer's `CosmosCrypto`: `_ensure_accont_number` queries the account and stores its
number when none is stored, and `sign_tx` signs with the stored number.  No other code of the
module writes it, and nothing clears it.  This file proves that of every public method, and of
every session of them.

* `CacheStep a w w'` is what a run from `w` to `w'` may do to the cache: it only adds events to
  the trace, and it leaves the account number as it was, or sets an unset one to the number of a
  `BaseAccount` that the node returned, during the run, to an account query for the address `a`.
  It is reflexive and transitive, and once the number is set a step keeps it
  (`CacheStep.accountNumber_eq`).
* `KeepsCache a x`: every run of `x`, whether it returns or raises, is a `CacheStep a`.  It holds
  of `call`, `sleep`, `pure` and `throw` and is closed under `bind` and `observe`, so each
  function of the module keeps the cache by a short lemma from those of the functions it calls,
  and each loop by induction on its budget.  The one write is `ensureAccontNumber_keepsCache`,
  which rests on `queryAccountData_returned`: the account `query_account_data` returns is one the
  node returned for that address.
* `Op` is a public method of `CosmosLedger` with its arguments, and `runSession` calls a list of
  them one after the other on one client, for a caller that catches whatever each raises.
  `runSession_keepsCache` is the invariant over every such session.

The world holds the number of one `CosmosCrypto`, so every method of a session that signs signs
with the session's `crypto`.  `ensure_funds` is not among the methods: its validator branch signs
with the validator's own `CosmosCrypto`, whose number the world does not hold.
-/

set_option autoImplicit false

namespace Cosmpy

open Ledger

/-! ## What a run may do to the cache -/

/-- The world a run ends in, whether it returned or raised. -/
def endWorld {α : Type} : EStateM.Result Exc World α → World
  | .ok _ w => w
  | .error _ w => w

/-- A call ends, whatever its reply, in the world that has recorded it. -/
theorem endWorld_call (c : Call) (w : World) : endWorld (call c w) = w.afterCall c := by
  simp only [call]
  split <;> rfl

/-- `CacheStep a w w'`: from `w` to `w'` the client only added the events `evs` to the trace, and
it left the account number as it was, or set an unset one to the number of a `BaseAccount` that
the node returned, in `evs`, to an account query for the address `a`. -/
def CacheStep (a : String) (w w' : World) : Prop :=
  ∃ evs, w'.trace = w.trace ++ evs ∧
    (w'.accountNumber = w.accountNumber ∨
      w.accountNumber = none ∧ ∃ (r : QueryAccountResponse) (acc : BaseAccount),
        Event.call (.account ⟨a⟩) (.value r) ∈ evs ∧ r.account = .baseAccount acc ∧
        w'.accountNumber = some acc.accountNumber)

namespace CacheStep

variable {a : String} {w₁ w₂ w₃ : World}

theorem refl (w : World) : CacheStep a w w := ⟨[], (List.append_nil _).symm, .inl rfl⟩

theorem trans (h₁ : CacheStep a w₁ w₂) (h₂ : CacheStep a w₂ w₃) : CacheStep a w₁ w₃ := by
  obtain ⟨evs₁, ht₁, hn₁⟩ := h₁
  obtain ⟨evs₂, ht₂, hn₂⟩ := h₂
  refine ⟨evs₁ ++ evs₂, by rw [ht₂, ht₁, List.append_assoc], ?_⟩
  rcases hn₁ with hn₁ | ⟨hnone, r, acc, hmem, hr, hn₁⟩
  · rcases hn₂ with hn₂ | ⟨hnone', r, acc, hmem, hr, hn₂⟩
    · exact .inl (hn₂.trans hn₁)
    · exact .inr ⟨hn₁.symm.trans hnone', r, acc, List.mem_append_right _ hmem, hr, hn₂⟩
  · rcases hn₂ with hn₂ | ⟨hnone', -⟩
    · exact .inr ⟨hnone, r, acc, List.mem_append_left _ hmem, hr, hn₂.trans hn₁⟩
    · rw [hn₁] at hnone'
      cases hnone'

/-- Once the number is set, a step keeps it. -/
theorem accountNumber_eq {n : Nat} (h : CacheStep a w₁ w₂) (hn : w₁.accountNumber = some n) :
    w₂.accountNumber = some n := by
  obtain ⟨_, _, h | ⟨hnone, -⟩⟩ := h
  · rw [h, hn]
  · rw [hn] at hnone
    cases hnone

end CacheStep

/-- Every run of `x`, whether it returns or raises, is a `CacheStep a`. -/
def KeepsCache {α : Type} (a : String) (x : Ledger α) : Prop :=
  ∀ w, CacheStep a w (endWorld (x w))

/-! ## The primitives, and `bind` -/

section Closure

variable {α β : Type} {a : String} {x : Ledger α} {f : α → Ledger β}

theorem keepsCache_pure (b : α) : KeepsCache a (pure b : Ledger α) := fun w => .refl w

theorem keepsCache_throw (e : Exc) : KeepsCache a (throw e : Ledger α) := fun w => .refl w

theorem keepsCache_get : KeepsCache a (get : Ledger World) := fun w => .refl w

theorem keepsCache_ofExcept (r : Except Exc α) : KeepsCache a (ofExcept r : Ledger α) := by
  cases r
  exacts [keepsCache_throw _, keepsCache_pure _]

theorem keepsCache_attr (name : String) (o : Option α) : KeepsCache a (attr name o) := by
  cases o
  exacts [keepsCache_throw _, keepsCache_pure _]

theorem keepsCache_call (c : Call) : KeepsCache a (call c) := fun w => by
  rw [endWorld_call]
  exact ⟨_, rfl, .inl rfl⟩

theorem keepsCache_sleep (s : Seconds) : KeepsCache a (sleep s) := fun _ => ⟨_, rfl, .inl rfl⟩

theorem keepsCache_bind (hx : KeepsCache a x) (hf : ∀ b, KeepsCache a (f b)) :
    KeepsCache a (x >>= f) := by
  intro w
  have h := hx w
  rw [bind_apply]
  cases hxw : x w with
  | ok b w₁ =>
    rw [hxw] at h
    exact h.trans (hf b w₁)
  | error e w₁ =>
    rw [hxw] at h
    exact h

theorem keepsCache_observe (hx : KeepsCache a x) : KeepsCache a (observe x) := by
  intro w
  have h := hx w
  rw [observe_apply]
  cases hxw : x w <;> rw [hxw] at h <;> exact h

theorem keepsCache_ite {c : Prop} [Decidable c] {y : Ledger α} (hx : KeepsCache a x)
    (hy : KeepsCache a y) : KeepsCache a (if c then x else y) := by
  split
  exacts [hx, hy]

theorem keepsCache_forM {γ : Type} {g : γ → Ledger Unit} (hg : ∀ c, KeepsCache a (g c)) :
    ∀ cs : List γ, KeepsCache a (cs.forM g)
  | [] => keepsCache_pure _
  | c :: cs => by
    rw [List.forM_cons']
    exact keepsCache_bind (hg c) fun _ => keepsCache_forM hg cs

end Closure

/-! ## The loops -/

section Loops

variable {a : String}

theorem retryLoop_keepsCache {α : Type} (s : Seconds) {call : Ledger (Option α)}
    (hc : KeepsCache a call) : ∀ k le response, KeepsCache a (retryLoop s call k le response)
  | 0, _, _ => keepsCache_pure _
  | k + 1, _, _ => keepsCache_bind (keepsCache_observe hc) fun
    | .ok (some _) => keepsCache_pure _
    | .ok none => retryLoop_keepsCache s hc k _ _
    | .error _ => keepsCache_bind (keepsCache_sleep _) fun _ => retryLoop_keepsCache s hc k _ _

theorem callWithRetry_keepsCache {α : Type} (r : Retrier) {call : Ledger (Option α)}
    (hc : KeepsCache a call) : KeepsCache a (r.callWithRetry call) :=
  keepsCache_bind (retryLoop_keepsCache _ hc _ _ _) fun
    | (_, some _) => keepsCache_pure _
    | (_, none) => keepsCache_throw _

variable {β : Type} (interval : Seconds) (catches : ExcKind → Bool)
  {submit : Ledger GetTxResponse} (extract : GetTxResponse → Except Exc β)

theorem attempt_keepsCache (hs : KeepsCache a submit) :
    KeepsCache a (attempt catches submit extract) :=
  keepsCache_bind (keepsCache_observe hs) fun
    | .error _ => keepsCache_pure _
    | .ok res => by
      dsimp only
      split <;> exact keepsCache_pure _

theorem sendLoop_keepsCache (hs : KeepsCache a submit) :
    ∀ k st, KeepsCache a (sendLoop interval catches submit extract k st)
  | 0, _ => keepsCache_pure _
  | k + 1, st => by
    rw [sendLoop]
    split
    · exact keepsCache_pure _
    · exact keepsCache_bind (attempt_keepsCache catches extract hs) fun
        | .success _ _ => sendLoop_keepsCache hs k _
        | .caught _ _ => keepsCache_bind (keepsCache_sleep _) fun _ => sendLoop_keepsCache hs k _
        | .uncaught _ => keepsCache_throw _

end Loops

/-! ## Every method of the client -/

namespace CosmosLedger

variable (lib : Lib) (self : CosmosLedger) {a : String}

theorem queryContractState_keepsCache (contractAddress : String) (msg : Json)
    (nRetries : Option Int) : KeepsCache a (self.queryContractState lib contractAddress msg nRetries) :=
  keepsCache_bind (retryLoop_keepsCache _ (keepsCache_call _) _ _ _) fun
    | (_, none) => keepsCache_throw _
    | (_, some _) => keepsCache_ofExcept _

theorem getBalance_keepsCache (address denom : String) :
    KeepsCache a (self.getBalance lib address denom) :=
  keepsCache_bind (retryLoop_keepsCache _ (keepsCache_call _) _ _ _) fun
    | (_, none) => keepsCache_throw _
    | (_, some _) => keepsCache_ofExcept _

theorem getBalances_keepsCache (address : String) : KeepsCache a (self.getBalances address) :=
  keepsCache_bind (retryLoop_keepsCache _ (keepsCache_call _) _ _ _) fun
    | (_, none) => keepsCache_throw _
    | (_, some _) => keepsCache_pure _

theorem queryAccountDataLoop_keepsCache (address : String) :
    ∀ k le accountResponse, KeepsCache a (self.queryAccountDataLoop address k le accountResponse)
  | 0, _, _ => keepsCache_pure _
  | k + 1, _, _ => keepsCache_bind (keepsCache_observe (keepsCache_call _)) fun
    | .ok _ => keepsCache_pure _
    | .error _ => keepsCache_bind (keepsCache_sleep _) fun _ =>
      queryAccountDataLoop_keepsCache address k _ _

theorem queryAccountData_keepsCache (address : String) :
    KeepsCache a (self.queryAccountData address) :=
  keepsCache_bind (self.queryAccountDataLoop_keepsCache address _ _ _) fun
    | (_, none) => keepsCache_throw _
    | (_, some ⟨.baseAccount _⟩) => keepsCache_pure _
    | (_, some ⟨.other _⟩) => keepsCache_throw _

/-- The loop of `query_account_data` only adds to the trace, and a response it ends with is the
one it started with or one the node returned to a query for `address`. -/
theorem queryAccountDataLoop_returned (address : String) :
    ∀ (k : Nat) (le : Option Exc) (res : Option QueryAccountResponse) (w : World)
      (le' : Option Exc) (r : QueryAccountResponse) (w' : World),
      self.queryAccountDataLoop address k le res w = .ok (le', some r) w' →
      ∃ evs, w'.trace = w.trace ++ evs ∧
        (res = some r ∨ Event.call (.account ⟨address⟩) (.value r) ∈ evs)
  | 0, _, _, w, _, _, _, h => by
    cases h
    exact ⟨[], (List.append_nil _).symm, .inl rfl⟩
  | k + 1, le, res, w, le', r, w', h => by
    rw [queryAccountDataLoop, bind_apply, observe_apply] at h
    cases hc : w.replies 0 (.account ⟨address⟩) with
    | raise e =>
      rw [call_of_raise hc] at h
      obtain ⟨evs, ht, hr⟩ := queryAccountDataLoop_returned address k _ _ _ _ _ _ h
      refine ⟨[.call (.account ⟨address⟩) (w.replies 0 (.account ⟨address⟩)),
        .sleep self.msgRetryInterval] ++ evs, ?_, ?_⟩
      · rw [ht]
        simp [World.afterCall]
      · exact hr.imp_right fun hm => List.mem_append_right _ hm
    | none =>
      rw [call_of_none hc] at h
      cases h
    | value v =>
      rw [call_of_value hc] at h
      cases h
      exact ⟨[.call (.account ⟨address⟩) (w.replies 0 (.account ⟨address⟩))], rfl,
        .inr (by rw [hc]; exact List.mem_singleton_self _)⟩

/-- The account `query_account_data(address)` returns is one the node returned, during the call,
to a query for `address`. -/
theorem queryAccountData_returned (address : String) {w w' : World} {acc : BaseAccount}
    (h : self.queryAccountData address w = .ok acc w') :
    ∃ (evs : List Event) (r : QueryAccountResponse), w'.trace = w.trace ++ evs ∧
      Event.call (.account ⟨address⟩) (.value r) ∈ evs ∧ r.account = .baseAccount acc := by
  rw [queryAccountData, bind_apply] at h
  cases hl : self.queryAccountDataLoop address self.nTotalMsgRetries.toNat none none w with
  | error e w₁ =>
    rw [hl] at h
    cases h
  | ok p w₁ =>
    rw [hl] at h
    obtain ⟨le, _ | ⟨_ | _⟩⟩ := p <;> cases h
    obtain ⟨evs, ht, hr | hr⟩ := self.queryAccountDataLoop_returned address _ _ _ _ _ _ _ hl
    · cases hr
    · exact ⟨evs, _, ht, hr, rfl⟩

theorem querySignerInfos_keepsCache :
    ∀ signers, KeepsCache a (self.querySignerInfos signers)
  | [] => keepsCache_pure _
  | (_, _) :: rest => keepsCache_bind (self.queryAccountData_keepsCache _) fun _ =>
    keepsCache_bind (querySignerInfos_keepsCache rest) fun _ => keepsCache_pure _

theorem generateTx_keepsCache (packedMsgs : List ProtoAny) (fromAddresses : List String)
    (pubKeys : List Bytes) (fee : Option (List Coin)) (memo : String) (gasLimit : Nat) :
    KeepsCache a (self.generateTx packedMsgs fromAddresses pubKeys fee memo gasLimit) :=
  keepsCache_bind (self.querySignerInfos_keepsCache _) fun _ => keepsCache_pure _

/-- **The one write.**  `_ensure_accont_number` keeps the cache of its own crypto: it stores a
number only when none is stored, and the number it stores is that of the account the node
returned for the crypto's address. -/
theorem ensureAccontNumber_keepsCache (crypto : CosmosCrypto) :
    KeepsCache crypto.address (self.ensureAccontNumber crypto) := by
  intro w
  cases hn : w.accountNumber with
  | some n =>
    have hw : self.ensureAccontNumber crypto w = .ok () w := by
      simp [ensureAccontNumber, bind_apply, hn]
    rw [hw]
    exact .refl w
  | none =>
    have hq := self.queryAccountData_keepsCache (a := crypto.address) crypto.address w
    have hw : self.ensureAccontNumber crypto w =
        match self.queryAccountData crypto.address w with
        | .ok acc w₁ => .ok () { w₁ with accountNumber := some acc.accountNumber }
        | .error e w₁ => .error e w₁ := by
      simp only [ensureAccontNumber, bind_apply, get_apply, hn, Option.isNone_none, if_true]
      cases self.queryAccountData crypto.address w <;> rfl
    rw [hw]
    cases hqw : self.queryAccountData crypto.address w with
    | error e w₁ =>
      rw [hqw] at hq
      exact hq
    | ok acc w₁ =>
      obtain ⟨evs, r, ht, hm, hr⟩ := self.queryAccountData_returned crypto.address hqw
      exact ⟨evs, ht, .inr ⟨hn, r, acc, hm, hr, rfl⟩⟩

theorem signTx_keepsCache (crypto : CosmosCrypto) (tx : Tx) :
    KeepsCache crypto.address (self.signTx lib crypto tx) :=
  keepsCache_bind (self.ensureAccontNumber_keepsCache crypto) fun _ =>
    keepsCache_bind keepsCache_get fun w => by
      cases w.accountNumber
      exacts [keepsCache_throw _, keepsCache_pure _]

theorem getTx_keepsCache (txhash : String) : KeepsCache a (self.getTx txhash) :=
  callWithRetry_keepsCache _ (keepsCache_call _)

theorem broadcastTx_keepsCache (tx : Tx) (retries : Option Int) :
    KeepsCache a (self.broadcastTx lib tx retries) :=
  keepsCache_bind (callWithRetry_keepsCache _ (keepsCache_call _)) fun _ =>
    keepsCache_ite (keepsCache_bind (keepsCache_throw _) fun _ => self.getTx_keepsCache _)
      (keepsCache_bind (keepsCache_pure _) fun _ => self.getTx_keepsCache _)

theorem getPackedStoreMsg_keepsCache (senderAddress contractFilename : String) :
    KeepsCache a (getPackedStoreMsg lib senderAddress contractFilename) :=
  keepsCache_bind (keepsCache_call _) fun
    | some _ => keepsCache_pure _
    | none => keepsCache_throw _

variable (crypto : CosmosCrypto) (gas : Nat)

theorem prepareTx_keepsCache {msg : Ledger ProtoAny} (hm : KeepsCache crypto.address msg) :
    KeepsCache crypto.address (self.prepareTx lib msg crypto gas) :=
  keepsCache_bind hm fun _ => keepsCache_bind (self.generateTx_keepsCache _ _ _ _ _ _) fun _ =>
    self.signTx_keepsCache lib crypto _

theorem submitTx_keepsCache {msg : Ledger ProtoAny} (hm : KeepsCache crypto.address msg) :
    KeepsCache crypto.address (self.submitTx lib msg crypto gas) :=
  keepsCache_bind (self.prepareTx_keepsCache lib crypto gas hm) fun _ =>
    self.broadcastTx_keepsCache lib _ _

theorem deployContract_keepsCache (contractFilename : String) :
    KeepsCache crypto.address (self.deployContract lib crypto contractFilename gas) :=
  keepsCache_bind (sendLoop_keepsCache _ _ _
      (self.submitTx_keepsCache lib crypto gas (getPackedStoreMsg_keepsCache lib _ _)) _ _) fun st =>
    by split <;> first | exact keepsCache_pure _ | exact keepsCache_throw _

theorem instantiateContract_keepsCache (codeId : Int) (initMsg : Json) (label : String) :
    KeepsCache crypto.address (self.instantiateContract lib crypto codeId initMsg label gas) := by
  rw [instantiateContract, instantiateLoop_eq_sendLoop]
  exact keepsCache_bind (sendLoop_keepsCache _ _ _
      (self.submitTx_keepsCache lib crypto gas (keepsCache_pure _)) _ _) fun st =>
    by split <;> first | exact keepsCache_pure _ | exact keepsCache_throw _

theorem executeLoop_keepsCache {submit : Ledger GetTxResponse} (hs : KeepsCache a submit) :
    ∀ k res lastException, KeepsCache a (self.executeLoop submit k res lastException)
  | 0, _, _ => keepsCache_pure _
  | k + 1, _, _ => keepsCache_bind (keepsCache_observe hs) fun
    | .ok _ => keepsCache_pure _
    | .error _ => by
      dsimp only
      split
      · exact keepsCache_bind (keepsCache_sleep _) fun _ => executeLoop_keepsCache hs k _ _
      · exact keepsCache_throw _

theorem executeContract_keepsCache (contractAddress : String) (executeMsg : Json)
    (amount : Option (List Coin)) (nRetries : Option Int) :
    KeepsCache crypto.address
      (self.executeContract lib crypto contractAddress executeMsg gas amount nRetries) :=
  keepsCache_bind (self.executeLoop_keepsCache
      (self.submitTx_keepsCache lib crypto gas (keepsCache_pure _)) _ _ _) fun
    | (some _, _) => keepsCache_pure _
    | (none, _) => keepsCache_throw _

theorem sendFunds_keepsCache (toAddress : String) (amountCoins : List Coin) :
    KeepsCache crypto.address (self.sendFunds lib crypto toAddress amountCoins) :=
  self.submitTx_keepsCache lib crypto _ (keepsCache_pure _)

theorem faucetAttempt_keepsCache (minAmount : Int) (address : String) :
    KeepsCache a (self.faucetAttempt lib minAmount address) := by
  refine keepsCache_bind (self.getBalances_keepsCache address) fun balances => ?_
  dsimp only
  split <;>
    exact keepsCache_bind (by first | exact keepsCache_ofExcept _ | exact keepsCache_pure _) fun _ =>
      keepsCache_ite (keepsCache_bind (keepsCache_call _) fun _ =>
          keepsCache_bind (keepsCache_attr _ _) fun _ =>
            keepsCache_bind (keepsCache_sleep _) fun _ => keepsCache_pure _)
        (keepsCache_pure _)

theorem faucetLoop_keepsCache (minAmount : Int) (address : String) :
    ∀ k, KeepsCache a (self.faucetLoop lib minAmount address k)
  | 0 => keepsCache_pure _
  | k + 1 => keepsCache_bind (keepsCache_observe (self.faucetAttempt_keepsCache lib _ _)) fun
    | .ok true => keepsCache_pure _
    | .ok false => faucetLoop_keepsCache minAmount address k
    | .error _ => keepsCache_bind (keepsCache_sleep _) fun _ =>
      faucetLoop_keepsCache minAmount address k

theorem refillWealthFromFaucet_keepsCache (addresses : List String) (amount : Option Int) :
    KeepsCache a (self.refillWealthFromFaucet lib addresses amount) :=
  keepsCache_forM (fun _ => self.faucetLoop_keepsCache lib _ _ _) addresses

theorem nodeNetworkCheck_keepsCache : KeepsCache a (nodeNetworkCheck lib self) := by
  unfold nodeNetworkCheck
  split
  · refine keepsCache_bind (keepsCache_call _) fun text =>
      keepsCache_bind (keepsCache_ofExcept _) fun _ =>
        keepsCache_bind (keepsCache_ofExcept _) fun _ => ?_
    split
    exacts [keepsCache_pure _, keepsCache_throw _]
  · refine keepsCache_bind (keepsCache_call _) fun _ =>
      keepsCache_bind (keepsCache_attr _ _) fun _ => ?_
    split
    exacts [keepsCache_pure _, keepsCache_throw _]

theorem checkAvailability_keepsCache : KeepsCache a (checkAvailability lib self) :=
  keepsCache_bind (keepsCache_observe (nodeNetworkCheck_keepsCache lib self)) fun
    | .ok () => keepsCache_pure _
    | .error _ => keepsCache_throw _

end CosmosLedger

/-! ## Sessions -/

/-- A public method of `CosmosLedger` with its arguments.  The methods that sign sign with the
session's one `CosmosCrypto`. -/
inductive Op where
  | deployContract (contractFilename : String) (gas : Nat)
  | instantiateContract (codeId : Int) (initMsg : Json) (label : String) (gas : Nat)
  | executeContract (contractAddress : String) (executeMsg : Json) (gas : Nat)
      (amount : Option (List Coin)) (nRetries : Option Int)
  | queryContractState (contractAddress : String) (msg : Json) (nRetries : Option Int)
  | getBalance (address denom : String)
  | getBalances (address : String)
  | sendFunds (toAddress : String) (amountCoins : List Coin)
  | refillWealthFromFaucet (addresses : List String) (amount : Option Int)
  | generateTx (packedMsgs : List ProtoAny) (fromAddresses : List String) (pubKeys : List Bytes)
      (fee : Option (List Coin)) (memo : String) (gasLimit : Nat)
  | signTx (tx : Tx)
  | broadcastTx (tx : Tx) (retries : Option Int)
  | getTx (txhash : String)
  | queryAccountData (address : String)
  | checkAvailability

namespace Op

variable (lib : Lib) (self : CosmosLedger) (crypto : CosmosCrypto)

/-- Call the method on `self`, signing with `crypto`, and drop what it returns. -/
def run : Op → Ledger Unit
  | .deployContract contractFilename gas => do
    let _ ← self.deployContract lib crypto contractFilename gas
  | .instantiateContract codeId initMsg label gas => do
    let _ ← self.instantiateContract lib crypto codeId initMsg label gas
  | .executeContract contractAddress executeMsg gas amount nRetries => do
    let _ ← self.executeContract lib crypto contractAddress executeMsg gas amount nRetries
  | .queryContractState contractAddress msg nRetries => do
    let _ ← self.queryContractState lib contractAddress msg nRetries
  | .getBalance address denom => do
    let _ ← self.getBalance lib address denom
  | .getBalances address => do
    let _ ← self.getBalances address
  | .sendFunds toAddress amountCoins => do
    let _ ← self.sendFunds lib crypto toAddress amountCoins
  | .refillWealthFromFaucet addresses amount => self.refillWealthFromFaucet lib addresses amount
  | .generateTx packedMsgs fromAddresses pubKeys fee memo gasLimit => do
    let _ ← self.generateTx packedMsgs fromAddresses pubKeys fee memo gasLimit
  | .signTx tx => do
    let _ ← self.signTx lib crypto tx
  | .broadcastTx tx retries => do
    let _ ← self.broadcastTx lib tx retries
  | .getTx txhash => do
    let _ ← self.getTx txhash
  | .queryAccountData address => do
    let _ ← self.queryAccountData address
  | .checkAvailability => CosmosLedger.checkAvailability lib self

/-- Every method keeps the cache of the session's crypto. -/
theorem run_keepsCache : ∀ op : Op, KeepsCache crypto.address (op.run lib self crypto)
  | .deployContract .. => keepsCache_bind (self.deployContract_keepsCache lib crypto _ _) fun _ =>
    keepsCache_pure _
  | .instantiateContract .. =>
    keepsCache_bind (self.instantiateContract_keepsCache lib crypto _ _ _ _) fun _ =>
      keepsCache_pure _
  | .executeContract .. =>
    keepsCache_bind (self.executeContract_keepsCache lib crypto _ _ _ _ _) fun _ =>
      keepsCache_pure _
  | .queryContractState .. =>
    keepsCache_bind (self.queryContractState_keepsCache lib _ _ _) fun _ => keepsCache_pure _
  | .getBalance .. => keepsCache_bind (self.getBalance_keepsCache lib _ _) fun _ => keepsCache_pure _
  | .getBalances _ => keepsCache_bind (self.getBalances_keepsCache _) fun _ => keepsCache_pure _
  | .sendFunds .. => keepsCache_bind (self.sendFunds_keepsCache lib crypto _ _) fun _ =>
    keepsCache_pure _
  | .refillWealthFromFaucet .. => self.refillWealthFromFaucet_keepsCache lib _ _
  | .generateTx .. =>
    keepsCache_bind (self.generateTx_keepsCache _ _ _ _ _ _) fun _ => keepsCache_pure _
  | .signTx _ => keepsCache_bind (self.signTx_keepsCache lib crypto _) fun _ => keepsCache_pure _
  | .broadcastTx .. =>
    keepsCache_bind (self.broadcastTx_keepsCache lib _ _) fun _ => keepsCache_pure _
  | .getTx _ => keepsCache_bind (self.getTx_keepsCache _) fun _ => keepsCache_pure _
  | .queryAccountData _ =>
    keepsCache_bind (self.queryAccountData_keepsCache _) fun _ => keepsCache_pure _
  | .checkAvailability => CosmosLedger.checkAvailability_keepsCache lib self

end Op

/-- A caller that calls the methods `ops` on `self` one after the other, signing with `crypto`,
and catches whatever each of them raises. -/
def runSession (lib : Lib) (self : CosmosLedger) (crypto : CosmosCrypto) (ops : List Op) :
    Ledger Unit :=
  ops.forM fun op => do
    let _ ← observe (op.run lib self crypto)

/-- **The cache over every session.**  For every list of calls to the client and every world, a
session only adds to the trace, and it leaves `crypto.account_number` as it was, or, when none was
stored, stores the number of a `BaseAccount` that the node returned during the session to an
account query for the crypto's own address.  In particular a number once stored is never changed
by any later call, whatever the calls and whatever they raise. -/
theorem runSession_keepsCache (lib : Lib) (self : CosmosLedger) (crypto : CosmosCrypto)
    (ops : List Op) : KeepsCache crypto.address (runSession lib self crypto ops) :=
  keepsCache_forM (fun op => keepsCache_bind (keepsCache_observe (op.run_keepsCache lib self crypto))
    fun _ => keepsCache_pure _) ops

end Cosmpy
