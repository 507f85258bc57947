import Cosmpy.Retrier
import Cosmpy.Client

/-!
# The read-only queries

Four methods query the node with a hand-written retry loop instead of a `Retrier`:
`query_contract_state`, `get_balance`, `get_balances` and `query_account_data`.

The first three run the very loop of `call_with_retry` (`retryLoop`) around their one call, each
with its own interval, so they differ from a `Retrier` only in what they do once the loop is
over: `query_contract_state` raises its `BroadcastException` `from last_exception`, as a
`Retrier` does, and `get_balance` and `get_balances` raise theirs without a cause.

`query_account_data` has a loop of its own: it leaves the loop on the first call that returns,
even when the call returned `None`, and then raises (`queryAccountData_of_firstReturn`); it too
raises without a cause.  `queryLoops_diverge_from_retrier` puts the two differences side by side
on concrete runs.
-/

set_option autoImplicit false

namespace Cosmpy

open Ledger

namespace CosmosLedger

variable (lib : Lib) (self : CosmosLedger)

/-- `query_contract_state(contract_address, msg, n_retries)`. -/
def queryContractState (contractAddress : String) (msg : Json) (nRetries : Option Int) :
    Ledger Json := do
  let request : QuerySmartContractStateRequest := ⟨contractAddress, lib.jsonDumps msg⟩
  let n := nRetries.getD self.nTotalMsgRetries
  let (lastException, res) ←
    retryLoop self.msgFailedRetryInterval (call (.smartContractState request)) n.toNat none none
  match res with
  | none => throw ⟨.broadcastException,
      "Getting contract state failed after multiple attempts: " ++ Exc.str lastException,
      lastException⟩
  | some (res : QuerySmartContractStateResponse) => ofExcept (lib.loadsBytes res.data)

/-- `get_balance(address, denom)`. -/
def getBalance (address denom : String) : Ledger Int := do
  let (lastException, res) ←
    retryLoop self.msgRetryInterval (call (.balance ⟨address, denom⟩))
      self.nTotalMsgRetries.toNat none none
  match res with
  | none => throw (Exc.raise .broadcastException
      ("Getting balance failed after multiple attempts: " ++ Exc.str lastException))
  | some (res : QueryBalanceResponse) => ofExcept (lib.intOfStr res.balance.amount)

/-- `get_balances(address)`; the request is a `QueryBalanceRequest` with no denom. -/
def getBalances (address : String) : Ledger (List Coin) := do
  let (lastException, res) ←
    retryLoop self.msgRetryInterval (call (.allBalances ⟨address, ""⟩))
      self.nTotalMsgRetries.toNat none none
  match res with
  | none => throw (Exc.raise .broadcastException
      ("Getting balances failed after multiple attempts: " ++ Exc.str lastException))
  | some (res : QueryAllBalancesResponse) => pure res.balances

/-- The loop of `query_account_data`: it `break`s as soon as the call returns, whatever it
returned, and sleeps after a call that raised. -/
def queryAccountDataLoop (address : String) :
    Nat → Option Exc → Option QueryAccountResponse →
      Ledger (Option Exc × Option QueryAccountResponse)
  | 0, lastException, accountResponse => pure (lastException, accountResponse)
  | k + 1, lastException, accountResponse => do
    match ← observe (call (.account ⟨address⟩)) with
    | .ok r => pure (lastException, r)
    | .error e =>
      sleep self.msgRetryInterval
      queryAccountDataLoop address k (some e) accountResponse

/-- `query_account_data(address)`. -/
def queryAccountData (address : String) : Ledger BaseAccount := do
  let (lastException, accountResponse) ←
    self.queryAccountDataLoop address self.nTotalMsgRetries.toNat none none
  match accountResponse with
  | none => throw (Exc.raise .broadcastException
      ("Getting account data failed after multiple attempts: " ++ Exc.str lastException))
  | some r =>
    match r.account with
    | .baseAccount account => pure account
    | .other _ => throw (Exc.raise .typeError "Unexpected account type")

/-! ## `query_account_data` -/

section AccountData

variable (address : String)

theorem queryAccountDataLoop_succ_of_raise {k : Nat} {le : Option Exc}
    {accountResponse : Option QueryAccountResponse} {w : World} {e : Exc}
    (h : w.replies 0 (.account ⟨address⟩) = .raise e) :
    self.queryAccountDataLoop address (k + 1) le accountResponse w =
      self.queryAccountDataLoop address k (some e) accountResponse
        (w.afterAttempt (.account ⟨address⟩) self.msgRetryInterval) := by
  rw [queryAccountDataLoop, bind_of_ok (observe_of_error (call_of_raise h))]
  simp [World.afterAttempt, World.afterCall, attemptEvents, h, sleep_bind]

theorem queryAccountDataLoop_succ_of_isRaise_false {k : Nat} {le : Option Exc}
    {accountResponse : Option QueryAccountResponse} {w : World}
    (h : (w.replies 0 (.account ⟨address⟩)).isRaise = false) :
    self.queryAccountDataLoop address (k + 1) le accountResponse w =
      .ok (le, (w.replies 0 (.account ⟨address⟩)).returned?)
        (w.afterAttempt (.account ⟨address⟩) self.msgRetryInterval) := by
  cases h0 : w.replies 0 (.account ⟨address⟩) with
  | raise e => simp [h0, Reply.isRaise] at h
  | none =>
    rw [queryAccountDataLoop, bind_of_ok (observe_of_ok (call_of_none h0))]
    simp [World.afterAttempt, World.afterCall, attemptEvents, h0, Reply.returned?]
  | value v =>
    rw [queryAccountDataLoop, bind_of_ok (observe_of_ok (call_of_value h0))]
    simp [World.afterAttempt, World.afterCall, attemptEvents, h0, Reply.returned?]

/-- The loop of `query_account_data` stops at the first call that returns, `None` or not. -/
theorem queryAccountDataLoop_of_firstReturn {j k : Nat} {le : Option Exc}
    {accountResponse : Option QueryAccountResponse} {w : World} (hj : j < k)
    (hpre : ∀ i < j, (w.replies i (.account ⟨address⟩)).isRaise = true)
    (hret : (w.replies j (.account ⟨address⟩)).isRaise = false) :
    self.queryAccountDataLoop address k le accountResponse w =
      .ok ((lastRaise (fun i => w.replies i (.account ⟨address⟩)) j).or le,
          (w.replies j (.account ⟨address⟩)).returned?)
        (World.afterAttempts (.account ⟨address⟩) self.msgRetryInterval (j + 1) w) := by
  induction j generalizing k le accountResponse w with
  | zero =>
    obtain ⟨k, rfl⟩ : ∃ k', k = k' + 1 := ⟨k - 1, by omega⟩
    rw [queryAccountDataLoop_succ_of_isRaise_false self address hret]
    rfl
  | succ j ih =>
    obtain ⟨k, rfl⟩ : ∃ k', k = k' + 1 := ⟨k - 1, by omega⟩
    obtain ⟨e, he⟩ : ∃ e, w.replies 0 (.account ⟨address⟩) = .raise e := by
      have := hpre 0 (by omega)
      revert this
      cases w.replies 0 (.account ⟨address⟩) <;> simp [Reply.isRaise]
    rw [queryAccountDataLoop_succ_of_raise self address he,
      ih (by omega) (fun i hi => hpre (i + 1) (by omega)) hret, lastRaise_succ_shift,
      Option.or_assoc, he]
    rfl

/-- A `BaseAccount` for the runs below. -/
def sampleAccount : BaseAccount := ⟨"fetch1", 7, 3⟩

/-- A node whose first call raises and which answers every later account query with
`sampleAccount`. -/
def flakyAccountWorld : World :=
  ⟨fun i c => if i = 0 then .raise (Exc.raise (.other "RpcError") "unavailable") else
    match c with
    | .account _ => .value ⟨.baseAccount sampleAccount⟩
    | _ => .none, [], none⟩

/-- **`query_account_data` stops at the first call that returns.**  If the first `j` calls
raised and call `j` returned, within the budget, that is the last call made; a `None` answer
then raises `BroadcastException`, with no cause, where a `Retrier` would have called again. -/
theorem queryAccountData_of_firstReturn {j : Nat} {w : World}
    (hj : j < self.nTotalMsgRetries.toNat)
    (hpre : ∀ i < j, (w.replies i (.account ⟨address⟩)).isRaise = true)
    (hret : (w.replies j (.account ⟨address⟩)).isRaise = false) :
    self.queryAccountData address w =
      match (w.replies j (.account ⟨address⟩)).returned? with
      | none => .error (Exc.raise .broadcastException
          ("Getting account data failed after multiple attempts: " ++
            Exc.str (lastRaise (fun i => w.replies i (.account ⟨address⟩)) j)))
          (World.afterAttempts (.account ⟨address⟩) self.msgRetryInterval (j + 1) w)
      | some r =>
        match (r : QueryAccountResponse).account with
        | .baseAccount account =>
          .ok account (World.afterAttempts (.account ⟨address⟩) self.msgRetryInterval (j + 1) w)
        | .other _ => .error (Exc.raise .typeError "Unexpected account type")
          (World.afterAttempts (.account ⟨address⟩) self.msgRetryInterval (j + 1) w) := by
  rw [queryAccountData, bind_of_ok (queryAccountDataLoop_of_firstReturn self address hj hpre hret),
    Option.or_none]
  rcases (w.replies j (.account ⟨address⟩)).returned? with _ | ⟨⟨_ | _⟩⟩ <;> rfl

/-- With a budget of two, a first account query that raises and a second that is answered: the
loop sleeps after the first and returns the account of the second. -/
theorem queryAccountData_second_answer :
    (1 < ({ sampleLedger with nTotalMsgRetries := 2 } : CosmosLedger).nTotalMsgRetries.toNat ∧
      (∀ i < 1, (flakyAccountWorld.replies i (.account ⟨"fetch1"⟩)).isRaise = true) ∧
      (flakyAccountWorld.replies 1 (.account ⟨"fetch1"⟩)).isRaise = false) ∧
    queryAccountData { sampleLedger with nTotalMsgRetries := 2 } "fetch1" flakyAccountWorld =
      .ok sampleAccount (World.afterAttempts (.account ⟨"fetch1"⟩) sampleLedger.msgRetryInterval 2
        flakyAccountWorld) :=
  ⟨⟨by decide, fun i hi => by rw [Nat.lt_one_iff.1 hi]; rfl, rfl⟩,
    queryAccountData_of_firstReturn { sampleLedger with nTotalMsgRetries := 2 } "fetch1"
      (show 1 < 2 by decide) (fun i hi => by rw [Nat.lt_one_iff.1 hi]; rfl) rfl⟩

end AccountData

/-! ## Where the hand-written loops part from a `Retrier` -/

/-- With the default budget of one attempt and a `Balance` call that raises, `get_balance`
raises a `BroadcastException` with no cause, where the `Retrier` with the same budget raises one
caused by the call's exception.  With a budget of two and an `Account` call answered first by
`None`, then by an account, `query_account_data` raises after one call, where the `Retrier`
calls again and returns the account. -/
theorem queryLoops_diverge_from_retrier (lib : Lib) :
    (∃ w', getBalance lib sampleLedger "fetch1" "atestfet"
        ⟨fun _ _ => .raise (Exc.raise (.other "RpcError") "unavailable"), [], none⟩ =
        .error (Exc.raise .broadcastException
          "Getting balance failed after multiple attempts: unavailable") w') ∧
    (∃ w', Retrier.callWithRetry
          { nRetries := 1, retryInterval := 2, callName := "Getting balance" }
          (call (.balance ⟨"fetch1", "atestfet"⟩))
          ⟨fun _ _ => .raise (Exc.raise (.other "RpcError") "unavailable"), [], none⟩ =
        .error ⟨.broadcastException, "Getting balance failed after multiple attempts: unavailable",
          some (Exc.raise (.other "RpcError") "unavailable")⟩ w') ∧
    (∃ w', queryAccountData { sampleLedger with nTotalMsgRetries := 2 } "fetch1"
          ⟨fun i c => if i = 0 then .none else match c with
            | .account _ => .value ⟨.baseAccount sampleAccount⟩
            | _ => .none, [], none⟩ =
        .error (Exc.raise .broadcastException
          "Getting account data failed after multiple attempts: None") w' ∧
      w'.trace.length = 1) ∧
    (∃ w', Retrier.callWithRetry
          { nRetries := 2, retryInterval := 2, callName := "Getting account data" }
          (call (.account ⟨"fetch1"⟩))
          ⟨fun i c => if i = 0 then .none else match c with
            | .account _ => .value ⟨.baseAccount sampleAccount⟩
            | _ => .none, [], none⟩ =
        .ok ⟨.baseAccount sampleAccount⟩ w' ∧ w'.trace.length = 2) :=
  ⟨⟨_, rfl⟩, ⟨_, rfl⟩, ⟨_, rfl, rfl⟩, ⟨_, rfl, rfl⟩⟩

end CosmosLedger

end Cosmpy
