import Cosmpy.Submissions

/-!
# When every account query fails

Every transaction the workflows send starts with `query_account_data` on the sender, inside
`generate_tx`.  When every `Account` query raises (the node cannot be reached, or the sender has
no account on chain yet), no transaction can be built.  This file proves what each workflow then
does, for every such node: `send_funds` raises the `BroadcastException` of
`query_account_data`, which quotes the last query's exception; `deploy_contract`,
`instantiate_contract` and `execute_contract` spend their budgets and raise their own
`BroadcastException`, whose message quotes that one; and none of them broadcasts.

* `AccountsDown replies`: every pending `Account` reply raises, and the contract file can be
  read.  `accountDataFailed e`: what `query_account_data` raises once its last query raised `e`.
* `FailsOnAccounts f x`: from every world whose account queries all raise, `x` raises `f e`,
  where `e` is what one of the account queries it made raised, and broadcasts nothing.
  `ReturnsWhileDown x`: `x` returns there, and broadcasts nothing.
* `queryAccountDataLoop_down`, `sendLoop_failsOnAccounts`, `executeLoop_failsOnAccounts`: the
  loops, when every attempt fails.
* `workflows_failOnAccounts`: the four workflows that sign a transaction.
-/

set_option autoImplicit false

namespace Cosmpy

open Ledger

/-- Every pending `Account` reply of the node raises, and the file system still answers. -/
structure AccountsDown (replies : Nat → (c : Call) → Reply c.Resp) : Prop where
  /-- Every `Account` query raises. -/
  account : ∀ i req, ∃ e, replies i (.account req) = .raise e
  /-- Every file can be read. -/
  readFile : ∀ i path, ∃ data, replies i (.readFile path) = .value data

theorem AccountsDown.shift {replies : Nat → (c : Call) → Reply c.Resp}
    (h : AccountsDown replies) : AccountsDown fun i => replies (i + 1) :=
  ⟨fun i => h.account (i + 1), fun i => h.readFile (i + 1)⟩

/-- What `query_account_data` raises once every query has raised, the last one `e`. -/
def accountDataFailed (e : Exc) : Exc :=
  Exc.raise .broadcastException
    ("Getting account data failed after multiple attempts: " ++ Exc.str (some e))

/-- From every world whose account queries all raise, `x` returns, broadcasts nothing, and
leaves the account queries raising. -/
def ReturnsWhileDown {α : Type} (x : Ledger α) : Prop :=
  ∀ w, AccountsDown w.replies → ∃ a w', x w = .ok a w' ∧ AccountsDown w'.replies ∧
    ∃ evs, w'.trace = w.trace ++ evs ∧ evs.countP Event.isBroadcast = 0

/-- From every world whose account queries all raise, `x` raises `f e`, where `e` is what one of
the account queries it made raised; it broadcasts nothing, and leaves the account queries
raising. -/
def FailsOnAccounts {α : Type} (f : Exc → Exc) (x : Ledger α) : Prop :=
  ∀ w, AccountsDown w.replies → ∃ e w', x w = .error (f e) w' ∧ AccountsDown w'.replies ∧
    ∃ evs, w'.trace = w.trace ++ evs ∧ evs.countP Event.isBroadcast = 0 ∧
      ∃ req, Event.call (.account req) (.raise e) ∈ evs

section Combinators

variable {α β : Type} {f : Exc → Exc}

theorem returnsWhileDown_pure (a : α) : ReturnsWhileDown (pure a : Ledger α) :=
  fun w hw => ⟨a, w, rfl, hw, [], (List.append_nil _).symm, rfl⟩

/-- An exception ends the run: what follows it is never run. -/
theorem FailsOnAccounts.bind {x : Ledger α} (hx : FailsOnAccounts f x) (g : α → Ledger β) :
    FailsOnAccounts f (x >>= g) :=
  fun w hw => (hx w hw).imp fun _ ⟨w', h, rest⟩ => ⟨w', bind_of_error h, rest⟩

theorem ReturnsWhileDown.bind {x : Ledger α} {g : α → Ledger β} (hx : ReturnsWhileDown x)
    (hg : ∀ a, FailsOnAccounts f (g a)) : FailsOnAccounts f (x >>= g) := fun w hw => by
  obtain ⟨a, w₁, h₁, hw₁, evs₁, ht₁, hn₁⟩ := hx w hw
  obtain ⟨e, w₂, h₂, hw₂, evs₂, ht₂, hn₂, req, hmem⟩ := hg a w₁ hw₁
  exact ⟨e, w₂, by rw [bind_of_ok h₁, h₂], hw₂, evs₁ ++ evs₂, by rw [ht₂, ht₁, List.append_assoc],
    by rw [List.countP_append, hn₁, hn₂], req, List.mem_append_right _ hmem⟩

end Combinators

namespace CosmosLedger

variable (lib : Lib) (self : CosmosLedger)

/-! ## Building a transaction -/

/-- The loop of `query_account_data` on a node whose account queries all raise: it spends its
budget and keeps the last exception. -/
theorem queryAccountDataLoop_down (address : String) :
    ∀ (k : Nat) (le : Option Exc) (accountResponse : Option QueryAccountResponse) (w : World),
      AccountsDown w.replies → ∃ e w',
        self.queryAccountDataLoop address (k + 1) le accountResponse w =
          .ok (some e, accountResponse) w' ∧ AccountsDown w'.replies ∧
        ∃ evs, w'.trace = w.trace ++ evs ∧ evs.countP Event.isBroadcast = 0 ∧
          Event.call (.account ⟨address⟩) (.raise e) ∈ evs
  | k, le, accountResponse, w, hw => by
    obtain ⟨e, he⟩ := hw.account 0 ⟨address⟩
    rw [queryAccountDataLoop_succ_of_raise self address he]
    have hstep : (w.afterAttempt (.account ⟨address⟩) self.msgRetryInterval).trace =
        w.trace ++ [.call (.account ⟨address⟩) (.raise e), .sleep self.msgRetryInterval] := by
      rw [World.afterAttempt, he]
      rfl
    cases k with
    | zero =>
      exact ⟨e, _, rfl, hw.shift, _, hstep, rfl, List.mem_cons_self _ _⟩
    | succ k =>
      obtain ⟨e', w', h, hw', evs, ht, hn, hmem⟩ :=
        queryAccountDataLoop_down address k (some e) accountResponse
          (w.afterAttempt (.account ⟨address⟩) self.msgRetryInterval) hw.shift
      exact ⟨e', w', h, hw', [.call (.account ⟨address⟩) (.raise e), .sleep self.msgRetryInterval] ++
        evs, by rw [ht, hstep, List.append_assoc], by rw [List.countP_append, hn]; rfl,
        List.mem_append_right _ hmem⟩

/-- `get_packed_store_msg` reads the file, and broadcasts nothing. -/
theorem getPackedStoreMsg_returnsWhileDown (senderAddress contractFilename : String) :
    ReturnsWhileDown (getPackedStoreMsg lib senderAddress contractFilename) := fun w hw => by
  obtain ⟨data, hd⟩ := hw.readFile 0 contractFilename
  rw [getPackedStoreMsg, bind_of_ok (call_of_value hd)]
  exact ⟨_, _, rfl, hw.shift, [.call (.readFile contractFilename) (.value data)],
    by rw [World.afterCall, hd], rfl⟩

variable (hm : 0 < self.nTotalMsgRetries)
include hm

/-- `query_account_data` raises its `BroadcastException`, quoting the last query's exception. -/
theorem queryAccountData_failsOnAccounts (address : String) :
    FailsOnAccounts accountDataFailed (self.queryAccountData address) := fun w hw => by
  obtain ⟨k, hk⟩ : ∃ k, self.nTotalMsgRetries.toNat = k + 1 :=
    ⟨_, (Nat.succ_pred_eq_of_pos (by omega)).symm⟩
  obtain ⟨e, w', h, hw', evs, ht, hn, hmem⟩ :=
    self.queryAccountDataLoop_down address k none none w hw
  rw [queryAccountData, hk, bind_of_ok h]
  exact ⟨e, w', rfl, hw', evs, ht, hn, _, hmem⟩

/-- `generate_tx` for one signer fails on the signer's account query. -/
theorem generateTx_failsOnAccounts (packedMsgs : List ProtoAny) (address : String)
    (pubKey : Bytes) (fee : Option (List Coin)) (memo : String) (gasLimit : Nat) :
    FailsOnAccounts accountDataFailed
      (self.generateTx packedMsgs [address] [pubKey] fee memo gasLimit) :=
  (((self.queryAccountData_failsOnAccounts hm address).bind _).bind _ : FailsOnAccounts _
    ((self.querySignerInfos [(address, pubKey)]) >>= _))

theorem submitTx_failsOnAccounts {msg : Ledger ProtoAny} (hmsg : ReturnsWhileDown msg)
    (crypto : CosmosCrypto) (gas : Nat) :
    FailsOnAccounts accountDataFailed (self.submitTx lib msg crypto gas) :=
  (hmsg.bind fun _ => (self.generateTx_failsOnAccounts hm _ _ _ _ _ _).bind _).bind _

end CosmosLedger

/-! ## The loops -/

section Loops

variable {β : Type} {f : Exc → Exc} (interval : Seconds) (catches : ExcKind → Bool)
  {submit : Ledger GetTxResponse} (extract : GetTxResponse → Except Exc β)

/-- When every attempt fails on the account queries with an exception the loop catches, the
loop spends its budget and keeps the last attempt's exception. -/
theorem sendLoop_failsOnAccounts (hs : FailsOnAccounts f submit)
    (hc : ∀ e, catches (f e).kind = true) :
    ∀ (k : Nat) (st : SendState β) (w : World), AccountsDown w.replies → st.result = none →
      ∃ e w', sendLoop interval catches submit extract (k + 1) st w =
          .ok { st with lastException := some (f e) } w' ∧ AccountsDown w'.replies ∧
        ∃ evs, w'.trace = w.trace ++ evs ∧ evs.countP Event.isBroadcast = 0 ∧
          ∃ req, Event.call (.account req) (.raise e) ∈ evs
  | k, st, w, hw, hst => by
    obtain ⟨e, w₁, hsub, hw₁, evs, ht, hn, hmem⟩ := hs w hw
    have ha : attempt catches submit extract w = .ok (.caught (f e) none) w₁ := by
      rw [attempt_apply, hsub]
      simp [AttemptEnd.ofExc, hc]
    rw [sendLoop_succ_of_caught _ _ _ _ hst ha]
    cases k with
    | zero =>
      exact ⟨e, _, rfl, hw₁, evs ++ [.sleep interval], by rw [ht, List.append_assoc], by
        rw [List.countP_append, hn]; rfl, hmem.imp fun _ h => List.mem_append_left _ h⟩
    | succ k =>
      obtain ⟨e', w', h, hw', evs', ht', hn', hmem'⟩ := sendLoop_failsOnAccounts hs hc k
        { st with res := none.or st.res, lastException := some (f e) }
        { w₁ with trace := w₁.trace ++ [.sleep interval] } hw₁ hst
      exact ⟨e', w', h, hw', evs ++ .sleep interval :: evs', by simp [ht', ht], by
        simp [List.countP_append, hn, hn', Event.isBroadcast],
        hmem'.imp fun _ h => List.mem_append_right _ (List.mem_cons_of_mem _ h)⟩

/-- The loop of `execute_contract`, when every attempt fails on the account queries with a
`BroadcastException`: it spends its budget and keeps the last attempt's exception. -/
theorem executeLoop_failsOnAccounts (self : CosmosLedger) (hs : FailsOnAccounts f submit)
    (hk : ∀ e, (f e).kind = .broadcastException) :
    ∀ (k : Nat) (res : Option GetTxResponse) (lastException : Option Exc) (w : World),
      AccountsDown w.replies →
      ∃ e w', self.executeLoop submit (k + 1) res lastException w = .ok (res, some (f e)) w' ∧
        AccountsDown w'.replies ∧
        ∃ evs, w'.trace = w.trace ++ evs ∧ evs.countP Event.isBroadcast = 0 ∧
          ∃ req, Event.call (.account req) (.raise e) ∈ evs
  | k, res, lastException, w, hw => by
    obtain ⟨e, w₁, hsub, hw₁, evs, ht, hn, hmem⟩ := hs w hw
    rw [CosmosLedger.executeLoop, bind_of_ok (observe_of_error hsub)]
    dsimp only
    rw [if_pos (hk e), sleep_bind]
    cases k with
    | zero =>
      exact ⟨e, _, rfl, hw₁, evs ++ [.sleep self.msgFailedRetryInterval],
        by rw [ht, List.append_assoc], by rw [List.countP_append, hn]; rfl,
        hmem.imp fun _ h => List.mem_append_left _ h⟩
    | succ k =>
      obtain ⟨e', w', h, hw', evs', ht', hn', hmem'⟩ := executeLoop_failsOnAccounts self hs hk k
        res (some (f e)) { w₁ with trace := w₁.trace ++ [.sleep self.msgFailedRetryInterval] } hw₁
      exact ⟨e', w', h, hw', evs ++ .sleep self.msgFailedRetryInterval :: evs',
        by simp [ht', ht], by simp [List.countP_append, hn, hn', Event.isBroadcast],
        hmem'.imp fun _ h => List.mem_append_right _ (List.mem_cons_of_mem _ h)⟩

end Loops

/-! ## The workflows -/

namespace CosmosLedger

variable (lib : Lib) (self : CosmosLedger)

/-- A node that cannot be reached: every call to it raises, and only the file system answers. -/
def unreachableWorld : World :=
  ⟨fun _ c => match c with
    | .readFile _ => .value []
    | _ => .raise (Exc.raise (.other "ConnectionError") "Connection refused"), [], none⟩

/-- **When every account query fails.**  On a node that raises on every `Account` query, and with
a budget of at least one query, no workflow broadcasts anything.  `send_funds` raises the
`BroadcastException` of `query_account_data`, which quotes the exception of the last account
query; `deploy_contract`, `instantiate_contract` and `execute_contract` (with a budget of at least
one attempt) spend their budgets and raise their own `BroadcastException` with that one quoted in
its message (and, for `execute_contract`, as its `__cause__`).  The quoted exception is one an
account query of the run got. -/
theorem workflows_failOnAccounts (crypto : CosmosCrypto) (gas : Nat)
    (hm : 0 < self.nTotalMsgRetries) :
    (∀ toAddress amountCoins, FailsOnAccounts accountDataFailed
      (self.sendFunds lib crypto toAddress amountCoins)) ∧
    (∀ contractFilename, FailsOnAccounts (fun e => deployFailed (some (accountDataFailed e)))
      (self.deployContract lib crypto contractFilename gas)) ∧
    (∀ codeId initMsg label,
      FailsOnAccounts (fun e => instantiateFailed (some (accountDataFailed e)) none)
        (self.instantiateContract lib crypto codeId initMsg label gas)) ∧
    (∀ contractAddress executeMsg amount nRetries, 0 < nRetries.getD self.nSendingRetries →
      FailsOnAccounts (fun e => executeFailed (some (accountDataFailed e)))
        (self.executeContract lib crypto contractAddress executeMsg gas amount nRetries)) := by
  obtain ⟨k, hk⟩ : ∃ k, self.nTotalMsgRetries.toNat = k + 1 :=
    ⟨_, (Nat.succ_pred_eq_of_pos (by omega)).symm⟩
  have hpure := fun p => self.submitTx_failsOnAccounts lib hm (returnsWhileDown_pure p) crypto gas
  refine ⟨fun _ _ => self.submitTx_failsOnAccounts lib hm (returnsWhileDown_pure _) crypto _,
    fun contractFilename w hw => ?_, fun _ _ _ w hw => ?_, fun _ _ _ nRetries hn w hw => ?_⟩
  · obtain ⟨e, w', h, rest⟩ := sendLoop_failsOnAccounts self.msgFailedRetryInterval catchesBroadcast (getCodeId lib)
      (self.submitTx_failsOnAccounts lib hm (getPackedStoreMsg_returnsWhileDown lib _ _) crypto gas)
      (fun _ => rfl) k {} w hw rfl
    rw [deployContract, hk, bind_of_ok h]
    exact ⟨e, w', rfl, rest⟩
  · obtain ⟨e, w', h, rest⟩ := sendLoop_failsOnAccounts self.msgFailedRetryInterval catchesBroadcastOrDecode
      (getContractAddress lib) (hpure _)
      (fun _ => rfl) k {} w hw rfl
    rw [instantiateContract, instantiateLoop_eq_sendLoop, hk, bind_of_ok h]
    exact ⟨e, w', rfl, rest⟩
  · obtain ⟨j, hj⟩ : ∃ j, (nRetries.getD self.nSendingRetries).toNat = j + 1 :=
      ⟨_, (Nat.succ_pred_eq_of_pos (by omega)).symm⟩
    obtain ⟨e, w', h, rest⟩ := executeLoop_failsOnAccounts self (hpure _) (fun _ => rfl) j none
      none w hw
    rw [executeContract, hj, bind_of_ok h]
    exact ⟨e, w', rfl, rest⟩

theorem workflows_failOnAccounts_unreachable :
    0 < sampleLedger.nTotalMsgRetries ∧
      ∃ e w', sampleLedger.sendFunds sampleLib sampleCrypto "fetch1" [] unreachableWorld =
        .error (accountDataFailed e) w' := by
  have hm : 0 < sampleLedger.nTotalMsgRetries := by decide
  obtain ⟨e, w', h, -⟩ := (workflows_failOnAccounts sampleLib sampleLedger sampleCrypto 0 hm).1
    "fetch1" [] unreachableWorld ⟨fun _ _ => ⟨_, rfl⟩, fun _ _ => ⟨_, rfl⟩⟩
  exact ⟨hm, e, w', h⟩

end CosmosLedger

end Cosmpy
