import Cosmpy.Submissions

/-!
# When the retries sleep

`call_with_retry` sleeps in its `except` clause, and so do the loops of the three contract
workflows.  So each of them sleeps right after an attempt that raised (an exception the loop
catches, for the workflows), the last attempt included, and after no other attempt: an attempt of
`call_with_retry` that returned `None` is made again at once.  The spec, and the `Retrier`'s own
docstring ("Length of sleep between retries"), have a sleep between two attempts instead.

* `callWithRetry_of_firstValue` and `callWithRetry_of_no_value` (in `Cosmpy.Retrier`) give the
  trace of a `Retrier` as `retryEvents`: each call, followed by a sleep if it raised.
* `CaughtRun w segs w'`: attempts that raise exceptions the loop catches, one after the other,
  each appending its segment of `segs` to the trace and followed at once by the loop's sleep.
  `FailedRun.caughtRun` reads it off a run of the loop, and `CaughtRun.trace` gives the trace.
* `SleepsAfterCaught k w r`: a workflow run is such a `CaughtRun`, then one attempt the loop did
  not catch, with no sleep after it, or nothing once all `k` attempts were caught.
  `RunsAs.sleepsAfterCaught` reads it off `RunsAs`.
* `sleep_after_each_raise`: the `Retrier` and the three workflows.  `sleeps_off_schedule`: two
  runs whose sleeps are not between attempts.
-/

set_option autoImplicit false

namespace Cosmpy

open Ledger

section Loop

variable {β : Type} (interval : Seconds) (catches : ExcKind → Bool) (submit : Ledger GetTxResponse)
  (extract : GetTxResponse → Except Exc β)

/-- `CaughtRun w segs w'`: from `w`, attempts that raise exceptions the loop catches append the
segments `segs` to the trace, in order, each followed at once by a sleep of `interval`, and end
in `w'`. -/
inductive CaughtRun : World → List (List Event) → World → Prop
  | nil (w : World) : CaughtRun w [] w
  | cons {w w₁ w' : World} {e : Exc} {res : Option GetTxResponse} {seg : List Event}
      {segs : List (List Event)} :
      attempt catches submit extract w = .ok (.caught e res) w₁ → w₁.trace = w.trace ++ seg →
      CaughtRun { w₁ with trace := w₁.trace ++ [.sleep interval] } segs w' →
      CaughtRun w (seg :: segs) w'

/-- The trace of a workflow run from `w` that ended in `r`, with a budget of `k` attempts: the
segments of attempts that raised an exception the loop catches, each followed at once by a sleep
of `interval`; then either the segment `last` of one more attempt, which the loop did not catch,
with no sleep after it, or, when all `k` attempts were caught, nothing. -/
def SleepsAfterCaught {γ : Type} (k : Nat) (w : World) (r : EStateM.Result Exc World γ) : Prop :=
  ∃ segs w₁ last, CaughtRun interval catches submit extract w segs w₁ ∧
    (endWorld r).trace = w.trace ++ (segs.map (· ++ [.sleep interval])).flatten ++ last ∧
    ((segs.length < k ∧ ∃ o, attempt catches submit extract w₁ = .ok o (endWorld r) ∧
        (∀ e res, o ≠ .caught e res) ∧ (endWorld r).trace = w₁.trace ++ last) ∨
      (segs.length = k ∧ endWorld r = w₁ ∧ last = []))

variable {interval catches submit extract}

theorem CaughtRun.trace {w w' : World} {segs : List (List Event)}
    (h : CaughtRun interval catches submit extract w segs w') :
    w'.trace = w.trace ++ (segs.map (· ++ [.sleep interval])).flatten := by
  induction h with
  | nil => exact (List.append_nil _).symm
  | cons _ hseg _ ih => simp [ih, hseg]

/-- An attempt appends to the trace, whatever it appends, when its submission does. -/
theorem attempt_appends_any (hs : Appends (fun _ => True) submit) :
    Appends (fun _ => True) (attempt catches submit extract) :=
  Concat.attempt_appends catches extract ⟨trivial, fun _ _ => trivial⟩ hs

/-- **A run of caught attempts, segment by segment.** -/
theorem FailedRun.caughtRun (hs : Appends (fun _ => True) submit) {m : Nat}
    {st st' : SendState β} {w w' : World}
    (h : FailedRun interval catches submit extract m st w st' w') :
    ∃ segs, segs.length = m ∧ CaughtRun interval catches submit extract w segs w' := by
  induction h with
  | zero => exact ⟨[], rfl, .nil _⟩
  | succ ha _ ih =>
    obtain ⟨segs, hl, hr⟩ := ih
    obtain ⟨seg, hseg, -⟩ := (attempt_appends_any hs).of_ok ha
    exact ⟨seg :: segs, by rw [List.length_cons, hl], .cons ha hseg hr⟩

/-- A workflow run, as `RunsAs` gives it, is on the trace a sleep after each caught attempt. -/
theorem RunsAs.sleepsAfterCaught {γ : Type} (hs : Appends (fun _ => True) submit) {k : Nat}
    {w : World} {finish : GetTxResponse → β → γ} {exhausted : SendState β → Exc}
    {r : EStateM.Result Exc World γ}
    (h : RunsAs interval catches submit extract k w finish exhausted r) :
    SleepsAfterCaught interval catches submit extract k w r := by
  have hlast : ∀ {m st₁ w₁ o w₂}, FailedRun interval catches submit extract m {} w st₁ w₁ → m < k →
      attempt catches submit extract w₁ = .ok o w₂ → (∀ e res, o ≠ .caught e res) →
      ∀ r' : EStateM.Result Exc World γ, endWorld r' = w₂ →
        SleepsAfterCaught interval catches submit extract k w r' := fun hr hm ha ho r' hr' => by
    obtain ⟨segs, hl, hc⟩ := hr.caughtRun hs
    obtain ⟨last, hlast, -⟩ := (attempt_appends_any hs).of_ok ha
    subst hr'
    exact ⟨segs, _, last, hc, by rw [hlast, hc.trace], .inl ⟨hl ▸ hm, _, ha, ho, hlast⟩⟩
  rcases h with ⟨m, hm, _, _, _, _, _, hr, ha, rfl⟩ | ⟨m, hm, _, _, _, _, hr, ha, -, rfl⟩ |
    ⟨_, w₁, hr, rfl⟩
  · exact hlast hr hm ha nofun _ rfl
  · exact hlast hr hm ha nofun _ rfl
  · obtain ⟨segs, hl, hc⟩ := hr.caughtRun hs
    exact ⟨segs, w₁, [], hc, by rw [endWorld, hc.trace, List.append_nil], .inr ⟨hl, rfl, rfl⟩⟩

end Loop

/-- A node whose first call raises and which answers every later `GetTx` poll. -/
def flakyTxWorld : World :=
  ⟨fun i c => if i = 0 then .raise (Exc.raise (.other "RpcError") "unavailable") else
    match c with
    | .getTx _ => .value ⟨⟨"h", 0, ""⟩⟩
    | _ => .none, [], none⟩

namespace CosmosLedger

/-- A submission appends to the trace. -/
theorem submitTx_appends_any (lib : Lib) (self : CosmosLedger) (crypto : CosmosCrypto) (gas : Nat)
    {ks : List CallKind} {msg : Ledger ProtoAny} (hm : Emits ks msg) :
    Appends (fun _ => True) (self.submitTx lib msg crypto gas) :=
  Appends.mono (self.submitTx_emits lib crypto gas hm) fun _ _ => trivial

/-- **When the retries sleep.**  `call_with_retry` leaves, for each attempt, the call and then a
sleep of `retry_interval` if the attempt raised, whether it was the last one or not, and nothing
after an attempt that returned `None`; so it sleeps as many times as its attempts raised.  Each
run of `deploy_contract`, `instantiate_contract` and `execute_contract` is, on the trace, its
attempts that raised an exception the loop catches, each followed at once by a sleep of
`msg_failed_retry_interval`, the last one included, and then one attempt the loop did not catch,
with no sleep after it, unless all the attempts of the budget were caught. -/
theorem sleep_after_each_raise (r : Retrier) (c : Call) (w : World) :
    (∀ j v, j < r.nRetries.toNat → (∀ i < j, (w.replies i c).isValue = false) →
      w.replies j c = .value v →
      ∃ w', r.callWithRetry (call c) w = .ok v w' ∧
        w'.trace = w.trace ++ retryEvents c r.retryInterval (j + 1) fun i => w.replies i c) ∧
    ((∀ j < r.nRetries.toNat, (w.replies j c).isValue = false) →
      ∃ e w', r.callWithRetry (call c) w = .error e w' ∧
        w'.trace = w.trace ++ retryEvents c r.retryInterval r.nRetries.toNat fun i => w.replies i c) ∧
    (∀ m (outs : Nat → Reply c.Resp), (retryEvents c r.retryInterval m outs).countP Event.isSleep =
      ((List.range m).filter fun i => (outs i).isRaise).length) ∧
    (∀ (lib : Lib) (self : CosmosLedger) senderCrypto gas,
      (∀ contractFilename, SleepsAfterCaught self.msgFailedRetryInterval catchesBroadcast
        (self.submitTx lib (getPackedStoreMsg lib senderCrypto.address contractFilename)
          senderCrypto gas) (getCodeId lib) self.nTotalMsgRetries.toNat w
        (self.deployContract lib senderCrypto contractFilename gas w)) ∧
      (∀ codeId initMsg label, SleepsAfterCaught self.msgFailedRetryInterval
        catchesBroadcastOrDecode (self.submitTx lib (pure (getPackedInitMsg lib
          senderCrypto.address codeId initMsg label none)) senderCrypto gas)
        (getContractAddress lib) self.nTotalMsgRetries.toNat w
        (self.instantiateContract lib senderCrypto codeId initMsg label gas w)) ∧
      (∀ contractAddress executeMsg amount (nRetries : Option Int), SleepsAfterCaught
        self.msgFailedRetryInterval catchesBroadcast (self.submitTx lib (pure (getPackedExecMsg
          lib senderCrypto.address contractAddress executeMsg amount)) senderCrypto gas) pure
        (nRetries.getD self.nSendingRetries).toNat w
        (self.executeContract lib senderCrypto contractAddress executeMsg gas amount nRetries w))) := by
  refine ⟨fun j v hj hpre hv => ⟨_, Retrier.callWithRetry_of_firstValue r c hj hpre hv,
      World.afterAttempts_trace _ _ _ _⟩,
    fun h => ⟨_, _, Retrier.callWithRetry_of_no_value r c h, World.afterAttempts_trace _ _ _ _⟩,
    retryEvents_sleeps c _, fun lib self senderCrypto gas => ⟨fun contractFilename => ?_,
      fun codeId initMsg label => ?_, fun contractAddress executeMsg amount nRetries => ?_⟩⟩
  · exact (deployContract_runsAs lib self senderCrypto gas w contractFilename).sleepsAfterCaught
      (submitTx_appends_any lib self senderCrypto gas (getPackedStoreMsg_emits lib _ _))
  · exact (instantiateContract_runsAs lib self senderCrypto gas w codeId initMsg
      label).sleepsAfterCaught
      (submitTx_appends_any lib self senderCrypto gas (show Emits [] _ from addsAtMost_pure _))
  · exact (executeContract_runsAs lib self senderCrypto gas w contractAddress executeMsg amount
      nRetries).sleepsAfterCaught
      (submitTx_appends_any lib self senderCrypto gas (show Emits [] _ from addsAtMost_pure _))

/-- A `Retrier` with two attempts on `GetTx`, the first raising and the second answered: the
trace is the first call, its sleep, and the second call. -/
theorem sleep_after_each_raise_flaky :
    ∃ w', ({ nRetries := 2, retryInterval := 1 } : Retrier).callWithRetry (call (.getTx ⟨"h"⟩))
        flakyTxWorld = .ok ⟨⟨"h", 0, ""⟩⟩ w' ∧
      w'.trace = [.call (.getTx ⟨"h"⟩) (.raise (Exc.raise (.other "RpcError") "unavailable")),
        .sleep 1, .call (.getTx ⟨"h"⟩) (.value ⟨⟨"h", 0, ""⟩⟩)] :=
  (sleep_after_each_raise { nRetries := 2, retryInterval := 1 } (.getTx ⟨"h"⟩) flakyTxWorld).1 1
    ⟨⟨"h", 0, ""⟩⟩ (by decide) (fun i hi => by rw [Nat.lt_one_iff.1 hi]; rfl) rfl

/-- A node that takes no transaction: it rejects every broadcast with code `5`. -/
def rejectingWorld : World :=
  ⟨fun _ c => match c with
    | .readFile _ => .value []
    | .account _ => .value ⟨.baseAccount sampleAccount⟩
    | .broadcastTx _ => .value ⟨⟨"h", 5, "insufficient fees"⟩⟩
    | _ => .none, [], none⟩

/-- Two runs whose sleeps are not between attempts.  A `Retrier` with two attempts on `GetTx`,
the first answered by `None` and the second raising, makes both calls with no sleep between them
and sleeps once after the last.  `deploy_contract` with the default budget of one attempt,
against a node that rejects the transaction, makes that one attempt (one broadcast) and then
sleeps `msg_failed_retry_interval` before it raises. -/
theorem sleeps_off_schedule :
    (∃ e w', ({ nRetries := 2, retryInterval := 1 } : Retrier).callWithRetry
        (call (.getTx ⟨"h"⟩))
        ⟨fun i _ => if i = 0 then .none else .raise (Exc.raise (.other "RpcError") "unavailable"),
          [], none⟩ = .error e w' ∧
      w'.trace = [.call (.getTx ⟨"h"⟩) .none,
        .call (.getTx ⟨"h"⟩) (.raise (Exc.raise (.other "RpcError") "unavailable")), .sleep 1]) ∧
    (∃ e w', sampleLedger.deployContract sampleLib sampleCrypto "contract.wasm"
        defaultGasLimit rejectingWorld = .error e w' ∧
      w'.trace.countP Event.isBroadcast = 1 ∧ w'.trace.countP Event.isSleep = 1 ∧
      w'.trace.getLast? = some (.sleep sampleLedger.msgFailedRetryInterval)) :=
  ⟨⟨_, _, rfl, rfl⟩, ⟨_, _, rfl, rfl, rfl, rfl⟩⟩

end CosmosLedger

end Cosmpy
