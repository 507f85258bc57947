import Cosmpy.Polls

/-!
# No broadcast after a confirmation

A workflow that has its transaction confirmed (a `GetTx` poll answered with a response) must not
broadcast another one for the same call, or it may deploy, instantiate, execute or send twice.
`broadcast_tx` returns at the first confirmation.  `deploy_contract` and `execute_contract`
retry only on a `BroadcastException`, which a confirmed attempt never raises: `get_code_id` raises
other kinds.  `instantiate_contract` also retries on a `JSONDecodeError`, which
`get_contract_address` raises on a confirmed transaction whose raw log is not JSON, as the log of a
transaction that failed on chain is.  This file proves, for every reply of the node, that each of
them broadcasts nothing once a transaction is confirmed, `instantiate_contract` once one is
confirmed with a JSON log.

* `Event.confirmed?` is the response a poll got.  `StopsAt final evs`: no broadcast of `evs`
  comes after a confirmation of a response satisfying `final`.
* `callWithRetry_values`: a `Retrier` on a call appends calls to it and sleeps, and every answer
  with a value among them is the value it returns.
* `ConfirmsOnce x`: every run of `x` stops broadcasting at a confirmation, and confirms only the
  response it returns.  `broadcastTx_confirmsOnce`, `submitTx_confirmsOnce`.
* `sendLoop_stopsAt`, `executeLoop_stopsAt`: the workflow loops, and `workflows_stopAtConfirmation`
  for the five methods that broadcast one transaction.
-/

set_option autoImplicit false

namespace Cosmpy

open Ledger

/-! ## The scan -/

/-- The response a `GetTx` poll got: the node has confirmed the transaction. -/
def Event.confirmed? : Event → Option GetTxResponse
  | .call (.getTx _) (.value res) => some res
  | _ => none

/-- No broadcast of `evs` comes after a confirmation of a response satisfying `final`. -/
def StopsAt (final : GetTxResponse → Prop) : List Event → Prop
  | [] => True
  | e :: evs =>
    (∀ res ∈ e.confirmed?, final res → evs.countP Event.isBroadcast = 0) ∧ StopsAt final evs

section Scan

variable {final final' : GetTxResponse → Prop} {e : Event} {evs xs ys : List Event}

/-- A confirmation is a poll. -/
theorem Event.isPoll_of_confirmed {res : GetTxResponse} (h : e.confirmed? = some res) :
    e.isPoll = true := by
  match e, h with
  | .call (.getTx _) (.value _), _ => rfl

theorem Event.confirmed?_eq_none (h : e.isPoll = false) : e.confirmed? = none :=
  Option.eq_none_iff_forall_not_mem.2 fun _ hr => by
    rw [Event.isPoll_of_confirmed hr] at h
    cases h

theorem StopsAt.mono (h : ∀ res, final' res → final res) :
    ∀ {evs : List Event}, StopsAt final evs → StopsAt final' evs
  | [], _ => trivial
  | _ :: _, ⟨he, hevs⟩ => ⟨fun res hr hf => he res hr (h res hf), hevs.mono h⟩

/-- Events with no broadcast pass. -/
theorem stopsAt_of_countP (h : evs.countP Event.isBroadcast = 0) : StopsAt final evs := by
  induction evs with
  | nil => trivial
  | cons e evs ih =>
    have h' : evs.countP Event.isBroadcast = 0 :=
      List.countP_eq_zero.2 fun a ha => List.countP_eq_zero.1 h a (List.mem_cons_of_mem _ ha)
    exact ⟨fun _ _ _ => h', ih h'⟩

/-- Events with no final confirmation pass. -/
theorem stopsAt_of_not_final (h : ∀ e ∈ evs, ∀ res ∈ e.confirmed?, ¬ final res) :
    StopsAt final evs := by
  induction evs with
  | nil => trivial
  | cons e evs ih =>
    exact ⟨fun res hr hf => absurd hf (h e (List.mem_cons_self _ _) res hr),
      ih fun e' he' => h e' (List.mem_cons_of_mem _ he')⟩

/-- Events that pass, then events that pass, when the first confirm nothing final or the second
broadcast nothing. -/
theorem stopsAt_append (h₁ : StopsAt final xs) (h₂ : StopsAt final ys)
    (h : (∀ e ∈ xs, ∀ res ∈ e.confirmed?, ¬ final res) ∨ ys.countP Event.isBroadcast = 0) :
    StopsAt final (xs ++ ys) := by
  induction xs with
  | nil => exact h₂
  | cons e xs ih =>
    refine ⟨fun res hr hf => ?_,
      ih h₁.2 (h.imp_left fun h e' he' => h e' (List.mem_cons_of_mem _ he'))⟩
    show (xs ++ ys).countP Event.isBroadcast = 0
    rw [List.countP_append, h₁.1 res hr hf, Nat.zero_add]
    exact h.resolve_left fun h' => h' e (List.mem_cons_self _ _) res hr hf

/-- Events with no confirmation confirm whatever one likes. -/
theorem confirmed_of_eq_none {P : GetTxResponse → Prop} (h : ∀ e ∈ evs, e.confirmed? = none) :
    ∀ e ∈ evs, ∀ res ∈ e.confirmed?, P res := fun e he res hr => by
  rw [h e he] at hr
  cases hr

/-- Events with no confirmation pass, and every confirmation among them is whatever one likes. -/
theorem stopsAt_of_confirmed?_eq_none {P : GetTxResponse → Prop}
    (h : ∀ e ∈ evs, e.confirmed? = none) :
    StopsAt final evs ∧ ∀ e ∈ evs, ∀ res ∈ e.confirmed?, P res :=
  ⟨stopsAt_of_not_final (confirmed_of_eq_none h), confirmed_of_eq_none h⟩

end Scan

/-! ## A `Retrier` returns the value its call got -/

/-- A retry loop on `c` appends calls to `c` and sleeps, and every answer with a value among them
is the value it returns. -/
theorem retryLoop_values (s : Seconds) (c : Call) :
    ∀ (k : Nat) (le : Option Exc) (w : World), ∃ evs,
      (endWorld (retryLoop s (call c) k le none w)).trace = w.trace ++ evs ∧
      ∀ e ∈ evs, (∃ s', e = .sleep s') ∨ ∃ o, e = .call c o ∧
        ∀ v, o = .value v → ∃ le' w', retryLoop s (call c) k le none w = .ok (le', some v) w'
  | 0, _, _ => ⟨[], (List.append_nil _).symm, nofun⟩
  | k + 1, le, w => by
    cases h0 : w.replies 0 c with
    | value v₀ =>
      rw [retryLoop_succ_of_value s c h0]
      refine ⟨[.call c (.value v₀)], by simp [endWorld, World.afterAttempt, attemptEvents, h0],
        fun e he => .inr ⟨_, List.mem_singleton.1 he, fun v hv => ?_⟩⟩
      cases hv
      exact ⟨_, _, rfl⟩
    | none | raise _ =>
      rw [retryLoop_succ_of_isValue_false s c (by rw [h0]; rfl)]
      obtain ⟨evs, ht, hv⟩ := retryLoop_values s c k _ (w.afterAttempt c s)
      refine ⟨attemptEvents c s (w.replies 0 c) ++ evs, by
        rw [ht, World.afterAttempt, List.append_assoc], fun e he => ?_⟩
      rcases List.mem_append.1 he with he | he
      · rw [h0] at he
        simp only [attemptEvents, List.mem_cons, List.mem_singleton, List.not_mem_nil,
          or_false] at he
        first
          | exact .inr ⟨_, he, nofun⟩
          | rcases he with he | he
            exacts [.inr ⟨_, he, nofun⟩, .inl ⟨_, he⟩]
      · exact hv e he

/-- A `Retrier` on `c` appends calls to `c` and sleeps, and every answer with a value among them
is the value it returns. -/
theorem callWithRetry_values (r : Retrier) (c : Call) (w : World) : ∃ evs,
    (endWorld (r.callWithRetry (call c) w)).trace = w.trace ++ evs ∧
    ∀ e ∈ evs, (∃ s, e = .sleep s) ∨ ∃ o, e = .call c o ∧
      ∀ v, o = .value v → ∃ w', r.callWithRetry (call c) w = .ok v w' := by
  obtain ⟨evs, ht, hv⟩ := retryLoop_values r.retryInterval c r.nRetries.toNat none w
  obtain ⟨⟨le, res⟩, w₁, hl⟩ := retryLoop_isOk r.retryInterval (call c) r.nRetries.toNat none none w
  rw [hl] at ht hv
  refine ⟨evs, ?_, fun e he => (hv e he).imp_right fun ⟨o, he', ho⟩ => ⟨o, he', fun v hov => ?_⟩⟩
  · rw [Retrier.callWithRetry, bind_of_ok hl]
    cases res <;> exact ht
  · obtain ⟨_, _, h⟩ := ho v hov
    cases h
    exact ⟨w₁, by rw [Retrier.callWithRetry, bind_of_ok hl]; rfl⟩

/-! ## One transaction -/

/-- Every run of `x`, whether it returns or raises, broadcasts nothing after a confirmation, and
every confirmation it appends is of the response it returns. -/
def ConfirmsOnce (x : Ledger GetTxResponse) : Prop :=
  ∀ w, ∃ evs, (endWorld (x w)).trace = w.trace ++ evs ∧ StopsAt (fun _ => True) evs ∧
    ∀ e ∈ evs, ∀ res ∈ e.confirmed?, ∃ w', x w = .ok res w'

theorem ConfirmsOnce.stopsAt {x : Ledger GetTxResponse} {final : GetTxResponse → Prop}
    (hx : ConfirmsOnce x) : Appends (StopsAt final) x :=
  fun w => (hx w).imp fun _ ⟨ht, hs, _⟩ => ⟨ht, hs.mono fun _ _ => trivial⟩

/-- Events with no poll confirm nothing. -/
theorem confirmsNothing_of_countP {evs : List Event} (h : evs.countP Event.isPoll = 0) :
    ∀ e ∈ evs, e.confirmed? = none := fun e he =>
  Event.confirmed?_eq_none (by simpa using List.countP_eq_zero.1 h e he)

namespace CosmosLedger

variable (lib : Lib) (self : CosmosLedger)

/-- **A broadcast confirms only what it returns.**  Its broadcasts come before any poll and get no
confirmation; a rejection ends the call before any poll; every poll that gets a response ends
it, and that response is what the call returns. -/
theorem broadcastTx_confirmsOnce (tx : Tx) (retries : Option Int) :
    ConfirmsOnce (self.broadcastTx lib tx retries) := fun w => by
  obtain ⟨evs, ht, hb⟩ := callWithRetry_values
    (self.broadcastRetrier (retries.getD self.nTotalMsgRetries))
    (.broadcastTx (broadcastRequest lib tx)) w
  have hnone : ∀ e ∈ evs, e.confirmed? = none := fun e he => by
    rcases hb e he with ⟨_, rfl⟩ | ⟨_, rfl, -⟩ <;> rfl
  cases hr : (self.broadcastRetrier (retries.getD self.nTotalMsgRetries)).callWithRetry
      (call (.broadcastTx (broadcastRequest lib tx))) w with
  | error e w₁ =>
    rw [hr] at ht
    rw [broadcastTx, bind_of_error hr]
    exact ⟨evs, ht, stopsAt_of_confirmed?_eq_none hnone⟩
  | ok resp w₁ =>
    rw [hr] at ht
    change w₁.trace = w.trace ++ evs at ht
    rw [broadcastTx_of_response lib self hr]
    split
    · exact ⟨evs, ht, stopsAt_of_confirmed?_eq_none hnone⟩
    · obtain ⟨evs₂, ht₂, hg⟩ := callWithRetry_values self.getTxRetrier
        (.getTx ⟨resp.txResponse.txhash⟩) w₁
      have hnb : evs₂.countP Event.isBroadcast = 0 := List.countP_eq_zero.2 fun e he => by
        rcases hg e he with ⟨_, rfl⟩ | ⟨_, rfl, -⟩ <;> exact Bool.false_ne_true
      refine ⟨evs ++ evs₂, by rw [getTx, ht₂, ht, List.append_assoc],
        stopsAt_append (stopsAt_of_not_final (confirmed_of_eq_none hnone)) (stopsAt_of_countP hnb) (.inr hnb),
        fun e he res hres => ?_⟩
      rcases List.mem_append.1 he with he | he
      · rw [hnone e he] at hres
        cases hres
      · rcases hg e he with ⟨_, rfl⟩ | ⟨o, rfl, ho⟩
        · cases hres
        · cases o with
          | value v => cases hres; exact ho _ rfl
          | none | raise _ => cases hres

variable (crypto : CosmosCrypto) (gas : Nat)

/-- An attempt of a workflow, when building its message makes no poll: its account queries confirm
nothing, and its broadcast confirms only what it returns. -/
theorem submitTx_confirmsOnce {msg : Ledger ProtoAny} (hm : AddsAtMost Event.isPoll 0 msg) :
    ConfirmsOnce (self.submitTx lib msg crypto gas) := fun w => by
  have hp := self.prepareTx_addsAtMost lib hm (Event.outside_of_isPoll (by decide)) crypto gas
  rw [submitTx, bind_apply]
  cases hpw : self.prepareTx lib msg crypto gas w with
  | error e w₁ =>
    obtain ⟨evs, ht, hc⟩ := hp.of_error hpw
    exact ⟨evs, ht, stopsAt_of_confirmed?_eq_none (confirmsNothing_of_countP (Nat.le_zero.1 hc))⟩
  | ok tx w₁ =>
    obtain ⟨evs₁, ht₁, hc₁⟩ := hp.of_ok hpw
    have hn := confirmsNothing_of_countP (Nat.le_zero.1 hc₁)
    obtain ⟨evs₂, ht₂, hs₂, hv₂⟩ := self.broadcastTx_confirmsOnce lib tx none w₁
    refine ⟨evs₁ ++ evs₂, by rw [ht₂, ht₁, List.append_assoc],
      stopsAt_append (stopsAt_of_not_final (confirmed_of_eq_none hn)) hs₂
        (.inl (confirmed_of_eq_none hn)), fun e he res hres => ?_⟩
    rcases List.mem_append.1 he with he | he
    · rw [hn e he] at hres
      cases hres
    · exact hv₂ e he res hres

end CosmosLedger

/-! ## The loops -/

section Loops

variable {β : Type} {final : GetTxResponse → Prop} {interval : Seconds}
  (catches : ExcKind → Bool) {submit : Ledger GetTxResponse}
  (extract : GetTxResponse → Except Exc β)

/-- How an attempt ends, as the loop sees it: it stops broadcasting at a confirmation, and an
exception it catches comes after no final confirmation. -/
theorem attempt_confirms (hs : ConfirmsOnce submit)
    (hx : ∀ res e, extract res = .error e → catches e.kind = true → ¬ final res) (w : World) :
    ∃ o w₁ evs, attempt catches submit extract w = .ok o w₁ ∧ w₁.trace = w.trace ++ evs ∧
      StopsAt final evs ∧
      ∀ e r, o = .caught e r → ∀ ev ∈ evs, ∀ res ∈ ev.confirmed?, ¬ final res := by
  obtain ⟨evs, ht, hstop, hconf⟩ := hs w
  rw [attempt_apply]
  cases hsw : submit w with
  | error e w₁ =>
    rw [hsw] at ht hconf
    refine ⟨_, w₁, evs, rfl, ht, hstop.mono fun _ _ => trivial, fun _ _ _ ev hev r hr _ => ?_⟩
    obtain ⟨_, h⟩ := hconf ev hev r hr
    cases h
  | ok res w₁ =>
    rw [hsw] at ht hconf
    refine ⟨_, w₁, evs, rfl, ht, hstop.mono fun _ _ => trivial, fun e r ho ev hev r' hr' hf => ?_⟩
    obtain ⟨_, h⟩ := hconf ev hev r' hr'
    cases h
    split at ho
    · cases ho
    · exact hx _ _ ‹_› (AttemptEnd.ofExc_eq_caught ho).2 hf

/-- The workflow loop stops broadcasting at a confirmation it does not retry on. -/
theorem sendLoop_stopsAt (hs : ConfirmsOnce submit)
    (hx : ∀ res e, extract res = .error e → catches e.kind = true → ¬ final res) :
    ∀ k st, Appends (StopsAt final) (sendLoop interval catches submit extract k st)
  | 0, _ => appends_pure trivial _
  | k + 1, st => fun w => by
    cases hst : st.result with
    | some _ =>
      rw [sendLoop_of_isSome _ _ _ _ (by rw [hst]; rfl)]
      exact ⟨[], (List.append_nil _).symm, trivial⟩
    | none =>
      obtain ⟨o, w₁, evs, ho, ht, hstop, hcaught⟩ := attempt_confirms catches extract hs hx w
      cases o with
      | success res b =>
        rw [sendLoop_succ_of_success _ _ _ _ hst ho, sendLoop_of_isSome _ _ _ _
          (show ({ st with res := some res, result := some b } : SendState _).result.isSome from rfl)]
        exact ⟨evs, ht, hstop⟩
      | caught e r =>
        rw [sendLoop_succ_of_caught _ _ _ _ hst ho]
        obtain ⟨evs', ht', hs'⟩ := sendLoop_stopsAt hs hx k _
          { w₁ with trace := w₁.trace ++ [.sleep interval] }
        exact ⟨evs ++ .sleep interval :: evs', by rw [ht']; simp [ht],
          stopsAt_append hstop ⟨nofun, hs'⟩ (.inl (hcaught e r rfl))⟩
      | uncaught e =>
        rw [sendLoop_succ_of_uncaught _ _ _ _ hst ho]
        exact ⟨evs, ht, hstop⟩

/-- The loop of `execute_contract` retries only after a `try` that raised, which confirmed
nothing. -/
theorem executeLoop_stopsAt (self : CosmosLedger) (hs : ConfirmsOnce submit) :
    ∀ k res lastException, Appends (StopsAt final) (self.executeLoop submit k res lastException)
  | 0, _, _ => appends_pure trivial _
  | k + 1, _, _ => fun w => by
    obtain ⟨evs, ht, hstop, hconf⟩ := hs w
    rw [CosmosLedger.executeLoop, bind_apply, observe_apply]
    cases hsw : submit w with
    | ok res w₁ =>
      rw [hsw] at ht
      exact ⟨evs, ht, hstop.mono fun _ _ => trivial⟩
    | error e w₁ =>
      rw [hsw] at ht hconf
      change w₁.trace = w.trace ++ evs at ht
      dsimp only
      split
      · obtain ⟨evs', ht', hs'⟩ := executeLoop_stopsAt self hs k _ _
          { w₁ with trace := w₁.trace ++ [.sleep self.msgFailedRetryInterval] }
        refine ⟨evs ++ .sleep self.msgFailedRetryInterval :: evs', ?_,
          stopsAt_append (hstop.mono fun _ _ => trivial) ⟨nofun, hs'⟩
            (.inl fun ev hev r hr _ => ?_)⟩
        · show (endWorld ((sleep _ >>= fun _ => self.executeLoop submit k _ _) w₁)).trace = _
          rw [sleep_bind, ht']
          simp [ht]
        · obtain ⟨_, h⟩ := hconf ev hev r hr
          cases h
      · exact ⟨evs, ht, hstop.mono fun _ _ => trivial⟩

end Loops

/-! ## The workflows -/

namespace CosmosLedger

variable (lib : Lib) (self : CosmosLedger) (crypto : CosmosCrypto) (gas : Nat)

/-- **No broadcast after a confirmation.**  For every reply of the node and every run, whether it
returns or raises: `deploy_contract`, `execute_contract`, `send_funds` and `broadcast_tx`
broadcast nothing once one of their transactions is confirmed, so at most one of their
transactions is ever confirmed; `instantiate_contract` broadcasts nothing once one is confirmed
with a raw log that `json.loads` reads, and after a confirmation whose log it cannot read it
retries with a new transaction. -/
theorem workflows_stopAtConfirmation :
    (∀ contractFilename, Appends (StopsAt fun _ => True)
      (self.deployContract lib crypto contractFilename gas)) ∧
    (∀ codeId initMsg label, Appends (StopsAt fun res => ∃ t, lib.loads res.txResponse.rawLog = .ok t)
      (self.instantiateContract lib crypto codeId initMsg label gas)) ∧
    (∀ contractAddress executeMsg amount nRetries, Appends (StopsAt fun _ => True)
      (self.executeContract lib crypto contractAddress executeMsg gas amount nRetries)) ∧
    (∀ toAddress amountCoins, Appends (StopsAt fun _ => True)
      (self.sendFunds lib crypto toAddress amountCoins)) ∧
    (∀ tx retries, Appends (StopsAt fun _ => True) (self.broadcastTx lib tx retries)) := by
  have hpure : ∀ p : ProtoAny, AddsAtMost Event.isPoll 0 (pure p : Ledger ProtoAny) :=
    addsAtMost_pure
  refine ⟨fun contractFilename => ?_, fun codeId initMsg label => ?_,
    fun _ _ _ _ => appends_bind_nil (executeLoop_stopsAt self
      (self.submitTx_confirmsOnce lib crypto gas (hpure _)) _ _ _) fun
      | (some _, _) => appends_pure (by exact rfl) _
      | (none, _) => appends_throw (by exact rfl) _,
    fun _ _ => (self.submitTx_confirmsOnce lib crypto _ (hpure _)).stopsAt,
    fun _ _ => (self.broadcastTx_confirmsOnce lib _ _).stopsAt⟩
  · refine appends_bind_nil (sendLoop_stopsAt _ _ (self.submitTx_confirmsOnce lib crypto gas
      ((getPackedStoreMsg_emits lib _ _).addsAtMost (Event.outside_of_isPoll (by decide))))
      (fun _ _ h hc _ => ?_) _ _) fun st => ?_
    · simp only [catchesBroadcast, beq_iff_eq] at hc
      exact absurd (hc ▸ getCodeId_eq_error lib h) (by decide)
    · split
      exacts [appends_pure (by exact rfl) _, appends_throw (by exact rfl) _]
  · rw [instantiateContract, instantiateLoop_eq_sendLoop]
    refine appends_bind_nil (sendLoop_stopsAt _ _
      (self.submitTx_confirmsOnce lib crypto gas (hpure _)) (fun _ _ h hc ⟨t, ht⟩ => ?_) _ _)
      fun st => ?_
    · split
      exacts [appends_pure (by exact rfl) _, appends_throw (by exact rfl) _]
    · rw [getContractAddress_of_loads lib ht] at h
      split at h
      · rcases contractAddressOf_eq_error lib h with h | h <;>
          simp [catchesBroadcastOrDecode, h] at hc
      · cases h
        simp [catchesBroadcastOrDecode, Exc.raise] at hc

end CosmosLedger

end Cosmpy
