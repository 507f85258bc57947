import Cosmpy.Submissions

/-!
# Polls ask only for the transaction the node accepted

`broadcast_tx` polls `GetTx` only once the node has answered the broadcast with code `0`
(`CLIENT_CODE_MESSAGE_SUCCESSFUL`), and only for the `txhash` of that answer: a rejected
transaction raises before any poll.  Every workflow builds, signs and broadcasts its own
transaction before it polls.  This file proves, for every reply of the node, that over a whole
session of calls to the client other than `get_tx` itself, every `GetTx` request asks for the
hash that the node returned, with code `0`, in its answer to the last broadcast before the
request.  So the client never polls for a transaction the node rejected, nor before a broadcast,
nor for the transaction of an earlier broadcast.

* `Event.acceptedHash` is the state of a scan of the trace: the hash of the last broadcast, when
  the node accepted it.  `PollsAccepted last evs` says that every poll of `evs` asks for it.
* `PollsAccepted none` holds of no events and is kept by `++` (`concat_pollsAccepted`), so
  `PollsOnlyAccepted x`, which says it of every run of `x`, is kept by `bind` and by the loops.
* `broadcastTx_pollsOnlyAccepted`: a broadcast polls only for the hash its own answer accepted.
* `runSession_pollsOnlyAccepted`: the whole session.
-/

set_option autoImplicit false

namespace Cosmpy

open Ledger

/-! ## The scan -/

/-- The hash a `GetTx` request asks for. -/
def Event.polledHash? : Event → Option String
  | .call (.getTx request) _ => some request.hash
  | _ => none

/-- The event is a `GetTx` request. -/
def Event.isPoll (e : Event) : Bool := e.polledHash?.isSome

/-- The hash of a broadcast the node accepted: the `txhash` of its answer, when the answer's code
is `CLIENT_CODE_MESSAGE_SUCCESSFUL`. -/
def Event.accepted? : Event → Option String
  | .call (.broadcastTx _) (.value res) =>
    if res.txResponse.code = clientCodeMessageSuccessful then some res.txResponse.txhash else none
  | _ => none

/-- The hash the client may poll for once `e` has happened, `last` before it: a broadcast sets it
to the hash the node accepted, or clears it, and nothing else changes it. -/
def Event.acceptedHash (last : Option String) (e : Event) : Option String :=
  if e.isBroadcast then e.accepted? else last

/-- Every `GetTx` request of `evs` asks for the hash of the last broadcast before it, which the node
accepted; `last` is the hash accepted before `evs`. -/
def PollsAccepted : Option String → List Event → Prop
  | _, [] => True
  | last, e :: evs =>
    (∀ h ∈ e.polledHash?, last = some h) ∧ PollsAccepted (e.acceptedHash last) evs

instance PollsAccepted.decidable : ∀ last evs, Decidable (PollsAccepted last evs)
  | _, [] => isTrue trivial
  | last, e :: evs =>
    have := PollsAccepted.decidable (e.acceptedHash last) evs
    inferInstanceAs (Decidable ((∀ h ∈ e.polledHash?, last = some h) ∧ _))

/-- A poll right after a broadcast the node rejected does not pass; one after it accepted does. -/
example : ¬ PollsAccepted none
    [.call (.broadcastTx ⟨[], .sync⟩) (.value ⟨⟨"A", 5, ""⟩⟩), .call (.getTx ⟨"A"⟩) .none] ∧
    PollsAccepted none
      [.call (.broadcastTx ⟨[], .sync⟩) (.value ⟨⟨"A", 0, ""⟩⟩), .call (.getTx ⟨"A"⟩) .none] := by
  decide

section Scan

variable {last : Option String} {e : Event} {evs xs ys : List Event}

theorem Event.acceptedHash_of_isBroadcast (h : e.isBroadcast = true) :
    e.acceptedHash last = e.accepted? :=
  if_pos h

theorem Event.acceptedHash_of_isBroadcast_false (h : e.isBroadcast = false) :
    e.acceptedHash last = last :=
  if_neg (by rw [h]; exact Bool.false_ne_true)

/-- Only a call to `GetTx` is a poll. -/
theorem Event.outside_of_isPoll {ks : List CallKind} (h : CallKind.getTx ∉ ks) :
    ∀ e : Event, e.isPoll = true → e.outside ks = true
  | .call (.getTx _) _, _ => by simpa [Event.outside, Call.kind] using h
  | .call (.account _) _, h' | .call (.balance _) _, h' | .call (.allBalances _) _, h'
  | .call (.smartContractState _) _, h' | .call (.broadcastTx _) _, h'
  | .call .getNodeInfo _, h' | .call (.restGet _) _, h' | .call (.faucetPost _ _) _, h'
  | .call (.readFile _) _, h' | .sleep _, h' => nomatch h'

/-- Events with no poll pass, whatever was accepted before them. -/
theorem pollsAccepted_of_countP (h : evs.countP Event.isPoll = 0) : PollsAccepted last evs := by
  induction evs generalizing last with
  | nil => trivial
  | cons e evs ih =>
    rw [List.countP_cons] at h
    have hp : e.isPoll = false := by cases hp : e.isPoll <;> simp_all
    refine ⟨fun x hx => ?_, ih (by simpa [hp] using h)⟩
    simp [Event.isPoll, Option.mem_def.1 hx] at hp

/-- A scan that passes with no hash accepted polls only after a broadcast of its own, so it passes
whatever was accepted before. -/
theorem PollsAccepted.of_none : ∀ {evs : List Event} {last : Option String},
    PollsAccepted none evs → PollsAccepted last evs
  | [], _, _ => trivial
  | e :: _, _, ⟨hp, hevs⟩ => ⟨fun _ h => (nomatch hp _ h), by
    cases hb : e.isBroadcast
    · rw [Event.acceptedHash_of_isBroadcast_false hb] at hevs ⊢
      exact hevs.of_none
    · rwa [Event.acceptedHash_of_isBroadcast hb] at hevs ⊢⟩

/-- Events that pass, then events that pass whatever was accepted before them. -/
theorem pollsAccepted_append (h₁ : PollsAccepted last xs) (h₂ : ∀ l, PollsAccepted l ys) :
    PollsAccepted last (xs ++ ys) := by
  induction xs generalizing last with
  | nil => exact h₂ last
  | cons e xs ih => exact ⟨h₁.1, ih h₁.2⟩

theorem concat_pollsAccepted : Concat (PollsAccepted none) :=
  ⟨trivial, fun h₁ h₂ => pollsAccepted_append h₁ fun _ => h₂.of_none⟩

/-- The event is no broadcast, and polls, if at all, for `txhash`. -/
def Event.PollsFor (txhash : String) (e : Event) : Prop :=
  e.isBroadcast = false ∧ ∀ h ∈ e.polledHash?, h = txhash

/-- Polls for `txhash` with no broadcast among them pass once `txhash` is accepted. -/
theorem pollsAccepted_of_pollsFor {txhash : String} (h : ∀ e ∈ evs, e.PollsFor txhash) :
    PollsAccepted (some txhash) evs := by
  induction evs with
  | nil => trivial
  | cons e evs ih =>
    obtain ⟨hb, hp⟩ := h e (List.mem_cons_self _ _)
    refine ⟨fun x hx => by rw [hp x hx], ?_⟩
    rw [Event.acceptedHash_of_isBroadcast_false hb]
    exact ih fun e' he' => h e' (List.mem_cons_of_mem _ he')

end Scan

/-! ## Runs that poll only for accepted transactions -/

/-- Every run of `x`, whether it returns or raises, polls only for the hash of the last broadcast
before the poll, which the node accepted. -/
def PollsOnlyAccepted {α : Type} (x : Ledger α) : Prop :=
  Appends (PollsAccepted none) x

theorem pollsOnlyAccepted_of_addsAtMost {α : Type} {x : Ledger α}
    (hx : AddsAtMost Event.isPoll 0 x) : PollsOnlyAccepted x :=
  Appends.mono hx fun _ h => pollsAccepted_of_countP (Nat.le_zero.1 h)

theorem pollsAccepted_sleep (s : Seconds) : PollsAccepted none [.sleep s] :=
  pollsAccepted_of_countP rfl

namespace CosmosLedger

variable (lib : Lib) (self : CosmosLedger)

/-- `get_tx(txhash)` polls only for `txhash`, and broadcasts nothing. -/
theorem getTx_pollsFor (txhash : String) :
    Appends (fun evs => ∀ e ∈ evs, e.PollsFor txhash) (self.getTx txhash) :=
  (concat_forall_mem _).callWithRetry_appends _
    (by simp [Event.PollsFor, Event.isBroadcast, Event.polledHash?])
    (appends_call fun _ => by
      simp [Event.PollsFor, Event.isBroadcast, Call.isBroadcast, Event.polledHash?])

/-- **A broadcast polls only for what it got accepted.**  The broadcasts of `broadcast_tx` make no
poll; once the node has answered one with code `0`, every poll asks for the hash of that answer,
and once it has answered one with another code, the call raises before any poll. -/
theorem broadcastTx_pollsOnlyAccepted (tx : Tx) (retries : Option Int) :
    PollsOnlyAccepted (self.broadcastTx lib tx retries) := fun w => by
  have hnp : AddsAtMost Event.isPoll 0
      ((self.broadcastRetrier (retries.getD self.nTotalMsgRetries)).callWithRetry
        (call (.broadcastTx (broadcastRequest lib tx)))) :=
    callWithRetry_addsAtMost _ (retryLoop_addsAtMost_zero rfl (addsAtMost_call fun _ => rfl) _ _ _)
  cases hr : (self.broadcastRetrier (retries.getD self.nTotalMsgRetries)).callWithRetry
      (call (.broadcastTx (broadcastRequest lib tx))) w with
  | error e w₁ =>
    obtain ⟨evs, ht, hc⟩ := hnp.of_error hr
    rw [broadcastTx, bind_of_error hr]
    exact ⟨evs, ht, pollsAccepted_of_countP (Nat.le_zero.1 hc)⟩
  | ok resp w₁ =>
    obtain ⟨evs, ht, hc⟩ := hnp.of_ok hr
    obtain ⟨evs₁, ht₁⟩ := callWithRetry_ends_with_value _ _ hr
    obtain rfl := List.append_cancel_left (ht.symm.trans ht₁)
    rw [broadcastTx_of_response lib self hr]
    split
    · exact ⟨_, ht, pollsAccepted_of_countP (Nat.le_zero.1 hc)⟩
    · rename_i hcode
      obtain ⟨evs₂, ht₂, hp₂⟩ := self.getTx_pollsFor _ w₁
      have hc₁ : evs₁.countP Event.isPoll = 0 := by
        rw [List.countP_append] at hc
        omega
      have haccepted : ∀ l, (Event.call (.broadcastTx (broadcastRequest lib tx))
          (.value resp)).acceptedHash l = some resp.txResponse.txhash := fun _ => by
        simp [Event.acceptedHash, Event.isBroadcast, Call.isBroadcast, Event.accepted?,
          clientCodeMessageSuccessful, not_not.1 hcode]
      refine ⟨evs₁ ++ [_] ++ evs₂, by rw [ht₂, ht, List.append_assoc], ?_⟩
      rw [List.append_assoc, List.singleton_append]
      exact pollsAccepted_append (pollsAccepted_of_countP hc₁) fun _ =>
        ⟨fun _ h => (nomatch h), by
          rw [haccepted]
          exact pollsAccepted_of_pollsFor hp₂⟩

variable (crypto : CosmosCrypto) (gas : Nat)

/-- An attempt of a workflow, when building its message makes no poll. -/
theorem submitTx_pollsOnlyAccepted {msg : Ledger ProtoAny} (hm : AddsAtMost Event.isPoll 0 msg) :
    PollsOnlyAccepted (self.submitTx lib msg crypto gas) :=
  concat_pollsAccepted.bind (pollsOnlyAccepted_of_addsAtMost
      (self.prepareTx_addsAtMost lib hm (Event.outside_of_isPoll (by decide)) crypto gas)) fun _ =>
    self.broadcastTx_pollsOnlyAccepted lib _ _

theorem deployContract_pollsOnlyAccepted (contractFilename : String) :
    PollsOnlyAccepted (self.deployContract lib crypto contractFilename gas) :=
  concat_pollsAccepted.bind (concat_pollsAccepted.sendLoop_appends _ _ (pollsAccepted_sleep _)
      (self.submitTx_pollsOnlyAccepted lib crypto gas
        ((getPackedStoreMsg_emits lib _ _).addsAtMost (Event.outside_of_isPoll (by decide)))) _ _)
    fun st => by
      split
      exacts [concat_pollsAccepted.pure _, concat_pollsAccepted.throw _]

theorem instantiateContract_pollsOnlyAccepted (codeId : Int) (initMsg : Json) (label : String) :
    PollsOnlyAccepted (self.instantiateContract lib crypto codeId initMsg label gas) := by
  rw [instantiateContract, instantiateLoop_eq_sendLoop]
  refine concat_pollsAccepted.bind (concat_pollsAccepted.sendLoop_appends _ _
    (pollsAccepted_sleep _) (self.submitTx_pollsOnlyAccepted lib crypto gas (addsAtMost_pure _))
      _ _) fun st => ?_
  split
  exacts [concat_pollsAccepted.pure _, concat_pollsAccepted.throw _]

theorem executeContract_pollsOnlyAccepted (contractAddress : String) (executeMsg : Json)
    (amount : Option (List Coin)) (nRetries : Option Int) :
    PollsOnlyAccepted
      (self.executeContract lib crypto contractAddress executeMsg gas amount nRetries) :=
  concat_pollsAccepted.bind (concat_pollsAccepted.executeLoop_appends self (pollsAccepted_sleep _)
      (self.submitTx_pollsOnlyAccepted lib crypto gas (addsAtMost_pure _)) _ _ _) fun
    | (some _, _) => concat_pollsAccepted.pure _
    | (none, _) => concat_pollsAccepted.throw _

theorem sendFunds_pollsOnlyAccepted (toAddress : String) (amountCoins : List Coin) :
    PollsOnlyAccepted (self.sendFunds lib crypto toAddress amountCoins) :=
  self.submitTx_pollsOnlyAccepted lib crypto _ (addsAtMost_pure _)

end CosmosLedger

/-! ## Sessions -/

section Sessions

variable (lib : Lib) (self : CosmosLedger) (crypto : CosmosCrypto)

/-- Every method but `get_tx` polls only for accepted transactions. -/
theorem Op.run_pollsOnlyAccepted :
    ∀ op : Op, (∀ txhash, op ≠ .getTx txhash) → PollsOnlyAccepted (op.run lib self crypto)
  | .deployContract .., _ => concat_pollsAccepted.bind
    (self.deployContract_pollsOnlyAccepted lib crypto _ _) fun _ => concat_pollsAccepted.pure _
  | .instantiateContract .., _ => concat_pollsAccepted.bind
    (self.instantiateContract_pollsOnlyAccepted lib crypto _ _ _ _) fun _ =>
      concat_pollsAccepted.pure _
  | .executeContract .., _ => concat_pollsAccepted.bind
    (self.executeContract_pollsOnlyAccepted lib crypto _ _ _ _ _) fun _ =>
      concat_pollsAccepted.pure _
  | .sendFunds .., _ => concat_pollsAccepted.bind
    (self.sendFunds_pollsOnlyAccepted lib crypto _ _) fun _ => concat_pollsAccepted.pure _
  | .broadcastTx .., _ => concat_pollsAccepted.bind
    (self.broadcastTx_pollsOnlyAccepted lib _ _) fun _ => concat_pollsAccepted.pure _
  | .getTx txhash, h => absurd rfl (h txhash)
  | .queryContractState .., _ | .getBalance .., _ | .getBalances _, _
  | .refillWealthFromFaucet .., _ | .generateTx .., _ | .signTx _, _ | .queryAccountData _, _
  | .checkAvailability, _ => pollsOnlyAccepted_of_addsAtMost
    ((Op.run_emits lib self crypto _).addsAtMost (Event.outside_of_isPoll (by simp [Op.footprint])))

/-- **Polls follow accepted broadcasts.**  For every list of calls to the client other than
`get_tx`, and every world, every `GetTx` request of the session asks for the `txhash` that the
node returned, with code `0`, in its answer to the last broadcast before the request, whatever
each call raises.  So no poll comes before the first broadcast, after a broadcast the node
rejected or left unanswered, or for the transaction of an earlier broadcast. -/
theorem runSession_pollsOnlyAccepted (ops : List Op) (hops : ∀ txhash, Op.getTx txhash ∉ ops) :
    PollsOnlyAccepted (runSession lib self crypto ops) :=
  concat_pollsAccepted.forM (fun op hop => concat_pollsAccepted.bind
    (appends_observe (op.run_pollsOnlyAccepted lib self crypto fun txhash h =>
      hops txhash (h ▸ hop))) fun _ => concat_pollsAccepted.pure _)

theorem runSession_pollsOnlyAccepted_send :
    (∀ txhash, Op.getTx txhash ∉ [Op.sendFunds "fetch1" [], .checkAvailability]) ∧
      PollsOnlyAccepted (runSession sampleLib CosmosLedger.sampleLedger sampleCrypto
        [.sendFunds "fetch1" [], .checkAvailability]) :=
  ⟨by simp,
    runSession_pollsOnlyAccepted sampleLib CosmosLedger.sampleLedger sampleCrypto _ (by simp)⟩

end Sessions

end Cosmpy
