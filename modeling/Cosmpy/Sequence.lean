import Cosmpy.Submissions

/-!
# The account every broadcast is signed from

`generate_tx` reads the signer's account from the node (`query_account_data`) for every
transaction it builds, and puts the account's sequence into the signer info.  Each attempt of a
workflow builds and signs a new transaction, while `broadcast_tx`'s `Retrier` sends the same
transaction again only until the node answers.  So once the node has answered a broadcast, the
client never broadcasts again before it has read the account anew.  This file proves it for every
reply of the node.

* `Event.freshAccounts` scans the trace, keeping the accounts of the sender that the node returned
  since it last answered a broadcast, and `FreshBroadcasts accs evs` says that every broadcast of
  `evs` sends a transaction signed from one of them (`SignedWith`).
* `FreshFrom accs x`: every run of `x`, returning or raising, only appends events that satisfy
  `FreshBroadcasts accs` (`Appends`); `FreshRun x` is `FreshFrom []`.  A run that makes no
  broadcast is one, and `FreshBroadcasts []` is kept by `++` (`concat_freshBroadcasts`), so
  `FreshRun` is kept by `bind` and by the loops.
* `prepareTx_signedWith`: an attempt's transaction is signed from an account its own query
  returned, with no broadcast since; `broadcastTx_freshFrom`: every broadcast of the transaction
  then passes.
* `workflows_freshRun`: `deploy_contract`, `instantiate_contract`, `execute_contract`,
  `send_funds` and `refill_wealth_from_validator` only broadcast such transactions.
-/

set_option autoImplicit false

namespace Cosmpy

open Ledger CosmosLedger

/-! ## The accounts read since the last answered broadcast -/

/-- The accounts of `address` that the node returned since it last answered a broadcast, once `e`
has happened after `accs`: an account query for `address` answered with a `BaseAccount` adds it,
a broadcast the node answered clears them all, and nothing else changes them. -/
def Event.freshAccounts (address : String) (accs : List BaseAccount) : Event → List BaseAccount
  | .call (.account q) (.value r) =>
    match QueryAccountResponse.account r with
    | .baseAccount acc => if q.address = address then acc :: accs else accs
    | .other _ => accs
  | .call (.broadcastTx _) (.value _) => []
  | _ => accs

section Scan

variable {address : String} {accs accs' : List BaseAccount}

theorem Event.freshAccounts_mono (h : accs ⊆ accs') :
    ∀ e : Event, e.freshAccounts address accs ⊆ e.freshAccounts address accs'
  | .call (.account q) (.value r) => by
    simp only [Event.freshAccounts]
    split
    · split
      exacts [List.cons_subset_cons _ h, h]
    · exact h
  | .call (.broadcastTx _) (.value _) => List.Subset.refl _
  | .call (.account _) .none | .call (.account _) (.raise _) | .call (.broadcastTx _) .none
  | .call (.broadcastTx _) (.raise _) | .call (.balance _) _ | .call (.allBalances _) _
  | .call (.smartContractState _) _ | .call (.getTx _) _ | .call .getNodeInfo _
  | .call (.restGet _) _ | .call (.faucetPost _ _) _ | .call (.readFile _) _ | .sleep _ => h

/-- An event other than a broadcast only adds accounts. -/
theorem Event.subset_freshAccounts :
    ∀ e : Event, e.isBroadcast = false → accs ⊆ e.freshAccounts address accs
  | .call (.broadcastTx _) _, h => nomatch h
  | .call (.account q) (.value r), _ => by
    simp only [Event.freshAccounts]
    split
    · split
      exacts [List.subset_cons_self _ _, List.Subset.refl _]
    · exact List.Subset.refl _
  | .call (.account _) .none, _ | .call (.account _) (.raise _), _ | .call (.balance _) _, _
  | .call (.allBalances _) _, _ | .call (.smartContractState _) _, _ | .call (.getTx _) _, _
  | .call .getNodeInfo _, _ | .call (.restGet _) _, _ | .call (.faucetPost _ _) _, _
  | .call (.readFile _) _, _ | .sleep _, _ => List.Subset.refl _

/-- Events with no broadcast: neither the first nor the rest is one. -/
theorem countP_isBroadcast_cons {e : Event} {evs : List Event}
    (h : (e :: evs).countP Event.isBroadcast = 0) :
    e.isBroadcast = false ∧ evs.countP Event.isBroadcast = 0 := by
  rw [List.countP_cons] at h
  cases hb : e.isBroadcast
  · simpa [hb] using h
  · simp [hb] at h

/-- Events with no broadcast lose no account. -/
theorem subset_foldl_freshAccounts :
    ∀ {evs : List Event} {accs : List BaseAccount}, evs.countP Event.isBroadcast = 0 →
      accs ⊆ evs.foldl (Event.freshAccounts address) accs
  | [], _, _ => List.Subset.refl _
  | e :: _, _, h =>
    (e.subset_freshAccounts (countP_isBroadcast_cons h).1).trans
      (subset_foldl_freshAccounts (countP_isBroadcast_cons h).2)

/-- Among events with no broadcast, an account the node returned for `address` is kept to the
end. -/
theorem mem_foldl_freshAccounts {acc : BaseAccount} {r : QueryAccountResponse}
    (hr : r.account = .baseAccount acc) :
    ∀ {evs : List Event} {accs : List BaseAccount}, evs.countP Event.isBroadcast = 0 →
      Event.call (.account ⟨address⟩) (.value r) ∈ evs →
      acc ∈ evs.foldl (Event.freshAccounts address) accs
  | e :: evs, accs, h, he => by
    rw [List.foldl_cons]
    rcases List.mem_cons.1 he with rfl | he
    · apply subset_foldl_freshAccounts (countP_isBroadcast_cons h).2
      simp [Event.freshAccounts, hr]
    · exact mem_foldl_freshAccounts hr (countP_isBroadcast_cons h).2 he

end Scan

/-! ## Broadcasts signed from a fresh account -/

section Fresh

variable (lib : Lib) (self : CosmosLedger) (crypto : CosmosCrypto)

/-- The request broadcasts a transaction that `sign_tx` signed for `crypto`, with the one signer
info that `generate_tx` builds from the account `acc`. -/
def SignedWith (acc : BaseAccount) (req : BroadcastTxRequest) : Prop :=
  ∃ (body : TxBody) (fee : Fee) (n : Nat), req = broadcastRequest lib
    (lib.signTransaction ⟨body, ⟨[getSignerInfo acc crypto.pubkey], fee⟩, []⟩ crypto.privateKey
      self.chainId n)

/-- A broadcast in `e` sends a transaction signed from one of `accs`. -/
def Event.SignedFrom (accs : List BaseAccount) : Event → Prop
  | .call (.broadcastTx req) _ => ∃ acc ∈ accs, SignedWith lib self crypto acc req
  | _ => True

/-- Every broadcast of `evs` sends a transaction signed from an account of `crypto` that the node
returned since it last answered a broadcast: one of `accs` before `evs`, or one returned in `evs`
before the broadcast. -/
def FreshBroadcasts : List BaseAccount → List Event → Prop
  | _, [] => True
  | accs, e :: evs =>
    e.SignedFrom lib self crypto accs ∧ FreshBroadcasts (e.freshAccounts crypto.address accs) evs

variable {lib self crypto} {accs accs' : List BaseAccount}

theorem Event.SignedFrom.mono {e : Event} (h : accs ⊆ accs')
    (he : e.SignedFrom lib self crypto accs) : e.SignedFrom lib self crypto accs' := by
  match e, he with
  | .call (.broadcastTx _) _, ⟨acc, hacc, hs⟩ => exact ⟨acc, h hacc, hs⟩
  | .call (.account _) _, _ | .call (.balance _) _, _ | .call (.allBalances _) _, _
  | .call (.smartContractState _) _, _ | .call (.getTx _) _, _ | .call .getNodeInfo _, _
  | .call (.restGet _) _, _ | .call (.faucetPost _ _) _, _ | .call (.readFile _) _, _
  | .sleep _, _ => trivial

theorem Event.signedFrom_of_isBroadcast :
    ∀ e : Event, e.isBroadcast = false → e.SignedFrom lib self crypto accs
  | .call (.broadcastTx _) _, h => nomatch h
  | .call (.account _) _, _ | .call (.balance _) _, _ | .call (.allBalances _) _, _
  | .call (.smartContractState _) _, _ | .call (.getTx _) _, _ | .call .getNodeInfo _, _
  | .call (.restGet _) _, _ | .call (.faucetPost _ _) _, _ | .call (.readFile _) _, _
  | .sleep _, _ => trivial

/-- More accounts read can only help. -/
theorem FreshBroadcasts.mono :
    ∀ {evs : List Event} {accs accs' : List BaseAccount}, accs ⊆ accs' →
      FreshBroadcasts lib self crypto accs evs → FreshBroadcasts lib self crypto accs' evs
  | [], _, _, _, _ => trivial
  | e :: _, _, _, h, ⟨he, hevs⟩ => ⟨he.mono h, hevs.mono (e.freshAccounts_mono h)⟩

theorem freshBroadcasts_append (evs₁ evs₂ : List Event) :
    ∀ accs, FreshBroadcasts lib self crypto accs (evs₁ ++ evs₂) ↔
      FreshBroadcasts lib self crypto accs evs₁ ∧
        FreshBroadcasts lib self crypto (evs₁.foldl (Event.freshAccounts crypto.address) accs) evs₂ := by
  induction evs₁ with
  | nil => simp [FreshBroadcasts]
  | cons e evs₁ ih =>
    intro accs
    simp only [List.cons_append, FreshBroadcasts, List.append_eq, List.foldl_cons, ih, and_assoc]

/-- Events with no broadcast pass from any accounts. -/
theorem freshBroadcasts_of_countP :
    ∀ {evs : List Event} {accs : List BaseAccount}, evs.countP Event.isBroadcast = 0 →
      FreshBroadcasts lib self crypto accs evs
  | [], _, _ => trivial
  | e :: _, _, h =>
    ⟨e.signedFrom_of_isBroadcast (countP_isBroadcast_cons h).1,
      freshBroadcasts_of_countP (countP_isBroadcast_cons h).2⟩

/-! ## Runs whose broadcasts are fresh -/

variable (lib self crypto)

/-- Every run of `x`, whether it returns or raises, only appends events whose broadcasts are fresh
once the accounts `accs` have been read. -/
def FreshFrom {α : Type} (accs : List BaseAccount) (x : Ledger α) : Prop :=
  Appends (FreshBroadcasts lib self crypto accs) x

/-- Every run of `x` broadcasts only transactions signed from an account it read itself since the
node last answered a broadcast. -/
abbrev FreshRun {α : Type} (x : Ledger α) : Prop := FreshFrom lib self crypto [] x

variable {lib self crypto} {α β : Type} {x : Ledger α} {f : α → Ledger β}

theorem FreshFrom.mono (h : accs ⊆ accs') (hx : FreshFrom lib self crypto accs x) :
    FreshFrom lib self crypto accs' x :=
  Appends.mono hx fun _ hf => hf.mono h

/-- A run with no broadcast is fresh. -/
theorem freshRun_of_addsAtMost (hx : AddsAtMost Event.isBroadcast 0 x) :
    FreshRun lib self crypto x :=
  Appends.mono hx fun _ hc => freshBroadcasts_of_countP (Nat.le_zero.1 hc)

/-- What follows a fresh run reads its own accounts, so the accounts read before it do not
matter. -/
theorem freshFrom_bind (hx : FreshFrom lib self crypto accs x)
    (hf : ∀ b, FreshRun lib self crypto (f b)) : FreshFrom lib self crypto accs (x >>= f) :=
  appends_bind hx hf
    (fun _ _ h₁ h₂ => (freshBroadcasts_append _ _ _).2 ⟨h₁, h₂.mono (List.nil_subset _)⟩)
    fun _ h => h

/-- Fresh runs are kept by concatenation: what follows a run reads its own accounts. -/
theorem concat_freshBroadcasts : Concat (FreshBroadcasts lib self crypto []) :=
  ⟨trivial, fun h₁ h₂ => (freshBroadcasts_append _ _ _).2 ⟨h₁, h₂.mono (List.nil_subset _)⟩⟩

/-! ## Broadcasting one transaction -/

/-- One try of a broadcast whose transaction is signed from one of `accs`: it passes, and unless
the node answered it, it leaves `accs` as they were. -/
theorem attemptEvents_broadcast {req : BroadcastTxRequest}
    (h : ∃ acc ∈ accs, SignedWith lib self crypto acc req) (s : Seconds)
    (o : Reply (Call.broadcastTx req).Resp) :
    FreshBroadcasts lib self crypto accs (attemptEvents (.broadcastTx req) s o) ∧
      (o.isValue = false →
        (attemptEvents (.broadcastTx req) s o).foldl (Event.freshAccounts crypto.address) accs =
          accs) := by
  cases o <;>
    simp [attemptEvents, FreshBroadcasts, Event.SignedFrom, Event.freshAccounts, Reply.isValue, h]

/-- The retry loop of a broadcast whose transaction is signed from one of `accs`. -/
theorem retryLoop_broadcast_freshFrom {req : BroadcastTxRequest}
    (h : ∃ acc ∈ accs, SignedWith lib self crypto acc req) (s : Seconds) :
    ∀ k le, FreshFrom lib self crypto accs (retryLoop s (call (.broadcastTx req)) k le none)
  | 0, _ => fun _ => ⟨[], (List.append_nil _).symm, trivial⟩
  | k + 1, le => fun w => by
    obtain ⟨hfresh, hkeep⟩ := attemptEvents_broadcast h s (w.replies 0 (.broadcastTx req))
    cases hv : (w.replies 0 (.broadcastTx req)).isValue
    · rw [retryLoop_succ_of_isValue_false s _ hv]
      obtain ⟨evs, ht, hf⟩ := retryLoop_broadcast_freshFrom h s k _ (w.afterAttempt _ s)
      refine ⟨_ ++ evs, by rw [ht]; exact List.append_assoc .., ?_⟩
      rw [freshBroadcasts_append, hkeep hv]
      exact ⟨hfresh, hf⟩
    · obtain ⟨v, hv'⟩ : ∃ v, w.replies 0 (.broadcastTx req) = .value v := by
        cases h' : w.replies 0 (.broadcastTx req) <;> simp_all [Reply.isValue]
      rw [retryLoop_succ_of_value s _ hv']
      exact ⟨_, rfl, hfresh⟩

theorem callWithRetry_freshFrom (r : Retrier) {call : Ledger (Option α)}
    (hc : FreshFrom lib self crypto accs (retryLoop r.retryInterval call r.nRetries.toNat none none)) :
    FreshFrom lib self crypto accs (r.callWithRetry call) :=
  freshFrom_bind hc fun
    | (_, some _) => freshRun_of_addsAtMost (addsAtMost_pure _)
    | (_, none) => freshRun_of_addsAtMost (addsAtMost_throw _)

namespace CosmosLedger

variable (lib self crypto)

/-- `broadcast_tx` of a transaction signed from one of `accs`: all its broadcasts pass, and the
poll that follows makes none. -/
theorem broadcastTx_freshFrom {tx : Tx} (h : ∃ acc ∈ accs, SignedWith lib self crypto acc
    (broadcastRequest lib tx)) (retries : Option Int) :
    FreshFrom lib self crypto accs (self.broadcastTx lib tx retries) :=
  freshFrom_bind (callWithRetry_freshFrom _ (retryLoop_broadcast_freshFrom h _ _ _)) fun _ =>
    freshRun_of_addsAtMost (addsAtMost_ite
      (addsAtMost_zero_bind (addsAtMost_throw _) fun _ =>
        (self.getTx_emits _).addsAtMost (Event.outside_of_isBroadcast (by decide)))
      (addsAtMost_zero_bind (addsAtMost_pure _) fun _ =>
        (self.getTx_emits _).addsAtMost (Event.outside_of_isBroadcast (by decide))))

/-! ## Building and signing one transaction -/

/-- `sign_tx` signs the transaction it is given, with some account number. -/
theorem signTx_signs {tx tx' : Tx} {w w' : World} (h : self.signTx lib crypto tx w = .ok tx' w') :
    ∃ n, tx' = lib.signTransaction tx crypto.privateKey self.chainId n := by
  rw [signTx_spec] at h
  split at h
  · cases h
    exact ⟨_, rfl⟩
  · split at h
    · cases h
      exact ⟨_, rfl⟩
    · cases h

variable (gas : Nat)

/-- **An attempt signs from the account it has just read.**  When the `try` of an attempt, up to
the broadcast, returns a transaction, it added no broadcast to the trace, and the transaction is
signed from an account that the node returned, during the attempt, to a query for the sender's
own address. -/
theorem prepareTx_signedWith {msg : Ledger ProtoAny} (hm : AddsAtMost Event.isBroadcast 0 msg)
    {w w' : World} {tx : Tx} (h : self.prepareTx lib msg crypto gas w = .ok tx w') :
    ∃ evs, w'.trace = w.trace ++ evs ∧ evs.countP Event.isBroadcast = 0 ∧
      ∃ acc ∈ evs.foldl (Event.freshAccounts crypto.address) [],
        SignedWith lib self crypto acc (broadcastRequest lib tx) := by
  obtain ⟨m, w₁, hmw, h⟩ := bind_eq_ok.1 h
  obtain ⟨t, w₂, hg, hs⟩ := bind_eq_ok.1 h
  obtain ⟨infos, w₃, hq, ht⟩ := bind_eq_ok.1 hg
  obtain ⟨acc, w₄, hacc, hq⟩ := bind_eq_ok.1 hq
  cases ht
  cases hq
  obtain ⟨n, rfl⟩ := self.signTx_signs lib crypto hs
  -- the events of the message, the account query and the signing
  obtain ⟨evs₁, ht₁, hc₁⟩ := hm.of_ok hmw
  obtain ⟨evs₂, r, ht₂, hr₂, hacc₂⟩ := self.queryAccountData_returned crypto.address hacc
  obtain ⟨evs₂', ht₂', hc₂⟩ := ((self.queryAccountData_emits _).addsAtMost
    (Event.outside_of_isBroadcast (by decide))).of_ok hacc
  obtain ⟨evs₃, ht₃, hc₃⟩ := ((self.signTx_emits lib crypto _).addsAtMost
    (Event.outside_of_isBroadcast (by decide))).of_ok hs
  obtain rfl : evs₂' = evs₂ := List.append_cancel_left (ht₂'.symm.trans ht₂)
  have hc : (evs₁ ++ evs₂' ++ evs₃).countP Event.isBroadcast = 0 := by
    simp only [List.countP_append]
    omega
  refine ⟨evs₁ ++ evs₂' ++ evs₃, by rw [ht₃, ht₂', ht₁]; simp only [List.append_assoc], hc,
    acc, mem_foldl_freshAccounts hacc₂ hc (by simp [hr₂]), _, _, n, rfl⟩

/-- **An attempt's broadcasts are fresh.**  The `try` of an attempt, whatever its message, as long
as building the message makes no broadcast. -/
theorem submitTx_freshRun {msg : Ledger ProtoAny} (hm : AddsAtMost Event.isBroadcast 0 msg) :
    FreshRun lib self crypto (self.submitTx lib msg crypto gas) := by
  intro w
  rw [submitTx, bind_apply]
  cases hp : self.prepareTx lib msg crypto gas w with
  | error e w₁ =>
    obtain ⟨evs, ht, hc⟩ :=
      self.prepareTx_addsAtMost lib hm (Event.outside_of_isBroadcast (by decide)) crypto gas w
    rw [hp] at ht
    exact ⟨evs, ht, freshBroadcasts_of_countP (Nat.le_zero.1 hc)⟩
  | ok tx w₁ =>
    obtain ⟨evs₁, ht₁, hc₁, acc, hacc, hs⟩ := self.prepareTx_signedWith lib crypto gas hm hp
    obtain ⟨evs₂, ht₂, hf₂⟩ := self.broadcastTx_freshFrom lib crypto ⟨acc, hacc, hs⟩ none w₁
    exact ⟨evs₁ ++ evs₂, by rw [ht₂, ht₁, List.append_assoc],
      (freshBroadcasts_append _ _ _).2 ⟨freshBroadcasts_of_countP hc₁, hf₂⟩⟩

/-! ## The workflows -/

/-- **A broadcast after the node's answer carries a newly read account.**  For every world and
every run, whether it returns or raises, `deploy_contract`, `instantiate_contract`,
`execute_contract`, `send_funds` and `refill_wealth_from_validator` broadcast only transactions
that `sign_tx` signed for the sender with the signer info `generate_tx` built from an account the
node returned, during the call, to a query for the sender's address, and after the last broadcast
the node answered.  So a transaction is broadcast again only while the node has answered none of
its broadcasts, and after an answer the next broadcast is of a transaction built from a new read
of the account's sequence. -/
theorem workflows_freshRun :
    (∀ contractFilename, FreshRun lib self crypto
      (self.deployContract lib crypto contractFilename gas)) ∧
    (∀ codeId initMsg label, FreshRun lib self crypto
      (self.instantiateContract lib crypto codeId initMsg label gas)) ∧
    (∀ contractAddress executeMsg amount nRetries, FreshRun lib self crypto
      (self.executeContract lib crypto contractAddress executeMsg gas amount nRetries)) ∧
    (∀ toAddress amountCoins, FreshRun lib self crypto
      (self.sendFunds lib crypto toAddress amountCoins)) ∧
    (∀ addresses amountCoins, FreshRun lib self crypto
      (self.refillWealthFromValidator lib crypto addresses amountCoins)) := by
  have hP : Concat (FreshBroadcasts lib self crypto []) := concat_freshBroadcasts
  have hsleep : ∀ s, FreshBroadcasts lib self crypto [] [.sleep s] := fun _ =>
    freshBroadcasts_of_countP rfl
  have hsend : ∀ toAddress amountCoins,
      FreshRun lib self crypto (self.sendFunds lib crypto toAddress amountCoins) :=
    fun _ _ => self.submitTx_freshRun lib crypto _ (addsAtMost_pure _)
  refine ⟨fun contractFilename => ?_, fun codeId initMsg label => ?_, fun _ _ _ _ => ?_, hsend,
    fun addresses _ => hP.forM fun _ _ => hP.bind (hsend _ _) fun _ => hP.pure _⟩
  · refine hP.bind (hP.sendLoop_appends _ _ (hsleep _) (self.submitTx_freshRun lib crypto gas
      ((getPackedStoreMsg_emits lib _ _).addsAtMost (Event.outside_of_isBroadcast (by decide))))
        _ _) fun st => ?_
    split
    exacts [hP.pure _, hP.throw _]
  · rw [instantiateContract, instantiateLoop_eq_sendLoop]
    refine hP.bind (hP.sendLoop_appends _ _ (hsleep _)
      (self.submitTx_freshRun lib crypto gas (addsAtMost_pure _)) _ _) fun st => ?_
    split
    exacts [hP.pure _, hP.throw _]
  · exact hP.bind (hP.executeLoop_appends self (hsleep _)
      (self.submitTx_freshRun lib crypto gas (addsAtMost_pure _)) _ _ _) fun
      | (some _, _) => hP.pure _
      | (none, _) => hP.throw _

end CosmosLedger

end Fresh

end Cosmpy
