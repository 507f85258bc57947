import Cosmpy.Footprint

/-!
# The faucet is asked only for an address found short

`refill_wealth_from_faucet` reads the balances of each address (`get_balances`), takes the amount
of the first coin, or `0` when the node lists none, and posts a claim to the faucet only when that
is below the threshold.  This file proves, for every reply of the node, that every faucet request
a refill makes comes right after the node's answer to a balances query for the same address,
listing coins that read as short of the threshold.

* `Event.faucetAddress?` is the address a faucet request asks to fund, and `Event.ReportsShort`
  holds of the answer to a balances query for an address that lists coins short of the threshold.
* `RequestsFollowShort evs`: `evs` does not start with a request, and each request follows such an
  answer for its address (`List.Chain'`).  It is kept by `++` (`concat_requestsFollowShort`), so
  `AsksOnlyWhenShort x`, which says it of what every run of `x` appends, is kept by `bind` and by
  the loops.
* `getBalances_ends_with_answer`: a balances query that returned ended with the answer it returned.
* `refillWealthFromFaucet_asksOnlyWhenShort`: the refill asks only for addresses found short.
-/

set_option autoImplicit false

namespace Cosmpy

open Ledger

/-- The address a faucet request asks to fund. -/
def Event.faucetAddress? : Event → Option String
  | .call (.faucetPost _ address) _ => some address
  | _ => none

/-- The event is a faucet request. -/
def Event.isFaucetRequest (e : Event) : Bool := e.faucetAddress?.isSome

/-- The coins the node listed read as a balance below `minAmount`, as
`refill_wealth_from_faucet` reads them: the amount of the first coin, or `0` when there is none. -/
def ShortOf (lib : Lib) (minAmount : Int) : List Coin → Prop
  | coin :: _ => ∃ balance, lib.intOfStr coin.amount = .ok balance ∧ balance < minAmount
  | [] => 0 < minAmount

/-- The node's answer to a balances query for `address`, listing coins short of `minAmount`. -/
def Event.ReportsShort (lib : Lib) (minAmount : Int) (address : String) : Event → Prop
  | .call (.allBalances request) (.value res) =>
    request.address = address ∧ ShortOf lib minAmount res.balances
  | _ => False

section Requests

variable (lib : Lib) (minAmount : Int)

/-- `e'` is no faucet request, or it follows `e`, an answer reporting its address short. -/
def FollowsShort (e e' : Event) : Prop :=
  ∀ address, e'.faucetAddress? = some address → e.ReportsShort lib minAmount address

/-- Every faucet request of `evs` comes right after an answer reporting its address short: the
first event is no request, and each request follows such an answer. -/
def RequestsFollowShort (evs : List Event) : Prop :=
  (∀ e ∈ evs.head?, e.faucetAddress? = none) ∧ evs.Chain' (FollowsShort lib minAmount)

variable {lib minAmount}

/-- What follows an event that is no request follows it as it should. -/
theorem followsShort_of_faucetAddress {e e' : Event} (h : e'.faucetAddress? = none) :
    FollowsShort lib minAmount e e' :=
  fun _ ha => by rw [h] at ha; cases ha

theorem requestsFollowShort_append {evs₁ evs₂ : List Event}
    (h₁ : RequestsFollowShort lib minAmount evs₁) (h₂ : RequestsFollowShort lib minAmount evs₂) :
    RequestsFollowShort lib minAmount (evs₁ ++ evs₂) := by
  refine ⟨?_, List.chain'_append.2 ⟨h₁.2, h₂.2, fun _ _ e he =>
    followsShort_of_faucetAddress (h₂.1 e he)⟩⟩
  cases evs₁ with
  | nil => exact h₂.1
  | cons e _ => exact h₁.1

/-- Events with no request among them pass. -/
theorem requestsFollowShort_of_countP {evs : List Event}
    (h : evs.countP Event.isFaucetRequest = 0) : RequestsFollowShort lib minAmount evs := by
  have hnone : ∀ e ∈ evs, e.faucetAddress? = none := fun e he => by
    simpa [Event.isFaucetRequest] using List.countP_eq_zero.1 h e he
  exact ⟨fun e he => hnone e (List.mem_of_mem_head? he),
    (List.pairwise_of_forall_mem_list fun _ _ e he =>
      followsShort_of_faucetAddress (hnone e he)).chain'⟩

/-- A request right after an answer reporting its address short, and then events that pass. -/
theorem requestsFollowShort_request {evs rest : List Event} {e : Event} {url address : String}
    (h : RequestsFollowShort lib minAmount (evs ++ [e])) (he : e.ReportsShort lib minAmount address)
    (r : Reply (Call.faucetPost url address).Resp) (hrest : RequestsFollowShort lib minAmount rest) :
    RequestsFollowShort lib minAmount (evs ++ [e] ++ .call (.faucetPost url address) r :: rest) := by
  refine ⟨?_, List.chain'_append.2 ⟨h.2, List.chain'_cons'.2 ⟨fun y hy =>
    followsShort_of_faucetAddress (hrest.1 y hy), hrest.2⟩, fun x hx y hy => ?_⟩⟩
  · cases evs with
    | nil => exact h.1
    | cons e' _ => exact h.1
  · simp only [List.getLast?_append, List.getLast?_singleton, Option.mem_def] at hx
    cases hx
    cases Option.mem_def.1 hy
    rintro _ ⟨⟩
    exact he

end Requests

/-- Only a call to the faucet is a faucet request. -/
theorem Event.outside_of_isFaucetRequest {ks : List CallKind} (h : CallKind.faucetPost ∉ ks) :
    ∀ e : Event, e.isFaucetRequest = true → e.outside ks = true
  | .call (.faucetPost _ _) _, _ => by simpa [Event.outside, Call.kind] using h
  | .call (.account _) _, h' | .call (.balance _) _, h' | .call (.allBalances _) _, h'
  | .call (.smartContractState _) _, h' | .call (.broadcastTx _) _, h' | .call (.getTx _) _, h'
  | .call .getNodeInfo _, h' | .call (.restGet _) _, h' | .call (.readFile _) _, h'
  | .sleep _, h' => nomatch h'

/-- Every run of `x`, whether it returns or raises, asks the faucet only for addresses that the
node has just reported short of `minAmount`. -/
def AsksOnlyWhenShort {α : Type} (lib : Lib) (minAmount : Int) (x : Ledger α) : Prop :=
  Appends (RequestsFollowShort lib minAmount) x

section Closure

variable {α β : Type} {lib : Lib} {minAmount : Int} {x : Ledger α} {f : α → Ledger β}

/-- A run that makes no faucet request asks for nothing. -/
theorem asksOnlyWhenShort_of_addsAtMost (hx : AddsAtMost Event.isFaucetRequest 0 x) :
    AsksOnlyWhenShort lib minAmount x :=
  Appends.mono hx fun _ h => requestsFollowShort_of_countP (Nat.le_zero.1 h)

/-- Requests that follow answers reporting their address short are kept by concatenation. -/
theorem concat_requestsFollowShort : Concat (RequestsFollowShort lib minAmount) :=
  ⟨requestsFollowShort_of_countP rfl, requestsFollowShort_append⟩

end Closure

/-! ## The balances query ends with its answer -/

namespace CosmosLedger

variable (lib : Lib) (self : CosmosLedger)

/-- A balances query that returned ended with the node's answer, listing the coins it returned. -/
theorem getBalances_ends_with_answer {address : String} {w w' : World} {balances : List Coin}
    (h : self.getBalances address w = .ok balances w') :
    ∃ evs res, w'.trace = w.trace ++ (evs ++ [.call (.allBalances ⟨address, ""⟩) (.value res)]) ∧
      res.balances = balances := by
  obtain ⟨⟨_, res⟩, w₁, hl, hm⟩ := bind_eq_ok.1 h
  cases res with
  | none => cases hm
  | some res =>
    cases hm
    obtain ⟨evs, ht⟩ := retryLoop_ends_with_value _ _ hl
    exact ⟨evs, res, ht, rfl⟩

/-! ## An attempt in two halves -/

/-- How an attempt reads the balance off the coins the node listed. -/
def readBalance (balances : List Coin) : Ledger Int :=
  match balances with
  | coin :: _ => ofExcept (lib.intOfStr coin.amount)
  | [] => pure 0

/-- What an attempt does once it has found the balance short: claim from the faucet, and wait. -/
def askFaucet (address : String) : Ledger Bool := do
  let _response ← attr "status_code" (← call (.faucetPost self.faucetClaimsUrl address))
  sleep self.faucetRetryInterval
  pure false

/-- An attempt reads the balances, reads the balance off them, and asks the faucet when it is
short. -/
theorem faucetAttempt_eq (minAmount : Int) (address : String) :
    self.faucetAttempt lib minAmount address = self.getBalances address >>= fun balances =>
      readBalance lib balances >>= fun balance =>
        if balance < minAmount then self.askFaucet address else pure true := by
  unfold faucetAttempt
  congr 1
  funext balances
  cases balances <;> rfl

/-- Reading the balance changes nothing, and a balance read short comes from coins short of the
threshold. -/
theorem readBalance_eq_ok (minAmount : Int) {balances : List Coin} {w w' : World} {balance : Int}
    (h : readBalance lib balances w = .ok balance w') :
    w' = w ∧ (balance < minAmount → ShortOf lib minAmount balances) := by
  cases balances with
  | nil => cases h; exact ⟨rfl, id⟩
  | cons coin _ =>
    cases hp : lib.intOfStr coin.amount <;> rw [readBalance, hp] at h <;> cases h
    exact ⟨rfl, fun hlow => ⟨_, hp, hlow⟩⟩

theorem readBalance_eq_error {balances : List Coin} {w w' : World} {e : Exc}
    (h : readBalance lib balances w = .error e w') : w' = w := by
  cases balances with
  | nil => cases h
  | cons coin _ => cases hp : lib.intOfStr coin.amount <;> rw [readBalance, hp] at h <;> cases h; rfl

/-- The claim is made whatever happens next: it raises right after the request, if the faucet
raises or answers `None`, and otherwise waits and returns. -/
theorem askFaucet_spec (address : String) (w : World) :
    (∃ e, self.askFaucet address w = .error e (w.afterCall (.faucetPost self.faucetClaimsUrl address))) ∨
    self.askFaucet address w = .ok false
      { w.afterCall (.faucetPost self.faucetClaimsUrl address) with
        trace := (w.afterCall (.faucetPost self.faucetClaimsUrl address)).trace ++
          [.sleep self.faucetRetryInterval] } := by
  unfold askFaucet
  cases hr : w.replies 0 (.faucetPost self.faucetClaimsUrl address) with
  | raise e => exact .inl ⟨e, by rw [bind_of_error (call_of_raise hr)]⟩
  | none => exact .inl ⟨_, by rw [bind_of_ok (call_of_none hr)]; rfl⟩
  | value v => exact .inr (by rw [bind_of_ok (call_of_value hr)]; rfl)

theorem getBalances_asksNothing (address : String) :
    AddsAtMost Event.isFaucetRequest 0 (self.getBalances address) :=
  (self.getBalances_emits address).addsAtMost (Event.outside_of_isFaucetRequest (by decide))

/-! ## The refill -/

/-- **An attempt asks only when it found the balance short.**  Its balances query asks for
nothing and ends with the node's answer; the request, if it makes one, comes right after it, and
only when the coins listed read as short. -/
theorem faucetAttempt_asksOnlyWhenShort (minAmount : Int) (address : String) :
    AsksOnlyWhenShort lib minAmount (self.faucetAttempt lib minAmount address) := fun w => by
  have hq : AsksOnlyWhenShort lib minAmount (self.getBalances address) :=
    asksOnlyWhenShort_of_addsAtMost (self.getBalances_asksNothing address)
  rw [faucetAttempt_eq, bind_apply]
  cases hb : self.getBalances address w with
  | error e w₁ => exact hq.of_error hb
  | ok balances w₁ =>
    obtain ⟨evs₁, res, ht₁, rfl⟩ := self.getBalances_ends_with_answer hb
    have h₁ : RequestsFollowShort lib minAmount
        (evs₁ ++ [.call (.allBalances ⟨address, ""⟩) (.value res)]) := by
      obtain ⟨evs, ht, hf⟩ := hq.of_ok hb
      rwa [List.append_cancel_left (ht.symm.trans ht₁)] at hf
    dsimp only
    rw [bind_apply]
    cases hr : readBalance lib res.balances w₁ with
    | error e w₂ =>
      cases readBalance_eq_error lib hr
      exact ⟨_, ht₁, h₁⟩
    | ok balance w₂ =>
      obtain ⟨rfl, hshort⟩ := readBalance_eq_ok lib minAmount hr
      dsimp only
      split
      · have he : Event.ReportsShort lib minAmount address
            (.call (.allBalances ⟨address, ""⟩) (.value res)) := ⟨rfl, hshort ‹_›⟩
        have hnil : RequestsFollowShort lib minAmount [] := requestsFollowShort_of_countP rfl
        have hsleep : RequestsFollowShort lib minAmount [.sleep self.faucetRetryInterval] :=
          requestsFollowShort_of_countP rfl
        rcases self.askFaucet_spec address w₂ with ⟨e, he'⟩ | he' <;> rw [he']
        · exact ⟨_, by simp [endWorld, World.afterCall, ht₁], requestsFollowShort_request h₁ he
            (w₂.replies 0 (.faucetPost self.faucetClaimsUrl address)) hnil⟩
        · exact ⟨_, by simp [endWorld, World.afterCall, ht₁], requestsFollowShort_request h₁ he
            (w₂.replies 0 (.faucetPost self.faucetClaimsUrl address)) hsleep⟩
      · exact ⟨_, ht₁, h₁⟩

theorem faucetLoop_asksOnlyWhenShort (minAmount : Int) (address : String) :
    ∀ k, AsksOnlyWhenShort lib minAmount (self.faucetLoop lib minAmount address k)
  | 0 => concat_requestsFollowShort.pure _
  | k + 1 => concat_requestsFollowShort.bind
    (appends_observe (self.faucetAttempt_asksOnlyWhenShort lib minAmount address)) fun
    | .ok true => concat_requestsFollowShort.pure _
    | .ok false => faucetLoop_asksOnlyWhenShort minAmount address k
    | .error _ => concat_requestsFollowShort.bind (appends_sleep (requestsFollowShort_of_countP rfl))
      fun _ => faucetLoop_asksOnlyWhenShort minAmount address k

/-- The refill of each address asks only when it has just found that address short. -/
theorem refillWealthFromFaucet_asksOnlyWhenShort (addresses : List String) (amount : Option Int) :
    AsksOnlyWhenShort lib (minAmountRequired amount)
      (self.refillWealthFromFaucet lib addresses amount) :=
  concat_requestsFollowShort.forM fun _ _ => self.faucetLoop_asksOnlyWhenShort lib _ _ _

/-- `ensure_funds` refills from the faucet with the default threshold, or has the validator send
funds, which asks the faucet for nothing. -/
theorem ensureFunds_asksOnlyWhenShort (addresses : List String) (amountCoins : Option (List Coin)) :
    AsksOnlyWhenShort lib 500000000 (self.ensureFunds lib addresses amountCoins) := by
  unfold ensureFunds
  split
  · exact self.refillWealthFromFaucet_asksOnlyWhenShort lib addresses none
  · split
    · exact asksOnlyWhenShort_of_addsAtMost (addsAtMost_throw _)
    · exact asksOnlyWhenShort_of_addsAtMost
        ((self.refillWealthFromValidator_emits lib _ _ _).addsAtMost
          (Event.outside_of_isFaucetRequest (by decide)))
  · exact asksOnlyWhenShort_of_addsAtMost (addsAtMost_throw _)

/-- **The faucet is asked only for an address found short.**  For every list of addresses and
every reply of the node, every faucet request that `refill_wealth_from_faucet` makes, whether a
later call raises or not, comes right after the node's answer to a balances query for the same
address, listing coins whose first amount reads below the threshold (`amount`, or `500000000`
when it is `None` or `0`), or no coin at all; and so does every request of `ensure_funds`, with
the threshold `500000000`, since its validator branch asks the faucet for nothing. -/
theorem refills_askOnlyWhenShort :
    (∀ addresses amount, AsksOnlyWhenShort lib (minAmountRequired amount)
      (self.refillWealthFromFaucet lib addresses amount)) ∧
    (∀ addresses amountCoins,
      AsksOnlyWhenShort lib 500000000 (self.ensureFunds lib addresses amountCoins)) :=
  ⟨self.refillWealthFromFaucet_asksOnlyWhenShort lib, self.ensureFunds_asksOnlyWhenShort lib⟩

end CosmosLedger

end Cosmpy
