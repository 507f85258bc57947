import Cosmpy.Tx.Build

/-!
# Broadcasting a transaction and waiting for it

`broadcastTx` is `broadcast_tx`: the serialised transaction is submitted in sync mode through a
`Retrier` with the workflow's message budget; a response whose code is not `0` is a rejection,
raised at once as a `BroadcastException`; a response with code `0` hands its `txhash` to
`getTx`, which polls `GetTx` through a second `Retrier`, with its own budget and interval.

`broadcastTx_spec` is the whole pipeline for every pair of budgets and every stream of replies:
which calls are made, in which order and with which requests, and how the call ends.  In
particular a rejected transaction is never polled for, the poll asks only for the hash the node
acknowledged, and the first response the poll gets is returned whatever its own code.
-/

set_option autoImplicit false

namespace Cosmpy

open Ledger

/-- `CLIENT_CODE_MESSAGE_SUCCESSFUL`. -/
def clientCodeMessageSuccessful : Nat := 0

namespace CosmosLedger

variable (lib : Lib) (self : CosmosLedger)

/-- The `Retrier` of `get_tx`. -/
def getTxRetrier : Retrier :=
  { nRetries := self.nGetResponseRetries, retryInterval := self.getResponseRetryInterval,
    callName := "Getting tx response" }

/-- `get_tx(txhash)`. -/
def getTx (txhash : String) : Ledger GetTxResponse :=
  self.getTxRetrier.callWithRetry (call (.getTx ⟨txhash⟩))

/-- The `Retrier` of `broadcast_tx`, with `retries` attempts. -/
def broadcastRetrier (retries : Int) : Retrier :=
  { nRetries := retries, retryInterval := self.msgRetryInterval,
    callName := "Transaction broadcasting" }

/-- The request `broadcast_tx` submits for `tx`. -/
def broadcastRequest (tx : Tx) : BroadcastTxRequest := ⟨lib.serializeToString tx, .sync⟩

/-- `broadcast_tx(tx, retries)`. -/
def broadcastTx (tx : Tx) (retries : Option Int) : Ledger GetTxResponse := do
  let broadTxResp ← (self.broadcastRetrier (retries.getD self.nTotalMsgRetries)).callWithRetry
    (call (.broadcastTx (broadcastRequest lib tx)))
  if (broadTxResp : BroadcastTxResponse).txResponse.code ≠ clientCodeMessageSuccessful then
    throw (Exc.raise .broadcastException
      ("Transaction cannot be broadcast: " ++ broadTxResp.txResponse.rawLog))
  self.getTx broadTxResp.txResponse.txhash

/-- `broadcast_tx` once the broadcast has been answered by `resp`. -/
theorem broadcastTx_of_response {tx : Tx} {retries : Option Int} {w w₁ : World}
    {resp : BroadcastTxResponse}
    (h : (self.broadcastRetrier (retries.getD self.nTotalMsgRetries)).callWithRetry
      (call (.broadcastTx (broadcastRequest lib tx))) w = .ok resp w₁) :
    self.broadcastTx lib tx retries w =
      if resp.txResponse.code ≠ 0 then
        .error (Exc.raise .broadcastException
          ("Transaction cannot be broadcast: " ++ resp.txResponse.rawLog)) w₁
      else self.getTx resp.txResponse.txhash w₁ := by
  rw [broadcastTx, bind_of_ok h]
  by_cases hc : resp.txResponse.code = 0 <;> simp [hc, clientCodeMessageSuccessful, bind_apply]

/-- **The broadcast pipeline.**  With broadcast budget `r` and confirmation budget `m`:
`BroadcastTx` is called with the sync-mode serialisation of `tx` until its first answer that is
not `None`.  An answer with a non-zero code is raised as a rejection and no `GetTx` call is made.
An answer with code `0` is followed by `GetTx` calls for its `txhash` only, until the first
answer that is not `None`, which is returned whatever its code.  Running out of either budget
raises the `BroadcastException` of that `Retrier`. -/
theorem broadcastTx_spec (tx : Tx) (retries : Option Int) (w : World) :
    let b : Call := .broadcastTx ⟨lib.serializeToString tx, .sync⟩
    let r := (retries.getD self.nTotalMsgRetries).toNat
    (∀ j (resp : BroadcastTxResponse), j < r → (∀ i < j, (w.replies i b).isValue = false) →
      w.replies j b = .value resp →
      let w₁ := World.afterAttempts b self.msgRetryInterval (j + 1) w
      (resp.txResponse.code ≠ 0 →
        self.broadcastTx lib tx retries w = .error (Exc.raise .broadcastException
          ("Transaction cannot be broadcast: " ++ resp.txResponse.rawLog)) w₁) ∧
      (resp.txResponse.code = 0 →
        let g : Call := .getTx ⟨resp.txResponse.txhash⟩
        let m := self.nGetResponseRetries.toNat
        (∀ k (v : GetTxResponse), k < m → (∀ i < k, (w₁.replies i g).isValue = false) →
          w₁.replies k g = .value v →
          self.broadcastTx lib tx retries w =
            .ok v (World.afterAttempts g self.getResponseRetryInterval (k + 1) w₁)) ∧
        ((∀ k < m, (w₁.replies k g).isValue = false) →
          self.broadcastTx lib tx retries w =
            .error ⟨.broadcastException, "Getting tx response failed after multiple attempts: " ++
                Exc.str (lastRaise (fun i => w₁.replies i g) m),
              lastRaise (fun i => w₁.replies i g) m⟩
              (World.afterAttempts g self.getResponseRetryInterval m w₁)))) ∧
    ((∀ j < r, (w.replies j b).isValue = false) →
      self.broadcastTx lib tx retries w =
        .error ⟨.broadcastException, "Transaction broadcasting failed after multiple attempts: " ++
            Exc.str (lastRaise (fun i => w.replies i b) r), lastRaise (fun i => w.replies i b) r⟩
          (World.afterAttempts b self.msgRetryInterval r w)) := by
  intro b r
  refine ⟨fun j resp hj hpre hv => ?_, fun h => ?_⟩
  · have hb := broadcastTx_of_response lib self
      (Retrier.callWithRetry_of_firstValue (self.broadcastRetrier _) b hj hpre hv)
    refine ⟨fun hc => by rw [hb, if_pos hc]; rfl, fun hc => ?_⟩
    rw [hb, if_neg (not_not.2 hc)]
    exact ⟨fun k v hk hpre' hv' => Retrier.callWithRetry_of_firstValue _ _ hk hpre' hv',
      fun h' => Retrier.callWithRetry_of_no_value _ _ h'⟩
  · exact bind_of_error (Retrier.callWithRetry_of_no_value (self.broadcastRetrier _) b h)

end CosmosLedger

end Cosmpy
