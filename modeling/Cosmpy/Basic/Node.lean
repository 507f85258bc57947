import Cosmpy.Basic.Types

/-!
# Calls, the world that answers them, and the `Ledger` monad

Every function of `ledger.py` that does more than build a message talks to something outside
the process: the node's gRPC or REST services, the faucet, the file system, the clock.  This
file models that boundary once, so that every later definition is a plain `do` block over it.

* A `Call` is one request the client makes, and `Call.Resp` the type of its answer.
* A `Reply` is what the other side does with a call: raise, answer `None`, or answer a value.
  Python's stubs are typed to return a message, but the module tests for `None` after most
  calls, so `None` is allowed everywhere.
* The `World` holds the replies still to come, as a stream: the `i`-th call from now, whatever
  it is, is answered by `replies i`.  Every theorem quantifies over the stream, so it holds for
  every sequence of answers, and since a run is deterministic this is the same as every
  strategy of an adversary that sees the run so far.
* The `World` also holds the trace of what the client did, oldest first (each call with its
  reply, each sleep with its length), and the `account_number` attribute of the one
  `CosmosCrypto` a call signs with, the only object of the caller's that the module mutates.
* `Ledger` is `EStateM Exc World`: a Python exception is an `Exc`, and, as in Python, what
  happened before it is not undone.

The lemmas at the end compute `call`, `sleep` and `observe` and let a proof step through a
`do` block one bind at a time, so that no later proof unfolds `EStateM`.
-/

set_option autoImplicit false

namespace Cosmpy

/-- What the other side does with one call. -/
inductive Reply (α : Type) where
  | raise (e : Exc)
  | none
  | value (a : α)

/-- One request the client makes to something outside it. -/
inductive Call where
  | account (request : QueryAccountRequest)
  | balance (request : QueryBalanceRequest)
  | allBalances (request : QueryBalanceRequest)
  | smartContractState (request : QuerySmartContractStateRequest)
  | broadcastTx (request : BroadcastTxRequest)
  | getTx (request : GetTxRequest)
  | getNodeInfo
  | restGet (path : String)
  /-- `requests.post(url, json={"address": address})`. -/
  | faucetPost (url : String) (address : String)
  /-- `open(path, "rb").read()`. -/
  | readFile (path : String)

/-- The type of the answer to a call. -/
def Call.Resp : Call → Type
  | .account _ => QueryAccountResponse
  | .balance _ => QueryBalanceResponse
  | .allBalances _ => QueryAllBalancesResponse
  | .smartContractState _ => QuerySmartContractStateResponse
  | .broadcastTx _ => BroadcastTxResponse
  | .getTx _ => GetTxResponse
  | .getNodeInfo => GetNodeInfoResponse
  | .restGet _ => String
  | .faucetPost _ _ => HttpResponse
  | .readFile _ => Bytes

/-- One thing the client did. -/
inductive Event where
  | call (c : Call) (reply : Reply c.Resp)
  | sleep (seconds : Seconds)

/-- Everything outside the client that a run can observe or change. -/
structure World where
  /-- The replies still to come: the `i`-th call from now, `c`, is answered by `replies i c`. -/
  replies : Nat → (c : Call) → Reply c.Resp
  /-- What the client has done, oldest first. -/
  trace : List Event
  /-- `crypto.account_number` of the signer's `CosmosCrypto`. -/
  accountNumber : Option Nat

/-- Python code of the module: it changes the world, and may raise. -/
abbrev Ledger := EStateM Exc World

/-- The world once call `c` has been answered: the reply is used up and recorded. -/
def World.afterCall (w : World) (c : Call) : World :=
  { w with replies := fun i => w.replies (i + 1), trace := w.trace ++ [.call c (w.replies 0 c)] }

namespace Ledger

/-- Make call `c`: the first pending reply answers it, and the call is recorded with it. -/
def call (c : Call) : Ledger (Option c.Resp) := fun w =>
  match w.replies 0 c with
  | .raise e => .error e (w.afterCall c)
  | .none => .ok none (w.afterCall c)
  | .value r => .ok (some r) (w.afterCall c)

/-- `time.sleep(seconds)`. -/
def sleep (seconds : Seconds) : Ledger Unit := fun w =>
  .ok () { w with trace := w.trace ++ [.sleep seconds] }

/-- `try: x` followed by `except Exception as e:` — how `x` ended, with its effects kept. -/
def observe {α : Type} (x : Ledger α) : Ledger (Except Exc α) :=
  tryCatch (Except.ok <$> x) fun e => pure (.error e)

/-- An attribute read on a value that may be `None`: Python raises `AttributeError` on `None`. -/
def attr {α : Type} (name : String) : Option α → Ledger α
  | some a => pure a
  | none => throw (Exc.raise .attributeError ("'NoneType' object has no attribute '" ++ name ++ "'"))

/-! ## Running a `do` block one step at a time -/

section Run

variable {α β : Type} {x : Ledger α} {f : α → Ledger β} {w w' : World} {a : α} {e : Exc}

theorem bind_apply (x : Ledger α) (f : α → Ledger β) (w : World) :
    (x >>= f) w = match x w with
      | .ok a w' => f a w'
      | .error e w' => .error e w' := by
  cases h : x w <;> simp only [bind, EStateM.bind, h]

theorem bind_of_ok (h : x w = .ok a w') : (x >>= f) w = f a w' := by
  rw [bind_apply, h]

theorem bind_of_error (h : x w = .error e w') : (x >>= f) w = .error e w' := by
  rw [bind_apply, h]

/-- The bind lemma: a `do` block returned iff its first step returned and the rest returned. -/
theorem bind_eq_ok {b : β} :
    (x >>= f) w = .ok b w' ↔ ∃ a w₁, x w = .ok a w₁ ∧ f a w₁ = .ok b w' := by
  rw [bind_apply]
  cases x w with
  | ok a w₁ => exact ⟨fun h => ⟨a, w₁, rfl, h⟩, fun ⟨_, _, h, hf⟩ => by cases h; exact hf⟩
  | error e w₁ => simp

@[simp] theorem pure_apply (b : β) : (pure b : Ledger β) w = .ok b w := rfl

@[simp] theorem get_apply : (get : Ledger World) w = .ok w w := rfl

@[simp] theorem modify_apply (g : World → World) : (modify g : Ledger Unit) w = .ok () (g w) := rfl

@[simp] theorem throw_apply (e : Exc) : (throw e : Ledger β) w = .error e w := rfl

theorem observe_of_ok (h : x w = .ok a w') : observe x w = .ok (.ok a) w' := by
  show EStateM.tryCatch _ _ w = _
  simp only [EStateM.tryCatch, Functor.map, EStateM.map, h]

theorem observe_of_error (h : x w = .error e w') : observe x w = .ok (.error e) w' := by
  show EStateM.tryCatch _ _ w = _
  simp only [EStateM.tryCatch, Functor.map, EStateM.map, h]
  rfl

/-- `observe` never raises: it ends where `x` ends, with how `x` ended. -/
theorem observe_apply (x : Ledger α) (w : World) :
    observe x w = match x w with
      | .ok a w' => .ok (.ok a) w'
      | .error e w' => .ok (.error e) w' := by
  cases h : x w with
  | ok a w' => exact observe_of_ok h
  | error e w' => exact observe_of_error h

@[simp] theorem ofExcept_ok (b : β) : (ofExcept (.ok b) : Ledger β) w = .ok b w := rfl

@[simp] theorem ofExcept_error (e : Exc) : (ofExcept (.error e) : Ledger β) w = .error e w :=
  rfl

@[simp] theorem attr_some (name : String) (b : β) : attr name (some b) w = .ok b w := rfl

@[simp] theorem sleep_apply (s : Seconds) :
    sleep s w = .ok () { w with trace := w.trace ++ [.sleep s] } := rfl

theorem sleep_bind (s : Seconds) (f : Unit → Ledger β) :
    (sleep s >>= f) w = f () { w with trace := w.trace ++ [.sleep s] } := rfl

theorem call_of_raise {c : Call} (h : w.replies 0 c = .raise e) :
    call c w = .error e (w.afterCall c) := by
  simp only [call, h]

theorem call_of_none {c : Call} (h : w.replies 0 c = .none) :
    call c w = .ok none (w.afterCall c) := by
  simp only [call, h]

theorem call_of_value {c : Call} {r : c.Resp} (h : w.replies 0 c = .value r) :
    call c w = .ok (some r) (w.afterCall c) := by
  simp only [call, h]

end Run

end Ledger

end Cosmpy
