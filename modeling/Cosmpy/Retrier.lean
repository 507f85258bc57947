import Cosmpy.Basic.Node

/-!
# `Retrier.call_with_retry`

`Retrier.callWithRetry` is the loop of `Retrier.call_with_retry`, line for line: up to
`n_retries` attempts, a `break` on the first response that is not `None`, a sleep after an
attempt that raised, and on exhaustion `exception_type(...)` raised `from` the last exception.
`broadcast_tx` and `get_tx` use it to wrap a single call on the node, and that is the case worked
out here: `r.callWithRetry (Ledger.call c)`.

When attempt `j` is answered by `outs j`, the loop is a function of `outs` alone:

* `lastRaise outs n` is the exception of the latest attempt among the first `n` that raised;
* `retryEvents c s m outs` is what `m` attempts leave in the trace: each call with its reply,
  and a sleep of `s` right after each one that raised;
* `World.afterAttempts c s m w` is the world once `m` attempts have been made.

`callWithRetry_of_firstValue` and `callWithRetry_of_no_value` compute the call for every budget
and every stream of replies: it stops at the first value or after the budget, and leaves
exactly `retryEvents` behind.  `callWithRetry_attempts` reads off how many calls are made and
how the call ends.  The sleeps are not the schedule the spec describes: an attempt answered by
`None` is followed by no sleep, and an attempt that raised is followed by one even when it was
the last, so a run sleeps once for each attempt that raised (`retryEvents_sleeps`).
-/

set_option autoImplicit false

namespace Cosmpy

open Ledger

/-! ## Replies, one attempt at a time -/

namespace Reply

variable {α : Type}

/-- The attempt returned something other than `None`. -/
def isValue : Reply α → Bool
  | .value _ => true
  | _ => false

/-- The attempt raised. -/
def isRaise : Reply α → Bool
  | .raise _ => true
  | _ => false

/-- What an attempt that did not raise returned: `None`, or the value. -/
def returned? : Reply α → Option α
  | .value a => some a
  | _ => Option.none

/-- The exception an attempt raised, if it did. -/
def raised? : Reply α → Option Exc
  | .raise e => some e
  | _ => Option.none

end Reply

/-- A stream of replies without its first one. -/
def shift {α : Type} (outs : Nat → α) : Nat → α := fun j => outs (j + 1)

/-- The exception of the latest attempt among the first `n` that raised. -/
def lastRaise {α : Type} (outs : Nat → Reply α) : Nat → Option Exc
  | 0 => none
  | n + 1 => (outs n).raised?.or (lastRaise outs n)

/-- Peeling the first attempt off instead of the last, as the loop does. -/
theorem lastRaise_succ_shift {α : Type} (outs : Nat → Reply α) (n : Nat) :
    lastRaise outs (n + 1) = (lastRaise (shift outs) n).or (outs 0).raised? := by
  induction n with
  | zero => simp [lastRaise]
  | succ n ih => rw [lastRaise, ih, lastRaise, Option.or_assoc]; rfl

/-! ## The trace of a run of attempts -/

/-- The events one attempt on `c` leaves when answered by `o`: the call, then a sleep of `s` if
it raised. -/
def attemptEvents (c : Call) (s : Seconds) (o : Reply c.Resp) : List Event :=
  .call c o :: match o with
    | .raise _ => [.sleep s]
    | _ => []

/-- The events of `m` attempts on `c`, the `j`-th answered by `outs j`. -/
def retryEvents (c : Call) (s : Seconds) : Nat → (Nat → Reply c.Resp) → List Event
  | 0, _ => []
  | m + 1, outs => attemptEvents c s (outs 0) ++ retryEvents c s m (shift outs)

/-- The event is a call. -/
def Event.isCall : Event → Bool
  | .call .. => true
  | .sleep _ => false

theorem retryEvents_calls (c : Call) (s : Seconds) (m : Nat) (outs : Nat → Reply c.Resp) :
    (retryEvents c s m outs).countP Event.isCall = m := by
  induction m generalizing outs with
  | zero => rfl
  | succ m ih =>
    rw [retryEvents, List.countP_append, ih]
    cases outs 0 <;> simp [attemptEvents, Event.isCall, Nat.add_comm]

/-- The event is a sleep. -/
def Event.isSleep : Event → Bool
  | .sleep _ => true
  | .call .. => false

/-- `m` attempts sleep once for each attempt that raised, the last one included, and never after
one that returned. -/
theorem retryEvents_sleeps (c : Call) (s : Seconds) (m : Nat) (outs : Nat → Reply c.Resp) :
    (retryEvents c s m outs).countP Event.isSleep =
      ((List.range m).filter fun i => (outs i).isRaise).length := by
  induction m generalizing outs with
  | zero => rfl
  | succ m ih =>
    rw [retryEvents, List.countP_append, ih, List.range_succ_eq_map, List.filter_cons]
    cases h : outs 0 <;> simp [h, attemptEvents, Event.isSleep, Reply.isRaise, List.filter_map, shift,
      Function.comp_def, Nat.add_comm]

/-- The world once one attempt on `c` has been answered, and slept after if it raised. -/
def World.afterAttempt (w : World) (c : Call) (s : Seconds) : World :=
  { w with replies := fun i => w.replies (i + 1), trace := w.trace ++ attemptEvents c s (w.replies 0 c) }

/-- The world once `m` attempts on `c` have been made. -/
def World.afterAttempts (c : Call) (s : Seconds) : Nat → World → World
  | 0, w => w
  | m + 1, w => World.afterAttempts c s m (w.afterAttempt c s)

theorem World.afterAttempts_trace (c : Call) (s : Seconds) (m : Nat) (w : World) :
    (World.afterAttempts c s m w).trace = w.trace ++ retryEvents c s m fun i => w.replies i c := by
  induction m generalizing w with
  | zero => simp [World.afterAttempts, retryEvents]
  | succ m ih =>
    rw [World.afterAttempts, ih, World.afterAttempt, retryEvents, List.append_assoc]
    rfl

/-! ## The loop

`call_with_retry`, `query_contract_state`, `get_balance` and `get_balances` run the same loop
around one call, each with its own interval; `retryLoop` is that loop, and each of them is
written with it. -/

/-- `while attempt < n: attempt += 1; try: response = call(); if response is not None: break;
except Exception as e: last_exception = e; sleep(interval)`, with `k` attempts left, carrying
`last_exception` and `response`. -/
def retryLoop {α : Type} (interval : Seconds) (call : Ledger (Option α)) :
    Nat → Option Exc → Option α → Ledger (Option Exc × Option α)
  | 0, lastException, response => pure (lastException, response)
  | k + 1, lastException, response => do
    match ← observe call with
    | .ok (some a) => pure (lastException, some a)
    | .ok none => retryLoop interval call k lastException none
    | .error e =>
      sleep interval
      retryLoop interval call k (some e) response

section RetryLoop

variable (s : Seconds) (c : Call)

/-- The loop catches everything its call raises, so the loop itself never raises. -/
theorem retryLoop_isOk {α : Type} (call : Ledger (Option α)) (k : Nat) (le : Option Exc)
    (response : Option α) (w : World) :
    ∃ p w', retryLoop s call k le response w = .ok p w' := by
  induction k generalizing le response w with
  | zero => exact ⟨_, _, rfl⟩
  | succ k ih =>
    rw [retryLoop, bind_apply, observe_apply]
    cases call w with
    | ok o w' => cases o with
      | none => exact ih _ _ _
      | some a => exact ⟨_, _, rfl⟩
    | error e w' => exact ih _ _ _

theorem retryLoop_succ_of_value {k : Nat} {le : Option Exc} {w : World} {v : c.Resp}
    (h : w.replies 0 c = .value v) :
    retryLoop s (call c) (k + 1) le none w = .ok (le, some v) (w.afterAttempt c s) := by
  rw [retryLoop, bind_of_ok (observe_of_ok (call_of_value h))]
  simp [World.afterAttempt, World.afterCall, attemptEvents, h]

theorem retryLoop_succ_of_isValue_false {k : Nat} {le : Option Exc} {w : World}
    (h : (w.replies 0 c).isValue = false) :
    retryLoop s (call c) (k + 1) le none w =
      retryLoop s (call c) k ((w.replies 0 c).raised?.or le) none (w.afterAttempt c s) := by
  cases h0 : w.replies 0 c with
  | value v => simp [h0, Reply.isValue] at h
  | none =>
    rw [retryLoop, bind_of_ok (observe_of_ok (call_of_none h0))]
    simp [World.afterAttempt, World.afterCall, attemptEvents, h0, Reply.raised?]
  | raise e =>
    rw [retryLoop, bind_of_ok (observe_of_error (call_of_raise h0))]
    simp [World.afterAttempt, World.afterCall, attemptEvents, h0, Reply.raised?, sleep_bind]

/-- The loop stops at the first attempt answered by a value. -/
theorem retryLoop_of_firstValue {j k : Nat} {le : Option Exc} {w : World} {v : c.Resp}
    (hj : j < k) (hpre : ∀ i < j, (w.replies i c).isValue = false)
    (hv : w.replies j c = .value v) :
    retryLoop s (call c) k le none w =
      .ok ((lastRaise (fun i => w.replies i c) j).or le, some v)
        (World.afterAttempts c s (j + 1) w) := by
  induction j generalizing k le w with
  | zero =>
    obtain ⟨k, rfl⟩ : ∃ k', k = k' + 1 := ⟨k - 1, by omega⟩
    rw [retryLoop_succ_of_value s c hv]
    rfl
  | succ j ih =>
    obtain ⟨k, rfl⟩ : ∃ k', k = k' + 1 := ⟨k - 1, by omega⟩
    rw [retryLoop_succ_of_isValue_false s c (hpre 0 (by omega)),
      ih (by omega) (fun i hi => hpre (i + 1) (by omega)) hv, lastRaise_succ_shift, Option.or_assoc]
    rfl

/-- With no value among the first `k` replies, the loop uses up all `k` attempts. -/
theorem retryLoop_of_no_value {k : Nat} {le : Option Exc} {w : World}
    (h : ∀ i < k, (w.replies i c).isValue = false) :
    retryLoop s (call c) k le none w =
      .ok ((lastRaise (fun i => w.replies i c) k).or le, none) (World.afterAttempts c s k w) := by
  induction k generalizing le w with
  | zero => rfl
  | succ k ih =>
    rw [retryLoop_succ_of_isValue_false s c (h 0 (by omega)), ih (fun i hi => h (i + 1) (by omega)),
      lastRaise_succ_shift, Option.or_assoc]
    rfl

end RetryLoop

/-! ## The retrier -/

/-- `Retrier(n_retries, retry_interval, log_retries, call_name, exception_type)`; logging is not
modelled, so `log_retries` is left out. -/
structure Retrier where
  nRetries : Int
  retryInterval : Seconds
  callName : String := "execution"
  exceptionType : ExcKind := .broadcastException

namespace Retrier

/-- `raise self.exception_type(f"{self.call_name} failed after multiple attempts:
{last_exception}") from last_exception`. -/
def exhausted (r : Retrier) (lastException : Option Exc) : Exc :=
  ⟨r.exceptionType, r.callName ++ " failed after multiple attempts: " ++ Exc.str lastException,
    lastException⟩

/-- `Retrier.call_with_retry(call)`. -/
def callWithRetry {α : Type} (r : Retrier) (call : Ledger (Option α)) : Ledger α := do
  let (lastException, response) ← retryLoop r.retryInterval call r.nRetries.toNat none none
  match response with
  | some a => pure a
  | none => throw (r.exhausted lastException)

variable (r : Retrier) (c : Call)

theorem callWithRetry_of_firstValue {j : Nat} {w : World} {v : c.Resp}
    (hj : j < r.nRetries.toNat) (hpre : ∀ i < j, (w.replies i c).isValue = false)
    (hv : w.replies j c = .value v) :
    r.callWithRetry (call c) w = .ok v (World.afterAttempts c r.retryInterval (j + 1) w) := by
  rw [callWithRetry, bind_of_ok (retryLoop_of_firstValue _ c hj hpre hv)]
  rfl

theorem callWithRetry_of_no_value {w : World}
    (h : ∀ i < r.nRetries.toNat, (w.replies i c).isValue = false) :
    r.callWithRetry (call c) w =
      .error (r.exhausted (lastRaise (fun i => w.replies i c) r.nRetries.toNat))
        (World.afterAttempts c r.retryInterval r.nRetries.toNat w) := by
  rw [callWithRetry, bind_of_ok (retryLoop_of_no_value _ c h), Option.or_none]
  rfl

/-- `call_with_retry` raises only when no attempt within its budget got a value, and then it
raises its own exception, caused by the latest one an attempt raised. -/
theorem callWithRetry_eq_error {w w' : World} {e : Exc}
    (h : r.callWithRetry (call c) w = .error e w') :
    (∀ j < r.nRetries.toNat, (w.replies j c).isValue = false) ∧
      e = r.exhausted (lastRaise (fun i => w.replies i c) r.nRetries.toNat) := by
  have hno : ∀ j < r.nRetries.toNat, (w.replies j c).isValue = false := by
    classical
    by_contra hv
    push_neg at hv
    obtain ⟨hj, hval⟩ := Nat.find_spec hv
    have hpre : ∀ i < Nat.find hv, (w.replies i c).isValue = false := fun i hi => by
      have := Nat.find_min hv hi
      push_neg at this
      exact this (by omega)
    generalize Nat.find hv = j at hj hval hpre
    cases hr : w.replies j c with
    | value v => rw [callWithRetry_of_firstValue r c hj hpre hr] at h; cases h
    | raise _ | none => simp [hr, Reply.isValue] at hval
  rw [callWithRetry_of_no_value r c hno] at h
  cases h
  exact ⟨hno, rfl⟩

/-- **How many times `call_with_retry` calls, and how it ends.**  With budget `n` and the `j`-th
attempt answered by `outs j`: if attempt `j < max n 0` is the first answered by a value, the
call is made `j + 1` times and that value is returned; if no attempt within the budget is, the
call is made `max n 0` times and `exception_type` is raised with the latest raised exception as
its cause. -/
theorem callWithRetry_attempts (r : Retrier) (c : Call) (w : World) :
    (∀ j v, j < r.nRetries.toNat → (∀ i < j, (w.replies i c).isValue = false) →
      w.replies j c = .value v →
      ∃ w', r.callWithRetry (call c) w = .ok v w' ∧
        (w'.trace.drop w.trace.length).countP Event.isCall = j + 1) ∧
    ((∀ j < r.nRetries.toNat, (w.replies j c).isValue = false) →
      ∃ w', r.callWithRetry (call c) w =
          .error ⟨r.exceptionType,
            r.callName ++ " failed after multiple attempts: " ++
              Exc.str (lastRaise (fun i => w.replies i c) r.nRetries.toNat),
            lastRaise (fun i => w.replies i c) r.nRetries.toNat⟩ w' ∧
        (w'.trace.drop w.trace.length).countP Event.isCall = r.nRetries.toNat) := by
  constructor
  · intro j v hj hpre hv
    refine ⟨_, callWithRetry_of_firstValue r c hj hpre hv, ?_⟩
    simp [World.afterAttempts_trace, retryEvents_calls]
  · intro h
    refine ⟨_, callWithRetry_of_no_value r c h, ?_⟩
    simp [World.afterAttempts_trace, retryEvents_calls]

end Retrier

end Cosmpy
