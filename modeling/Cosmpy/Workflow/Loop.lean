import Cosmpy.Basic.Node

/-!
# The outer loop of the contract workflows

`deploy_contract`, `instantiate_contract` and `execute_contract` each wrap a whole
build-sign-broadcast in a loop of their own, with its own budget: an attempt that raises an
exception the loop catches is remembered as `last_exception`, slept on for
`msg_failed_retry_interval` and made again from the start; any other exception propagates; the
first attempt that goes through ends the loop.

`sendLoop` is that loop as `deploy_contract` writes it, over any `submit` (the attempt up to the
confirmed response) and `extract` (what is read off the response).  `attempt` is one pass
through its `try`, and `AttemptEnd` says how the pass ended.  The two other workflows write the
loop differently; `Workflow/Contracts.lean` shows each of them equal to this one.

A run of the loop is a sequence of attempts, each of them a function of the world it starts in:

* `FailedRun m st w st' w'`: `m` attempts in a row raise exceptions the loop catches, each of
  them followed by its sleep;
* `sendLoop_spec`: every run with budget `k` is `m < k` such attempts and then one that goes
  through or raises an exception the loop does not catch, or `k` such attempts; and in each case
  the loop's result is read off that last attempt.
-/

set_option autoImplicit false

namespace Cosmpy

open Ledger

/-- The locals a workflow loop carries from one attempt to the next. -/
structure SendState (β : Type) where
  /-- `res`: the latest confirmed response. -/
  res : Option GetTxResponse := none
  /-- `code_id`, `contract_address`, or the response itself. -/
  result : Option β := none
  lastException : Option Exc := none

/-- How one attempt ends. -/
inductive AttemptEnd (β : Type) where
  /-- It raised `e`, which the loop catches; `res` is the confirmed response, if there was one
  before `e` was raised. -/
  | caught (e : Exc) (res : Option GetTxResponse)
  /-- It raised `e`, which the loop does not catch. -/
  | uncaught (e : Exc)
  /-- The transaction was confirmed with `res`, and `b` was read off it. -/
  | success (res : GetTxResponse) (b : β)

/-- How an exception ends an attempt, by the `except` clauses `catches` stands for. -/
def AttemptEnd.ofExc {β : Type} (catches : ExcKind → Bool) (e : Exc)
    (res : Option GetTxResponse) : AttemptEnd β :=
  if catches e.kind then .caught e res else .uncaught e

theorem AttemptEnd.ofExc_ne_success {β : Type} (catches : ExcKind → Bool) (e : Exc)
    (res₀ : Option GetTxResponse) (res : GetTxResponse) (b : β) :
    AttemptEnd.ofExc catches e res₀ ≠ .success res b := by
  unfold AttemptEnd.ofExc
  split <;> nofun

theorem AttemptEnd.ofExc_eq_uncaught {β : Type} {catches : ExcKind → Bool} {e e' : Exc}
    {res : Option GetTxResponse} (h : (AttemptEnd.ofExc catches e res : AttemptEnd β) = .uncaught e') :
    e' = e ∧ catches e.kind = false := by
  unfold AttemptEnd.ofExc at h
  split at h
  · cases h
  · cases h
    exact ⟨rfl, Bool.eq_false_iff.2 ‹_›⟩

theorem AttemptEnd.ofExc_eq_caught {β : Type} {catches : ExcKind → Bool} {e e' : Exc}
    {res₀ res : Option GetTxResponse}
    (h : (AttemptEnd.ofExc catches e res₀ : AttemptEnd β) = .caught e' res) :
    e' = e ∧ catches e.kind = true := by
  unfold AttemptEnd.ofExc at h
  split at h
  · cases h
    exact ⟨rfl, ‹_›⟩
  · cases h

section Loop

variable {β : Type} (interval : Seconds) (catches : ExcKind → Bool) (submit : Ledger GetTxResponse)
  (extract : GetTxResponse → Except Exc β)

/-- One pass through the `try`: `submit`, then `extract` on its response, and an exception sorted
by the `except` clauses. -/
def attempt : Ledger (AttemptEnd β) := do
  match ← observe submit with
  | .error e => pure (AttemptEnd.ofExc catches e none)
  | .ok res =>
    match extract res with
    | .ok b => pure (.success res b)
    | .error e => pure (AttemptEnd.ofExc catches e (some res))

/-- `while result is None and attempt < n: attempt += 1; try: ...
except ... as e: last_exception = e; sleep(interval)`, with `k` attempts left. -/
def sendLoop : Nat → SendState β → Ledger (SendState β)
  | 0, st => pure st
  | k + 1, st =>
    if st.result.isSome then pure st else do
    match ← attempt catches submit extract with
    | .success res b => sendLoop k { st with res := some res, result := some b }
    | .caught e res =>
      sleep interval
      sendLoop k { st with res := res.or st.res, lastException := some e }
    | .uncaught e => throw e

theorem attempt_apply (w : World) :
    attempt catches submit extract w = match submit w with
      | .error e w' => .ok (AttemptEnd.ofExc catches e none) w'
      | .ok res w' => .ok (match extract res with
        | .ok b => .success res b
        | .error e => AttemptEnd.ofExc catches e (some res)) w' := by
  rw [attempt, bind_apply, observe_apply]
  cases submit w with
  | error e w' => rfl
  | ok res w' => dsimp only; cases extract res <;> rfl

/-- An attempt catches whatever `submit` raises, so it always ends. -/
theorem attempt_isOk (w : World) :
    ∃ o w', attempt catches submit extract w = .ok o w' := by
  rw [attempt_apply]
  cases submit w <;> exact ⟨_, _, rfl⟩

/-- An attempt that went through got its result from `extract`. -/
theorem attempt_eq_success {w w' : World} {res : GetTxResponse} {b : β}
    (h : attempt catches submit extract w = .ok (.success res b) w') : extract res = .ok b := by
  rw [attempt_apply] at h
  split at h
  · exact absurd (EStateM.Result.ok.inj h).1 (AttemptEnd.ofExc_ne_success _ _ _ _ _)
  · split at h
    · cases h
      assumption
    · exact absurd (EStateM.Result.ok.inj h).1 (AttemptEnd.ofExc_ne_success _ _ _ _ _)

/-- What an attempt passes on uncaught is something `submit` or `extract` raised. -/
theorem attempt_eq_uncaught {w w' : World} {e : Exc}
    (h : attempt catches submit extract w = .ok (.uncaught e) w') : catches e.kind = false := by
  rw [attempt_apply] at h
  split at h
  · obtain ⟨rfl, hc⟩ := AttemptEnd.ofExc_eq_uncaught (EStateM.Result.ok.inj h).1
    exact hc
  · split at h
    · cases h
    · obtain ⟨rfl, hc⟩ := AttemptEnd.ofExc_eq_uncaught (EStateM.Result.ok.inj h).1
      exact hc

/-! ## One attempt at a time -/

variable {k : Nat} {st : SendState β} {w w₁ : World}

theorem sendLoop_of_isSome (h : st.result.isSome) : sendLoop interval catches submit extract k st w = .ok st w := by
  cases k <;> simp [sendLoop, h]

theorem sendLoop_succ_of_success {res : GetTxResponse} {b : β} (hst : st.result = none)
    (h : attempt catches submit extract w = .ok (.success res b) w₁) :
    sendLoop interval catches submit extract (k + 1) st w =
      sendLoop interval catches submit extract k { st with res := some res, result := some b } w₁ := by
  rw [sendLoop, hst, if_neg (by simp), bind_of_ok h]

theorem sendLoop_succ_of_caught {e : Exc} {res : Option GetTxResponse} (hst : st.result = none)
    (h : attempt catches submit extract w = .ok (.caught e res) w₁) :
    sendLoop interval catches submit extract (k + 1) st w =
      sendLoop interval catches submit extract k { st with res := res.or st.res, lastException := some e }
        { w₁ with trace := w₁.trace ++ [.sleep interval] } := by
  rw [sendLoop, hst, if_neg (by simp), bind_of_ok h]
  rfl

theorem sendLoop_succ_of_uncaught {e : Exc} (hst : st.result = none)
    (h : attempt catches submit extract w = .ok (.uncaught e) w₁) :
    sendLoop interval catches submit extract (k + 1) st w = .error e w₁ := by
  rw [sendLoop, hst, if_neg (by simp), bind_of_ok h]
  rfl

/-! ## Runs of failed attempts -/

/-- `FailedRun m st w st' w'`: from the locals `st` in `w`, `m` attempts in a row raise
exceptions the loop catches, each of them followed by its sleep, and leave `st'` and `w'`. -/
inductive FailedRun : Nat → SendState β → World → SendState β → World → Prop
  | zero (st : SendState β) (w : World) : FailedRun 0 st w st w
  | succ {m : Nat} {st st' : SendState β} {w w₁ w' : World} {e : Exc} {res : Option GetTxResponse} :
      attempt catches submit extract w = .ok (.caught e res) w₁ →
      FailedRun m { st with res := res.or st.res, lastException := some e }
        { w₁ with trace := w₁.trace ++ [.sleep interval] } st' w' →
      FailedRun (m + 1) st w st' w'

theorem FailedRun.result_eq {m : Nat} {st st' : SendState β} {w w' : World}
    (h : FailedRun interval catches submit extract m st w st' w') : st'.result = st.result := by
  induction h with
  | zero => rfl
  | succ _ _ ih => exact ih

/-- **The loop, attempt by attempt.**  With budget `k`, a run is `m < k` attempts that raise what
the loop catches, and then one that goes through, whose response and result the loop returns,
or one that raises what the loop does not catch, which the loop raises at once; or it is `k`
attempts that raise what the loop catches, after which the loop returns with no result. -/
theorem sendLoop_spec (k : Nat) (st : SendState β) (w : World) (hst : st.result = none) :
    (∃ m < k, ∃ st₁ w₁ res b w₂, FailedRun interval catches submit extract m st w st₁ w₁ ∧
      attempt catches submit extract w₁ = .ok (.success res b) w₂ ∧
      sendLoop interval catches submit extract k st w = .ok { st₁ with res := some res, result := some b } w₂) ∨
    (∃ m < k, ∃ st₁ w₁ e w₂, FailedRun interval catches submit extract m st w st₁ w₁ ∧
      attempt catches submit extract w₁ = .ok (.uncaught e) w₂ ∧
      sendLoop interval catches submit extract k st w = .error e w₂) ∨
    (∃ st₁ w₁, FailedRun interval catches submit extract k st w st₁ w₁ ∧
      sendLoop interval catches submit extract k st w = .ok st₁ w₁) := by
  induction k generalizing st w with
  | zero => exact .inr (.inr ⟨st, w, .zero st w, rfl⟩)
  | succ k ih =>
    obtain ⟨o, w₁, ho⟩ := attempt_isOk catches submit extract w
    cases o with
    | success res b =>
      refine .inl ⟨0, by omega, st, w, res, b, w₁, .zero st w, ho, ?_⟩
      rw [sendLoop_succ_of_success interval catches submit extract hst ho]
      exact sendLoop_of_isSome _ _ _ _ rfl
    | uncaught e =>
      exact .inr (.inl ⟨0, by omega, st, w, e, w₁, .zero st w, ho,
        sendLoop_succ_of_uncaught interval catches submit extract hst ho⟩)
    | caught e res =>
      rw [sendLoop_succ_of_caught interval catches submit extract hst ho]
      rcases ih { st with res := res.or st.res, lastException := some e } _ hst with
        ⟨m, hm, st₁, w₂, res', b, w₃, hr, ha, hl⟩ | ⟨m, hm, st₁, w₂, e', w₃, hr, ha, hl⟩ |
          ⟨st₁, w₂, hr, hl⟩
      · exact .inl ⟨m + 1, by omega, st₁, w₂, res', b, w₃, .succ ho hr, ha, hl⟩
      · exact .inr (.inl ⟨m + 1, by omega, st₁, w₂, e', w₃, .succ ho hr, ha, hl⟩)
      · exact .inr (.inr ⟨st₁, w₂, .succ ho hr, hl⟩)

/-- What a workflow built on the loop returns or raises from `w` with budget `k`: `finish res b`
from the attempt that went through, after `m < k` that raised exceptions the loop catches; the
exception of an attempt that raised one the loop does not catch, after such attempts; or
`exhausted st` once all `k` attempts have raised exceptions the loop catches and left the locals
`st`. -/
def RunsAs {γ : Type} (k : Nat) (w : World) (finish : GetTxResponse → β → γ)
    (exhausted : SendState β → Exc) (r : EStateM.Result Exc World γ) : Prop :=
  (∃ m < k, ∃ st₁ w₁ res b w₂, FailedRun interval catches submit extract m {} w st₁ w₁ ∧
    attempt catches submit extract w₁ = .ok (.success res b) w₂ ∧ r = .ok (finish res b) w₂) ∨
  (∃ m < k, ∃ st₁ w₁ e w₂, FailedRun interval catches submit extract m {} w st₁ w₁ ∧
    attempt catches submit extract w₁ = .ok (.uncaught e) w₂ ∧ catches e.kind = false ∧
    r = .error e w₂) ∨
  (∃ st₁ w₁, FailedRun interval catches submit extract k {} w st₁ w₁ ∧
    r = .error (exhausted st₁) w₁)

/-- A workflow that runs the loop from no locals and then returns `finish` of the result, or
raises `exhausted` when there is none, runs as `RunsAs` says. -/
theorem runsAs_bind {γ : Type} (k : Nat) (w : World) (finish : GetTxResponse → β → γ)
    (exhausted : SendState β → Exc) (after : SendState β → Ledger γ)
    (hdone : ∀ (st : SendState β) res b w',
      after { st with res := some res, result := some b } w' = .ok (finish res b) w')
    (hfail : ∀ st w', st.result = none → after st w' = .error (exhausted st) w') :
    RunsAs interval catches submit extract k w finish exhausted
      ((sendLoop interval catches submit extract k {} >>= after) w) := by
  rcases sendLoop_spec interval catches submit extract k {} w rfl with
    ⟨m, hm, st₁, w₁, res, b, w₂, hr, ha, hl⟩ | ⟨m, hm, st₁, w₁, e, w₂, hr, ha, hl⟩ | ⟨st₁, w₁, hr, hl⟩
  · exact .inl ⟨m, hm, st₁, w₁, res, b, w₂, hr, ha, by rw [bind_of_ok hl, hdone]⟩
  · exact .inr (.inl ⟨m, hm, st₁, w₁, e, w₂, hr, ha, attempt_eq_uncaught catches submit extract ha,
      bind_of_error hl⟩)
  · exact .inr (.inr ⟨st₁, w₁, hr, by
      rw [bind_of_ok hl, hfail _ _ (FailedRun.result_eq interval catches submit extract hr)]⟩)

end Loop

end Cosmpy
