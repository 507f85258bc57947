import Cosmpy.Session

/-!
# What a run appends to the trace

A run of the client only appends to the trace, whether it returns or raises, and most properties
of whole runs proved in this development are about the events it appends: how many broadcasts the
node answered, how many calls the client made, which account each broadcast was signed from.
This file proves once that such a property holds of the primitives and is kept by `bind`, given
what it says of one event and of two runs one after the other.

* `Appends P x`: every run of `x` appends events `evs` with `P evs`.
* `AddsAtMost p n x`: at most `n` of the events appended satisfy `p`.  Bounds add up under `bind`
  and are multiplied by the budget of a loop (`retryLoop_addsAtMost`, `sendLoop_addsAtMost`).
* `Concat P`: `P` holds of no events and is kept by `++`.  Then `Appends P` is kept by `bind` and
  by every loop of the client (`Concat.bind`, `Concat.sendLoop_appends`, ...).
* `callWithRetry_ends_with_value`: a `Retrier` that returned ended with the answer it returned.
-/

set_option autoImplicit false

namespace Cosmpy

open Ledger

/-- Every run of `x`, whether it returns or raises, only appends events to the trace, and the
events it appends satisfy `P`. -/
def Appends {α : Type} (P : List Event → Prop) (x : Ledger α) : Prop :=
  ∀ w, ∃ evs, (endWorld (x w)).trace = w.trace ++ evs ∧ P evs

/-! ## The primitives, and `bind` -/

section Appends

variable {α β : Type} {P Q R : List Event → Prop} {x : Ledger α} {f : α → Ledger β}

theorem Appends.mono (hx : Appends P x) (h : ∀ evs, P evs → Q evs) : Appends Q x :=
  fun w => (hx w).imp fun evs ⟨ht, hp⟩ => ⟨ht, h evs hp⟩

/-- What a run that returned appended. -/
theorem Appends.of_ok (hx : Appends P x) {w w' : World} {a : α} (h : x w = .ok a w') :
    ∃ evs, w'.trace = w.trace ++ evs ∧ P evs := by
  have := hx w
  rwa [h] at this

/-- What a run that raised appended. -/
theorem Appends.of_error (hx : Appends P x) {w w' : World} {e : Exc} (h : x w = .error e w') :
    ∃ evs, w'.trace = w.trace ++ evs ∧ P evs := by
  have := hx w
  rwa [h] at this

theorem appends_pure (h : P []) (b : α) : Appends P (pure b : Ledger α) :=
  fun _ => ⟨[], (List.append_nil _).symm, h⟩

theorem appends_throw (h : P []) (e : Exc) : Appends P (throw e : Ledger α) :=
  fun _ => ⟨[], (List.append_nil _).symm, h⟩

theorem appends_get (h : P []) : Appends P (get : Ledger World) :=
  fun _ => ⟨[], (List.append_nil _).symm, h⟩

/-- A `modify` that leaves the trace alone, as caching the account number does. -/
theorem appends_modify (h : P []) {g : World → World} (hg : ∀ w, (g w).trace = w.trace) :
    Appends P (modify g : Ledger Unit) :=
  fun w => ⟨[], by rw [List.append_nil]; exact hg w, h⟩

theorem appends_ofExcept (h : P []) (r : Except Exc α) : Appends P (ofExcept r : Ledger α) := by
  cases r
  exacts [appends_throw h _, appends_pure h _]

theorem appends_attr (h : P []) (name : String) (o : Option α) : Appends P (attr name o) := by
  cases o
  exacts [appends_throw h _, appends_pure h _]

theorem appends_sleep {s : Seconds} (h : P [.sleep s]) : Appends P (sleep s) :=
  fun _ => ⟨[.sleep s], rfl, h⟩

theorem appends_call {c : Call} (h : ∀ r, P [.call c r]) : Appends P (call c) :=
  fun w => ⟨[.call c (w.replies 0 c)], by rw [endWorld_call]; rfl, h _⟩

/-- `x >>= f` appends what `x` appended and then what `f b` did, or only what `x` did if it
raised. -/
theorem appends_bind (hx : Appends P x) (hf : ∀ b, Appends Q (f b))
    (happ : ∀ evs₁ evs₂, P evs₁ → Q evs₂ → R (evs₁ ++ evs₂)) (hP : ∀ evs, P evs → R evs) :
    Appends R (x >>= f) := by
  intro w
  obtain ⟨evs₁, ht₁, hp₁⟩ := hx w
  rw [bind_apply]
  cases hxw : x w with
  | ok b w₁ =>
    rw [hxw] at ht₁
    change w₁.trace = _ at ht₁
    obtain ⟨evs₂, ht₂, hq₂⟩ := hf b w₁
    exact ⟨evs₁ ++ evs₂, by rw [ht₂, ht₁, List.append_assoc], happ _ _ hp₁ hq₂⟩
  | error e w₁ =>
    rw [hxw] at ht₁
    exact ⟨evs₁, ht₁, hP _ hp₁⟩

/-- A continuation that appends nothing, such as a `pure` or a `throw`, keeps what `x` appends. -/
theorem appends_bind_nil (hx : Appends P x) (hf : ∀ b, Appends (· = []) (f b)) :
    Appends P (x >>= f) :=
  appends_bind hx hf (fun _ _ h₁ h₂ => by rwa [h₂, List.append_nil]) fun _ h => h

theorem appends_observe (hx : Appends P x) : Appends P (observe x) := by
  intro w
  rw [observe_apply]
  obtain ⟨evs, ht, hp⟩ := hx w
  cases hxw : x w <;> rw [hxw] at ht <;> exact ⟨evs, ht, hp⟩

theorem appends_ite {c : Prop} [Decidable c] {y : Ledger α} (hx : Appends P x)
    (hy : Appends P y) : Appends P (if c then x else y) := by
  split
  exacts [hx, hy]

end Appends

/-! ## `check_availability` -/

namespace CosmosLedger

variable (lib : Lib) (self : CosmosLedger) {P : List Event → Prop}

/-- The check appends its one call to the node, whatever the node answers. -/
theorem nodeNetworkCheck_appends (h : ∀ r, P [.call self.availabilityCall r]) :
    Appends P (nodeNetworkCheck lib self) := fun w => by
  have hcall : ∃ evs, (w.afterCall self.availabilityCall).trace = w.trace ++ evs ∧ P evs :=
    ⟨_, rfl, h _⟩
  rcases nodeNetworkCheck_spec lib self w with ⟨-, he⟩ | ⟨-, e, -, he⟩ <;> rwa [he]

theorem checkAvailability_appends (h : ∀ r, P [.call self.availabilityCall r]) :
    Appends P (checkAvailability lib self) := by
  unfold checkAvailability
  exact appends_bind_nil (appends_observe (nodeNetworkCheck_appends lib self h)) fun
    | .ok () => appends_pure (by exact rfl) _
    | .error _ => appends_throw (by exact rfl) _

end CosmosLedger

/-! ## Counting events -/

/-- Every run of `x` appends at most `n` events satisfying `p`. -/
def AddsAtMost {α : Type} (p : Event → Bool) (n : Nat) (x : Ledger α) : Prop :=
  Appends (fun evs => evs.countP p ≤ n) x

section Closure

variable {α β : Type} {p : Event → Bool} {n m : Nat} {x : Ledger α} {f : α → Ledger β}

theorem AddsAtMost.mono (h : AddsAtMost p n x) (hnm : n ≤ m) : AddsAtMost p m x :=
  Appends.mono h fun _ hc => hc.trans hnm

theorem AddsAtMost.of_ok (hx : AddsAtMost p n x) {w w' : World} {a : α} (h : x w = .ok a w') :
    ∃ evs, w'.trace = w.trace ++ evs ∧ evs.countP p ≤ n :=
  Appends.of_ok hx h

theorem AddsAtMost.of_error (hx : AddsAtMost p n x) {w w' : World} {e : Exc}
    (h : x w = .error e w') : ∃ evs, w'.trace = w.trace ++ evs ∧ evs.countP p ≤ n :=
  Appends.of_error hx h

theorem addsAtMost_pure (b : α) : AddsAtMost p 0 (pure b : Ledger α) :=
  appends_pure (Nat.le_refl 0) b

theorem addsAtMost_throw (e : Exc) : AddsAtMost p 0 (throw e : Ledger α) :=
  appends_throw (Nat.le_refl 0) e

theorem addsAtMost_get : AddsAtMost p 0 (get : Ledger World) := appends_get (Nat.le_refl 0)

theorem addsAtMost_modify {g : World → World} (hg : ∀ w, (g w).trace = w.trace) :
    AddsAtMost p 0 (modify g : Ledger Unit) :=
  appends_modify (Nat.le_refl 0) hg

theorem addsAtMost_ofExcept (r : Except Exc α) : AddsAtMost p 0 (ofExcept r : Ledger α) :=
  appends_ofExcept (Nat.le_refl 0) r

theorem addsAtMost_attr (name : String) (o : Option α) : AddsAtMost p 0 (attr name o) :=
  appends_attr (Nat.le_refl 0) name o

theorem addsAtMost_sleep {s : Seconds} (hs : p (.sleep s) = false) : AddsAtMost p 0 (sleep s) :=
  appends_sleep (by simp [hs])

/-- A call that `p` rejects, whatever its reply, adds none of the events. -/
theorem addsAtMost_call {c : Call} (hc : ∀ r, p (.call c r) = false) : AddsAtMost p 0 (call c) :=
  appends_call fun r => by simp [hc r]

/-- A call adds one event. -/
theorem addsAtMost_call_one (c : Call) : AddsAtMost p 1 (call c) :=
  appends_call fun _ => List.countP_le_length _

theorem addsAtMost_bind (hx : AddsAtMost p n x) (hf : ∀ b, AddsAtMost p m (f b)) :
    AddsAtMost p (n + m) (x >>= f) :=
  appends_bind hx hf (fun _ _ h₁ h₂ => by rw [List.countP_append]; omega)
    fun _ h => h.trans (Nat.le_add_right _ _)

/-- A step that adds none leaves the bound of what follows it. -/
theorem addsAtMost_zero_bind (hx : AddsAtMost p 0 x) (hf : ∀ b, AddsAtMost p n (f b)) :
    AddsAtMost p n (x >>= f) :=
  (addsAtMost_bind hx hf).mono (Nat.zero_add n).le

/-- What follows a step and adds none leaves the bound of the step. -/
theorem addsAtMost_bind_zero (hx : AddsAtMost p n x) (hf : ∀ b, AddsAtMost p 0 (f b)) :
    AddsAtMost p n (x >>= f) :=
  addsAtMost_bind hx hf

theorem addsAtMost_observe (hx : AddsAtMost p n x) : AddsAtMost p n (observe x) :=
  appends_observe hx

theorem addsAtMost_ite {c : Prop} [Decidable c] {y : Ledger α} (hx : AddsAtMost p n x)
    (hy : AddsAtMost p n y) : AddsAtMost p n (if c then x else y) :=
  appends_ite hx hy

/-- A loop adds up the bounds of its rounds. -/
theorem addsAtMost_forM {γ : Type} {g : γ → Ledger Unit} (b : γ → Nat)
    (hg : ∀ c, AddsAtMost p (b c) (g c)) : ∀ cs : List γ, AddsAtMost p (cs.map b).sum (cs.forM g)
  | [] => addsAtMost_pure _
  | c :: cs => by
    rw [List.forM_cons', List.map_cons, List.sum_cons]
    exact addsAtMost_bind (hg c) fun _ => addsAtMost_forM b hg cs

end Closure

/-! ## The loops -/

section Loops

variable {p : Event → Bool} {n : Nat}

/-- A retry loop of `k` attempts adds at most `k` times what its call adds, sleeping where `p`
rejects sleeps. -/
theorem retryLoop_addsAtMost {α : Type} {s : Seconds} (hs : p (.sleep s) = false)
    {call : Ledger (Option α)} (hc : AddsAtMost p n call) :
    ∀ k le response, AddsAtMost p (k * n) (retryLoop s call k le response)
  | 0, _, _ => (addsAtMost_pure _).mono (Nat.zero_le _)
  | k + 1, _, _ => by
    rw [Nat.succ_mul, Nat.add_comm]
    exact addsAtMost_bind (addsAtMost_observe hc) fun
      | .ok (some _) => (addsAtMost_pure _).mono (Nat.zero_le _)
      | .ok none => retryLoop_addsAtMost hs hc k _ _
      | .error _ => addsAtMost_zero_bind (addsAtMost_sleep hs) fun _ =>
        retryLoop_addsAtMost hs hc k _ _

/-- A retry loop around a call that adds none adds none. -/
theorem retryLoop_addsAtMost_zero {α : Type} {s : Seconds} (hs : p (.sleep s) = false)
    {call : Ledger (Option α)} (hc : AddsAtMost p 0 call) (k : Nat) (le : Option Exc)
    (response : Option α) : AddsAtMost p 0 (retryLoop s call k le response) :=
  (retryLoop_addsAtMost hs hc k le response).mono (Nat.mul_zero k).le

theorem callWithRetry_addsAtMost {α : Type} (r : Retrier) {call : Ledger (Option α)}
    (hc : AddsAtMost p n (retryLoop r.retryInterval call r.nRetries.toNat none none)) :
    AddsAtMost p n (r.callWithRetry call) :=
  addsAtMost_bind_zero hc fun
    | (_, some _) => addsAtMost_pure _
    | (_, none) => addsAtMost_throw _

variable {β : Type} {interval : Seconds} (catches : ExcKind → Bool)
  {submit : Ledger GetTxResponse} (extract : GetTxResponse → Except Exc β)

theorem attempt_addsAtMost (hs : AddsAtMost p n submit) :
    AddsAtMost p n (attempt catches submit extract) :=
  addsAtMost_bind_zero (addsAtMost_observe hs) fun
    | .error _ => addsAtMost_pure _
    | .ok res => by
      dsimp only
      split <;> exact addsAtMost_pure _

/-- The workflow loop: at most `n` per attempt. -/
theorem sendLoop_addsAtMost (hi : p (.sleep interval) = false) (hs : AddsAtMost p n submit) :
    ∀ k st, AddsAtMost p (k * n) (sendLoop interval catches submit extract k st)
  | 0, _ => (addsAtMost_pure _).mono (by rw [Nat.zero_mul])
  | k + 1, st => by
    rw [sendLoop, Nat.succ_mul, Nat.add_comm]
    split
    · exact (addsAtMost_pure _).mono (Nat.zero_le _)
    · exact addsAtMost_bind (attempt_addsAtMost catches extract hs) fun
        | .success _ _ => sendLoop_addsAtMost hi hs k _
        | .caught _ _ => addsAtMost_zero_bind (addsAtMost_sleep hi) fun _ =>
            sendLoop_addsAtMost hi hs k _
        | .uncaught _ => (addsAtMost_throw _).mono (Nat.zero_le _)

end Loops

/-! ## Properties kept by concatenation

Many properties of the events a run appends hold of no events and of two lists as soon as they
hold of each: that every event passes a test, or that a scan of the events passes from a state
that each run sets itself before it needs it.  For such a property `Appends` is kept by `bind`
and by every loop of the client, with no bound to add up. -/

/-- `P` holds of no events and is kept by concatenation. -/
structure Concat (P : List Event → Prop) : Prop where
  nil : P []
  append : ∀ {xs ys : List Event}, P xs → P ys → P (xs ++ ys)

/-- That every event passes a test is kept by concatenation. -/
theorem concat_forall_mem (Q : Event → Prop) : Concat fun evs => ∀ e ∈ evs, Q e :=
  ⟨fun _ h => (nomatch h), fun h₁ h₂ e he => (List.mem_append.1 he).elim (h₁ e) (h₂ e)⟩

/-- Adding none of the events `p` counts is kept by concatenation. -/
theorem concat_countP_zero (p : Event → Bool) : Concat fun evs => evs.countP p ≤ 0 :=
  ⟨Nat.le_refl 0, fun h₁ h₂ => by rw [List.countP_append]; omega⟩

section Concat

variable {α β : Type} {P : List Event → Prop} {x : Ledger α} {f : α → Ledger β}

theorem Concat.pure (hP : Concat P) (b : α) : Appends P (pure b : Ledger α) := appends_pure hP.nil b

theorem Concat.throw (hP : Concat P) (e : Exc) : Appends P (throw e : Ledger α) :=
  appends_throw hP.nil e

theorem Concat.bind (hP : Concat P) (hx : Appends P x) (hf : ∀ b, Appends P (f b)) :
    Appends P (x >>= f) :=
  appends_bind hx hf (fun _ _ => hP.append) fun _ h => h

theorem Concat.forM (hP : Concat P) {γ : Type} {g : γ → Ledger Unit} :
    ∀ {cs : List γ}, (∀ c ∈ cs, Appends P (g c)) → Appends P (cs.forM g)
  | [], _ => hP.pure _
  | c :: _, hg => by
    rw [List.forM_cons']
    exact hP.bind (hg c (List.mem_cons_self _ _)) fun _ =>
      hP.forM fun c' h => hg c' (List.mem_cons_of_mem _ h)

theorem Concat.retryLoop_appends (hP : Concat P) {s : Seconds} (hs : P [.sleep s])
    {call : Ledger (Option α)} (hc : Appends P call) :
    ∀ k le response, Appends P (retryLoop s call k le response)
  | 0, _, _ => hP.pure _
  | k + 1, _, _ => hP.bind (appends_observe hc) fun
    | .ok (some _) => hP.pure _
    | .ok none => hP.retryLoop_appends hs hc k _ _
    | .error _ => hP.bind (appends_sleep hs) fun _ => hP.retryLoop_appends hs hc k _ _

theorem Concat.callWithRetry_appends (hP : Concat P) (r : Retrier) (hs : P [.sleep r.retryInterval])
    {call : Ledger (Option α)} (hc : Appends P call) : Appends P (r.callWithRetry call) :=
  hP.bind (hP.retryLoop_appends hs hc _ _ _) fun
    | (_, some _) => hP.pure _
    | (_, none) => hP.throw _

variable {interval : Seconds} (catches : ExcKind → Bool) {submit : Ledger GetTxResponse}
  (extract : GetTxResponse → Except Exc β)

theorem Concat.attempt_appends (hP : Concat P) (hs : Appends P submit) :
    Appends P (attempt catches submit extract) :=
  hP.bind (appends_observe hs) fun
    | .error _ => hP.pure _
    | .ok res => by
      dsimp only
      split <;> exact hP.pure _

theorem Concat.sendLoop_appends (hP : Concat P) (hi : P [.sleep interval]) (hs : Appends P submit) :
    ∀ k st, Appends P (sendLoop interval catches submit extract k st)
  | 0, _ => hP.pure _
  | k + 1, st => by
    rw [sendLoop]
    split
    · exact hP.pure _
    · exact hP.bind (hP.attempt_appends catches extract hs) fun
        | .success _ _ => hP.sendLoop_appends hi hs k _
        | .caught _ _ => hP.bind (appends_sleep hi) fun _ =>
          hP.sendLoop_appends hi hs k _
        | .uncaught _ => hP.throw _

theorem Concat.executeLoop_appends (hP : Concat P) (self : CosmosLedger)
    (hi : P [.sleep self.msgFailedRetryInterval]) (hs : Appends P submit) :
    ∀ k res lastException, Appends P (self.executeLoop submit k res lastException)
  | 0, _, _ => hP.pure _
  | k + 1, _, _ => hP.bind (appends_observe hs) fun
    | .ok _ => hP.pure _
    | .error _ => by
      dsimp only
      split
      · exact hP.bind (appends_sleep hi) fun _ => hP.executeLoop_appends self hi hs k _ _
      · exact hP.throw _

end Concat

/-! ## Runs that returned a value -/

/-- A retry loop that got a value ended with the call it got it from. -/
theorem retryLoop_ends_with_value (s : Seconds) (c : Call) {v : c.Resp} :
    ∀ {k : Nat} {le le' : Option Exc} {w w' : World},
      retryLoop s (call c) k le none w = .ok (le', some v) w' →
      ∃ evs, w'.trace = w.trace ++ (evs ++ [.call c (.value v)])
  | 0, _, _, _, _, h => by cases h
  | k + 1, _, _, w, _, h => by
    cases h0 : w.replies 0 c with
    | value v₀ =>
      rw [retryLoop_succ_of_value s c h0] at h
      cases h
      exact ⟨[], by simp [World.afterAttempt, attemptEvents, h0]⟩
    | none | raise _ =>
      rw [retryLoop_succ_of_isValue_false s c (by rw [h0]; rfl)] at h
      obtain ⟨evs, ht⟩ := retryLoop_ends_with_value s c h
      exact ⟨attemptEvents c s (w.replies 0 c) ++ evs, by
        rw [ht, World.afterAttempt, List.append_assoc, List.append_assoc]⟩

theorem callWithRetry_ends_with_value (r : Retrier) (c : Call) {v : c.Resp} {w w' : World}
    (h : r.callWithRetry (call c) w = .ok v w') :
    ∃ evs, w'.trace = w.trace ++ (evs ++ [.call c (.value v)]) := by
  obtain ⟨⟨_, res⟩, w₁, hl, hm⟩ := bind_eq_ok.1 h
  cases res with
  | none => cases hm
  | some v₁ =>
    cases hm
    exact retryLoop_ends_with_value _ c hl

end Cosmpy
