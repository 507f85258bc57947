import Cosmpy.Address

/-!
# Reading identifiers out of a transaction log

A confirmed transaction's `raw_log` is JSON of no fixed shape.  `get_code_id` and
`get_contract_address` parse it and hand it to `_find_item`, which walks it depth first and
returns the first dict with a string value the pattern matches; the identifier is that dict's
`"value"`.

`findItem` is `_find_item`, with its two loops as the mutually recursive `findItemList` and
`findItemFields`; it returns the dict's entries, since it returns nothing but dicts.  It is
structurally recursive, so it terminates on every tree.

`hits p t` lists the dicts of `t` with a string value matched by `p`, in the order the code
visits them: list items and dict entries in their order, and each entry's own value tested before
the tree under it.  The two facts proved about it are what `_find_item` is for:

* `findItem_eq_head_hits`: the search returns the first of them, or `None` when there is none;
* `mem_hits`: they are exactly the dicts reachable in `t` (through list items and dict values)
  that have a matching string value.

`findItem_spec` puts these together with what they mean for `get_code_id` and
`get_contract_address`: their assertion that a dict was found fails exactly when the parsed log
has no such dict.  `logPatterns_match_iff` says which strings the two patterns match: those with
`code_id` (or `contract_address`) in their first line.
-/

set_option autoImplicit false

namespace Cosmpy

/-- A value the pattern matches: a string that `p` accepts. -/
def isMatchingStr (p : String → Bool) : Json → Bool
  | .str s => p s
  | _ => false

mutual

/-- `CosmosLedger._find_item(obj, re_pattern)`, with `p` standing for `re_pattern.match`. -/
def findItem (p : String → Bool) : Json → Option (List (String × Json))
  | .arr items => findItemList p items
  | .obj fields => findItemFields p fields fields
  | _ => none

/-- `for item in obj:` over a list. -/
def findItemList (p : String → Bool) : List Json → Option (List (String × Json))
  | [] => none
  | item :: rest =>
    match findItem p item with
    | some res => some res
    | none => findItemList p rest

/-- `for _, v in obj.items():` over the entries of the dict `obj`. -/
def findItemFields (p : String → Bool) (obj : List (String × Json)) :
    List (String × Json) → Option (List (String × Json))
  | [] => none
  | (_, v) :: rest =>
    if isMatchingStr p v then some obj
    else match findItem p v with
      | some res => some res
      | none => findItemFields p obj rest

end

mutual

/-- The dicts of a tree with a string value `p` matches, in the order `_find_item` meets them. -/
def hits (p : String → Bool) : Json → List (List (String × Json))
  | .arr items => hitsList p items
  | .obj fields => hitsFields p fields fields
  | _ => []

/-- `hits` over the items of a list. -/
def hitsList (p : String → Bool) : List Json → List (List (String × Json))
  | [] => []
  | item :: rest => hits p item ++ hitsList p rest

/-- `hits` over the entries of the dict `obj`: each entry's own value first, then the tree under
it. -/
def hitsFields (p : String → Bool) (obj : List (String × Json)) :
    List (String × Json) → List (List (String × Json))
  | [] => []
  | (_, v) :: rest => (if isMatchingStr p v then [obj] else []) ++ hits p v ++ hitsFields p obj rest

end

/-- `t.Reaches x`: `x` is `t`, or lies inside it through list items and dict values. -/
inductive Json.Reaches : Json → Json → Prop
  | refl (t : Json) : Json.Reaches t t
  | item {items : List Json} {x y : Json} : x ∈ items → Json.Reaches x y →
      Json.Reaches (.arr items) y
  | value {fields : List (String × Json)} {k : String} {v y : Json} : (k, v) ∈ fields →
      Json.Reaches v y → Json.Reaches (.obj fields) y

/-- A dict with a string value `p` matches. -/
def HasMatch (p : String → Bool) (fields : List (String × Json)) : Prop :=
  ∃ k s, (k, Json.str s) ∈ fields ∧ p s = true

theorem isMatchingStr_eq_true (p : String → Bool) (v : Json) :
    isMatchingStr p v = true ↔ ∃ s, v = .str s ∧ p s = true := by
  cases v <;> simp [isMatchingStr]

@[simp] theorem hasMatch_nil (p : String → Bool) : ¬ HasMatch p [] := nofun

@[simp] theorem hasMatch_cons (p : String → Bool) (k : String) (v : Json)
    (rest : List (String × Json)) :
    HasMatch p ((k, v) :: rest) ↔ isMatchingStr p v = true ∨ HasMatch p rest := by
  simp only [HasMatch, List.mem_cons, Prod.mk.injEq, isMatchingStr_eq_true]
  constructor
  · rintro ⟨k', s, ⟨-, rfl⟩ | h, hs⟩
    exacts [.inl ⟨s, rfl, hs⟩, .inr ⟨k', s, h, hs⟩]
  · rintro (⟨s, rfl, hs⟩ | ⟨k', s, h, hs⟩)
    exacts [⟨k, s, .inl ⟨rfl, rfl⟩, hs⟩, ⟨k', s, .inr h, hs⟩]

namespace Json

theorem reaches_arr {items : List Json} {y : Json} :
    Reaches (.arr items) y ↔ y = .arr items ∨ ∃ x ∈ items, x.Reaches y := by
  constructor
  · rintro (_ | ⟨hx, hr⟩)
    exacts [.inl rfl, .inr ⟨_, hx, hr⟩]
  · rintro (rfl | ⟨x, hx, hr⟩)
    exacts [.refl _, .item hx hr]

theorem reaches_obj {fields : List (String × Json)} {y : Json} :
    Reaches (.obj fields) y ↔ y = .obj fields ∨ ∃ kv ∈ fields, kv.2.Reaches y := by
  constructor
  · rintro (_ | _ | ⟨hkv, hr⟩)
    exacts [.inl rfl, .inr ⟨_, hkv, hr⟩]
  · rintro (rfl | ⟨⟨k, v⟩, hkv, hr⟩)
    exacts [.refl _, .value hkv hr]

/-- Nothing but itself lies inside a scalar. -/
theorem eq_of_reaches_scalar {t y : Json} (h : Reaches t y)
    (ht : ∀ items, t ≠ .arr items) (ht' : ∀ fields, t ≠ .obj fields) : y = t := by
  cases h
  · rfl
  · exact absurd rfl (ht _)
  · exact absurd rfl (ht' _)

end Json

/-! ## The search returns the first hit

The three functions and the three lists follow the same recursion, so one mutual induction
relates them: where `_find_item` returns early, its answer is the head of the list. -/

mutual

theorem findItem_eq_head_hits (p : String → Bool) : ∀ t, findItem p t = (hits p t).head?
  | .arr items => by rw [findItem, hits, findItemList_eq_head_hitsList]
  | .obj fields => by rw [findItem, hits, findItemFields_eq_head_hitsFields]
  | .null | .bool _ | .number _ | .str _ => rfl

theorem findItemList_eq_head_hitsList (p : String → Bool) :
    ∀ items, findItemList p items = (hitsList p items).head?
  | [] => rfl
  | item :: rest => by
    rw [findItemList, hitsList, findItem_eq_head_hits, findItemList_eq_head_hitsList]
    cases hits p item <;> rfl

theorem findItemFields_eq_head_hitsFields (p : String → Bool) (obj : List (String × Json)) :
    ∀ fields, findItemFields p obj fields = (hitsFields p obj fields).head?
  | [] => rfl
  | (_, v) :: rest => by
    rw [findItemFields, hitsFields, findItem_eq_head_hits, findItemFields_eq_head_hitsFields]
    cases isMatchingStr p v <;> cases hits p v <;> rfl

end

/-! ## The hits are the matching dicts -/

mutual

theorem mem_hits (p : String → Bool) (d : List (String × Json)) :
    ∀ t, d ∈ hits p t ↔ t.Reaches (.obj d) ∧ HasMatch p d
  | .arr items => by simp [hits, mem_hitsList, Json.reaches_arr]
  | .obj fields => by
    rw [hits, mem_hitsFields, Json.reaches_obj, Json.obj.injEq, or_and_right]
    exact or_congr_left (and_congr_right fun (h : d = fields) => h ▸ Iff.rfl)
  | .null | .bool _ | .number _ | .str _ => by
    simp only [hits, List.not_mem_nil, false_iff]
    exact fun ⟨h, _⟩ => nomatch Json.eq_of_reaches_scalar h (fun _ => nofun) (fun _ => nofun)

theorem mem_hitsList (p : String → Bool) (d : List (String × Json)) :
    ∀ items, d ∈ hitsList p items ↔ (∃ x ∈ items, x.Reaches (.obj d)) ∧ HasMatch p d
  | [] => by simp only [hitsList, List.not_mem_nil, false_and, exists_false, false_iff,
    not_false_eq_true]
  | item :: rest => by
    simp only [hitsList, List.mem_append, mem_hits, mem_hitsList, List.exists_mem_cons_iff,
      or_and_right]

theorem mem_hitsFields (p : String → Bool) (d obj : List (String × Json)) :
    ∀ fields, d ∈ hitsFields p obj fields ↔
      (d = obj ∧ HasMatch p fields) ∨ (∃ kv ∈ fields, kv.2.Reaches (.obj d)) ∧ HasMatch p d
  | [] => by
    simp only [hitsFields, List.not_mem_nil, hasMatch_nil, and_false, false_and, exists_false,
      or_self]
  | (k, v) :: rest => by
    rw [hitsFields, List.mem_append, List.mem_append, mem_hits, mem_hitsFields]
    cases h : isMatchingStr p v <;>
      simp only [h, hasMatch_cons, List.exists_mem_cons_iff, if_true, if_false, List.mem_singleton,
        List.not_mem_nil, Bool.false_eq_true, true_or, false_or, and_true, or_and_right]
    · exact or_left_comm
    · constructor
      · rintro ((hd | ha) | ⟨hd, -⟩ | he)
        exacts [.inl hd, .inr (.inl ha), .inl hd, .inr (.inr he)]
      · rintro (hd | ha | he)
        exacts [.inl (.inl hd), .inl (.inr ha), .inr (.inr he)]

end

theorem findItem_eq_none_iff (p : String → Bool) (t : Json) :
    findItem p t = none ↔ ∀ d, t.Reaches (.obj d) → ¬ HasMatch p d := by
  rw [findItem_eq_head_hits, List.head?_eq_none_iff, List.eq_nil_iff_forall_not_mem]
  exact forall_congr' fun d => by rw [mem_hits, not_and]

/-! ## `get_code_id` and `get_contract_address` -/

/-- `CODE_ID_RE = re.compile(".*code_id.*")`, compiled when the module is loaded. -/
def codeIdRe : Regex :=
  match Regex.compile ".*code_id.*" with
  | .ok r => r
  | .error _ => .empty

/-- `CONTRACT_ADDRESS_RE = re.compile(".*contract_address.*")`. -/
def contractAddressRe : Regex :=
  match Regex.compile ".*contract_address.*" with
  | .ok r => r
  | .error _ => .empty

example : Regex.compile ".*code_id.*" = .ok codeIdRe ∧
    Regex.compile ".*contract_address.*" = .ok contractAddressRe := ⟨rfl, rfl⟩

theorem codeIdRe_eq : codeIdRe = Regex.containsRe "code_id".toList := rfl

theorem contractAddressRe_eq : contractAddressRe = Regex.containsRe "contract_address".toList :=
  rfl

/-- **What the two log patterns match.**  For every string, `CODE_ID_RE` matches it exactly when
`code_id` occurs in it before its first newline, and `CONTRACT_ADDRESS_RE` exactly when
`contract_address` does: anywhere in the first line, inside a longer word or not. -/
theorem logPatterns_match_iff (s : String) :
    (codeIdRe.match s = true ↔ ∃ p q, s.toList = p ++ "code_id".toList ++ q ∧ '\n' ∉ p) ∧
    (contractAddressRe.match s = true ↔
      ∃ p q, s.toList = p ++ "contract_address".toList ++ q ∧ '\n' ∉ p) := by
  rw [codeIdRe_eq, contractAddressRe_eq]
  exact ⟨Regex.containsRe_match_iff _ s, Regex.containsRe_match_iff _ s⟩

/-- `assert cond`, which raises a bare `AssertionError`. -/
def assert (cond : Bool) : Except Exc Unit :=
  if cond then pure () else throw (Exc.raise .assertionError "")

namespace CosmosLedger

variable (lib : Lib)

/-- `get_code_id(response)`. -/
def getCodeId (response : GetTxResponse) : Except Exc Int := do
  let rawLog ← lib.loads response.txResponse.rawLog
  let resDict := findItem codeIdRe.match rawLog
  assert resDict.isSome
  match resDict with
  | some resDict => lib.int (← Json.getItem resDict "value")
  | none => throw (Exc.raise .assertionError "")

/-- What `get_contract_address` does with the dict it found: check the address, then return it. -/
def contractAddressOf (resDict : List (String × Json)) : Except Exc String := do
  let valid ← isValidCryptoAddress (lib.str (← Json.getItem resDict "value")) defaultPrefix
  assert valid
  return lib.str (← Json.getItem resDict "value")

/-- `get_contract_address(response)`. -/
def getContractAddress (response : GetTxResponse) : Except Exc String := do
  let rawLog ← lib.loads response.txResponse.rawLog
  let resDict := findItem contractAddressRe.match rawLog
  assert resDict.isSome
  match resDict with
  | some resDict => contractAddressOf lib resDict
  | none => throw (Exc.raise .assertionError "")

theorem getCodeId_of_loads {response : GetTxResponse} {t : Json}
    (h : lib.loads response.txResponse.rawLog = .ok t) :
    getCodeId lib response = match findItem codeIdRe.match t with
      | some resDict => Json.getItem resDict "value" >>= lib.int
      | none => .error (Exc.raise .assertionError "") := by
  rw [getCodeId, h]
  cases hf : findItem codeIdRe.match t <;> simp only [bind, Except.bind, hf] <;> rfl

theorem getContractAddress_of_loads {response : GetTxResponse} {t : Json}
    (h : lib.loads response.txResponse.rawLog = .ok t) :
    getContractAddress lib response = match findItem contractAddressRe.match t with
      | some resDict => contractAddressOf lib resDict
      | none => .error (Exc.raise .assertionError "") := by
  rw [getContractAddress, h]
  cases hf : findItem contractAddressRe.match t <;> simp only [bind, Except.bind, hf] <;> rfl

/-- Reading the code id off a dict raises `KeyError` for a missing `"value"`, or what `int`
raises. -/
theorem getItem_bind_int_eq_error {resDict : List (String × Json)} {e : Exc}
    (h : (Json.getItem resDict "value" >>= lib.int) = .error e) :
    e.kind ∈ [.keyError, .valueError, .typeError, .overflowError] := by
  cases hv : Json.getItem resDict "value" with
  | error e' =>
    rw [hv] at h
    cases h
    rw [Json.getItem_eq_error hv]
    exact List.mem_cons_self _ _
  | ok v =>
    rw [hv] at h
    exact List.mem_cons_of_mem _ (lib.int_raises v e h)

/-- What `get_code_id` raises: what `json.loads` raises, its `AssertionError`, `KeyError`, or
what `int` raises. -/
theorem getCodeId_eq_error {response : GetTxResponse} {e : Exc}
    (h : getCodeId lib response = .error e) :
    e.kind ∈ [.jsonDecodeError, .valueError, .recursionError, .assertionError, .keyError,
      .typeError, .overflowError] := by
  cases hl : lib.loads response.txResponse.rawLog with
  | error e' =>
    rw [getCodeId, hl] at h
    cases h
    exact (by decide : [ExcKind.jsonDecodeError, .valueError, .recursionError] ⊆ _)
      (lib.loads_raises _ _ hl)
  | ok t =>
    rw [getCodeId_of_loads lib hl] at h
    split at h
    · exact (by decide : [ExcKind.keyError, .valueError, .typeError, .overflowError] ⊆ _)
        (getItem_bind_int_eq_error lib h)
    · cases h
      decide

/-- What `get_contract_address` raises once it has its dict: `KeyError`, or the `AssertionError`
of the address check. -/
theorem contractAddressOf_eq_error {resDict : List (String × Json)} {e : Exc}
    (h : contractAddressOf lib resDict = .error e) :
    e.kind = .assertionError ∨ e.kind = .keyError := by
  have hok := isValidCryptoAddress_default_isOk
  unfold contractAddressOf at h
  generalize isValidCryptoAddress = valid at h hok
  cases hv : Json.getItem resDict "value" with
  | error e' =>
    rw [hv] at h
    cases h
    exact .inr (by rw [Json.getItem_eq_error hv]; rfl)
  | ok v =>
    obtain ⟨b, hb⟩ := hok (lib.str v)
    simp only [hv, hb, bind, Except.bind, assert] at h
    cases b <;> cases h
    exact .inl rfl

/-- `get_contract_address` returns only an address its check accepts: the one it checked, since it
reads `"value"` twice off the same dict. -/
theorem contractAddressOf_valid {resDict : List (String × Json)} {a : String}
    (h : contractAddressOf lib resDict = .ok a) : isValidCryptoAddress a defaultPrefix = .ok true := by
  unfold contractAddressOf at h
  cases hv : Json.getItem resDict "value" with
  | error e => rw [hv] at h; cases h
  | ok v =>
    obtain ⟨b, hb⟩ := isValidCryptoAddress_default_isOk (lib.str v)
    simp only [hv, hb, bind, Except.bind, assert] at h
    cases b <;> cases h
    exact hb

theorem getContractAddress_valid {response : GetTxResponse} {a : String}
    (h : getContractAddress lib response = .ok a) : isValidCryptoAddress a defaultPrefix = .ok true := by
  cases hl : lib.loads response.txResponse.rawLog with
  | error e => rw [getContractAddress, hl] at h; cases h
  | ok t =>
    rw [getContractAddress_of_loads lib hl] at h
    split at h
    · exact contractAddressOf_valid lib h
    · cases h

/-- What `get_contract_address` raises: what `json.loads` raises, one of its two
`AssertionError`s, or `KeyError`. -/
theorem getContractAddress_eq_error {response : GetTxResponse} {e : Exc}
    (h : getContractAddress lib response = .error e) :
    e.kind ∈ [.jsonDecodeError, .valueError, .recursionError, .assertionError, .keyError] := by
  cases hl : lib.loads response.txResponse.rawLog with
  | error e' =>
    rw [getContractAddress, hl] at h
    cases h
    exact (by decide : [ExcKind.jsonDecodeError, .valueError, .recursionError] ⊆ _)
      (lib.loads_raises _ _ hl)
  | ok t =>
    rw [getContractAddress_of_loads lib hl] at h
    split at h
    · rcases contractAddressOf_eq_error lib h with h | h <;> rw [h] <;> decide
    · cases h
      decide

end CosmosLedger

/-- **What `_find_item` returns.**  For every tree and pattern: the search returns the first of
the hits in the code's order, the hits are exactly the reachable dicts with a matching string
value, so it returns `None` exactly when there is none.  For a log that parses to `t`,
`get_code_id` raises its `AssertionError` exactly then, and `get_contract_address` fails its
not-`None` assertion exactly then and otherwise goes on with the first hit. -/
theorem findItem_spec (p : String → Bool) (t : Json) :
    findItem p t = (hits p t).head? ∧
    (∀ d, d ∈ hits p t ↔ t.Reaches (.obj d) ∧ HasMatch p d) ∧
    (findItem p t = none ↔ ∀ d, t.Reaches (.obj d) → ¬ HasMatch p d) ∧
    ∀ (lib : Lib) (response : GetTxResponse), lib.loads response.txResponse.rawLog = .ok t →
      (CosmosLedger.getCodeId lib response = .error (Exc.raise .assertionError "") ↔
        ∀ d, t.Reaches (.obj d) → ¬ HasMatch codeIdRe.match d) ∧
      CosmosLedger.getContractAddress lib response =
        match (hits contractAddressRe.match t).head? with
        | some d => CosmosLedger.contractAddressOf lib d
        | none => .error (Exc.raise .assertionError "") := by
  refine ⟨findItem_eq_head_hits p t, (mem_hits p · t), findItem_eq_none_iff p t,
    fun lib response h => ⟨?_, ?_⟩⟩
  · rw [CosmosLedger.getCodeId_of_loads lib h, ← findItem_eq_none_iff]
    cases findItem codeIdRe.match t with
    | none => simp
    | some d =>
      simp only [reduceCtorEq, iff_false]
      exact fun h => absurd (CosmosLedger.getItem_bind_int_eq_error lib h) (by decide)
  · rw [CosmosLedger.getContractAddress_of_loads lib h, findItem_eq_head_hits]

end Cosmpy
