import Cosmpy.Regex

/-!
# What a counted repetition matches

`compile` reads the counts `{m}`, `{m,}`, `{,n}` and `{m,n}` of `sre_parse` into the constructors
of `Regex` (`repeatOf`): `a{m,n}` becomes `a{m}` followed by `n - m` optional copies of `a`, and
`a{m,}` becomes `a{m}a*`.  This file proves that the translation means what Python means: the
counts the parser hands over are never the wrong way round (`parseQuantifier_bounds`), and for
such counts a match of `repeatOf a (m, n)` is a run of `k` consecutive matches of `a`, for some
`k` between the two (`mem_ends_repeatOf_none`, `mem_ends_repeatOf_some`).

Underneath, `repEnds step k i` is where `k` steps of `step` lead from `i`, and:

* `mem_repEnds_add`: `m + k` steps are `m` steps and then `k`;
* `mem_ends_star_iff`: `a*` reaches exactly what some number of matches of `a` reaches.  The
  matcher only takes the steps of `a*` that move forward, with a fuel of one more than the
  length of the string; `ends_bounded` (every match ends at or after its start, and within the
  string) is what makes that enough.
-/

set_option autoImplicit false

namespace Cosmpy

namespace Regex

/-! ## The counts -/

/-- The counts of a `{...}` repetition are the right way round: `sre_parse` refuses the others. -/
theorem parseBraces_bounds {cs rest : List Char} {m : Nat} {n : Option Nat}
    (h : parseBraces cs = some (.ok ((m, n), rest))) : ∀ n' ∈ n, m ≤ n' := by
  unfold parseBraces at h
  split at h; split at h; split at h
  · simp only at h
    split_ifs at h <;> cases h <;> intro n' hn <;> cases hn <;> omega
  · cases h

/-- The counts of every repetition sign the parser reads are the right way round. -/
theorem parseQuantifier_bounds {cs rest : List Char} {m : Nat} {n : Option Nat}
    (h : parseQuantifier cs = some (.ok ((m, n), rest))) : ∀ n' ∈ n, m ≤ n' := by
  unfold parseQuantifier at h
  split at h
  · cases h; nofun
  · cases h; nofun
  · cases h; intro n' hn; cases hn; decide
  · cases h
  · exact parseBraces_bounds h
  · cases h

/-! ## Steps that stay within the string -/

section Steps

variable {step : Nat → List Nat} {L : Nat} {i j : Nat}

/-- Every step moves forward, and never past position `L` unless it starts there. -/
def Bounded (L : Nat) (step : Nat → List Nat) : Prop :=
  ∀ i j, j ∈ step i → i ≤ j ∧ j ≤ max i L

theorem mem_repEnds_zero : j ∈ repEnds step 0 i ↔ j = i := List.mem_singleton

theorem mem_repEnds_succ {k : Nat} :
    j ∈ repEnds step (k + 1) i ↔ ∃ l ∈ step i, j ∈ repEnds step k l :=
  List.mem_flatMap

/-- `m + k` steps are `m` steps and then `k`. -/
theorem mem_repEnds_add (k : Nat) :
    ∀ m i, j ∈ repEnds step (m + k) i ↔ ∃ l ∈ repEnds step m i, j ∈ repEnds step k l
  | 0, i => by simp only [Nat.zero_add, mem_repEnds_zero, exists_eq_left]
  | m + 1, i => by
    rw [Nat.add_right_comm, mem_repEnds_succ]
    simp only [mem_repEnds_add k m, mem_repEnds_succ]
    constructor
    · rintro ⟨l, hl, l', hl', hj⟩
      exact ⟨l', ⟨l, hl, hl'⟩, hj⟩
    · rintro ⟨l', ⟨l, hl, hl'⟩, hj⟩
      exact ⟨l, hl, l', hl', hj⟩

theorem Bounded.repEnds (h : Bounded L step) :
    ∀ k, Bounded L (Regex.repEnds step k)
  | 0, i, j, hj => by rw [mem_repEnds_zero.1 hj]; exact ⟨le_rfl, le_max_left _ _⟩
  | k + 1, i, j, hj => by
    obtain ⟨l, hl, hj⟩ := mem_repEnds_succ.1 hj
    have h₁ := h i l hl
    have h₂ := h.repEnds k l j hj
    exact ⟨h₁.1.trans h₂.1, h₂.2.trans (max_le (h₁.2) (le_max_right _ _))⟩

/-- What the matcher's `a*` reaches is reached by some number of steps. -/
theorem exists_repEnds_of_mem_starEnds :
    ∀ fuel i, j ∈ starEnds step fuel i → ∃ k, j ∈ repEnds step k i
  | 0, i, hj => ⟨0, hj⟩
  | fuel + 1, i, hj => by
    rcases List.mem_cons.1 hj with rfl | hj
    · exact ⟨0, List.mem_singleton_self _⟩
    · obtain ⟨l, hl, hj⟩ := List.mem_flatMap.1 hj
      obtain ⟨k, hk⟩ := exists_repEnds_of_mem_starEnds fuel l hj
      exact ⟨k + 1, mem_repEnds_succ.2 ⟨l, (List.mem_filter.1 hl).1, hk⟩⟩

theorem self_mem_starEnds : ∀ fuel, i ∈ starEnds step fuel i
  | 0 => List.mem_singleton_self _
  | _ + 1 => List.mem_cons_self _ _

/-- And what `k` steps reach, the matcher's `a*` reaches, with enough fuel: the steps that do
not move can be left out, and each of the others moves forward. -/
theorem mem_starEnds_of_mem_repEnds (h : Bounded L step) :
    ∀ k fuel i, j ∈ repEnds step k i → j ≤ i + fuel → j ∈ starEnds step fuel i
  | 0, fuel, i, hj, _ => by rw [mem_repEnds_zero.1 hj]; exact self_mem_starEnds fuel
  | k + 1, fuel, i, hj, hf => by
    obtain ⟨l, hl, hj⟩ := mem_repEnds_succ.1 hj
    have hil := (h i l hl).1
    have hlj := ((h.repEnds k) l j hj).1
    rcases Nat.eq_or_lt_of_le hil with rfl | hil
    · exact mem_starEnds_of_mem_repEnds h k fuel i hj hf
    · obtain ⟨fuel, rfl⟩ : ∃ f, fuel = f + 1 := ⟨fuel - 1, by omega⟩
      exact List.mem_cons_of_mem _ (List.mem_flatMap.2 ⟨l, List.mem_filter.2 ⟨hl, by simpa⟩,
        mem_starEnds_of_mem_repEnds h k fuel l hj (by omega)⟩)

theorem Bounded.starEnds (h : Bounded L step) (fuel : Nat) :
    Bounded L (Regex.starEnds step fuel) := fun i j hj => by
  obtain ⟨k, hk⟩ := exists_repEnds_of_mem_starEnds fuel i hj
  exact h.repEnds k i j hk

end Steps

/-! ## Every match stays within the string -/

section Ends

variable {s : List Char} {i j : Nat}

theorem bounded_of_getElem? {s : List Char} {step : Nat → List Nat}
    (h : ∀ i j, j ∈ step i → j = i + 1 ∧ ∃ c, s[i]? = some c) : Bounded s.length step :=
  fun i j hj => by
    obtain ⟨rfl, c, hc⟩ := h i j hj
    have := (List.getElem?_eq_some_iff.1 hc).1
    exact ⟨by omega, le_max_of_le_right (by omega)⟩

/-- A match of any pattern ends at or after its start, and within the string unless it starts
beyond it. -/
theorem ends_bounded : ∀ r : Regex, Bounded s.length (ends s r)
  | .empty, i, j, hj => by rw [mem_ends_empty.1 hj]; exact ⟨le_rfl, le_max_left _ _⟩
  | .char c, _, _, hj => bounded_of_getElem? (fun i j hj => by
      obtain ⟨rfl, hc⟩ := mem_ends_char.1 hj; exact ⟨rfl, c, hc⟩) _ _ hj
  | .any, _, _, hj => bounded_of_getElem? (fun i j hj => by
      obtain ⟨rfl, c, hc, -⟩ := oneChar_any i j |>.1 hj; exact ⟨rfl, c, hc⟩) _ _ hj
  | .set negated items, _, _, hj => bounded_of_getElem? (fun i j hj => by
      obtain ⟨rfl, c, hc, -⟩ := oneChar_set negated items i j |>.1 hj; exact ⟨rfl, c, hc⟩) _ _ hj
  | .atBeginning, i, j, hj => by
    rw [(mem_ends_atBeginning.1 hj).1]; exact ⟨le_rfl, le_max_left _ _⟩
  | .atEnd, i, j, hj => by rw [(mem_ends_atEnd.1 hj).1]; exact ⟨le_rfl, le_max_left _ _⟩
  | .seq a b, i, j, hj => by
    obtain ⟨l, hl, hj⟩ := mem_ends_seq.1 hj
    have h₁ := ends_bounded a i l hl
    have h₂ := ends_bounded b l j hj
    exact ⟨h₁.1.trans h₂.1, h₂.2.trans (max_le h₁.2 (le_max_right _ _))⟩
  | .alt a b, i, j, hj => (List.mem_append.1 hj).elim (ends_bounded a i j) (ends_bounded b i j)
  | .star a, i, j, hj => (ends_bounded a).starEnds _ i j hj
  | .plus a, i, j, hj => by
    obtain ⟨l, hl, hj⟩ := List.mem_flatMap.1 hj
    have h₁ := ends_bounded a i l hl
    have h₂ := (ends_bounded a).starEnds _ l j hj
    exact ⟨h₁.1.trans h₂.1, h₂.2.trans (max_le h₁.2 (le_max_right _ _))⟩
  | .opt a, i, j, hj => by
    rcases List.mem_cons.1 hj with rfl | hj
    exacts [⟨le_rfl, le_max_left _ _⟩, ends_bounded a i j hj]
  | .rep n a, i, j, hj => (ends_bounded a).repEnds n i j hj

/-! ## The repetitions -/

variable {r : Regex}

/-- `a*` matches exactly the runs of some number of matches of `a`. -/
theorem mem_ends_star_iff : j ∈ ends s (.star r) i ↔ ∃ k, j ∈ repEnds (ends s r) k i := by
  refine ⟨exists_repEnds_of_mem_starEnds _ i, fun ⟨k, hk⟩ => ?_⟩
  have := ((ends_bounded r).repEnds k i j hk).2
  exact mem_starEnds_of_mem_repEnds (ends_bounded r) k _ i hk (by omega)

/-- `a+` matches exactly the runs of at least one match of `a`. -/
theorem mem_ends_plus_iff : j ∈ ends s (.plus r) i ↔ ∃ k, j ∈ repEnds (ends s r) (k + 1) i := by
  simp only [ends, List.mem_flatMap, mem_repEnds_succ]
  constructor
  · rintro ⟨l, hl, hj⟩
    obtain ⟨k, hk⟩ := exists_repEnds_of_mem_starEnds _ l hj
    exact ⟨k, l, hl, hk⟩
  · rintro ⟨k, l, hl, hk⟩
    exact ⟨l, hl, (mem_ends_star_iff (r := r)).2 ⟨k, hk⟩⟩

theorem mem_ends_opt : j ∈ ends s (.opt r) i ↔ j = i ∨ j ∈ ends s r i := List.mem_cons

theorem mem_ends_rep_iff {n : Nat} : j ∈ ends s (.rep n r) i ↔ j ∈ repEnds (ends s r) n i :=
  Iff.rfl

/-- `n` copies of `a?` match exactly the runs of at most `n` matches of `a`. -/
theorem mem_repEnds_opt :
    ∀ n i, j ∈ repEnds (ends s (.opt r)) n i ↔ ∃ k ≤ n, j ∈ repEnds (ends s r) k i
  | 0, i => by simp only [mem_repEnds_zero, Nat.le_zero, exists_eq_left]
  | n + 1, i => by
    simp only [mem_repEnds_succ, mem_ends_opt, or_and_right, exists_or, exists_eq_left,
      mem_repEnds_opt n]
    constructor
    · rintro (⟨k, hk, hj⟩ | ⟨l, hl, k, hk, hj⟩)
      exacts [⟨k, by omega, hj⟩, ⟨k + 1, by omega, mem_repEnds_succ.2 ⟨l, hl, hj⟩⟩]
    · rintro ⟨_ | k, hk, hj⟩
      · exact .inl ⟨0, Nat.zero_le _, hj⟩
      · obtain ⟨l, hl, hj⟩ := mem_repEnds_succ.1 hj
        exact .inr ⟨l, hl, k, by omega, hj⟩

/-- `a{m}a*` matches exactly the runs of at least `m` matches of `a`. -/
theorem mem_ends_rep_star (m : Nat) :
    j ∈ ends s (.seq (.rep m r) (.star r)) i ↔ ∃ k, m ≤ k ∧ j ∈ repEnds (ends s r) k i := by
  simp only [mem_ends_seq, mem_ends_rep_iff, mem_ends_star_iff]
  constructor
  · rintro ⟨l, hl, k, hj⟩
    exact ⟨m + k, by omega, (mem_repEnds_add k m i).2 ⟨l, hl, hj⟩⟩
  · rintro ⟨k, hk, hj⟩
    obtain ⟨d, rfl⟩ := Nat.exists_eq_add_of_le hk
    obtain ⟨l, hl, hj⟩ := (mem_repEnds_add d m i).1 hj
    exact ⟨l, hl, d, hj⟩

/-- `a{m}(a?){d}` matches exactly the runs of `m` to `m + d` matches of `a`. -/
theorem mem_ends_rep_opt (m d : Nat) :
    j ∈ ends s (.seq (.rep m r) (.rep d (.opt r))) i ↔
      ∃ k, m ≤ k ∧ k ≤ m + d ∧ j ∈ repEnds (ends s r) k i := by
  simp only [mem_ends_seq, mem_ends_rep_iff, mem_repEnds_opt]
  constructor
  · rintro ⟨l, hl, k, hk, hj⟩
    exact ⟨m + k, by omega, by omega, (mem_repEnds_add k m i).2 ⟨l, hl, hj⟩⟩
  · rintro ⟨k, hk, hkd, hj⟩
    obtain ⟨e, rfl⟩ := Nat.exists_eq_add_of_le hk
    obtain ⟨l, hl, hj⟩ := (mem_repEnds_add e m i).1 hj
    exact ⟨l, hl, e, by omega, hj⟩

/-- **A repetition with no greatest count means what Python means**: `a{m,}` matches exactly
the runs of at least `m` matches of `a`; so do `a*` and `a+`, for `m` `0` and `1`. -/
theorem mem_ends_repeatOf_none (m : Nat) :
    j ∈ ends s (repeatOf r (m, none)) i ↔ ∃ k, m ≤ k ∧ j ∈ repEnds (ends s r) k i := by
  rcases m with _ | _ | m
  · simp only [repeatOf, mem_ends_star_iff, Nat.zero_le, true_and]
  · rw [show repeatOf r (1, none) = .plus r from rfl, mem_ends_plus_iff]
    constructor
    · rintro ⟨k, hk⟩
      exact ⟨k + 1, by omega, hk⟩
    · rintro ⟨_ | k, hk, hj⟩
      exacts [absurd hk (by omega), ⟨k, hj⟩]
  · exact mem_ends_rep_star (m + 2)

/-- **A repetition with a greatest count means what Python means**: for `m ≤ n`, `a{m,n}`
matches exactly the runs of `m` to `n` matches of `a`; so does `a?`, for `0` and `1`. -/
theorem mem_ends_repeatOf_some {m n : Nat} (hmn : m ≤ n) :
    j ∈ ends s (repeatOf r (m, some n)) i ↔ ∃ k, m ≤ k ∧ k ≤ n ∧ j ∈ repEnds (ends s r) k i := by
  by_cases h01 : m = 0 ∧ n = 1
  · obtain ⟨rfl, rfl⟩ := h01
    rw [show repeatOf r (0, some 1) = .opt r from rfl, mem_ends_opt]
    constructor
    · rintro (rfl | hj)
      exacts [⟨0, le_rfl, Nat.zero_le _, mem_repEnds_zero.2 rfl⟩,
        ⟨1, Nat.zero_le _, le_rfl, mem_repEnds_succ.2 ⟨j, hj, mem_repEnds_zero.2 rfl⟩⟩]
    · rintro ⟨_ | _ | k, -, hk, hj⟩
      · exact .inl (mem_repEnds_zero.1 hj)
      · obtain ⟨l, hl, hj⟩ := mem_repEnds_succ.1 hj
        exact .inr (mem_repEnds_zero.1 hj ▸ hl)
      · omega
  have heq : repeatOf r (m, some n) =
      if m = n then .rep m r else .seq (.rep m r) (.rep (n - m) (.opt r)) := by
    rcases m with _ | m <;> rcases n with _ | _ | n <;>
      first | (simp only [repeatOf]; done) | exact absurd ⟨rfl, rfl⟩ h01
  rw [heq]
  split
  · subst m
    rw [mem_ends_rep_iff]
    exact ⟨fun hj => ⟨n, le_rfl, le_rfl, hj⟩, fun ⟨k, hk, hk', hj⟩ => (le_antisymm hk' hk) ▸ hj⟩
  · rw [mem_ends_rep_opt, Nat.add_sub_cancel' hmn]

end Ends

end Regex

end Cosmpy
