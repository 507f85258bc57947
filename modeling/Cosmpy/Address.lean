import Cosmpy.Regex

/-!
# `is_valid_crypto_address`

`isValidCryptoAddress address prefix` compiles `"^" + prefix + "[0-9a-z]{39}$"` and asks whether
it matches `address`.  The intent, in the spec's words, is to accept exactly a prefix followed by
39 lowercase letters and digits.  Two things of the pattern language get in the way:

* `$` also matches just before a newline that ends the string, so an address followed by `"\n"`
  is accepted (`isValidCryptoAddress_trailing_newline`);
* the prefix is spliced in as text, so a prefix with a top-level `|` splits the whole pattern
  into alternatives, and the anchors and the 39 characters bind to one side only.

For the default prefix, `isValidCryptoAddress_default_iff` gives the exact set of accepted
strings, for every string: a nonempty run of lowercase letters, 39 lowercase letters or digits,
and possibly one final newline.  For every prefix written in plain characters (such as `fetch`),
`isValidCryptoAddress_plain_iff` does the same: the prefix itself, 39 lowercase letters or
digits, and possibly one final newline.
-/

set_option autoImplicit false

namespace Cosmpy

/-- The default `prefix` of `is_valid_crypto_address`. -/
def defaultPrefix : String := "[a-z]+"

/-- `CosmosLedger.is_valid_crypto_address(address, prefix)`; a prefix `re` cannot compile raises
`re.error`. -/
def isValidCryptoAddress (address pfx : String) : Except Exc Bool :=
  match Regex.compile ("^" ++ pfx ++ "[0-9a-z]{39}$") with
  | .ok addrRe => .ok (addrRe.match address)
  | .error msg => .error (Exc.raise (.other "re.error") msg)

/-! ## The default prefix -/

/-- What `re.compile` makes of the default pattern `^[a-z]+[0-9a-z]{39}$`. -/
def defaultAddressRe : Regex :=
  .seq (.seq (.seq (.seq .empty .atBeginning) (.plus (.set false [.range 'a' 'z'])))
    (.rep 39 (.set false [.range '0' '9', .range 'a' 'z']))) .atEnd

/-- With the default prefix the pattern compiles, so the check never raises. -/
theorem isValidCryptoAddress_default (address : String) :
    isValidCryptoAddress address defaultPrefix = .ok (defaultAddressRe.match address) :=
  rfl

theorem isValidCryptoAddress_default_isOk (address : String) :
    ∃ b, isValidCryptoAddress address defaultPrefix = .ok b :=
  ⟨_, isValidCryptoAddress_default address⟩

theorem setContains_lower (c : Char) :
    Regex.setContains false [.range 'a' 'z'] c = true ↔ 'a' ≤ c ∧ c ≤ 'z' := by
  simp [Regex.setContains, ClassItem.contains]

theorem setContains_lowerDigit (c : Char) :
    Regex.setContains false [.range '0' '9', .range 'a' 'z'] c = true ↔
      ('0' ≤ c ∧ c ≤ '9') ∨ ('a' ≤ c ∧ c ≤ 'z') := by
  simp [Regex.setContains, ClassItem.contains]

/-- The default pattern matches a run of `j > 0` lowercase letters, then 39 lowercase letters or
digits, then the end of the string or a final newline. -/
theorem defaultAddressRe_match_iff (address : String) :
    defaultAddressRe.match address = true ↔
      ∃ j, 0 < j ∧ Regex.Span address.toList (Regex.setContains false [.range 'a' 'z']) 0 j ∧
        Regex.Span address.toList (Regex.setContains false [.range '0' '9', .range 'a' 'z']) j
          (j + 39) ∧
        (j + 39 = address.toList.length ∨
          (j + 40 = address.toList.length ∧ address.toList[j + 39]? = some '\n')) := by
  rw [Regex.match_eq_true_iff]
  simp only [defaultAddressRe, Regex.mem_ends_seq, Regex.mem_ends_empty,
    Regex.mem_ends_atBeginning, Regex.mem_ends_plus (Regex.oneChar_set _ _),
    Regex.mem_ends_rep (Regex.oneChar_set _ _), Regex.mem_ends_atEnd]
  constructor
  · rintro ⟨_, _, ⟨j, ⟨_, ⟨_, rfl, rfl, -⟩, hj, hs⟩, rfl, hs'⟩, rfl, hend⟩
    exact ⟨j, hj, hs, hs', hend.imp_right fun ⟨h, h'⟩ => ⟨by omega, h'⟩⟩
  · rintro ⟨j, hj, hs, hs', hend⟩
    exact ⟨_, _, ⟨j, ⟨0, ⟨0, rfl, rfl, rfl⟩, hj, hs⟩, rfl, hs'⟩, rfl,
      hend.imp_right fun ⟨h, h'⟩ => ⟨by omega, h'⟩⟩

/-- A nonempty run of the class is a block of the string, all of whose characters are of the
class. -/
theorem span_iff_take_drop {s : List Char} {cls : Char → Bool} {i n : Nat} (hn : 0 < n) :
    Regex.Span s cls i (i + n) ↔ i + n ≤ s.length ∧ ∀ c ∈ (s.drop i).take n, cls c = true := by
  constructor
  · intro h
    refine ⟨h.le_length (by omega), fun c hc => ?_⟩
    obtain ⟨m, hm⟩ := List.mem_iff_getElem?.mp hc
    rw [List.getElem?_take, List.getElem?_drop] at hm
    split at hm
    · obtain ⟨c', hc', hcls⟩ := h (i + m) (by omega) (by omega)
      rw [hc'] at hm
      cases hm
      exact hcls
    · cases hm
  · rintro ⟨hlen, h⟩ k hk hk'
    obtain ⟨c, hc⟩ : ∃ c, s[k]? = some c := ⟨s[k], List.getElem?_eq_getElem (by omega)⟩
    refine ⟨c, hc, h c (List.mem_iff_getElem?.mpr ⟨k - i, ?_⟩)⟩
    rw [List.getElem?_take, if_pos (by omega), List.getElem?_drop, Nat.add_sub_cancel' hk, hc]

/-- An address the check accepts with the default prefix is a nonempty run of lowercase letters,
then 39 lowercase letters or digits, and then either nothing or one newline. -/
theorem isValidCryptoAddress_default_shape {address : String}
    (h : isValidCryptoAddress address defaultPrefix = .ok true) :
    ∃ p q, (address.toList = p ++ q ∨ address.toList = p ++ q ++ ['\n']) ∧ p ≠ [] ∧
      (∀ c ∈ p, 'a' ≤ c ∧ c ≤ 'z') ∧ q.length = 39 ∧
      ∀ c ∈ q, ('0' ≤ c ∧ c ≤ '9') ∨ ('a' ≤ c ∧ c ≤ 'z') := by
  rw [isValidCryptoAddress_default, Except.ok.injEq, defaultAddressRe_match_iff] at h
  generalize address.toList = s at h
  obtain ⟨j, hj, hs, hs', hend⟩ := h
  rw [← Nat.zero_add j] at hs
  obtain ⟨hlen, hp⟩ := (span_iff_take_drop hj).1 hs
  obtain ⟨hlen', hq⟩ := (span_iff_take_drop (by norm_num)).1 hs'
  have hsplit : s = s.take j ++ (s.drop j).take 39 ++ s.drop (j + 39) := by
    rw [List.append_assoc, ← List.drop_drop, List.take_append_drop, List.take_append_drop]
  refine ⟨s.take j, (s.drop j).take 39, ?_, List.length_pos.mp (by rw [List.length_take]; omega),
    fun c hc => (setContains_lower c).1 (hp c (by simpa using hc)),
    by rw [List.length_take, List.length_drop]; omega,
    fun c hc => (setContains_lowerDigit c).1 (hq c hc)⟩
  rcases hend with hend | ⟨hend, hnl⟩
  · refine .inl (hsplit.trans ?_)
    rw [List.drop_eq_nil_of_le (show s.length ≤ j + 39 by omega), List.append_nil]
  · obtain ⟨a, ha⟩ := List.length_eq_one.mp (show (s.drop (j + 39)).length = 1 by rw [List.length_drop]; omega)
    have hnl' : (s.drop (j + 39))[0]? = some '\n' := by rw [List.getElem?_drop]; exact hnl
    rw [ha] at hnl'
    have : a = '\n' := by simpa using hnl'
    exact .inr (hsplit.trans (by rw [ha, this]))

/-- **What the check accepts with the default prefix.**  For every string the check returns and
never raises, and it accepts exactly a nonempty run of lowercase letters, then 39 lowercase
letters or digits, and then either nothing or one newline. -/
theorem isValidCryptoAddress_default_iff (address : String) :
    (∃ b, isValidCryptoAddress address defaultPrefix = .ok b) ∧
    (isValidCryptoAddress address defaultPrefix = .ok true ↔
      ∃ p q, (address.toList = p ++ q ∨ address.toList = p ++ q ++ ['\n']) ∧ p ≠ [] ∧
        (∀ c ∈ p, 'a' ≤ c ∧ c ≤ 'z') ∧ q.length = 39 ∧
        ∀ c ∈ q, ('0' ≤ c ∧ c ≤ '9') ∨ ('a' ≤ c ∧ c ≤ 'z')) := by
  refine ⟨isValidCryptoAddress_default_isOk address, isValidCryptoAddress_default_shape, ?_⟩
  rw [isValidCryptoAddress_default, Except.ok.injEq, defaultAddressRe_match_iff]
  generalize address.toList = s
  rintro ⟨p, q, hs, hp, hpc, hql, hqc⟩
  obtain ⟨rest, rfl, hrest⟩ : ∃ rest, s = p ++ (q ++ rest) ∧ (rest = [] ∨ rest = ['\n']) := by
    rcases hs with rfl | rfl
    exacts [⟨[], by simp, .inl rfl⟩, ⟨['\n'], by simp, .inr rfl⟩]
  have hj : 0 < p.length := List.length_pos.mpr hp
  refine ⟨p.length, hj, ?_, ?_, ?_⟩
  · rw [← Nat.zero_add p.length, span_iff_take_drop hj, List.drop_zero, List.take_left]
    exact ⟨by simp, fun c hc => (setContains_lower c).2 (hpc c hc)⟩
  · rw [span_iff_take_drop (by norm_num), List.drop_left, List.take_left' hql]
    exact ⟨by simp [hql], fun c hc => (setContains_lowerDigit c).2 (hqc c hc)⟩
  · rcases hrest with rfl | rfl
    · exact .inl (by simp [hql])
    · refine .inr ⟨by simp [hql], ?_⟩
      rw [List.getElem?_append_right (by omega), List.getElem?_append_right (by omega)]
      simp [hql]

/-- A string of 39 zeros. -/
def zeros39 : String := String.mk (List.replicate 39 '0')

/-- The check accepts an address followed by a newline, and, with the prefix `a|b`, the one-letter
string `a`. -/
theorem isValidCryptoAddress_trailing_newline :
    isValidCryptoAddress ("a" ++ zeros39 ++ "\n") defaultPrefix = .ok true ∧
      isValidCryptoAddress "a" "a|b" = .ok true := by
  constructor <;> rfl


/-! ## A plain prefix

A prefix with no character of `Regex.specialChars` is spliced into the pattern as plain text:
`compile_address_plain` computes the compiled pattern for every such prefix, and
`isValidCryptoAddress_plain_iff` says what the check then accepts. -/

section PlainPrefix

open Regex

/-- The address pattern with a plain prefix `pfx`, as `re.compile` reads it. -/
def addressRe (pfx : List Char) : Regex :=
  .seq (.seq (litSeq (.seq .empty .atBeginning) pfx)
    (.rep 39 (.set false [.range '0' '9', .range 'a' 'z']))) .atEnd

theorem parseSeq_addressTail (n : Nat) (acc : Regex) :
    parseSeq (n + 3) "[0-9a-z]{39}$".toList acc =
      .ok (.seq (.seq acc (.rep 39 (.set false [.range '0' '9', .range 'a' 'z']))) .atEnd, []) :=
  rfl

theorem compile_address_plain (pfx : String) (hp : ∀ c ∈ pfx.toList, c ∉ specialChars) :
    compile ("^" ++ pfx ++ "[0-9a-z]{39}$") = .ok (addressRe pfx.toList) := by
  have htail : ∀ d ∈ ("[0-9a-z]{39}$".toList).head?, d ∉ ['*', '+', '?', '{'] := by decide
  have hlen : ("^" ++ pfx ++ "[0-9a-z]{39}$").length = pfx.toList.length + 14 := by
    rw [String.length_append, String.length_append]
    show 1 + pfx.toList.length + 13 = _
    omega
  have hseq : parseSeq (3 * pfx.toList.length + 42 + 2)
      ('^' :: (pfx.toList ++ "[0-9a-z]{39}$".toList)) .empty = .ok (addressRe pfx.toList, []) := by
    rw [parseSeq_caret (head_not_repeat hp htail),
      show 3 * pfx.toList.length + 42 + 1 = 2 * pfx.toList.length + 42 + 1 + pfx.toList.length
        by omega, parseSeq_plain htail _ _ _ hp,
      show 2 * pfx.toList.length + 42 + 1 = 2 * pfx.toList.length + 40 + 3 by omega,
      parseSeq_addressTail]
    rfl
  have halt : parseAlt (3 * pfx.toList.length + 42 + 2 + 1) ("^" ++ pfx ++ "[0-9a-z]{39}$").toList =
      .ok (addressRe pfx.toList, []) := by
    show parseAlt _ ('^' :: (pfx.toList ++ "[0-9a-z]{39}$".toList)) = _
    rw [parseAlt, hseq]
    rfl
  rw [compile, hlen, show 3 * (pfx.toList.length + 14) + 3 = 3 * pfx.toList.length + 42 + 2 + 1
    by omega, halt]

/-- From position `k`: 39 lowercase letters or digits, and then the end or a final newline. -/
theorem addressTail_iff {s : List Char} {k : Nat} :
    (Span s (setContains false [.range '0' '9', .range 'a' 'z']) k (k + 39) ∧
      (k + 39 = s.length ∨ (k + 40 = s.length ∧ s[k + 39]? = some '\n'))) ↔
    ∃ q, (s.drop k = q ∨ s.drop k = q ++ ['\n']) ∧ q.length = 39 ∧
      ∀ c ∈ q, ('0' ≤ c ∧ c ≤ '9') ∨ ('a' ≤ c ∧ c ≤ 'z') := by
  rw [span_iff_take_drop (by norm_num)]
  constructor
  · rintro ⟨⟨hlen, hq⟩, hend⟩
    refine ⟨(s.drop k).take 39, ?_, by rw [List.length_take, List.length_drop]; omega,
      fun c hc => (setContains_lowerDigit c).1 (hq c hc)⟩
    have hsplit := (List.take_append_drop 39 (s.drop k)).symm
    rw [List.drop_drop] at hsplit
    rcases hend with hend | ⟨hend, hnl⟩
    · rw [List.drop_eq_nil_of_le (show s.length ≤ k + 39 by omega), List.append_nil] at hsplit
      exact .inl hsplit
    · obtain ⟨a, ha⟩ := List.length_eq_one.mp
        (show (s.drop (k + 39)).length = 1 by rw [List.length_drop]; omega)
      have hnl' : (s.drop (k + 39))[0]? = some '\n' := by rw [List.getElem?_drop]; exact hnl
      rw [ha] at hnl' hsplit
      cases hnl'
      exact .inr hsplit
  · rintro ⟨q, hs, hql, hqc⟩
    obtain ⟨rest, hs, hrest⟩ : ∃ rest, s.drop k = q ++ rest ∧ (rest = [] ∨ rest = ['\n']) := by
      rcases hs with hs | hs
      exacts [⟨[], by rw [hs, List.append_nil], .inl rfl⟩, ⟨['\n'], hs, .inr rfl⟩]
    have hlen : s.length - k = 39 + rest.length := by
      rw [← List.length_drop, hs, List.length_append, hql]
    refine ⟨⟨by omega, fun c hc => (setContains_lowerDigit c).2
      (hqc c (by rwa [hs, List.take_left' hql] at hc))⟩, ?_⟩
    rcases hrest with rfl | rfl
    · exact .inl (by simp only [List.length_nil] at hlen; omega)
    · refine .inr ⟨by simp only [List.length_singleton] at hlen; omega, ?_⟩
      rw [← List.getElem?_drop, hs, List.getElem?_append_right (by omega), hql]
      rfl

theorem isValidCryptoAddress_plain (address pfx : String)
    (hp : ∀ c ∈ pfx.toList, c ∉ specialChars) :
    isValidCryptoAddress address pfx = .ok ((addressRe pfx.toList).match address) := by
  rw [isValidCryptoAddress, compile_address_plain pfx hp]

theorem addressRe_match_iff (p : List Char) (address : String) :
    (addressRe p).match address = true ↔ address.toList.take p.length = p ∧
      ∃ q, (address.toList.drop p.length = q ∨ address.toList.drop p.length = q ++ ['\n']) ∧
        q.length = 39 ∧ ∀ c ∈ q, ('0' ≤ c ∧ c ≤ '9') ∨ ('a' ≤ c ∧ c ≤ 'z') := by
  rw [match_eq_true_iff, ← addressTail_iff]
  simp only [addressRe, mem_ends_seq, mem_ends_litSeq, mem_ends_empty, mem_ends_atBeginning,
    mem_ends_rep (oneChar_set _ _), mem_ends_atEnd, List.drop_zero, Nat.zero_add]
  constructor
  · rintro ⟨_, _, ⟨_, ⟨_, ⟨_, rfl, rfl, -⟩, rfl, hp⟩, rfl, hs⟩, rfl, hend⟩
    exact ⟨hp, by simpa using hs, by simpa using hend⟩
  · rintro ⟨hp, hs, hend⟩
    exact ⟨_, _, ⟨_, ⟨0, ⟨0, rfl, rfl, rfl⟩, rfl, hp⟩, rfl, by simpa using hs⟩, rfl,
      by simpa using hend⟩

/-- **What the check accepts with a plain prefix.**  For every prefix made of characters with no
meaning of their own in a pattern, and every string, the check never raises, and it accepts the
string exactly when it is the prefix, then 39 lowercase letters or digits, and then either nothing
or one newline. -/
theorem isValidCryptoAddress_plain_iff (address pfx : String)
    (hp : ∀ c ∈ pfx.toList, c ∉ specialChars) :
    (∃ b, isValidCryptoAddress address pfx = .ok b) ∧
    (isValidCryptoAddress address pfx = .ok true ↔
      ∃ q, (address.toList = pfx.toList ++ q ∨ address.toList = pfx.toList ++ q ++ ['\n']) ∧
        q.length = 39 ∧ ∀ c ∈ q, ('0' ≤ c ∧ c ≤ '9') ∨ ('a' ≤ c ∧ c ≤ 'z')) := by
  rw [isValidCryptoAddress_plain address pfx hp, Except.ok.injEq, addressRe_match_iff]
  refine ⟨⟨_, rfl⟩, ?_⟩
  generalize address.toList = s
  constructor
  · rintro ⟨hpfx, q, hq, hql, hqc⟩
    refine ⟨q, ?_, hql, hqc⟩
    rw [← List.take_append_drop pfx.toList.length s, hpfx]
    rcases hq with hq | hq <;> rw [hq]
    exacts [.inl rfl, .inr (List.append_assoc _ _ _).symm]
  · rintro ⟨q, hs, hql, hqc⟩
    refine ⟨?_, q, ?_, hql, hqc⟩
    · rcases hs with rfl | rfl <;> simp
    · rcases hs with rfl | rfl <;> simp

end PlainPrefix

/-- With the prefix `fetch`, the check reads `fetch` followed by 39 zeros as the rule says. -/
theorem isValidCryptoAddress_fetch :
    (∀ c ∈ "fetch".toList, c ∉ Regex.specialChars) ∧
      ((∃ b, isValidCryptoAddress ("fetch" ++ zeros39) "fetch" = .ok b) ∧
        (isValidCryptoAddress ("fetch" ++ zeros39) "fetch" = .ok true ↔
          ∃ q, (("fetch" ++ zeros39).toList = "fetch".toList ++ q ∨
              ("fetch" ++ zeros39).toList = "fetch".toList ++ q ++ ['\n']) ∧
            q.length = 39 ∧ ∀ c ∈ q, ('0' ≤ c ∧ c ≤ '9') ∨ ('a' ≤ c ∧ c ≤ 'z'))) :=
  ⟨by decide, isValidCryptoAddress_plain_iff _ _ (by decide)⟩

end Cosmpy
