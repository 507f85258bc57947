import Cosmpy.Basic.Types

/-!
# The part of Python's `re` the module relies on

`ledger.py` compiles three patterns: `CODE_ID_RE` and `CONTRACT_ADDRESS_RE`, which pick the
identifiers out of a transaction's log, and the address pattern `is_valid_crypto_address` builds
by string concatenation, `"^" + prefix + "[0-9a-z]{39}$"`.  Whether that last check does what its
name says depends on how `re` reads the concatenated string, so the pattern syntax is modelled,
not just the matching.

* `Regex` is the syntax tree of a pattern: literals, `.`, character sets, the anchors `^` and `$`,
  concatenation, `|`, the repetitions `*`, `+`, `?` and `{n}`, and groups.
* `compile` is `re.compile` on that subset, read as `sre_parse` reads it: a recursive-descent
  parser with `|` binding loosest; the counts `{m}`, `{m,}`, `{,n}`, `{m,n}` (a `{` that starts
  no count is a literal), written with the constructors above (`repeatOf`, which
  `Cosmpy.Repeats` shows matches what Python's counted repeat matches); a lazy `?` after a
  repetition, which changes no answer of `match`; and `sre_parse`'s errors, among them `nothing to
  repeat` for a repetition with nothing before it or after an anchor, and `multiple repeat`.
  The messages leave out the text and position `re.error` adds, and a count of `2^32 - 1` or
  more, on which Python raises `OverflowError`, is read as a count.  What the subset lacks is
  refused with an error of its own, where Python would compile the pattern: the escapes with a
  meaning (`\d`, `\w`, `\b`, `\A`, control, numeric and octal escapes: `unsupported escape`)
  and the group extensions other than `(?:` (`unsupported group`).
* `Regex.ends s r i` is the set of positions where a match of `r` starting at position `i` of `s`
  can end.  `$` is Python's: it matches at the end of the string and also just before a final
  newline.  `Regex.match` is `Pattern.match`: some match starts at position `0`.  For this subset
  a backtracking matcher finds a match exactly when one exists, so `match` is the existence of a
  way through the tree.

The rest of the file reads patterns built around plain text.  `parseSeq_plain`: the parser reads
a run of characters with no meaning of their own (`specialChars`) as one `.char` node each
(`litSeq`), whatever follows, unless a repetition sign does; `mem_ends_litSeq`: such a run
matches exactly those characters.  `containsRe_match_iff` says what `.*w.*` matches.
-/

set_option autoImplicit false

namespace Cosmpy

/-- One item of a character set `[...]`. -/
inductive ClassItem where
  | char (c : Char)
  | range (lo hi : Char)

/-- Whether `c` is in the item. -/
def ClassItem.contains (c : Char) : ClassItem → Bool
  | .char d => c == d
  | .range lo hi => decide (lo ≤ c) && decide (c ≤ hi)

/-- A pattern's syntax tree. -/
inductive Regex where
  | empty
  | char (c : Char)
  | any
  | set (negated : Bool) (items : List ClassItem)
  | atBeginning
  | atEnd
  | seq (a b : Regex)
  | alt (a b : Regex)
  | star (a : Regex)
  | plus (a : Regex)
  | opt (a : Regex)
  | rep (n : Nat) (a : Regex)

namespace Regex

/-! ## Matching -/

/-- The positions reachable from `i` by zero or more steps of `step` that each move forward;
`fuel` bounds the number of steps. -/
def starEnds (step : Nat → List Nat) : Nat → Nat → List Nat
  | 0, i => [i]
  | fuel + 1, i => i :: ((step i).filter (· > i)).flatMap (starEnds step fuel)

/-- The positions reachable from `i` by exactly `n` steps of `step`. -/
def repEnds (step : Nat → List Nat) : Nat → Nat → List Nat
  | 0, i => [i]
  | n + 1, i => (step i).flatMap (repEnds step n)

/-- Whether `c` is in the set, `negated` taken into account. -/
def setContains (negated : Bool) (items : List ClassItem) (c : Char) : Bool :=
  items.any (ClassItem.contains c) != negated

/-- Where a match of the pattern, starting at position `i` of `s`, can end. -/
def ends (s : List Char) : Regex → Nat → List Nat
  | .empty, i => [i]
  | .char c, i => if s[i]? = some c then [i + 1] else []
  | .any, i => match s[i]? with
    | some c => if c = '\n' then [] else [i + 1]
    | none => []
  | .set negated items, i => match s[i]? with
    | some c => if setContains negated items c then [i + 1] else []
    | none => []
  | .atBeginning, i => if i = 0 then [i] else []
  | .atEnd, i => if i = s.length ∨ (i + 1 = s.length ∧ s[i]? = some '\n') then [i] else []
  | .seq a b, i => (ends s a i).flatMap (ends s b)
  | .alt a b, i => ends s a i ++ ends s b i
  | .star a, i => starEnds (ends s a) (s.length + 1) i
  | .plus a, i => (ends s a i).flatMap (starEnds (ends s a) (s.length + 1))
  | .opt a, i => i :: ends s a i
  | .rep n a, i => repEnds (ends s a) n i

/-- `pattern.match(string)` is not `None`: a match starts at the beginning of the string. -/
def «match» (r : Regex) (s : String) : Bool := !(r.ends s.toList 0).isEmpty

theorem match_eq_true_iff (r : Regex) (s : String) :
    r.match s = true ↔ ∃ j, j ∈ r.ends s.toList 0 := by
  simp [«match», List.isEmpty_iff, List.eq_nil_iff_forall_not_mem]

/-! ## Runs of one character class

Each pattern the module builds is a sequence of anchors and of sets repeated with `+` or `{n}`.
A set matches one character of its class; `Span s cls i j` says that every character of `s`
from position `i` to position `j` is of the class, and the repetitions match exactly such runs.
-/

section Span

variable (s : List Char)

/-- Every character of `s` from position `i` up to, not including, `j` is of the class `cls`. -/
def Span (cls : Char → Bool) (i j : Nat) : Prop :=
  ∀ k, i ≤ k → k < j → ∃ c, s[k]? = some c ∧ cls c = true

/-- `step` matches one character of the class `cls`. -/
def OneChar (step : Nat → List Nat) (cls : Char → Bool) : Prop :=
  ∀ i j, j ∈ step i ↔ j = i + 1 ∧ ∃ c, s[i]? = some c ∧ cls c = true

variable {s} {step : Nat → List Nat} {cls : Char → Bool}

theorem span_succ_iff {i j : Nat} (hij : i < j) :
    Span s cls i j ↔ (∃ c, s[i]? = some c ∧ cls c = true) ∧ Span s cls (i + 1) j := by
  constructor
  · exact fun h => ⟨h i le_rfl hij, fun k hk hk' => h k (by omega) hk'⟩
  · rintro ⟨hi, h⟩ k hk hk'
    rcases Nat.eq_or_lt_of_le hk with rfl | hk
    exacts [hi, h k hk hk']

/-- A run of characters lies inside the string. -/
theorem Span.le_length {i j : Nat} (h : Span s cls i j) (hij : i < j) : j ≤ s.length := by
  obtain ⟨c, hc, -⟩ := h (j - 1) (by omega) (by omega)
  have := (List.getElem?_eq_some_iff.mp hc).1
  omega

theorem mem_starEnds (h : OneChar s step cls) :
    ∀ fuel i j, j ∈ starEnds step fuel i ↔ i ≤ j ∧ j ≤ i + fuel ∧ Span s cls i j
  | 0, i, j => by
    simp only [starEnds, List.mem_singleton, Nat.add_zero]
    exact ⟨fun h => ⟨h.ge, h.le, fun k hk hk' => by omega⟩, fun ⟨h, h', _⟩ => by omega⟩
  | fuel + 1, i, j => by
    have h' : ∀ i j, j ∈ step i ↔ j = i + 1 ∧ ∃ c, s[i]? = some c ∧ cls c = true := h
    simp only [starEnds, List.mem_cons, List.mem_flatMap, List.mem_filter, h', mem_starEnds h fuel,
      decide_eq_true_eq]
    constructor
    · rintro (rfl | ⟨_, ⟨⟨rfl, hc⟩, -⟩, hij, hj, hs⟩)
      · exact ⟨le_rfl, by omega, fun k hk hk' => by omega⟩
      · exact ⟨by omega, by omega, (span_succ_iff (by omega)).2 ⟨hc, hs⟩⟩
    · rintro ⟨hij, hj, hs⟩
      rcases Nat.eq_or_lt_of_le hij with rfl | hij
      · exact .inl rfl
      · obtain ⟨hc, hs⟩ := (span_succ_iff hij).1 hs
        exact .inr ⟨i + 1, ⟨⟨rfl, hc⟩, by omega⟩, by omega, by omega, hs⟩

theorem mem_repEnds (h : OneChar s step cls) :
    ∀ n i j, j ∈ repEnds step n i ↔ j = i + n ∧ Span s cls i j
  | 0, i, j => by
    simp only [repEnds, List.mem_singleton, Nat.add_zero]
    exact ⟨fun h => ⟨h, fun k hk hk' => by omega⟩, And.left⟩
  | n + 1, i, j => by
    have h' : ∀ i j, j ∈ step i ↔ j = i + 1 ∧ ∃ c, s[i]? = some c ∧ cls c = true := h
    simp only [repEnds, List.mem_flatMap, h', mem_repEnds h n]
    constructor
    · rintro ⟨_, ⟨rfl, hc⟩, rfl, hs⟩
      exact ⟨by omega, (span_succ_iff (by omega)).2 ⟨hc, hs⟩⟩
    · rintro ⟨rfl, hs⟩
      obtain ⟨hc, hs⟩ := (span_succ_iff (by omega)).1 hs
      exact ⟨i + 1, ⟨rfl, hc⟩, by omega, hs⟩

end Span

section Ends

variable {s : List Char} {i j : Nat}

theorem oneChar_set (negated : Bool) (items : List ClassItem) :
    OneChar s (ends s (.set negated items)) (setContains negated items) := by
  intro i j
  simp only [ends]
  cases s[i]? with
  | none => simp
  | some c => by_cases hc : setContains negated items c <;> simp [hc]

theorem mem_ends_seq {a b : Regex} : j ∈ ends s (.seq a b) i ↔ ∃ k ∈ ends s a i, j ∈ ends s b k :=
  List.mem_flatMap

theorem mem_ends_plus {r : Regex} {cls : Char → Bool} (h : OneChar s (ends s r) cls) :
    j ∈ ends s (.plus r) i ↔ i < j ∧ Span s cls i j := by
  have h' : ∀ i j, j ∈ ends s r i ↔ j = i + 1 ∧ ∃ c, s[i]? = some c ∧ cls c = true := h
  simp only [ends, List.mem_flatMap, h', mem_starEnds h]
  constructor
  · rintro ⟨_, ⟨rfl, hc⟩, hij, -, hs⟩
    exact ⟨by omega, (span_succ_iff (by omega)).2 ⟨hc, hs⟩⟩
  · rintro ⟨hij, hs⟩
    have := hs.le_length hij
    obtain ⟨hc, hs⟩ := (span_succ_iff hij).1 hs
    exact ⟨i + 1, ⟨rfl, hc⟩, by omega, by omega, hs⟩

theorem mem_ends_rep {r : Regex} {cls : Char → Bool} {n : Nat} (h : OneChar s (ends s r) cls) :
    j ∈ ends s (.rep n r) i ↔ j = i + n ∧ Span s cls i j :=
  mem_repEnds h n i j

theorem mem_ends_atEnd :
    j ∈ ends s .atEnd i ↔ j = i ∧ (i = s.length ∨ (i + 1 = s.length ∧ s[i]? = some '\n')) := by
  simp only [ends]
  split <;> simp_all

theorem mem_ends_atBeginning : j ∈ ends s .atBeginning i ↔ j = i ∧ i = 0 := by
  simp only [ends]
  split <;> simp_all

theorem mem_ends_empty : j ∈ ends s .empty i ↔ j = i := List.mem_singleton

theorem mem_ends_char {c : Char} : j ∈ ends s (.char c) i ↔ j = i + 1 ∧ s[i]? = some c := by
  simp only [ends]
  split <;> simp_all

theorem oneChar_any : OneChar s (ends s .any) fun c => c != '\n' := by
  intro i j
  simp only [ends]
  cases s[i]? with
  | none => simp
  | some c => by_cases hc : c = '\n' <;> simp [hc]

theorem mem_ends_star {r : Regex} {cls : Char → Bool} (h : OneChar s (ends s r) cls) :
    j ∈ ends s (.star r) i ↔ i ≤ j ∧ Span s cls i j := by
  simp only [ends, mem_starEnds h]
  constructor
  · exact fun ⟨hij, _, hs⟩ => ⟨hij, hs⟩
  · rintro ⟨hij, hs⟩
    rcases Nat.eq_or_lt_of_le hij with rfl | hij
    · exact ⟨le_rfl, by omega, hs⟩
    · exact ⟨hij.le, by have := hs.le_length hij; omega, hs⟩

end Ends

/-! ## Runs of plain characters

A character with no meaning of its own in a pattern stands for itself, and the parser reads a run
of them as one `.char` node each, in a left-nested sequence after what came before: `litSeq`.  A
match of such a run reads exactly those characters. -/

/-- The sequence the parser builds from the plain characters `cs` after `acc`. -/
def litSeq : Regex → List Char → Regex
  | acc, [] => acc
  | acc, c :: cs => litSeq (.seq acc (.char c)) cs

theorem take_succ_drop_eq_cons {s : List Char} {k n : Nat} {c : Char} {q : List Char} :
    (s.drop k).take (n + 1) = c :: q ↔ s[k]? = some c ∧ (s.drop (k + 1)).take n = q := by
  rw [← List.head?_drop, ← List.tail_drop]
  cases s.drop k with
  | nil => simp
  | cons x xs => simp

theorem mem_ends_litSeq {s : List Char} (r : Regex) : ∀ (p : List Char) (i j : Nat),
    j ∈ ends s (litSeq r p) i ↔
      ∃ k ∈ ends s r i, j = k + p.length ∧ (s.drop k).take p.length = p
  | [], i, j => by simp [litSeq]
  | c :: p, i, j => by
    simp only [litSeq, mem_ends_litSeq _ p, mem_ends_seq, mem_ends_char, List.length_cons,
      take_succ_drop_eq_cons]
    constructor
    · rintro ⟨_, ⟨k, hk, rfl, hc⟩, rfl, hp⟩
      exact ⟨k, hk, by omega, hc, hp⟩
    · rintro ⟨k, hk, rfl, hc, hp⟩
      exact ⟨_, ⟨k, hk, rfl, hc⟩, by omega, hp⟩

/-- `.*w.*` for a plain word `w`, as the parser reads it. -/
def containsRe (w : List Char) : Regex := .seq (litSeq (.seq .empty (.star .any)) w) (.star .any)

theorem span_notNewline_iff {s : List Char} {m : Nat} :
    Span s (fun c => c != '\n') 0 m ↔ m ≤ s.length ∧ '\n' ∉ s.take m := by
  constructor
  · intro h
    refine ⟨?_, fun hc => ?_⟩
    · rcases Nat.eq_zero_or_pos m with rfl | hm
      · exact Nat.zero_le _
      · exact h.le_length hm
    · obtain ⟨k, hk⟩ := List.mem_iff_getElem?.mp hc
      rw [List.getElem?_take] at hk
      split at hk
      · obtain ⟨c, hc', hnl⟩ := h k (Nat.zero_le _) ‹_›
        rw [hc'] at hk
        cases hk
        simp at hnl
      · cases hk
  · rintro ⟨hm, hnl⟩ k - hk
    obtain ⟨c, hc⟩ : ∃ c, s[k]? = some c := ⟨s[k], List.getElem?_eq_getElem (by omega)⟩
    refine ⟨c, hc, ?_⟩
    have : c ∈ s.take m := List.mem_iff_getElem?.mpr ⟨k, by rw [List.getElem?_take, if_pos hk, hc]⟩
    simpa using fun h : c = '\n' => hnl (h ▸ this)

/-- `.*w.*` matches a string exactly when `w` occurs in it before its first newline: `.` does not
match a newline, and `match` anchors only at the start. -/
theorem containsRe_match_iff (w : List Char) (s : String) :
    (containsRe w).match s = true ↔ ∃ p q, s.toList = p ++ w ++ q ∧ '\n' ∉ p := by
  rw [match_eq_true_iff]
  simp only [containsRe, mem_ends_seq, mem_ends_litSeq, mem_ends_empty, mem_ends_star oneChar_any]
  generalize s.toList = s
  constructor
  · rintro ⟨_, _, ⟨m, ⟨_, rfl, -, hspan⟩, rfl, hw⟩, -⟩
    obtain ⟨hm, hnl⟩ := span_notNewline_iff.1 hspan
    refine ⟨s.take m, s.drop (m + w.length), ?_, hnl⟩
    conv_lhs => rw [← List.take_append_drop m s, ← List.take_append_drop w.length (s.drop m), hw,
      List.drop_drop]
    rw [List.append_assoc]
  · rintro ⟨p, q, rfl, hnl⟩
    refine ⟨_, _, ⟨p.length, ⟨0, rfl, Nat.zero_le _,
      span_notNewline_iff.2 ⟨by simp, by simpa using hnl⟩⟩, rfl, by simp⟩, le_rfl,
      fun k hk hk' => by omega⟩

/-! ## Parsing -/

/-- The escapes `sre_parse` gives a meaning inside a set that this subset lacks: the categories,
the control characters and the octal escapes. -/
def unsupportedClassEscapes : List Char :=
  ['d', 'D', 's', 'S', 'w', 'W', 'a', 'b', 'f', 'n', 'r', 't', 'v', 'x', 'u', 'U', 'N', '0', '1',
    '2', '3', '4', '5', '6', '7']

/-- `\c` inside a set: the character `c` when it is not an ASCII letter or digit; `bad escape`
for one `sre_parse` does not know there. -/
def classEscape (c : Char) : Except String Char :=
  if c ∈ unsupportedClassEscapes then .error "unsupported escape"
  else if c.isAlphanum then .error "bad escape"
  else .ok c

/-- The range `lo-hi` of a set. -/
def classRange (lo hi : Char) : Except String ClassItem :=
  if hi < lo then .error "bad character range" else .ok (.range lo hi)

/-- The items of a character set up to its closing `]`, as `sre_parse` reads them; `first` is set
before the first item, where a `]` is a literal.  An item is a character or an escape, and two
of them joined by `-` are a range, unless the `-` is the last character of the set. -/
def parseSet : Bool → List Char → List ClassItem → Except String (List ClassItem × List Char)
  | _, [], _ => .error "unterminated character set"
  | false, ']' :: rest, acc => .ok (acc.reverse, rest)
  | _, '\\' :: c :: '-' :: ']' :: rest, acc => do
    pure ((ClassItem.char '-' :: .char (← classEscape c) :: acc).reverse, rest)
  | _, '\\' :: c :: '-' :: '\\' :: d :: rest, acc => do
    parseSet false rest ((← classRange (← classEscape c) (← classEscape d)) :: acc)
  | _, '\\' :: c :: '-' :: d :: rest, acc => do
    parseSet false rest ((← classRange (← classEscape c) d) :: acc)
  | _, '\\' :: c :: rest, acc => do parseSet false rest (.char (← classEscape c) :: acc)
  | _, ['\\'], _ => .error "bad escape (end of pattern)"
  | _, c :: '-' :: ']' :: rest, acc => .ok ((ClassItem.char '-' :: .char c :: acc).reverse, rest)
  | _, c :: '-' :: '\\' :: d :: rest, acc => do
    parseSet false rest ((← classRange c (← classEscape d)) :: acc)
  | _, c :: '-' :: d :: rest, acc => do parseSet false rest ((← classRange c d) :: acc)
  | _, c :: rest, acc => parseSet false rest (.char c :: acc)

/-- The digits at the front of `cs`, and what follows them. -/
def spanDigits : List Char → List Char × List Char
  | c :: rest =>
    if c.isDigit then ((spanDigits rest).1.cons c, (spanDigits rest).2) else ([], c :: rest)
  | [] => ([], [])

/-- The number a run of digits spells. -/
def digitsValue (ds : List Char) : Nat := ds.foldl (fun n d => 10 * n + (d.toNat - '0'.toNat)) 0

/-- The counts of a `{m}`, `{m,}`, `{,n}` or `{m,n}` repetition, as `sre_parse` reads them after
the `{`: the least and the greatest count (`none` for no bound), and what follows the `}`.
`none` when no `}` closes the counts, so that the `{` is a literal. -/
def parseBraces (cs : List Char) : Option (Except String ((Nat × Option Nat) × List Char)) :=
  let (lo, rest₁) := spanDigits cs
  let (hi, rest₂) := match rest₁ with
    | ',' :: rest => spanDigits rest
    | _ => (lo, rest₁)
  match rest₂ with
  | '}' :: rest₃ =>
    let m := if lo.isEmpty then 0 else digitsValue lo
    if hi.isEmpty then some (.ok ((m, none), rest₃))
    else if digitsValue hi < m then some (.error "min repeat greater than max repeat")
    else some (.ok ((m, some (digitsValue hi)), rest₃))
  | _ => none

/-- The repetition sign at the front of `cs`, if there is one: its counts and what follows it. -/
def parseQuantifier : List Char → Option (Except String ((Nat × Option Nat) × List Char))
  | '*' :: rest => some (.ok ((0, none), rest))
  | '+' :: rest => some (.ok ((1, none), rest))
  | '?' :: rest => some (.ok ((0, some 1), rest))
  | '{' :: '}' :: _ => none
  | '{' :: rest => parseBraces rest
  | _ => none

/-- A `?` after a repetition makes it lazy, which changes which match is found but not whether
there is one. -/
def lazySuffix : List Char → List Char
  | '?' :: rest => rest
  | cs => cs

/-- `atom` repeated at least `m` and at most `n` times (`none`: no bound), in the constructors of
`Regex`: `a{m,n}` is `a{m}` followed by `n - m` optional copies, and `a{m,}` is `a{m}a*`. -/
def repeatOf (atom : Regex) : Nat × Option Nat → Regex
  | (0, none) => .star atom
  | (1, none) => .plus atom
  | (0, some 1) => .opt atom
  | (m, none) => .seq (.rep m atom) (.star atom)
  | (m, some n) => if m = n then .rep m atom else .seq (.rep m atom) (.rep (n - m) (.opt atom))

/-- The anchors `^` and `$`, which `sre_parse` refuses to repeat. -/
def isAnchor : Regex → Bool
  | .atBeginning | .atEnd => true
  | _ => false

/-- The escapes `sre_parse` gives a meaning outside a set that this subset of the language lacks:
the categories, the control characters, the numeric escapes and the group references. -/
def unsupportedEscapes : List Char :=
  ['A', 'b', 'B', 'd', 'D', 's', 'S', 'w', 'W', 'Z', 'a', 'f', 'n', 'r', 't', 'v', 'x', 'u', 'U',
    'N', '0', '1', '2', '3', '4', '5', '6', '7', '8', '9']

/-- `\c` outside a set: a literal `c` when `c` is not an ASCII letter or digit; `bad escape` for
a letter `sre_parse` does not know. -/
def parseEscape (c : Char) : Except String Regex :=
  if c ∈ unsupportedEscapes then .error "unsupported escape"
  else if c.isAlphanum then .error "bad escape"
  else .ok (.char c)

mutual

/-- Alternatives separated by `|`; `fuel` bounds the nesting. -/
def parseAlt : Nat → List Char → Except String (Regex × List Char)
  | 0, _ => .error "pattern too deeply nested"
  | fuel + 1, cs => do
    let (r, rest) ← parseSeq fuel cs .empty
    match rest with
    | '|' :: rest' =>
      let (r', rest'') ← parseAlt fuel rest'
      pure (.alt r r', rest'')
    | _ => pure (r, rest)

/-- Atoms, each with its repetition, up to a `|`, a `)` or the end.  As in `sre_parse`, a
repetition sign with nothing before it, or after an anchor, is `nothing to repeat`, and one
right after another repetition is `multiple repeat`; the counts are checked first. -/
def parseSeq : Nat → List Char → Regex → Except String (Regex × List Char)
  | 0, _, _ => .error "pattern too deeply nested"
  | _ + 1, [], acc => pure (acc, [])
  | _ + 1, '|' :: rest, acc => pure (acc, '|' :: rest)
  | _ + 1, ')' :: rest, acc => pure (acc, ')' :: rest)
  | fuel + 1, c :: rest, acc =>
    match parseQuantifier (c :: rest) with
    | some q => q >>= fun _ => throw "nothing to repeat"
    | none => do
      let (atom, rest') ← parseAtom fuel (c :: rest)
      match parseQuantifier rest' with
      | none => parseSeq fuel rest' (.seq acc atom)
      | some q => do
        let (bounds, rest'') ← q
        if isAnchor atom then throw "nothing to repeat"
        match parseQuantifier (lazySuffix rest'') with
        | some q' => q' >>= fun _ => throw "multiple repeat"
        | none => parseSeq fuel (lazySuffix rest'') (.seq acc (repeatOf atom bounds))

/-- One atom: a group, a set, `.`, an anchor, an escape or a literal.  Of the `(?` extensions
only the non-capturing group `(?:` is in the subset. -/
def parseAtom : Nat → List Char → Except String (Regex × List Char)
  | 0, _ => .error "pattern too deeply nested"
  | fuel + 1, '(' :: rest => do
    let body ← match rest with
      | '?' :: ':' :: rest' => pure rest'
      | '?' :: _ => throw "unsupported group"
      | _ => pure rest
    let (r, rest') ← parseAlt fuel body
    match rest' with
    | ')' :: rest'' => pure (r, rest'')
    | _ => throw "missing ), unterminated subpattern"
  | _ + 1, '[' :: '^' :: rest => do
    let (items, rest') ← parseSet true rest []
    pure (.set true items, rest')
  | _ + 1, '[' :: rest => do
    let (items, rest') ← parseSet true rest []
    pure (.set false items, rest')
  | _ + 1, '.' :: rest => pure (.any, rest)
  | _ + 1, '^' :: rest => pure (.atBeginning, rest)
  | _ + 1, '$' :: rest => pure (.atEnd, rest)
  | _ + 1, '\\' :: c :: rest => do pure (← parseEscape c, rest)
  | _ + 1, ['\\'] => throw "bad escape (end of pattern)"
  | _ + 1, c :: rest => pure (.char c, rest)
  | _ + 1, [] => pure (.empty, [])

end

/-- `re.compile(pattern)`. -/
def compile (pattern : String) : Except String Regex :=
  match parseAlt (3 * pattern.length + 3) pattern.toList with
  | .ok (r, []) => .ok r
  | .ok (_, _) => .error "unbalanced parenthesis"
  | .error e => .error e

/-- A repetition sign with nothing before it, or right after an anchor, is refused, as
`sre_parse` refuses it. -/
theorem parseSeq_nothing_to_repeat {q : Char} (hq : q ∈ ['*', '+', '?']) (n : Nat)
    (rest : List Char) (acc : Regex) :
    parseSeq (n + 1) (q :: rest) acc = .error "nothing to repeat" ∧
    parseSeq (n + 2) ('^' :: q :: rest) acc = .error "nothing to repeat" ∧
    parseSeq (n + 2) ('$' :: q :: rest) acc = .error "nothing to repeat" := by
  simp only [List.mem_cons, List.mem_singleton, List.not_mem_nil, or_false] at hq
  rcases hq with rfl | rfl | rfl <;> exact ⟨rfl, rfl, rfl⟩

example : compile "^*" = .error "nothing to repeat" ∧ compile "a**" = .error "multiple repeat" ∧
    compile "a{3,2}" = .error "min repeat greater than max repeat" := ⟨rfl, rfl, rfl⟩

/-! ## Parsing a run of plain characters -/

/-- The characters with a meaning of their own in a pattern, outside a set.  (`{` is one only
where a count follows it, and `]`, `}` never are.) -/
def specialChars : List Char := ['|', '(', ')', '[', '.', '^', '$', '\\', '*', '+', '?', '{']

theorem parseAtom_plain {c : Char} (hc : c ∉ specialChars) (n : Nat) (rest : List Char) :
    parseAtom (n + 1) (c :: rest) = .ok (.char c, rest) := by
  rw [parseAtom] <;> first | rfl | (intros; subst_vars; exact hc (by decide))

/-- No repetition sign starts a text that starts with none of `*`, `+`, `?` and `{`. -/
theorem parseQuantifier_eq_none {cs : List Char}
    (hcs : ∀ d ∈ cs.head?, d ∉ ['*', '+', '?', '{']) : parseQuantifier cs = none := by
  rw [parseQuantifier] <;> first | rfl | (intros; subst_vars; exact hcs _ rfl (by decide))

theorem not_mem_repeat_of_plain {c : Char} (hc : c ∉ specialChars) :
    c ∉ ['*', '+', '?', '{'] := by
  intro h
  simp only [List.mem_cons, List.not_mem_nil, or_false] at h
  rcases h with rfl | rfl | rfl | rfl <;> exact hc (by decide)

theorem head_not_repeat {p rest : List Char} (hp : ∀ c ∈ p, c ∉ specialChars)
    (hrest : ∀ d ∈ rest.head?, d ∉ ['*', '+', '?', '{']) :
    ∀ d ∈ (p ++ rest).head?, d ∉ ['*', '+', '?', '{'] := by
  cases p with
  | nil => exact hrest
  | cons c p =>
    intro d hd
    cases hd
    exact not_mem_repeat_of_plain (hp c (List.mem_cons_self _ _))

theorem parseSeq_plain_cons {c : Char} (hc : c ∉ specialChars) {cs : List Char}
    (hcs : ∀ d ∈ cs.head?, d ∉ ['*', '+', '?', '{']) (n : Nat) (acc : Regex) :
    parseSeq (n + 2) (c :: cs) acc = parseSeq (n + 1) cs (.seq acc (.char c)) := by
  rw [parseSeq, parseQuantifier_eq_none fun d hd => by cases hd; exact not_mem_repeat_of_plain hc]
  · simp only [parseAtom_plain hc, bind, Except.bind, parseQuantifier_eq_none hcs]
  all_goals intro h; subst h; exact hc (by decide)

theorem parseSeq_caret {cs : List Char} (hcs : ∀ d ∈ cs.head?, d ∉ ['*', '+', '?', '{'])
    (n : Nat) (acc : Regex) :
    parseSeq (n + 2) ('^' :: cs) acc = parseSeq (n + 1) cs (.seq acc .atBeginning) := by
  rw [parseSeq, parseQuantifier_eq_none fun d hd => by cases hd; decide]
  · simp only [show parseAtom (n + 1) ('^' :: cs) = .ok (.atBeginning, cs) from rfl, bind,
      Except.bind, parseQuantifier_eq_none hcs]
  all_goals nofun

/-- **The parser on a run of plain characters** reads each of them as a `.char` node, in order,
and goes on with what follows, provided that does not start with a repetition sign. -/
theorem parseSeq_plain {rest : List Char} (hrest : ∀ d ∈ rest.head?, d ∉ ['*', '+', '?', '{'])
    (n : Nat) : ∀ (p : List Char) (acc : Regex), (∀ c ∈ p, c ∉ specialChars) →
      parseSeq (n + 1 + p.length) (p ++ rest) acc = parseSeq (n + 1) rest (litSeq acc p)
  | [], _, _ => rfl
  | c :: p, acc, hp => by
    have hp' : ∀ c ∈ p, c ∉ specialChars := fun c' hc' => hp c' (List.mem_cons_of_mem _ hc')
    rw [List.cons_append, show n + 1 + (c :: p).length = n + p.length + 2 by simp; omega,
      parseSeq_plain_cons (hp c (List.mem_cons_self _ _)) (head_not_repeat hp' hrest),
      show n + p.length + 1 = n + 1 + p.length by omega, parseSeq_plain hrest n p _ hp']
    rfl

end Regex

end Cosmpy
