/-
  YuPostWallet.Qt.Regex — the part of `QRegularExpression` that the version checker
  relies on: a backtracking matcher for the constructs of its pattern, with PCRE's order of
  trying alternatives, and `globalMatch`, which reports matches left to right, each search
  resuming where the previous match ended.

  Capturing groups only group here: the caller reads `captured()`, the whole match.

  Main results:
    * `matchK_sound` — every match the backtracker reports is in the regex's language, and
      the continuation accepted what follows it;
    * `matchK_complete` — if some prefix in the language leaves a suffix the continuation
      accepts, the backtracker succeeds;
    * `mem_globalMatch` — every match `globalMatch` reports is in the language.
-/
import Mathlib.Data.List.Basic

namespace YuPostWallet.RegularExpression

/-! ## §1. Syntax and language. -/

/-- The regex constructs of the version pattern. -/
inductive Regex where
  | eps
  /-- One character of a class: a literal, or `[0-9]`. -/
  | chr (p : Char → Bool)
  /-- Greedy repetition of a class, `[0-9]+`. -/
  | plus (p : Char → Bool)
  | seq (r s : Regex)
  /-- Greedy `r?`. -/
  | opt (r : Regex)

/-- A literal string. -/
def Regex.lit : List Char → Regex
  | [] => .eps
  | c :: cs => .seq (.chr (· == c)) (Regex.lit cs)

/-- The strings a regex matches. -/
inductive Matches : Regex → List Char → Prop
  | eps : Matches .eps []
  | chr {p c} : p c = true → Matches (.chr p) [c]
  | plus {p cs} : cs ≠ [] → (∀ c ∈ cs, p c = true) → Matches (.plus p) cs
  | seq {r s x y} : Matches r x → Matches s y → Matches (.seq r s) (x ++ y)
  | optSome {r x} : Matches r x → Matches (.opt r) x
  | optNone {r} : Matches (.opt r) []

theorem matches_lit_iff (s x : List Char) : Matches (Regex.lit s) x ↔ x = s := by
  induction s generalizing x with
  | nil => exact ⟨fun h => by cases h; rfl, fun h => by subst h; exact .eps⟩
  | cons c cs ih =>
    constructor
    · intro h
      cases h with
      | seq h₁ h₂ =>
        cases h₁ with
        | chr hc => rw [(ih _).mp h₂, beq_iff_eq.mp hc]; rfl
    · rintro rfl
      exact @Matches.seq _ _ [c] cs (.chr (beq_self_eq_true c)) ((ih cs).mpr rfl)

/-! ## §2. The backtracker. -/

/-- Match `r` at the start of `s` and continue with `k` on what is left; the first success
in PCRE's order: a greedy `?` tries its body first, a greedy `+` its longest run first. -/
def matchK {α : Type} : Regex → List Char → (List Char → Option α) → Option α
  | .eps, s, k => k s
  | .chr p, s, k =>
    match s with
    | c :: s' => if p c then k s' else none
    | [] => none
  | .plus p, s, k =>
    (List.range (s.takeWhile p).length).reverse.findSome? fun i => k (s.drop (i + 1))
  | .seq r t, s, k => matchK r s fun s' => matchK t s' k
  | .opt r, s, k => (matchK r s k).orElse fun _ => k s

/-- A run of `i + 1` class characters is a prefix of the string exactly when `i` is below the
length of its longest such prefix. -/
theorem lt_takeWhile_length {p : Char → Bool} {s : List Char} {i : Nat} :
    i < (s.takeWhile p).length ↔ i < s.length ∧ ∀ c ∈ s.take (i + 1), p c = true := by
  induction s generalizing i with
  | nil => simp
  | cons c s ih =>
    cases hc : p c
    · simp [List.takeWhile_cons, hc]
    · cases i with
      | zero => simp [List.takeWhile_cons, hc]
      | succ i => simp [List.takeWhile_cons, hc, ih]

/-- **Soundness.**  A success is a prefix in the language followed by a suffix the
continuation accepted. -/
theorem matchK_sound {α : Type} (r : Regex) :
    ∀ (s : List Char) (k : List Char → Option α) (a : α), matchK r s k = some a →
      ∃ x y, s = x ++ y ∧ Matches r x ∧ k y = some a := by
  induction r with
  | eps => exact fun s k a h => ⟨[], s, rfl, .eps, h⟩
  | chr p =>
    rintro (_ | ⟨c, s⟩) k a h
    · cases h
    · simp only [matchK] at h
      split_ifs at h with hc
      exact ⟨[c], s, rfl, .chr hc, h⟩
  | plus p =>
    intro s k a h
    obtain ⟨l₁, i, l₂, hl, hk, -⟩ := List.findSome?_eq_some_iff.mp h
    have hi : i < (s.takeWhile p).length := by
      rw [← List.mem_range, ← List.mem_reverse, hl]
      simp
    obtain ⟨hlen, hall⟩ := lt_takeWhile_length.mp hi
    refine ⟨s.take (i + 1), s.drop (i + 1), (List.take_append_drop _ _).symm,
      .plus ?_ hall, hk⟩
    simp only [ne_eq, List.take_eq_nil_iff, not_or]
    exact ⟨Nat.succ_ne_zero _, List.ne_nil_of_length_pos (by omega)⟩
  | seq r t ihr iht =>
    intro s k a h
    obtain ⟨x, y, rfl, hx, hy⟩ := ihr s _ a h
    obtain ⟨y₁, y₂, rfl, hy₁, hy₂⟩ := iht y k a hy
    exact ⟨x ++ y₁, y₂, (List.append_assoc _ _ _).symm, .seq hx hy₁, hy₂⟩
  | opt r ih =>
    intro s k a h
    simp only [matchK] at h
    cases hr : matchK r s k with
    | some b =>
      rw [hr] at h
      obtain ⟨x, y, hs, hx, hy⟩ := ih s k b hr
      exact ⟨x, y, hs, .optSome hx, hy.trans h⟩
    | none =>
      rw [hr] at h
      exact ⟨[], s, rfl, .optNone, h⟩

/-- **Completeness.**  When a prefix in the language leaves a suffix the continuation
accepts, the backtracker succeeds (maybe with another split, the one PCRE tries first). -/
theorem matchK_complete {α : Type} {r : Regex} {x : List Char} (hx : Matches r x) :
    ∀ (y : List Char) (k : List Char → Option α), (k y).isSome → (matchK r (x ++ y) k).isSome := by
  induction hx with
  | eps => exact fun y k hk => hk
  | chr hc => exact fun y k hk => by simp [matchK, hc, hk]
  | @plus p cs hne hall =>
    intro y k hk
    have hlen : cs.length - 1 + 1 = cs.length := Nat.sub_add_cancel (List.length_pos.mpr hne)
    have hi : cs.length - 1 < ((cs ++ y).takeWhile p).length :=
      lt_takeWhile_length.mpr
        ⟨by simp; omega, fun c hc => hall c (by rwa [hlen, List.take_left] at hc)⟩
    simp only [matchK, List.findSome?_isSome_iff, List.mem_reverse, List.mem_range]
    exact ⟨cs.length - 1, hi, by rwa [hlen, List.drop_left]⟩
  | seq _ _ ihx ihy =>
    intro y k hk
    rw [List.append_assoc]
    exact ihx _ _ (ihy y k hk)
  | @optSome r x _ ih =>
    intro y k hk
    simp only [matchK]
    cases h : matchK r (x ++ y) k with
    | some _ => rfl
    | none => simpa [h] using ih y k hk
  | @optNone r =>
    intro y k hk
    simp only [matchK, List.nil_append]
    cases matchK r y k with
    | some _ => rfl
    | none => exact hk

/-! ## §3. `globalMatch`. -/

/-- The first match at the start of `s`: what is left after it. -/
def matchAt (r : Regex) (s : List Char) : Option (List Char) := matchK r s some

/-- The search loop of `globalMatch`: at each position not inside the previous match (`skip`
counts the characters still inside it), try a match; report it by its text. The version
pattern never matches the empty string, whose handling is not modelled. -/
def scan (r : Regex) : Nat → List Char → List (List Char)
  | _, [] => []
  | skip + 1, _ :: cs => scan r skip cs
  | 0, c :: cs =>
    match matchAt r (c :: cs) with
    | some rest =>
      (c :: cs).take ((c :: cs).length - rest.length) ::
        scan r ((c :: cs).length - rest.length - 1) cs
    | none => scan r 0 cs

/-- `QRegularExpression::globalMatch(subject)`, each match as `captured()`. -/
def globalMatch (r : Regex) (subject : List Char) : List (List Char) := scan r 0 subject

theorem matchAt_sound {r : Regex} {s rest : List Char} (h : matchAt r s = some rest) :
    ∃ x, s = x ++ rest ∧ Matches r x := by
  obtain ⟨x, y, hs, hx, hy⟩ := matchK_sound r s some rest h
  cases hy
  exact ⟨x, hs, hx⟩

theorem mem_scan {r : Regex} (subject : List Char) :
    ∀ (skip : Nat) (m : List Char), m ∈ scan r skip subject → Matches r m := by
  induction subject with
  | nil => intro _ _ h; simp [scan] at h
  | cons c cs ih =>
    rintro (_ | skip) m h
    · simp only [scan] at h
      split at h
      · rename_i rest hrest
        obtain ⟨x, hs, hx⟩ := matchAt_sound hrest
        rcases List.mem_cons.mp h with rfl | h
        · rw [hs, List.length_append, Nat.add_sub_cancel, List.take_left]
          exact hx
        · exact ih _ m h
      · exact ih 0 m h
    · exact ih skip m h

/-- **Every reported match is a match.** -/
theorem mem_globalMatch {r : Regex} {subject m : List Char} (h : m ∈ globalMatch r subject) :
    Matches r m :=
  mem_scan subject 0 m h

/-! ## §4. `globalMatch` is the leftmost-first, non-overlapping search. -/

/-- The leftmost match of `r` in `s`, the backtracker's first at that position: the text
before it, the match, and what follows. -/
def leftmost (r : Regex) : List Char → Option (List Char × List Char × List Char)
  | [] => none
  | c :: cs =>
    match matchAt r (c :: cs) with
    | some rest => some ([], (c :: cs).take ((c :: cs).length - rest.length), rest)
    | none => (leftmost r cs).map fun t => (c :: t.1, t.2)

theorem leftmost_eq_none_iff (r : Regex) (s : List Char) :
    leftmost r s = none ↔ ∀ i < s.length, matchAt r (s.drop i) = none := by
  induction s with
  | nil => simp [leftmost]
  | cons c cs ih =>
    unfold leftmost
    cases h : matchAt r (c :: cs) with
    | some rest => exact ⟨nofun, fun hall => absurd (hall 0 (Nat.succ_pos _)) (by simp [h])⟩
    | none =>
      simp only [Option.map_eq_none', ih, List.length_cons]
      refine ⟨fun hall i hi => ?_, fun hall i hi => hall (i + 1) (by omega)⟩
      cases i with
      | zero => exact h
      | succ i => exact hall i (by omega)

theorem leftmost_eq_some {r : Regex} {s p m rest : List Char}
    (h : leftmost r s = some (p, m, rest)) :
    s = p ++ m ++ rest ∧ Matches r m ∧ (∀ i < p.length, matchAt r (s.drop i) = none) ∧
      matchAt r (s.drop p.length) = some rest := by
  induction s generalizing p with
  | nil => cases h
  | cons c cs ih =>
    unfold leftmost at h
    cases hm : matchAt r (c :: cs) with
    | some rest' =>
      rw [hm] at h
      cases h
      obtain ⟨x, hs, hx⟩ := matchAt_sound hm
      have htake : (c :: cs).take ((c :: cs).length - rest.length) = x := by
        rw [hs, List.length_append, Nat.add_sub_cancel, List.take_left]
      rw [htake]
      exact ⟨hs, hx, nofun, hm⟩
    | none =>
      rw [hm] at h
      obtain ⟨⟨p', m', rest'⟩, ht, he⟩ := Option.map_eq_some'.mp h
      cases he
      obtain ⟨hs, hx, hbefore, hat⟩ := ih ht
      refine ⟨by rw [hs]; rfl, hx, fun i hi => ?_, hat⟩
      cases i with
      | zero => exact hm
      | succ i => exact hbefore i (by simpa using hi)

/-- The skip counter: a search `k` characters inside a match resumes `k` characters on. -/
theorem scan_skip (r : Regex) (s : List Char) : ∀ k, scan r k s = scan r 0 (s.drop k) := by
  induction s with
  | nil => intro k; cases k <;> rfl
  | cons c cs ih =>
    intro k
    cases k with
    | zero => rfl
    | succ k => exact ih k

/-- For a regex that does not match the empty string, each search takes the leftmost match
and resumes right after it. -/
theorem globalMatch_eq_leftmost (r : Regex) (hr : ¬ Matches r []) (s : List Char) :
    globalMatch r s =
      match leftmost r s with
      | none => []
      | some (_, m, rest) => m :: globalMatch r rest := by
  induction s with
  | nil => rfl
  | cons c cs ih =>
    unfold globalMatch at ih ⊢
    unfold leftmost
    cases hm : matchAt r (c :: cs) with
    | some rest =>
      obtain ⟨x, hs, hx⟩ := matchAt_sound hm
      have hlen : (c :: cs).length - rest.length = x.length := by
        rw [hs, List.length_append, Nat.add_sub_cancel]
      -- the match is not empty, so the search resumes inside `cs`, where the match ends
      have hdrop : cs.drop (x.length - 1) = rest := by
        obtain ⟨c', x', rfl⟩ := List.exists_cons_of_ne_nil fun h : x = [] => hr (h ▸ hx)
        rw [List.cons_append, List.cons.injEq] at hs
        rw [hs.2, List.length_cons, Nat.add_sub_cancel, List.drop_left]
      simp only [scan, hm, hlen]
      rw [scan_skip, hdrop]
    | none =>
      simp only [scan, hm, ih]
      cases leftmost r cs <;> rfl

/-- **`globalMatch` is the leftmost-first, non-overlapping search.**  For a regex that does
not match the empty string (the version pattern does not): it reports nothing exactly when
no position of the subject starts a match; otherwise its first report is the match at the
leftmost such position (the backtracker's first there), and the others are the search of
the text after that match. -/
theorem globalMatch_leftmost (r : Regex) (hr : ¬ Matches r []) (s : List Char) :
    (globalMatch r s = [] ↔ ∀ i < s.length, matchAt r (s.drop i) = none) ∧
      ∀ m ms, globalMatch r s = m :: ms →
        ∃ p rest, s = p ++ m ++ rest ∧ Matches r m ∧
          (∀ i < p.length, matchAt r (s.drop i) = none) ∧
          matchAt r (s.drop p.length) = some rest ∧ ms = globalMatch r rest := by
  rw [globalMatch_eq_leftmost r hr, ← leftmost_eq_none_iff]
  cases h : leftmost r s with
  | none => exact ⟨iff_of_true rfl rfl, nofun⟩
  | some t =>
    obtain ⟨p, m, rest⟩ := t
    refine ⟨iff_of_false nofun nofun, fun m' ms he => ?_⟩
    obtain ⟨rfl, rfl⟩ := List.cons_eq_cons.mp he
    obtain ⟨hs, hx, hbefore, hat⟩ := leftmost_eq_some h
    exact ⟨p, rest, hs, hx, hbefore, hat, rfl⟩

theorem globalMatch_leftmost_lit :
    ¬ Matches (Regex.lit ['a']) [] ∧
      ((globalMatch (Regex.lit ['a']) "bab".toList = [] ↔
          ∀ i < "bab".toList.length, matchAt (Regex.lit ['a']) ("bab".toList.drop i) = none) ∧
        ∀ m ms, globalMatch (Regex.lit ['a']) "bab".toList = m :: ms →
          ∃ p rest, "bab".toList = p ++ m ++ rest ∧ Matches (Regex.lit ['a']) m ∧
            (∀ i < p.length, matchAt (Regex.lit ['a']) ("bab".toList.drop i) = none) ∧
            matchAt (Regex.lit ['a']) ("bab".toList.drop p.length) = some rest ∧
            ms = globalMatch (Regex.lit ['a']) rest) :=
  have hr : ¬ Matches (Regex.lit ['a']) [] := fun h => nomatch (matches_lit_iff ['a'] []).mp h
  ⟨hr, globalMatch_leftmost _ hr _⟩

end YuPostWallet.RegularExpression
