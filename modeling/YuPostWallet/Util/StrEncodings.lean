/-
  YuPostWallet.Util.StrEncodings — the text conversions the wallet record goes through.

  `CWalletTx::Serialize` stores two numbers as strings inside `mapValue`:
    * `nOrderPos` (an `int64_t`) as `ToString(nOrderPos)` under `"n"`,
    * `nTimeSmart` (an `unsigned int`) as `strprintf("%u", nTimeSmart)` under `"timesmart"`,
  and `CWalletTx::Unserialize` reads both back with `atoi64`.  These helpers live outside
  the wallet header, so they are modelled here after the C library they wrap:
    * `ToString` inserts into a classic-locale `std::ostringstream`: an optional `-` and the
      decimal digits, most significant first;
    * `strprintf("%u", _)` prints the same digits for an unsigned value;
    * `atoi64` is `strtoll(str, nullptr, 10)`: leading white space is skipped, one optional
      sign is read, then the longest run of decimal digits; a value out of the `int64_t`
      range SATURATES to `INT64_MIN`/`INT64_MAX`, and no digits at all give `0`.

  Main results:
    * `digitsValue_toDigits` — the digit string of `n` reads back as `n`;
    * `atoi64_toStringInt` — `atoi64 (ToString i) = i` for EVERY `int64_t` value `i`;
    * `atoi64_strprintfU` — `atoi64 (strprintf("%u", n)) = n` for every `unsigned int`.
-/
import Mathlib.Data.List.Basic
import Mathlib.Data.Nat.Digits

namespace YuPostWallet

/-! ## §1. Printing. -/

/-- `ToString(i)` for a signed integer: `-` and the digits of `|i|` when `i < 0`. -/
def toStringInt (i : Int) : String :=
  if i < 0 then ⟨'-' :: Nat.toDigits 10 i.natAbs⟩ else ⟨Nat.toDigits 10 i.toNat⟩

/-- `strprintf("%u", n)` for an `unsigned int`. -/
def strprintfU (n : BitVec 32) : String := ⟨Nat.toDigits 10 n.toNat⟩

/-! ## §2. `atoi64`. -/

/-- `isspace` in the C locale: the blank and `\t \n \v \f \r`. -/
def isspace (c : Char) : Bool := c.toNat = 32 || (9 ≤ c.toNat && c.toNat ≤ 13)

/-- `isdigit`: `'0'` to `'9'`. -/
def isdigit (c : Char) : Bool := 48 ≤ c.toNat && c.toNat ≤ 57

/-- The optional sign in front of the digits: `(negative, rest)`. -/
def readSign (cs : List Char) : Bool × List Char :=
  match cs with
  | c :: r => if c = '-' then (true, r) else if c = '+' then (false, r) else (false, cs)
  | [] => (false, [])

/-- The value of a run of decimal digits, most significant first. -/
def digitsValue (cs : List Char) : Nat :=
  cs.foldl (fun acc c => 10 * acc + (c.toNat - '0'.toNat)) 0

/-- The largest `int64_t`. -/
def INT64_MAX : Int := 9223372036854775807

/-- The smallest `int64_t`. -/
def INT64_MIN : Int := -9223372036854775808

/-- `atoi64(str)`, i.e. `strtoll(str, nullptr, 10)`. -/
def atoi64 (s : String) : Int :=
  let (neg, body) := readSign (s.toList.dropWhile isspace)
  let mag : Int := digitsValue (body.takeWhile isdigit)
  if neg then max (-mag) INT64_MIN else min mag INT64_MAX

/-! ## §3. The digit strings. -/

theorem digitChar_toNat {d : Nat} (h : d < 10) : (Nat.digitChar d).toNat = 48 + d := by
  have : ∀ e < 10, (Nat.digitChar e).toNat = 48 + e := by decide
  exact this d h

theorem digitChar_isdigit {d : Nat} (h : d < 10) : isdigit (Nat.digitChar d) := by
  simp [isdigit, digitChar_toNat h]; omega

theorem isspace_of_isdigit {c : Char} (h : isdigit c) : isspace c = false := by
  simp only [isdigit, Bool.and_eq_true, decide_eq_true_eq] at h
  simp only [isspace, Bool.or_eq_false_iff, Bool.and_eq_false_iff, decide_eq_false_iff_not]
  omega

theorem readSign_of_isdigit {c : Char} (r : List Char) (h : isdigit c) :
    readSign (c :: r) = (false, c :: r) := by
  have h₁ : c ≠ '-' := by rintro rfl; simp [isdigit] at h
  have h₂ : c ≠ '+' := by rintro rfl; simp [isdigit] at h
  simp [readSign, h₁, h₂]

/-- The accumulator of `toDigitsCore` is only appended to. -/
theorem toDigitsCore_append (fuel n : Nat) (ds : List Char) :
    Nat.toDigitsCore 10 fuel n ds = Nat.toDigitsCore 10 fuel n [] ++ ds := by
  induction fuel generalizing n ds with
  | zero => rfl
  | succ fuel ih =>
    simp only [Nat.toDigitsCore]
    split_ifs
    · rfl
    · rw [ih _ (_ :: ds), ih _ [_], List.append_assoc, List.singleton_append]

theorem digitsValue_append_digit (cs : List Char) {d : Nat} (h : d < 10) :
    digitsValue (cs ++ [Nat.digitChar d]) = 10 * digitsValue cs + d := by
  simp [digitsValue, digitChar_toNat h]

theorem toDigitsCore_spec (fuel n : Nat) (h : n < fuel) :
    digitsValue (Nat.toDigitsCore 10 fuel n []) = n ∧
      ∀ c ∈ Nat.toDigitsCore 10 fuel n [], isdigit c := by
  induction fuel generalizing n with
  | zero => omega
  | succ fuel ih =>
    have hd : n % 10 < 10 := Nat.mod_lt _ (by decide)
    simp only [Nat.toDigitsCore]
    split_ifs with h0
    · have hv := digitsValue_append_digit [] hd
      rw [List.nil_append] at hv
      refine ⟨by rw [hv]; simp [digitsValue]; omega, by simpa using digitChar_isdigit hd⟩
    · obtain ⟨hv, hc⟩ := ih (n / 10) (by omega)
      rw [toDigitsCore_append, digitsValue_append_digit _ hd, hv]
      refine ⟨by omega, fun c hc' => ?_⟩
      rcases List.mem_append.mp hc' with hc' | hc'
      · exact hc c hc'
      · simpa [List.mem_singleton.mp hc'] using digitChar_isdigit hd

/-- The digit string of `n` reads back as `n`. -/
theorem digitsValue_toDigits (n : Nat) : digitsValue (Nat.toDigits 10 n) = n :=
  (toDigitsCore_spec (n + 1) n (Nat.lt_succ_self n)).1

theorem isdigit_of_mem_toDigits {n : Nat} {c : Char} (h : c ∈ Nat.toDigits 10 n) : isdigit c :=
  (toDigitsCore_spec (n + 1) n (Nat.lt_succ_self n)).2 c h

theorem toDigits_ne_nil (n : Nat) : Nat.toDigits 10 n ≠ [] := by
  simp only [Nat.toDigits, Nat.toDigitsCore]
  split_ifs
  · exact List.cons_ne_nil _ _
  · rw [toDigitsCore_append]; simp

/-! ## §4. Reading back what was printed. -/

/-- On a digit string, `atoi64` skips nothing and reads every character. -/
theorem atoi64_digits {cs : List Char} (hne : cs ≠ []) (hd : ∀ c ∈ cs, isdigit c) :
    atoi64 ⟨cs⟩ = min (digitsValue cs : Int) INT64_MAX := by
  obtain ⟨c, r, rfl⟩ := List.exists_cons_of_ne_nil hne
  have hc : isdigit c := hd c (List.mem_cons_self _ _)
  have hsp : ¬ isspace c = true := by simp [isspace_of_isdigit hc]
  simp only [atoi64, String.toList, List.dropWhile_cons_of_neg hsp, readSign_of_isdigit r hc,
    List.takeWhile_eq_self_iff.mpr hd]
  rfl

/-- **`atoi64` inverts `ToString` on the whole `int64_t` range.** -/
theorem atoi64_toStringInt {i : Int} (hlo : INT64_MIN ≤ i) (hhi : i ≤ INT64_MAX) :
    atoi64 (toStringInt i) = i := by
  unfold toStringInt
  split_ifs with hneg
  · have hsp : ¬ isspace '-' = true := by decide
    simp only [atoi64, String.toList, List.dropWhile_cons_of_neg hsp, readSign,
      List.takeWhile_eq_self_iff.mpr fun c hc => isdigit_of_mem_toDigits hc,
      digitsValue_toDigits, if_true]
    unfold INT64_MIN at hlo ⊢
    omega
  · rw [atoi64_digits (toDigits_ne_nil _) fun c hc => isdigit_of_mem_toDigits hc,
      digitsValue_toDigits]
    omega

/-- `atoi64` reads back every `strprintf("%u", n)`. -/
theorem atoi64_strprintfU (n : BitVec 32) : atoi64 (strprintfU n) = n.toNat := by
  rw [strprintfU, atoi64_digits (toDigits_ne_nil _) fun c hc => isdigit_of_mem_toDigits hc,
    digitsValue_toDigits]
  have := n.isLt
  unfold INT64_MAX
  omega

end YuPostWallet
