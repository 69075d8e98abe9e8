/-
  YuPostWallet.Qt.PrepareTransaction — `WalletModel::prepareTransaction`, the checks the
  send dialog's request goes through before the wallet builds a transaction.

  The loop over the recipients returns at the first invalid address or non-positive amount;
  it collects the addresses in a `QSet` and counts them, so a repeated address shows as a
  set smaller than the count; and it adds the amounts into an `int64` (`CAmount`) total,
  which is compared with the available balance.  The wallet side (`IsValidDestinationString`,
  the balance, `createTransaction`, the fee cap) is an interface the model takes as given.

  Main results:
    * `checkRecipients_eq` — the loop returns the status of the first recipient that fails
      a check, or the fold of the accepted recipients;
    * `precheck_eq_unboundedOutcome` — while the recipients' amounts cannot add up past
      `2^63` (fewer than `2^63 / MAX_MONEY` of them), the checks decide exactly as the
      unbounded-integer contract says;
    * `prepareTransaction_total_wraps` — 8192 recipients of `2^50` satoshis: the total
      wraps to `-2^63`, and a request above any balance reaches `createTransaction`.
-/
import Mathlib

namespace YuPostWallet.Send

/-! ## §1. Requests, statuses, the wallet interface. -/

/-- `SendCoinsRecipient`, the fields `prepareTransaction` reads (label, message and payment
request are not read). -/
structure SendCoinsRecipient where
  address : String
  amount : BitVec 64
  fSubtractFeeFromAmount : Bool
  deriving DecidableEq, Repr

/-- `CRecipient`: its script is `GetScriptForDestination(DecodeDestination(address))`,
computed by the node; the model keeps the address it comes from. -/
structure CRecipient where
  address : String
  nAmount : BitVec 64
  fSubtractFeeFromAmount : Bool
  deriving DecidableEq, Repr

/-- `WalletModel::StatusCode`, the codes `prepareTransaction` returns. -/
inductive StatusCode where
  | OK
  | InvalidAmount
  | InvalidAddress
  | AmountExceedsBalance
  | AmountWithFeeExceedsBalance
  | DuplicateAddress
  | TransactionCreationFailed
  | AbsurdFee
  deriving DecidableEq, Repr

/-- What `prepareTransaction` asks the node and the wallet (`interfaces::Wallet`). -/
structure WalletIface where
  isValidDestinationString : String → Bool
  getAvailableBalance : BitVec 64
  /-- `createTransaction(vecSend, …)`: whether a transaction was built, and `nFeeRequired`. -/
  createTransaction : List CRecipient → Bool × BitVec 64
  getDefaultMaxTxFee : BitVec 64

/-- `WalletModel::validateAddress`. -/
def validateAddress (w : WalletIface) (address : String) : Bool :=
  w.isValidDestinationString address

/-! ## §2. `prepareTransaction`. -/

/-- The loop's locals. -/
structure LoopState where
  fSubtractFeeFromAmount : Bool
  setAddress : Finset String
  nAddresses : Nat
  vecSend : List CRecipient
  total : BitVec 64

def LoopState.init : LoopState := ⟨false, ∅, 0, [], 0⟩

/-- The loop body for a recipient that passed its checks: note the fee subtraction, insert
the address, count it, queue the `CRecipient`, add the amount (`total += rcp.amount`). -/
def LoopState.accept (st : LoopState) (rcp : SendCoinsRecipient) : LoopState :=
  { fSubtractFeeFromAmount := st.fSubtractFeeFromAmount || rcp.fSubtractFeeFromAmount,
    setAddress := insert rcp.address st.setAddress,
    nAddresses := st.nAddresses + 1,
    vecSend := st.vecSend ++ [⟨rcp.address, rcp.amount, rcp.fSubtractFeeFromAmount⟩],
    total := st.total + rcp.amount }

/-- The two checks of the loop body, in order: the address, then `rcp.amount <= 0`. -/
def rejection (w : WalletIface) (rcp : SendCoinsRecipient) : Option StatusCode :=
  if !validateAddress w rcp.address then some .InvalidAddress
  else if rcp.amount.sle 0 then some .InvalidAmount
  else none

/-- The pre-check loop over the recipients. -/
def checkRecipients (w : WalletIface) :
    LoopState → List SendCoinsRecipient → Except StatusCode LoopState
  | st, [] => .ok st
  | st, rcp :: rcps =>
    match rejection w rcp with
    | some e => .error e
    | none => checkRecipients w (st.accept rcp) rcps

/-- The checks before `createTransaction`: the loop, the duplicate check
`setAddress.size() != nAddresses`, then `total > nBalance`. -/
def precheck (w : WalletIface) (recipients : List SendCoinsRecipient) :
    Except StatusCode LoopState :=
  (checkRecipients w .init recipients).bind fun st =>
    if st.setAddress.card ≠ st.nAddresses then .error .DuplicateAddress
    else if w.getAvailableBalance.slt st.total then .error .AmountExceedsBalance
    else .ok st

/-- `WalletModel::prepareTransaction`: the status, and the fee it sets on the transaction
once `createTransaction` has run. -/
def prepareTransaction (w : WalletIface) (recipients : List SendCoinsRecipient) :
    StatusCode × Option (BitVec 64) :=
  if recipients.isEmpty then (.OK, none) else
  match precheck w recipients with
  | .error e => (e, none)
  | .ok st =>
    let nBalance := w.getAvailableBalance
    let (newTx, nFeeRequired) := w.createTransaction st.vecSend
    let status :=
      if !newTx then
        if !st.fSubtractFeeFromAmount && nBalance.slt (st.total + nFeeRequired) then
          StatusCode.AmountWithFeeExceedsBalance
        else .TransactionCreationFailed
      else if w.getDefaultMaxTxFee.slt nFeeRequired then .AbsurdFee else .OK
    (status, some nFeeRequired)

/-! ## §3. The loop. -/

section Loop

variable (w : WalletIface)

/-- **The loop's spec.**  It stops at the first recipient that fails a check, with that
check's status, and otherwise ends in the fold of `accept` over the recipients. -/
theorem checkRecipients_eq (st : LoopState) (rs : List SendCoinsRecipient) :
    checkRecipients w st rs =
      match rs.findSome? (rejection w) with
      | some e => .error e
      | none => .ok (rs.foldl LoopState.accept st) := by
  induction rs generalizing st with
  | nil => rfl
  | cons r rs ih =>
    simp only [checkRecipients, List.findSome?_cons, List.foldl_cons]
    cases rejection w r with
    | some e => rfl
    | none => exact ih _

theorem rejection_eq_none {r : SendCoinsRecipient} :
    rejection w r = none ↔ validateAddress w r.address = true ∧ 0 < r.amount.toInt := by
  unfold rejection BitVec.sle
  cases validateAddress w r.address <;> simp

theorem foldl_accept_setAddress (st : LoopState) (rs : List SendCoinsRecipient) :
    (rs.foldl LoopState.accept st).setAddress = st.setAddress ∪ (rs.map (·.address)).toFinset := by
  induction rs generalizing st with
  | nil => simp
  | cons r rs ih =>
    rw [List.foldl_cons, ih]
    simp only [LoopState.accept, List.map_cons, List.toFinset_cons, Finset.insert_union,
      Finset.union_insert]

theorem foldl_accept_nAddresses (st : LoopState) (rs : List SendCoinsRecipient) :
    (rs.foldl LoopState.accept st).nAddresses = st.nAddresses + rs.length := by
  induction rs generalizing st with
  | nil => rfl
  | cons r rs ih =>
    rw [List.foldl_cons, ih]
    simp only [LoopState.accept, List.length_cons]
    omega

/-- The running total is the `int64` sum: the unsigned values added modulo `2^64`. -/
theorem foldl_accept_total (st : LoopState) (rs : List SendCoinsRecipient) :
    (rs.foldl LoopState.accept st).total.toNat =
      (st.total.toNat + (rs.map (·.amount.toNat)).sum) % 2 ^ 64 := by
  induction rs generalizing st with
  | nil => simp [Nat.mod_eq_of_lt st.total.isLt]
  | cons r rs ih =>
    rw [List.foldl_cons, ih, List.map_cons, List.sum_cons]
    simp only [LoopState.accept, BitVec.toNat_add, Nat.mod_add_mod, Nat.add_assoc]

/-- No address repeats exactly when the set of addresses is as large as their count. -/
theorem card_eq_nAddresses_iff (rs : List SendCoinsRecipient) :
    (rs.foldl LoopState.accept .init).setAddress.card =
        (rs.foldl LoopState.accept .init).nAddresses ↔ (rs.map (·.address)).Nodup := by
  rw [foldl_accept_setAddress, foldl_accept_nAddresses]
  simp only [LoopState.init, Finset.empty_union, Nat.zero_add]
  rw [← List.length_map rs (·.address)]
  exact Multiset.toFinset_card_eq_card_iff_nodup

end Loop

/-! ## §4. `int64` facts. -/

theorem toInt_bounds (x : BitVec 64) : -2 ^ 63 ≤ x.toInt ∧ x.toInt < 2 ^ 63 := by
  have := x.isLt
  rw [BitVec.toInt_eq_toNat_cond]
  split <;> omega

/-- A positive `int64` is its unsigned value. -/
theorem toInt_eq_toNat_of_pos {x : BitVec 64} (h : 0 < x.toInt) : x.toInt = x.toNat := by
  have := x.isLt
  rw [BitVec.toInt_eq_toNat_cond] at h ⊢
  by_cases hc : 2 * x.toNat < 2 ^ 64
  · rw [if_pos hc]
  · rw [if_neg hc] at h
    omega

theorem sum_toInt_of_pos {rs : List SendCoinsRecipient} (h : ∀ r ∈ rs, 0 < r.amount.toInt) :
    (rs.map (·.amount.toInt)).sum = ((rs.map (·.amount.toNat)).sum : Nat) := by
  induction rs with
  | nil => rfl
  | cons r rs ih =>
    rw [List.map_cons, List.map_cons, List.sum_cons, List.sum_cons,
      toInt_eq_toNat_of_pos (h r (List.mem_cons_self _ _)),
      ih fun r' hr' => h r' (List.mem_cons_of_mem _ hr')]
    omega

/-! ## §5. The unbounded-integer contract, and where the code meets it. -/

/-- The unbounded-integer contract of the checks: the outcome they would have with the
amounts added as integers, `error` the status returned before `createTransaction`, `ok`
that it is reached. -/
def unboundedOutcome (w : WalletIface) (recipients : List SendCoinsRecipient) :
    Except StatusCode Unit :=
  match recipients.find? (fun r => !validateAddress w r.address || r.amount.toInt ≤ 0) with
  | some r => .error (if validateAddress w r.address then .InvalidAmount else .InvalidAddress)
  | none =>
    if (recipients.map (·.address)).Nodup then
      if w.getAvailableBalance.toInt < (recipients.map (·.amount.toInt)).sum then
        .error .AmountExceedsBalance
      else .ok ()
    else .error .DuplicateAddress

theorem findSome?_rejection (w : WalletIface) (rs : List SendCoinsRecipient) :
    rs.findSome? (rejection w) =
      (rs.find? (fun r => !validateAddress w r.address || r.amount.toInt ≤ 0)).map
        fun r => if validateAddress w r.address then .InvalidAmount else .InvalidAddress := by
  induction rs with
  | nil => rfl
  | cons r rs ih =>
    have h0 : (0 : BitVec 64).toInt = 0 := rfl
    simp only [List.findSome?_cons, List.find?_cons, rejection, BitVec.sle, h0]
    cases hv : validateAddress w r.address <;> by_cases h : r.amount.toInt ≤ 0 <;> simp [hv, h, ih]

theorem precheck_of_rejected (w : WalletIface) (rs : List SendCoinsRecipient) {e : StatusCode}
    (hf : rs.findSome? (rejection w) = some e) : precheck w rs = .error e := by
  simp only [precheck, checkRecipients_eq, hf]
  rfl

theorem unboundedOutcome_of_rejected (w : WalletIface) (rs : List SendCoinsRecipient) {e : StatusCode}
    (hf : rs.findSome? (rejection w) = some e) : unboundedOutcome w rs = .error e := by
  rw [findSome?_rejection] at hf
  obtain ⟨r, hr, rfl⟩ := Option.map_eq_some'.mp hf
  simp only [unboundedOutcome, hr]

/-- The pre-checks when every recipient passes its own checks: the duplicate check is
`Nodup`, and the balance is compared with the `int64` total. -/
theorem precheck_of_accepted (w : WalletIface) (rs : List SendCoinsRecipient)
    (hf : rs.findSome? (rejection w) = none) :
    precheck w rs =
      if (rs.map (·.address)).Nodup then
        if w.getAvailableBalance.toInt < (rs.foldl LoopState.accept .init).total.toInt then
          .error .AmountExceedsBalance
        else .ok (rs.foldl LoopState.accept .init)
      else .error .DuplicateAddress := by
  simp only [precheck, checkRecipients_eq, hf, Except.bind, ne_eq, card_eq_nAddresses_iff,
    BitVec.slt, decide_eq_true_eq, ite_not]

theorem unboundedOutcome_of_accepted (w : WalletIface) (rs : List SendCoinsRecipient)
    (hf : rs.findSome? (rejection w) = none) :
    unboundedOutcome w rs =
      if (rs.map (·.address)).Nodup then
        if w.getAvailableBalance.toInt < (rs.map (·.amount.toInt)).sum then
          .error .AmountExceedsBalance
        else .ok ()
      else .error .DuplicateAddress := by
  rw [findSome?_rejection, Option.map_eq_none'] at hf
  simp only [unboundedOutcome, hf]

theorem findSome?_rejection_eq_none (w : WalletIface) {rs : List SendCoinsRecipient} :
    rs.findSome? (rejection w) = none ↔
      ∀ r ∈ rs, validateAddress w r.address = true ∧ 0 < r.amount.toInt := by
  simp only [List.findSome?_eq_none_iff, rejection_eq_none]

/-- From the start of the loop, the total is the amounts' sum modulo `2^64`. -/
theorem init_total_toNat (rs : List SendCoinsRecipient) :
    (rs.foldl LoopState.accept .init).total.toNat = (rs.map (·.amount.toNat)).sum % 2 ^ 64 := by
  rw [foldl_accept_total, show LoopState.init.total.toNat = 0 from rfl, Nat.zero_add]

/-- **The contract below overflow.**  When every amount is at most `maxMoney` and the
recipients are too few for `maxMoney`s to add up to `2^63`, the checks before
`createTransaction` decide exactly as the unbounded-integer contract says: the first failing
recipient's status, then a duplicate address, then a sum above the balance. -/
theorem precheck_eq_unboundedOutcome (w : WalletIface) (rs : List SendCoinsRecipient)
    (maxMoney : Int) (hmax : ∀ r ∈ rs, r.amount.toInt ≤ maxMoney)
    (hbound : rs.length * maxMoney < 2 ^ 63) :
    (precheck w rs).map (fun _ => ()) = unboundedOutcome w rs := by
  cases hf : rs.findSome? (rejection w) with
  | some e => rw [precheck_of_rejected w rs hf, unboundedOutcome_of_rejected w rs hf]; rfl
  | none =>
    have hsum : (rs.map (·.amount.toInt)).sum = ((rs.map (·.amount.toNat)).sum : Nat) :=
      sum_toInt_of_pos fun r hr => ((findSome?_rejection_eq_none w).mp hf r hr).2
    have hle : (rs.map (·.amount.toInt)).sum ≤ rs.length * maxMoney := by
      simpa using List.sum_le_card_nsmul (rs.map (·.amount.toInt)) maxMoney
        (by simpa using hmax)
    have htotal : (rs.foldl LoopState.accept .init).total.toInt = (rs.map (·.amount.toInt)).sum := by
      rw [BitVec.toInt_eq_toNat_cond, init_total_toNat, hsum]
      split <;> omega
    rw [precheck_of_accepted w rs hf, unboundedOutcome_of_accepted w rs hf, htotal]
    split_ifs <;> rfl

theorem precheck_eq_unboundedOutcome_pair :
    (∀ r ∈ [(⟨"a", 2, false⟩ : SendCoinsRecipient), ⟨"b", 4, false⟩], r.amount.toInt ≤ 4) ∧
      ([(⟨"a", 2, false⟩ : SendCoinsRecipient), ⟨"b", 4, false⟩].length * 4 : Int) < 2 ^ 63 ∧
      (precheck ⟨fun _ => true, 5, fun _ => (true, 0), 0⟩
          [⟨"a", 2, false⟩, ⟨"b", 4, false⟩]).map (fun _ => ()) =
        unboundedOutcome ⟨fun _ => true, 5, fun _ => (true, 0), 0⟩
          [⟨"a", 2, false⟩, ⟨"b", 4, false⟩] :=
  ⟨by decide, by decide, precheck_eq_unboundedOutcome _ _ 4 (by decide) (by decide)⟩

/-! ## §6. The `int64` total wraps. -/

theorem sum_map_const {α : Type} (l : List α) (c : Nat) : (l.map fun _ => c).sum = l.length * c := by
  induction l with
  | nil => simp
  | cons a l ih => rw [List.map_cons, List.sum_cons, ih, List.length_cons, Nat.succ_mul, Nat.add_comm]

/-- Recipients of `2^50` satoshis each (about 11.26 million coins, below `MAX_MONEY`),
without fee subtraction. -/
def overflowRequest (addrs : List String) : List SendCoinsRecipient :=
  addrs.map fun a => ⟨a, .ofNat 64 (2 ^ 50), false⟩

/-- **The total wraps.**  8192 recipients with different valid addresses and `2^50`
satoshis each ask for `2^63` satoshis, more than any balance: the contract returns
`AmountExceedsBalance`, but the `int64` total wraps to `-2^63`, passes `total > nBalance`,
and `prepareTransaction` goes on to `createTransaction`. -/
theorem prepareTransaction_total_wraps (w : WalletIface) (addrs : List String)
    (hlen : addrs.length = 8192) (hnd : addrs.Nodup)
    (hval : ∀ a ∈ addrs, validateAddress w a = true) :
    unboundedOutcome w (overflowRequest addrs) = .error .AmountExceedsBalance ∧
      (prepareTransaction w (overflowRequest addrs)).2.isSome = true := by
  have hok : ∀ r ∈ overflowRequest addrs,
      validateAddress w r.address = true ∧ 0 < r.amount.toInt := by
    simp only [overflowRequest, List.forall_mem_map]
    exact fun a ha => ⟨hval a ha, by decide⟩
  have hf := (findSome?_rejection_eq_none w).mpr hok
  have hnd' : ((overflowRequest addrs).map (·.address)).Nodup := by
    simpa [overflowRequest, List.map_map, Function.comp_def] using hnd
  have hnat : ((overflowRequest addrs).map (·.amount.toNat)).sum = 2 ^ 63 := by
    simp only [overflowRequest, List.map_map, Function.comp_def]
    rw [sum_map_const, hlen]
    rfl
  have hsum : ((overflowRequest addrs).map (·.amount.toInt)).sum = 2 ^ 63 := by
    rw [sum_toInt_of_pos fun r hr => (hok r hr).2, hnat]
    rfl
  have htotal : ((overflowRequest addrs).foldl LoopState.accept .init).total.toInt = -2 ^ 63 := by
    rw [BitVec.toInt_eq_toNat_cond, init_total_toNat, hnat, if_neg (by decide)]
    rfl
  have hB := toInt_bounds w.getAvailableBalance
  have hne : (overflowRequest addrs).isEmpty = false := by
    simp [overflowRequest, ← List.length_eq_zero, hlen]
  constructor
  · rw [unboundedOutcome_of_accepted w _ hf, if_pos hnd', hsum, if_pos hB.2]
  · simp only [prepareTransaction, hne, precheck_of_accepted w _ hf, if_pos hnd', htotal,
      if_neg (not_lt.mpr hB.1)]
    rfl

theorem prepareTransaction_total_wraps_at :
    unboundedOutcome ⟨fun _ => true, 0, fun _ => (false, 0), 0⟩
        (overflowRequest ((List.range 8192).map fun i => String.mk (List.replicate i 'a'))) =
      .error .AmountExceedsBalance ∧
    (prepareTransaction ⟨fun _ => true, 0, fun _ => (false, 0), 0⟩
        (overflowRequest ((List.range 8192).map fun i => String.mk (List.replicate i 'a')))).2.isSome =
      true :=
  prepareTransaction_total_wraps _ _ (by simp)
    ((List.nodup_range 8192).map fun i j h => by
      simpa using congrArg String.length h)
    fun _ _ => rfl

end YuPostWallet.Send
