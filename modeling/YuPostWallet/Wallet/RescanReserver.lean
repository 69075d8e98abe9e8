/-
  YuPostWallet.Wallet.RescanReserver — `WalletRescanReserver`, the RAII guard that lets
  at most one rescan run on a `CWallet`.

  The wallet holds one flag, `fScanningWallet`, written only by reservers and only under
  `mutexScanning`; each reserver holds `m_could_reserve`.  Every `reserve()` call and every
  destructor is one atomic step on the pair (wallet flag, live reservers), so the
  interleavings of any number of reservers are the runs of `step`.

  A failed `assert(!m_could_reserve)` aborts the process: that step has no successor state.

  Main results:
    * `Inv` — the flag is set iff exactly one live reserver holds the reservation, and
      reserver identities are distinct; it holds initially and `step` preserves it;
    * `rescanReserver_exclusive` — on every reachable state: the flag iff one holder, at
      most one holder (so at most one `isReserved()`), and a successful `reserve()` only
      when no live reserver holds the reservation.
-/
import Mathlib.Data.List.Nodup

namespace YuPostWallet.RescanReserver

/-! ## §1. State and operations. -/

/-- One live `WalletRescanReserver`: its identity and `m_could_reserve`. -/
structure Reserver where
  id : Nat
  m_could_reserve : Bool
  deriving DecidableEq, Repr

/-- `CWallet::fScanningWallet` and the live reservers on the wallet (the scan start time
and progress that `reserve()` also resets are left out: nothing here reads them). -/
structure State where
  fScanningWallet : Bool
  reservers : List Reserver
  deriving DecidableEq, Repr

/-- A wallet before any reserver exists: `fScanningWallet{false}`. -/
def init : State := ⟨false, []⟩

/-- The constructor `WalletRescanReserver(w)`: `m_could_reserve(false)`, for a fresh
object. -/
def construct (s : State) (id : Nat) : Option State :=
  if s.reservers.any (·.id = id) then none
  else some { s with reservers := ⟨id, false⟩ :: s.reservers }

/-- `reserve()`: after `assert(!m_could_reserve)`, under `mutexScanning`: `false` if a scan
is already reserved, else set `fScanningWallet` and `m_could_reserve` and return `true`. -/
def reserve (s : State) (id : Nat) : Option (Bool × State) :=
  match s.reservers.find? (·.id = id) with
  | none => none
  | some r =>
    if r.m_could_reserve then none
    else if s.fScanningWallet then some (false, s)
    else some (true,
      { fScanningWallet := true,
        reservers := s.reservers.map fun r => if r.id = id then ⟨r.id, true⟩ else r })

/-- `isReserved()`: `m_could_reserve && m_wallet->fScanningWallet`. -/
def isReserved (s : State) (r : Reserver) : Bool := r.m_could_reserve && s.fScanningWallet

/-- `~WalletRescanReserver()`: under `mutexScanning`, clear `fScanningWallet` if this
reserver held it; the reserver is gone. -/
def destroy (s : State) (id : Nat) : Option State :=
  match s.reservers.find? (·.id = id) with
  | none => none
  | some r =>
    some { fScanningWallet := if r.m_could_reserve then false else s.fScanningWallet,
           reservers := s.reservers.filter (·.id ≠ id) }

/-- One atomic step of some reserver. -/
inductive Op where
  | construct (id : Nat)
  | reserve (id : Nat)
  | destroy (id : Nat)
  deriving DecidableEq, Repr

def step (s : State) : Op → Option State
  | .construct id => construct s id
  | .reserve id => (reserve s id).map Prod.snd
  | .destroy id => destroy s id

/-- A run: the steps in order; an aborted step ends it. -/
def run (s : State) : List Op → Option State
  | [] => some s
  | op :: ops => (step s op).bind fun s' => run s' ops

/-! ## §2. The invariant. -/

/-- The live reservers holding the reservation. -/
def holders (s : State) : Nat := s.reservers.countP (·.m_could_reserve)

/-- The reservation invariant. -/
structure Inv (s : State) : Prop where
  nodup : (s.reservers.map (·.id)).Nodup
  holders_eq : holders s = if s.fScanningWallet then 1 else 0

theorem inv_init : Inv init := ⟨List.nodup_nil, rfl⟩

theorem find?_spec {l : List Reserver} {id : Nat} {r : Reserver}
    (h : l.find? (·.id = id) = some r) : r ∈ l ∧ r.id = id :=
  ⟨List.mem_of_find?_eq_some h, by simpa using List.find?_some h⟩

/-- Splitting the reserver list at a member, the others carry other identities. -/
theorem split_of_mem {l : List Reserver} {r : Reserver} (hnd : (l.map (·.id)).Nodup)
    (hr : r ∈ l) :
    ∃ a b, l = a ++ r :: b ∧ (∀ x ∈ a, x.id ≠ r.id) ∧ ∀ x ∈ b, x.id ≠ r.id := by
  obtain ⟨a, b, rfl⟩ := List.append_of_mem hr
  rw [List.map_append, List.map_cons, List.nodup_append] at hnd
  refine ⟨a, b, rfl, fun x hx he => ?_, fun x hx he => ?_⟩
  · exact hnd.2.2 (List.mem_map_of_mem _ hx) (he ▸ List.mem_cons_self _ _)
  · exact (List.nodup_cons.mp hnd.2.1).1 (he ▸ List.mem_map_of_mem _ hx)

theorem inv_construct {s s' : State} {id : Nat} (hs : Inv s) (h : construct s id = some s') :
    Inv s' := by
  unfold construct at h
  split_ifs at h with hfresh
  cases h
  refine ⟨?_, ?_⟩
  · simp only [List.map_cons, List.nodup_cons, List.mem_map]
    refine ⟨fun ⟨x, hx, he⟩ => hfresh ?_, hs.nodup⟩
    exact List.any_eq_true.mpr ⟨x, hx, by simp [he]⟩
  · simpa [holders] using hs.holders_eq

theorem inv_reserve {s s' : State} {id : Nat} {b : Bool} (hs : Inv s)
    (h : reserve s id = some (b, s')) : Inv s' := by
  obtain ⟨scan, l⟩ := s
  unfold reserve at h
  split at h
  · cases h
  rename_i r hr
  obtain ⟨hmem, rfl⟩ := find?_spec hr
  split_ifs at h with hcr hscan
  · cases h; exact hs
  · cases h
    obtain ⟨a, c, rfl, ha, hc⟩ := split_of_mem hs.nodup hmem
    -- `reserve` marks the caller only: the other reservers carry other identities
    have hkeep : ∀ l : List Reserver, (∀ x ∈ l, x.id ≠ r.id) →
        l.map (fun x => if x.id = r.id then ⟨x.id, true⟩ else x) = l :=
      fun l hl => (List.map_congr_left fun x hx => if_neg (hl x hx)).trans (List.map_id' l)
    have h0 := hs.holders_eq
    simp only [Bool.not_eq_true] at hcr hscan
    simp only [holders, List.countP_append, List.countP_cons, hscan, hcr, Bool.false_eq_true,
      if_false, Nat.add_zero] at h0
    simp only [List.map_append, List.map_cons, hkeep a ha, hkeep c hc, if_pos rfl]
    refine ⟨by simpa using hs.nodup, ?_⟩
    simp only [holders, List.countP_append, List.countP_cons, if_true]
    omega

theorem inv_destroy {s s' : State} {id : Nat} (hs : Inv s) (h : destroy s id = some s') :
    Inv s' := by
  obtain ⟨scan, l⟩ := s
  unfold destroy at h
  split at h
  · cases h
  rename_i r hr
  obtain ⟨hmem, rfl⟩ := find?_spec hr
  cases h
  refine ⟨hs.nodup.sublist ((List.filter_sublist _).map _), ?_⟩
  obtain ⟨a, c, rfl, ha, hc⟩ := split_of_mem hs.nodup hmem
  have hfa : a.filter (·.id ≠ r.id) = a := List.filter_eq_self.mpr fun x hx => by simp [ha x hx]
  have hfc : c.filter (·.id ≠ r.id) = c := List.filter_eq_self.mpr fun x hx => by simp [hc x hx]
  have h0 := hs.holders_eq
  simp only [holders, List.countP_append, List.countP_cons] at h0
  simp only [holders, List.filter_append, List.filter_cons, hfa, hfc, ne_eq,
    not_true_eq_false, decide_False, Bool.false_eq_true, if_false, List.countP_append]
  cases hrc : r.m_could_reserve <;> cases scan <;>
    simp only [hrc, Bool.false_eq_true, if_true, if_false, Nat.add_zero] at h0 ⊢ <;> omega

/-- **One step keeps the invariant.** -/
theorem inv_step {s s' : State} {op : Op} (hs : Inv s) (h : step s op = some s') : Inv s' := by
  cases op with
  | construct id => exact inv_construct hs h
  | reserve id =>
    obtain ⟨⟨b, s''⟩, hr, rfl⟩ := Option.map_eq_some'.mp h
    exact inv_reserve hs hr
  | destroy id => exact inv_destroy hs h

/-- **Every run keeps the invariant.** -/
theorem inv_run {s s' : State} {ops : List Op} (hs : Inv s) (h : run s ops = some s') :
    Inv s' := by
  induction ops generalizing s with
  | nil => cases h; exact hs
  | cons op ops ih =>
    obtain ⟨s₁, h₁, h₂⟩ := Option.bind_eq_some.mp h
    exact ih (inv_step hs h₁) h₂

/-! ## §3. Mutual exclusion. -/

theorem holders_le_one {s : State} (hs : Inv s) : holders s ≤ 1 := by
  have := hs.holders_eq
  split_ifs at this <;> omega

theorem isReserved_le_holders (s : State) :
    (s.reservers.filter (isReserved s)).length ≤ holders s := by
  rw [← List.countP_eq_length_filter]
  exact List.countP_mono_left fun r _ h => by simp_all [isReserved]

/-- A successful `reserve()` finds no live holder of the reservation. -/
theorem reserve_true_free {s s' : State} {id : Nat} (hs : Inv s)
    (h : reserve s id = some (true, s')) : ∀ r ∈ s.reservers, r.m_could_reserve = false := by
  unfold reserve at h
  split at h
  · cases h
  split_ifs at h with _ hscan
  · cases h
  · have h0 := hs.holders_eq
    simp only [hscan, Bool.false_eq_true, if_false, holders, List.countP_eq_zero] at h0
    simpa using h0

/-- **Mutual exclusion of rescans.**  On every state a run reaches: `fScanningWallet` is
set iff exactly one live reserver holds the reservation, at most one does (so at most one
`isReserved()`), and `reserve()` returns `true` only when no other live reserver holds it. -/
theorem rescanReserver_exclusive {ops : List Op} {s : State} (h : run init ops = some s) :
    (s.fScanningWallet = true ↔ holders s = 1) ∧ holders s ≤ 1 ∧
      (s.reservers.filter (isReserved s)).length ≤ 1 ∧
      ∀ id s', reserve s id = some (true, s') →
        ∀ r ∈ s.reservers, r.id ≠ id → r.m_could_reserve = false := by
  have hs := inv_run inv_init h
  refine ⟨?_, holders_le_one hs,
    (isReserved_le_holders s).trans (holders_le_one hs),
    fun id s' hr r hmem _ => reserve_true_free hs hr r hmem⟩
  have := hs.holders_eq
  split_ifs at this with hf <;> simp [hf, this]

/-- Two reservers, the second refused while the first holds the reservation. -/
theorem rescanReserver_exclusive_run :
    run init [.construct 1, .construct 2, .reserve 1, .reserve 2, .destroy 1, .reserve 2] =
        some ⟨true, [⟨2, true⟩]⟩ ∧
      (true = true ↔ holders ⟨true, [⟨2, true⟩]⟩ = 1) :=
  have h : run init [.construct 1, .construct 2, .reserve 1, .reserve 2, .destroy 1,
      .reserve 2] = some ⟨true, [⟨2, true⟩]⟩ := by decide
  ⟨h, (rescanReserver_exclusive h).1⟩

end YuPostWallet.RescanReserver
