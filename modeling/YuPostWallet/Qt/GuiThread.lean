/-
  YuPostWallet.Qt.GuiThread — the GUI thread's side of the request flags: the balance poll
  `pollBalanceChanged` with its sync skip, `updateTransaction`, `checkCoinAddresses` and
  `importAddressesData`, interleaved with the steps of the wallet worker.

  The worker model (`YuPostWallet.Qt.WalletWorker`) lets a GUI write `f = true` come at any
  point.  Here the GUI handlers are written as the code writes them, each one atomic step of
  the GUI thread, and the worker's steps interleave between them.  What carries the worker
  model's results over is that every GUI handler only ever writes `true` to a flag and never
  moves the worker.

  The node is an interface: `tryGetSyncInfo` answers per poll, and `tryGetBalances` as a
  function of the arguments the code passes, with the `numBlocks` it writes back (an
  out-parameter of the wallet interface); `WalletBalances::balanceChanged` is a parameter.  The confirmation, token, delegation and super-staker refreshes a poll
  triggers, and the signals it emits, touch none of this state and are left out.

  Main results:
    * `pollBalanceChanged_cases` — a poll either only counts itself, or refreshes: it
      resets the counter and the force flag, records the block count, raises
      `updateCoinAddresses` when the balances changed and `updateStakeWeight` when, not
      syncing, the balances or the block count changed;
    * `syncing_refresh_rate` — while the node is syncing, along any interleaving the
      balances are fetched at most once per `pollSyncSkip` polls;
    * `pending_request_kept` — across any interleaving of the GUI handlers and the worker, a
      raised request, with the worker outside its fetch–clear window, stays set until a
      fetch begun after it serves it;
    * `updateTransaction_kept` — the force flag `updateTransaction` sets stays set until a
      poll obtains the balances, and that poll asks `tryGetBalances` with it set.
-/
import YuPostWallet.Qt.HardwareWallet

namespace YuPostWallet.GuiThread

open Worker (Flag Flags)

/-! ## §1. The GUI thread's handlers. -/

/-- `static int pollSyncSkip = 30`. -/
def pollSyncSkip : Nat := 30

/-- What the node answers during one poll. -/
structure Node (B : Type) where
  /-- `m_node.tryGetSyncInfo(numBlocks, isSyncing)`: `(numBlocks, isSyncing)`, or `none` when
  it returns `false`. -/
  tryGetSyncInfo : Option (Int × Bool)
  /-- `m_wallet->tryGetBalances(new_balances, numBlocks, fForceCheckBalanceChanged,
  cachedNumBlocks)`, given the `numBlocks` the poll holds: the balances and the `numBlocks` it
  leaves (the interface writes the chain height into it), or `none` when it returns
  `false`. -/
  tryGetBalances : Int → Bool → Int → Option (B × Int)

/-- The `WalletModel` fields that only the GUI thread touches here. -/
structure Gui (B : Type) where
  pollNum : Nat
  cachedNumBlocks : Int
  fForceCheckBalanceChanged : Bool
  m_cached_balances : B
  deriving DecidableEq, Repr

section Handlers

variable {B : Type} (balanceChanged : B → B → Bool)

/-- `WalletModel::checkBalanceChanged(new_balances)`: whether the balances changed
(`new_balances.balanceChanged(m_cached_balances)`), keeping the new ones when they did. -/
def checkBalanceChanged (g : Gui B) (new_balances : B) : Bool × Gui B :=
  if balanceChanged new_balances g.m_cached_balances then
    (true, { g with m_cached_balances := new_balances })
  else (false, g)

/-- `WalletModel::pollBalanceChanged()`, on the GUI fields and the shared flags. -/
def pollBalanceChanged (node : Node B) (g : Gui B) (flags : Flags) : Gui B × Flags :=
  let g := { g with pollNum := g.pollNum + 1 }
  match node.tryGetSyncInfo with
  | none => (g, flags)
  | some (numBlocks, isSyncing) =>
    if isSyncing && g.pollNum < pollSyncSkip then (g, flags) else
    match node.tryGetBalances numBlocks g.fForceCheckBalanceChanged g.cachedNumBlocks with
    | none => (g, flags)
    | some (new_balances, numBlocks) =>
      let cachedNumBlocksChanged := numBlocks != g.cachedNumBlocks
      let r := checkBalanceChanged balanceChanged
        { g with pollNum := 0, fForceCheckBalanceChanged := false, cachedNumBlocks := numBlocks }
        new_balances
      let flags := if r.1 then flags.set true .updateCoinAddresses else flags
      (r.2, if !isSyncing && (r.1 || cachedNumBlocksChanged) then
          flags.set true .updateStakeWeight
        else flags)

/-- `WalletModel::updateTransaction()`: the next poll must ask for the balances. -/
def updateTransaction (g : Gui B) : Gui B := { g with fForceCheckBalanceChanged := true }

/-- `WalletModel::checkCoinAddresses()`, on a row inserted in or removed from the address or
the receive-request table. -/
def checkCoinAddresses (flags : Flags) : Flags := flags.set true .updateCoinAddresses

/-! ## §2. What one poll can do. -/

/-- **The poll's spec.**  Either the poll only counts itself, and then it got no sync
info, or was skipped while syncing, or got no balances; or it got the sync info and the
balances past the skip, and then it resets the counter and the force flag, records the
block count `tryGetBalances` left, keeps the balances when they changed, raises
`updateCoinAddresses` when they changed and `updateStakeWeight` when, not syncing, they or
the block count changed. -/
theorem pollBalanceChanged_cases (node : Node B) (g : Gui B) (flags : Flags) :
    ((∀ numBlocks isSyncing, node.tryGetSyncInfo = some (numBlocks, isSyncing) →
        ¬(isSyncing = true ∧ g.pollNum + 1 < pollSyncSkip) →
        node.tryGetBalances numBlocks g.fForceCheckBalanceChanged g.cachedNumBlocks = none) ∧
      pollBalanceChanged balanceChanged node g flags =
        ({ g with pollNum := g.pollNum + 1 }, flags)) ∨
    ∃ numBlocks isSyncing b numBlocks',
      node.tryGetSyncInfo = some (numBlocks, isSyncing) ∧
      ¬(isSyncing = true ∧ g.pollNum + 1 < pollSyncSkip) ∧
      node.tryGetBalances numBlocks g.fForceCheckBalanceChanged g.cachedNumBlocks =
        some (b, numBlocks') ∧
      pollBalanceChanged balanceChanged node g flags =
        (⟨0, numBlocks', false,
            if balanceChanged b g.m_cached_balances then b else g.m_cached_balances⟩,
          if !isSyncing &&
              (balanceChanged b g.m_cached_balances || numBlocks' != g.cachedNumBlocks)
          then (if balanceChanged b g.m_cached_balances then
              flags.set true .updateCoinAddresses else flags).set true .updateStakeWeight
          else if balanceChanged b g.m_cached_balances then flags.set true .updateCoinAddresses
          else flags) := by
  unfold pollBalanceChanged
  rcases hs : node.tryGetSyncInfo with _ | ⟨numBlocks, isSyncing⟩
  · exact .inl ⟨fun _ _ h => (nomatch h), rfl⟩
  by_cases hskip : isSyncing = true ∧ g.pollNum + 1 < pollSyncSkip
  · left
    refine ⟨fun _ _ h hk => ?_, ?_⟩
    · cases h
      exact absurd hskip hk
    · obtain ⟨rfl, hn⟩ := hskip
      simp [hn]
  rcases hb : node.tryGetBalances numBlocks g.fForceCheckBalanceChanged g.cachedNumBlocks with
    _ | ⟨b, numBlocks'⟩
  · left
    refine ⟨fun _ _ h _ => ?_, ?_⟩
    · cases h
      exact hb
    · simp only [hb]
      split_ifs <;> rfl
  · right
    refine ⟨numBlocks, isSyncing, b, numBlocks', rfl, hskip, hb, ?_⟩
    have hc : (isSyncing && decide (g.pollNum + 1 < pollSyncSkip)) = false := by
      rw [Bool.eq_false_iff]
      simpa using hskip
    simp only [hc, Bool.false_eq_true, if_false, hb, checkBalanceChanged]
    by_cases hch : balanceChanged b g.m_cached_balances = true <;> simp [hch]

/-- A poll only ever writes `true`. -/
theorem pollBalanceChanged_flags_mono (node : Node B) (g : Gui B) {flags : Flags} {f : Flag}
    (h : flags.get f = true) : (pollBalanceChanged balanceChanged node g flags).2.get f = true := by
  rcases pollBalanceChanged_cases balanceChanged node g flags with
    ⟨-, he⟩ | ⟨_, _, _, _, -, -, -, he⟩ <;> rw [he]
  · exact h
  · split_ifs <;> simp [Flags.get_set_true, h]

/-! ## §3. The GUI thread and the worker. -/

/-- The GUI thread's fields, the hardware handlers' fields (with the shared flags), and the
worker's program counter. -/
structure System (B : Type) where
  gui : Gui B
  hw : Hardware.State
  pc : Worker.Pc

/-- The worker's view of the system: the shared flags and its program counter. -/
def System.worker (s : System B) : Worker.State := ⟨s.hw.flags, s.pc⟩

/-- One atomic step: a GUI handler, or the worker's next step. -/
inductive Event (B : Type) where
  | pollBalanceChanged (node : Node B)
  | updateTransaction
  | checkCoinAddresses
  | importAddressesData (p : Hardware.ImportParams)
  | worker (answer : Bool)

def step (s : System B) : Event B → System B
  | .pollBalanceChanged node =>
    let r := pollBalanceChanged balanceChanged node s.gui s.hw.flags
    { s with gui := r.1, hw := { s.hw with flags := r.2 } }
  | .updateTransaction => { s with gui := updateTransaction s.gui }
  | .checkCoinAddresses => { s with hw := { s.hw with flags := checkCoinAddresses s.hw.flags } }
  | .importAddressesData p => { s with hw := Hardware.importAddressesData s.hw p }
  | .worker a =>
    let w := Worker.updateModel s.worker a
    { s with hw := { s.hw with flags := w.flags }, pc := w.pc }

def run (s : System B) : List (Event B) → System B
  | [] => s
  | e :: es => run (step balanceChanged s e) es

/-- Whether the step `e` from `s` is a worker fetch of `f` that serves it and goes on to its
clear. -/
def completesFetch (f : Flag) (s : System B) : Event B → Bool
  | .worker a => Worker.completesFetch f s.worker (.worker a)
  | _ => false

/-- Whether the run from `s` completes a fetch of `f`. -/
def fetchesDuring (f : Flag) : System B → List (Event B) → Bool
  | _, [] => false
  | s, e :: es => completesFetch f s e || fetchesDuring f (step balanceChanged s e) es

/-- Whether the step `e` from `s` is a poll that obtains the balances: it got the sync
info, was not skipped, and `tryGetBalances` answered. -/
def refreshes (s : System B) : Event B → Bool
  | .pollBalanceChanged node =>
    match node.tryGetSyncInfo with
    | none => false
    | some (numBlocks, isSyncing) =>
      !(isSyncing && decide (s.gui.pollNum + 1 < pollSyncSkip)) &&
        (node.tryGetBalances numBlocks s.gui.fForceCheckBalanceChanged
          s.gui.cachedNumBlocks).isSome
  | _ => false

/-- A poll that counts only itself obtains no balances; one that refreshes does. -/
theorem refreshes_poll (s : System B) (node : Node B) :
    ((∀ numBlocks isSyncing, node.tryGetSyncInfo = some (numBlocks, isSyncing) →
        ¬(isSyncing = true ∧ s.gui.pollNum + 1 < pollSyncSkip) →
        node.tryGetBalances numBlocks s.gui.fForceCheckBalanceChanged s.gui.cachedNumBlocks =
          none) → refreshes s (.pollBalanceChanged node) = false) ∧
    (∀ numBlocks isSyncing b numBlocks', node.tryGetSyncInfo = some (numBlocks, isSyncing) →
        ¬(isSyncing = true ∧ s.gui.pollNum + 1 < pollSyncSkip) →
        node.tryGetBalances numBlocks s.gui.fForceCheckBalanceChanged s.gui.cachedNumBlocks =
          some (b, numBlocks') → refreshes s (.pollBalanceChanged node) = true) := by
  constructor
  · intro h
    simp only [refreshes]
    split
    · rfl
    · rename_i numBlocks isSyncing hs
      by_cases hskip : isSyncing = true ∧ s.gui.pollNum + 1 < pollSyncSkip
      · simp [hskip]
      · simp [h numBlocks isSyncing hs hskip]
  · intro _ isSyncing _ _ hs hskip hb
    simp only [not_and, not_lt] at hskip
    cases isSyncing <;> simp_all [refreshes]

/-! ## §4. While the node is syncing. -/

/-- **One step.**  A set flag, with the worker outside its window, stays so across any step
that is not a worker fetch of it completing: the GUI handlers only write `true` and leave
the worker where it is; the worker's own steps are those of the worker model. -/
theorem step_keeps_request {f : Flag} {s : System B} (e : Event B)
    (hf : s.hw.flags.get f = true) (hw : s.pc ≠ .at f .clear)
    (hc : completesFetch f s e = false) :
    (step balanceChanged s e).hw.flags.get f = true ∧
      (step balanceChanged s e).pc ≠ .at f .clear := by
  cases e with
  | pollBalanceChanged node => exact ⟨pollBalanceChanged_flags_mono balanceChanged node _ hf, hw⟩
  | updateTransaction => exact ⟨hf, hw⟩
  | checkCoinAddresses => exact ⟨Flags.get_set_true _ hf, hw⟩
  | importAddressesData p => exact ⟨Flags.get_set_true _ hf, hw⟩
  | worker a => exact Worker.kept_step (.worker a) (s := s.worker) hf hw hc

/-- **Requests are kept across both threads.**  From any state where `f` is requested and
the worker is not between its fetch and its clear of `f`, along every interleaving of the
GUI handlers and the worker's steps, the request is still set at the end, or a fetch of `f`
begun after it has served it and gone on to its clear. -/
theorem pending_request_kept (f : Flag) (s : System B) (evs : List (Event B))
    (hf : s.hw.flags.get f = true) (hw : s.pc ≠ .at f .clear) :
    (run balanceChanged s evs).hw.flags.get f = true ∨
      fetchesDuring balanceChanged f s evs = true := by
  induction evs generalizing s with
  | nil => exact .inl hf
  | cons e es ih =>
    cases hc : completesFetch f s e
    · obtain ⟨hf', hw'⟩ := step_keeps_request balanceChanged e hf hw hc
      simpa [run, fetchesDuring, hc] using ih _ hf' hw'
    · simp [fetchesDuring, hc]

theorem pending_request_kept_poll :
    (⟨⟨false, false, true⟩, ⟨false, false, false, false, "", "", ""⟩, "", "", 0, []⟩ :
        Hardware.State).flags.get .updateStakeWeight = true ∧
      Worker.Pc.idle ≠ .at .updateStakeWeight .clear ∧
      ((run (fun a b => a != b)
          ⟨⟨0, 0, false, 0⟩, ⟨⟨false, false, true⟩, ⟨false, false, false, false, "", "", ""⟩,
            "", "", 0, []⟩, .idle⟩
          [.worker true, .pollBalanceChanged ⟨some (5, false), fun _ _ _ => some (2, 5)⟩,
            .checkCoinAddresses, .worker true, .updateTransaction, .worker false]).hw.flags.get
          .updateStakeWeight = true ∨
        fetchesDuring (fun a b => a != b) .updateStakeWeight
          ⟨⟨0, 0, false, 0⟩, ⟨⟨false, false, true⟩, ⟨false, false, false, false, "", "", ""⟩,
            "", "", 0, []⟩, .idle⟩
          [.worker true, .pollBalanceChanged ⟨some (5, false), fun _ _ _ => some (2, 5)⟩,
            .checkCoinAddresses, .worker true, .updateTransaction, .worker false] = true) :=
  ⟨rfl, nofun, pending_request_kept _ .updateStakeWeight _ _ rfl nofun⟩

/-! ## §6. Transaction notifications are not lost. -/

/-- The force flag that the first poll of the run from `s` to obtain the balances passed
to `tryGetBalances`; `none` when no poll did. -/
def firstRefreshForce : System B → List (Event B) → Option Bool
  | _, [] => none
  | s, e :: es =>
    if refreshes s e then some s.gui.fForceCheckBalanceChanged
    else firstRefreshForce (step balanceChanged s e) es

/-- **One step.**  The force flag is cleared only by a poll that obtains the balances. -/
theorem step_keeps_force {s : System B} (e : Event B)
    (hf : s.gui.fForceCheckBalanceChanged = true) (hr : refreshes s e = false) :
    (step balanceChanged s e).gui.fForceCheckBalanceChanged = true := by
  cases e with
  | pollBalanceChanged node =>
    rcases pollBalanceChanged_cases balanceChanged node s.gui s.hw.flags with
      ⟨-, h⟩ | ⟨numBlocks, isSyncing, b, numBlocks', hs, hskip, hb, -⟩
    · simp only [step, h]
      exact hf
    · simp [(refreshes_poll s node).2 _ _ _ _ hs hskip hb] at hr
  | updateTransaction => rfl
  | checkCoinAddresses => exact hf
  | importAddressesData p => exact hf
  | worker a => exact hf

/-- **A transaction notification is never lost.**  From a state where `updateTransaction`
has set the force flag, along every interleaving of the GUI handlers and the worker, either
no poll obtains the balances and the flag is still set, or the first poll that does asks
`tryGetBalances` with the force flag set. -/
theorem updateTransaction_kept (s : System B) (evs : List (Event B))
    (hf : s.gui.fForceCheckBalanceChanged = true) :
    ((run balanceChanged s evs).gui.fForceCheckBalanceChanged = true ∧
        firstRefreshForce balanceChanged s evs = none) ∨
      firstRefreshForce balanceChanged s evs = some true := by
  induction evs generalizing s with
  | nil => exact .inl ⟨hf, rfl⟩
  | cons e es ih =>
    cases hr : refreshes s e
    · simpa [run, firstRefreshForce, hr] using ih _ (step_keeps_force balanceChanged e hf hr)
    · simp [firstRefreshForce, hr, hf]

/-- A transaction arrives while the node is syncing: the skipped polls and the worker keep
the flag, and the poll that obtains the balances is forced. -/
theorem updateTransaction_kept_syncing :
    (⟨⟨28, 7, true, 0⟩, ⟨⟨false, false, false⟩, ⟨false, false, false, false, "", "", ""⟩,
        "", "", 0, []⟩, .idle⟩ : System Nat).gui.fForceCheckBalanceChanged = true ∧
      (((run (fun a b => a != b)
          ⟨⟨28, 7, true, 0⟩, ⟨⟨false, false, false⟩, ⟨false, false, false, false, "", "", ""⟩,
            "", "", 0, []⟩, .idle⟩
          [.pollBalanceChanged ⟨some (9, true), fun _ force _ => if force then some (4, 9) else none⟩,
            .worker true,
            .pollBalanceChanged ⟨some (9, true), fun _ force _ => if force then some (4, 9) else none⟩
            ]).gui.fForceCheckBalanceChanged = true ∧
          firstRefreshForce (fun a b => a != b)
            ⟨⟨28, 7, true, 0⟩, ⟨⟨false, false, false⟩, ⟨false, false, false, false, "", "", ""⟩,
              "", "", 0, []⟩, .idle⟩
            [.pollBalanceChanged ⟨some (9, true), fun _ force _ => if force then some (4, 9) else none⟩,
              .worker true,
              .pollBalanceChanged ⟨some (9, true), fun _ force _ => if force then some (4, 9) else none⟩
              ] = none) ∨
        firstRefreshForce (fun a b => a != b)
            ⟨⟨28, 7, true, 0⟩, ⟨⟨false, false, false⟩, ⟨false, false, false, false, "", "", ""⟩,
              "", "", 0, []⟩, .idle⟩
            [.pollBalanceChanged ⟨some (9, true), fun _ force _ => if force then some (4, 9) else none⟩,
              .worker true,
              .pollBalanceChanged ⟨some (9, true), fun _ force _ => if force then some (4, 9) else none⟩
              ] = some true) :=
  ⟨rfl, updateTransaction_kept _ _ _ rfl⟩

end Handlers

end YuPostWallet.GuiThread
