/-
  YuPostWallet.Qt.WalletWorker — the update requests the GUI thread raises for the wallet
  worker thread, and `WalletWorker::updateModel` serving them.

  Three flags of `WalletModel` are shared by the two threads without a lock:
  `hardwareWalletInitRequired`, `updateCoinAddresses` and `updateStakeWeight`.  The GUI
  thread only ever writes `true` (`importAddressesData`, `checkCoinAddresses`,
  `pollBalanceChanged`); the worker reads a flag, fetches (the hardware key import,
  `tryGetAvailableAddresses`, `tryGetStakeWeight`) and writes `false`.  Each read or write
  of a flag is one atomic step, and an interleaving is a list of events, each a GUI write
  or the worker's next step.

  `pollBalanceChanged` decides WHEN it writes from the node's sync state and the polled
  balances; here a GUI write may come at any point, which covers every outcome of those
  gates (and `checkCoinAddresses`, on a row inserted in the address table, writes
  unconditionally).

  Main results:
    * `request_kept_outside_window` — a request raised while the worker is not between
      its fetch and its clear of that flag stays set until a fetch begun after it
      serves it;
    * `dropsRequest_counterexample` — a request raised between the fetch and the clear is
      cleared unserved.
  A fetch serves a request when `tryGet…` succeeds; the hardware import serves it whatever
  it does, since the handler clears its flag after a failed import too.
-/
import Mathlib.Data.List.Basic

namespace YuPostWallet.Worker

/-! ## §1. Shared flags. -/

/-- The shared request flags, in the order `updateModel` serves them. -/
inductive Flag where
  | hardwareWalletInitRequired
  | updateCoinAddresses
  | updateStakeWeight
  deriving DecidableEq, Repr

/-- The flags' values (`updateCoinAddresses` and `updateStakeWeight` start `true` in the
`WalletModel` constructor). -/
structure Flags where
  hardwareWalletInitRequired : Bool
  updateCoinAddresses : Bool
  updateStakeWeight : Bool
  deriving DecidableEq, Repr

def Flags.get (m : Flags) : Flag → Bool
  | .hardwareWalletInitRequired => m.hardwareWalletInitRequired
  | .updateCoinAddresses => m.updateCoinAddresses
  | .updateStakeWeight => m.updateStakeWeight

/-- One write `f = b`. -/
def Flags.set (m : Flags) (b : Bool) : Flag → Flags
  | .hardwareWalletInitRequired => { m with hardwareWalletInitRequired := b }
  | .updateCoinAddresses => { m with updateCoinAddresses := b }
  | .updateStakeWeight => { m with updateStakeWeight := b }

@[simp] theorem Flags.get_set_self (m : Flags) (b : Bool) (f : Flag) : (m.set b f).get f = b := by
  cases f <;> rfl

@[simp] theorem Flags.get_set_ne (m : Flags) (b : Bool) {f g : Flag} (h : f ≠ g) :
    (m.set b f).get g = m.get g := by
  cases f <;> cases g <;> first | rfl | exact absurd rfl h

/-- Writing `true` never clears a flag. -/
theorem Flags.get_set_true {m : Flags} (g : Flag) {f : Flag} (h : m.get f = true) :
    (m.set true g).get f = true := by
  by_cases hg : g = f
  · subst hg; exact Flags.get_set_self _ _ _
  · rw [Flags.get_set_ne _ _ hg, h]

/-! ## §2. The worker thread. -/

/-- Where a handler is: about to read its flag, about to fetch, about to clear. -/
inductive Phase where
  | read
  | fetch
  | clear
  deriving DecidableEq, Repr

/-- The worker's program counter: between `updateModel` calls, or inside a handler. -/
inductive Pc where
  | idle
  | at (f : Flag) (phase : Phase)
  deriving DecidableEq, Repr

structure State where
  flags : Flags
  pc : Pc
  deriving DecidableEq, Repr

/-- The handler `updateModel` runs after the one for `f` (`checkHardwareDevice` comes last
and touches no flag). -/
def next : Flag → Pc
  | .hardwareWalletInitRequired => .at .updateCoinAddresses .read
  | .updateCoinAddresses => .at .updateStakeWeight .read
  | .updateStakeWeight => .idle

/-- One atomic step of the handlers of the form
`if (f && tryGet…()) { …; f = false; }`: read the flag (the `&&` skips the fetch when it is
clear), fetch (`ok`: whether `tryGet…` succeeded), clear the flag. -/
def checkChanged (f : Flag) (s : State) (ok : Bool) : Phase → State
  | .read => { s with pc := if s.flags.get f then .at f .fetch else next f }
  | .fetch => { s with pc := if ok then .at f .clear else next f }
  | .clear => { flags := s.flags.set false f, pc := next f }

/-- `WalletModel::checkCoinAddressesChanged()`. -/
def checkCoinAddressesChanged : State → Bool → Phase → State :=
  checkChanged .updateCoinAddresses

/-- `WalletModel::checkStakeWeightChanged()`. -/
def checkStakeWeightChanged : State → Bool → Phase → State :=
  checkChanged .updateStakeWeight

/-- `WalletModel::checkHardwareWallet()`: unlike the two above, the import runs to its end
whatever happens (a failure only becomes an error message) and the flag is cleared after it
in every case. -/
def checkHardwareWallet (s : State) (_ok : Bool) : Phase → State
  | .read =>
    { s with
      pc := if s.flags.get .hardwareWalletInitRequired then .at .hardwareWalletInitRequired .fetch
        else next .hardwareWalletInitRequired }
  | .fetch => { s with pc := .at .hardwareWalletInitRequired .clear }
  | .clear =>
    { flags := s.flags.set false .hardwareWalletInitRequired,
      pc := next .hardwareWalletInitRequired }

/-- The worker's next atomic step of `WalletWorker::updateModel`.  `answer` is what the
environment says at that step: at the start, that no shutdown was requested; at a fetch,
that it succeeded. -/
def updateModel (s : State) (answer : Bool) : State :=
  match s.pc with
  | .idle => if answer then { s with pc := .at .hardwareWalletInitRequired .read } else s
  | .at .hardwareWalletInitRequired ph => checkHardwareWallet s answer ph
  | .at .updateCoinAddresses ph => checkCoinAddressesChanged s answer ph
  | .at .updateStakeWeight ph => checkStakeWeightChanged s answer ph

/-! ## §3. Interleavings. -/

inductive Event where
  /-- A GUI-thread write `f = true`. -/
  | gui (f : Flag)
  /-- The worker thread's next step. -/
  | worker (answer : Bool)
  deriving DecidableEq, Repr

def step (s : State) : Event → State
  | .gui f => { s with flags := s.flags.set true f }
  | .worker a => updateModel s a

def run (s : State) : List Event → State
  | [] => s
  | e :: es => run (step s e) es

theorem run_append (s : State) (a b : List Event) : run s (a ++ b) = run (run s a) b := by
  induction a generalizing s with
  | nil => rfl
  | cons e es ih => exact ih _

/-- The state when the worker thread starts. -/
def init : State := ⟨⟨false, true, true⟩, .idle⟩

/-! ## §4. What one worker step can do. -/

section WorkerStep

variable (s : State) (a : Bool)

/-- A worker step writes a flag only at a clear, and then writes `false` to that flag. -/
theorem updateModel_flags :
    (updateModel s a).flags = s.flags ∨
      ∃ g, s.pc = .at g .clear ∧ (updateModel s a).flags = s.flags.set false g := by
  obtain ⟨m, _ | ⟨_ | _ | _, _ | _ | _⟩⟩ := s <;>
    simp only [updateModel, checkHardwareWallet, checkCoinAddressesChanged,
      checkStakeWeightChanged, checkChanged] <;>
    first
    | exact .inr ⟨_, rfl, rfl⟩
    | (left; split_ifs <;> rfl)
    | exact .inl trivial

/-- Whether the answer at the fetch of `f` serves the request: `tryGet…` succeeded, or, for
the hardware request, the import ran, whatever its outcome (a failure only becomes an error
message). -/
def served (f : Flag) (answer : Bool) : Bool := answer || f == .hardwareWalletInitRequired

/-- The worker reaches a clear only from the fetch of the same flag, with an answer that
serves it: a failed address or stake-weight fetch never goes on to its clear. -/
theorem updateModel_pc_clear {g : Flag} (h : (updateModel s a).pc = .at g .clear) :
    s.pc = .at g .fetch ∧ served g a = true := by
  obtain ⟨m, _ | ⟨_ | _ | _, _ | _ | _⟩⟩ := s <;> revert h <;>
    simp only [updateModel, checkHardwareWallet, checkCoinAddressesChanged,
      checkStakeWeightChanged, checkChanged, next, served] <;>
    (try split_ifs) <;> simp_all

end WorkerStep

/-! ## §5. Requests raised outside the fetch–clear window are served. -/

/-- Whether the worker's step `e` from `s` is a fetch of `f` that serves the request and
goes on to the clear: a successful `tryGet…`, or the hardware import whatever its outcome. -/
def completesFetch (f : Flag) (s : State) : Event → Bool
  | .gui _ => false
  | .worker a => s.pc = .at f .fetch && served f a && (updateModel s a).pc = .at f .clear

/-- Whether the run from `s` completes a fetch of `f`. -/
def fetchesDuring (f : Flag) : State → List Event → Bool
  | _, [] => false
  | s, e :: es => completesFetch f s e || fetchesDuring f (step s e) es

/-- **One step.**  A set flag, with the worker outside its window, stays so across a step
that does not complete a fetch of it. -/
theorem kept_step {f : Flag} {s : State} (e : Event) (hf : s.flags.get f = true)
    (hw : s.pc ≠ .at f .clear) (hc : completesFetch f s e = false) :
    (step s e).flags.get f = true ∧ (step s e).pc ≠ .at f .clear := by
  cases e with
  | gui g => exact ⟨Flags.get_set_true g hf, hw⟩
  | worker a =>
    have hpc : (updateModel s a).pc ≠ .at f .clear := fun h => by
      obtain ⟨hf, hs⟩ := updateModel_pc_clear s a h
      simp [completesFetch, hf, hs, h] at hc
    refine ⟨?_, hpc⟩
    rcases updateModel_flags s a with h | ⟨g, hg, h⟩
    · simp only [step, h, hf]
    · have hne : g ≠ f := by rintro rfl; exact hw hg
      simp only [step, h, Flags.get_set_ne _ _ hne, hf]

theorem kept_run {f : Flag} (evs : List Event) :
    ∀ s : State, s.flags.get f = true → s.pc ≠ .at f .clear →
      (run s evs).flags.get f = true ∨ fetchesDuring f s evs = true := by
  induction evs with
  | nil => exact fun s hf _ => .inl hf
  | cons e es ih =>
    intro s hf hw
    cases hc : completesFetch f s e
    · obtain ⟨hf', hw'⟩ := kept_step e hf hw hc
      simpa [run, fetchesDuring, hc] using ih _ hf' hw'
    · simp [fetchesDuring, hc]

/-- **Requests outside the window are kept.**  A request for `f` raised by the GUI while
the worker is not between its fetch and its clear of `f` is never lost: in every later
state the flag is still set, or a fetch of `f` begun after the request has served it (a
successful `tryGet…`, or the hardware import) and gone on to its clear. -/
theorem request_kept_outside_window (f : Flag) (s : State) (evs : List Event)
    (hwin : s.pc ≠ .at f .clear) :
    (run (step s (.gui f)) evs).flags.get f = true ∨
      fetchesDuring f (step s (.gui f)) evs = true :=
  kept_run evs _ (Flags.get_set_self _ _ _) hwin

theorem request_kept_outside_window_initial :
    Pc.idle ≠ .at .updateCoinAddresses .clear ∧
      ((run (step init (.gui .updateCoinAddresses)) [.worker true, .worker false]).flags.get
          .updateCoinAddresses = true ∨
        fetchesDuring .updateCoinAddresses (step init (.gui .updateCoinAddresses))
          [.worker true, .worker false] = true) :=
  ⟨nofun, request_kept_outside_window .updateCoinAddresses init _ nofun⟩

/-! ## §6. The window where a request is lost. -/

/-- Whether the run from `s` clears a flag while a GUI write of it that landed after the
fetch this clear completes is unserved (`dirty`: such a write has landed). -/
def dropsRequest : State → Bool → List Event → Bool
  | _, _, [] => false
  | s, dirty, e :: es =>
    match e, s.pc with
    | .worker _, .at _ .clear => dirty || dropsRequest (step s e) false es
    | .gui f, .at g .clear => dropsRequest (step s e) (dirty || f = g) es
    | _, _ => dropsRequest (step s e) dirty es

/-- **Counterexample.**  From the start: the worker finds `updateCoinAddresses` set and
fetches the addresses; `checkCoinAddresses()` then raises a new request; the worker clears
the flag, and the new request is never served. -/
theorem dropsRequest_counterexample :
    dropsRequest init false
        [.worker true, .worker true, .worker true, .worker true,
          .gui .updateCoinAddresses, .worker true] = true ∧
      (run init
        [.worker true, .worker true, .worker true, .worker true,
          .gui .updateCoinAddresses, .worker true]).flags.updateCoinAddresses = false := by
  decide

end YuPostWallet.Worker
