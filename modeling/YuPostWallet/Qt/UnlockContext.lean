/-
  YuPostWallet.Qt.UnlockContext — `WalletModel::requestUnlock` and the RAII
  `WalletModel::UnlockContext` that re-locks the wallet (or restores its "unlocked for
  staking only" flag) when it goes out of scope.

  The wallet state the contexts touch is the lock state and the flag
  `getWalletUnlockStakingOnly()`.  A context remembers `valid`, `relock` and the flag it
  saved; its destructor re-locks a wallet it unlocked, or writes the saved flag back.
  The passphrase prompt raised by `requireUnlock()` is the environment: it either unlocks
  the wallet or leaves it locked, and never touches the flag.

  The system is the wallet and the stack of live contexts, most recent first; a step is a
  `requestUnlock()`, a transfer (`CopyFrom` into a new context, then the source's
  destructor), or the destruction of the newest context.

  Main results:
    * `restore_of_flag_false` — a context opened on a wallet whose flag is clear restores
      the wallet EXACTLY when destroyed; `restore_of_flag_true` — on a staking-only wallet
      it restores the flag but leaves the lock state to the prompt;
    * `unlockContext_restores` — over every run of requests and LIFO destructions: a valid
      held context means an unlocked wallet with the flag clear, and once the stack is empty
      the flag is back, the lock state too when the flag was clear, and on a staking-only
      wallet the lock state the outermost prompt of the last session left;
    * `unlockContext_counterexample` — a cancelled prompt on a staking-only wallet leaves it
      locked, and a transferred-from context writes the flag back while its copy is held,
      against `CopyFrom`'s comment.
-/
import Mathlib.Data.List.Basic

namespace YuPostWallet.Unlock

/-! ## §1. The wallet as the contexts see it. -/

/-- The wallet behind `WalletModel`: encrypted or not, the master key cleared (locked),
and the unlock-staking-only flag. -/
structure Wallet where
  isCrypted : Bool
  isLocked : Bool
  unlockStakingOnly : Bool
  deriving DecidableEq, Repr

/-- `WalletModel::EncryptionStatus` (the statuses the contexts read). -/
inductive EncryptionStatus where
  | Unencrypted
  | Locked
  | Unlocked
  deriving DecidableEq, Repr

/-- `WalletModel::getEncryptionStatus()`. -/
def getEncryptionStatus (w : Wallet) : EncryptionStatus :=
  if !w.isCrypted then .Unencrypted else if w.isLocked then .Locked else .Unlocked

/-- `setWalletLocked(true)`, i.e. `CWallet::Lock()`: only an encrypted wallet locks. -/
def lock (w : Wallet) : Wallet := if w.isCrypted then { w with isLocked := true } else w

/-- The prompt raised by `requireUnlock()`: unlocks with the passphrase, or is cancelled. -/
def requireUnlock (w : Wallet) (unlocks : Bool) : Wallet :=
  if unlocks then { w with isLocked := false } else w

/-! ## §2. Contexts. -/

/-- `WalletModel::UnlockContext` (its wallet pointer is the one wallet). -/
structure UnlockContext where
  valid : Bool
  relock : Bool
  stakingOnly : Bool
  deriving DecidableEq, Repr

/-- The constructor `UnlockContext(wallet, valid, relock)`: a context that will not
re-lock saves the flag and clears it. -/
def UnlockContext.create (w : Wallet) (valid relock : Bool) : UnlockContext × Wallet :=
  if !relock then (⟨valid, relock, w.unlockStakingOnly⟩, { w with unlockStakingOnly := false })
  else (⟨valid, relock, false⟩, w)

/-- `WalletModel::requestUnlock()`: a staking-only wallet is locked first so that the
prompt asks for a full unlock. -/
def requestUnlock (w : Wallet) (unlocks : Bool) : UnlockContext × Wallet :=
  let was_locked := getEncryptionStatus w == .Locked
  let (w, was_locked) :=
    if !was_locked && w.unlockStakingOnly then (lock w, getEncryptionStatus (lock w) == .Locked)
    else (w, was_locked)
  let w := if was_locked then requireUnlock w unlocks else w
  let valid := getEncryptionStatus w != .Locked
  UnlockContext.create w valid (was_locked && !w.unlockStakingOnly)

/-- `~UnlockContext()`: re-lock if valid and asked to, else write the saved flag back (and
`updateStatus()`, which only emits a signal). -/
def UnlockContext.destroy (c : UnlockContext) (w : Wallet) : Wallet :=
  let w := if c.valid && c.relock then lock w else w
  if !c.relock then { w with unlockStakingOnly := c.stakingOnly } else w

/-- `CopyFrom(rhs)`: `*this = rhs; rhs.relock = false` — (the new context, the source). -/
def UnlockContext.copyFrom (rhs : UnlockContext) : UnlockContext × UnlockContext :=
  (rhs, { rhs with relock := false })

/-! ## §3. Runs. -/

/-- The wallet and the live contexts, most recent first. -/
structure State where
  wallet : Wallet
  contexts : List UnlockContext
  deriving DecidableEq, Repr

inductive Op where
  /-- `requestUnlock()`, the prompt unlocking or not. -/
  | requestUnlock (unlocks : Bool)
  /-- Move the newest context into a new one, then destroy the source. -/
  | transfer
  /-- Destroy the newest context. -/
  | release
  deriving DecidableEq, Repr

def step (s : State) : Op → Option State
  | .requestUnlock p =>
    let (c, w) := requestUnlock s.wallet p
    some ⟨w, c :: s.contexts⟩
  | .transfer =>
    match s.contexts with
    | [] => none
    | c :: cs =>
      let (dst, src) := c.copyFrom
      some ⟨src.destroy s.wallet, dst :: cs⟩
  | .release =>
    match s.contexts with
    | [] => none
    | c :: cs => some ⟨c.destroy s.wallet, cs⟩

@[simp] theorem step_requestUnlock (s : State) (p : Bool) :
    step s (.requestUnlock p) =
      some ⟨(requestUnlock s.wallet p).2, (requestUnlock s.wallet p).1 :: s.contexts⟩ := rfl

@[simp] theorem step_release (w : Wallet) (c : UnlockContext) (cs : List UnlockContext) :
    step ⟨w, c :: cs⟩ .release = some ⟨c.destroy w, cs⟩ := rfl

def run (s : State) : List Op → Option State
  | [] => some s
  | op :: ops => (step s op).bind fun s' => run s' ops

/-! ## §4. One context. -/

section OneContext

variable {w : Wallet} (p : Bool)

theorem requestUnlock_isCrypted : (requestUnlock w p).2.isCrypted = w.isCrypted := by
  obtain ⟨c, l, f⟩ := w
  cases c <;> cases l <;> cases f <;> cases p <;> rfl

/-- After `requestUnlock()` the flag is clear: a context that will not re-lock cleared it,
and one that will re-lock only exists when it was clear. -/
theorem requestUnlock_flag : (requestUnlock w p).2.unlockStakingOnly = false := by
  obtain ⟨c, l, f⟩ := w
  cases c <;> cases l <;> cases f <;> cases p <;> rfl

/-- A context created valid leaves the wallet unlocked. -/
theorem requestUnlock_valid (hc : w.isCrypted = true) (hv : (requestUnlock w p).1.valid = true) :
    (requestUnlock w p).2.isLocked = false := by
  obtain ⟨c, l, f⟩ := w
  cases hc; revert hv
  cases l <;> cases f <;> cases p <;> decide

/-- On an unlocked wallet with the flag clear, `requestUnlock()` changes nothing. -/
theorem requestUnlock_of_unlocked (hl : w.isLocked = false) (hf : w.unlockStakingOnly = false) :
    (requestUnlock w p).2 = w := by
  obtain ⟨c, l, f⟩ := w
  cases hl; cases hf
  cases c <;> cases p <;> rfl

/-- **A context opened with the flag clear restores the wallet exactly.** -/
theorem restore_of_flag_false (hc : w.isCrypted = true) (hf : w.unlockStakingOnly = false) :
    (requestUnlock w p).1.destroy (requestUnlock w p).2 = w := by
  obtain ⟨_, locked, _⟩ := w
  cases hc; cases hf
  cases locked <;> cases p <;> rfl

/-- A context opened on a staking-only wallet restores the flag; the wallet stays locked
exactly when the prompt did not unlock it. -/
theorem restore_of_flag_true (hc : w.isCrypted = true) (hf : w.unlockStakingOnly = true) :
    (requestUnlock w p).1.destroy (requestUnlock w p).2 = { w with isLocked := !p } := by
  obtain ⟨_, locked, _⟩ := w
  cases hc; cases hf
  cases locked <;> cases p <;> rfl

/-- What destroying the outermost context leaves, whichever the flag. -/
theorem restore_outermost (hc : w.isCrypted = true) :
    ((requestUnlock w p).1.destroy (requestUnlock w p).2).isCrypted = true ∧
    ((requestUnlock w p).1.destroy (requestUnlock w p).2).unlockStakingOnly =
      w.unlockStakingOnly ∧
    (w.unlockStakingOnly = false → (requestUnlock w p).1.destroy (requestUnlock w p).2 = w) := by
  cases hf : w.unlockStakingOnly
  · rw [restore_of_flag_false p hc hf]
    exact ⟨hc, hf, fun _ => rfl⟩
  · rw [restore_of_flag_true p hc hf]
    exact ⟨hc, hf, nofun⟩

end OneContext

/-! ## §5. Runs of requests and LIFO destructions. -/

/-- The wallet and contexts after the requests `ps` (most recent first) from `w`. -/
def pushes (w : Wallet) : List Bool → Wallet × List UnlockContext
  | [] => (w, [])
  | p :: ps => ((requestUnlock (pushes w ps).1 p).2, (requestUnlock (pushes w ps).1 p).1 :: (pushes w ps).2)

theorem pushes_isCrypted (w : Wallet) (ps : List Bool) : (pushes w ps).1.isCrypted = w.isCrypted := by
  induction ps with
  | nil => rfl
  | cons p ps ih => simp only [pushes, requestUnlock_isCrypted, ih]

/-- While contexts from requests are held, a valid one means an unlocked wallet with the
flag clear. -/
theorem pushes_valid (w : Wallet) (hc : w.isCrypted = true) (ps : List Bool) :
    ∀ c ∈ (pushes w ps).2, c.valid = true →
      (pushes w ps).1.isLocked = false ∧ (pushes w ps).1.unlockStakingOnly = false := by
  induction ps with
  | nil => intro c hc'; cases hc'
  | cons p ps ih =>
    intro c hmem hv
    have hcr : (pushes w ps).1.isCrypted = true := (pushes_isCrypted w ps).trans hc
    simp only [pushes, List.mem_cons] at hmem ⊢
    rcases hmem with rfl | hmem
    · exact ⟨requestUnlock_valid p hcr hv, requestUnlock_flag p⟩
    · obtain ⟨hl, hf⟩ := ih c hmem hv
      rw [requestUnlock_of_unlocked p hl hf]
      exact ⟨hl, hf⟩

/-- How a step moves the depth of the stack and the prompt of the outermost context of the
current, or else the last, session: a request on an empty stack opens a session, and its
prompt is the outermost one until the next session opens. -/
def outerStep : Nat × Option Bool → Op → Nat × Option Bool
  | (0, _), .requestUnlock p => (1, some p)
  | (n + 1, o), .requestUnlock _ => (n + 2, o)
  | (n, o), .release => (n - 1, o)
  | (n, o), .transfer => (n, o)

/-- The prompt of the outermost context of the last session of a run from an empty stack:
the answer to the last `requestUnlock()` made with no context held. -/
def lastOutermost (ops : List Op) : Option Bool := (ops.foldl outerStep (0, none)).2

/-- The session invariant, at depth and outermost prompt `d`: the state is what the
requests of the current session (most recent first) built from a session start that has
`w₀`'s flag, `w₀`'s lock state when the flag is clear, and, on a staking-only wallet, the
lock state the last finished session's outermost prompt left (`w₀`'s before any). -/
def Session (w₀ : Wallet) (d : Nat × Option Bool) (s : State) : Prop :=
  ∃ ws ps, ws.isCrypted = true ∧ ws.unlockStakingOnly = w₀.unlockStakingOnly ∧
    (w₀.unlockStakingOnly = false → ws.isLocked = w₀.isLocked) ∧
    (w₀.unlockStakingOnly = true → ps = [] → ws.isLocked = (d.2.map (!·)).getD w₀.isLocked) ∧
    (ps ≠ [] → d.2 = ps.getLast?) ∧ ps.length = d.1 ∧
    pushes ws ps = (s.wallet, s.contexts)

theorem session_step {w₀ : Wallet} {d : Nat × Option Bool} {s s' : State} {op : Op}
    (hop : op ≠ .transfer) (hs : Session w₀ d s) (h : step s op = some s') :
    Session w₀ (outerStep d op) s' := by
  obtain ⟨ws, ps, hc, hf, hl, ht, ho, hn, hp⟩ := hs
  obtain ⟨w, cs⟩ := s
  obtain ⟨n, o⟩ := d
  simp only at ho hn ht
  subst hn
  cases op with
  | requestUnlock p =>
    simp only [step_requestUnlock, Option.some.injEq] at h
    subst h
    have hpush : pushes ws (p :: ps) = ((requestUnlock w p).2, (requestUnlock w p).1 :: cs) := by
      simp only [pushes, hp]
    cases ps with
    | nil => exact ⟨ws, [p], hc, hf, hl, nofun, fun _ => rfl, rfl, hpush⟩
    | cons q qs =>
      refine ⟨ws, p :: q :: qs, hc, hf, hl, nofun, fun _ => ?_, rfl, hpush⟩
      show o = _
      rw [ho nofun, List.getLast?_cons_cons]
  | transfer => exact absurd rfl hop
  | release =>
    cases ps with
    | nil => cases hp; cases h
    | cons p ps =>
      simp only [pushes, Prod.mk.injEq] at hp
      obtain ⟨rfl, rfl⟩ := hp
      simp only [step_release, Option.some.injEq] at h
      subst h
      cases ps with
      | nil =>
        have hq : o = some p := ho nofun
        obtain ⟨hc', hf', hl'⟩ := restore_outermost p hc
        refine ⟨_, [], hc', hf'.trans hf, fun h0 => ?_, fun h1 _ => ?_, nofun, rfl, rfl⟩
        · rw [hl' (hf.trans h0)]
          exact hl h0
        · rw [restore_of_flag_true p hc (hf.trans h1), hq]
          rfl
      | cons q qs =>
        have hcr : (pushes ws (q :: qs)).1.isCrypted = true := (pushes_isCrypted ws _).trans hc
        have hfl : (pushes ws (q :: qs)).1.unlockStakingOnly = false := requestUnlock_flag q
        refine ⟨ws, q :: qs, hc, hf, hl, nofun, fun _ => ?_, rfl, ?_⟩
        · show o = _
          rw [ho nofun, List.getLast?_cons_cons]
        · rw [restore_of_flag_false p hcr hfl]

theorem session_run {w₀ : Wallet} {d : Nat × Option Bool} {s s' : State} {ops : List Op}
    (hops : Op.transfer ∉ ops) (hs : Session w₀ d s) (h : run s ops = some s') :
    Session w₀ (ops.foldl outerStep d) s' := by
  induction ops generalizing d s with
  | nil => cases h; exact hs
  | cons op ops ih =>
    obtain ⟨s₁, h₁, h₂⟩ := Option.bind_eq_some.mp h
    simp only [List.mem_cons, not_or] at hops
    exact ih hops.2 (session_step (Ne.symm hops.1) hs h₁) h₂

/-- **What unlock contexts guarantee**, over every run of `requestUnlock()` calls and LIFO
destructions on an encrypted wallet: while a context created valid is held the wallet is
unlocked with the flag clear; once every context is gone the flag is back, and the lock
state too when the flag was clear; on a staking-only wallet the lock state is then the one
the outermost context of the last session left: locked exactly when its prompt did not
unlock the wallet (as before, when no request was made). -/
theorem unlockContext_restores {w₀ : Wallet} {ops : List Op} {s : State}
    (hc : w₀.isCrypted = true) (hops : Op.transfer ∉ ops) (h : run ⟨w₀, []⟩ ops = some s) :
    (∀ c ∈ s.contexts, c.valid = true →
      s.wallet.isLocked = false ∧ s.wallet.unlockStakingOnly = false) ∧
    (s.contexts = [] → s.wallet.unlockStakingOnly = w₀.unlockStakingOnly ∧
      (w₀.unlockStakingOnly = false → s.wallet.isLocked = w₀.isLocked)) ∧
    (s.contexts = [] → w₀.unlockStakingOnly = true →
      s.wallet.isLocked = ((lastOutermost ops).map (!·)).getD w₀.isLocked) := by
  have hs₀ : Session w₀ (0, none) ⟨w₀, []⟩ :=
    ⟨w₀, [], hc, rfl, fun _ => rfl, fun _ _ => rfl, nofun, rfl, rfl⟩
  obtain ⟨ws, ps, hcs, hf, hl, ht, -, -, hp⟩ := session_run hops hs₀ h
  have hempty : s.contexts = [] → ps = [] ∧ s.wallet = ws := fun he => by
    cases ps with
    | nil =>
      simp only [pushes, Prod.mk.injEq] at hp
      exact ⟨rfl, hp.1.symm⟩
    | cons p ps => simp only [pushes, he, Prod.mk.injEq] at hp; cases hp.2
  refine ⟨fun c hmem hv => ?_, fun he => ?_, fun he h1 => ?_⟩
  · have := pushes_valid ws hcs ps c (by rw [hp]; exact hmem) hv
    rwa [hp] at this
  · rw [(hempty he).2]
    exact ⟨hf, hl⟩
  · rw [(hempty he).2]
    exact ht h1 (hempty he).1

/-- A wallet unlocked for staking only: a first session whose prompt is cancelled leaves it
locked, a second one whose outermost prompt unlocks it (with a nested request inside) leaves
it unlocked, its flag back each time. -/
theorem unlockContext_restores_stakingOnly :
    run ⟨⟨true, false, true⟩, []⟩
        [.requestUnlock false, .release, .requestUnlock true, .requestUnlock false, .release,
          .release] = some ⟨⟨true, false, true⟩, []⟩ ∧
    (⟨true, false, true⟩ : Wallet).isLocked =
      ((lastOutermost [.requestUnlock false, .release, .requestUnlock true,
          .requestUnlock false, .release, .release]).map (!·)).getD
        (⟨true, false, true⟩ : Wallet).isLocked :=
  have h : run ⟨⟨true, false, true⟩, []⟩
      [.requestUnlock false, .release, .requestUnlock true, .requestUnlock false, .release,
        .release] = some ⟨⟨true, false, true⟩, []⟩ := by decide
  ⟨h, (unlockContext_restores rfl (by decide) h).2.2 rfl rfl⟩

/-! ## §6. Where exact restoration fails. -/

/-- Exact restoration: a valid held context means an unlocked wallet with the flag clear,
and an empty stack means the wallet exactly as before the first request. -/
def RestoresExactly (w₀ : Wallet) (ops : List Op) : Prop :=
  ∀ s, run ⟨w₀, []⟩ ops = some s →
    (∀ c ∈ s.contexts, c.valid = true →
      s.wallet.isLocked = false ∧ s.wallet.unlockStakingOnly = false) ∧
    (s.contexts = [] → s.wallet = w₀)

/-- **Counterexample.**  On an encrypted wallet unlocked for staking only: a cancelled
prompt leaves it LOCKED after the context is gone; and after a transfer the source's
destructor still writes its saved flag back while the valid copy is held, although
`CopyFrom`'s comment says the old object no longer relocks the wallet. -/
theorem unlockContext_counterexample :
    ¬ RestoresExactly ⟨true, false, true⟩ [.requestUnlock false, .release] ∧
      ¬ RestoresExactly ⟨true, false, true⟩ [.requestUnlock true, .transfer] := by
  constructor <;> intro h
  · have := (h ⟨⟨true, true, true⟩, []⟩ (by decide)).2 rfl
    cases this
  · have := (h ⟨⟨true, false, true⟩, [⟨true, false, true⟩]⟩ (by decide)).1
      ⟨true, false, true⟩ (List.mem_singleton_self _) rfl
    cases this.2

/-! ## §7. The encryption-status signal. -/

/-- `WalletModel::updateStatus()`, run on each `NotifyKeyStoreStatusChanged`: whether it
emits `encryptionStatusChanged`.  The constructor sets `cachedEncryptionStatus(Unencrypted)`;
no method of `WalletModel` writes it again. -/
def updateStatus (cachedEncryptionStatus : EncryptionStatus) (w : Wallet) : Bool :=
  cachedEncryptionStatus != getEncryptionStatus w

end YuPostWallet.Unlock
