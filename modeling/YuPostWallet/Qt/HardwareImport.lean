/-
  YuPostWallet.Qt.HardwareImport — the import parameters that `importAddressesData` (GUI
  thread) hands to `checkHardwareWallet` (worker thread) through fields of `WalletModel`,
  store by store and read by read.

  `importAddressesData` stores `rescan`, `importPKH`, `importP2SH`, `importBech32`,
  `pathPKH`, `pathP2SH` and `pathBech32`, then raises `hardwareWalletInitRequired`; it takes
  no lock.  The worker, once it has read the flag set and found the device connected, reads
  `importPKH`, then `pathPKH` when it was set, then `importP2SH`, `pathP2SH`, `importBech32`,
  `pathBech32` the same way, and `rescan` last (`if(rescan && !error)` reads `rescan`
  first), and clears the flag.  Each store and each read is one step here, and the two
  threads interleave step by step: a worker can read `importPKH` of one call and `pathP2SH`
  of the next.

  What the worker hands to `YuPostHwiTool` is what it read, each field once, so one import
  does what the sequential model's `runImport` does on the parameters read; the model logs
  each import as the device's answer and those parameters.  The fingerprint, which only
  `setFingerprint` writes, is not one of the interleaved fields here.

  Main results:
    * `gui_idle_params` — whenever the GUI thread is outside `importAddressesData`, the
      seven fields hold the arguments of its last call;
    * `quiet_import` — an import the worker runs entirely while the GUI thread stays outside
      `importAddressesData` reads the fields as they were when it started;
    * `import_reads_last_call` — so such an import does what `runImport` does on the
      arguments of the last `importAddressesData` call;
    * `run_refines` — every run of the two threads here is a run of the worker model of
      `YuPostWallet.Qt.WalletWorker`, with the same hardware flag and handler phase, so
      that model's results on the FLAG hold for the import as the code performs it.  The
      worker model's fetch stands for the whole import and takes effect at its last read:
      a request stored after the worker read some parameter counts as served there,
      although the import used the parameter read before it.  That the import used the
      request's own parameters is `import_reads_last_call`, under its quiet hypotheses.
-/
import YuPostWallet.Qt.HardwareWallet

namespace YuPostWallet.Import

open Hardware

/-! ## §1. The GUI thread's stores. -/

/-- Store `k` of `importAddressesData(p)` on the fields `q`, in the code's order. -/
def storeParam (p : ImportParams) (k : Nat) (q : ImportParams) : ImportParams :=
  match k with
  | 0 => { q with rescan := p.rescan }
  | 1 => { q with importPKH := p.importPKH }
  | 2 => { q with importP2SH := p.importP2SH }
  | 3 => { q with importBech32 := p.importBech32 }
  | 4 => { q with pathPKH := p.pathPKH }
  | 5 => { q with pathP2SH := p.pathP2SH }
  | 6 => { q with pathBech32 := p.pathBech32 }
  | _ => q

/-- The fields after the first `k` stores of `importAddressesData(p)`. -/
def storeUpTo (p : ImportParams) : Nat → ImportParams → ImportParams
  | 0, q => q
  | k + 1, q => storeParam p k (storeUpTo p k q)

/-- After its seven stores, the fields hold the call's arguments, whatever was there. -/
theorem storeUpTo_seven (p q : ImportParams) : storeUpTo p 7 q = p := by
  cases p; rfl

/-! ## §2. The worker's reads. -/

/-- The parameter reads of `checkHardwareWallet`, in the code's order. -/
inductive Read where
  | importPKH
  | pathPKH
  | importP2SH
  | pathP2SH
  | importBech32
  | pathBech32
  | rescan
  deriving DecidableEq, Repr

/-- One read: the field goes from the shared fields `q` into what the worker holds, and the
next read follows (`none`: the reads are over).  A path is read only when the kind just read
is requested. -/
def readStep (q held : ImportParams) : Read → ImportParams × Option Read
  | .importPKH =>
    ({ held with importPKH := q.importPKH }, some (if q.importPKH then .pathPKH else .importP2SH))
  | .pathPKH => ({ held with pathPKH := q.pathPKH }, some .importP2SH)
  | .importP2SH =>
    ({ held with importP2SH := q.importP2SH },
      some (if q.importP2SH then .pathP2SH else .importBech32))
  | .pathP2SH => ({ held with pathP2SH := q.pathP2SH }, some .importBech32)
  | .importBech32 =>
    ({ held with importBech32 := q.importBech32 },
      some (if q.importBech32 then .pathBech32 else .rescan))
  | .pathBech32 => ({ held with pathBech32 := q.pathBech32 }, some .rescan)
  | .rescan => ({ held with rescan := q.rescan }, none)

/-- The reads still to come, most first. -/
def Read.rank : Read → Nat
  | .importPKH => 6
  | .pathPKH => 5
  | .importP2SH => 4
  | .pathP2SH => 3
  | .importBech32 => 2
  | .pathBech32 => 1
  | .rescan => 0

theorem readStep_rank (q held : ImportParams) {r r' : Read}
    (h : (readStep q held r).2 = some r') : r'.rank < r.rank := by
  cases r <;> simp only [readStep, Option.some.injEq, reduceCtorEq] at h <;> subst h <;>
    (try split) <;> decide

/-- The worker's program counter in `checkHardwareWallet`. -/
inductive Pc where
  /-- Before `if(hardwareWalletInitRequired)`. -/
  | idle
  /-- `hwiTool.isConnected(fingerprint, false)`. -/
  | connect
  | reading (r : Read)
  /-- The error message, then `hardwareWalletInitRequired = false`; whether the device was
  connected. -/
  | clear (connected : Bool)
  deriving DecidableEq, Repr

/-! ## §3. The two threads. -/

/-- The shared fields, where each thread is, what the worker has read in its current import,
and the imports done so far (the device's answer and the parameters read). -/
structure Sys where
  params : ImportParams
  hardwareWalletInitRequired : Bool
  /-- Inside `importAddressesData(p)`, after `k` of its stores. -/
  gui : Option (ImportParams × Nat)
  pc : Pc
  held : ImportParams
  imports : List (Bool × ImportParams)
  deriving DecidableEq, Repr

/-- One step of either thread. -/
inductive Event where
  /-- The GUI thread enters `importAddressesData(p)`. -/
  | importAddressesData (p : ImportParams)
  /-- The GUI thread's next store. -/
  | store
  /-- The worker's next step; `connected` is `isConnected`'s answer when it asks. -/
  | worker (connected : Bool)
  deriving DecidableEq, Repr

/-- The worker's next step. -/
def workerStep (s : Sys) (connected : Bool) : Sys :=
  match s.pc with
  | .idle => if s.hardwareWalletInitRequired then { s with pc := .connect } else s
  | .connect => { s with pc := if connected then .reading .importPKH else .clear false }
  | .reading r =>
    let res := readStep s.params s.held r
    { s with held := res.1, pc := (res.2.map .reading).getD (.clear true) }
  | .clear c =>
    { s with
      hardwareWalletInitRequired := false, pc := .idle, imports := s.imports ++ [(c, s.held)] }

/-- One step; `none` when the GUI thread cannot take it. -/
def step (s : Sys) : Event → Option Sys
  | .importAddressesData p =>
    match s.gui with
    | none => some { s with gui := some (p, 0) }
    | some _ => none
  | .store =>
    match s.gui with
    | none => none
    | some (p, k) =>
      if k < 7 then some { s with params := storeParam p k s.params, gui := some (p, k + 1) }
      else some { s with hardwareWalletInitRequired := true, gui := none }
  | .worker c => some (workerStep s c)

def run (s : Sys) : List Event → Option Sys
  | [] => some s
  | e :: es => (step s e).bind fun s' => run s' es

/-- Both threads idle, the fields at their initial values `p₀`. -/
def init (p₀ : ImportParams) : Sys := ⟨p₀, false, none, .idle, p₀, []⟩

/-- The arguments of the last `importAddressesData` call of a run, `last` if none. -/
def lastCall (last : ImportParams) (evs : List Event) : ImportParams :=
  evs.foldl (fun l e => match e with | .importAddressesData p => p | _ => l) last

@[simp] theorem workerStep_params (s : Sys) (c : Bool) : (workerStep s c).params = s.params := by
  unfold workerStep; split <;> (try split) <;> rfl

@[simp] theorem workerStep_gui (s : Sys) (c : Bool) : (workerStep s c).gui = s.gui := by
  unfold workerStep; split <;> (try split) <;> rfl

/-! ## §4. What the GUI thread leaves in the fields. -/

/-- Outside the handler, the fields hold the last call's arguments; inside
`importAddressesData(p)`, its first `k` stores over some earlier contents. -/
def GuiInv (last : ImportParams) (s : Sys) : Prop :=
  match s.gui with
  | none => s.params = last
  | some (p, k) => p = last ∧ k ≤ 7 ∧ ∃ q, s.params = storeUpTo p k q

theorem guiInv_step {last : ImportParams} {s s' : Sys} {e : Event} (hs : GuiInv last s)
    (h : step s e = some s') : GuiInv (lastCall last [e]) s' := by
  cases e with
  | importAddressesData p =>
    cases hg : s.gui with
    | none =>
      simp only [step, hg, Option.some.injEq] at h
      subst h
      exact ⟨rfl, by omega, s.params, rfl⟩
    | some _ => simp [step, hg] at h
  | store =>
    cases hg : s.gui with
    | none => simp [step, hg] at h
    | some pk =>
      obtain ⟨p, k⟩ := pk
      simp only [GuiInv, hg] at hs
      obtain ⟨rfl, hk, q, hq⟩ := hs
      simp only [step, hg] at h
      split_ifs at h with hlt
      · cases h
        exact ⟨rfl, hlt, q, by rw [hq]; rfl⟩
      · cases h
        show s.params = p
        rw [hq, show k = 7 by omega, storeUpTo_seven]
  | worker c =>
    cases h
    unfold GuiInv at hs ⊢
    rw [workerStep_gui, workerStep_params]
    exact hs

theorem guiInv_run {last : ImportParams} {s s' : Sys} {evs : List Event} (hs : GuiInv last s)
    (h : run s evs = some s') : GuiInv (lastCall last evs) s' := by
  induction evs generalizing last s with
  | nil => cases h; exact hs
  | cons e es ih =>
    obtain ⟨s₁, h₁, h₂⟩ := Option.bind_eq_some.mp h
    exact ih (guiInv_step hs h₁) h₂

/-- **The GUI thread's invariant.**  On every interleaving from the initial state, whenever
the GUI thread is outside `importAddressesData`, the seven fields hold the arguments of its
last call (the initial values before any call). -/
theorem gui_idle_params (p₀ : ImportParams) {evs : List Event} {s : Sys}
    (h : run (init p₀) evs = some s) (hg : s.gui = none) : s.params = lastCall p₀ evs := by
  have hinv : GuiInv (lastCall p₀ evs) s := guiInv_run (show GuiInv p₀ (init p₀) from rfl) h
  unfold GuiInv at hinv
  rwa [hg] at hinv

/-! ## §5. An import the GUI thread leaves alone. -/

/-- The rest of an import's reads from read `r`, the fields staying `q`. -/
def finish (q : ImportParams) (r : Read) (held : ImportParams) : ImportParams :=
  match h : readStep q held r with
  | (held', some r') =>
    have : r'.rank < r.rank := readStep_rank q held (by rw [h])
    finish q r' held'
  | (held', none) => held'
termination_by r.rank

theorem finish_eq (q : ImportParams) (r : Read) (held : ImportParams) :
    finish q r held =
      match readStep q held r with
      | (held', some r') => finish q r' held'
      | (held', none) => held' := by
  rw [finish]
  split <;> rename_i h <;> simp only [h]

/-- What an import reads of `q`: every kind, its path when it is requested, and `rescan`. -/
def Agree (held q : ImportParams) : Prop :=
  held.importPKH = q.importPKH ∧ (q.importPKH = true → held.pathPKH = q.pathPKH) ∧
    held.importP2SH = q.importP2SH ∧ (q.importP2SH = true → held.pathP2SH = q.pathP2SH) ∧
    held.importBech32 = q.importBech32 ∧
    (q.importBech32 = true → held.pathBech32 = q.pathBech32) ∧ held.rescan = q.rescan

/-- A whole import on unchanging fields reads what `Agree` names, from anything held. -/
theorem agree_finish (q held : ImportParams) : Agree (finish q .importPKH held) q := by
  obtain ⟨rescan, pkh, p2sh, bech32, _, _, _⟩ := q
  cases pkh <;> cases p2sh <;> cases bech32 <;>
    simp only [finish_eq, readStep, Agree, if_true, if_false, Bool.false_eq_true] <;> simp

/-- `runImport` looks only at what `Agree` names. -/
theorem runImport_congr (tool : HwiTool) {held q : ImportParams} (h : Agree held q)
    (fingerprint : String) : runImport tool held fingerprint = runImport tool q fingerprint := by
  obtain ⟨h₁, h₂, h₃, h₄, h₅, h₆, h₇⟩ := h
  have hall : importAll tool held fingerprint = importAll tool q fingerprint := by
    unfold importAll
    rw [h₁, h₃, h₅, importKeysPKH_congr tool fingerprint h₂,
      importKeys_congr tool _ _ fingerprint h₄, importKeys_congr tool _ _ fingerprint h₆]
  simp only [runImport, hall, h₇]

/-- The worker's view of an import in progress, on fields that stay `q`: every import logged
read what `Agree` names; the one under way will. -/
def WorkerInv (q : ImportParams) (n : Nat) (s : Sys) : Prop :=
  (∀ x ∈ s.imports.drop n, x.1 = true → Agree x.2 q) ∧
    match s.pc with
    | .idle | .connect => True
    | .reading r => Agree (finish q r s.held) q
    | .clear c => c = true → Agree s.held q

theorem workerInv_step {q : ImportParams} {n : Nat} {s : Sys} (hq : s.params = q)
    (hn : n ≤ s.imports.length) (hs : WorkerInv q n s) (c : Bool) :
    WorkerInv q n (workerStep s c) := by
  obtain ⟨hlog, hpc⟩ := hs
  unfold workerStep
  split
  · split
    · exact ⟨hlog, trivial⟩
    · exact ⟨hlog, hpc⟩
  · subst hq
    refine ⟨hlog, ?_⟩
    cases c
    · exact nofun
    · exact agree_finish s.params s.held
  · rename_i r hr
    simp only [hr] at hpc
    subst hq
    rw [finish_eq] at hpc
    rcases hrs : readStep s.params s.held r with ⟨held, next⟩
    rw [hrs] at hpc
    refine ⟨hlog, ?_⟩
    cases next <;> simpa [hrs] using hpc
  · rename_i c' hc
    simp only [hc] at hpc
    refine ⟨fun x hx => ?_, trivial⟩
    rw [List.drop_append_of_le_length hn, List.mem_append, List.mem_singleton] at hx
    rcases hx with hx | rfl
    · exact hlog x hx
    · exact hpc

theorem length_le_workerStep (s : Sys) (c : Bool) :
    s.imports.length ≤ (workerStep s c).imports.length := by
  unfold workerStep
  split <;> (try split) <;> first | exact le_rfl | simp

theorem workerInv_run {q : ImportParams} {n : Nat} {s s' : Sys} {ws : List Bool}
    (hq : s.params = q) (hn : n ≤ s.imports.length) (hs : WorkerInv q n s)
    (h : run s (ws.map .worker) = some s') : WorkerInv q n s' := by
  induction ws generalizing s with
  | nil => cases h; exact hs
  | cons c cs ih =>
    simp only [List.map_cons, run, step, Option.some_bind] at h
    refine ih ?_ ?_ (workerInv_step hq hn hs c) h
    · rwa [workerStep_params]
    · exact hn.trans (length_le_workerStep s c)

/-- **A quiet import reads one request.**  From any state where the worker is between
imports, along the worker's steps alone, every import it completes reads the fields as they
were: it does what `runImport` does on them, whatever the tool answers. -/
theorem quiet_import {s s' : Sys} {ws : List Bool} (hw : s.pc = .idle)
    (h : run s (ws.map .worker) = some s') :
    ∀ x ∈ s'.imports.drop s.imports.length, ∀ (tool : HwiTool) (fingerprint : String),
      tool.isConnected fingerprint false = x.1 →
        runImport tool x.2 fingerprint = runImport tool s.params fingerprint := by
  intro x hx tool fingerprint hc
  have hinv := (workerInv_run rfl le_rfl ⟨by simp, by rw [hw]; trivial⟩ h).1 x hx
  cases hx1 : x.1
  · simp [runImport, hc, hx1]
  · exact runImport_congr tool (hinv hx1) fingerprint

/-- **The import does what the last call asked.**  On every interleaving of the two threads
from the initial state: once the GUI thread is outside `importAddressesData` with the worker
between imports, every import the worker then completes before the GUI thread enters the
handler again does what `runImport` does on the arguments of the last call. -/
theorem import_reads_last_call (p₀ : ImportParams) {evs : List Event} {ws : List Bool}
    {s s' : Sys} (h : run (init p₀) evs = some s) (hg : s.gui = none) (hw : s.pc = .idle)
    (h' : run s (ws.map .worker) = some s') :
    ∀ x ∈ s'.imports.drop s.imports.length, ∀ (tool : HwiTool) (fingerprint : String),
      tool.isConnected fingerprint false = x.1 →
        runImport tool x.2 fingerprint = runImport tool (lastCall p₀ evs) fingerprint := by
  rw [← gui_idle_params p₀ h hg]
  exact quiet_import hw h'

/-- One call asking for the PKH keys at `m/44` and a rescan, stored in full; then the
worker's eight steps of the import. -/
theorem import_reads_last_call_pkh :
    run (init ⟨false, false, false, false, "", "", ""⟩)
        (.importAddressesData ⟨true, true, false, false, "m/44", "", ""⟩ ::
          List.replicate 8 .store) =
      some ⟨⟨true, true, false, false, "m/44", "", ""⟩, true, none, .idle,
        ⟨false, false, false, false, "", "", ""⟩, []⟩ ∧
    (⟨⟨true, true, false, false, "m/44", "", ""⟩, true, none, .idle,
        ⟨false, false, false, false, "", "", ""⟩, []⟩ : Sys).gui = none ∧
    (⟨⟨true, true, false, false, "m/44", "", ""⟩, true, none, .idle,
        ⟨false, false, false, false, "", "", ""⟩, []⟩ : Sys).pc = .idle ∧
    run ⟨⟨true, true, false, false, "m/44", "", ""⟩, true, none, .idle,
          ⟨false, false, false, false, "", "", ""⟩, []⟩
        ((List.replicate 8 true).map .worker) =
      some ⟨⟨true, true, false, false, "m/44", "", ""⟩, false, none, .idle,
        ⟨true, true, false, false, "m/44", "", ""⟩,
        [(true, ⟨true, true, false, false, "m/44", "", ""⟩)]⟩ ∧
    ∀ x ∈ ([(true, ⟨true, true, false, false, "m/44", "", ""⟩)] : List (Bool × ImportParams)).drop
        ([] : List (Bool × ImportParams)).length,
      ∀ (tool : HwiTool) (fingerprint : String), tool.isConnected fingerprint false = x.1 →
        runImport tool x.2 fingerprint =
          runImport tool (lastCall ⟨false, false, false, false, "", "", ""⟩
            (.importAddressesData ⟨true, true, false, false, "m/44", "", ""⟩ ::
              List.replicate 8 .store)) fingerprint :=
  have h := (rfl : run (init ⟨false, false, false, false, "", "", ""⟩)
    (.importAddressesData ⟨true, true, false, false, "m/44", "", ""⟩ ::
      List.replicate 8 .store) = _)
  have h' := (rfl : run ⟨⟨true, true, false, false, "m/44", "", ""⟩, true, none, .idle,
      ⟨false, false, false, false, "", "", ""⟩, []⟩ ((List.replicate 8 true).map .worker) = _)
  ⟨h, rfl, rfl, h', import_reads_last_call _ h rfl rfl h'⟩

/-- Without the quiet window the import can be torn: the worker reads `importPKH` of a call
asking for PKH keys at `a`, the GUI thread meanwhile stores five fields of a call asking for
nothing, and the worker imports PKH keys at `b`, a path no call asked PKH keys for. -/
example :
    (run (init ⟨false, false, false, false, "", "", ""⟩)
        ((.importAddressesData ⟨false, true, false, false, "a", "", ""⟩ ::
            List.replicate 8 .store) ++
          [.worker true, .worker true, .worker true] ++
          (.importAddressesData ⟨false, false, false, false, "b", "", ""⟩ ::
            List.replicate 5 .store) ++
          (List.replicate 6 true).map .worker)).map (·.imports) =
      some [(true, ⟨false, true, false, false, "b", "", ""⟩)] := rfl

/-! ## §7. The worker model abstracts the import.

The worker model (`YuPostWallet.Qt.WalletWorker`) sees the hardware handler as three atomic
steps on the flag: read it, fetch, clear it.  Here the fetch is the whole import, and it
takes effect at the import's last step; a store of a parameter is no step there, and the
flag's store is the GUI write.  The correspondence is about the flag and the handler's
phase only: which parameters the import read is not visible in the worker model. -/

/-- Where the worker model's program counter stands for this one's. -/
def Pc.abs : Pc → Worker.Pc
  | .idle => .idle
  | .connect | .reading _ => .at .hardwareWalletInitRequired .fetch
  | .clear _ => .at .hardwareWalletInitRequired .clear

/-- The worker model's state for `s`: the hardware flag, the other two requests clear. -/
def Sys.abs (s : Sys) : Worker.State := ⟨⟨s.hardwareWalletInitRequired, false, false⟩, s.pc.abs⟩

/-- The worker-model steps that one step from `s` stands for: the GUI write for the flag's
store; the read and the fetch's start when the worker finds the flag set; the fetch when
the import ends; the clear and the two other handlers' reads for the clear. -/
def absEvents (s : Sys) : Event → List Worker.Event
  | .importAddressesData _ => []
  | .store =>
    match s.gui with
    | some (_, k) => if k < 7 then [] else [.gui .hardwareWalletInitRequired]
    | none => []
  | .worker c =>
    match s.pc with
    | .idle => if s.hardwareWalletInitRequired then [.worker true, .worker true] else []
    | .connect => if c then [] else [.worker true]
    | .reading r => if (readStep s.params s.held r).2 = none then [.worker true] else []
    | .clear _ => [.worker true, .worker true, .worker true]

/-- The worker-model steps a run from `s` stands for. -/
def absRun : Sys → List Event → List Worker.Event
  | _, [] => []
  | s, e :: es =>
    match step s e with
    | some s' => absEvents s e ++ absRun s' es
    | none => []

/-- **One step.**  Every step of the two threads is a run of the worker model. -/
theorem step_refines {s s' : Sys} {e : Event} (h : step s e = some s') :
    Worker.run s.abs (absEvents s e) = s'.abs := by
  obtain ⟨params, flag, gui, pc, held, imports⟩ := s
  cases e with
  | importAddressesData p =>
    cases gui <;> cases h
    rfl
  | store =>
    rcases gui with _ | ⟨p, k⟩
    · cases h
    · simp only [step] at h
      split_ifs at h with hk <;> cases h <;> simp [absEvents, hk] <;> rfl
  | worker c =>
    cases h
    cases pc with
    | idle => cases flag <;> rfl
    | connect => cases c <;> rfl
    | reading r =>
      simp only [absEvents, workerStep]
      cases (readStep params held r).2 <;> rfl
    | clear c' => rfl

/-- **The worker model is an abstraction of the import.**  Every run of the two threads,
store by store and read by read, is matched by a run of the worker model that reaches the
same hardware flag and the same phase of the hardware handler. -/
theorem run_refines {s s' : Sys} {evs : List Event} (h : run s evs = some s') :
    Worker.run s.abs (absRun s evs) = s'.abs := by
  induction evs generalizing s with
  | nil => cases h; rfl
  | cons e es ih =>
    obtain ⟨s₁, h₁, h⟩ := Option.bind_eq_some.mp h
    simp only [absRun, h₁, Worker.run_append, step_refines h₁]
    exact ih h

/-- A second call stores its fields and raises the flag while the worker is inside an import:
in the worker model the GUI write lands during the fetch, and the import's end clears it. -/
theorem run_refines_interleaved :
    run (init ⟨false, false, false, false, "", "", ""⟩)
        (.importAddressesData ⟨false, true, false, false, "a", "", ""⟩ ::
          List.replicate 8 .store ++
          [.worker true, .worker true, .importAddressesData ⟨false, false, false, false, "b", "", ""⟩] ++
          List.replicate 8 .store ++ List.replicate 6 (.worker true)) =
      some ⟨⟨false, false, false, false, "b", "", ""⟩, false, none, .idle,
        ⟨false, false, false, false, "", "", ""⟩, [(true, ⟨false, false, false, false, "", "", ""⟩)]⟩ ∧
    Worker.run (init ⟨false, false, false, false, "", "", ""⟩).abs
        (absRun (init ⟨false, false, false, false, "", "", ""⟩)
          (.importAddressesData ⟨false, true, false, false, "a", "", ""⟩ ::
            List.replicate 8 .store ++
            [.worker true, .worker true, .importAddressesData ⟨false, false, false, false, "b", "", ""⟩] ++
            List.replicate 8 .store ++ List.replicate 6 (.worker true))) =
      (⟨⟨false, false, false, false, "b", "", ""⟩, false, none, .idle,
        ⟨false, false, false, false, "", "", ""⟩,
        [(true, ⟨false, false, false, false, "", "", ""⟩)]⟩ : Sys).abs :=
  have h := (rfl : run (init ⟨false, false, false, false, "", "", ""⟩)
    (.importAddressesData ⟨false, true, false, false, "a", "", ""⟩ ::
      List.replicate 8 .store ++
      [.worker true, .worker true, .importAddressesData ⟨false, false, false, false, "b", "", ""⟩] ++
      List.replicate 8 .store ++ List.replicate 6 (.worker true)) = _)
  ⟨h, run_refines h⟩

end YuPostWallet.Import
