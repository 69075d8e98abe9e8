/-
  YuPostWallet.Wallet.WalletTxCodec — what the `CWalletTx` record encoding guarantees.

  Two questions about `CWalletTx::Serialize` / `CWalletTx::Unserialize`:

  * ROUND TRIP.  For a transaction whose `mapValue` holds none of the reserved keys and
    whose `Confirmation` has one of the shapes the sentinel encoding can tell apart
    (`WellFormed`), reading back what was written restores every persisted field —
    `nOrderPos` for every `int64_t` value through `ToString`/`atoi64` (`-1` as an absent
    `"n"`), `nTimeSmart` for every `unsigned int` through `%u`/`atoi64` (`0` as an absent
    `"timesmart"`) — and only the unserialized `block_height` and the memory-only caches
    come back reset (`unserialize_serialize`).

  * STATUS INVARIANT ON READ.  Whatever `(hashBlock, nIndex)` a stored record carries, the
    decoded `Confirmation` keeps the status invariant of the header's comments
    (`CONFIRMED`/`CONFLICTED` point at a block, `UNCONFIRMED`/`ABANDONED` have no hash and
    index `0`) — EXCEPT for the one pair `(null, -1)`, which the reader turns into a
    `CONFLICTED` transaction with a null hash
    (`decode_statusInvariant`, `unserialize_legacy_unconfirmed`).  Older wallets wrote
    exactly that pair for an unconfirmed transaction.

  * LOADING NORMALISES ONCE.  Every record the reader accepts, legacy or not, yields a
    transaction of the shape `Loaded` (no reserved keys, a `Confirmation` the sentinels tell
    apart, the unstored fields reset), and a `Loaded` transaction is written and read back
    unchanged: a loaded wallet saved and loaded again is the same wallet
    (`unserialize_serialize_unserialize`).  The round trip's two conditions are also
    necessary: any other transaction is changed by one save and load
    (`unserialize_serialize_iff`).
-/
import YuPostWallet.Wallet.WalletTx

namespace YuPostWallet

open Serializable

/-! ## §1. The readers of `mapValue`, as lookups. -/

theorem count_eq_zero_iff (m : MapValue) (k : String) : m.count k = 0 ↔ m.find? k = none := by
  unfold StdMap.count
  cases m.find? k <;> simp

theorem index_of_find? {m : MapValue} {k s : String} (h : m.find? k = some s) :
    m.index k = (s, m) := by
  simp [StdMap.index, h]

theorem readOrderPos_eq (m : MapValue) :
    readOrderPos m = ((m.find? "n").elim (-1) fun s => BitVec.ofInt 64 (atoi64 s), m) := by
  unfold readOrderPos
  cases h : m.find? "n" with
  | none => simp [(count_eq_zero_iff m "n").mpr h]
  | some s => simp [(count_eq_zero_iff m "n").not.mpr (by simp [h]), index_of_find? h]

theorem readTimeSmart_eq (m : MapValue) :
    readTimeSmart m =
      ((m.find? "timesmart").elim 0 fun s => BitVec.ofInt 32 (atoi64 s), m) := by
  unfold readTimeSmart
  cases h : m.find? "timesmart" with
  | none => simp [(count_eq_zero_iff m "timesmart").mpr h]
  | some s => simp [(count_eq_zero_iff m "timesmart").not.mpr (by simp [h]), index_of_find? h]

/-! What the written copy of `mapValue` holds: the order position under `"n"`, the smart
time under `"timesmart"`, the legacy `"fromaccount"`, and `mapValue` elsewhere. -/

theorem find?_mapValueCopy_n (w : CWalletTx) :
    w.mapValueCopy.find? "n" =
      if w.nOrderPos = -1 then w.mapValue.find? "n" else some (toStringInt w.nOrderPos.toInt) := by
  unfold CWalletTx.mapValueCopy writeOrderPos
  split_ifs <;> simp

theorem find?_mapValueCopy_timesmart (w : CWalletTx) :
    w.mapValueCopy.find? "timesmart" =
      if w.nTimeSmart = 0 then w.mapValue.find? "timesmart" else some (strprintfU w.nTimeSmart) := by
  unfold CWalletTx.mapValueCopy writeOrderPos
  split_ifs <;> simp_all

theorem find?_mapValueCopy_of_ne (w : CWalletTx) {k : String} (h₁ : k ≠ "fromaccount")
    (h₂ : k ≠ "n") (h₃ : k ≠ "timesmart") : w.mapValueCopy.find? k = w.mapValue.find? k := by
  unfold CWalletTx.mapValueCopy writeOrderPos
  split_ifs <;> simp [h₁, h₂, h₃]

/-! ## §2. Numbers through text. -/

theorem ofInt_toInt {w : Nat} (x : BitVec w) : BitVec.ofInt w x.toInt = x :=
  BitVec.eq_of_toInt_eq <| by rw [BitVec.toInt_ofInt, BitVec.toInt_eq_toNat_bmod, Int.bmod_bmod]

theorem toInt_mem_int64 (x : BitVec 64) : INT64_MIN ≤ x.toInt ∧ x.toInt ≤ INT64_MAX := by
  have := x.isLt
  rw [BitVec.toInt_eq_toNat_cond]
  unfold INT64_MIN INT64_MAX
  split <;> omega

/-- `nOrderPos` survives `ToString` and `atoi64`. -/
theorem atoi64_orderPos (x : BitVec 64) :
    BitVec.ofInt 64 (atoi64 (toStringInt x.toInt)) = x := by
  obtain ⟨hlo, hhi⟩ := toInt_mem_int64 x
  rw [atoi64_toStringInt hlo hhi, ofInt_toInt]

/-- `nTimeSmart` survives `%u` and `atoi64`. -/
theorem atoi64_timeSmart (x : BitVec 32) : BitVec.ofInt 32 (atoi64 (strprintfU x)) = x := by
  rw [atoi64_strprintfU, BitVec.ofInt_natCast, BitVec.ofNat_toNat, BitVec.setWidth_eq]

/-! ## §3. The sentinel encoding of the status. -/

namespace Confirmation

/-- The `Confirmation` shapes the sentinel pair `(hashBlock, nIndex)` tells apart:
unconfirmed and abandoned with a null hash and index `0`, confirmed with a hash and an
index other than `-1`, conflicted with a hash other than `ABANDON_HASH` and index `0`. -/
def WellFormed (c : Confirmation) : Prop :=
  (c.status = .UNCONFIRMED ∨ c.status = .ABANDONED → c.hashBlock = 0 ∧ c.nIndex = 0) ∧
  (c.status = .CONFIRMED → c.hashBlock ≠ 0 ∧ c.nIndex ≠ -1) ∧
  (c.status = .CONFLICTED → c.hashBlock ≠ ABANDON_HASH ∧ c.nIndex = 0)

/-- The status invariant the header's comments describe: `CONFIRMED`/`CONFLICTED` carry a
non-null block hash (the confirming or the conflicting block), `UNCONFIRMED`/`ABANDONED` a
null one and index `0`. -/
def StatusInvariant (c : Confirmation) : Prop :=
  (c.status = .CONFIRMED ∨ c.status = .CONFLICTED → c.hashBlock ≠ 0) ∧
  (c.status = .UNCONFIRMED ∨ c.status = .ABANDONED → c.hashBlock = 0 ∧ c.nIndex = 0)

instance (c : Confirmation) : Decidable c.WellFormed := inferInstanceAs (Decidable (_ ∧ _ ∧ _))

instance (c : Confirmation) : Decidable c.StatusInvariant := inferInstanceAs (Decidable (_ ∧ _))

theorem ABANDON_HASH_ne_zero : ABANDON_HASH ≠ 0 := by decide

/-- Decoding what was encoded gives the `Confirmation` back, its height reset. -/
theorem decode_serialized {c : Confirmation} (hc : c.WellFormed) :
    ({ hashBlock := c.serializedHash } : Confirmation).decode c.serializedIndex =
      { c with block_height := 0 } := by
  obtain ⟨status, height, hash, index⟩ := c
  obtain ⟨h₁, h₂, h₃⟩ := hc
  cases status <;> simp_all [serializedHash, serializedIndex, decode, setAbandoned,
    setConflicted, setConfirmed, ABANDON_HASH_ne_zero]

/-- **The reader's branch keeps the invariant, except on `(null, -1)`.** -/
theorem decode_statusInvariant (h : BitVec 256) (i : BitVec 32) (hleg : ¬ (i = -1 ∧ h = 0)) :
    (({ hashBlock := h } : Confirmation).decode i).StatusInvariant := by
  unfold decode StatusInvariant
  split_ifs with h₁ h₂ h₃ <;>
    simp_all [setAbandoned, setConflicted, setConfirmed, ABANDON_HASH_ne_zero]

/-- Every `Confirmation` the reader's branch produces is one the sentinel pair tells apart,
with no block height. -/
theorem decode_wellFormed (h : BitVec 256) (i : BitVec 32) :
    (({ hashBlock := h } : Confirmation).decode i).WellFormed ∧
      (({ hashBlock := h } : Confirmation).decode i).block_height = 0 := by
  unfold decode WellFormed
  split_ifs with h₁ h₂ h₃ <;>
    simp_all [setAbandoned, setConflicted, setConfirmed]

end Confirmation

/-! ## §4. The round trip. -/

/-- `mapValue` holds none of the keys the record reserves. -/
def NoReservedKeys (m : MapValue) : Prop := ∀ k ∈ reservedKeys, m.find? k = none

instance (m : MapValue) : Decidable (NoReservedKeys m) :=
  inferInstanceAs (Decidable (∀ k ∈ reservedKeys, m.find? k = none))

namespace CWalletTx

/-- The reads of `unserialize`, on what `serialize` wrote. -/
theorem unserialize_serialize_eq (w w₀ : CWalletTx) (rest : List Token) :
    w₀.unserialize (w.serialize ++ rest) =
      some (finishUnserialize
        { w₀.init with
          tx := w.tx, m_confirm := { hashBlock := w.m_confirm.serializedHash },
          mapValue := w.mapValueCopy, vOrderForm := w.vOrderForm,
          fTimeReceivedIsTxTime := w.fTimeReceivedIsTxTime, nTimeReceived := w.nTimeReceived,
          fFromMe := w.fFromMe }
        w.m_confirm.serializedIndex, rest) := by
  simp only [unserialize, serialize, List.append_assoc, unser_bind, unser_bind_nil,
    readVector_bind_nil]
  rfl

/-- `finishUnserialize` through the lookup view of `mapValue`. -/
theorem finishUnserialize_eq (w : CWalletTx) (i : BitVec 32) :
    finishUnserialize w i =
      { w with
        m_confirm := w.m_confirm.decode i,
        nOrderPos := (w.mapValue.find? "n").elim (-1) fun s => BitVec.ofInt 64 (atoi64 s),
        nTimeSmart := (w.mapValue.find? "timesmart").elim 0 fun s => BitVec.ofInt 32 (atoi64 s),
        mapValue := (((w.mapValue.erase "fromaccount").erase "spent").erase "n").erase "timesmart" } := by
  simp only [finishUnserialize, readOrderPos_eq, readTimeSmart_eq]

/-- Erasing the reserved keys from the written copy gives `mapValue` back. -/
theorem erase_mapValueCopy (w : CWalletTx) (hkeys : NoReservedKeys w.mapValue) :
    (((w.mapValueCopy.erase "fromaccount").erase "spent").erase "n").erase "timesmart" =
      w.mapValue := by
  apply StdMap.eq_of_find?
  intro k
  by_cases hk : k ∈ reservedKeys
  · have := hkeys k hk
    simp only [reservedKeys, List.mem_cons, List.mem_singleton, List.not_mem_nil,
      or_false] at hk
    rcases hk with rfl | rfl | rfl | rfl <;> simp [this]
  · simp only [reservedKeys, List.mem_cons, List.mem_singleton, List.not_mem_nil,
      or_false, not_or] at hk
    obtain ⟨h₁, h₂, h₃, h₄⟩ := hk
    simp [h₁, h₂, h₃, h₄, find?_mapValueCopy_of_ne w h₁ h₃ h₄]

/-- **Round trip of the wallet record.**  Reading back what `Serialize` wrote restores every
persisted field; only `block_height` (not serialized) and the caches `Init` resets differ. -/
theorem unserialize_serialize (w w₀ : CWalletTx) (hkeys : NoReservedKeys w.mapValue)
    (hc : w.m_confirm.WellFormed) (rest : List Token) :
    w₀.unserialize (w.serialize ++ rest) =
      some ({ w with
        m_confirm := { w.m_confirm with block_height := 0 },
        fChangeCached := false, fInMempool := false, nChangeCached := 0 }, rest) := by
  have hn := hkeys "n" (by decide)
  have ht := hkeys "timesmart" (by decide)
  have hpos : (w.mapValueCopy.find? "n").elim (-1) (fun s => BitVec.ofInt 64 (atoi64 s)) =
      w.nOrderPos := by
    rw [find?_mapValueCopy_n]
    split_ifs with hp
    · simp [hp, hn]
    · exact atoi64_orderPos _
  have hsmart : (w.mapValueCopy.find? "timesmart").elim 0
      (fun s => BitVec.ofInt 32 (atoi64 s)) = w.nTimeSmart := by
    rw [find?_mapValueCopy_timesmart]
    split_ifs with hs
    · simp [hs, ht]
    · exact atoi64_timeSmart _
  rw [unserialize_serialize_eq, finishUnserialize_eq]
  simp only [hpos, hsmart, erase_mapValueCopy w hkeys, Confirmation.decode_serialized hc]
  rfl

/-- A sample record: a confirmed transaction with a comment and an order position. -/
def sample : CWalletTx :=
  { mapValue := StdMap.empty.set "comment" "rent", vOrderForm := [("Message", "thanks")],
    fTimeReceivedIsTxTime := 1, nTimeReceived := 1600000000, nTimeSmart := 1600000000,
    fFromMe := true, nOrderPos := 7, fChangeCached := false, fInMempool := false,
    nChangeCached := 0, tx := ⟨[1, 2, 3]⟩,
    m_confirm := { status := .CONFIRMED, block_height := 120, hashBlock := 42, nIndex := 3 } }

theorem unserialize_serialize_sample :
    NoReservedKeys sample.mapValue ∧ sample.m_confirm.WellFormed ∧
      sample.unserialize (sample.serialize ++ []) =
        some ({ sample with
          m_confirm := { sample.m_confirm with block_height := 0 },
          fChangeCached := false, fInMempool := false, nChangeCached := 0 }, []) :=
  have hkeys : NoReservedKeys sample.mapValue := by
    simp [NoReservedKeys, reservedKeys, sample]
  have hc : sample.m_confirm.WellFormed := by decide
  ⟨hkeys, hc, unserialize_serialize sample sample hkeys hc []⟩

/-! ## §5. Decoding stored records. -/

/-- Whatever record is read, the decoded `Confirmation` comes out of the four-way branch
on the stored `(hashBlock, serializedIndex)`. -/
theorem unserialize_m_confirm {w₀ w : CWalletTx} {s rest : List Token}
    (h : w₀.unserialize s = some (w, rest)) :
    ∃ hash i, w.m_confirm = ({ hashBlock := hash } : Confirmation).decode i := by
  simp only [unserialize] at h
  obtain ⟨_, _, -, h⟩ := bind_eq_some h
  obtain ⟨hash, _, -, h⟩ := bind_eq_some h
  obtain ⟨_, _, -, h⟩ := bind_eq_some h
  obtain ⟨i, _, -, h⟩ := bind_eq_some h
  repeat obtain ⟨_, _, -, h⟩ := bind_eq_some h
  simp only [pure_apply, Option.some.injEq, Prod.mk.injEq] at h
  exact ⟨hash, i, h.1 ▸ rfl⟩

/-- **Every stored record decodes to the status invariant, or to the one exception**: a
`CONFLICTED` transaction with a null block hash (from the pair `(null, -1)`). -/
theorem unserialize_statusInvariant {w₀ w : CWalletTx} {s rest : List Token}
    (h : w₀.unserialize s = some (w, rest)) :
    w.m_confirm.StatusInvariant ∨
      (w.m_confirm.status = .CONFLICTED ∧ w.m_confirm.hashBlock = 0) := by
  obtain ⟨hash, i, hc⟩ := unserialize_m_confirm h
  rw [hc]
  by_cases hleg : i = -1 ∧ hash = 0
  · obtain ⟨rfl, rfl⟩ := hleg
    exact .inr ⟨rfl, rfl⟩
  · exact .inl (Confirmation.decode_statusInvariant hash i hleg)

/-- The record an older wallet stored for an unconfirmed transaction: a null block hash
and the index `-1`. -/
def legacyUnconfirmedRecord : List Token :=
  [.tx ⟨[]⟩, .w256 0, .compactSize 0, .w32 (-1), .compactSize 0, .compactSize 0,
    .compactSize 0, .w32 0, .w32 0, .w8 0, .w8 0]

theorem unserialize_statusInvariant_legacy :
    ({ status := .CONFLICTED } : Confirmation).StatusInvariant ∨
      (({ status := .CONFLICTED } : Confirmation).status = .CONFLICTED ∧
        ({ status := .CONFLICTED } : Confirmation).hashBlock = 0) :=
  @unserialize_statusInvariant sample
    { sample.init with tx := ⟨[]⟩, m_confirm := { status := .CONFLICTED } }
    legacyUnconfirmedRecord [] rfl

/-- **The legacy record decodes to a `CONFLICTED` transaction with a NULL block hash**,
breaking the status invariant. -/
theorem unserialize_legacy_unconfirmed (w₀ : CWalletTx) :
    (w₀.unserialize legacyUnconfirmedRecord).map (fun r => r.1.m_confirm) =
        some { status := .CONFLICTED, hashBlock := 0 } ∧
      ¬ ({ status := .CONFLICTED, hashBlock := 0 } : Confirmation).StatusInvariant :=
  ⟨rfl, by decide⟩

/-! ## §6. Loading normalises once. -/

/-- The shape of every record `Unserialize` produces: none of the reserved keys left in
`mapValue`, a `Confirmation` the sentinel pair tells apart, no block height (it is not
stored), and the caches `Init` reset. -/
structure Loaded (w : CWalletTx) : Prop where
  noReservedKeys : NoReservedKeys w.mapValue
  wellFormed : w.m_confirm.WellFormed
  block_height : w.m_confirm.block_height = 0
  fChangeCached : w.fChangeCached = false
  fInMempool : w.fInMempool = false
  nChangeCached : w.nChangeCached = 0

/-- Whatever record is read, the result is `finishUnserialize` of an object whose
`Confirmation` holds only the hash read and whose caches `Init` reset. -/
theorem unserialize_eq_finish {w₀ w : CWalletTx} {s rest : List Token}
    (h : w₀.unserialize s = some (w, rest)) :
    ∃ (w' : CWalletTx) (hash : BitVec 256) (i : BitVec 32),
      w'.m_confirm = { hashBlock := hash } ∧ w'.fChangeCached = false ∧
        w'.fInMempool = false ∧ w'.nChangeCached = 0 ∧ w = finishUnserialize w' i := by
  simp only [unserialize] at h
  obtain ⟨_, _, -, h⟩ := bind_eq_some h
  obtain ⟨hash, _, -, h⟩ := bind_eq_some h
  obtain ⟨_, _, -, h⟩ := bind_eq_some h
  obtain ⟨i, _, -, h⟩ := bind_eq_some h
  repeat obtain ⟨_, _, -, h⟩ := bind_eq_some h
  simp only [pure_apply, Option.some.injEq, Prod.mk.injEq] at h
  exact ⟨_, hash, i, rfl, rfl, rfl, rfl, h.1.symm⟩

theorem finishUnserialize_noReservedKeys (w : CWalletTx) (i : BitVec 32) :
    NoReservedKeys (finishUnserialize w i).mapValue := by
  rw [finishUnserialize_eq]
  intro k hk
  simp only [reservedKeys, List.mem_cons, List.mem_singleton, List.not_mem_nil, or_false] at hk
  rcases hk with rfl | rfl | rfl | rfl <;> simp

/-- **Every loaded record is `Loaded`**, the legacy ones included. -/
theorem unserialize_loaded {w₀ w : CWalletTx} {s rest : List Token}
    (h : w₀.unserialize s = some (w, rest)) : Loaded w := by
  obtain ⟨w', hash, i, hc, h₁, h₂, h₃, rfl⟩ := unserialize_eq_finish h
  obtain ⟨hwf, hbh⟩ := Confirmation.decode_wellFormed hash i
  have hk := finishUnserialize_noReservedKeys w' i
  rw [finishUnserialize_eq] at hk ⊢
  exact ⟨hk, hc ▸ hwf, hc ▸ hbh, h₁, h₂, h₃⟩

/-- `nOrderPos` comes back from the written copy when `mapValue` has no `"n"` of its own. -/
theorem orderPos_mapValueCopy (w : CWalletTx) (hn : w.mapValue.find? "n" = none) :
    (w.mapValueCopy.find? "n").elim (-1) (fun s => BitVec.ofInt 64 (atoi64 s)) = w.nOrderPos := by
  rw [find?_mapValueCopy_n]
  split_ifs with hp
  · simp [hp, hn]
  · exact atoi64_orderPos _

/-- `nTimeSmart` comes back from the written copy when `mapValue` has no `"timesmart"`. -/
theorem timeSmart_mapValueCopy (w : CWalletTx) (ht : w.mapValue.find? "timesmart" = none) :
    (w.mapValueCopy.find? "timesmart").elim 0 (fun s => BitVec.ofInt 32 (atoi64 s)) =
      w.nTimeSmart := by
  rw [find?_mapValueCopy_timesmart]
  split_ifs with hs
  · simp [hs, ht]
  · exact atoi64_timeSmart _

/-- A `Loaded` transaction is a fixed point of writing and reading back. -/
theorem unserialize_serialize_of_loaded {w : CWalletTx} (hw : Loaded w) (w₀ : CWalletTx)
    (rest : List Token) : w₀.unserialize (w.serialize ++ rest) = some (w, rest) := by
  rw [unserialize_serialize_eq, finishUnserialize_eq]
  simp only [orderPos_mapValueCopy w (hw.noReservedKeys "n" (by decide)),
    timeSmart_mapValueCopy w (hw.noReservedKeys "timesmart" (by decide)),
    erase_mapValueCopy w hw.noReservedKeys, Confirmation.decode_serialized hw.wellFormed]
  obtain ⟨-, -, hbh, h₁, h₂, h₃⟩ := hw
  obtain ⟨_, _, _, _, _, _, _, _, _, _, _, ⟨⟩⟩ := w
  simp_all [init]

/-- **Loading normalises once.**  Whatever record `Unserialize` accepts, the legacy ones
included, the transaction it yields is written by `Serialize` and read back unchanged: saving
a loaded wallet and loading it again changes nothing, whatever object it is read into. -/
theorem unserialize_serialize_unserialize {w₀ w : CWalletTx} {s rest : List Token}
    (h : w₀.unserialize s = some (w, rest)) (w₁ : CWalletTx) (rest' : List Token) :
    w₁.unserialize (w.serialize ++ rest') = some (w, rest') :=
  unserialize_serialize_of_loaded (unserialize_loaded h) w₁ rest'

/-- The legacy record loads as a `CONFLICTED` transaction with a null hash, and stays one
through every later save and load. -/
theorem unserialize_serialize_unserialize_legacy :
    sample.unserialize legacyUnconfirmedRecord =
        some ({ sample.init with tx := ⟨[]⟩, m_confirm := { status := .CONFLICTED } }, []) ∧
      sample.unserialize
          (({ sample.init with tx := ⟨[]⟩, m_confirm := { status := .CONFLICTED } } :
            CWalletTx).serialize ++ []) =
        some ({ sample.init with tx := ⟨[]⟩, m_confirm := { status := .CONFLICTED } }, []) :=
  ⟨rfl, unserialize_serialize_unserialize (rfl : sample.unserialize legacyUnconfirmedRecord = _)
    sample []⟩

/-- **Exactly these records survive a save and a load.**  Writing a transaction and reading
it back restores it (up to what is not stored) if and only if `mapValue` holds none of the
reserved keys and the sentinel pair tells its `Confirmation` apart.  Any other record changes:
an unconfirmed transaction with a stale block hash reads back as confirmed, a confirmed one
with index `-1` as conflicted, a conflicted one at `ABANDON_HASH` as abandoned, and a reserved
key is dropped or read into `nOrderPos`/`nTimeSmart`. -/
theorem unserialize_serialize_iff (w w₀ : CWalletTx) (rest : List Token) :
    w₀.unserialize (w.serialize ++ rest) =
        some ({ w with
          m_confirm := { w.m_confirm with block_height := 0 },
          fChangeCached := false, fInMempool := false, nChangeCached := 0 }, rest) ↔
      NoReservedKeys w.mapValue ∧ w.m_confirm.WellFormed := by
  constructor
  · intro h
    exact ⟨(unserialize_loaded h).noReservedKeys, (unserialize_loaded h).wellFormed⟩
  · rintro ⟨hkeys, hc⟩
    have hw : Loaded { w with
        m_confirm := { w.m_confirm with block_height := 0 },
        fChangeCached := false, fInMempool := false, nChangeCached := 0 } :=
      ⟨hkeys, hc, rfl, rfl, rfl, rfl⟩
    exact unserialize_serialize_of_loaded hw w₀ rest

/-- `setUnconfirmed()` keeps the block hash: saved and loaded, the transaction is confirmed. -/
example :
    (sample.unserialize ({ sample.init with
      m_confirm := ({ status := .CONFIRMED, hashBlock := 42, nIndex := 3 } : Confirmation).setUnconfirmed
      }.serialize ++ [])).map (fun r => r.1.m_confirm.status) = some .CONFIRMED := rfl

end CWalletTx

end YuPostWallet
