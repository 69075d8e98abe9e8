/-
  YuPostWallet.Serialize.Stream — the wallet database's serialization stream.

  Records are written with `s << x` and read with `s >> x` (or `READWRITE(x)` in a
  `SerializationOp`).  The byte encoding of each primitive belongs to the node's
  serialization library, not to the wallet code, so the stream is modelled one PRIMITIVE
  ITEM per token: a fixed-width integer (`char`/`uint8_t`/`bool`, `int`/`unsigned int`,
  `int64_t`, `uint160`, `uint256`), a `CompactSize` length, a string, a transaction.
  Containers are laid out as the library lays them out — a `CompactSize` count followed
  by the elements — so a reader that expects a different element type than the writer
  used (the wallet's legacy dummy vectors) is modelled faithfully.

  A `Reader` consumes a prefix of the stream or fails (the library throws
  `std::ios_base::failure`).

  Main results: every `Serializable` instance here is LAWFUL —
      unser (ser a ++ rest) = some (a, rest)
  for integers, `bool`, strings, transactions, pairs, vectors and `std::map`
  (`LawfulSerializable`), so round trips of whole records chain field by field.
-/
import YuPostWallet.Util.StdMap

namespace YuPostWallet

/-! ## §1. Tokens and readers. -/

/-- A transaction (`CTransactionRef`), written and read by the node's transaction
encoder; the wallet record carries it through unchanged. -/
structure CTransaction where
  payload : List (BitVec 8)
  deriving DecidableEq, Repr

/-- One primitive item of a serialization stream. -/
inductive Token where
  | compactSize (n : Nat)
  | w8 (x : BitVec 8)
  | w32 (x : BitVec 32)
  | w64 (x : BitVec 64)
  | w160 (x : BitVec 160)
  | w256 (x : BitVec 256)
  | str (s : String)
  | tx (t : CTransaction)
  deriving DecidableEq, Repr

/-- A reader: consumes a prefix of the stream, or fails. -/
def Reader (α : Type) := List Token → Option (α × List Token)

/-- Sequencing of reads (`s >> a >> b`): the second runs on what the first left. -/
def Reader.bind {α β : Type} (x : Reader α) (f : α → Reader β) : Reader β :=
  fun s => (x s).bind fun p => f p.1 p.2

instance : Monad Reader where
  pure a := fun s => some (a, s)
  bind := Reader.bind

/-- A failed read (the library throws). -/
def Reader.fail {α : Type} : Reader α := fun _ => none

/-- Read the next token. -/
def readToken : Reader Token := fun
  | [] => none
  | t :: rest => some (t, rest)

/-- Read `n` items with `r` (the element loop of a container). -/
def readN {α : Type} (r : Reader α) : Nat → Reader (List α)
  | 0 => pure []
  | n + 1 => do
    let a ← r
    let as ← readN r n
    pure (a :: as)

/-- `ReadCompactSize`: the count in front of a container. -/
def readCompactSize : Reader Nat := do
  match ← readToken with
  | .compactSize n => pure n
  | _ => .fail

/-- A vector read with element reader `r`: the count, then that many elements. -/
def readVector {α : Type} (r : Reader α) : Reader (List α) := do
  readN r (← readCompactSize)

theorem bind_apply {α β : Type} (x : Reader α) (f : α → Reader β) (s : List Token) :
    (x >>= f) s = (x s).bind fun p => f p.1 p.2 := rfl

/-- Inversion of a successful sequence of reads. -/
theorem bind_eq_some {α β : Type} {x : Reader α} {f : α → Reader β} {s : List Token}
    {r : β × List Token} (h : (x >>= f) s = some r) :
    ∃ a s', x s = some (a, s') ∧ f a s' = some r := by
  rw [bind_apply] at h
  cases hx : x s with
  | none => simp [hx] at h
  | some p => exact ⟨p.1, p.2, rfl, by simpa [hx] using h⟩

@[simp] theorem pure_apply {α : Type} (a : α) (s : List Token) :
    (pure a : Reader α) s = some (a, s) := rfl

@[simp] theorem readToken_cons (t : Token) (rest : List Token) :
    readToken (t :: rest) = some (t, rest) := rfl

@[simp] theorem readCompactSize_cons (n : Nat) (rest : List Token) :
    readCompactSize (.compactSize n :: rest) = some (n, rest) := rfl

/-! ## §2. Serializable types. -/

/-- A type with a writer and a reader (`Serialize` / `Unserialize`). -/
class Serializable (α : Type) where
  ser : α → List Token
  unser : Reader α

open Serializable

/-- The round-trip law: reading what was written gives it back and leaves the rest. -/
class LawfulSerializable (α : Type) [Serializable α] : Prop where
  unser_ser : ∀ (a : α) (rest : List Token), unser (ser a ++ rest) = some (a, rest)

attribute [simp] LawfulSerializable.unser_ser

/-- A lawful read, followed by more reads: the continuation gets the value written. -/
theorem unser_bind {α β : Type} [Serializable α] [LawfulSerializable α] (a : α)
    (f : α → Reader β) (rest : List Token) : (unser >>= f) (ser a ++ rest) = f a rest := by
  rw [bind_apply, LawfulSerializable.unser_ser]
  rfl

/-- A serializable type whose writer emits one token, read back by `sel`. -/
def Serializable.ofToken {α : Type} (mk : α → Token) (sel : Token → Option α) :
    Serializable α where
  ser a := [mk a]
  unser := do
    match sel (← readToken) with
    | some a => pure a
    | none => .fail

theorem lawful_ofToken {α : Type} (mk : α → Token) (sel : Token → Option α)
    (h : ∀ a, sel (mk a) = some a) :
    @LawfulSerializable α (Serializable.ofToken mk sel) :=
  @LawfulSerializable.mk α (Serializable.ofToken mk sel) fun a rest => by
    show (readToken >>= _) (mk a :: rest) = _
    rw [bind_apply, readToken_cons]
    simp [h]

instance : Serializable (BitVec 8) :=
  .ofToken .w8 fun | .w8 x => some x | _ => none
instance : LawfulSerializable (BitVec 8) := lawful_ofToken _ _ fun _ => rfl

instance : Serializable (BitVec 32) :=
  .ofToken .w32 fun | .w32 x => some x | _ => none
instance : LawfulSerializable (BitVec 32) := lawful_ofToken _ _ fun _ => rfl

instance : Serializable (BitVec 64) :=
  .ofToken .w64 fun | .w64 x => some x | _ => none
instance : LawfulSerializable (BitVec 64) := lawful_ofToken _ _ fun _ => rfl

instance : Serializable (BitVec 160) :=
  .ofToken .w160 fun | .w160 x => some x | _ => none
instance : LawfulSerializable (BitVec 160) := lawful_ofToken _ _ fun _ => rfl

instance : Serializable (BitVec 256) :=
  .ofToken .w256 fun | .w256 x => some x | _ => none
instance : LawfulSerializable (BitVec 256) := lawful_ofToken _ _ fun _ => rfl

instance : Serializable String :=
  .ofToken .str fun | .str s => some s | _ => none
instance : LawfulSerializable String := lawful_ofToken _ _ fun _ => rfl

instance : Serializable CTransaction :=
  .ofToken .tx fun | .tx t => some t | _ => none
instance : LawfulSerializable CTransaction := lawful_ofToken _ _ fun _ => rfl

/-- `bool` is written as one `char` (`0` or `1`) and read back as `char != 0`. -/
instance : Serializable Bool :=
  .ofToken (fun b => .w8 (if b then 1 else 0)) fun | .w8 x => some (x ≠ 0) | _ => none
instance : LawfulSerializable Bool := lawful_ofToken _ _ fun b => by cases b <;> rfl

/-! ## §3. Pairs, vectors and maps. -/

variable {α β : Type} [Serializable α] [Serializable β]

/-- `std::pair`: first, then second. -/
instance : Serializable (α × β) where
  ser p := ser p.1 ++ ser p.2
  unser := do
    let a ← unser
    let b ← unser
    pure (a, b)

instance [LawfulSerializable α] [LawfulSerializable β] : LawfulSerializable (α × β) where
  unser_ser p rest := by
    show (unser >>= _) ((ser p.1 ++ ser p.2) ++ rest) = _
    rw [bind_apply, List.append_assoc, LawfulSerializable.unser_ser]
    simp only [Option.some_bind]
    rw [bind_apply, LawfulSerializable.unser_ser]
    rfl

/-- `std::vector`: the `CompactSize` count, then the elements. -/
instance : Serializable (List α) where
  ser l := .compactSize l.length :: l.flatMap ser
  unser := readVector unser

/-- An empty vector reads back as an empty vector of ANY element type: only its count is
on the stream. -/
theorem unser_bind_nil {γ : Type} (f : List β → Reader γ) (rest : List Token) :
    (unser >>= f) (ser ([] : List α) ++ rest) = f [] rest := rfl

theorem readVector_bind_nil {γ δ : Type} (r : Reader γ) (f : List γ → Reader δ)
    (rest : List Token) : (readVector r >>= f) (ser ([] : List α) ++ rest) = f [] rest := rfl

theorem readN_flatMap [LawfulSerializable α] (l : List α) (rest : List Token) :
    readN unser l.length (l.flatMap ser ++ rest) = some (l, rest) := by
  induction l with
  | nil => rfl
  | cons a t ih =>
    simp only [List.length_cons, readN, List.flatMap_cons, List.append_assoc]
    rw [bind_apply, LawfulSerializable.unser_ser]
    simp only [Option.some_bind]
    rw [bind_apply, ih]
    rfl

instance [LawfulSerializable α] : LawfulSerializable (List α) where
  unser_ser l rest := by
    show (readCompactSize >>= fun n => readN unser n)
      (.compactSize l.length :: (l.flatMap ser ++ rest)) = _
    rw [bind_apply, readCompactSize_cons]
    exact readN_flatMap l rest

/-- `std::map`: the `CompactSize` count, then the entries in key order; the reader
inserts each entry read (`m.insert(mi, item)`). -/
instance {K V : Type} [LinearOrder K] [Serializable K] [Serializable V] :
    Serializable (StdMap K V) where
  ser m := ser m.entries
  unser := do
    let l : List (K × V) ← unser
    pure (StdMap.ofEntries l)

instance {K V : Type} [LinearOrder K] [Serializable K] [Serializable V]
    [LawfulSerializable K] [LawfulSerializable V] : LawfulSerializable (StdMap K V) where
  unser_ser m rest := by
    show (unser >>= _) (ser m.entries ++ rest) = _
    rw [bind_apply, LawfulSerializable.unser_ser]
    simp [StdMap.ofEntries_entries]

end YuPostWallet
