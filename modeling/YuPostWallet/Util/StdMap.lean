/-
  YuPostWallet.Util.StdMap — `std::map<K, V>` as the in-order list of its entries.

  The wallet keeps `CWalletTx::mapValue` (a `mapValue_t`, i.e. `std::map<std::string,
  std::string>`) and serializes it by walking the tree in key order.  A map is therefore
  modelled by that walk: its entries with STRICTLY increasing keys, the order carried as a
  field so that no unsorted (or duplicate-key) map can be built.

  Operations, each the C++ member it models:
    * `find?`  — `m.find(k)` / `m.count(k)`,
    * `set`    — `m[k] = v` (insert or assign),
    * `insert` — `m.insert(hint, {k, v})` (keeps an existing entry),
    * `index`  — `m[k]` read (inserts `V()` when `k` is absent),
    * `erase`  — `m.erase(k)`.

  Main results:
    * `find?_set`, `find?_insert`, `find?_erase` — the lookup view of every update;
    * `eq_of_find?` — two maps with the same lookups are EQUAL (the sorted walk is
      canonical), so map equalities are proved key by key;
    * `ofEntries_entries` — re-inserting a map's own walk rebuilds it.
-/
import Mathlib.Data.String.Basic

namespace YuPostWallet

/-! ## §1. Entry lists. -/

namespace StdMap

variable {K V : Type} [LinearOrder K]

/-- The first value stored under `k` in an entry list. -/
def findCore (k : K) : List (K × V) → Option V
  | [] => none
  | (k', v) :: t => if k = k' then some v else findCore k t

/-- `m[k] = v` on an entry list: the entry goes to its place in key order. -/
def setCore (k : K) (v : V) : List (K × V) → List (K × V)
  | [] => [(k, v)]
  | (k', v') :: t =>
    if k < k' then (k, v) :: (k', v') :: t
    else if k = k' then (k, v) :: t
    else (k', v') :: setCore k v t

/-- `m.erase(k)` on an entry list. -/
def eraseCore (k : K) : List (K × V) → List (K × V)
  | [] => []
  | (k', v) :: t => if k = k' then t else (k', v) :: eraseCore k t

theorem findCore_eq_none {k : K} {l : List (K × V)} (h : k ∉ l.map Prod.fst) :
    findCore k l = none := by
  induction l with
  | nil => rfl
  | cons e t ih =>
    simp only [List.map_cons, List.mem_cons, not_or] at h
    simp only [findCore, if_neg h.1, ih h.2]

theorem mem_keys_setCore {k x : K} {v : V} {l : List (K × V)}
    (h : x ∈ (setCore k v l).map Prod.fst) : x = k ∨ x ∈ l.map Prod.fst := by
  induction l with
  | nil => simpa [setCore] using h
  | cons e t ih =>
    obtain ⟨k', v'⟩ := e
    simp only [setCore] at h
    split_ifs at h <;> simp only [List.map_cons, List.mem_cons] at h ⊢
    · exact h
    · tauto
    · rcases h with h | h
      · exact .inr (.inl h)
      · exact (ih h).imp_right .inr

theorem setCore_sorted (k : K) (v : V) {l : List (K × V)}
    (hl : (l.map Prod.fst).Pairwise (· < ·)) :
    ((setCore k v l).map Prod.fst).Pairwise (· < ·) := by
  induction l with
  | nil => simp [setCore]
  | cons e t ih =>
    obtain ⟨k', v'⟩ := e
    simp only [List.map_cons, List.pairwise_cons] at hl
    simp only [setCore]
    split_ifs with hlt heq
    · simp only [List.map_cons, List.pairwise_cons, List.mem_cons]
      refine ⟨?_, hl.1, hl.2⟩
      rintro x (rfl | hx)
      · exact hlt
      · exact lt_trans hlt (hl.1 x hx)
    · subst heq
      simpa using hl
    · have hk : k' < k := lt_of_le_of_ne (not_lt.mp hlt) (Ne.symm heq)
      simp only [List.map_cons, List.pairwise_cons]
      refine ⟨fun x hx => ?_, ih hl.2⟩
      rcases mem_keys_setCore hx with rfl | hx
      · exact hk
      · exact hl.1 x hx

theorem findCore_setCore (k k' : K) (v : V) (l : List (K × V)) :
    findCore k' (setCore k v l) = if k' = k then some v else findCore k' l := by
  induction l with
  | nil => simp [setCore, findCore]
  | cons e t ih =>
    obtain ⟨k₁, v₁⟩ := e
    by_cases hlt : k < k₁
    · simp only [setCore, if_pos hlt, findCore]
    by_cases heq : k = k₁
    · subst heq
      simp only [setCore, if_neg hlt, if_pos rfl]
      by_cases h : k' = k <;> simp [findCore, h]
    · simp only [setCore, if_neg hlt, if_neg heq]
      by_cases h : k' = k₁
      · subst h
        simp [findCore, Ne.symm heq]
      · simp [findCore, h, ih]

theorem findCore_eraseCore (k k' : K) {l : List (K × V)}
    (hl : (l.map Prod.fst).Pairwise (· < ·)) :
    findCore k' (eraseCore k l) = if k' = k then none else findCore k' l := by
  induction l with
  | nil => simp [eraseCore, findCore]
  | cons e t ih =>
    obtain ⟨k₁, v₁⟩ := e
    simp only [List.map_cons, List.pairwise_cons] at hl
    by_cases h₁ : k = k₁
    · subst h₁
      simp only [eraseCore, if_pos rfl]
      by_cases h : k' = k
      · subst h
        simpa using findCore_eq_none fun hm => lt_irrefl _ (hl.1 _ hm)
      · simp [findCore, h]
    · simp only [eraseCore, if_neg h₁]
      by_cases h : k' = k₁
      · subst h
        simp [findCore, Ne.symm h₁]
      · simp [findCore, h, ih hl.2]

theorem eraseCore_sublist (k : K) (l : List (K × V)) : (eraseCore k l).Sublist l := by
  induction l with
  | nil => exact List.Sublist.slnil
  | cons e t ih =>
    simp only [eraseCore]
    split_ifs
    · exact List.sublist_cons_self e t
    · exact ih.cons₂ e

end StdMap

/-! ## §2. The map. -/

/-- `std::map<K, V>`: its entries in strictly increasing key order — the order of the
tree walk, hence of iteration and serialization. -/
structure StdMap (K V : Type) [LinearOrder K] where
  entries : List (K × V)
  sorted : (entries.map Prod.fst).Pairwise (· < ·)

namespace StdMap

variable {K V : Type} [LinearOrder K]

/-- The empty map. -/
def empty : StdMap K V := ⟨[], List.Pairwise.nil⟩

theorem entries_injective {m₁ m₂ : StdMap K V} (h : m₁.entries = m₂.entries) : m₁ = m₂ := by
  cases m₁; cases m₂; cases h; rfl

instance [DecidableEq K] [DecidableEq V] : DecidableEq (StdMap K V) := fun a b =>
  decidable_of_iff (a.entries = b.entries) ⟨entries_injective, fun h => h ▸ rfl⟩

instance : Inhabited (StdMap K V) := ⟨empty⟩

/-- `m.find(k)`: the value stored under `k`, if any. -/
def find? (m : StdMap K V) (k : K) : Option V := findCore k m.entries

/-- `m.count(k)`: `1` when `k` is stored, else `0`. -/
def count (m : StdMap K V) (k : K) : Nat := if (m.find? k).isSome then 1 else 0

/-- `m[k] = v`. -/
def set (m : StdMap K V) (k : K) (v : V) : StdMap K V :=
  ⟨setCore k v m.entries, setCore_sorted k v m.sorted⟩

/-- `m.insert(hint, {k, v})`: an existing entry under `k` is kept. -/
def insert (m : StdMap K V) (k : K) (v : V) : StdMap K V :=
  if (m.find? k).isSome then m else m.set k v

/-- `m[k]` as a value: the stored value, inserting `V()` when `k` is absent. -/
def index [Inhabited V] (m : StdMap K V) (k : K) : V × StdMap K V :=
  match m.find? k with
  | some v => (v, m)
  | none => (default, m.set k default)

/-- `m.erase(k)`. -/
def erase (m : StdMap K V) (k : K) : StdMap K V :=
  ⟨eraseCore k m.entries, m.sorted.sublist ((eraseCore_sublist k _).map Prod.fst)⟩

/-- The map built by inserting `l`'s pairs in order into an empty map (as the map
deserializer does). -/
def ofEntries (l : List (K × V)) : StdMap K V :=
  l.foldl (fun m e => m.insert e.1 e.2) empty

/-! ## §3. Lookups after each update. -/

@[simp] theorem find?_empty (k : K) : (empty : StdMap K V).find? k = none := rfl

@[simp] theorem find?_set (m : StdMap K V) (k k' : K) (v : V) :
    (m.set k v).find? k' = if k' = k then some v else m.find? k' :=
  findCore_setCore k k' v m.entries

@[simp] theorem find?_insert (m : StdMap K V) (k k' : K) (v : V) :
    (m.insert k v).find? k' = (m.find? k').or (if k' = k then some v else none) := by
  unfold insert
  by_cases hk : (m.find? k).isSome
  · rw [if_pos hk]
    by_cases h : k' = k
    · subst h
      obtain ⟨w, hw⟩ := Option.isSome_iff_exists.mp hk
      simp [hw]
    · simp [h]
  · rw [if_neg hk, find?_set]
    by_cases h : k' = k
    · subst h
      simp_all
    · simp [h]

@[simp] theorem find?_erase (m : StdMap K V) (k k' : K) :
    (m.erase k).find? k' = if k' = k then none else m.find? k' :=
  findCore_eraseCore k k' m.sorted

/-! ## §4. Canonicity. -/

/-- Two strictly sorted entry lists with the same lookups are equal. -/
theorem eq_of_findCore {l₁ l₂ : List (K × V)}
    (h₁ : (l₁.map Prod.fst).Pairwise (· < ·)) (h₂ : (l₂.map Prod.fst).Pairwise (· < ·))
    (h : ∀ k, findCore k l₁ = findCore k l₂) : l₁ = l₂ := by
  induction l₁ generalizing l₂ with
  | nil =>
    cases l₂ with
    | nil => rfl
    | cons e t => have := h e.1; simp [findCore] at this
  | cons e t ih =>
    obtain ⟨k₁, v₁⟩ := e
    cases l₂ with
    | nil => have := h k₁; simp [findCore] at this
    | cons e' t' =>
      obtain ⟨k₂, v₂⟩ := e'
      simp only [List.map_cons, List.pairwise_cons] at h₁ h₂
      -- a key missing from one side would be found on the other
      have hk : k₁ = k₂ := by
        by_contra hne
        rcases lt_or_gt_of_ne hne with hlt | hgt
        · have := h k₁
          simp [findCore, hne, findCore_eq_none fun hm => lt_asymm hlt (h₂.1 _ hm)] at this
        · have := h k₂
          simp [findCore, Ne.symm hne, findCore_eq_none fun hm => lt_asymm hgt (h₁.1 _ hm)] at this
      subst hk
      have hv : v₁ = v₂ := by simpa [findCore] using h k₁
      have ht : ∀ k, findCore k t = findCore k t' := by
        intro k
        by_cases hk : k = k₁
        · subst hk
          rw [findCore_eq_none fun hm => lt_irrefl _ (h₁.1 _ hm),
            findCore_eq_none fun hm => lt_irrefl _ (h₂.1 _ hm)]
        · simpa [findCore, hk] using h k
      rw [hv, ih h₁.2 h₂.2 ht]

/-- **Canonicity.**  Maps are equal as soon as they agree on every lookup. -/
theorem eq_of_find? {m₁ m₂ : StdMap K V} (h : ∀ k, m₁.find? k = m₂.find? k) : m₁ = m₂ :=
  entries_injective (eq_of_findCore m₁.sorted m₂.sorted h)

theorem find?_foldl_insert (l : List (K × V)) (m : StdMap K V) (k : K) :
    (l.foldl (fun m e => m.insert e.1 e.2) m).find? k = (m.find? k).or (findCore k l) := by
  induction l generalizing m with
  | nil => simp [findCore]
  | cons e t ih =>
    rw [List.foldl_cons, ih, find?_insert, Option.or_assoc, findCore]
    split_ifs <;> rfl

/-- Inserting a map's own walk into an empty map rebuilds the map. -/
theorem ofEntries_entries (m : StdMap K V) : ofEntries m.entries = m :=
  eq_of_find? fun k => by rw [ofEntries, find?_foldl_insert, find?_empty, Option.none_or]; rfl

end StdMap

end YuPostWallet
