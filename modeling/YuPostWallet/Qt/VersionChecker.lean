/-
  YuPostWallet.Qt.VersionChecker — `YuPostVersionChecker`: the release versions read off the
  release page, the greatest of them, and whether it is newer than the client.

  `getVersions` runs `paternVersion`, `yupost-([0-9]+\.)?([0-9]+\.)?([0-9]+)-`, over the
  page, cuts each match with `mid(5, length - 6)`, builds a `Version` from the piece and
  keeps it unless it is already in the list.  The offsets do NOT fit the seven-character
  prefix `yupost-`: the piece starts at the prefix's `t`, so `Version` gets `t-` followed by
  the dotted number.

  `Version` itself (its parser from a string, its order, its default) is declared in the
  checker's header, which is not part of this source: the model takes it as a parameter.

  Main results:
    * `versionString_match` — the piece cut from a match `yupost-v-` is `t-v`;
    * `getVersions_failing` — on the page `yupost-1.2.3-` the only version built is
      `Version("t-1.2.3")`;
    * `versionStrings_form` — on every page, every piece handed to `Version` is `t-` and a
      dotted number of one to three components;
    * `getVersions_eq_eraseDups`, `getMaxReleaseVersion_greatest` — the versions come
      without duplicates in order of first occurrence, and the maximum is the greatest.
-/
import YuPostWallet.Qt.Regex
import Mathlib.Order.MinMax
import Mathlib.Data.List.Nodup

namespace YuPostWallet.VersionChecker

open RegularExpression

/-! ## §1. The pattern and the piece cut from a match. -/

/-- The dotted number of the pattern, `([0-9]+\.)?([0-9]+\.)?([0-9]+)`. -/
def versionPart : Regex :=
  .seq (.opt (.seq (.plus Char.isDigit) (.lit ['.'])))
    (.seq (.opt (.seq (.plus Char.isDigit) (.lit ['.']))) (.plus Char.isDigit))

/-- `paternVersion`, `yupost-([0-9]+\.)?([0-9]+\.)?([0-9]+)-`. -/
def paternVersion : Regex :=
  .seq (.lit "yupost-".toList) (.seq versionPart (.lit ['-']))

/-- A match of the pattern is `yupost-`, a dotted number, and `-`. -/
theorem matches_paternVersion {m : List Char} (h : Matches paternVersion m) :
    ∃ v, m = "yupost-".toList ++ v ++ ['-'] ∧ Matches versionPart v := by
  cases h with
  | seq hp hs =>
    cases hs with
    | seq hv hd =>
      rw [(matches_lit_iff _ _).mp hp, (matches_lit_iff _ _).mp hd, ← List.append_assoc]
      exact ⟨_, rfl, hv⟩

/-- `QString::mid(position, n)`: `n` characters from `position` on, all of them when `n` is
negative or runs past the end. -/
def mid (s : List Char) (position : Nat) (n : Int) : List Char :=
  if n < 0 then s.drop position else (s.drop position).take n.toNat

/-- `match.captured().mid(5, match.captured().length() - 6)`. -/
def versionString (captured : List Char) : List Char :=
  mid captured 5 (captured.length - 6)

/-- **The cut is off by two.**  From the match `yupost-v-` the piece is `t-v`. -/
theorem versionString_match (v : List Char) :
    versionString ("yupost-".toList ++ v ++ ['-']) = "t-".toList ++ v := by
  have hlen : ((("yupost-".toList ++ v ++ ['-']).length : Int) - 6) = ((v.length + 2 : Nat) : Int) := by
    simp only [List.length_append, List.length_singleton]
    have : "yupost-".toList.length = 7 := rfl
    omega
  simp only [versionString, mid, hlen, Int.toNat_ofNat, show ¬ ((v.length + 2 : Nat) : Int) < 0 from
    by omega, if_false]
  show List.take (v.length + 2) ('t' :: '-' :: (v ++ ['-'])) = 't' :: '-' :: v
  simp

/-- The pieces handed to `Version`, one per match. -/
def versionStrings (html : List Char) : List (List Char) :=
  (globalMatch paternVersion html).map versionString

/-- **What `Version` is given.**  On every page, each piece is `t-` and a dotted number. -/
theorem versionStrings_form (html : List Char) :
    ∀ s ∈ versionStrings html, ∃ v, s = "t-".toList ++ v ∧ Matches versionPart v := by
  intro s hs
  obtain ⟨m, hm, rfl⟩ := List.mem_map.mp hs
  obtain ⟨v, rfl, hv⟩ := matches_paternVersion (mem_globalMatch hm)
  exact ⟨v, versionString_match v, hv⟩

theorem versionStrings_form_sample :
    "t-1.2.3".toList ∈ versionStrings "yupost-1.2.3-".toList ∧
      ∃ v, "t-1.2.3".toList = "t-".toList ++ v ∧ Matches versionPart v :=
  have h : "t-1.2.3".toList ∈ versionStrings "yupost-1.2.3-".toList := by decide
  ⟨h, versionStrings_form _ _ h⟩

/-! ## §2. `getVersions`. -/

section Versions

variable {Version : Type} [DecidableEq Version] (mkVersion : List Char → Version)

/-- The loop body of `getVersions`: append unless `versions.contains(version)`. -/
def appendNew (versions : List Version) (version : Version) : List Version :=
  if versions.contains version then versions else versions ++ [version]

/-- `YuPostVersionChecker::getVersions`, once the page `html` is fetched; `mkVersion` is the
constructor `Version(QString)`. -/
def getVersions (html : List Char) : List Version :=
  (globalMatch paternVersion html).foldl
    (fun versions m => appendNew versions (mkVersion (versionString m))) []

/-- On the page `yupost-1.2.3-`, the one version built is `Version("t-1.2.3")`, not
`Version("1.2.3")`. -/
theorem getVersions_failing :
    getVersions mkVersion "yupost-1.2.3-".toList = [mkVersion "t-1.2.3".toList] := by
  have h : globalMatch paternVersion "yupost-1.2.3-".toList = ["yupost-1.2.3-".toList] := by
    decide
  rw [getVersions, h]
  rfl

/-- The loop is `eraseDups`' loop: same test, the kept list reversed. -/
theorem foldl_appendNew (l acc : List Version) :
    l.foldl appendNew acc = List.eraseDups.loop l acc.reverse := by
  induction l generalizing acc with
  | nil => simp [List.eraseDups.loop]
  | cons a l ih =>
    have helem : acc.reverse.elem a = acc.contains a := by
      simp [List.elem_eq_mem, List.contains]
    rw [List.foldl_cons, List.eraseDups.loop, helem, ih, appendNew]
    cases acc.contains a
    · simp [List.reverse_append]
    · rfl

/-- `getVersions` as the loop over the versions built, one per match. -/
theorem getVersions_eq_foldl (html : List Char) :
    getVersions mkVersion html = ((versionStrings html).map mkVersion).foldl appendNew [] := by
  rw [getVersions, versionStrings, List.map_map, List.foldl_map]
  rfl

/-- **Order of first occurrence.**  `getVersions` is the versions of the matches, each kept
at its first occurrence (`List.eraseDups`). -/
theorem getVersions_eq_eraseDups (html : List Char) :
    getVersions mkVersion html = ((versionStrings html).map mkVersion).eraseDups := by
  rw [getVersions_eq_foldl, List.eraseDups, foldl_appendNew]
  rfl

theorem nodup_foldl_appendNew (l : List Version) :
    ∀ acc : List Version, acc.Nodup → (l.foldl appendNew acc).Nodup := by
  induction l with
  | nil => exact fun _ h => h
  | cons a l ih =>
    intro acc h
    apply ih
    unfold appendNew
    split
    · exact h
    · rename_i ha
      simp only [List.contains, List.elem_eq_mem, decide_eq_true_eq] at ha
      exact List.nodup_append.mpr ⟨h, List.nodup_singleton a, by simpa using ha⟩

theorem mem_foldl_appendNew (l : List Version) :
    ∀ (acc : List Version) (x : Version), x ∈ l.foldl appendNew acc ↔ x ∈ acc ∨ x ∈ l := by
  induction l with
  | nil => simp
  | cons a l ih =>
    intro acc x
    rw [List.foldl_cons, ih]
    unfold appendNew
    split
    · rename_i ha
      simp only [List.contains, List.elem_eq_mem, decide_eq_true_eq] at ha
      simp only [List.mem_cons]
      -- `a` is already listed, so meeting it again adds nothing
      refine ⟨fun h => h.imp_right .inr, ?_⟩
      rintro (h | rfl | h)
      · exact .inl h
      · exact .inl ha
      · exact .inr h
    · simp [or_assoc]

/-- **No duplicates, nothing lost.**  The versions are pairwise distinct, and a version is
listed exactly when some match builds it. -/
theorem getVersions_nodup_mem (html : List Char) :
    (getVersions mkVersion html).Nodup ∧
      ∀ v, v ∈ getVersions mkVersion html ↔ ∃ s ∈ versionStrings html, mkVersion s = v := by
  rw [getVersions_eq_foldl]
  refine ⟨nodup_foldl_appendNew _ _ List.nodup_nil, fun v => ?_⟩
  rw [mem_foldl_appendNew]
  simp

end Versions

/-! ## §3. `getMaxReleaseVersion` and `newVersionAvailable`. -/

section Latest

variable {Version : Type} [LinearOrder Version] (mkVersion : List Char → Version)

/-- `std::max_element` under `operator<`: the first of the greatest, none for no element. -/
def maxElement : List Version → Option Version
  | [] => none
  | v :: vs => some (vs.foldl (fun largest x => if largest < x then x else largest) v)

/-- `YuPostVersionChecker::getMaxReleaseVersion`, `default` being `Version()`. -/
def getMaxReleaseVersion (default : Version) (html : List Char) : Version :=
  (maxElement (getVersions mkVersion html)).getD default

/-- `YuPostVersionChecker::newVersionAvailable`: `maxReleaseVersion > currentVersion`. -/
def newVersionAvailable (default currentVersion : Version) (html : List Char) : Bool :=
  decide (currentVersion < getMaxReleaseVersion mkVersion default html)

/-- `max_element`'s step keeps the larger of the two. -/
theorem step_eq_max (a b : Version) : (if a < b then b else a) = max a b := by
  split_ifs with h
  · exact (max_eq_right h.le).symm
  · exact (max_eq_left (not_lt.mp h)).symm

theorem foldl_max_spec (vs : List Version) :
    ∀ v : Version, vs.foldl max v ∈ v :: vs ∧ ∀ x ∈ v :: vs, x ≤ vs.foldl max v := by
  induction vs with
  | nil => simp
  | cons a vs ih =>
    intro v
    obtain ⟨hmem, hall⟩ := ih (max v a)
    refine ⟨?_, fun x hx => ?_⟩
    · rcases List.mem_cons.mp hmem with hm | hm
      · rw [List.foldl_cons, hm]
        rcases max_choice v a with h | h <;> rw [h] <;> simp
      · simp [List.foldl_cons, hm]
    · have hva := hall _ (List.mem_cons_self _ _)
      rw [List.foldl_cons]
      rcases List.mem_cons.mp hx with rfl | hx
      · exact (le_max_left _ _).trans hva
      · rcases List.mem_cons.mp hx with rfl | hx
        · exact (le_max_right _ _).trans hva
        · exact hall x (List.mem_cons_of_mem _ hx)

/-- On a page with versions, the maximum is one of them and no version is greater. -/
theorem getMaxReleaseVersion_of_ne_nil (default : Version) {html : List Char}
    (h : getVersions mkVersion html ≠ []) :
    getMaxReleaseVersion mkVersion default html ∈ getVersions mkVersion html ∧
      ∀ v ∈ getVersions mkVersion html, v ≤ getMaxReleaseVersion mkVersion default html := by
  obtain ⟨v, vs, hv⟩ := List.exists_cons_of_ne_nil h
  have hfold : (vs.foldl (fun largest x => if largest < x then x else largest) v) =
      vs.foldl max v := by
    simp only [step_eq_max]
  unfold getMaxReleaseVersion
  rw [hv]
  simp only [maxElement, Option.getD_some, hfold]
  exact foldl_max_spec vs v

theorem getMaxReleaseVersion_of_nil (default : Version) {html : List Char}
    (h : getVersions mkVersion html = []) : getMaxReleaseVersion mkVersion default html = default := by
  unfold getMaxReleaseVersion
  rw [h]
  rfl

/-- **The maximum is the greatest.**  With no version on the page the result is the default
`Version()`; otherwise it is one of the versions and no version is greater. -/
theorem getMaxReleaseVersion_greatest (default : Version) (html : List Char) :
    (getVersions mkVersion html = [] → getMaxReleaseVersion mkVersion default html = default) ∧
    (getVersions mkVersion html ≠ [] →
      getMaxReleaseVersion mkVersion default html ∈ getVersions mkVersion html ∧
      ∀ v ∈ getVersions mkVersion html, v ≤ getMaxReleaseVersion mkVersion default html) :=
  ⟨getMaxReleaseVersion_of_nil mkVersion default, getMaxReleaseVersion_of_ne_nil mkVersion default⟩

/-- **When a new version is announced.**  `newVersionAvailable` holds exactly when some
version read from the page is greater than the running one; on a page with no version, when
`Version()` is. -/
theorem newVersionAvailable_iff (default currentVersion : Version) (html : List Char) :
    newVersionAvailable mkVersion default currentVersion html = true ↔
      if getVersions mkVersion html = [] then currentVersion < default
      else ∃ v ∈ getVersions mkVersion html, currentVersion < v := by
  unfold newVersionAvailable
  rw [decide_eq_true_iff]
  split_ifs with h
  · rw [getMaxReleaseVersion_of_nil mkVersion default h]
  · obtain ⟨hmem, hmax⟩ := getMaxReleaseVersion_of_ne_nil mkVersion default h
    exact ⟨fun hlt => ⟨_, hmem, hlt⟩, fun ⟨v, hv, hlt⟩ => lt_of_lt_of_le hlt (hmax v hv)⟩

end Latest

end YuPostWallet.VersionChecker
