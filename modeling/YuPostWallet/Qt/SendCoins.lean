/-
  YuPostWallet.Qt.SendCoins — `WalletModel::sendCoins`: the order form it hands to
  `commitTransaction`, and the address-book updates for the recipients.

  Once `prepareTransaction` has succeeded, `sendCoins` collects the recipients' messages
  into the order form, commits the transaction, and then, recipient by recipient, makes the
  address book hold the recipient's label: an address the book does not know is added with
  purpose `"send"`; a known one whose label differs is relabelled, its purpose kept (the call
  passes `""`, which "means don't change purpose").

  The wallet is an interface.  `DecodeDestination` is a parameter, and the address book is
  the wallet's map from destinations to `CAddressBookData` (whose members are in the
  header).  `getAddress` reads an entry's label; `setAddressBook` is modelled from its call
  sites: `mapAddressBook[dest].SetLabel(name)`, then the purpose unless it is `""` (its body
  is not in src).  The commit, the serialized transaction and the signals are left out.
  The model's `getAddress` does not look at `CAddressBookData::IsChange()`: a wallet
  interface that reports an entry never labelled (a change entry) as unknown makes
  `sendCoins` pass purpose `"send"` for it, where the model keeps its purpose.  The results
  below are exact for books without change entries at the recipients' destinations.

  Main results:
    * `updateBook_self`, `updateBook_ne` — one recipient's update: its destination ends
      with its label, a new entry with purpose `"send"`, a known one with its purpose;
      every other destination is untouched;
    * `sendCoins_book` — after the loop, a destination some recipient pays carries the label
      of the LAST such recipient, with purpose `"send"` if the book did not know it and its
      old purpose otherwise; any other entry is unchanged.
-/
import YuPostWallet.Qt.PrepareTransaction

namespace YuPostWallet.Send

/-! ## §1. The address book. -/

/-- `CAddressBookData`. -/
structure CAddressBookData where
  m_change : Bool
  m_label : String
  purpose : String
  deriving DecidableEq, Repr

/-- `CAddressBookData() : purpose("unknown")`, with `m_change{true}` and an empty label. -/
def CAddressBookData.init : CAddressBookData := ⟨true, "", "unknown"⟩

/-- `CAddressBookData::SetLabel(label)`. -/
def CAddressBookData.SetLabel (d : CAddressBookData) (label : String) : CAddressBookData :=
  { d with m_change := false, m_label := label }

/-- `CAddressBookData::GetLabel()`. -/
def CAddressBookData.GetLabel (d : CAddressBookData) : String := d.m_label

/-- The fields of `SendCoinsRecipient` that `sendCoins` reads besides those that
`prepareTransaction` reads: the label and the message. -/
structure Recipient extends SendCoinsRecipient where
  label : String
  message : String
  deriving DecidableEq, Repr

section Book

variable {Dest : Type} [DecidableEq Dest] (DecodeDestination : String → Dest)

/-- The wallet's `mapAddressBook`. -/
abbrev AddressBook (Dest : Type) := Dest → Option CAddressBookData

/-- `m_wallet->getAddress(dest, &name, nullptr, nullptr)`: the stored label, if any. -/
def getAddress (book : AddressBook Dest) (dest : Dest) : Option String :=
  (book dest).map CAddressBookData.GetLabel

/-- `m_wallet->setAddressBook(dest, name, purpose)`. -/
def setAddressBook (book : AddressBook Dest) (dest : Dest) (name purpose : String) :
    AddressBook Dest :=
  let d := ((book dest).getD .init).SetLabel name
  Function.update book dest (some (if purpose.isEmpty then d else { d with purpose := purpose }))

/-- The body of `sendCoins`' second loop for one recipient: a new address is added with
purpose `"send"`, a known one with another label is relabelled. -/
def updateBook (book : AddressBook Dest) (rcp : Recipient) : AddressBook Dest :=
  let dest := DecodeDestination rcp.address
  match getAddress book dest with
  | none => setAddressBook book dest rcp.label "send"
  | some name => if name != rcp.label then setAddressBook book dest rcp.label "" else book

/-- `WalletModel::sendCoins`: the order form (`("Message", message)` for each non-empty
message, in order) and the address book after the recipients' updates. -/
def sendCoins (book : AddressBook Dest) (recipients : List Recipient) :
    List (String × String) × AddressBook Dest :=
  (recipients.filterMap fun rcp =>
      if rcp.message.isEmpty then none else some ("Message", rcp.message),
    recipients.foldl (updateBook DecodeDestination) book)

/-! ## §2. One recipient. -/

/-- The label and purpose of an entry. -/
def labelPurpose (d : CAddressBookData) : String × String := (d.m_label, d.purpose)

/-- A recipient's destination ends with its label; a new entry gets purpose `"send"`, a
known one keeps its purpose. -/
theorem updateBook_self (book : AddressBook Dest) (rcp : Recipient) :
    (updateBook DecodeDestination book rcp (DecodeDestination rcp.address)).map labelPurpose =
      some (rcp.label, ((book (DecodeDestination rcp.address)).map (·.purpose)).getD "send") := by
  have hs : "send".isEmpty = false := rfl
  have he : "".isEmpty = true := rfl
  unfold updateBook getAddress
  cases h : book (DecodeDestination rcp.address) with
  | none => simp [setAddressBook, h, hs, labelPurpose, CAddressBookData.SetLabel]
  | some e =>
    by_cases hl : e.m_label = rcp.label
    · simp [h, hl, labelPurpose, CAddressBookData.GetLabel]
    · simp [h, hl, he, setAddressBook, labelPurpose, CAddressBookData.GetLabel,
        CAddressBookData.SetLabel]

/-- **Frame.**  Another destination is untouched. -/
theorem updateBook_ne (book : AddressBook Dest) (rcp : Recipient) {d : Dest}
    (hd : DecodeDestination rcp.address ≠ d) : updateBook DecodeDestination book rcp d = book d := by
  unfold updateBook setAddressBook
  cases getAddress book (DecodeDestination rcp.address) with
  | none => exact Function.update_noteq hd.symm _ _
  | some name =>
    dsimp only
    by_cases hn : (name != rcp.label) = true
    · rw [if_pos hn]; exact Function.update_noteq hd.symm _ _
    · rw [if_neg hn]

/-- The purpose an entry has, `"send"` standing for a missing entry, never changes. -/
theorem updateBook_purpose (book : AddressBook Dest) (rcp : Recipient) (d : Dest) :
    ((updateBook DecodeDestination book rcp d).map (·.purpose)).getD "send" =
      ((book d).map (·.purpose)).getD "send" := by
  by_cases hd : DecodeDestination rcp.address = d
  · subst hd
    have := congrArg (Option.map Prod.snd) (updateBook_self DecodeDestination book rcp)
    simp only [Option.map_map, Option.map_some'] at this
    exact (congrArg (Option.getD · "send") this).trans rfl
  · rw [updateBook_ne DecodeDestination book rcp hd]

/-! ## §3. The loop. -/

/-- An address no recipient pays keeps its entry through the loop. -/
theorem foldl_updateBook_ne (rs : List Recipient) {d : Dest}
    (h : ∀ r ∈ rs, DecodeDestination r.address ≠ d) :
    ∀ book : AddressBook Dest, rs.foldl (updateBook DecodeDestination) book d = book d := by
  induction rs with
  | nil => exact fun _ => rfl
  | cons r rs ih =>
    intro book
    rw [List.foldl_cons, ih (fun r' hr' => h r' (List.mem_cons_of_mem _ hr')),
      updateBook_ne DecodeDestination book r (h r (List.mem_cons_self _ _))]

/-- The loop never changes an entry's purpose, `"send"` standing for a missing entry. -/
theorem foldl_updateBook_purpose (rs : List Recipient) (d : Dest) :
    ∀ book : AddressBook Dest,
      ((rs.foldl (updateBook DecodeDestination) book d).map (·.purpose)).getD "send" =
        ((book d).map (·.purpose)).getD "send" := by
  induction rs with
  | nil => exact fun _ => rfl
  | cons r rs ih => exact fun book => (ih _).trans (updateBook_purpose DecodeDestination book r d)

/-- The last recipient paying an address decides its label. -/
theorem foldl_updateBook_last (book : AddressBook Dest) (rs : List Recipient) {d : Dest}
    {r : Recipient} (h : r ∈ rs.reverse.find? fun r => DecodeDestination r.address = d) :
    (rs.foldl (updateBook DecodeDestination) book d).map labelPurpose =
      some (r.label, ((book d).map (·.purpose)).getD "send") := by
  induction rs using List.reverseRecOn with
  | nil => cases h
  | append_singleton rs r' ih =>
    rw [List.reverse_append, List.reverse_singleton, List.singleton_append] at h
    rw [List.foldl_append, List.foldl_cons, List.foldl_nil]
    by_cases hr : DecodeDestination r'.address = d
    · rw [List.find?_cons_of_pos _ (by simpa using hr)] at h
      cases h
      subst hr
      rw [updateBook_self, foldl_updateBook_purpose]
    · rw [List.find?_cons_of_neg _ (by simpa using hr)] at h
      rw [updateBook_ne DecodeDestination _ r' hr]
      exact ih h

/-- **The address book after `sendCoins`.**  An entry no recipient pays is as it was; the
destination of the LAST recipient paying it carries that recipient's label, with purpose
`"send"` if the book did not know it and its old purpose otherwise. -/
theorem sendCoins_book (book : AddressBook Dest) (rs : List Recipient) (d : Dest) :
    ((∀ r ∈ rs, DecodeDestination r.address ≠ d) →
        (sendCoins DecodeDestination book rs).2 d = book d) ∧
      ∀ r ∈ rs.reverse.find? (fun r => DecodeDestination r.address = d),
        ((sendCoins DecodeDestination book rs).2 d).map labelPurpose =
          some (r.label, ((book d).map (·.purpose)).getD "send") :=
  ⟨fun h => foldl_updateBook_ne DecodeDestination rs h book,
    fun _ h => foldl_updateBook_last DecodeDestination book rs h⟩

end Book

end YuPostWallet.Send
