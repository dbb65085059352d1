import Mathlib.Data.List.Forall2
import Mathlib.Data.List.Induction
import Mathlib.Data.List.Nodup
import Lorawan.Proofs.Crypto.Kek
import Lorawan.Proofs.Text.Hex

/-!
# Sets from lists of entries

A list of entries makes a set exactly if each entry is sound and no two have one label; the set then has the
key of each entry under its label and nothing else.  Otherwise the first entry at fault decides: it is told
what is wrong with it by itself, or, if nothing is, that its label is taken.

The text of a key is read twice, once when the entry is checked and once when it is added, and the second
reading has an error of its own.  `addInSteps` writes this out; that error never comes up.

* `KekEntry.faults_eq_nil_iff`, `KekEntry.reports_of_not_isSound`: which entries are sound, and the reports
  on all others.
* `KekSet.exists_ofEntries`, `KekSet.ofEntries_eq_error_iff`: what becomes of a list.
* `KekSet.configures_by_rule`: both, in the errors of the services.
-/

namespace Lorawan

open Crypto.KeyWrap (IsKeySize)

/-! ## Single entries -/

namespace KekEntry

/-- Whether an entry may stand in a list: it has a label, and its key has the digits of 16, 24 or 32
bytes. -/
structure IsSound (e : KekEntry) : Prop where
  label : e.label ≠ ""
  digits : ∀ c ∈ e.kek.toList, Hex.IsDigit c
  size : e.kek.length = 32 ∨ e.kek.length = 48 ∨ e.kek.length = 64

/-- What is told of a text that is no key. -/
inductive KeyFault (e : KekEntry) : String → Prop
  | notHex (h : ∀ bs, ¬Hex.Writes e.kek bs) : KeyFault e "kek: kek must be hex encoded"
  | wrongSize {bs : List UInt8} (h : Hex.Writes e.kek bs) (hSize : ¬IsKeySize bs.length) :
      KeyFault e ("kek: kek must be 16, 24 or 32 bytes, got " ++ toString bs.length)

/-- What is told of a label that is missing. -/
def labelFault : String := "label: length is lower than 1"

/-- The report on an entry that is not sound. -/
inductive Reports (e : KekEntry) : String → Prop
  | key {text : String} (hLabel : e.label ≠ "") (hKey : KeyFault e text) : Reports e text
  | label {kek : List UInt8} (hLabel : e.label = "") (hKey : Hex.Writes e.kek kek)
      (hSize : IsKeySize kek.length) : Reports e labelFault
  | both {text : String} (hLabel : e.label = "") (hKey : KeyFault e text) :
      Reports e (text ++ ", " ++ labelFault)

theorem key_eq_ok_iff_writes {e : KekEntry} {kek : List UInt8} :
    e.key = .ok kek ↔ Hex.Writes e.kek kek ∧ IsKeySize kek.length := by
  rw [key_eq_ok_iff, Hex.decode?_eq_some_iff]

/-- The texts of keys by their characters. -/
theorem exists_key_eq_ok_iff {e : KekEntry} :
    (∃ kek, e.key = .ok kek) ↔ (∀ c ∈ e.kek.toList, Hex.IsDigit c) ∧
      (e.kek.length = 32 ∨ e.kek.length = 48 ∨ e.kek.length = 64) := by
  simp only [key_eq_ok_iff_writes]
  constructor
  · rintro ⟨kek, hWrites, hSize⟩
    have hLength := hWrites.length_eq
    exact ⟨hWrites.1, by omega⟩
  · rintro ⟨hDigits, hLength⟩
    obtain ⟨kek, hWrites⟩ := Hex.exists_writes_iff.mpr ⟨hDigits, by omega⟩
    have hBytes := hWrites.length_eq
    exact ⟨kek, hWrites, by omega⟩

theorem isSound_iff {e : KekEntry} : e.IsSound ↔ e.label ≠ "" ∧ ∃ kek, e.key = .ok kek := by
  rw [exists_key_eq_ok_iff]
  exact ⟨fun h => ⟨h.label, h.digits, h.size⟩, fun h => ⟨h.1, h.2.1, h.2.2⟩⟩

/-- The detail of a key that cannot be had is what is told of its text. -/
theorem keyFault_of_key_eq_error {e : KekEntry} {detail : String} (h : e.key = .error detail) :
    KeyFault e ("kek: " ++ detail) := by
  unfold key at h
  cases hHex : Hex.decode? e.kek with
  | none =>
    rw [hHex] at h
    cases h
    refine .notHex fun bs hWrites => ?_
    rw [Hex.decode?_eq_some_iff.mpr hWrites] at hHex
    cases hHex
  | some bs =>
    rw [hHex] at h
    dsimp only at h
    split_ifs at h with hSize
    cases h
    exact .wrongSize (Hex.decode?_eq_some_iff.mp hHex) hSize

theorem faults_eq_nil_iff {e : KekEntry} : e.faults = [] ↔ e.IsSound := by
  rw [isSound_iff, faults]
  cases e.key <;> simp

/-- The fields stand in the order of their names. -/
theorem text_ofFaults_pair (key label : String) :
    (FaultReport.ofFaults [⟨"kek", key⟩, ⟨"label", label⟩]).text =
      "kek: " ++ key ++ ", " ++ ("label: " ++ label) := by
  have hSorted : [FieldFault.mk "kek" key, ⟨"label", label⟩].Pairwise
      fun a b => decide (a.field ≤ b.field) = true := by
    simp
  rw [FaultReport.ofFaults, List.mergeSort_of_pairwise hSorted]
  rfl

theorem text_ofFaults_singleton (field message : String) :
    (FaultReport.ofFaults [⟨field, message⟩]).text = field ++ ": " ++ message := by
  rw [FaultReport.ofFaults, List.mergeSort_singleton]
  rfl

/-- The report on an entry says what is wrong with its key and what is wrong with its label. -/
theorem reports_of_not_isSound {e : KekEntry} (h : ¬e.IsSound) :
    e.Reports (FaultReport.ofFaults e.faults).text := by
  rw [isSound_iff, not_and_or, not_not] at h
  by_cases hLabel : e.label = ""
  · have hEmpty : e.label.isEmpty = true := String.isEmpty_iff.mpr hLabel
    cases hKey : e.key with
    | ok kek =>
      obtain ⟨hWrites, hSize⟩ := key_eq_ok_iff_writes.mp hKey
      rw [faults, hKey, if_pos hEmpty, List.nil_append, text_ofFaults_singleton]
      exact .label hLabel hWrites hSize
    | error detail =>
      rw [faults, hKey, if_pos hEmpty, List.singleton_append, text_ofFaults_pair]
      exact .both hLabel (keyFault_of_key_eq_error hKey)
  · have hEmpty : ¬e.label.isEmpty = true := fun hEmpty => hLabel (String.isEmpty_iff.mp hEmpty)
    cases hKey : e.key with
    | ok kek => exact absurd ⟨kek, hKey⟩ (h.resolve_left hLabel)
    | error detail =>
      rw [faults, hKey, if_neg hEmpty, List.append_nil, text_ofFaults_singleton]
      exact .key hLabel (keyFault_of_key_eq_error hKey)

end KekEntry

/-! ## The first entry at fault -/

namespace KekSet

/-- Whether the entries of a list are sound and have different labels. -/
structure AllSound (entries : List KekEntry) : Prop where
  sound : ∀ e ∈ entries, e.IsSound
  distinct : (entries.map KekEntry.label).Nodup

/-- What is wrong with an entry behind others: something by itself, or else that its label is taken. -/
inductive AtFault (earlier : List KekEntry) (e : KekEntry) : KekSetError → Prop
  | invalid (h : ¬e.IsSound) : AtFault earlier e (.invalidEntry (.ofFaults e.faults))
  | duplicate (h : e.IsSound) (hTaken : e.label ∈ earlier.map KekEntry.label) :
      AtFault earlier e (.duplicateLabel e.label)

theorem allSound_concat_iff {earlier : List KekEntry} {e : KekEntry} :
    AllSound (earlier ++ [e]) ↔
      AllSound earlier ∧ e.IsSound ∧ e.label ∉ earlier.map KekEntry.label := by
  constructor
  · rintro ⟨hSound, hDistinct⟩
    rw [List.map_append, List.nodup_append] at hDistinct
    refine ⟨⟨fun e' he' => hSound e' (List.mem_append_left _ he'), hDistinct.1⟩,
      hSound e List.mem_concat_self, fun hTaken => ?_⟩
    exact hDistinct.2.2 _ hTaken _ List.mem_cons_self rfl
  · rintro ⟨⟨hSound, hDistinct⟩, hOwn, hNew⟩
    refine ⟨List.forall_mem_append.mpr ⟨hSound, List.forall_mem_singleton.mpr hOwn⟩, ?_⟩
    rw [List.map_append]
    exact List.concat_eq_append ▸ hDistinct.concat hNew

/-- Either all entries can stay, or there is a first one that cannot. -/
theorem allSound_or_exists_atFault (entries : List KekEntry) :
    AllSound entries ∨ ∃ earlier e later err, entries = earlier ++ e :: later ∧ AllSound earlier ∧
      AtFault earlier e err := by
  induction entries using List.reverseRecOn with
  | nil => exact .inl ⟨fun _ h => absurd h List.not_mem_nil, List.nodup_nil⟩
  | append_singleton entries e ih =>
    obtain hAll | ⟨earlier, e', later, err, rfl, hAll, hFault⟩ := ih
    · by_cases hSound : e.IsSound
      · by_cases hTaken : e.label ∈ entries.map KekEntry.label
        · exact .inr ⟨entries, e, [], _, rfl, hAll, .duplicate hSound hTaken⟩
        · exact .inl (allSound_concat_iff.mpr ⟨hAll, hSound, hTaken⟩)
      · exact .inr ⟨entries, e, [], _, rfl, hAll, .invalid hSound⟩
    · exact .inr ⟨earlier, e', later ++ [e], err, by simp, hAll, hFault⟩

/-! ## Sets of entries -/

/-- Whether a set has the keys of some entries, one after the other. -/
abbrev Holds (s : KekSet) (entries : List KekEntry) : Prop :=
  List.Forall₂ (fun k e => k.1 = e.label ∧ Hex.Writes e.kek k.2) s.keys entries

variable {s s' : KekSet} {e : KekEntry} {earlier entries : List KekEntry}

theorem Holds.map_fst_eq (h : s.Holds entries) : s.keys.map Prod.fst = entries.map KekEntry.label := by
  rw [← List.forall₂_eq_eq_eq, List.forall₂_map_left_iff, List.forall₂_map_right_iff]
  exact h.imp fun _ _ hEntry => hEntry.1

/-- A label has a key exactly if it is one of the entries'. -/
theorem Holds.get?_eq_none_iff (h : s.Holds entries) {label : String} :
    s.get? label = none ↔ label ∉ entries.map KekEntry.label := by
  rw [← h.map_fst_eq, get?, List.lookup_eq_none_iff, List.mem_map]
  simp only [bne_iff_ne, ne_comm (a := label), ne_eq, not_exists, not_and]

theorem insertEntry_of_not_isSound (s : KekSet) (h : ¬e.IsSound) :
    s.insertEntry e = .error (.invalidEntry (.ofFaults e.faults)) := by
  have hFaults : e.faults ≠ [] := fun hNil => h (KekEntry.faults_eq_nil_iff.mp hNil)
  unfold insertEntry
  split
  · exact absurd ‹_› hFaults
  · rfl

theorem insertEntry_of_isSound (s : KekSet) (h : e.IsSound) :
    ∃ kek, Hex.Writes e.kek kek ∧ s.insertEntry e =
      if (s.get? e.label).isSome then .error (.duplicateLabel e.label)
      else .ok ⟨s.keys ++ [(e.label, kek)]⟩ := by
  obtain ⟨kek, hKey⟩ := (KekEntry.isSound_iff.mp h).2
  refine ⟨kek, (KekEntry.key_eq_ok_iff_writes.mp hKey).1, ?_⟩
  rw [insertEntry, hKey, KekEntry.faults_eq_nil_iff.mpr h]

/-- An entry at fault is refused behind those that are there. -/
theorem insertEntry_of_atFault {err : KekSetError} (h : s.Holds earlier) (hFault : AtFault earlier e err) :
    s.insertEntry e = .error err := by
  cases hFault with
  | invalid hSound => exact insertEntry_of_not_isSound s hSound
  | duplicate hSound hTaken =>
    obtain ⟨kek, -, hInsert⟩ := insertEntry_of_isSound s hSound
    have hHeld : (s.get? e.label).isSome := by
      rw [Option.isSome_iff_ne_none, ne_eq, h.get?_eq_none_iff, not_not]
      exact hTaken
    rw [hInsert, if_pos hHeld]

/-- A sound entry with a label of its own is added. -/
theorem exists_insertEntry (h : s.Holds earlier) (hSound : e.IsSound)
    (hNew : e.label ∉ earlier.map KekEntry.label) :
    ∃ s', s.insertEntry e = .ok s' ∧ s'.Holds (earlier ++ [e]) := by
  obtain ⟨kek, hWrites, hInsert⟩ := insertEntry_of_isSound s hSound
  have hFree : ¬(s.get? e.label).isSome := by
    rw [h.get?_eq_none_iff.mpr hNew]
    exact Bool.false_ne_true
  rw [if_neg hFree] at hInsert
  exact ⟨_, hInsert, List.rel_append h (.cons ⟨rfl, hWrites⟩ .nil)⟩

/-- From sound entries with different labels comes a set with the key of each. -/
theorem exists_ofEntries (h : AllSound entries) : ∃ s, ofEntries entries = .ok s ∧ s.Holds entries := by
  -- entries are added behind those that are there, so the induction is on the last one
  induction entries using List.reverseRecOn with
  | nil => exact ⟨empty, rfl, .nil⟩
  | append_singleton earlier e ih =>
    obtain ⟨hEarlier, hSound, hNew⟩ := allSound_concat_iff.mp h
    obtain ⟨s, hSet, hHolds⟩ := ih hEarlier
    obtain ⟨s', hInsert, hHolds'⟩ := exists_insertEntry hHolds hSound hNew
    refine ⟨s', ?_, hHolds'⟩
    rw [ofEntries] at hSet ⊢
    rw [List.foldlM_append, hSet]
    show List.foldlM insertEntry s [e] = Except.ok s'
    rw [List.foldlM_cons, hInsert]
    rfl

/-- The first entry at fault decides, whatever comes after it. -/
theorem ofEntries_of_atFault {err : KekSetError} (hAll : AllSound earlier) (hFault : AtFault earlier e err)
    (later : List KekEntry) : ofEntries (earlier ++ e :: later) = .error err := by
  obtain ⟨s, hSet, hHolds⟩ := exists_ofEntries hAll
  rw [ofEntries] at hSet ⊢
  rw [List.foldlM_append, hSet]
  show List.foldlM insertEntry s (e :: later) = Except.error err
  rw [List.foldlM_cons, insertEntry_of_atFault hHolds hFault]
  rfl

theorem exists_ofEntries_eq_ok_iff : (∃ s, ofEntries entries = .ok s) ↔ AllSound entries := by
  refine ⟨?_, fun h => (exists_ofEntries h).imp fun _ => And.left⟩
  rintro ⟨s, hSet⟩
  obtain hAll | ⟨earlier, e, later, err, rfl, hAll, hFault⟩ := allSound_or_exists_atFault entries
  · exact hAll
  · rw [ofEntries_of_atFault hAll hFault] at hSet
    cases hSet

theorem holds_of_ofEntries (h : ofEntries entries = .ok s) : s.Holds entries := by
  obtain ⟨s', hSet, hHolds⟩ := exists_ofEntries (exists_ofEntries_eq_ok_iff.mp ⟨s, h⟩)
  rw [h] at hSet
  cases hSet
  exact hHolds

theorem ofEntries_eq_error_iff {err : KekSetError} :
    ofEntries entries = .error err ↔ ∃ earlier e later, entries = earlier ++ e :: later ∧
      AllSound earlier ∧ AtFault earlier e err := by
  constructor
  · intro hSet
    obtain hAll | ⟨earlier, e, later, err', rfl, hAll, hFault⟩ := allSound_or_exists_atFault entries
    · obtain ⟨s, hOk, -⟩ := exists_ofEntries hAll
      rw [hSet] at hOk
      cases hOk
    · rw [ofEntries_of_atFault hAll hFault] at hSet
      cases hSet
      exact ⟨earlier, e, later, rfl, hAll, hFault⟩
  · rintro ⟨earlier, e, later, rfl, hAll, hFault⟩
    exact ofEntries_of_atFault hAll hFault later

theorem lookup_eq_of_forall₂ {keys : List (String × List UInt8)} {entries : List KekEntry}
    (h : List.Forall₂ (fun k e => k.1 = e.label ∧ Hex.Writes e.kek k.2) keys entries)
    (hDistinct : (entries.map KekEntry.label).Nodup) (he : e ∈ entries) :
    ∃ kek, keys.lookup e.label = some kek ∧ Hex.Writes e.kek kek := by
  induction h with
  | nil => exact absurd he List.not_mem_nil
  | @cons k e' keys entries hHead hRest ih =>
    obtain ⟨label, kek⟩ := k
    obtain ⟨rfl, hWrites⟩ := hHead
    rw [List.map_cons, List.nodup_cons] at hDistinct
    rcases List.mem_cons.mp he with rfl | hMem
    · exact ⟨kek, List.lookup_cons_self, hWrites⟩
    · -- the label of a later entry is not that of the first one
      have hOther : e.label ≠ e'.label := fun hEq => hDistinct.1 (hEq ▸ List.mem_map_of_mem hMem)
      rw [List.lookup_cons, beq_false_of_ne hOther]
      exact ih hDistinct.2 hMem

/-! ## In two readings -/

/-- Adds an entry step by step: it is checked, and then its key is read once more, which has an error of its
own; `detail` is what the reader of hexadecimal texts tells of a text. -/
def addInSteps (detail : String → String) (s : KekSet) (e : KekEntry) : Except ServiceError KekSet :=
  match e.faults with
  | [] =>
    match Hex.decode? e.kek with
    | none => .error (.crypto (.invalidKeyMaterial ("decode kek error: " ++ detail e.kek)))
    | some kek =>
      if (s.get? e.label).isSome then .error (.validation ("duplicate kek label: " ++ e.label))
      else .ok ⟨s.keys ++ [(e.label, kek)]⟩
  | faults => .error (.validation (FaultReport.ofFaults faults).text)

/-- A text that has passed the check can be read. -/
theorem addInSteps_eq (detail : String → String) (s : KekSet) (e : KekEntry) :
    addInSteps detail s e = (s.insertEntry e).mapError KekSetError.toServiceError := by
  by_cases hSound : e.IsSound
  · obtain ⟨kek, hWrites, hInsert⟩ := insertEntry_of_isSound s hSound
    rw [addInSteps, KekEntry.faults_eq_nil_iff.mpr hSound, hInsert]
    dsimp only
    rw [Hex.decode?_eq_some_iff.mpr hWrites]
    dsimp only
    split_ifs <;> rfl
  · have hFaults : e.faults ≠ [] := fun hNil => hSound (KekEntry.faults_eq_nil_iff.mp hNil)
    rw [insertEntry_of_not_isSound s hSound, addInSteps]
    split
    · exact absurd ‹_› hFaults
    · rfl

/-- The set of some entries, each of them added step by step. -/
def loadInSteps (detail : String → String) (entries : List KekEntry) : Except ServiceError KekSet :=
  entries.foldlM (addInSteps detail) empty

theorem foldlM_addInSteps_eq (detail : String → String) (entries : List KekEntry) (s : KekSet) :
    entries.foldlM (addInSteps detail) s =
      (entries.foldlM insertEntry s).mapError KekSetError.toServiceError := by
  induction entries generalizing s with
  | nil => rfl
  | cons e rest ih =>
    rw [List.foldlM_cons, List.foldlM_cons, addInSteps_eq]
    cases s.insertEntry e with
    | error err => rfl
    | ok s' => exact ih s'

/-- The error that an entry is refused with: the report on it, or that its label is taken. -/
inductive Refuses (earlier : List KekEntry) (e : KekEntry) : ServiceError → Prop
  | report {text : String} (h : e.Reports text) : Refuses earlier e (.validation text)
  | duplicate (h : e.IsSound) (hTaken : e.label ∈ earlier.map KekEntry.label) :
      Refuses earlier e (.validation ("duplicate kek label: " ++ e.label))

theorem AtFault.refuses {err : KekSetError} (h : AtFault earlier e err) :
    Refuses earlier e err.toServiceError := by
  cases h with
  | invalid hSound => exact .report (KekEntry.reports_of_not_isSound hSound)
  | duplicate hSound hTaken => exact .duplicate hSound hTaken

/-- A list of entries makes a set exactly if its entries are sound and have different labels.  The set has
one key an entry, each under the label of its entry and no other, and each of the bytes that the text of its
entry writes.  Otherwise the error is what the first entry is refused with that is not sound or whose label
is taken.  That the text of a key is read twice makes no difference: the second reading never fails. -/
theorem configures_by_rule (detail : String → String) (entries : List KekEntry) :
    ((∃ s, ofEntries entries = .ok s) ↔
      (∀ e ∈ entries, e.IsSound) ∧ (entries.map KekEntry.label).Nodup) ∧
    (∀ s, ofEntries entries = .ok s → s.size = entries.length ∧
      (∀ e ∈ entries, ∃ kek, s.get? e.label = some kek ∧ Hex.Writes e.kek kek) ∧
      ∀ label, label ∉ entries.map KekEntry.label → s.get? label = none) ∧
    (∀ err, ofEntries entries = .error err → ∃ earlier e later, entries = earlier ++ e :: later ∧
      ((∀ e' ∈ earlier, e'.IsSound) ∧ (earlier.map KekEntry.label).Nodup) ∧
      Refuses earlier e err.toServiceError) ∧
    loadInSteps detail entries = (ofEntries entries).mapError KekSetError.toServiceError ∧
    ∀ cause, loadInSteps detail entries ≠ .error (.crypto cause) := by
  have hSteps : loadInSteps detail entries = (ofEntries entries).mapError KekSetError.toServiceError :=
    foldlM_addInSteps_eq detail entries empty
  refine ⟨?_, fun s hSet => ?_, fun err hSet => ?_, hSteps, fun cause => ?_⟩
  · rw [exists_ofEntries_eq_ok_iff]
    exact ⟨fun h => ⟨h.sound, h.distinct⟩, fun h => ⟨h.1, h.2⟩⟩
  · -- the set holds what the entries say, and as the labels are distinct each finds its own
    have hHolds := holds_of_ofEntries hSet
    have hAll := exists_ofEntries_eq_ok_iff.mp ⟨s, hSet⟩
    refine ⟨hHolds.length_eq, fun e he => ?_, fun label hLabel => hHolds.get?_eq_none_iff.mpr hLabel⟩
    exact lookup_eq_of_forall₂ hHolds hAll.distinct he
  · obtain ⟨earlier, e, later, rfl, hAll, hFault⟩ := ofEntries_eq_error_iff.mp hSet
    exact ⟨earlier, e, later, rfl, ⟨hAll.sound, hAll.distinct⟩, hFault.refuses⟩
  · rw [hSteps]
    cases ofEntries entries with
    | ok s => exact nofun
    | error err => cases err <;> exact nofun

end KekSet

end Lorawan
