import Lorawan.Proofs.Codec.Conversion

/-!
# Documents as values of scripts and back

A script sees a document as a value and gives a value back.  A document is proper when it is one that can
be read at all (`Json.IsProper`); nothing of such a document is lost on the way: not the sign or the range
of an integer, nor whether a number is an integer or a double, nor a member.

The entries of a map have no order that can be relied on.  So the value may come back with the entries of
any of its maps in another order (`Value.Same`), and then the document does so with its members
(`Json.Same`), and with nothing else.

* `Value.toJson?_ofJson`: a proper document comes back as it was.
* `Value.exists_toJson?_of_same`: with the entries in another order, it does up to the order of members.
-/

namespace Lorawan

/-! ## Documents -/

namespace Json

/-- A document that can be read: its integers have 64 bits, with a sign or without, its doubles are
finite, and its objects name each member once. -/
inductive IsProper : Json → Prop
  | null : IsProper .null
  | bool (b : Bool) : IsProper (.bool b)
  | int {n : Int} (hLow : Int64.minValue.toInt ≤ n) (hHigh : n < UInt64.size) : IsProper (.int n)
  | float {x : Float} (hFinite : x.isFinite = true) : IsProper (.float x)
  | text (s : String) : IsProper (.text s)
  | array {items : List Json} (hItems : ∀ j ∈ items, IsProper j) : IsProper (.array items)
  | object {members : List (String × Json)} (hNames : (members.map Prod.fst).Nodup)
      (hMembers : ∀ m ∈ members, IsProper m.2) : IsProper (.object members)

/-- An object with one member more, or with another value for a member, is proper if the value is. -/
theorem insertMember_isProper {members : List (String × Json)} {value : Json} (name : String)
    (h : (Json.object members).IsProper) (hValue : value.IsProper) :
    (Json.object (insertMember members name value)).IsProper := by
  obtain ⟨hNames, hMembers⟩ :
      (members.map Prod.fst).Nodup ∧ ∀ m ∈ members, m.2.IsProper := by
    cases h with
    | object hNames hMembers => exact ⟨hNames, hMembers⟩
  refine .object (nodup_insertMember name value hNames) fun m hm => ?_
  rcases mem_of_mem_insertMember hm with rfl | hOld
  · exact hValue
  · exact hMembers m hOld

end Json

namespace Script

theorem insertEntry_of_notMem {entries : List (Key × Value)} {key : Key} (value : Value)
    (hNew : key ∉ entries.map Prod.fst) :
    insertEntry entries key value = entries ++ [(key, value)] := by
  induction entries with
  | nil => rfl
  | cons e rest ih =>
    rw [List.map_cons, List.mem_cons, not_or] at hNew
    rw [insertEntry, if_neg (Ne.symm hNew.1), ih hNew.2]
    rfl

namespace Value

/-! ## From documents -/

theorem ofJsonItems_eq_map (items : List Json) : ofJsonItems items = items.map ofJson := by
  induction items with
  | nil => rfl
  | cons j rest ih => rw [ofJsonItems, ih, List.map_cons]

/-- The entry that a member becomes. -/
def entryOf (m : String × Json) : Key × Value := (.text m.1, ofJson m.2)

theorem map_fst_entryOf (members : List (String × Json)) :
    (members.map entryOf).map Prod.fst = (members.map Prod.fst).map Key.text := by
  rw [List.map_map, List.map_map]
  rfl

theorem map_snd_entryOf (members : List (String × Json)) :
    (members.map entryOf).map Prod.snd = (members.map Prod.snd).map ofJson := by
  rw [List.map_map, List.map_map]
  rfl

/-- Members with different names become as many entries, in their order. -/
theorem ofJsonMembers_eq_append {entries : List (Key × Value)} {members : List (String × Json)}
    (h : ((entries ++ members.map entryOf).map Prod.fst).Nodup) :
    ofJsonMembers entries members = entries ++ members.map entryOf := by
  induction members generalizing entries with
  | nil => exact (List.append_nil entries).symm
  | cons m rest ih =>
    have hNew : Key.text m.1 ∉ entries.map Prod.fst := by
      intro hMem
      rw [List.map_append] at h
      exact (List.nodup_append.mp h).2.2 _ hMem _ List.mem_cons_self rfl
    rw [List.map_cons, List.append_cons] at h ⊢
    rw [ofJsonMembers, insertEntry_of_notMem _ hNew]
    exact ih h

theorem ofJson_object {members : List (String × Json)} (hNames : (members.map Prod.fst).Nodup) :
    ofJson (.object members) = .map (members.map entryOf) := by
  have hKeys : (([] ++ members.map entryOf).map Prod.fst).Nodup := by
    rw [List.nil_append, map_fst_entryOf]
    exact hNames.map fun _ _ h => Key.text.inj h
  rw [ofJson, ofJsonMembers_eq_append hKeys, List.nil_append]

theorem parts_ofJsonInt (n : Int) : (ofJsonInt n).parts = [] := by
  unfold ofJsonInt
  split_ifs <;> rfl

/-! ## There and back -/

/-- An integer of 64 bits comes back, with a sign or without. -/
theorem toJson?_ofJsonInt {n : Int} (hLow : Int64.minValue.toInt ≤ n) (hHigh : n < UInt64.size) :
    (ofJsonInt n).toJson? = some (.int n) := by
  unfold ofJsonInt
  have hMin : Int64.minValue.toInt = -2 ^ 63 := rfl
  have hMax : Int64.maxValue.toInt = 2 ^ 63 - 1 := rfl
  have hSize : UInt64.size = 2 ^ 64 := rfl
  split_ifs with hSigned hUnsigned
  · have hBack : (Int64.ofInt n).toInt = n := Int64.toInt_ofInt_of_le (by omega) (by omega)
    rw [toJson?, Json.ofInt64, hBack]
  · have hBack : ((UInt64.ofNat n.toNat).toNat : Int) = n := by
      rw [UInt64.toNat_ofNat_of_lt' (by omega)]
      omega
    rw [toJson?, hBack]
  · -- an integer that fits neither way has more than 64 bits
    omega

theorem toJson?_ofJson {j : Json} (h : j.IsProper) : (ofJson j).toJson? = some j := by
  induction h with
  | null => rfl
  | bool => rfl
  | int hLow hHigh => exact toJson?_ofJsonInt hLow hHigh
  | float hFinite => rw [ofJson, toJson?, if_pos hFinite]
  | text => rfl
  | array hItems ih =>
    rw [ofJson, ofJsonItems_eq_map]
    exact hasDocument_list_iff.mpr
      ⟨_, List.forall₂_map_left_iff.mpr (List.forall₂_same.mpr ih), rfl⟩
  | @object members hNames hMembers ih =>
    rw [ofJson_object hNames]
    have hSets : List.Forall₂ Sets (members.map entryOf) members :=
      List.forall₂_map_left_iff.mpr (List.forall₂_same.mpr fun m hm => ⟨rfl, ih m hm⟩)
    exact hasDocument_map_iff.mpr ⟨members, hSets, by rw [Json.setAll_eq_self hNames]⟩

/-! ## In another order -/

theorem names_entryOf (members : List (String × Json)) :
    names (members.map entryOf) = members.map Prod.fst := by
  rw [names, map_fst_entryOf, List.map_map]
  exact List.map_id _

/-- The keys of a document's value are texts, which are the names they ask for. -/
theorem not_clashes_ofJson {j : Json} (h : j.IsProper) : ¬(ofJson j).Clashes := by
  induction h with
  | int => exact not_clashes_of_parts_eq_nil (parts_ofJsonInt _)
  | array hItems ih =>
    rw [ofJson, ofJsonItems_eq_map, not_clashes_list_iff]
    exact List.forall_mem_map.mpr ih
  | object hNames hMembers ih =>
    rw [ofJson_object hNames, not_clashes_map_iff, names_entryOf, map_snd_entryOf, List.map_map]
    exact ⟨hNames, List.forall_mem_map.mpr ih⟩
  | _ => exact not_clashes_of_parts_eq_nil rfl

/-- A proper document comes back up to the order of members, whatever the order of entries. -/
theorem exists_toJson?_of_same {j : Json} (h : j.IsProper) :
    ∀ w, (ofJson j).Same w → ∃ k, w.toJson? = some k ∧ j.Same k :=
  exists_hasDocument_of_same _ (not_clashes_ofJson h) j (toJson?_ofJson h)

end Value

end Script

end Lorawan
