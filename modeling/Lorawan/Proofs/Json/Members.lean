import Mathlib.Data.List.Dedup
import Mathlib.Data.List.Induction
import Mathlib.Tactic.SplitIfs
import Lorawan.Json.Basic

/-!
# Members set one after the other

Decoders build an object by setting one member after the other.  A name that is set again keeps its place
and loses its value, so the object has each name once, with the value that was set last.

* `lookup_setAll`, `names_setAll_perm`: which members there are after all.
* `setAll_eq_self`: nothing is lost where no name is set twice.
-/

namespace Lorawan.Json

/-! ## One member -/

theorem insertMember_of_notMem {members : List (String × Json)} {name : String} (value : Json)
    (hNew : name ∉ members.map Prod.fst) :
    insertMember members name value = members ++ [(name, value)] := by
  induction members with
  | nil => rfl
  | cons m rest ih =>
    rw [List.map_cons, List.mem_cons, not_or] at hNew
    rw [insertMember, if_neg (Ne.symm hNew.1), ih hNew.2]
    rfl

theorem map_fst_insertMember {members : List (String × Json)} {name : String} (value : Json)
    (hOld : name ∈ members.map Prod.fst) :
    (insertMember members name value).map Prod.fst = members.map Prod.fst := by
  induction members with
  | nil => exact absurd hOld List.not_mem_nil
  | cons m rest ih =>
    rw [insertMember]
    split_ifs with hName
    · rw [List.map_cons, List.map_cons, hName]
    · rw [List.map_cons, List.mem_cons, or_iff_right (Ne.symm hName)] at hOld
      rw [List.map_cons, ih hOld, List.map_cons]

theorem mem_of_mem_insertMember {members : List (String × Json)} {name : String} {value : Json}
    {m : String × Json} (h : m ∈ insertMember members name value) :
    m = (name, value) ∨ m ∈ members := by
  induction members with
  | nil => exact .inl (List.mem_singleton.mp h)
  | cons m' rest ih =>
    rw [insertMember] at h
    split_ifs at h
    · exact (List.mem_cons.mp h).imp_right (List.mem_cons_of_mem _)
    · rcases List.mem_cons.mp h with rfl | hRest
      · exact .inr List.mem_cons_self
      · exact (ih hRest).imp_right (List.mem_cons_of_mem _)

theorem nodup_insertMember {members : List (String × Json)} (name : String) (value : Json)
    (h : (members.map Prod.fst).Nodup) : ((insertMember members name value).map Prod.fst).Nodup := by
  by_cases hOld : name ∈ members.map Prod.fst
  · rwa [map_fst_insertMember value hOld]
  · rw [insertMember_of_notMem value hOld, List.map_append]
    exact List.concat_eq_append ▸ h.concat hOld

theorem lookup_cons_eq_ite (m : String × Json) (members : List (String × Json)) (name : String) :
    (m :: members).lookup name = if m.1 = name then some m.2 else members.lookup name := by
  rw [List.lookup_cons]
  split_ifs with h
  · rw [h, beq_self_eq_true]
  · rw [beq_false_of_ne (Ne.symm h)]

theorem lookup_insertMember (members : List (String × Json)) (name : String) (value : Json)
    (other : String) :
    (insertMember members name value).lookup other =
      if name = other then some value else members.lookup other := by
  induction members with
  | nil => exact lookup_cons_eq_ite (name, value) [] other
  | cons m rest ih =>
    rw [insertMember]
    by_cases hName : m.1 = name
    · rw [if_pos hName, lookup_cons_eq_ite, lookup_cons_eq_ite, hName]
      split_ifs <;> rfl
    · rw [if_neg hName, lookup_cons_eq_ite, lookup_cons_eq_ite, ih]
      by_cases hOther : m.1 = other
      · -- the member that is asked for stands before the one that is set
        rw [if_pos hOther, if_pos hOther, if_neg fun hEq => hName (hOther.trans hEq.symm)]
      · rw [if_neg hOther, if_neg hOther]

theorem mem_names_insertMember {members : List (String × Json)} {name other : String} {value : Json} :
    other ∈ (insertMember members name value).map Prod.fst ↔
      other ∈ members.map Prod.fst ∨ other = name := by
  by_cases hOld : name ∈ members.map Prod.fst
  · rw [map_fst_insertMember value hOld]
    exact ⟨.inl, fun h => h.elim id fun hEq => hEq ▸ hOld⟩
  · rw [insertMember_of_notMem value hOld, List.map_append, List.mem_append]
    exact or_congr_right List.mem_singleton

/-! ## One after the other -/

/-- The members there are after some have been set in turn. -/
def setAll (named : List (String × Json)) : List (String × Json) :=
  named.foldl (fun members m => insertMember members m.1 m.2) []

theorem setAll_concat (named : List (String × Json)) (m : String × Json) :
    setAll (named ++ [m]) = insertMember (setAll named) m.1 m.2 :=
  List.foldl_append

theorem nodup_setAll (named : List (String × Json)) : ((setAll named).map Prod.fst).Nodup := by
  induction named using List.reverseRecOn with
  | nil => exact List.nodup_nil
  | append_singleton named m ih =>
    rw [setAll_concat]
    exact nodup_insertMember m.1 m.2 ih

theorem mem_names_setAll {named : List (String × Json)} {name : String} :
    name ∈ (setAll named).map Prod.fst ↔ name ∈ named.map Prod.fst := by
  induction named using List.reverseRecOn with
  | nil => rfl
  | append_singleton named m ih =>
    rw [setAll_concat, mem_names_insertMember, ih, List.map_append, List.mem_append]
    exact or_congr_right List.mem_singleton.symm

/-- There is one member for each name that was set. -/
theorem names_setAll_perm (named : List (String × Json)) :
    ((setAll named).map Prod.fst).Perm (named.map Prod.fst).dedup := by
  rw [List.perm_ext_iff_of_nodup (nodup_setAll named) (List.nodup_dedup _)]
  intro name
  rw [mem_names_setAll, List.mem_dedup]

/-- The value of a member is what it was set to last. -/
theorem lookup_setAll (named : List (String × Json)) (name : String) :
    (setAll named).lookup name = ((named.filter (·.1 = name)).getLast?).map Prod.snd := by
  induction named using List.reverseRecOn with
  | nil => rfl
  | append_singleton named m ih =>
    rw [setAll_concat, lookup_insertMember, List.filter_append]
    split_ifs with h
    · have hLast : [m].filter (·.1 = name) = [m] := List.filter_cons_of_pos (decide_eq_true h)
      rw [hLast, List.getLast?_concat]
      rfl
    · have hOther : [m].filter (·.1 = name) = [] := List.filter_cons_of_neg (by simpa using h)
      rw [hOther, List.append_nil, ih]

/-- Where no name is set twice, the members are just those that were set. -/
theorem setAll_eq_self {named : List (String × Json)} (h : (named.map Prod.fst).Nodup) :
    setAll named = named := by
  induction named using List.reverseRecOn with
  | nil => rfl
  | append_singleton named m ih =>
    rw [List.map_append, List.nodup_append] at h
    have hNew : m.1 ∉ named.map Prod.fst := fun hOld => h.2.2 _ hOld _ List.mem_cons_self rfl
    rw [setAll_concat, ih h.1, insertMember_of_notMem m.2 hNew]

end Lorawan.Json
