import Lorawan.Proofs.Service.Rows
import Lorawan.Proofs.Store.Lookup

/-!
# The slice of a store that concerns one device

Devices share one list of activations and one numbering, and apart from that no device has to do with the
others.  The *slice* of a device holds its row, its activations without their numbers, and what no call
changes.

* **Sessions**: the newest activation of a device is known from its slice, up to the number, as long as
  the numbers increase along the list (`Store.newest_unnumbered`), which they do in a store that was built
  by its own operations.
* **Calls**: `Call.IsOf` says which calls are about a device.  They leave the slices of all other devices
  as they are, whether they fail or not (`World.answer_slice_other`), and their answers fit the
  registration of the device (`World.answer_fits`).  When nothing fails, slice and clock determine the
  answer, up to numbers (`World.answer_slice_own`).
-/

namespace Lorawan

/-- An activation without its number. -/
def Activation.unnumbered (a : Activation) : Activation := { a with id := 0 }

/-- Between activations with increasing numbers the time decides, and the later one wins a draw. -/
theorem Activation.le_of_id_lt {a b : Activation} (h : a.id < b.id) :
    a.le b = true ↔ a.createdAt ≤ b.createdAt := by
  rw [Activation.le_iff]
  constructor
  · rintro (⟨hTime, -⟩ | ⟨-, hTime⟩)
    · rw [hTime]
      exact Time.Instant.le_refl b.createdAt
    · exact hTime
  · intro hTime
    by_cases hSame : a.createdAt = b.createdAt
    · exact Or.inl ⟨hSame, Nat.le_of_lt h⟩
    · exact Or.inr ⟨hSame, hTime⟩

namespace Store

/-! ## Activations without numbers -/

/-- Whether the numbers of activations increase along a list. -/
def Ascending (as : List Activation) : Prop := as.Pairwise fun a b => a.id < b.id

theorem newerOf_of_id_lt {a b : Activation} (h : b.id < a.id) :
    newerOf (some b) a = if b.createdAt ≤ a.createdAt then some a else some b :=
  if_congr (Activation.le_of_id_lt h) rfl rfl

/-- Of two lists that agree up to numbers the same activation is kept, if the numbers increase along
both. -/
theorem foldl_newerOf_unnumbered {as as' : List Activation} {best best' : Option Activation}
    (hList : as'.map Activation.unnumbered = as.map Activation.unnumbered)
    (hBest : best'.map Activation.unnumbered = best.map Activation.unnumbered)
    (h : Ascending (best.toList ++ as)) (h' : Ascending (best'.toList ++ as')) :
    (as'.foldl newerOf best').map Activation.unnumbered =
      (as.foldl newerOf best).map Activation.unnumbered := by
  -- what was kept so far comes before the rest of its list, so that only the times decide
  induction as generalizing as' best best' with
  | nil =>
    obtain rfl : as' = [] := List.map_eq_nil_iff.mp hList
    exact hBest
  | cons a as ih =>
    obtain ⟨a', as', rfl, hFirst, hRest⟩ := List.map_eq_cons_iff.mp hList
    have hTime : a'.unnumbered.createdAt = a.unnumbered.createdAt := by rw [hFirst]
    have hTime : a'.createdAt = a.createdAt := hTime
    have hKept : (some a').map Activation.unnumbered = (some a).map Activation.unnumbered :=
      congrArg some hFirst
    cases best with
    | none =>
      obtain rfl : best' = none := by simpa using hBest
      show (as'.foldl newerOf (some a')).map _ = (as.foldl newerOf (some a)).map _
      exact ih hRest hKept h h'
    | some b =>
      obtain ⟨b', rfl, hb⟩ : ∃ b', best' = some b' ∧ b'.unnumbered = b.unnumbered := by
        simpa using hBest
      have hTimeBest : b'.unnumbered.createdAt = b.unnumbered.createdAt := by rw [hb]
      have hTimeBest : b'.createdAt = b.createdAt := hTimeBest
      have hBefore : b.id < a.id := (List.pairwise_cons.mp h).1 a List.mem_cons_self
      have hBefore' : b'.id < a'.id := (List.pairwise_cons.mp h').1 a' List.mem_cons_self
      rw [List.foldl_cons, List.foldl_cons, newerOf_of_id_lt hBefore, newerOf_of_id_lt hBefore',
        hTimeBest, hTime]
      split_ifs
      · exact ih hRest hKept (List.pairwise_cons.mp h).2 (List.pairwise_cons.mp h').2
      · have hSkip : ∀ {x y : Activation} {xs : List Activation},
            Ascending (x :: y :: xs) → Ascending (x :: xs) := fun hAll =>
          hAll.sublist ((List.sublist_cons_self _ _).cons_cons _)
        exact ih hRest hBest (hSkip h) (hSkip h')

theorem newest_unnumbered {as as' : List Activation}
    (hList : as'.map Activation.unnumbered = as.map Activation.unnumbered)
    (h : Ascending as) (h' : Ascending as') :
    (newest as').map Activation.unnumbered = (newest as).map Activation.unnumbered :=
  foldl_newerOf_unnumbered hList rfl h h'

variable {s s' : Store} {id : Eui64}

theorem IsBuilt.ascending (h : s.IsBuilt) (id : Eui64) : Ascending (s.activationsOf id) := by
  have hAll : Ascending s.activations := by
    unfold Ascending
    rw [← List.pairwise_map (f := Activation.id) (R := (· < ·)), h.ids]
    exact List.pairwise_lt_range'
  exact hAll.filter _

/-! ## Registered rows -/

/-- In a store that was built by its own operations a row stands under what its device is called. -/
theorem IsBuilt.devEui_eq (h : s.IsBuilt) {d : Device} (hRow : s.getDevice id = some d) :
    d.devEui = id := by
  induction h generalizing d with
  | empty => cases hRow
  | @insertDevice s _ d' ih =>
    have hRow : (s.devices.insert d'.devEui d').get? id = some d := hRow
    rw [Table.get?_insert] at hRow
    by_cases hId : id = d'.devEui
    · rw [if_pos hId] at hRow
      rw [← Option.some.inj hRow, hId]
    · rw [if_neg hId] at hRow
      exact ih hRow
  | insertApplication _ a ih => exact ih hRow
  | insertGateway _ g ih => exact ih hRow
  | insertActivation _ devEui devAddr appSKey createdAt ih => exact ih hRow
  | @updateDevice s _ devEui mutation ih =>
    -- an update leaves the address of the row as it is
    have hSame := s.updateDevice_devEui devEui mutation id
    rw [hRow] at hSame
    obtain ⟨d', hRow', hEui⟩ := Option.map_eq_some_iff.mp hSame.symm
    rw [← hEui]
    exact ih hRow'

theorem IsBuilt.application_id_eq (h : s.IsBuilt) {i : Int64} {a : Application}
    (hRow : s.getApplication i = some a) : a.id = i := by
  induction h with
  | empty => cases hRow
  | @insertApplication s _ a' ih =>
    have hRow : (s.applications.insert a'.id a').get? i = some a := hRow
    rw [Table.get?_insert] at hRow
    by_cases hId : i = a'.id
    · rw [if_pos hId] at hRow
      rw [← Option.some.inj hRow, hId]
    · rw [if_neg hId] at hRow
      exact ih hRow
  | updateDevice _ devEui mutation ih =>
    unfold getApplication at hRow
    rw [updateDevice_applications] at hRow
    exact ih hRow
  | _ => exact ‹_ → _› hRow

/-- Whether two stores have the same applications, and the same devices as far as they belong to these. -/
structure SameSetting (s s' : Store) : Prop where
  applications : s'.applications = s.applications
  devices : ∀ id, (s'.getDevice id).map (fun d => (d.devEui, d.applicationId)) =
    (s.getDevice id).map fun d => (d.devEui, d.applicationId)

/-- Whether a record is that of a registered device, as far as it belongs to an application. -/
def Registers (s : Store) (id : Eui64) (d : Device) : Prop :=
  d.devEui = id ∧ ∃ row, s.getDevice id = some row ∧ d.applicationId = row.applicationId

theorem SameSetting.registers (h : s.SameSetting s') (hBuilt : s.IsBuilt) {d : Device}
    (hRow : s'.getDevice id = some d) : s.Registers id d := by
  have hDevice := h.devices id
  rw [hRow] at hDevice
  obtain ⟨row, hRow', hSame⟩ := Option.map_eq_some_iff.mp hDevice.symm
  obtain ⟨hEui, hApplication⟩ := Prod.mk.inj hSame
  exact ⟨hEui.symm.trans (hBuilt.devEui_eq hRow'), row, hRow', hApplication.symm⟩

/-- A mutation changes nothing of what a device is registered as. -/
theorem Registers.apply {d : Device} (h : s.Registers id d) (mutation : DeviceMutation) :
    s.Registers id (d.apply mutation) := by
  unfold Registers
  rw [Device.apply_devEui, Device.apply_applicationId]
  exact h

/-! ## Slices -/

/-- What a store holds that concerns one device. -/
structure Slice where
  row : Option Device
  activations : List Activation
  applications : Table Int64 Application
  gateways : Table Eui64 Gateway

/-- The slice of a device: its row and its activations without their numbers, with all applications and
gateways. -/
def slice (s : Store) (id : Eui64) : Slice :=
  ⟨s.getDevice id, (s.activationsOf id).map Activation.unnumbered, s.applications, s.gateways⟩

theorem getDevice_of_slice (h : s'.slice id = s.slice id) : s'.getDevice id = s.getDevice id :=
  congrArg Slice.row h

theorem activationsOf_of_slice (h : s'.slice id = s.slice id) :
    (s'.activationsOf id).map Activation.unnumbered = (s.activationsOf id).map Activation.unnumbered :=
  congrArg Slice.activations h

theorem getApplication_of_slice (h : s'.slice id = s.slice id) (i : Int64) :
    s'.getApplication i = s.getApplication i := by
  have hApplications : s'.applications = s.applications := congrArg Slice.applications h
  unfold getApplication
  rw [hApplications]

theorem getGateways_of_slice (h : s'.slice id = s.slice id) (ids : List Eui64) :
    s'.getGateways ids = s.getGateways ids := by
  have hGateways : s'.gateways = s.gateways := congrArg Slice.gateways h
  unfold getGateways
  rw [hGateways]

/-- The device that a change finds is known from the slice. -/
theorem updateDevice_of_slice (h : s'.slice id = s.slice id) (mutation : DeviceMutation) :
    (s'.updateDevice id mutation).1 = (s.updateDevice id mutation).1 := by
  unfold updateDevice
  rw [getDevice_of_slice h]
  split <;> rfl

/-- The session of a device is known from its slice. -/
theorem lastActivation_of_slice (h : s'.slice id = s.slice id) (hs : s.IsBuilt) (hs' : s'.IsBuilt) :
    (s'.lastActivation id).map Activation.unnumbered =
      (s.lastActivation id).map Activation.unnumbered :=
  newest_unnumbered (activationsOf_of_slice h) (hs.ascending id) (hs'.ascending id)

theorem slice_updateDevice (s : Store) (id : Eui64) (mutation : DeviceMutation) :
    (s.updateDevice id mutation).2.slice id =
      { s.slice id with row := (s.getDevice id).map (·.apply mutation) } := by
  unfold updateDevice
  cases hRow : s.getDevice id with
  | none => simp [slice, hRow]
  | some d =>
    have hNew : (s.devices.insert id (d.apply mutation)).get? id = some (d.apply mutation) :=
      Table.get?_insert_self _ _ _
    simp only [slice, getDevice, hNew]
    rfl

theorem getDevice_updateDevice_other {devEui : Eui64} (s : Store) (hId : devEui ≠ id)
    (mutation : DeviceMutation) :
    (s.updateDevice devEui mutation).2.getDevice id = s.getDevice id := by
  unfold updateDevice
  cases hRow : s.getDevice devEui with
  | none => rfl
  | some d =>
    show (s.devices.insert devEui (d.apply mutation)).get? id = s.devices.get? id
    rw [Table.get?_insert, if_neg (Ne.symm hId)]

theorem slice_insertActivation (s : Store) (id : Eui64) (devAddr : DevAddr) (appSKey : Aes128Key)
    (createdAt : Time.Instant) :
    (s.insertActivation id devAddr appSKey createdAt).2.slice id =
      { s.slice id with
        activations := (s.slice id).activations ++ [⟨0, id, devAddr, appSKey, createdAt⟩] } := by
  have hList : (s.insertActivation id devAddr appSKey createdAt).2.activationsOf id =
      s.activationsOf id ++ [s.nextActivation id devAddr appSKey createdAt] := by
    simp [activationsOf, insertActivation, nextActivation]
  simp only [slice, hList, List.map_append]
  rfl

end Store

/-! ## Calls about a device -/

/-- Whether a notification comes from a device of a store, with the application it belongs to. -/
def Origin.IsOf (s : Store) (id : Eui64) (o : Origin) : Prop :=
  o.devEui = id ∧ ∃ row a, s.getDevice id = some row ∧ s.getApplication row.applicationId = some a ∧
    o.applicationId = row.applicationId ∧ o.applicationName = a.name

/-- What is told of a registered device and its application comes from it. -/
theorem Origin.isOf_of {s : Store} {id : Eui64} {d : Device} {a : Application} (hBuilt : s.IsBuilt)
    (hDevice : s.Registers id d) (hApplication : s.getApplication d.applicationId = some a) :
    (Origin.of a d).IsOf s id := by
  obtain ⟨hEui, row, hRow, hSame⟩ := hDevice
  rw [hSame] at hApplication
  exact ⟨hEui, row, a, hRow, hApplication, hBuilt.application_id_eq hApplication, rfl⟩

namespace Call

/-- Whether a call reads, changes and tells of no device but this one of a store. -/
def IsOf (s : Store) (id : Eui64) : Call → Prop
  | .getDevice devEui | .updateDevice devEui _ | .createActivation devEui _ _ | .lastActivation devEui =>
    devEui = id
  | .log devEui entry => devEui = id ∧ ∃ n : Notification, entry = .ofNotification n ∧ n.origin.IsOf s id
  | .send n => n.origin.IsOf s id
  | .now | .getApplication _ | .getGateways _ => True

/-- An answer without the numbers of activations. -/
def unnumbered : (c : Call) → c.Answer → c.Answer
  | .createActivation .., answer => answer.map Activation.unnumbered
  | .lastActivation _, answer => answer.map (Option.map Activation.unnumbered)
  | .now, answer | .getDevice _, answer | .updateDevice .., answer | .getApplication _, answer
  | .getGateways _, answer | .log .., answer | .send _, answer => answer

end Call

namespace Exchange

/-- Whether an answer tells of a device and its application as they are registered. -/
def Fits (s : Store) (id : Eui64) : Exchange → Prop
  | ⟨.getDevice _, .ok (some d)⟩ | ⟨.updateDevice .., .ok (some d)⟩ => s.Registers id d
  | ⟨.getApplication i, .ok (some a)⟩ => s.getApplication i = some a
  | _ => True

/-- The time that the clock has shown for an answer. -/
def reading? : Exchange → Option Time.Instant
  | ⟨.now, time⟩ => some time
  | ⟨.createActivation .., .ok a⟩ => some a.createdAt
  | _ => none

end Exchange

/-- Whether an effect is about a device of a store, and tells of it with the application it belongs to. -/
def Effect.IsOf (s : Store) (id : Eui64) : Effect → Prop
  | .logged devEui entry _ =>
    devEui = id ∧ ∃ n : Notification, entry = .ofNotification n ∧ n.origin.IsOf s id
  | .sent n _ => n.origin.IsOf s id

/-- The effect of a call about a device is about it, too. -/
theorem Call.IsOf.effect {s : Store} {id : Eui64} {c : Call} (h : c.IsOf s id) {answer : c.Answer}
    {x : Effect} (hx : Exchange.effect? ⟨c, answer⟩ = some x) : x.IsOf s id := by
  cases c with
  | log devEui entry =>
    obtain rfl := Option.some.inj hx
    exact h
  | send n =>
    obtain rfl := Option.some.inj hx
    exact h
  | _ => cases hx

/-- Whether nothing ever fails. -/
def Conditions.Calm {σ : Type} (k : Conditions σ) : Prop := ∀ c state, (k.failure c state).1 = none

/-- The conditions in which nothing fails and the clock shows some given times, one after the other. -/
def Conditions.given : Conditions (List Time.Instant) where
  clock
    | time :: times => (time, times)
    | [] => (⟨0, 0⟩, [])
  failure _ times := (none, times)

theorem Conditions.given_calm : Conditions.given.Calm := fun _ _ => rfl

namespace World

variable {σ : Type} {k : Conditions σ} {w w' : World σ} {s : Store} {id other : Eui64} {c : Call}

/-- A call about another device leaves the row of a device as it is. -/
theorem answer_getDevice_other (k : Conditions σ) (w : World σ) (hOf : c.IsOf s other)
    (hId : other ≠ id) : (answer k c w).2.store.getDevice id = w.store.getDevice id := by
  cases c with
  | updateDevice devEui mutation =>
    have hOther : devEui ≠ id := by rwa [show devEui = other from hOf]
    simp only [answer, guarded]
    split
    · rfl
    · exact Store.getDevice_updateDevice_other _ hOther mutation
  | now => rfl
  | _ =>
    simp only [answer, guarded, outward]
    split <;> rfl

/-- A call about another device leaves the activations of a device as they are. -/
theorem answer_activationsOf_other (k : Conditions σ) (w : World σ) (hOf : c.IsOf s other)
    (hId : other ≠ id) : (answer k c w).2.store.activationsOf id = w.store.activationsOf id := by
  cases c with
  | updateDevice devEui mutation =>
    simp only [answer, guarded]
    split
    · rfl
    · exact congrArg (List.filter _) (Store.updateDevice_activations ..)
  | createActivation devEui devAddr appSKey =>
    have hOther : devEui ≠ id := by rwa [show devEui = other from hOf]
    simp only [answer, guarded]
    split
    · rfl
    · exact Store.activationsOf_insertActivation_other _ hOther devAddr appSKey _
  | now => rfl
  | _ =>
    simp only [answer, guarded, outward]
    split <;> rfl

/-- A call about another device leaves the slice of a device as it is. -/
theorem answer_slice_other (k : Conditions σ) (w : World σ) (hOf : c.IsOf s other) (hId : other ≠ id) :
    (answer k c w).2.store.slice id = w.store.slice id := by
  unfold Store.slice
  rw [answer_getDevice_other k w hOf hId, answer_activationsOf_other k w hOf hId, answer_applications,
    answer_gateways]

theorem answer_getDevice_ok {devEui : Eui64} {d : Option Device}
    (h : answer k (.getDevice devEui) w = (.ok d, w')) : d = w.store.getDevice devEui := by
  rw [answer] at h
  obtain ⟨state, hAct⟩ := guarded_eq_ok h
  exact (Prod.mk.inj hAct).1.symm

/-- The answer to a call about a device fits the registration of this device. -/
theorem answer_fits (k : Conditions σ) (hBuilt : s.IsBuilt) (hSetting : s.SameSetting w.store)
    (hOf : c.IsOf s id) : Exchange.Fits s id ⟨c, (answer k c w).1⟩ := by
  -- an answer is read off the slice of the device, which is as it was but for its own changes
  cases c with
  | getDevice devEui =>
    obtain rfl : devEui = id := hOf
    rcases hAnswer : answer k (.getDevice devEui) w with ⟨e | _ | d, w'⟩
    · trivial
    · trivial
    · exact hSetting.registers hBuilt (answer_getDevice_ok hAnswer).symm
  | updateDevice devEui mutation =>
    obtain rfl : devEui = id := hOf
    rcases hAnswer : answer k (.updateDevice devEui mutation) w with ⟨e | _ | d, w'⟩
    · trivial
    · trivial
    · obtain ⟨row, hRow, rfl⟩ := answer_updateDevice_ok hAnswer
      exact (hSetting.registers hBuilt hRow).apply mutation
  | getApplication i =>
    rcases hAnswer : answer k (.getApplication i) w with ⟨e | _ | a, w'⟩
    · trivial
    · trivial
    · have hFound := answer_getApplication_ok hAnswer
      unfold Store.getApplication at hFound
      rw [hSetting.applications] at hFound
      exact hFound.symm
  | _ => trivial

theorem Plays.sameSetting {es : List Exchange} (h : Plays k w es w') : w.store.SameSetting w'.store where
  applications := h.applications
  devices id := by
    rw [h.getDevice, Option.map_map]
    refine congrArg (Option.map · _) (funext fun d => ?_)
    have hCombines := Device.combines_applyAll d (es.filterMap (Exchange.mutation? id))
    exact Prod.ext hCombines.devEui hCombines.applicationId

/-! ### Calls in calm conditions -/

/-- A call is carried out when nothing fails. -/
theorem guarded_calm {α : Type} (hk : k.Calm) (c : Call) (act : World σ → α × World σ) (w : World σ) :
    w.guarded k c act =
      (.ok (act { w with state := (k.failure c w.state).2 }).1,
        (act { w with state := (k.failure c w.state).2 }).2) := by
  have hNone := hk c w.state
  unfold guarded
  rcases hFailure : k.failure c w.state with ⟨_ | e, state⟩
  · rfl
  · rw [hFailure] at hNone
    cases hNone

theorem outward_calm (hk : k.Calm) (c : Call) (effect : Bool → Effect) (w : World σ) :
    w.outward k c effect =
      (.ok (), { w with state := (k.failure c w.state).2, effects := w.effects ++ [effect true] }) := by
  have hNone := hk c w.state
  unfold outward
  rcases hFailure : k.failure c w.state with ⟨_ | e, state⟩
  · rfl
  · rw [hFailure] at hNone
    cases hNone

/-- Whether a call has been answered in one world as in another, as far as one device is concerned: alike
up to numbers, with the same effect, and with the same slice afterwards. -/
structure AnsweredAlike {τ : Type} (id : Eui64) (c : Call) (o : c.Answer × World σ)
    (o' : c.Answer × World τ) : Prop where
  answer : c.unnumbered o'.1 = c.unnumbered o.1
  effect : Exchange.effect? ⟨c, o'.1⟩ = Exchange.effect? ⟨c, o.1⟩
  slice : o'.2.store.slice id = o.2.store.slice id

/-- When nothing fails, the answer to a call about a device is known from the slice of the device and the
time that the clock shows, up to numbers. -/
theorem answer_slice_own (hk : k.Calm) {v : World (List Time.Instant)} {times : List Time.Instant}
    (hOf : c.IsOf s id) (hw : w.store.IsBuilt) (hv : v.store.IsBuilt)
    (hSlice : v.store.slice id = w.store.slice id)
    (hTimes : v.state = (Exchange.reading? ⟨c, (answer k c w).1⟩).toList ++ times) :
    AnsweredAlike id c (answer k c w) (answer .given c v) ∧ (answer .given c v).2.state = times := by
  have hGiven := Conditions.given_calm
  have hRow := Store.getDevice_of_slice hSlice
  cases c with
  | now =>
    -- what the clock shows in the one world is the next reading that the other one is given
    have hState : v.state = (k.clock w.state).1 :: times := hTimes
    simp only [answer, hState, Conditions.given]
    exact ⟨⟨rfl, rfl, hSlice⟩, trivial⟩
  | getDevice devEui =>
    obtain rfl : devEui = id := hOf
    simp only [answer, guarded_calm hk, guarded_calm hGiven]
    exact ⟨⟨congrArg Except.ok hRow, rfl, hSlice⟩, hTimes⟩
  | updateDevice devEui mutation =>
    obtain rfl : devEui = id := hOf
    have hChanged : (v.store.updateDevice devEui mutation).2.slice devEui =
        (w.store.updateDevice devEui mutation).2.slice devEui := by
      rw [Store.slice_updateDevice, Store.slice_updateDevice, hSlice, hRow]
    have hFound := Store.updateDevice_of_slice hSlice mutation
    simp only [answer, guarded_calm hk, guarded_calm hGiven]
    exact ⟨⟨congrArg Except.ok hFound, rfl, hChanged⟩, hTimes⟩
  | getApplication i =>
    have hFound := Store.getApplication_of_slice hSlice i
    simp only [answer, guarded_calm hk, guarded_calm hGiven]
    exact ⟨⟨congrArg Except.ok hFound, rfl, hSlice⟩, hTimes⟩
  | createActivation devEui devAddr appSKey =>
    obtain rfl : devEui = id := hOf
    -- an insertion is dated by the clock as well
    simp only [answer, guarded_calm hk] at hTimes
    let time := (k.clock (k.failure (.createActivation devEui devAddr appSKey) w.state).2).1
    have hState : v.state = time :: times := hTimes
    have hClock : Conditions.given.clock v.state = (time, times) := by
      rw [hState]
      rfl
    have hFailure : (Conditions.given.failure (.createActivation devEui devAddr appSKey) v.state).2 =
        v.state := rfl
    simp only [answer, guarded_calm hk, guarded_calm hGiven, hFailure, hClock]
    refine ⟨⟨rfl, rfl, ?_⟩, trivial⟩
    rw [Store.slice_insertActivation, Store.slice_insertActivation, hSlice]
  | lastActivation devEui =>
    obtain rfl : devEui = id := hOf
    have hFound := Store.lastActivation_of_slice hSlice hw hv
    simp only [answer, guarded_calm hk, guarded_calm hGiven]
    exact ⟨⟨congrArg Except.ok hFound, rfl, hSlice⟩, hTimes⟩
  | getGateways ids =>
    have hFound := Store.getGateways_of_slice hSlice ids
    simp only [answer, guarded_calm hk, guarded_calm hGiven]
    exact ⟨⟨congrArg Except.ok hFound, rfl, hSlice⟩, hTimes⟩
  | log devEui entry =>
    simp only [answer, outward_calm hk, outward_calm hGiven]
    exact ⟨⟨rfl, rfl, hSlice⟩, hTimes⟩
  | send n =>
    simp only [answer, outward_calm hk, outward_calm hGiven]
    exact ⟨⟨rfl, rfl, hSlice⟩, hTimes⟩

end World

end Lorawan
