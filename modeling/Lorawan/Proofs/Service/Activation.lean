import Lorawan.Proofs.Service.Delivery
import Lorawan.Proofs.Service.Rows

/-!
# The session among the activations of a device

Activations are only ever added at the end, each with the next number, whatever device it is of.  So of two
that bear the same time the one with the greater number was added later, and the session of a device is its
activation with the latest time, the last one added among those (`Store.lastActivation_eq_some_iff`).

Calls that add activations may be dated by whoever makes them or by the clock, which may go either way.
What they have added, in their order, decides the session of every device (`World.session_is_latest`).
-/

namespace Lorawan

/-! ## The session of a history -/

/-- Whether this activation, at place `i` of a history, is the session of the device: any other one of the
device is dated earlier, or bears the same time and was added before. -/
structure IsSession (rows : List Activation) (devEui : Eui64) (i : Nat) (a : Activation) : Prop where
  row : rows[i]? = some a
  belongs : a.devEui = devEui
  latest : ∀ j b, rows[j]? = some b → b.devEui = devEui → j ≠ i →
    (b.createdAt ≤ a.createdAt ∧ b.createdAt ≠ a.createdAt) ∨ (b.createdAt = a.createdAt ∧ j < i)

/-- There is one session at most. -/
theorem IsSession.place_eq {rows : List Activation} {devEui : Eui64} {i i' : Nat} {a a' : Activation}
    (h : IsSession rows devEui i a) (h' : IsSession rows devEui i' a') : i = i' := by
  by_contra hApart
  have hFirst := h'.latest i a h.row h.belongs hApart
  have hSecond := h.latest i' a' h'.row h'.belongs (Ne.symm hApart)
  -- each would come before the other
  rcases hFirst with ⟨hBefore, hEarlier⟩ | ⟨hSame, hPlace⟩
  · rcases hSecond with ⟨hBefore', -⟩ | ⟨hSame', -⟩
    · exact hEarlier (Time.Instant.le_antisymm hBefore hBefore')
    · exact hEarlier hSame'.symm
  · rcases hSecond with ⟨-, hEarlier'⟩ | ⟨-, hPlace'⟩
    · exact hEarlier' hSame.symm
    · omega

namespace Store

variable {s : Store} {devEui : Eui64} {a : Activation}

theorem IsNewest.exists_isSession (hNumbers : s.IsNumbered) (h : s.IsNewest devEui a) :
    ∃ i, IsSession s.activations devEui i a := by
  obtain ⟨i, hRow⟩ := List.mem_iff_getElem?.mp h.mem
  refine ⟨i, hRow, h.belongs, ?_⟩
  intro j b hb hDevice hApart
  have hNewer := h.newest b (List.mem_of_getElem? hb) hDevice
  rcases Activation.le_iff.mp hNewer with ⟨hSame, hId⟩ | ⟨hEarlier, hBefore⟩
  · -- numbers are places, counted from one
    rw [hNumbers.id_eq hb, hNumbers.id_eq hRow] at hId
    exact Or.inr ⟨hSame, by omega⟩
  · exact Or.inl ⟨hBefore, hEarlier⟩

theorem lastActivation_eq_some_iff (hNumbers : s.IsNumbered) :
    s.lastActivation devEui = some a ↔ ∃ i, IsSession s.activations devEui i a := by
  constructor
  · intro h
    exact (lastActivation_newest h).exists_isSession hNumbers
  · rintro ⟨i, hSession⟩
    cases hFound : s.lastActivation devEui with
    | none =>
      have hMem : a ∈ s.activations := List.mem_of_getElem? hSession.row
      exact absurd hSession.belongs (lastActivation_eq_none_iff.mp hFound a hMem)
    | some a' =>
      obtain ⟨i', hSession'⟩ := (lastActivation_newest hFound).exists_isSession hNumbers
      obtain rfl := hSession.place_eq hSession'
      rw [← hSession.row, hSession'.row]

/-- An activation that is dated no earlier than any other of its device becomes the session. -/
theorem lastActivation_insertActivation (hNumbers : s.IsNumbered) (devAddr : DevAddr)
    (appSKey : Aes128Key) {time : Time.Instant}
    (h : ∀ b ∈ s.activations, b.devEui = devEui → b.createdAt ≤ time) :
    (s.insertActivation devEui devAddr appSKey time).2.lastActivation devEui =
      some (s.nextActivation devEui devAddr appSKey time) := by
  rw [lastActivation_eq_some_iff (hNumbers.insertActivation devEui devAddr appSKey time)]
  refine ⟨s.activations.length, List.getElem?_concat_length, rfl, ?_⟩
  intro j b hb hDevice hApart
  -- any other row was there before, and is not dated later
  have hj : j < (s.activations ++ [s.nextActivation devEui devAddr appSKey time]).length :=
    (List.getElem?_eq_some_iff.mp hb).1
  rw [List.length_append, List.length_singleton] at hj
  have hEarlier : j < s.activations.length := by omega
  have hOld : s.activations[j]? = some b := by
    rw [← hb]
    exact (List.getElem?_append_left hEarlier).symm
  have hBefore := h b (List.mem_of_getElem? hOld) hDevice
  by_cases hSame : b.createdAt = time
  · exact Or.inr ⟨hSame, hEarlier⟩
  · exact Or.inl ⟨hBefore, hSame⟩

theorem lastActivation_insertActivation_other {other : Eui64} (hOther : other ≠ devEui)
    (devAddr : DevAddr) (appSKey : Aes128Key) (time : Time.Instant) :
    (s.insertActivation other devAddr appSKey time).2.lastActivation devEui =
      s.lastActivation devEui := by
  unfold lastActivation
  rw [activationsOf_insertActivation_other s hOther]

end Store

/-! ## Calls that add activations -/

/-- A call that adds an activation.  If it does not say when, the clock does. -/
structure Insertion where
  devEui : Eui64
  devAddr : DevAddr
  appSKey : Aes128Key
  createdAt : Option Time.Instant

namespace World

variable {σ : Type}

/-- The answer to such a call, and the world after it. -/
def insertActivation (k : Conditions σ) (c : Insertion) (w : World σ) :
    Except ServiceError Activation × World σ :=
  match c.createdAt with
  | some time =>
    let (a, store) := w.store.insertActivation c.devEui c.devAddr c.appSKey time
    (.ok a, { w with store })
  | none => answer k (.createActivation c.devEui c.devAddr c.appSKey) w

/-- Makes some calls one after the other, and gives the activations that they have added. -/
def insertActivations (k : Conditions σ) : List Insertion → World σ → List Activation × World σ
  | [], w => ([], w)
  | c :: calls, w =>
    let (answer, w) := w.insertActivation k c
    let (rows, w) := insertActivations k calls w
    (answer.toOption.toList ++ rows, w)

/-- The time that an activation bears if this call adds one. -/
def timeOf (k : Conditions σ) (c : Insertion) (w : World σ) : Time.Instant :=
  c.createdAt.getD
    (k.clock (k.failure (.createActivation c.devEui c.devAddr c.appSKey) w.state).2).1

variable {k : Conditions σ} {c : Insertion} {w w' : World σ}

/-- A call adds one activation at the end, or it fails and adds none. -/
theorem insertActivation_cases (k : Conditions σ) (c : Insertion) (w : World σ) :
    (∃ e, (w.insertActivation k c).1 = .error e ∧ (w.insertActivation k c).2.store = w.store) ∨
      ((w.insertActivation k c).1 =
          .ok (w.store.nextActivation c.devEui c.devAddr c.appSKey (w.timeOf k c)) ∧
        (w.insertActivation k c).2.store =
          (w.store.insertActivation c.devEui c.devAddr c.appSKey (w.timeOf k c)).2) := by
  obtain ⟨devEui, devAddr, appSKey, createdAt⟩ := c
  cases createdAt with
  | some time => exact Or.inr ⟨rfl, rfl⟩
  | none =>
    unfold insertActivation timeOf
    dsimp only [answer, guarded]
    cases k.failure (.createActivation devEui devAddr appSKey) w.state with
    | mk failure state =>
      cases failure with
      | some e => exact Or.inl ⟨e, rfl, rfl⟩
      | none => exact Or.inr ⟨rfl, rfl⟩

theorem insertActivation_ok {a : Activation} (h : w.insertActivation k c = (.ok a, w')) :
    a = w.store.nextActivation c.devEui c.devAddr c.appSKey (w.timeOf k c) ∧
      w'.store = (w.store.insertActivation c.devEui c.devAddr c.appSKey (w.timeOf k c)).2 := by
  rcases insertActivation_cases k c w with ⟨e, hFailed, -⟩ | ⟨hAdded, hStore⟩
  · rw [h] at hFailed
    cases hFailed
  · rw [h] at hAdded hStore
    exact ⟨Except.ok.inj hAdded, hStore⟩

/-- What one call keeps. -/
theorem insertActivation_isNumbered (k : Conditions σ) (c : Insertion) (h : w.store.IsNumbered) :
    (w.insertActivation k c).2.store.IsNumbered := by
  rcases insertActivation_cases k c w with ⟨e, -, hStore⟩ | ⟨-, hStore⟩
  · rw [hStore]
    exact h
  · rw [hStore]
    exact h.insertActivation _ _ _ _

theorem insertActivation_activations (k : Conditions σ) (c : Insertion) (w : World σ) :
    (w.insertActivation k c).2.store.activations =
      w.store.activations ++ (w.insertActivation k c).1.toOption.toList := by
  rcases insertActivation_cases k c w with ⟨e, hFailed, hStore⟩ | ⟨hAdded, hStore⟩
  · rw [hFailed, hStore]
    exact (List.append_nil _).symm
  · rw [hAdded, hStore]
    rfl

/-- What a run of calls keeps. -/
theorem insertActivations_isNumbered (k : Conditions σ) (calls : List Insertion)
    (h : w.store.IsNumbered) : (w.insertActivations k calls).2.store.IsNumbered := by
  induction calls generalizing w with
  | nil => exact h
  | cons c calls ih => exact ih (insertActivation_isNumbered k c h)

theorem insertActivations_activations (k : Conditions σ) (calls : List Insertion) (w : World σ) :
    (w.insertActivations k calls).2.store.activations =
      w.store.activations ++ (w.insertActivations k calls).1 := by
  induction calls generalizing w with
  | nil => exact (List.append_nil _).symm
  | cons c calls ih =>
    show ((w.insertActivation k c).2.insertActivations k calls).2.store.activations = _
    rw [ih, insertActivation_activations, List.append_assoc]
    rfl

/-- The activations that some calls have added make the session of every device, in a store that had none
before.  There is none without an activation of the device; else it is the one with the latest time, the
last one that was added among those.  So a further call makes its activation the session if no activation
of the device is dated later, and it never changes the session of another device. -/
theorem session_is_latest {calls : List Insertion} {rows : List Activation}
    (hNew : w.store.activations = []) (hCalls : w.insertActivations k calls = (rows, w')) :
    (∀ devEui, w'.store.lastActivation devEui = none ↔ ∀ a ∈ rows, a.devEui ≠ devEui) ∧
    (∀ devEui a, w'.store.lastActivation devEui = some a ↔ ∃ i, IsSession rows devEui i a) ∧
    (∀ c a w'', w'.insertActivation k c = (.ok a, w'') →
      a = ⟨rows.length + 1, c.devEui, c.devAddr, c.appSKey, w'.timeOf k c⟩ ∧
      ((∀ b ∈ rows, b.devEui = c.devEui → b.createdAt ≤ w'.timeOf k c) →
        w''.store.lastActivation c.devEui = some a)) ∧
    ∀ c devEui, c.devEui ≠ devEui →
      (w'.insertActivation k c).2.store.lastActivation devEui = w'.store.lastActivation devEui := by
  have hStart : w.store.IsNumbered := by rw [Store.IsNumbered, hNew]; rfl
  have hNumbers : w'.store.IsNumbered := by
    have hKept := insertActivations_isNumbered k calls hStart
    rwa [hCalls] at hKept
  -- the store had none before, so what was added is all there is
  have hRows : w'.store.activations = rows := by
    have hAdded := insertActivations_activations k calls w
    rwa [hCalls, hNew] at hAdded
  refine ⟨?_, ?_, ?_, ?_⟩
  · intro devEui
    rw [Store.lastActivation_eq_none_iff, hRows]
  · intro devEui a
    rw [Store.lastActivation_eq_some_iff hNumbers, hRows]
  · intro c a w'' hCall
    obtain ⟨rfl, hStore⟩ := insertActivation_ok hCall
    refine ⟨?_, fun hLatest => ?_⟩
    · rw [Store.nextActivation, hRows]
    · rw [hStore]
      rw [← hRows] at hLatest
      exact Store.lastActivation_insertActivation hNumbers c.devAddr c.appSKey hLatest
  · intro c devEui hOther
    rcases insertActivation_cases k c w' with ⟨e, -, hStore⟩ | ⟨-, hStore⟩
    · rw [hStore]
    · rw [hStore, Store.lastActivation_insertActivation_other hOther]

end World

namespace Service.Sample

/-- Three activations of one device: two at the same time, and then one that is dated a second earlier. -/
def insertions : List Insertion :=
  [⟨.zero .eui64, .zero .devAddr, key 1, some ⟨1000, 0⟩⟩,
    ⟨.zero .eui64, .zero .devAddr, key 2, some ⟨1000, 0⟩⟩,
    ⟨.zero .eui64, .zero .devAddr, key 3, some ⟨999, 0⟩⟩]

end Service.Sample

/-- Of the three the second one is the session, until the clock dates a fourth at the same time. -/
theorem World.session_is_latest_sample :
    ∃ rows w' session a w'',
      (Service.Sample.world [] ⟨[], []⟩).insertActivations Service.Sample.conditions
        Service.Sample.insertions = (rows, w') ∧
      session.appSKey = Service.Sample.key 2 ∧ IsSession rows (.zero .eui64) 1 session ∧
      w'.insertActivation Service.Sample.conditions
        ⟨.zero .eui64, .zero .devAddr, Service.Sample.key 4, none⟩ = (.ok a, w'') ∧
      w''.store.lastActivation (.zero .eui64) = some a := by
  have hNew : (Service.Sample.world [] ⟨[], []⟩).store.activations = [] := rfl
  have hCalls : (Service.Sample.world [] ⟨[], []⟩).insertActivations Service.Sample.conditions
      Service.Sample.insertions = (_, _) := rfl
  obtain ⟨-, hSession, hNext, -⟩ := session_is_latest hNew hCalls
  obtain ⟨i, hFound⟩ := (hSession (.zero .eui64)
    ⟨2, .zero .eui64, .zero .devAddr, Service.Sample.key 2, ⟨1000, 0⟩⟩).mp (by decide)
  -- the numbers tell the places apart
  have hPlace : i = 1 := by
    have hRow := hFound.row
    match i, hRow with
    | 1, _ => rfl
    | 0, hRow | 2, hRow => exact absurd hRow (by decide)
  subst hPlace
  obtain ⟨-, hLatest⟩ := hNext
    ⟨.zero .eui64, .zero .devAddr, Service.Sample.key 4, none⟩ _ _ rfl
  exact ⟨_, _, _, _, _, rfl, rfl, hFound, rfl, hLatest (by decide)⟩

end Lorawan
