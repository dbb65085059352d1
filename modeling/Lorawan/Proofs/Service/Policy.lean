import Lorawan.Proofs.Service.Dispatch
import Lorawan.Proofs.Service.Rows

/-!
# What a report keeps and what it may lose

The four reports take the same course (`Course`, `report_course`) and differ in two respects: in whether
the row of the device is changed, and in whether the integration has to take the news.

* **Acknowledgements and errors** change nothing in the store, and succeed once they have found the
  device and its application, whatever the log and the integration do (`ReadsOnly`).
* **Status reports and locations** change the row first and keep the change, whatever fails afterwards.
  They succeed only if the integration takes the news (`CommitsFirst`).

A location report that holds no location is refused before its first call.  Together these are the
`failure_policies` of the reports.
-/

namespace Lorawan

/-- Whether the row of one device has changed in this way between two stores, and nothing else. -/
structure Store.Rewrites (devEui : Eui64) (change : Device → Device) (s s' : Store) : Prop where
  row : ∃ d, s.getDevice devEui = some d ∧ s'.getDevice devEui = some (change d)
  others : ∀ id, id ≠ devEui → s'.getDevice id = s.getDevice id
  keys : s'.devices.keys = s.devices.keys
  rest : s' = { s with devices := s'.devices }

/-- An update that has found its row rewrites it. -/
theorem Store.updateDevice_rewrites {s : Store} {devEui : Eui64} {mutation : DeviceMutation}
    {row : Device} (h : s.getDevice devEui = some row) :
    s.Rewrites devEui (·.apply mutation) (s.updateDevice devEui mutation).2 := by
  have hDevices : (s.updateDevice devEui mutation).2.devices =
      s.devices.insert devEui (row.apply mutation) := by
    simp only [Store.updateDevice, h]
  have hRow : ∀ id, (s.updateDevice devEui mutation).2.getDevice id =
      if id = devEui then some (row.apply mutation) else s.getDevice id := by
    intro id
    rw [Store.getDevice, hDevices, Table.get?_insert]
    rfl
  exact {
    row := ⟨row, h, by rw [hRow, if_pos rfl]⟩
    others := fun id hId => by rw [hRow, if_neg hId]
    keys := s.updateDevice_keys devEui mutation
    rest := s.updateDevice_eq devEui mutation }

/-- Whether a run of a service that starts in a world gets to another one after this conversation. -/
def World.Passes {σ α : Type} (k : Conditions σ) (w : World σ) (s : Service α) (es : List Exchange)
    (v : World σ) : Prop :=
  World.Plays k w es v ∧ ∃ rest o, s.Ends (es ++ rest) o

namespace Service

variable {σ : Type}

/-- A way to look a device up. -/
abbrev LookUp (σ : Type) := World σ → Except ServiceError (Option Device) × World σ

/-! ## The course of a report, call by call -/

section Course

variable (k : Conditions σ) (lookUp : LookUp σ) (devEui : Eui64)
  (tell : Device → Application → Notification)
  (settle : Except ServiceError Unit → Except ServiceError Unit) (w : World σ)

/-- Whether a report that starts in a world comes by this device and this application, and in which world
it then tells of them. -/
def Finds (d : Device) (a : Application) (v : World σ) : Prop :=
  ∃ w₁, lookUp w = (.ok (some d), w₁) ∧
    World.answer k (.getApplication d.applicationId) w₁ = (.ok (some a), v)

/-- Whether a notification that is logged and then handed over in a world meets with this answer of the
integration, and in which world that ends. -/
def Tells (n : Notification) (sent : Except ServiceError Unit) (v : World σ) : Prop :=
  ∃ logged w₁, World.answer k (.log n.origin.devEui (.ofNotification n)) w = (logged, w₁) ∧
    World.answer k (.send n) w₁ = (sent, v)

/-- The course of a report that starts in a world: its result, and the world in which it ends. -/
inductive Course : Except ServiceError Unit → World σ → Prop
  | deviceFails {e : ServiceError} {w₁ : World σ} (hDevice : lookUp w = (.error e, w₁)) :
    Course (.error e) w₁
  | deviceUnknown {w₁ : World σ} (hDevice : lookUp w = (.ok none, w₁)) :
    Course (.error (.deviceNotFound devEui.text)) w₁
  | applicationFails {d : Device} {e : ServiceError} {w₁ w₂ : World σ}
    (hDevice : lookUp w = (.ok (some d), w₁))
    (hApplication : World.answer k (.getApplication d.applicationId) w₁ = (.error e, w₂)) :
    Course (.error e) w₂
  | applicationUnknown {d : Device} {w₁ w₂ : World σ} (hDevice : lookUp w = (.ok (some d), w₁))
    (hApplication : World.answer k (.getApplication d.applicationId) w₁ = (.ok none, w₂)) :
    Course (.error (.applicationNotFound d.applicationId)) w₂
  | told {d : Device} {a : Application} {v w' : World σ} {sent : Except ServiceError Unit}
    (hFinds : Finds k lookUp w d a v) (hTells : Tells k v (tell d a) sent w') :
    Course (settle sent) w'

/-- Whether a service looks a device up in this way, and takes it for unknown if there is none. -/
def LooksUp (device : Service Device) : Prop :=
  ∀ w : World σ, w.run k device.program =
    (some (found (.deviceNotFound devEui.text) (lookUp w).1), (lookUp w).2)

end Course

section Policies

variable (k : Conditions σ) (w : World σ) (devEui : Eui64)
  (tell : Device → Application → Notification) (s : Service Unit)

/-- What is common to the reports: how they fail if they do not come by their device and its application,
and that they tell of the two, once, exactly if they do. -/
structure CommonPolicy (lookUp : LookUp σ) : Prop where
  deviceFails : ∀ e v, lookUp w = (.error e, v) → (w.run k s.program).1 = some (.error e)
  deviceUnknown : ∀ v, lookUp w = (.ok none, v) →
    (w.run k s.program).1 = some (.error (.deviceNotFound devEui.text))
  applicationFails : ∀ d e v v', lookUp w = (.ok (some d), v) →
    World.answer k (.getApplication d.applicationId) v = (.error e, v') →
    (w.run k s.program).1 = some (.error e)
  applicationUnknown : ∀ d v v', lookUp w = (.ok (some d), v) →
    World.answer k (.getApplication d.applicationId) v = (.ok none, v') →
    (w.run k s.program).1 = some (.error (.applicationNotFound d.applicationId))
  tells : ∀ d a v, Finds k lookUp w d a v → ∃ logged taken,
    (w.run k s.program).2.effects = w.effects ++ Dispatch.effects ⟨tell d a, logged, taken⟩
  silent : (¬∃ d a v, Finds k lookUp w d a v) → (w.run k s.program).2.effects = w.effects

/-- The policy of acknowledgements and errors. -/
structure ReadsOnly : Prop
    extends CommonPolicy k w devEui tell s (World.answer k (.getDevice devEui)) where
  /-- The store is the same at every moment of the run. -/
  store : ∀ es v, World.Passes k w s es v → v.store = w.store
  /-- Success is up to the two look-ups. -/
  ok_iff : (w.run k s.program).1 = some (.ok ()) ↔
    ∃ d a v, Finds k (World.answer k (.getDevice devEui)) w d a v

/-- The policy of status reports and locations, which make a mutation that changes a row in this way. -/
structure CommitsFirst (mutation : DeviceMutation) (change : Device → Device) : Prop
    extends CommonPolicy k w devEui tell s (World.answer k (.updateDevice devEui mutation)) where
  /-- Once the update has succeeded, the row is changed from there on. -/
  commits : ∀ d v, World.answer k (.updateDevice devEui mutation) w = (.ok (some d), v) →
    ∀ es v', World.Passes k w s es v' → es ≠ [] → w.store.Rewrites devEui change v'.store
  /-- Without that, nothing changes. -/
  unchanged : (¬∃ d v, World.answer k (.updateDevice devEui mutation) w = (.ok (some d), v)) →
    ∀ es v', World.Passes k w s es v' → v'.store = w.store
  /-- Success is up to the update, the look-up of the application and the integration. -/
  ok_iff : (w.run k s.program).1 = some (.ok ()) ↔
    ∃ d a v v', Finds k (World.answer k (.updateDevice devEui mutation)) w d a v ∧
      Tells k v (tell d a) (.ok ()) v'
  /-- A refusal is an error of the dispatch. -/
  refused : ∀ d a v e v', Finds k (World.answer k (.updateDevice devEui mutation)) w d a v →
    Tells k v (tell d a) (.error e) v' →
    ∃ detail, (w.run k s.program).1 = some (.error (.integrationDispatch detail))

end Policies

variable {k : Conditions σ} {lookUp : LookUp σ} {devEui : Eui64} {device : Service Device}
  {tell : Device → Application → Notification}
  {settle : Except ServiceError Unit → Except ServiceError Unit} {w : World σ}

theorem getDevice_looksUp (k : Conditions σ) (devEui : Eui64) :
    LooksUp k (World.answer k (.getDevice devEui)) devEui (getDevice devEui) := by
  rw [getDevice_eq]
  exact fun _ => rfl

theorem updateDevice_looksUp (k : Conditions σ) (devEui : Eui64) (mutation : DeviceMutation) :
    LooksUp k (World.answer k (.updateDevice devEui mutation)) devEui
      (updateDevice devEui mutation) := by
  rw [updateDevice_eq]
  exact fun _ => rfl

theorem getApplication_run (k : Conditions σ) (id : Int64) (w : World σ) :
    w.run k (getApplication id).program =
      (some (found (.applicationNotFound id) (World.answer k (.getApplication id) w).1),
        (World.answer k (.getApplication id) w).2) := by
  rw [getApplication_eq]
  rfl

/-- A report always returns, and takes its course. -/
theorem report_course (tell : Device → Application → Notification)
    (settle : Except ServiceError Unit → Except ServiceError Unit)
    (h : LooksUp k lookUp devEui device) (w : World σ) :
    ∃ result w', w.run k (report device tell settle).program = (some result, w') ∧
      Course k lookUp devEui tell settle w result w' := by
  unfold report withApplication
  simp only [World.run_service_bind, h w, getApplication_run]
  rcases hDevice : lookUp w with ⟨e | _ | d, w₁⟩
  · exact ⟨_, _, rfl, .deviceFails hDevice⟩
  · exact ⟨_, _, rfl, .deviceUnknown hDevice⟩
  · simp only [found]
    rcases hApplication : World.answer k (.getApplication d.applicationId) w₁ with ⟨e | _ | a, w₂⟩
    · exact ⟨_, _, rfl, .applicationFails hDevice hApplication⟩
    · exact ⟨_, _, rfl, .applicationUnknown hDevice hApplication⟩
    · exact ⟨_, _, rfl, .told ⟨w₁, hDevice, hApplication⟩ ⟨_, _, rfl, rfl⟩⟩

/-- A notification that meets with some answer of the integration is settled by it. -/
theorem Tells.run_eq {n : Notification} {sent : Except ServiceError Unit} {v : World σ}
    (h : Tells k w n sent v) (settle : Except ServiceError Unit → Except ServiceError Unit) :
    w.run k (record n >>= fun _ => ask (.send n) settle).program = (some (settle sent), v) := by
  obtain ⟨logged, w₁, hLog, hSend⟩ := h
  have hRun : w.run k (record n >>= fun _ => ask (.send n) settle).program =
      (some (settle (World.answer k (.send n)
        (World.answer k (.log n.origin.devEui (.ofNotification n)) w).2).1),
      (World.answer k (.send n) (World.answer k (.log n.origin.devEui (.ofNotification n)) w).2).2) := rfl
  rw [hRun, hLog]
  simp only [hSend]

/-- The calls of a course determine the run. -/
theorem Course.run_eq {result : Except ServiceError Unit} {w' : World σ}
    (hCourse : Course k lookUp devEui tell settle w result w')
    (h : LooksUp k lookUp devEui device) :
    w.run k (report device tell settle).program = (some result, w') := by
  unfold report withApplication
  simp only [World.run_service_bind, h w, getApplication_run]
  cases hCourse with
  | deviceFails hDevice => simp only [hDevice, found]
  | deviceUnknown hDevice => simp only [hDevice, found]
  | applicationFails hDevice hApplication => simp only [hDevice, found, hApplication]
  | applicationUnknown hDevice hApplication => simp only [hDevice, found, hApplication]
  | told hFinds hTells =>
    obtain ⟨w₁, hDevice, hApplication⟩ := hFinds
    have hTold := hTells.run_eq settle
    rw [World.run_service_bind] at hTold
    simp only [hDevice, found, hApplication]
    exact hTold

/-! ## What is common to the reports -/

theorem Tells.effects {n : Notification} {sent : Except ServiceError Unit} {v : World σ}
    (h : Tells k w n sent v) :
    ∃ logged taken, v.effects = w.effects ++ Dispatch.effects ⟨n, logged, taken⟩ := by
  obtain ⟨logged, w₁, hLog, hSend⟩ := h
  have hFirst := World.answer_effects k (.log n.origin.devEui (.ofNotification n)) w
  have hSecond := World.answer_effects k (.send n) w₁
  rw [hLog] at hFirst
  rw [hSend] at hSecond
  refine ⟨logged.isOk, sent.isOk, ?_⟩
  rw [hSecond, hFirst, List.append_assoc]
  rfl

theorem exists_tells (k : Conditions σ) (w : World σ) (n : Notification) :
    ∃ sent v, Tells k w n sent v :=
  ⟨_, _, _, _, rfl, rfl⟩

/-- A look-up of an application reaches nothing outside. -/
theorem effects_of_getApplication {id : Int64} {answer : Except ServiceError (Option Application)}
    {v : World σ} (h : World.answer k (.getApplication id) w = (answer, v)) :
    v.effects = w.effects := by
  have hEffects := World.answer_effects k (.getApplication id) w
  rw [h] at hEffects
  exact hEffects.trans (List.append_nil _)

theorem report_commonPolicy (h : LooksUp k lookUp devEui device)
    (hQuiet : ∀ w, (lookUp w).2.effects = w.effects) (w : World σ) :
    CommonPolicy k w devEui tell (report device tell settle) lookUp := by
  have hLookUp : ∀ {answer v}, lookUp w = (answer, v) → v.effects = w.effects := by
    intro answer v hAnswer
    rw [← hQuiet w, hAnswer]
  -- nothing is told before both are found
  have hFound : ∀ {d a v}, Finds k lookUp w d a v → v.effects = w.effects := by
    rintro d a v ⟨w₁, hDevice, hApplication⟩
    exact (effects_of_getApplication hApplication).trans (hLookUp hDevice)
  refine {
    deviceFails := fun e v hDevice => ?_
    deviceUnknown := fun v hDevice => ?_
    applicationFails := fun d e v v' hDevice hApplication => ?_
    applicationUnknown := fun d v v' hDevice hApplication => ?_
    tells := fun d a v hFinds => ?_
    silent := fun hLost => ?_ }
  · rw [(Course.deviceFails hDevice).run_eq h]
  · rw [(Course.deviceUnknown hDevice).run_eq h]
  · rw [(Course.applicationFails hDevice hApplication).run_eq h]
  · rw [(Course.applicationUnknown hDevice hApplication).run_eq h]
  · obtain ⟨sent, w', hTells⟩ := exists_tells k v (tell d a)
    rw [(Course.told hFinds hTells).run_eq h, ← hFound hFinds]
    exact hTells.effects
  · obtain ⟨result, w', hRun, hCourse⟩ := report_course tell settle h w
    rw [hRun]
    cases hCourse with
    | deviceFails hDevice => exact hLookUp hDevice
    | deviceUnknown hDevice => exact hLookUp hDevice
    | applicationFails hDevice hApplication =>
      exact (effects_of_getApplication hApplication).trans (hLookUp hDevice)
    | applicationUnknown hDevice hApplication =>
      exact (effects_of_getApplication hApplication).trans (hLookUp hDevice)
    | told hFinds hTells => exact absurd ⟨_, _, _, hFinds⟩ hLost

/-- A report succeeds exactly if it gets to tell its news and settles for the answer. -/
theorem report_ok_iff (h : LooksUp k lookUp devEui device) (w : World σ) :
    (w.run k (report device tell settle).program).1 = some (.ok ()) ↔
      ∃ d a v sent w', Finds k lookUp w d a v ∧ Tells k v (tell d a) sent w' ∧
        settle sent = .ok () := by
  constructor
  · intro hOk
    obtain ⟨result, w', hRun, hCourse⟩ := report_course tell settle h w
    rw [hRun] at hOk
    obtain rfl : result = .ok () := Option.some.inj hOk
    generalize hSettled : (Except.ok () : Except ServiceError Unit) = result at hCourse
    cases hCourse with
    | told hFinds hTells => exact ⟨_, _, _, _, _, hFinds, hTells, rfl⟩
    | _ => cases hSettled
  · rintro ⟨d, a, v, sent, w', hFinds, hTells, hSettled⟩
    rw [(Course.told hFinds hTells).run_eq h, hSettled]

/-! ## What becomes of the store -/

/-- Whether a call may change the store. -/
def mayWrite : Call → Bool
  | .updateDevice .. | .createActivation .. => true
  | _ => false

theorem store_of_reads {es : List Exchange} {w' : World σ} (h : World.Plays k w es w')
    (hReads : ∀ e ∈ es, mayWrite e.call = false) : w'.store = w.store := by
  have hRow : ∀ e ∈ es, e.updated? = none ∧ e.created? = none := by
    rintro ⟨c, answer⟩ he
    have hCall := hReads _ he
    cases c with
    | updateDevice => cases hCall
    | createActivation => cases hCall
    | _ => exact ⟨rfl, rfl⟩
  have hUpdated : es.filterMap Exchange.updated? = [] :=
    List.filterMap_eq_nil_iff.mpr fun e he => (hRow e he).1
  have hCreated : es.filterMap Exchange.created? = [] :=
    List.filterMap_eq_nil_iff.mpr fun e he => (hRow e he).2
  have hStore := h.store
  rw [hUpdated, hCreated, List.append_nil] at hStore
  exact hStore

/-- What a report does once it has its device. -/
def announce (tell : Device → Application → Notification)
    (settle : Except ServiceError Unit → Except ServiceError Unit) (d : Device) : Service Unit := do
  let a ← getApplication d.applicationId
  record (tell d a)
  ask (.send (tell d a)) settle

theorem report_eq_bind (device : Service Device) (tell : Device → Application → Notification)
    (settle : Except ServiceError Unit → Except ServiceError Unit) :
    report device tell settle = device >>= announce tell settle := by
  unfold report withApplication announce
  simp only [bind_assoc, pure_bind]

theorem announce_reads (d : Device) : (announce tell settle d).CallsOnly (mayWrite · = false) := by
  unfold announce
  rw [getApplication_eq]
  refine CallsOnly.bind (callsOnly_ask rfl) fun a => ?_
  exact CallsOnly.bind (callsOnly_ask rfl) fun _ => callsOnly_ask rfl

/-- A report that begins with an update has the store of that from there on. -/
theorem store_of_passes {mutation : DeviceMutation} {es : List Exchange} {v : World σ}
    (h : World.Passes k w (report (updateDevice devEui mutation) tell settle) es v) (hes : es ≠ []) :
    v.store = (World.answer k (.updateDevice devEui mutation) w).2.store := by
  obtain ⟨hPlays, rest, o, hEnds⟩ := h
  rw [report_eq_bind, updateDevice_eq] at hEnds
  obtain ⟨answer, later, hSplit, hLater⟩ := ends_ask_bind_iff.mp hEnds
  obtain ⟨first, es, rfl⟩ := List.exists_cons_of_ne_nil hes
  obtain ⟨rfl, rfl⟩ := List.cons.inj hSplit
  -- whatever the update answers, nothing that follows it writes
  have hReads : ∀ e ∈ es ++ rest, mayWrite e.call = false := by
    cases hAnswer : found (.deviceNotFound devEui.text) answer with
    | error e =>
      rw [hAnswer] at hLater
      have hOver : es ++ rest = [] := hLater.1
      simp [hOver]
    | ok d =>
      rw [hAnswer] at hLater
      exact Program.CallsOnly.ends (announce_reads d) hLater
  exact store_of_reads hPlays.2 fun e he => hReads e (List.mem_append_left rest he)

theorem answer_updateDevice_rewrites {mutation : DeviceMutation} {d : Device} {v : World σ}
    (h : World.answer k (.updateDevice devEui mutation) w = (.ok (some d), v)) :
    w.store.Rewrites devEui (·.apply mutation) v.store := by
  obtain ⟨row, hRow, -⟩ := World.answer_updateDevice_ok h
  rw [World.answer] at h
  obtain ⟨state, hAct⟩ := World.guarded_eq_ok h
  obtain ⟨-, rfl⟩ := Prod.mk.inj hAct
  exact Store.updateDevice_rewrites hRow

/-- An update that fails or finds no row leaves the store as it is. -/
theorem answer_updateDevice_unchanged {mutation : DeviceMutation}
    (h : ¬∃ d v, World.answer k (.updateDevice devEui mutation) w = (.ok (some d), v)) :
    (World.answer k (.updateDevice devEui mutation) w).2.store = w.store := by
  have hPlays : World.Plays k w
      [⟨.updateDevice devEui mutation, (World.answer k (.updateDevice devEui mutation) w).1⟩]
      (World.answer k (.updateDevice devEui mutation) w).2 := ⟨rfl, rfl⟩
  have hStore := hPlays.store
  -- an update that has not found its row adds nothing
  have hSame : { w.store with activations := w.store.activations ++ [] } = w.store := by
    rw [List.append_nil]
  rcases hAnswer : World.answer k (.updateDevice devEui mutation) w with ⟨e | _ | d, v⟩
  · rw [hAnswer] at hStore
    exact hStore.trans hSame
  · rw [hAnswer] at hStore
    exact hStore.trans hSame
  · exact absurd ⟨d, v, hAnswer⟩ h

/-! ## The two policies -/

/-- A report that reads its device and settles for any answer is a read-only one. -/
theorem readsOnly_of_report {s : Service Unit}
    (hs : s = report (getDevice devEui) tell fun _ => .ok ()) (k : Conditions σ) (w : World σ) :
    ReadsOnly k w devEui tell s := by
  subst hs
  have hLooksUp := getDevice_looksUp k devEui
  refine {
    toCommonPolicy := report_commonPolicy hLooksUp (fun w => ?_) w
    store := fun es v hPasses => ?_
    ok_iff := ?_ }
  · exact (World.answer_effects k _ w).trans (List.append_nil _)
  · -- no call of such a request may write, at whichever call one stops
    obtain ⟨hPlays, rest, o, hEnds⟩ := hPasses
    have hReads : (report (getDevice devEui) tell fun _ => .ok ()).CallsOnly
        (mayWrite · = false) := by
      rw [getDevice_eq]
      exact report_callsOnly (callsOnly_ask rfl) (fun _ => rfl) (fun _ _ => rfl) fun _ => rfl
    exact store_of_reads hPlays fun e he =>
      Program.CallsOnly.ends hReads hEnds e (List.mem_append_left rest he)
  · -- the answer of the sink is not looked at, so that any one will do
    rw [report_ok_iff hLooksUp]
    constructor
    · rintro ⟨d, a, v, sent, w', hFinds, -, -⟩
      exact ⟨d, a, v, hFinds⟩
    · rintro ⟨d, a, v, hFinds⟩
      obtain ⟨sent, w', hTells⟩ := exists_tells k v (tell d a)
      exact ⟨d, a, v, sent, w', hFinds, hTells, rfl⟩

theorem mapError_dispatchError_eq_ok_iff {sent : Except ServiceError Unit} :
    sent.mapError dispatchError = .ok () ↔ sent = .ok () := by
  cases sent <;> simp [Except.mapError]

theorem dispatchError_eq_integrationDispatch (e : ServiceError) :
    ∃ detail, dispatchError e = .integrationDispatch detail := by
  cases e <;> exact ⟨_, rfl⟩

/-- A report that changes its device and reports what the integration answers commits first. -/
theorem commitsFirst_of_report {s : Service Unit} {mutation : DeviceMutation}
    (hs : s = report (updateDevice devEui mutation) tell (Except.mapError dispatchError))
    (k : Conditions σ) (w : World σ) :
    CommitsFirst k w devEui tell s mutation (·.apply mutation) := by
  subst hs
  have hLooksUp := updateDevice_looksUp k devEui mutation
  refine {
    toCommonPolicy := report_commonPolicy hLooksUp (fun w => ?_) w
    commits := fun d v hUpdate es v' hPasses hes => ?_
    unchanged := fun hNone es v' hPasses => ?_
    ok_iff := ?_
    refused := fun d a v e v' hFinds hTells => ?_ }
  · exact (World.answer_effects k _ w).trans (List.append_nil _)
  · rw [store_of_passes hPasses hes, hUpdate]
    exact answer_updateDevice_rewrites hUpdate
  · -- without a device the update leaves the store as it was
    by_cases hes : es = []
    · subst hes
      rw [show v' = w from hPasses.1]
    · rw [store_of_passes hPasses hes, answer_updateDevice_unchanged hNone]
  · -- all is well just if the notification was sent, since sending comes last
    rw [report_ok_iff hLooksUp]
    constructor
    · rintro ⟨d, a, v, sent, w', hFinds, hTells, hSettled⟩
      obtain rfl := mapError_dispatchError_eq_ok_iff.mp hSettled
      exact ⟨d, a, v, w', hFinds, hTells⟩
    · rintro ⟨d, a, v, w', hFinds, hTells⟩
      exact ⟨d, a, v, .ok (), w', hFinds, hTells, rfl⟩
  · -- the error of the sink is what the request ends with
    obtain ⟨detail, hDetail⟩ := dispatchError_eq_integrationDispatch e
    refine ⟨detail, ?_⟩
    rw [(Course.told hFinds hTells).run_eq hLooksUp, ← hDetail]
    rfl

/-! ## The law -/

/-- Acknowledgements and errors never change the store and succeed whatever becomes of their news; status
reports and locations keep their change and fail if their news is not taken; and a location report without
a location makes no call. -/
theorem failure_policies (k : Conditions σ) (w : World σ) :
    (∀ r : AckRequest, ReadsOnly k w r.devEui
      (fun d a => .ack ⟨.of a d, r.acknowledged, r.fCnt⟩) (ack r)) ∧
    (∀ r : ErrorRequest, ReadsOnly k w r.devEui
      (fun d a => .error ⟨.of a d, r.type, r.error, r.fCnt⟩) (error r)) ∧
    (∀ r : StatusRequest, CommitsFirst k w r.devEui
      (fun d a => .status ⟨.of a d, r.battery, r.margin⟩) (status r)
      (.setStatus r.battery r.margin)
      fun d => { d with battery := some r.battery, margin := some r.margin }) ∧
    ∀ r : LocationRequest, match r.location with
      | some l => CommitsFirst k w r.devEui (fun d a => .location ⟨.of a d, l⟩) (location r)
        (.setLocation l)
        fun d => { d with
          latitude := some l.latitude, longitude := some l.longitude, altitude := some l.altitude }
      | none => (location r).CallsOnly (fun _ => False) ∧
        w.run k (location r).program =
          (some (.error (.invalidArgument "location must not be empty")), w) := by
  refine ⟨fun r => ?_, fun r => ?_, fun r => ?_, fun r => ?_⟩
  · exact readsOnly_of_report (ack_eq r) k w
  · exact readsOnly_of_report (error_eq r) k w
  · exact commitsFirst_of_report (status_eq r) k w
  · cases hLocation : r.location with
    | some l => exact commitsFirst_of_report (location_eq hLocation) k w
    | none =>
      rw [location_eq_throw hLocation]
      exact ⟨callsOnly_throw, rfl⟩

/-- A status report that the integration refuses fails, and the row keeps what it reports. -/
example :
    let run := (Sample.world [] ⟨[⟨.send .status, .validation "no", none⟩], []⟩).run Sample.conditions
      (status ⟨Sample.device.devEui, 80, 5⟩).program
    run.1 = some (.error (.integrationDispatch (ServiceError.validation "no").message)) ∧
      run.2.store.getDevice Sample.device.devEui =
        some { Sample.device with battery := some 80, margin := some 5 } :=
  ⟨rfl, rfl⟩

end Service

end Lorawan
