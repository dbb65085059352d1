import Lorawan.Proofs.Crypto.Secrecy
import Lorawan.Proofs.Service.Delivery

/-!
# What an activation tells of its key

An activation is run twice, with two session keys, under conditions that treat the one like the other
(`Conditions.Alike`).  The runs go the same way: the row that is stored has the key, and nothing else has
anything of it (`World.DifferInKey`).  The key stays in its row, for whatever comes after the row was stored
neither reads the store nor changes it.

* `Service.run_activate`: an activation that has its key stores a row and then tells of the join.
* `Service.activate_differInKey`: the two runs.
* `Service.keys_stay_hidden`: these, and what is told where there is no key.
-/

namespace Lorawan

/-- The activation with another session key. -/
def Activation.withKey (key : Aes128Key) (a : Activation) : Activation := { a with appSKey := key }

/-- Whether the conditions of two runs differ at most in how they tell calls with the one key from calls with
the other: what the second run meets with the second key is what the first run meets with the first. -/
structure Conditions.Alike {σ : Type} (key key' : Aes128Key) (k k' : Conditions σ) : Prop where
  clock : k'.clock = k.clock
  create : ∀ devEui devAddr s, k'.failure (.createActivation devEui devAddr key') s =
    k.failure (.createActivation devEui devAddr key) s
  log : ∀ devEui entry s, k'.failure (.log devEui entry) s = k.failure (.log devEui entry) s
  send : ∀ n s, k'.failure (.send n) s = k.failure (.send n) s

/-- Listed faults strike whatever the key is. -/
theorem Conditions.ofFaults_alike (d : Destinations) (time : Time.Instant) (key key' : Aes128Key) :
    Alike key key' (ofFaults d time) (ofFaults d time) where
  clock := rfl
  create _ _ _ := rfl
  log _ _ _ := rfl
  send _ _ := rfl

/-- Whether a call goes to the outside. -/
def Call.isOutward : Call → Bool
  | .log .. | .send _ => true
  | _ => false

/-! ## Calls to the outside -/

namespace World

variable {σ α : Type} {k k' : Conditions σ} {key key' : Aes128Key}

/-- Whether two runs that began in one world differ in nothing but the session key of the activation that
they return and add: it is the first key in the first run and the second key in the second. -/
structure DifferInKey (w : World σ) (key key' : Aes128Key)
    (out out' : Option (Except ServiceError Activation) × World σ) : Prop where
  result : out'.1 = out.1.map (Except.map (Activation.withKey key'))
  effects : out'.2.effects = out.2.effects
  state : out'.2.state = out.2.state
  store : ∃ rows : List Activation, rows.length ≤ 1 ∧ (∀ a ∈ rows, a.appSKey = key) ∧
    out.2.store = { w.store with activations := w.store.activations ++ rows } ∧
    out'.2.store =
      { w.store with activations := w.store.activations ++ rows.map (Activation.withKey key') }

/-- The same world with another store. -/
def withStore (s : Store) (w : World σ) : World σ := { w with store := s }

theorem outward_withStore (s : Store) (c : Call) (effect : Bool → Effect) (w : World σ) :
    outward k c effect (w.withStore s) =
      ((outward k c effect w).1, (outward k c effect w).2.withStore s) := by
  unfold outward withStore
  dsimp only
  split <;> rfl

theorem answer_withStore (s : Store) {c : Call} (h : c.isOutward = true) (w : World σ) :
    answer k c (w.withStore s) = ((answer k c w).1, (answer k c w).2.withStore s) := by
  cases c with
  | log devEui entry => exact outward_withStore s _ _ w
  | send n => exact outward_withStore s _ _ w
  | _ => cases h

/-- Calls to the outside neither read the store nor change it. -/
theorem run_withStore (s : Store) {p : Program α} (h : p.CallsOnly fun c => c.isOutward = true)
    (w : World σ) : (w.withStore s).run k p = ((w.run k p).1, (w.run k p).2.withStore s) := by
  induction p generalizing w with
  | done a => rfl
  | abort => rfl
  | call c next ih =>
    have hStep : ∀ w : World σ, w.run k (.call c next) = (answer k c w).2.run k (next (answer k c w).1) :=
      fun _ => rfl
    rw [hStep, hStep, answer_withStore s h.1, ih _ (h.2 _)]

theorem answer_alike (hk : k.Alike key key' k') {c : Call} (h : c.isOutward = true) (w : World σ) :
    answer k' c w = answer k c w := by
  cases c with
  | log devEui entry => simp only [answer, outward, hk.log]
  | send n => simp only [answer, outward, hk.send]
  | _ => cases h

/-- Calls to the outside meet the same conditions in both runs. -/
theorem run_alike (hk : k.Alike key key' k') {p : Program α}
    (h : p.CallsOnly fun c => c.isOutward = true) (w : World σ) : w.run k' p = w.run k p := by
  induction p generalizing w with
  | done a => rfl
  | abort => rfl
  | call c next ih =>
    have hStep : ∀ k : Conditions σ,
        w.run k (.call c next) = (answer k c w).2.run k (next (answer k c w).1) := fun _ => rfl
    rw [hStep, hStep, answer_alike hk h.1, ih _ (h.2 _)]

end World

/-! ## Activations -/

namespace Service

variable {σ : Type} {k k' : Conditions σ} {keks keks' : KekSet} {key key' : Aes128Key}
  {context context' : ActivationContext} {e e' : KeyEnvelope}

/-- What an activation tells the outside. -/
def announceJoin (d : Device) (a : Application) (devAddr : DevAddr) : Service Unit := do
  record (.join ⟨.of a d, devAddr⟩)
  deliver (.join ⟨.of a d, devAddr⟩)

theorem announceJoin_callsOnly (d : Device) (a : Application) (devAddr : DevAddr) :
    (announceJoin d a devAddr).CallsOnly fun c => c.isOutward = true := by
  refine CallsOnly.bind (callsOnly_ask rfl) fun _ => ?_
  rw [deliver_eq]
  exact callsOnly_ask rfl

/-- An activation that has its key stores a row, unless storage fails, and then tells of the join. -/
theorem run_activate (hEnvelope : context.appSKey = some e) (hKey : keks.resolve e = .ok key) (d : Device)
    (a : Application) (w : World σ) :
    w.run k (activate keks d a context).program =
      match k.failure (.createActivation d.devEui context.devAddr key) w.state with
      | (some e, state) => (some (.error e), { w with state })
      | (none, state) =>
        let (time, state) := k.clock state
        let (activation, store) := w.store.insertActivation d.devEui context.devAddr key time
        let (told, v) :=
          World.run k (announceJoin d a context.devAddr).program { w with state }
        (told.map (Except.map fun _ => activation), v.withStore store) := by
  have hActivate : activate keks d a context =
      createActivation d.devEui context.devAddr key >>= fun activation =>
        announceJoin d a context.devAddr >>= fun _ => pure activation := by
    unfold activate announceJoin
    rw [hEnvelope]
    dsimp only
    rw [hKey]
    simp only [bind_assoc]
    rfl
  have hCreate : w.run k (createActivation d.devEui context.devAddr key).program =
      (some (World.answer k (.createActivation d.devEui context.devAddr key) w).1,
        (World.answer k (.createActivation d.devEui context.devAddr key) w).2) := rfl
  rw [hActivate, World.run_service_bind, hCreate, World.answer, World.guarded]
  rcases k.failure (.createActivation d.devEui context.devAddr key) w.state with ⟨_ | e, state⟩
  · dsimp only
    -- the row is in the store when the join is told, which makes no difference there
    have hTold := World.run_withStore (k := k)
      (w.store.insertActivation d.devEui context.devAddr key (k.clock state).1).2
      (announceJoin_callsOnly d a context.devAddr) { w with state := (k.clock state).2 }
    rw [World.withStore] at hTold
    rw [World.run_service_bind, hTold]
    rcases World.run k (announceJoin d a context.devAddr).program
      { w with state := (k.clock state).2 } with ⟨_ | e | _, v⟩ <;> rfl
  · rfl

/-- Two activations whose keys differ go the same way. -/
theorem activate_differInKey (hk : k.Alike key key' k') (hAddr : context.devAddr = context'.devAddr)
    (hEnvelope : context.appSKey = some e) (hEnvelope' : context'.appSKey = some e')
    (hKey : keks.resolve e = .ok key) (hKey' : keks'.resolve e' = .ok key') (d : Device) (a : Application)
    (w : World σ) :
    w.DifferInKey key key' (w.run k (activate keks d a context).program)
      (w.run k' (activate keks' d a context').program) := by
  rw [run_activate hEnvelope hKey, run_activate hEnvelope' hKey', ← hAddr, hk.create, hk.clock]
  -- storage fails in both runs or in neither, and what follows does not have the key
  rcases k.failure (.createActivation d.devEui context.devAddr key) w.state with ⟨_ | err, state⟩
  · dsimp only
    rw [World.run_alike hk (announceJoin_callsOnly d a context.devAddr)]
    rcases World.run k (announceJoin d a context.devAddr).program
      { w with state := (k.clock state).2 } with ⟨told, v⟩
    exact {
      result := by rcases told with _ | e | _ <;> rfl
      effects := rfl
      state := rfl
      store := ⟨[w.store.nextActivation d.devEui context.devAddr key (k.clock state).1], Nat.le_refl 1,
        by simp [Store.nextActivation], rfl, rfl⟩ }
  · exact {
      result := rfl
      effects := rfl
      state := rfl
      store := ⟨[], Nat.zero_le 1, List.forall_mem_nil _, by simp, by simp⟩ }

/-- An activation whose envelope gives no key fails before it has done anything. -/
theorem run_activate_of_error {c : CryptoError} (hEnvelope : context.appSKey = some e)
    (hKey : keks.resolve e = .error c) (d : Device) (a : Application) (w : World σ) :
    w.run k (activate keks d a context).program = (some (.error (.crypto c)), w) := by
  unfold activate
  rw [hEnvelope]
  dsimp only
  rw [hKey]
  rfl

/-- Keys reach the row of a session and nothing else.

1. Two activations for one address that both have a key go the same way: they differ in the session key of
   the row.  The sets of key-encryption keys may differ as well.
2. An activation without a key does nothing, and what it says depends on the kind of the failure, the label
   of the envelope, and how many bytes it and the key-encryption key have.
3. Entries for a set of keys that differ in the texts of the keys only, all of one length and hexadecimal or
   not alike, are refused with one error or make sets with the same labels.
4. Descriptions of entries and envelopes are the same for all keys of one length. -/
theorem keys_stay_hidden :
    (∀ {σ : Type} {key key' : Aes128Key} {k k' : Conditions σ} {keks keks' : KekSet}
      {context context' : ActivationContext} {e e' : KeyEnvelope},
      k.Alike key key' k' → context.devAddr = context'.devAddr →
      context.appSKey = some e → context'.appSKey = some e' →
      keks.resolve e = .ok key → keks'.resolve e' = .ok key' →
      ∀ (d : Device) (a : Application) (w : World σ),
        w.DifferInKey key key' (w.run k (activate keks d a context).program)
          (w.run k' (activate keks' d a context').program)) ∧
    (∀ {keks keks' : KekSet} {e e' : KeyEnvelope} {c c' : CryptoError},
      e.kekLabel = e'.kekLabel → e.aesKey.length = e'.aesKey.length →
      keks.sizeOf? e.kekLabel = keks'.sizeOf? e.kekLabel →
      keks.resolve e = .error c → keks'.resolve e' = .error c' → c.ctorIdx = c'.ctorIdx →
      c = c' ∧ ∀ {σ : Type} (k : Conditions σ) (d : Device) (a : Application)
        (context : ActivationContext) (w : World σ), context.appSKey = some e →
        w.run k (activate keks d a context).program = (some (.error (.crypto c)), w)) ∧
    (∀ {entries entries' : List KekEntry}, List.Forall₂ KekEntry.Alike entries entries' →
      (KekSet.ofEntries entries).map KekSet.labels = (KekSet.ofEntries entries').map KekSet.labels ∧
      ∀ detail detail' : String → String,
        (KekSet.loadInSteps detail entries).map KekSet.labels =
          (KekSet.loadInSteps detail' entries').map KekSet.labels) ∧
    (∀ {entry entry' : KekEntry}, entry.label = entry'.label → entry.describe = entry'.describe) ∧
    ∀ {e e' : KeyEnvelope}, e.kekLabel = e'.kekLabel → e.aesKey.length = e'.aesKey.length →
      e.describe = e'.describe := by
  refine ⟨activate_differInKey, ?_, ?_, KekEntry.describe_congr, KeyEnvelope.describe_congr⟩
  · intro keks keks' e e' c c' hLabel hSize hKek h h' hKind
    refine ⟨KekSet.error_eq_of_resolve hLabel hSize hKek h h' hKind, ?_⟩
    intro σ k d a context w hEnvelope
    exact run_activate_of_error hEnvelope h d a w
  · intro entries entries' h
    exact ⟨KekSet.labels_ofEntries h, KekSet.labels_loadInSteps h⟩

namespace Sample

/-- A join whose key is not wrapped and is the same byte all over. -/
def joinWith (byte : UInt8) : ActivationContext := ⟨.zero .devAddr, some ⟨(Sample.key byte).bytes, ""⟩⟩

/-- What is told of an envelope of two bytes. -/
def tooShort : CryptoError := .invalidKeyMaterial "expected 16 key bytes, got 2"

/-- An entry whose key is the same digit all over. -/
def entryOf (digit : Char) : KekEntry := ⟨"lw", String.ofList (List.replicate 32 digit)⟩

theorem writes_entryOf {digit : Char} (h : Hex.IsDigit digit) :
    ∃ bs, Hex.Writes (entryOf digit).kek bs := by
  rw [Hex.exists_writes_iff, entryOf, String.toList_ofList, String.length_ofList, List.length_replicate]
  refine ⟨fun c hc => ?_, rfl⟩
  rw [List.eq_of_mem_replicate hc]
  exact h

theorem entryOf_alike : (entryOf '1').Alike (entryOf '2') where
  label := rfl
  length := by rw [entryOf, entryOf, String.length_ofList, String.length_ofList]; rfl
  isHex := iff_of_true (writes_entryOf (by decide)) (writes_entryOf (by decide))

end Sample

theorem keys_stay_hidden_sample :
    (Sample.world [] ⟨[], []⟩).DifferInKey (Sample.key 1) (Sample.key 2)
      ((Sample.world [] ⟨[], []⟩).run Sample.conditions
        (activate .empty Sample.device Sample.application (Sample.joinWith 1)).program)
      ((Sample.world [] ⟨[], []⟩).run Sample.conditions
        (activate .empty Sample.device Sample.application (Sample.joinWith 2)).program) ∧
    (Sample.world [] ⟨[], []⟩).run Sample.conditions
        (activate .empty Sample.device Sample.application ⟨.zero .devAddr, some ⟨[1, 2], ""⟩⟩).program =
      (some (.error (.crypto Sample.tooShort)), Sample.world [] ⟨[], []⟩) ∧
    (KekSet.ofEntries [Sample.entryOf '1']).map KekSet.labels =
      (KekSet.ofEntries [Sample.entryOf '2']).map KekSet.labels ∧
    (Sample.entryOf '1').describe = (Sample.entryOf '2').describe ∧
    (KeyEnvelope.mk [1] "lw").describe = (KeyEnvelope.mk [2] "lw").describe := by
  obtain ⟨hRuns, hErrors, hEntries, hEntry, hEnvelope⟩ := keys_stay_hidden
  refine ⟨?_, ?_, ?_, hEntry rfl, hEnvelope rfl rfl⟩
  · have hAddr : (Sample.joinWith 1).devAddr = (Sample.joinWith 2).devAddr := rfl
    have hPlain : ∀ byte, (Sample.joinWith byte).appSKey = some ⟨(Sample.key byte).bytes, ""⟩ :=
      fun _ => rfl
    have hKey : KekSet.empty.resolve ⟨(Sample.key 1).bytes, ""⟩ = .ok (Sample.key 1) := by decide
    have hKey' : KekSet.empty.resolve ⟨(Sample.key 2).bytes, ""⟩ = .ok (Sample.key 2) := by decide
    exact hRuns (Conditions.ofFaults_alike _ _ _ _) hAddr (hPlain 1) (hPlain 2) hKey hKey' _ _ _
  · have hShort : KekSet.empty.resolve ⟨[1, 2], ""⟩ = .error Sample.tooShort := by decide
    have hShort' : KekSet.empty.resolve ⟨[3, 4], ""⟩ = .error Sample.tooShort := by decide
    exact ((hErrors rfl rfl rfl hShort hShort' rfl).2 _ _ _ _ _ rfl)
  · exact (hEntries (.cons Sample.entryOf_alike .nil)).1

end Service

end Lorawan
