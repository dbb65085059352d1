import Lorawan.Publication
import Lorawan.Proofs.Text.Identifier
import Lorawan.Proofs.Text.Pieces

/-!
# What subjects tell

The parts of a subject behind its root have no dots in them, so that they can be told from the subject,
whatever the root is (`tokens_subjectOf`).  They name the source of what is published: a notification by its
application, device and kind, an entry of an event log by its device and kind.  The two kinds of subject
never meet, under whatever roots, as one has the identifier of a device where the other has a word.

A broker picks the subjects of a subscription token by token, some tokens standing for others (`selects`).
So the entries of a device can be subscribed to apart from those of all others.

* `notificationSubject_inj`, `entrySubject_inj`, `notificationSubject_ne_entrySubject`: subjects and their
  sources.
* `selects_entryFilter_iff`: which entries a subscription to those of a device selects.
* `tells_source`: all of these.
-/

namespace Lorawan

/-! ## Parts without dots -/

theorem notMem_encodeChars {c : Char} (hDigit : ¬Hex.IsDigit c) (bs : List UInt8) :
    c ∉ Hex.encodeChars bs := by
  intro hc
  have hWrites : Hex.Writes (Hex.encode bs) bs := Hex.decode?_eq_some_iff.mp (Hex.decode?_encode bs)
  exact hDigit (hWrites.1 c (by rwa [Hex.encode, String.toList_ofList]))

theorem Identifier.notMem_text {kind : IdentifierKind} {c : Char} (hDigit : ¬Hex.IsDigit c)
    (id : Identifier kind) : c ∉ id.text.toList := by
  rw [text, Hex.encode, String.toList_ofList]
  exact notMem_encodeChars hDigit id.bytes

/-- No word is an identifier that has a letter beyond `f`. -/
theorem Identifier.text_ne {kind : IdentifierKind} (id : Identifier kind) {word : String} {c : Char}
    (hMem : c ∈ word.toList) (hDigit : ¬Hex.IsDigit c) : id.text ≠ word := by
  rintro rfl
  exact id.notMem_text hDigit hMem

/-! ## Numbers -/

theorem notMem_natRepr {c : Char} (hDigit : c.isDigit = false) (n : Nat) : c ∉ n.repr.toList := by
  intro hMem
  rw [Nat.toList_repr] at hMem
  rw [Nat.isDigit_of_mem_toDigits (by decide) (by decide) hMem] at hDigit
  cases hDigit

theorem natRepr_inj {m n : Nat} (h : m.repr = n.repr) : m = n := by
  have hDigits := congrArg (fun s : String => Nat.ofDigitChars 10 s.toList 0) h
  simpa only [Nat.toList_repr, Nat.ofDigitChars_ten_toDigits] using hDigits

theorem natRepr_ne_minus (m n : Nat) : m.repr ≠ "-" ++ n.repr := by
  intro h
  have hMinus : '-' ∈ ("-" ++ n.repr).toList := by
    rw [String.toList_append]
    exact List.mem_append_left _ (by decide)
  exact notMem_natRepr (by decide) m (h ▸ hMinus)

/-- An integer is told by its sign and its digits. -/
theorem intRepr_inj {m n : Int} (h : m.repr = n.repr) : m = n := by
  rw [Int.repr_eq_if, Int.repr_eq_if] at h
  split at h <;> split at h
  · have hEq := natRepr_inj h
    omega
  · exact absurd h (natRepr_ne_minus _ _)
  · exact absurd h.symm (natRepr_ne_minus _ _)
  · have hChars := congrArg String.toList h
    rw [String.toList_append, String.toList_append] at hChars
    have hEq := natRepr_inj (String.toList_inj.mp (List.append_cancel_left hChars))
    omega

theorem dot_notMem_toString (n : Int) : '.' ∉ (toString n).toList := by
  rw [Int.toString_eq_repr, Int.repr_eq_if]
  split
  · exact notMem_natRepr (by decide) _
  · rw [String.toList_append, List.mem_append, not_or]
    exact ⟨by decide, notMem_natRepr (by decide) _⟩

/-! ## Kinds -/

namespace EventType

theorem label_injective : Function.Injective label := by
  intro t t' h
  cases t <;> cases t' <;> simp_all [label]

theorem topic_injective : Function.Injective topic := by
  intro t t' h
  cases t <;> cases t' <;> simp_all [topic, label]

theorem dot_notMem_label (t : EventType) : '.' ∉ t.label.toList := by cases t <;> decide

theorem dot_notMem_topic (t : EventType) : '.' ∉ t.topic.toList := by cases t <;> decide

end EventType

namespace Subject

/-! ## Tokens -/

/-- The tokens of a subject, which stand between its dots. -/
def tokens (subject : String) : List String := (Text.split '.' subject.toList).map String.ofList

/-- The tokens of a subject are those of its root, followed by its other parts if these have no dots. -/
theorem tokens_subjectOf (root : String) {parts : List String} (hNil : parts ≠ [])
    (h : ∀ part ∈ parts, '.' ∉ part.toList) : tokens (subjectOf (root :: parts)) = tokens root ++ parts := by
  have hJoin : (subjectOf (root :: parts)).toList =
      root.toList ++ '.' :: Text.join '.' (parts.map String.toList) := by
    obtain ⟨part, rest, rfl⟩ := List.exists_cons_of_ne_nil hNil
    rw [subjectOf, String.toList_intercalate, Text.join_eq_intercalate]
    rfl
  -- parts without dots are got back by splitting at the dots
  have hPieces : Text.split '.' (Text.join '.' (parts.map String.toList)) = parts.map String.toList := by
    refine Text.split_join (by simpa using hNil) fun piece hPiece => ?_
    obtain ⟨part, hPart, rfl⟩ := List.mem_map.mp hPiece
    exact h part hPart
  have hBack : (parts.map String.toList).map String.ofList = parts := by
    simp [Function.comp_def]
  rw [tokens, hJoin, Text.split_append_mark, hPieces, List.map_append, hBack, tokens]

/-! ## The two kinds of subject -/

variable {root root' : String} {id id' : Int64} {devEui devEui' : Eui64} {type type' : EventType}

theorem tokens_notificationSubject (root : String) (id : Int64) (devEui : Eui64) (type : EventType) :
    tokens (notificationSubject root id devEui type) =
      tokens root ++ ["application", toString id.toInt, "device", devEui.text, type.topic] := by
  refine tokens_subjectOf root (List.cons_ne_nil _ _) ?_
  simp only [List.forall_mem_cons]
  exact ⟨by decide, dot_notMem_toString _, by decide, devEui.notMem_text (by decide),
    type.dot_notMem_topic, nofun⟩

theorem tokens_entrySubject (root : String) (devEui : Eui64) (type : EventType) :
    tokens (entrySubject root devEui type) =
      tokens root ++ ["device", devEui.text, "event", type.label] := by
  refine tokens_subjectOf root (List.cons_ne_nil _ _) ?_
  simp only [List.forall_mem_cons]
  exact ⟨by decide, devEui.notMem_text (by decide), by decide, type.dot_notMem_label, nofun⟩

/-- Under one root a notification's subject tells its application, device and kind. -/
theorem notificationSubject_inj :
    notificationSubject root id devEui type = notificationSubject root id' devEui' type' ↔
      id = id' ∧ devEui = devEui' ∧ type = type' := by
  refine ⟨fun h => ?_, ?_⟩
  · have hTokens := congrArg tokens h
    rw [tokens_notificationSubject, tokens_notificationSubject, List.append_cancel_left_eq] at hTokens
    simp only [List.cons.injEq, true_and, and_true] at hTokens
    obtain ⟨hId, hDevice, hTopic⟩ := hTokens
    rw [Int.toString_eq_repr, Int.toString_eq_repr] at hId
    exact ⟨Int64.toInt_inj.mp (intRepr_inj hId), Identifier.text_injective hDevice,
      EventType.topic_injective hTopic⟩
  · rintro ⟨rfl, rfl, rfl⟩
    rfl

/-- Under one root the subject of an entry tells its device and kind. -/
theorem entrySubject_inj :
    entrySubject root devEui type = entrySubject root devEui' type' ↔ devEui = devEui' ∧ type = type' := by
  refine ⟨fun h => ?_, ?_⟩
  · have hTokens := congrArg tokens h
    rw [tokens_entrySubject, tokens_entrySubject, List.append_cancel_left_eq] at hTokens
    simp only [List.cons.injEq, true_and, and_true] at hTokens
    exact ⟨Identifier.text_injective hTokens.1, EventType.label_injective hTokens.2⟩
  · rintro ⟨rfl, rfl⟩
    rfl

/-- The subjects of notifications and of entries are different under all roots. -/
theorem notificationSubject_ne_entrySubject :
    notificationSubject root id devEui type ≠ entrySubject root' devEui' type' := by
  intro h
  -- roots may have any number of tokens, so the subjects are compared from their ends
  have hTokens := congrArg (fun subject => (tokens subject).reverse) h
  simp only [tokens_notificationSubject, tokens_entrySubject, List.reverse_append, List.reverse_cons,
    List.reverse_nil, List.nil_append, List.cons_append, List.cons.injEq] at hTokens
  exact devEui.text_ne (c := 'v') (by decide) (by decide) hTokens.2.1

/-! ## Subscriptions -/

/-- Whether the tokens of a pattern select those of a subject: an asterisk stands for any token, an angle
bracket for one token or more at the end, and every other token for itself. -/
def selects : List String → List String → Bool
  | [], subject => subject.isEmpty
  | _ :: _, [] => false
  | token :: pattern, first :: rest =>
    if token = ">" then pattern.isEmpty else (token = "*" || token = first) && selects pattern rest

/-- Whether subscriptions receive what their patterns select.  `receives pattern subject` says that what is
published on the subject reaches those who subscribe to the pattern. -/
def FollowsPatterns (receives : String → String → Prop) : Prop :=
  ∀ pattern subject, receives pattern subject ↔ selects (tokens pattern) (tokens subject) = true

/-- The pattern of the subjects of a device's entries. -/
def entryFilter (root : String) (devEui : Eui64) : String :=
  subjectOf [root, "device", devEui.text, "event", ">"]

/-- Whether a token stands for itself alone. -/
def IsPlain (token : String) : Prop := token ≠ "*" ∧ token ≠ ">"

theorem selects_append_rest_iff {plain subject : List String} (h : ∀ token ∈ plain, IsPlain token) :
    selects (plain ++ [">"]) subject = true ↔ ∃ token later, subject = plain ++ token :: later := by
  induction plain generalizing subject with
  | nil => cases subject <;> simp [selects]
  | cons first plain ih =>
    obtain ⟨hFirst, hRest⟩ := List.forall_mem_cons.mp h
    cases subject with
    | nil => simp [selects]
    | cons token subject =>
      simp only [List.cons_append, selects, hFirst.1, hFirst.2, if_false, decide_false, Bool.false_or,
        Bool.and_eq_true, decide_eq_true_eq, ih hRest, List.cons.injEq]
      constructor
      · rintro ⟨rfl, next, later, rfl⟩
        exact ⟨next, later, rfl, rfl⟩
      · rintro ⟨next, later, rfl, rfl⟩
        exact ⟨rfl, next, later, rfl⟩

theorem isPlain_of_notMem {token : String} (hAny : '*' ∉ token.toList) (hRest : '>' ∉ token.toList) :
    IsPlain token := by
  constructor
  · rintro rfl
    exact hAny (by decide)
  · rintro rfl
    exact hRest (by decide)

theorem mem_of_mem_tokens {subject token : String} (hToken : token ∈ tokens subject) {c : Char}
    (hc : c ∈ token.toList) : c ∈ subject.toList := by
  obtain ⟨piece, hPiece, rfl⟩ := List.mem_map.mp hToken
  rw [String.toList_ofList] at hc
  exact Text.mem_of_mem_split hPiece hc

theorem tokens_entryFilter (root : String) (devEui : Eui64) :
    tokens (entryFilter root devEui) = tokens root ++ ["device", devEui.text, "event"] ++ [">"] := by
  rw [List.append_assoc]
  refine tokens_subjectOf root (List.cons_ne_nil _ _) ?_
  simp only [List.forall_mem_cons]
  exact ⟨by decide, devEui.notMem_text (by decide), by decide, by decide, nofun⟩

/-- Of the entries under a root, the filter for a device selects those of this device. -/
theorem selects_entryFilter_iff (hAny : '*' ∉ root.toList) (hRest : '>' ∉ root.toList) :
    selects (tokens (entryFilter root devEui)) (tokens (entrySubject root devEui' type)) = true ↔
      devEui' = devEui := by
  -- up to the last one, no token of the filter is a wildcard
  have hPlain : ∀ token ∈ tokens root ++ ["device", devEui.text, "event"], IsPlain token := by
    refine List.forall_mem_append.mpr ⟨fun token hToken => ?_, ?_⟩
    · exact isPlain_of_notMem (fun h => hAny (mem_of_mem_tokens hToken h))
        fun h => hRest (mem_of_mem_tokens hToken h)
    · simp only [List.forall_mem_cons]
      exact ⟨⟨by decide, by decide⟩, isPlain_of_notMem (devEui.notMem_text (by decide))
        (devEui.notMem_text (by decide)), ⟨by decide, by decide⟩, nofun⟩
  rw [tokens_entryFilter, selects_append_rest_iff hPlain, tokens_entrySubject]
  simp only [List.append_assoc, List.append_cancel_left_eq, List.cons_append, List.nil_append,
    List.cons.injEq, true_and]
  constructor
  · rintro ⟨token, later, hDevice, -⟩
    exact Identifier.text_injective hDevice
  · rintro rfl
    exact ⟨type.label, [], rfl, rfl, rfl⟩

/-! ## Publications -/

/-- The subject of a publication tells its source.  Under one root, notifications have one subject just if
they are of one kind and about one device of one application, and entries just if they are of one kind and of
one device.  No notification has the subject of an entry, whatever their roots are.  And where a root has no
tokens that stand for others, those who subscribe to the entries of a device receive these and no others. -/
theorem tells_source {receives : String → String → Prop} (hBroker : FollowsPatterns receives) :
    (∀ root (n n' : Notification), (n.publication root).subject = (n'.publication root).subject ↔
      n.origin.applicationId = n'.origin.applicationId ∧ n.origin.devEui = n'.origin.devEui ∧
        n.eventType = n'.eventType) ∧
    (∀ root devEui devEui' (e e' : EventLogEntry),
      (e.publication root devEui).subject = (e'.publication root devEui').subject ↔
        devEui = devEui' ∧ e.type = e'.type) ∧
    (∀ root root' devEui (n : Notification) (e : EventLogEntry),
      (n.publication root).subject ≠ (e.publication root' devEui).subject) ∧
    ∀ root, '*' ∉ root.toList → '>' ∉ root.toList → ∀ devEui devEui' (e : EventLogEntry),
      receives (entryFilter root devEui) (e.publication root devEui').subject ↔ devEui' = devEui := by
  refine ⟨fun root n n' => notificationSubject_inj, fun root devEui devEui' e e' => entrySubject_inj,
    fun root root' devEui n e => notificationSubject_ne_entrySubject, ?_⟩
  intro root hAny hRest devEui devEui' e
  rw [hBroker]
  exact selects_entryFilter_iff hAny hRest

namespace Sample

/-- A status report of a device of an application. -/
def report (id : Int64) (devEui : Eui64) : Notification := .status ⟨⟨id, "farm", "soil-1", devEui⟩, 80, 5⟩

def probe : Eui64 := ⟨[1, 2, 3, 4, 5, 6, 7, 8], rfl⟩

/-- A broker that goes by the patterns. -/
def receives (pattern subject : String) : Prop := selects (tokens pattern) (tokens subject) = true

end Sample

/-- Under a root with a dot in it, the entries of one device are told from those of another, and the reports
of application 7 from those of application -7. -/
theorem tells_source_sample : FollowsPatterns Sample.receives ∧
    Sample.receives (entryFilter "lora.events" Sample.probe)
      ((EventLogEntry.ofNotification (Sample.report 7 Sample.probe)).publication "lora.events"
        Sample.probe).subject ∧
    ¬Sample.receives (entryFilter "lora.events" Sample.probe)
      ((EventLogEntry.ofNotification (Sample.report 7 (.zero .eui64))).publication "lora.events"
        (.zero .eui64)).subject ∧
    ((Sample.report 7 Sample.probe).publication "lora").subject ≠
      ((Sample.report (-7) Sample.probe).publication "lora").subject := by
  have hBroker : FollowsPatterns Sample.receives := fun _ _ => Iff.rfl
  obtain ⟨hNotifications, -, -, hEntries⟩ := tells_source hBroker
  have hOwn := hEntries "lora.events" (by decide) (by decide) Sample.probe
  refine ⟨hBroker, (hOwn _ _).mpr rfl, fun h => ?_, fun h => ?_⟩
  · exact absurd ((hOwn _ _).mp h) (by decide)
  · exact absurd ((hNotifications _ _ _).mp h).1 (by decide)

end Subject

end Lorawan
