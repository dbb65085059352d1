import Lorawan.Codec.PayloadCodec
import Lorawan.Crypto.Envelope
import Lorawan.Event
import Lorawan.Proofs.Record.Notification

/-!
# Reading log entries, key envelopes and codecs back

Entries of an event log and key envelopes are records as notifications are.  A codec is read in two steps:
its kind is taken from among the members, wherever it stands, and then the members that are left are read as
a record of that kind.
-/

namespace Lorawan

open Json (Field Fills Slots Gives Outline)
open Json.Outline

/-! ## Entries of the event log -/

theorem EventType.gives (t : EventType) : t.toJson.Gives read t :=
  Json.gives_of_isAtom trivial (by cases t <;> rfl)

namespace EventLogEntry

/-- An entry is read back; its payload has its members in the order of the document that is read. -/
theorem read_of_same {e : EventLogEntry} (hProper : e.payload.IsProper) {j : Json} (hSame : e.toJson.Same j)
    {depth : Nat} (hDepth : e.payload.nesting < depth) :
    ∃ p, j.get? "payload" = some p ∧ e.payload.Same p ∧ readWithin depth (ofJson j) = .ok ⟨e.type, p⟩ := by
  -- a payload in another order has the same nesting, so that it is not too deep either
  have hPayload {p : Json} (hP : e.payload.Same p) : readJson depth (ofJson p) = .ok p := by
    refine Json.readJson_ofJson (hP.isProper hProper p) ?_
    rwa [hP.nesting_eq hProper p]
  have hFills : Fills (fields depth) [("type", e.type.toJson), ("payload", e.payload)] := by
    refine .given e.type.gives.required <| .given (fun p hP => ?_) .nil
    show discard (readJson depth (ofJson p)) = _
    rw [hPayload hP]
    rfl
  have hNames : ((fields depth).map Field.name).Nodup := (by decide : ((fields 0).map Field.name).Nodup)
  obtain ⟨s, hSlots, hHold⟩ := hFills.exists_slots hNames hSame
  obtain ⟨p, hP, hGet, hFound⟩ := hHold.given ("payload", e.payload) (by simp)
  have hType := hHold.required "type" (by simp) e.type.gives
  have hRead : s.required "payload" (readJson depth) = .ok p := by
    rw [Slots.required, hFound]
    exact hPayload hP
  refine ⟨p, hGet, hP, ?_⟩
  rw [readWithin, bind_of_eq_ok hSlots, bind_of_eq_ok hType, bind_of_eq_ok hRead]
  rfl

end EventLogEntry

/-! ## Key envelopes -/

theorem KeyEnvelope.gives (e : KeyEnvelope) : e.toJson.Gives read e := by
  intro j hSame
  have hKey := Json.gives_base64 e.aesKey
  have hLabel := Json.gives_string e.kekLabel
  have hFills : Fills fields [("aesKey", .text (Base64.encode e.aesKey)), ("kekLabel", .text e.kekLabel)] :=
    .given hKey.required <| .given hLabel.defaulted .nil
  obtain ⟨s, hSlots, hHold⟩ := hFills.exists_slots (by decide) hSame
  rw [read, bind_of_eq_ok hSlots, bind_of_eq_ok (hHold.required "aesKey" (by simp) hKey),
    bind_of_eq_ok (hHold.defaulted "kekLabel" (by simp) hLabel "")]
  rfl

/-! ## Codecs -/

namespace PayloadCodec

theorem Kind.gives (k : Kind) : (Json.text k.label).Gives Kind.read k :=
  Json.gives_of_isAtom trivial (by cases k <;> rfl)

/-- The kind is taken from among the members, wherever it stands, and the others are kept in their order. -/
theorem readMembers_ofMembers {depth : Nat} {before : Option Kind} {others : List (Option String × Outline)}
    {members : List (String × Json)} {k : Kind} (hNames : (members.map Prod.fst).Nodup)
    (hOnce : before.isSome → "kind" ∉ members.map Prod.fst)
    (hKind : ∀ m ∈ members, m.1 = "kind" → m.2 = .text k.label)
    (hOthers : ∀ m ∈ members, ∃ s, m.2 = .text s) :
    readMembers depth before others (ofMembers members) =
      .ok (if "kind" ∈ members.map Prod.fst then some k else before,
        others ++ ofMembers (members.filter (·.1 ≠ "kind"))) := by
  induction members generalizing before others with
  | nil => simp [ofMembers, readMembers]
  | cons m rest ih =>
    obtain ⟨hNew, hRest⟩ := List.nodup_cons.mp hNames
    obtain ⟨hFirstKind, hKind⟩ := List.forall_mem_cons.mp hKind
    obtain ⟨⟨s, hText⟩, hOthers⟩ := List.forall_mem_cons.mp hOthers
    rw [ofMembers, readMembers]
    -- the kind comes once, so it has not come before and does not come again
    by_cases hName : m.1 = "kind"
    · have hNone : before = Option.none := by
        by_contra hSome
        exact hOnce (Option.isSome_iff_ne_none.mpr hSome) (by simp [hName])
      have hRead : Kind.read (ofJson m.2) = .ok k := by
        rw [hFirstKind hName]
        exact k.gives.read
      have hFilter : (m :: rest).filter (·.1 ≠ "kind") = rest.filter (·.1 ≠ "kind") :=
        List.filter_cons_of_neg (by simp [hName])
      have hMem : "kind" ∈ (m :: rest).map Prod.fst := hName ▸ List.mem_cons_self
      rw [hName] at hNew
      rw [if_pos hName, hNone, hRead, hFilter, if_pos hMem]
      dsimp only
      rw [ih hRest (fun _ => hNew) hKind hOthers, if_neg hNew]
      rfl
    · have hRead : readJson depth (ofJson m.2) = .ok m.2 := by
        rw [hText]
        rfl
      have hLater : before.isSome → "kind" ∉ rest.map Prod.fst := fun h hMem =>
        hOnce h (List.mem_cons_of_mem _ hMem)
      have hFilter : (m :: rest).filter (·.1 ≠ "kind") = m :: rest.filter (·.1 ≠ "kind") :=
        List.filter_cons_of_pos (by simp [hName])
      have hMem : "kind" ∈ (m :: rest).map Prod.fst ↔ "kind" ∈ rest.map Prod.fst := by
        rw [List.map_cons, List.mem_cons, or_iff_right (Ne.symm hName)]
      have hOthersRead : readMembers depth before (others ++ [(some m.1, ofJson m.2)]) (ofMembers rest) = _ :=
        ih hRest hLater hKind hOthers
      rw [List.append_assoc, List.singleton_append] at hOthersRead
      rw [if_neg hName, hRead, hFilter, ofMembers]
      simp only [hMem]
      exact hOthersRead

/-- What is left of a codec's members is read by its kind. -/
theorem gives_of_readContent {c : PayloadCodec} {k : Kind} {content : List (String × Json)}
    (hJson : c.toJson = .object (("kind", .text k.label) :: content))
    (hNames : (("kind" :: content.map Prod.fst)).Nodup) (hTexts : ∀ m ∈ content, ∃ s, m.2 = .text s)
    (hContent : (Json.object content).Gives (readContent k) c) (depth : Nat) :
    c.toJson.Gives (readWithin depth) c := by
  intro j hSame
  rw [hJson] at hSame
  have hAllTexts : ∀ m ∈ ("kind", Json.text k.label) :: content, ∃ s, m.2 = .text s :=
    List.forall_mem_cons.mpr ⟨⟨_, rfl⟩, hTexts⟩
  obtain ⟨members, rfl, hPerm⟩ := hSame.exists_perm fun m hm => by
    obtain ⟨s, hText⟩ := hAllTexts m hm
    rw [hText]
    trivial
  have hKind : ∀ m ∈ members, m.1 = "kind" → m.2 = .text k.label := by
    intro m hm hName
    rcases List.mem_cons.mp (hPerm.mem_iff.mpr hm) with rfl | hRest
    · rfl
    · exact absurd (hName ▸ List.mem_map_of_mem hRest) (List.nodup_cons.mp hNames).1
  have hMem : "kind" ∈ members.map Prod.fst := (hPerm.map Prod.fst).mem_iff.mp List.mem_cons_self
  have hRead : readMembers depth Option.none [] (ofMembers members) =
      .ok (some k, ofMembers (members.filter (·.1 ≠ "kind"))) := by
    rw [readMembers_ofMembers ((hPerm.map Prod.fst).nodup_iff.mp hNames) (fun h => by cases h) hKind
      fun m hm => hAllTexts m (hPerm.mem_iff.mpr hm), if_pos hMem]
    rfl
  -- the members that are left are the content in some order
  have hLeft : (("kind", Json.text k.label) :: content).filter (·.1 ≠ "kind") = content := by
    rw [List.filter_cons_of_neg (by simp), List.filter_eq_self]
    intro m hm
    have hNe : m.1 ≠ "kind" := fun hName =>
      (List.nodup_cons.mp hNames).1 (hName ▸ List.mem_map_of_mem hm)
    simpa using hNe
  have hOrder := hPerm.filter (·.1 ≠ "kind")
  rw [hLeft] at hOrder
  rw [ofJson, readWithin, bind_of_eq_ok hRead]
  exact hContent _ (Json.same_of_perm hOrder)

theorem gives (c : PayloadCodec) (depth : Nat) : c.toJson.Gives (readWithin depth) c := by
  cases c with
  | none =>
    exact gives_of_readContent (k := .none) rfl (by decide) (List.forall_mem_nil _) (fun _ _ => rfl) depth
  | cayenneLpp =>
    exact gives_of_readContent (k := .cayenneLpp) rfl (by decide) (List.forall_mem_nil _)
      (fun _ _ => rfl) depth
  | customScript encoder decoder =>
    refine gives_of_readContent (k := .customScript) rfl ?_ ?_ ?_ depth
    · show ["kind", "encoder_script", "decoder_script"].Nodup
      decide
    · simp
    · -- both scripts are found, in whatever order the members are
      intro j hSame
      have hEncoder := Json.gives_string encoder
      have hDecoder := Json.gives_string decoder
      have hFills : Fills scriptFields
          [("encoder_script", .text encoder), ("decoder_script", .text decoder)] :=
        .given hEncoder.required <| .given hDecoder.required .nil
      obtain ⟨s, hSlots, hHold⟩ := hFills.exists_slots (by decide) hSame
      rw [readContent, bind_of_eq_ok hSlots,
        bind_of_eq_ok (hHold.required "encoder_script" (by simp) hEncoder),
        bind_of_eq_ok (hHold.required "decoder_script" (by simp) hDecoder)]
      rfl

end PayloadCodec

end Lorawan
