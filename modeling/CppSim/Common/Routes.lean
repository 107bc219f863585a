import CppSim.Common.Acceptance
import CppSim.Common.Reread

/-!
# Two routes to a message

A session parses a text once: it extracts the header, looks at the message type and
hands the parsed envelope to the parser of that type.  The one-shot parsers do all of
this from the text.  `singleParse_eq_oneShot` says that the two routes end in the same
message, and that no text is a message of two types.

The header has acceptance rules of its own.  It accepts every envelope whose type is
known, because the type is a string of the envelope and no known type is longer than
the header allows.
-/

namespace CppSim.Protocol

/-- Extract the header, dispatch on its type and parse the envelope. -/
def parseByHeader {T : Type} (lib : JsonLib) (messageType : Text)
    (parseEnvelope : Json → Logged (Option T)) (s : Text) : Option T :=
  match (extractMessageTypeAndJson lib s).value with
  | none => none
  | some header =>
      if header.messageType = messageType then (parseEnvelope header.envelopeJson).value else none

section Routes

variable {lib : JsonLib} {T : Type} {s messageType version : Text} {j : Json} {m : T}
  {fromJson : Json → Except Exn T}

/-- The type of an envelope is a string field. -/
theorem Carries.field?_messageType (h : Carries fromJson messageType version j m) :
    j.field? (text "message_type") = some (.string messageType) := by
  obtain ⟨payload, henvelope, -⟩ := h
  simp only [MessageEnvelope.fromJson, bind, except_bind_eq_ok] at henvelope
  obtain ⟨value, hvalue, type, htype, _, _, _, _, _, _, hsame⟩ := henvelope
  obtain rfl : type = messageType := congrArg MessageEnvelope.messageType (Except.ok.inj hsame)
  rw [Json.field?_of_atKey hvalue, Json.eq_string_of_getString htype]

/-- A value carries a message of one type only. -/
theorem Carries.messageType_eq {T T' : Type} {fromJson : Json → Except Exn T}
    {fromJson' : Json → Except Exn T'} {messageType messageType' version version' : Text} {j : Json}
    {m : T} {m' : T'} (h : Carries fromJson messageType version j m)
    (h' : Carries fromJson' messageType' version' j m') : messageType = messageType' := by
  have hfield := h.field?_messageType
  rw [h'.field?_messageType] at hfield
  cases hfield
  rfl

/-- A value carries one message of a type. -/
theorem Carries.eq {T : Type} {fromJson : Json → Except Exn T}
    {messageType version : Text} {j : Json} {m m' : T} (h : Carries fromJson messageType version j m)
    (h' : Carries fromJson messageType version j m') : m = m' := by
  obtain ⟨payload, henvelope, hm⟩ := h
  obtain ⟨payload', henvelope', hm'⟩ := h'
  rw [henvelope] at henvelope'
  cases henvelope'
  rw [hm] at hm'
  exact Except.ok.inj hm'

/-- A header of the type is extracted when the text is an object with a string of the
length of a type under its key. -/
theorem extractMessageTypeAndJson_eq_some {header : ParsedMessageHeader} :
    (extractMessageTypeAndJson lib s).value = some header ↔
      lib.parse s = .ok header.envelopeJson ∧
        header.envelopeJson.field? (text "message_type") = some (.string header.messageType) ∧
        header.messageType.length ≤ maxMessageTypeLength := by
  unfold extractMessageTypeAndJson
  cases hparse : lib.parse s with
  | error what => simp [Logged.reject]
  | ok j =>
      simp only
      constructor
      · intro h
        split at h
        · rename_i type htype
          split at h
          · cases h
          · rename_i hlength
            cases Option.some.inj h
            exact ⟨rfl, htype, not_lt.mp hlength⟩
        · cases h
      · rintro ⟨hj, hfield, hlength⟩
        cases Except.ok.inj hj
        simp only [hfield, if_neg (not_lt.mpr hlength)]
        rfl

/-- A parser of envelopes that accepts those of one known type is reached from the text. -/
theorem parseByHeader_eq_some {parseEnvelope : Json → Logged (Option T)} {Valid : T → Prop}
    (hlength : messageType.length ≤ maxMessageTypeLength)
    (hparser : ∀ j m, (parseEnvelope j).value = some m ↔
      Carries fromJson messageType version j m ∧ Valid m) :
    parseByHeader lib messageType parseEnvelope s = some m ↔
      ∃ j, lib.parse s = .ok j ∧ Carries fromJson messageType version j m ∧ Valid m := by
  unfold parseByHeader
  constructor
  · intro h
    split at h
    · cases h
    · rename_i header hheader
      split at h
      · exact ⟨header.envelopeJson, (extractMessageTypeAndJson_eq_some.mp hheader).1,
          (hparser _ _).mp h⟩
      · cases h
  · rintro ⟨j, hparse, hcarries, hvalid⟩
    have hheader : (extractMessageTypeAndJson lib s).value = some ⟨messageType, j⟩ :=
      extractMessageTypeAndJson_eq_some.mpr ⟨hparse, hcarries.field?_messageType, hlength⟩
    rw [hheader]
    simp only [if_true]
    exact (hparser j m).mpr ⟨hcarries, hvalid⟩

/-- The parsers by their types, and whether they return a message. -/
def verdicts (lib : JsonLib) (s : Text) : List (Text × Bool) :=
  [(MessageType.handshake, (parseHandshake lib s).value.isSome),
    (MessageType.action, (parseAction lib s).value.isSome),
    (MessageType.reloadRequest, (parseReloadRequest lib s).value.isSome),
    (MessageType.disconnect, (parseDisconnect lib s).value.isSome)]

/-- The types of which the text is a message. -/
def acceptedTypes (lib : JsonLib) (s : Text) : List Text :=
  ((verdicts lib s).filter Prod.snd).map Prod.fst

/-- The type a text names in its envelope. -/
def namedType? (lib : JsonLib) (s : Text) : Option Json :=
  match lib.parse s with
  | .ok j => j.field? (text "message_type")
  | .error _ => none

theorem namedType?_of_carries (hparse : lib.parse s = .ok j)
    (h : Carries fromJson messageType version j m) :
    namedType? lib s = some (.string messageType) := by
  simp only [namedType?, hparse, h.field?_messageType]

/-- A parser returns a message only of the type that the text names. -/
theorem namedType?_of_mem_acceptedTypes (h : messageType ∈ acceptedTypes lib s) :
    namedType? lib s = some (.string messageType) := by
  obtain ⟨entry, hentry, rfl⟩ := List.mem_map.mp h
  obtain ⟨hmem, haccepted⟩ := List.mem_filter.mp hentry
  simp only [verdicts, List.mem_cons, List.not_mem_nil, or_false] at hmem
  rcases hmem with rfl | rfl | rfl | rfl <;> obtain ⟨m, hm⟩ := Option.isSome_iff_exists.mp haccepted
  · obtain ⟨j, hparse, hcarries, -⟩ := parseHandshake_eq_some.mp hm
    exact namedType?_of_carries hparse hcarries
  · obtain ⟨j, hparse, hcarries, -⟩ := parseAction_eq_some.mp hm
    exact namedType?_of_carries hparse hcarries
  · obtain ⟨j, hparse, hcarries, -⟩ := parseReloadRequest_eq_some.mp hm
    exact namedType?_of_carries hparse hcarries
  · obtain ⟨j, hparse, hcarries, -⟩ := parseDisconnect_eq_some.mp hm
    exact namedType?_of_carries hparse hcarries

theorem nodup_acceptedTypes : (acceptedTypes lib s).Nodup := by
  have hsublist : (acceptedTypes lib s).Sublist ((verdicts lib s).map Prod.fst) :=
    List.Sublist.map Prod.fst List.filter_sublist
  apply hsublist.nodup
  change [MessageType.handshake, MessageType.action, MessageType.reloadRequest,
    MessageType.disconnect].Nodup
  decide

/-- A text is a message of at most one type. -/
theorem length_acceptedTypes_le_one : (acceptedTypes lib s).length ≤ 1 := by
  have hnodup : (acceptedTypes lib s).Nodup := nodup_acceptedTypes
  have hnamed : ∀ type ∈ acceptedTypes lib s, namedType? lib s = some (.string type) :=
    fun type htype => namedType?_of_mem_acceptedTypes htype
  generalize acceptedTypes lib s = types at hnodup hnamed ⊢
  match types with
  | [] | [_] => simp
  | first :: second :: rest =>
      have hfirst := hnamed first List.mem_cons_self
      have hsecond := hnamed second (List.mem_cons_of_mem _ List.mem_cons_self)
      have hsame : first = second := by simpa [hfirst] using hsecond
      simp [hsame] at hnodup

/-- The two routes end in the same message, and no text is a message of two types. -/
theorem singleParse_eq_oneShot (lib : JsonLib) (s : Text) :
    parseByHeader lib MessageType.action (parseActionFromEnvelope lib) s =
        (parseAction lib s).value ∧
      parseByHeader lib MessageType.reloadRequest (parseReloadFromEnvelope lib) s =
        (parseReloadRequest lib s).value ∧
      parseByHeader lib MessageType.disconnect (parseDisconnectFromEnvelope lib) s =
        (parseDisconnect lib s).value ∧
      (acceptedTypes lib s).length ≤ 1 := by
  refine ⟨?_, ?_, ?_, ?_⟩
  · apply Option.ext
    intro m
    rw [parseAction_eq_some]
    exact parseByHeader_eq_some (by decide) fun _ _ => parseActionFromEnvelope_eq_some
  · apply Option.ext
    intro m
    rw [parseReloadRequest_eq_some]
    exact parseByHeader_eq_some (by decide) fun _ _ => parseReloadFromEnvelope_eq_some
  · apply Option.ext
    intro m
    rw [parseDisconnect_eq_some]
    exact parseByHeader_eq_some (by decide) fun _ _ => parseDisconnectFromEnvelope_eq_some
  · exact length_acceptedTypes_le_one

end Routes

end CppSim.Protocol
