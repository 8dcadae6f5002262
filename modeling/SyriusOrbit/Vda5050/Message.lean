import SyriusOrbit.Vda5050.State
import SyriusOrbit.Vda5050.Order
import SyriusOrbit.Vda5050.ZoneSet
import SyriusOrbit.Vda5050.FactSheet

/-!
# The eight message types

The messages exchanged over MQTT, as one family of types indexed by `MessageType`, so that what holds of all of them
is stated once.  The main result is `keeps_iff_exact_of_decode`: decoding and encoding again keeps the data of a
payload exactly where the payload holds nothing the types have to replace.
-/

namespace SyriusOrbit.Vda5050

open JsonFormat

inductive MessageType where
  | order | instantActions | responses | zoneSet | state | visualization | connection | factsheet
  deriving DecidableEq

/-- The structure a message of the type is decoded to. -/
abbrev MessageType.Message : MessageType → Type
  | .order => Order
  | .instantActions => InstantActions
  | .responses => Responses
  | .zoneSet => ZoneSetMessage
  | .state => State
  | .visualization => Visualization
  | .connection => Connection
  | .factsheet => FactSheet

variable [JsonLibrary]

instance (t : MessageType) : JsonRecord t.Message :=
  match t with
  | .order => (inferInstance : JsonRecord Order)
  | .instantActions => (inferInstance : JsonRecord InstantActions)
  | .responses => (inferInstance : JsonRecord Responses)
  | .zoneSet => (inferInstance : JsonRecord ZoneSetMessage)
  | .state => (inferInstance : JsonRecord State)
  | .visualization => (inferInstance : JsonRecord Visualization)
  | .connection => (inferInstance : JsonRecord Connection)
  | .factsheet => (inferInstance : JsonRecord FactSheet)

/-- `nlohmann::json(m)`. -/
def json {t : MessageType} (m : t.Message) : Json := (toJson m).canon

/-- Decoding `json(m)` gives the message back. -/
theorem fromJson_json {t : MessageType} (m : t.Message) : fromJson (json m) = .ok m := by
  rw [json, fromJson_canon, fromJson_toJson]

/-- `nlohmann::json::parse(payload).get<T>()`. -/
def decode {α : Type} [JsonCodec α] (payload : String) : Except JsonError α :=
  JsonLibrary.parse payload >>= fromJson

/-- Parsing the text of a value gives the value, as `nlohmann::json` holds it. -/
def ParsesBack (j : Json) : Prop := JsonLibrary.parse (JsonLibrary.dump j) = .ok j.canon

omit [JsonLibrary] in
theorem parsesBack_ofText (text : String) (j : Json) :
    letI := JsonLibrary.ofText text j
    ParsesBack j := by
  exact if_pos rfl

omit [JsonLibrary] in
theorem parsesBack_json_ofText (text : String) (j : Json) :
    letI := JsonLibrary.ofText text j
    ∀ {t : MessageType} (m : t.Message), toJson m = j → ParsesBack (json m) := by
  let lib := JsonLibrary.ofText text j
  intro t m h
  have hparse : JsonLibrary.parse (JsonLibrary.dump (json m)) = .ok j.canon := if_pos rfl
  rw [ParsesBack, hparse, json, canon_canon, h]

omit [JsonLibrary] in
theorem parsesBack_json_ofTexts (texts : List (Int × String × Json)) (e : Int × String × Json) :
    letI := JsonLibrary.ofTexts texts
    ∀ {t : MessageType} (m : t.Message), (toJson m).find? "headerId" = some (.int e.1) → toJson m = e.2.2 →
      (texts.find? fun e' => decide (e'.1 = e.1)) = some e →
      (texts.find? fun e' => decide (e'.2.1 = e.2.1)) = some e → ParsesBack (json m) := by
  let lib := JsonLibrary.ofTexts texts
  intro t m hid hm hentry htext
  have hdump : lib.dump (json m) = e.2.1 := by
    refine JsonLibrary.dump_ofTexts ?_ hentry
    rw [json, Json.find?_canon, hid]
    rfl
  have hparse : lib.parse e.2.1 = .ok e.2.2.canon := JsonLibrary.parse_ofTexts htext
  rw [ParsesBack, hdump, hparse, json, canon_canon, hm]

omit [JsonLibrary] in
theorem decode_ofTexts (texts : List (Int × String × Json)) (e : Int × String × Json) :
    letI := JsonLibrary.ofTexts texts
    ∀ {t : MessageType} (m : t.Message), toJson m = e.2.2 →
      (texts.find? fun e' => decide (e'.2.1 = e.2.1)) = some e → decode e.2.1 = .ok m := by
  let lib := JsonLibrary.ofTexts texts
  intro t m hm htext
  have hparse : lib.parse e.2.1 = .ok e.2.2.canon := JsonLibrary.parse_ofTexts htext
  rw [decode, hparse, ← hm]
  exact (fromJson_canon _).trans (fromJson_toJson m)

theorem decode_dump {α : Type} [JsonCodec α] [LawfulJsonCodec α] {j : Json} (h : ParsesBack j) :
    decode (α := α) (JsonLibrary.dump j) = fromJson j := by
  rw [decode, h]
  exact fromJson_canon j

/-- The payload can be decoded without replacing any of its data by a default of the library: enumerations hold
names of their tables and numbers fit their members. -/
def ExactPayload (t : MessageType) (j : Json) : Prop := (schema t.Message).Exact j

/-- Encoding the message again gives the data of the payload under each declared key, at every depth. -/
def KeepsPayload {t : MessageType} (j : Json) (m : t.Message) : Prop := (schema t.Message).Keeps j (json m)

/-- A payload keeps its data through decoding and encoding if and only if it is rejected or exact. -/
theorem keeps_iff_exact_of_decode (t : MessageType) (ms : Members) :
    (∀ m : t.Message, fromJson (.obj ms) = .ok m → KeepsPayload (.obj ms) m) ↔
      (∀ m : t.Message, fromJson (.obj ms) ≠ .ok m) ∨ ExactPayload t (.obj ms) := by
  constructor
  · intro h
    by_cases hm : ∃ m : t.Message, fromJson (.obj ms) = .ok m
    · obtain ⟨m, hm⟩ := hm
      exact .inr ((keeps_iff_exact hm).1 (h m hm))
    · exact .inl fun m hok => hm ⟨m, hok⟩
  · rintro (hreject | hexact) m hm
    · exact absurd hm (hreject m)
    · exact (keeps_iff_exact hm).2 hexact

omit [JsonLibrary] in
theorem not_keepsPayload_of_unknown_state :
    ¬ ∀ [JsonLibrary] (t : MessageType) (ms : Members) (m : t.Message),
      fromJson (.obj ms) = .ok m → KeepsPayload (.obj ms) m := by
  intro h
  let lib : JsonLibrary := .ofText "null" .null
  have hdecode : fromJson (.obj [("connectionState", .str "SLEEPING")]) = .ok (default : Connection) := rfl
  have hkeeps := h .connection [("connectionState", .str "SLEEPING")] default hdecode
  obtain ⟨v, hv, rfl⟩ := hkeeps.2.2.2.2.2.2.1 (.str "SLEEPING") rfl (by simp)
  have honline : (json (t := .connection) default).find? "connectionState" = some (.str "ONLINE") := by
    rw [json, Json.find?_canon]
    rfl
  rw [honline] at hv
  simp at hv

/-! ### A robot goes online and offline -/

def acmeOnline : Connection := ⟨1, "2026-01-01T00:00:05Z", "3.0.0", "acme", "7", .online⟩

def acmeOffline : Connection := ⟨2, "2026-01-01T01:00:00Z", "3.0.0", "acme", "7", .offline⟩

/-- The values and texts of the two messages. -/
def onlineText : Int × String × Json :=
  (1, "\x7b\"connectionState\":\"ONLINE\",\"headerId\":1,\"manufacturer\":\"acme\",\"serialNumber\":\"7\"," ++
      "\"timestamp\":\"2026-01-01T00:00:05Z\",\"version\":\"3.0.0\"\x7d",
    .obj [("headerId", .int 1), ("timestamp", .str "2026-01-01T00:00:05Z"), ("version", .str "3.0.0"),
      ("manufacturer", .str "acme"), ("serialNumber", .str "7"), ("connectionState", .str "ONLINE")])

def offlineText : Int × String × Json :=
  (2, "\x7b\"connectionState\":\"OFFLINE\",\"headerId\":2,\"manufacturer\":\"acme\",\"serialNumber\":\"7\"," ++
      "\"timestamp\":\"2026-01-01T01:00:00Z\",\"version\":\"3.0.0\"\x7d",
    .obj [("headerId", .int 2), ("timestamp", .str "2026-01-01T01:00:00Z"), ("version", .str "3.0.0"),
      ("manufacturer", .str "acme"), ("serialNumber", .str "7"), ("connectionState", .str "OFFLINE")])

def connectionTexts : List (Int × String × Json) := [onlineText, offlineText]

omit [JsonLibrary] in
theorem parsesBack_acme :
    letI := JsonLibrary.ofTexts connectionTexts
    ParsesBack (json (t := .connection) acmeOnline) ∧ ParsesBack (json (t := .connection) acmeOffline) := by
  let lib := JsonLibrary.ofTexts connectionTexts
  constructor
  · exact parsesBack_json_ofTexts _ onlineText (t := .connection) _ rfl rfl rfl (by simp [connectionTexts])
  · exact parsesBack_json_ofTexts _ offlineText (t := .connection) _ rfl rfl rfl
      (by simp [connectionTexts, onlineText, offlineText])

omit [JsonLibrary] in
theorem decode_acme :
    letI := JsonLibrary.ofTexts connectionTexts
    decode onlineText.2.1 = .ok acmeOnline ∧ decode offlineText.2.1 = .ok acmeOffline := by
  constructor
  · exact decode_ofTexts _ onlineText (t := .connection) _ rfl (by simp [connectionTexts])
  · exact decode_ofTexts _ offlineText (t := .connection) _ rfl (by simp [connectionTexts, onlineText, offlineText])

end SyriusOrbit.Vda5050
