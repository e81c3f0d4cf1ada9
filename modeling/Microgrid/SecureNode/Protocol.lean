import Microgrid.SecureNode.NodeSession
import Microgrid.Wire.JsonText

/-!
# The messages of the session in frames

`protocol.py` and its copy in the PC client. A message is a dictionary whose byte strings are
written as hexadecimal text; the receiver turns the text under the keys of `BYTES_FIELDS`
back into bytes. In front of the JSON text stands its length, which each receiver bounds:
the server at 65536, the client at 16384.

A frame is kept as its length and the object that its text spells: `json.loads` undoes
`json.dumps`. How a float is written, which only the length depends on, is a parameter.
-/

namespace Microgrid.SecureNode

open PythonValues HexText JsonText

/-- `BYTES_FIELDS`. -/
def bytesFields : List String :=
  ["A_GEN_bl", "B_GEN_bl", "ID_A", "ID_B", "ShS_A", "ShS_B", "INIT_cif", "SES_cif", "SES_id",
    "MSG_cif", "RES_cif", "A_END_cif", "B_END_cif", "VERIF_cif", "RESP_cif", "CONF_cif"]

/-- `binascii.unhexlify`. -/
def unhexlify : List Char → Option Bytes
  | [] => some []
  | [_] => none
  | top :: bot :: rest =>
    match hexValue top.toNat, hexValue bot.toNat with
    | some high, some low => (unhexlify rest).map (UInt8.ofNat (16 * high + low) :: ·)
    | _, _ => none

mutual

/-- `json.dumps`. -/
def jsonText (floatText : PyFloat → List Char) : PyValue → List Char
  | .none => ['n', 'u', 'l', 'l']
  | .bool true => ['t', 'r', 'u', 'e']
  | .bool false => ['f', 'a', 'l', 's', 'e']
  | .int value => (toString value).toList
  | .float value => floatText value
  | .str text => quoted pythonEscape text
  | .list items => '[' :: (List.intersperse [',', ' '] (itemTexts floatText items)).flatten ++ [']']
  | .dict fields => '{' :: (List.intersperse [',', ' '] (fieldTexts floatText fields)).flatten ++ ['}']

/-- The items of a list. -/
def itemTexts (floatText : PyFloat → List Char) : List PyValue → List (List Char)
  | [] => []
  | item :: items => jsonText floatText item :: itemTexts floatText items

/-- The members of an object. -/
def fieldTexts (floatText : PyFloat → List Char) : List (String × PyValue) → List (List Char)
  | [] => []
  | (key, value) :: fields =>
    (quoted pythonEscape key ++ [':', ' '] ++ jsonText floatText value) :: fieldTexts floatText fields

end

/-- A frame: the length in front, and the object that its text spells. -/
structure Frame where
  length : ℕ
  object : Fields PyValue

/-- The dictionary that `pack_payload` writes. -/
def serialized (payload : Message) : Fields PyValue :=
  payload.map fun (key, value) => (key, match value with
    | .bytes data => .str (bytesHex data)
    | .json value => value)

/-- `pack_payload`. -/
def packPayload (floatText : PyFloat → List Char) (payload : Message) : Except PyException Frame :=
  let body := utf8 (jsonText floatText (.dict (serialized payload)))
  if body.length < 256 ^ 4 then .ok ⟨body.length, serialized payload⟩ else .error .overflow

/-- `unpack_payload`. -/
def unpackPayload (object : Fields PyValue) : Message :=
  object.map fun (key, value) => (key, match value with
    | .str text =>
      if key ∈ bytesFields then
        match unhexlify text.toList with
        | some data => .bytes data
        | none => .json value
      else .json value
    | _ => .json value)

/-- `recv_msg` on the frame that comes next, for a receiver's limit. -/
def recvMsg (limit : ℕ) (frame : Frame) : Except PyException Message :=
  if frame.length = 0 ∨ limit < frame.length then .error .value else .ok (unpackPayload frame.object)

/-- The limit of the server. -/
def serverLimit : ℕ := 65536

/-- The limit of the client. -/
def clientLimit : ℕ := 16384

/-- The byte strings of a message are under keys for byte strings, and its texts are not. -/
def Carried (payload : Message) : Prop :=
  ∀ field ∈ payload, match field.2 with
    | .bytes _ => field.1 ∈ bytesFields
    | .json (.str _) => field.1 ∉ bytesFields
    | .json _ => True

/-- `binascii.unhexlify` undoes `hexlify`. -/
theorem unhexlify_lowerHex (bin : Bytes) : unhexlify (lowerHex bin) = some bin := by
  induction bin with
  | nil => rfl
  | cons byte rest inductionHypothesis =>
    obtain ⟨highSmall, lowSmall, rebuilt⟩ := byte_halves byte
    have high := hexd_digit _ highSmall
    have low := hexd_digit _ lowSmall
    have split : lowerHex (byte :: rest) = hexd.getD (byte.toNat >>> 4) '0' ::
        hexd.getD (byte.toNat &&& 0x0F) '0' :: lowerHex rest := rfl
    rw [split]
    simp only [unhexlify, high.1, low.1, inductionHypothesis, rebuilt, Option.map_some]

/-- A message arrives as it was sent. -/
theorem unpackPayload_serialized {payload : Message} (carried : Carried payload) :
    unpackPayload (serialized payload) = payload := by
  induction payload with
  | nil => rfl
  | cons field rest inductionHypothesis =>
    obtain ⟨key, value⟩ := field
    have later := inductionHypothesis fun other member => carried other (List.mem_cons_of_mem _ member)
    have here := carried _ List.mem_cons_self
    rw [unpackPayload, serialized] at later ⊢
    rw [List.map_cons, List.map_cons, later]
    cases value with
    | bytes data =>
      have listed : key ∈ bytesFields := here
      simp only [bytesHex, String.toList_ofList, unhexlify_lowerHex, if_pos listed]
    | json value =>
      cases value with
      | str text =>
        have unlisted : key ∉ bytesFields := here
        simp only [if_neg unlisted]
      | _ => rfl

/-- The characters that a member takes in an object, with what separates it from the next. -/
def memberSize (floatText : PyFloat → List Char) (field : String × PyValue) : ℕ :=
  12 * field.1.toList.length + (jsonText floatText field.2).length + 6

/-- A quoted text is at most twelve times as long. -/
theorem quoted_length (text : String) :
    (quoted pythonEscape text).length ≤ 12 * text.toList.length + 2 := by
  have escaped : ∀ text : List Char, (text.flatMap pythonEscape).length ≤ 12 * text.length := by
    intro text
    induction text with
    | nil => exact Nat.le_refl 0
    | cons character rest inductionHypothesis =>
      have head := (escape_length_le character).1
      rw [List.flatMap_cons, List.length_append, List.length_cons]
      omega
  have inside := escaped text.toList
  simp only [quoted, List.length_append, List.length_cons, List.length_nil]
  omega

/-- An object is not empty, and no longer than its members. -/
theorem object_length (floatText : PyFloat → List Char) (object : Fields PyValue) :
    0 < (utf8 (jsonText floatText (.dict object))).length ∧
      (utf8 (jsonText floatText (.dict object))).length
        ≤ 4 * ((object.map (memberSize floatText)).sum + 2) := by
  have members : (List.intersperse [',', ' '] (fieldTexts floatText object)).flatten.length
      ≤ (object.map (memberSize floatText)).sum := by
    induction object with
    | nil => exact Nat.le_refl 0
    | cons field rest inductionHypothesis =>
      obtain ⟨key, value⟩ := field
      have quote := quoted_length key
      rw [List.map_cons, List.sum_cons, fieldTexts]
      cases rest with
      | nil =>
        simp only [fieldTexts, List.intersperse_singleton, List.flatten_cons, List.flatten_nil,
          List.append_nil, List.length_append, List.length_cons, List.length_nil, memberSize]
        omega
      | cons second others =>
        simp only [fieldTexts, List.intersperse_cons_cons, List.flatten_cons, List.length_append,
          List.length_cons, List.length_nil, memberSize] at inductionHypothesis ⊢
        omega
  constructor
  · refine Nat.lt_of_lt_of_le ?_ (le_utf8_length _)
    simp only [jsonText, List.cons_append, List.length_cons]
    omega
  · apply (utf8_length_le _).trans
    simp only [jsonText, List.cons_append, List.length_cons, List.length_append, List.length_nil]
    omega

/-- A message that is short enough passes a receiver's limit, and arrives as it was sent. -/
theorem recvMsg_packPayload {floatText : PyFloat → List Char} {payload : Message} {limit : ℕ}
    (carried : Carried payload) (bound : limit < 256 ^ 4)
    (short : (utf8 (jsonText floatText (.dict (serialized payload)))).length ≤ limit) :
    packPayload floatText payload >>= recvMsg limit = .ok payload := by
  obtain ⟨positive, -⟩ := object_length floatText (serialized payload)
  rw [packPayload, if_pos (Nat.lt_of_le_of_lt short bound)]
  simp only [bind, Except.bind, recvMsg]
  rw [if_neg (by omega), unpackPayload_serialized carried]

/-- What arrives is what was sent, whatever its length. -/
theorem recvMsg_packed {floatText : PyFloat → List Char} {payload received : Message} {limit : ℕ}
    (carried : Carried payload)
    (arrived : packPayload floatText payload >>= recvMsg limit = .ok received) :
    received = payload := by
  obtain ⟨frame, packed, arrived⟩ := bind_ok arrived
  rw [packPayload] at packed
  split at packed
  · rw [← Except.ok.inj packed, recvMsg] at arrived
    split at arrived
    · cases arrived
    · rw [← Except.ok.inj arrived, unpackPayload_serialized carried]
  · cases packed

/-- A message of a type, with byte strings and with further fields. -/
def typed (kind : String) (fields : Fields Bytes) (others : Message) : Message :=
  ("type", .json (.str kind)) :: (fields.map fun (key, data) => (key, .bytes data)) ++ others

/-- Byte strings under their keys can be carried along with further fields. -/
theorem carried_typed {kind : String} {fields : Fields Bytes} {others : Message}
    (listed : ∀ field ∈ fields, field.1 ∈ bytesFields) (carried : Carried others) :
    Carried (typed kind fields others) := by
  intro field member
  rcases List.mem_cons.mp member with rfl | member
  · show "type" ∉ bytesFields
    decide
  · rcases List.mem_append.mp member with inside | after
    · obtain ⟨⟨key, data⟩, source, rfl⟩ := List.mem_map.mp inside
      exact listed _ source
    · exact carried field after

/-- What a member with a byte string takes at most: the keys are short. -/
theorem memberSize_bytes (floatText : PyFloat → List Char) {key : String} (listed : key ∈ bytesFields)
    (data : Bytes) : memberSize floatText (key, .str (bytesHex data)) ≤ 24 * data.length + 116 := by
  have keys : ∀ key ∈ bytesFields, key.toList.length ≤ 9 := by decide
  have short := keys key listed
  have text := quoted_length (bytesHex data)
  have hex : (bytesHex data).toList.length = 2 * data.length := by
    rw [bytesHex, String.toList_ofList, lowerHex_length]
  rw [memberSize, jsonText]
  dsimp only
  omega

/-- A message of short fields passes its receiver's limit, and arrives as it was sent. -/
theorem typed_delivered (floatText : PyFloat → List Char) {kind : String} {fields : Fields Bytes}
    {others : Message} (listed : ∀ field ∈ fields, field.1 ∈ bytesFields) (carried : Carried others)
    {limit : ℕ} (bound : limit < 256 ^ 4)
    (short : 4 * (12 * kind.toList.length + (fields.map fun field => 24 * field.2.length + 116).sum
      + ((serialized others).map (memberSize floatText)).sum + 58) ≤ limit) :
    packPayload floatText (typed kind fields others) >>= recvMsg limit
      = .ok (typed kind fields others) := by
  have inner : ((serialized (fields.map fun (key, data) => (key, MsgField.bytes data))).map
      (memberSize floatText)).sum ≤ (fields.map fun field => 24 * field.2.length + 116).sum := by
    clear short
    induction fields with
    | nil => exact Nat.le_refl 0
    | cons field rest inductionHypothesis =>
      have later := inductionHypothesis fun other member => listed other (List.mem_cons_of_mem _ member)
      have here := memberSize_bytes floatText (listed field List.mem_cons_self) field.2
      exact Nat.add_le_add here later
  apply recvMsg_packPayload (carried_typed listed carried) bound
  have size := (object_length floatText (serialized (typed kind fields others))).2
  have whole : serialized (typed kind fields others) = ("type", .str kind) ::
      (serialized (fields.map fun (key, data) => (key, MsgField.bytes data)) ++ serialized others) := by
    simp only [serialized, typed, List.map_append, List.cons_append, List.map_cons]
  have front : memberSize floatText ("type", .str kind) ≤ 12 * kind.toList.length + 56 := by
    have text := quoted_length kind
    have key : "type".toList.length = 4 := rfl
    rw [memberSize, jsonText]
    dsimp only
    omega
  rw [whole, List.map_cons, List.sum_cons, List.map_append, List.sum_append, ← whole] at size
  exact size.trans (le_trans (by omega) short)

end Microgrid.SecureNode
