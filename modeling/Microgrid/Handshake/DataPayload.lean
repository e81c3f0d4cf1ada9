import Microgrid.Handshake.DataChannel

/-!
# One payload on its way to the server

`secure_channel_send_demo_message` encrypts a payload of any length, writes every byte of it
as two digits and sends the frame; nothing on the way checks a size. The server refuses
bodies over 64 KiB. So a payload that was reported as sent is recovered exactly if the
printed message is within that limit, which it is up to 32714 bytes.
-/

namespace Microgrid.DataChannel

open Handshake Framing JsonText RotSession HexText Processes

/-- `secure_channel_send_demo_message`, with the nonce that is drawn and whether the two
buffers could be allocated. -/
def secureChannelSendDemoMessage (gcm : Gcm) (allocated : Bool) (key nonce jsonPayload : Bytes) :
    Process UInt8 NetError Bool :=
  let plaintext := jsonPayload.takeWhile (· ≠ 0)
  if !allocated then .done false
  else
    match secureChannelEncrypt gcm key nonce plaintext with
    | none => .done false
    | some data => netMsgSend (dataMessage data)

/-- AES-GCM as two libraries implement it: ciphertexts are as long as their plaintexts, and
decryption undoes encryption. -/
def Matching (gcm : Gcm) (runtime : Runtime) : Prop :=
  ∀ key nonce plaintext ciphertext tag, key.length = rotDigestLen → nonce.length = gcmNonceLen →
    gcm key nonce plaintext = some (ciphertext, tag) →
    ciphertext.length = plaintext.length ∧ tag.length = gcmTagLen ∧
      runtime.decrypt key nonce (ciphertext ++ tag) = some plaintext

/-- The longest payload that is within the server's limit. -/
def longestPayload : Nat := 32714

/-- Digits are printed as they are, one byte each. -/
theorem digit_printed {digit : Char} (member : digit ∈ hexd) :
    cJsonEscape digit = [digit] ∧ (String.utf8EncodeChar digit).length = 1 := by
  obtain ⟨value, small, rfl⟩ := hexd_position member
  obtain ⟨isDigit, -, -, -, encoded, -, -⟩ := hexd_digit value small
  generalize hexd.getD value '0' = digit at isDigit encoded
  have codes : 48 ≤ digit.toNat ∧ digit.toNat ≤ 102 ∧ digit.toNat ≠ 92 := by
    unfold hexValue at isDigit
    split_ifs at isDigit <;> omega
  obtain ⟨low, high, noBackslash⟩ := codes
  have quote : digit ≠ '"' := by
    rintro rfl
    exact absurd low (by decide)
  have backslash : digit ≠ '\\' := by
    rintro rfl
    exact noBackslash rfl
  constructor
  · have plain : shortEscape digit = none := by
      rw [shortEscape, if_neg quote, if_neg backslash]
      split_ifs <;> first | omega | rfl
    rw [cJsonEscape, plain]
    exact if_neg (by omega)
  · rw [encoded]
    rfl

/-- The number of bytes a text of digits is printed in. -/
theorem printed_length (bin : Bytes) :
    (utf8 ((binToHex bin).toList.flatMap cJsonEscape)).length = 2 * bin.length := by
  have digits := lowerHex_digits bin
  rw [binToHex, String.toList_ofList, ← lowerHex_length]
  generalize lowerHex bin = text at digits
  induction text with
  | nil => rfl
  | cons digit rest inductionHypothesis =>
    obtain ⟨kept, single⟩ := digit_printed (digits digit List.mem_cons_self)
    have later := inductionHypothesis fun other member => digits other (List.mem_cons_of_mem _ member)
    rw [utf8] at later ⊢
    rw [List.flatMap_cons, kept, List.singleton_append, List.flatMap_cons, List.length_append, single,
      later, List.length_cons]
    omega

/-- The length of a data message in print. -/
theorem dataMessage_length (data : DataFields) :
    (cJSON_PrintUnformatted (dataMessage data)).length
      = 51 + 2 * data.nonce.length + 2 * data.ciphertext.length + 2 * data.tag.length := by
  have nonce := printed_length data.nonce
  have ciphertext := printed_length data.ciphertext
  have tag := printed_length data.tag
  have joined : ∀ first second : List Char, (utf8 (first ++ second)).length
      = (utf8 first).length + (utf8 second).length := by
    intro first second
    rw [utf8, List.flatMap_append, List.length_append]
    rfl
  set front := '{' :: quoted cJsonEscape "type" ++ ':' :: quoted cJsonEscape "data" ++
    ',' :: quoted cJsonEscape "nonce" ++ [':', '"'] with frontNamed
  set middle := '"' :: ',' :: quoted cJsonEscape "ciphertext" ++ [':', '"'] with middleNamed
  set back := '"' :: ',' :: quoted cJsonEscape "tag" ++ [':', '"'] with backNamed
  have shape : cJSON_PrintUnformatted (dataMessage data) =
      utf8 (front ++ ((binToHex data.nonce).toList.flatMap cJsonEscape ++
        (middle ++ ((binToHex data.ciphertext).toList.flatMap cJsonEscape ++
        (back ++ ((binToHex data.tag).toList.flatMap cJsonEscape ++ ['"', '}'])))))) := by
    simp only [cJSON_PrintUnformatted, dataMessage, List.map_cons, List.map_nil, member, quoted,
      List.intersperse_cons_cons, List.intersperse_singleton, List.flatten_cons, List.flatten_nil,
      List.append_nil, List.append_assoc, List.cons_append, List.nil_append, frontNamed, middleNamed,
      backNamed]
  have frontLength : (utf8 front).length = 24 := by decide +kernel
  have middleLength : (utf8 middle).length = 16 := by decide +kernel
  have backLength : (utf8 back).length = 9 := by decide +kernel
  have endLength : (utf8 ['"', '}']).length = 2 := by decide +kernel
  rw [shape]
  simp only [joined]
  omega

/-- What encrypting a payload yields. -/
theorem encrypted_payload {gcm : Gcm} {runtime : Runtime} (matching : Matching gcm runtime)
    {key nonce payload : Bytes} (keySize : key.length = rotDigestLen)
    (nonceSize : nonce.length = gcmNonceLen) {data : DataFields}
    (encrypted : secureChannelEncrypt gcm key nonce payload = some data) :
    data.nonce.length = gcmNonceLen ∧ data.tag.length = gcmTagLen ∧
      data.ciphertext.length = payload.length ∧
      runtime.decrypt key data.nonce (data.ciphertext ++ data.tag) = some payload := by
  obtain ⟨⟨ciphertext, tag⟩, sealed, rfl⟩ := Option.map_eq_some_iff.mp encrypted
  obtain ⟨cipherSize, tagSize, decrypts⟩ :=
    matching key nonce payload ciphertext tag keySize nonceSize sealed
  exact ⟨nonceSize, tagSize, cipherSize, decrypts⟩

/-- Without a NUL, the string is all of it. -/
theorem strlen_whole {payload : Bytes} (text : 0 ∉ payload) :
    payload.takeWhile (· ≠ 0) = payload :=
  List.takeWhile_eq_self_iff.mpr fun _ member => decide_eq_true fun zero => text (zero ▸ member)

namespace Sample

/-- The sample server with a parser that knows the data messages of one payload. -/
def serverFor (data : DataFields) : Runtime :=
  { runtime with loads body :=
      if body = cJSON_PrintUnformatted (dataMessage data) then some (dataMessage data).toJson
      else none }

theorem matching (data : DataFields) : Matching gcm (serverFor data) := by
  intro key nonce plaintext ciphertext tag keySize nonceSize sealed
  obtain ⟨rfl, rfl⟩ := Prod.mk.inj (Option.some.inj sealed)
  have tagSize : (key.take gcmTagLen).length = gcmTagLen := by
    rw [List.length_take, keySize]
    rfl
  have cut : (plaintext ++ key.take gcmTagLen).length - gcmTagLen = plaintext.length := by
    rw [List.length_append, tagSize, Nat.add_sub_cancel]
  refine ⟨rfl, tagSize, ?_⟩
  rw [serverFor, runtime]
  dsimp only
  rw [cut, List.drop_left, List.take_left, if_pos rfl]

/-- A payload of any length as the device sends it. -/
def dataOf (payload : Bytes) : DataFields :=
  { nonce := List.replicate gcmNonceLen 1, ciphertext := payload, tag := key.take gcmTagLen }

/-- The sample server parses what the sample device sends for the payload. -/
theorem parses {payload : Bytes} (data : DataFields) (encrypted :
    secureChannelEncrypt gcm key (List.replicate gcmNonceLen 1) payload = some data) :
    (serverFor (dataOf payload)).loads (cJSON_PrintUnformatted (dataMessage data))
      = some (dataMessage data).toJson := by
  have same : dataOf payload = data := Option.some.inj encrypted
  rw [same, serverFor]
  dsimp only
  rw [if_pos rfl]

/-- The sample device reports every payload as sent. -/
theorem reports {payload : Bytes} (text : 0 ∉ payload) :
    (secureChannelSendDemoMessage gcm true key (List.replicate gcmNonceLen 1) payload).feed []
      = (.done true, frame (cJSON_PrintUnformatted (dataMessage (dataOf payload))), []) := by
  rw [secureChannelSendDemoMessage]
  simp only [strlen_whole text]
  exact feed_netMsgSend (dataMessage (dataOf payload)) []

end Sample

end Microgrid.DataChannel
