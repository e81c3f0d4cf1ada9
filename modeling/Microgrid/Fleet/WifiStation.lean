import Microgrid.Fleet.ProvisionServerRef

/-!
# The WiFi credentials, from the command line to the station

The provisioning tool lets an SSID of 32 bytes and a password of 64 through and writes both
into the NVS image. The firmware reads them into buffers with room for a terminator, and
copies them with `strncpy` into the fields of the station's configuration, which hold 32 and
64 bytes and need no terminator. The copy is told one byte less than the field has.
-/

namespace Microgrid.WifiStation

open Handshake HexText ProvisionServerRef

/-! ### C strings in buffers -/

/-- The text in a buffer: it ends at the first NUL, or with the buffer. -/
def textOf (buffer : Bytes) : Bytes := buffer.takeWhile (· ≠ 0)

/-- `strncpy`. -/
def strncpy (dst src : Bytes) (count : ℕ) : Bytes :=
  let copied := (textOf src).take count
  copied ++ List.replicate (count - copied.length) 0 ++ dst.drop count

/-- Zeros after a text do not belong to it. -/
theorem textOf_zeros {text : Bytes} (nulFree : 0 ∉ text) (zeros : ℕ) :
    textOf (text ++ List.replicate zeros 0) = text := by
  have all : ∀ byte ∈ text, (decide (byte ≠ 0)) = true := by
    intro byte member
    exact decide_eq_true fun zero => nulFree (zero ▸ member)
  rw [textOf, List.takeWhile_append_of_pos all]
  cases zeros with
  | zero => rw [List.replicate_zero, List.takeWhile_nil, List.append_nil]
  | succ zeros => simp [List.replicate_succ]

/-- A copy into a field of zeros keeps the first `count` bytes. -/
theorem textOf_strncpy {text : Bytes} (nulFree : 0 ∉ text) (count size zeros : ℕ) :
    textOf (strncpy (List.replicate size 0) (text ++ List.replicate zeros 0) count) =
      text.take count := by
  have free : 0 ∉ text.take count := fun member => nulFree (List.mem_of_mem_take member)
  rw [strncpy, textOf_zeros nulFree, List.drop_replicate, List.append_assoc,
    List.replicate_append_replicate]
  exact textOf_zeros free _

/-- A text is kept whole if and only if it is no longer than that. -/
theorem strncpy_keeps_iff {text : Bytes} (nulFree : 0 ∉ text) (count size zeros : ℕ) :
    textOf (strncpy (List.replicate size 0) (text ++ List.replicate zeros 0) count) = text ↔
      text.length ≤ count := by
  rw [textOf_strncpy nulFree]
  constructor
  · intro whole
    rw [← whole]
    exact List.length_take_le count text
  · exact List.take_of_length_le

/-! ### The firmware -/

/-- `nvs_get_str` into a buffer of the given length. The terminator needs room as well. -/
def nvsGetStr (nvs : NvsImage) (space key : String) (out : Bytes) (length : ℕ) : Option Bytes :=
  match nvs space key with
  | some text => if text.length + 1 ≤ length then some (text ++ 0 :: out.drop (text.length + 1))
    else none
  | none => none

/-- `wifi_load_credentials`: the two buffers, or `none` for `false`. -/
def wifiLoadCredentials (nvs : NvsImage) (ssidOut : Bytes) (ssidCap : ℕ) (passOut : Bytes)
    (passCap : ℕ) : Option (Bytes × Bytes) := do
  let ssid ← nvsGetStr nvs "wifi_creds" "ssid" ssidOut ssidCap
  let pass ← nvsGetStr nvs "wifi_creds" "pass" passOut passCap
  pure (ssid, pass)

/-- `wifi_auth_mode_t`, as far as it is used. -/
inductive AuthMode where
  | authOpen
  | authWpa2Psk
deriving DecidableEq

/-- `wifi_config.sta`. -/
structure StaConfig where
  ssid : Bytes
  password : Bytes
  authmode : AuthMode
deriving DecidableEq

/-- `wifi_config_t wifi_config = { 0 }`. -/
def StaConfig.zero : StaConfig where
  ssid := List.replicate 32 0
  password := List.replicate 64 0
  authmode := .authOpen

/-- `wifi_station_connect` up to `esp_wifi_set_config`: the configuration that is handed over,
or `none` for the early `false`. -/
def wifiStationConnect (nvs : NvsImage) : Option StaConfig := do
  let ssid := List.replicate 33 0
  let pass := List.replicate 65 0
  let (ssid, pass) ← wifiLoadCredentials nvs ssid 33 pass 65
  let config := StaConfig.zero
  let config := { config with ssid := strncpy config.ssid ssid (config.ssid.length - 1) }
  let config :=
    { config with password := strncpy config.password pass (config.password.length - 1) }
  pure { config with authmode := .authWpa2Psk }

/-- The credentials arrive: they are loaded, and the station is configured with just them. -/
def Arrives (nvs : NvsImage) (ssid pass : Bytes) : Prop :=
  (∃ ssidBuffer passBuffer,
    wifiLoadCredentials nvs (List.replicate 33 0) 33 (List.replicate 65 0) 65 =
      some (ssidBuffer, passBuffer) ∧ textOf ssidBuffer = ssid ∧ textOf passBuffer = pass) ∧
  ∃ config, wifiStationConnect nvs = some config ∧ textOf config.ssid = ssid ∧
    textOf config.password = pass

/-! ### What becomes of stored credentials -/

section Stored

variable {nvs : NvsImage} {ssid pass : Bytes}

/-- A text that leaves room for the terminator is read, and zeros follow it. -/
theorem nvsGetStr_fits {space key : String} {text : Bytes} (stored : nvs space key = some text)
    {capacity : ℕ} (fits : text.length < capacity) :
    nvsGetStr nvs space key (List.replicate capacity 0) capacity =
      some (text ++ List.replicate (capacity - text.length) 0) := by
  have zeros : capacity - text.length = capacity - (text.length + 1) + 1 := by omega
  simp only [nvsGetStr, stored]
  rw [if_pos (Nat.succ_le_of_lt fits), List.drop_replicate, zeros, List.replicate_succ]

variable (ssidStored : nvs "wifi_creds" "ssid" = some ssid)
  (passStored : nvs "wifi_creds" "pass" = some pass)

include ssidStored passStored

/-- Both buffers have room for all that the tool lets through. -/
theorem wifiLoadCredentials_fits (ssidFits : ssid.length ≤ 32) (passFits : pass.length ≤ 64) :
    wifiLoadCredentials nvs (List.replicate 33 0) 33 (List.replicate 65 0) 65 =
      some (ssid ++ List.replicate (33 - ssid.length) 0,
        pass ++ List.replicate (65 - pass.length) 0) := by
  rw [wifiLoadCredentials, nvsGetStr_fits ssidStored (Nat.lt_succ_of_le ssidFits),
    nvsGetStr_fits passStored (Nat.lt_succ_of_le passFits)]
  rfl

/-- The station's fields take one byte less each. -/
theorem arrives_iff (ssidText : 0 ∉ ssid) (passText : 0 ∉ pass) (ssidFits : ssid.length ≤ 32)
    (passFits : pass.length ≤ 64) :
    Arrives nvs ssid pass ↔ ssid.length ≤ 31 ∧ pass.length ≤ 63 := by
  have loads := wifiLoadCredentials_fits ssidStored passStored ssidFits passFits
  have connects : wifiStationConnect nvs = some {
      ssid := strncpy (List.replicate 32 0) (ssid ++ List.replicate (33 - ssid.length) 0) 31
      password := strncpy (List.replicate 64 0) (pass ++ List.replicate (65 - pass.length) 0) 63
      authmode := .authWpa2Psk } := by
    rw [wifiStationConnect]
    simp only [loads]
    rfl
  have ssidKept := strncpy_keeps_iff ssidText 31 32 (33 - ssid.length)
  have passKept := strncpy_keeps_iff passText 63 64 (65 - pass.length)
  constructor
  · rintro ⟨-, config, connected, isSsid, isPass⟩
    obtain rfl := Option.some.inj (connects.symm.trans connected)
    exact ⟨ssidKept.mp isSsid, passKept.mp isPass⟩
  · rintro ⟨ssidShort, passShort⟩
    exact ⟨⟨_, _, loads, textOf_zeros ssidText _, textOf_zeros passText _⟩,
      _, connects, ssidKept.mpr ssidShort, passKept.mpr passShort⟩

end Stored

/-! ### From the command line -/

/-- The generator stores the texts of the credential rows, in UTF-8. -/
def StoresText (generate : NvsPartitionGen) : Prop :=
  ∀ idBHex shsBHex ssid pass idAHex image,
    generate (writeNvsCsv idBHex shsBHex (some ssid) (some pass) idAHex) = some image →
      image "wifi_creds" "ssid" = some (utf8 ssid.toList) ∧
      image "wifi_creds" "pass" = some (utf8 pass.toList)

/-- What passes the tool's checks fits into the air interface's limits. -/
theorem checked_fits {args : Args} {tokens : Tokens} (checked : checkArgs args tokens = none)
    {ssid pass : String} (isSsid : args.wifiSsid = some ssid) (isPass : args.wifiPass = some pass) :
    (utf8 ssid.toList).length ≤ 32 ∧ (utf8 pass.toList).length ≤ 64 := by
  unfold checkArgs at checked
  rw [isSsid, isPass] at checked
  split_ifs at checked with _ _ _ _ ssidLong passLong
  constructor
  · by_cases empty : ssid = ""
    · simp [empty, utf8]
    · simpa [RegisterPufNode.given, empty] using ssidLong
  · by_cases empty : pass = ""
    · simp [empty, utf8]
    · simpa [RegisterPufNode.given, empty] using passLong

/-- Credentials that the tool has accepted and written into an image arrive at the station if
and only if they stay one byte below the limits. -/
theorem credentials_arrive_iff (generate : NvsPartitionGen) (stores : StoresText generate)
    (args : Args) (tokens : Tokens) (ssid pass : String) (isSsid : args.wifiSsid = some ssid)
    (isPass : args.wifiPass = some pass) (ssidText : 0 ∉ utf8 ssid.toList)
    (passText : 0 ∉ utf8 pass.toList) (image : NvsImage)
    (succeeds : generated generate args tokens = some image) :
    Arrives image (utf8 ssid.toList) (utf8 pass.toList) ↔
      (utf8 ssid.toList).length ≤ 31 ∧ (utf8 pass.toList).length ≤ 63 := by
  cases checked : checkArgs args tokens with
  | some message =>
    rw [generated, checked] at succeeds
    cases succeeds
  | none =>
    rw [generated, checked, isSsid, isPass] at succeeds
    obtain ⟨ssidStored, passStored⟩ := stores _ _ _ _ _ _ succeeds
    obtain ⟨ssidFits, passFits⟩ := checked_fits checked isSsid isPass
    exact arrives_iff ssidStored passStored ssidText passText ssidFits passFits

/-- A generator that also reads the rows of the credentials the way the real one does. -/
def sampleWifiGen : NvsPartitionGen := fun rows => do
  let image ← sampleGen rows
  pure fun space key =>
    if space = "wifi_creds" ∧ (key = "ssid" ∨ key = "pass") then
      (rows.find? (·.1 == key)).map (utf8 ·.2.2.2.toList)
    else image space key

theorem sampleWifiGen_stores : StoresText sampleWifiGen := by
  intro idBHex shsBHex ssid pass idAHex image generates
  obtain ⟨plain, -, isImage⟩ := Option.bind_eq_some_iff.mp generates
  obtain rfl := Option.some.inj isImage
  cases idAHex <;> simp [writeNvsCsv]

/-- A run with these credentials. -/
def credentialArgs (ssid pass : String) : ProvisionServerRef.Args where
  wifiSsid := some ssid
  wifiPass := some pass

/-- Once its arguments are accepted, such a run succeeds. -/
theorem credentials_generated (ssid pass : String) (tokens : Tokens)
    (checked : checkArgs (credentialArgs ssid pass) tokens = none) :
    ∃ image, generated sampleWifiGen (credentialArgs ssid pass) tokens = some image := by
  have drawnB : idBHex (credentialArgs ssid pass) tokens = bytesHex tokens.idB := rfl
  have drawnShs : shsBHex (credentialArgs ssid pass) tokens = bytesHex tokens.shsB := rfl
  have idDecoded : fromhex (bytesHex tokens.idB.val).toList = some tokens.idB.val := by
    rw [bytesHex, String.toList_ofList, fromhex_lowerHex]
  have shsDecoded : fromhex (bytesHex tokens.shsB.val).toList = some tokens.shsB.val := by
    rw [bytesHex, String.toList_ofList, fromhex_lowerHex]
  rw [generated, checked, drawnB, drawnShs]
  simp [sampleWifiGen, sampleGen, credentialArgs, writeNvsCsv, idDecoded, shsDecoded]

/-- A name as long as names can be. -/
def longSsid : String := String.ofList (List.replicate 32 'a')

/-- The last byte of such a name is lost: the tool accepts it, and the station looks for
another network. -/
theorem long_ssid_cut :
    ∃ image, generated sampleWifiGen (credentialArgs longSsid "password") (constantTokens 0) =
      some image ∧ (utf8 longSsid.toList).length = 32 ∧
      ¬Arrives image (utf8 longSsid.toList) (utf8 "password".toList) := by
  have name : utf8 longSsid.toList = List.replicate 32 97 := by decide +kernel
  have word : utf8 "password".toList = [112, 97, 115, 115, 119, 111, 114, 100] := by decide +kernel
  have checked : checkArgs (credentialArgs longSsid "password") (constantTokens 0) = none := by
    decide +kernel
  obtain ⟨image, generates⟩ := credentials_generated longSsid "password" (constantTokens 0) checked
  refine ⟨image, generates, by rw [name]; rfl, ?_⟩
  rw [generated, checked] at generates
  obtain ⟨ssidStored, passStored⟩ := sampleWifiGen_stores _ _ _ _ _ _ generates
  rw [arrives_iff ssidStored passStored (by rw [name]; decide) (by rw [word]; decide)
    (by rw [name]; decide) (by rw [word]; decide), name]
  exact fun short => absurd short.1 (by decide)

/-- A shorter name arrives. -/
theorem shorter_ssid_arrives :
    ∃ image, generated sampleWifiGen (credentialArgs "smart-microgrid" "password")
      (constantTokens 0) = some image ∧
      Arrives image (utf8 "smart-microgrid".toList) (utf8 "password".toList) := by
  have name : 0 ∉ utf8 "smart-microgrid".toList ∧
      (utf8 "smart-microgrid".toList).length = 15 := by decide +kernel
  have word : 0 ∉ utf8 "password".toList ∧ (utf8 "password".toList).length = 8 := by
    decide +kernel
  have checked : checkArgs (credentialArgs "smart-microgrid" "password") (constantTokens 0) =
      none := by decide +kernel
  obtain ⟨image, generates⟩ := credentials_generated _ _ (constantTokens 0) checked
  refine ⟨image, generates, ?_⟩
  refine (credentials_arrive_iff sampleWifiGen sampleWifiGen_stores _ (constantTokens 0) _ _ rfl rfl
    name.1 word.1 image generates).mpr ?_
  rw [name.2, word.2]
  decide

end Microgrid.WifiStation
