import Microgrid.Fleet.RegisterPufNode
import Microgrid.Handshake.DeviceSession

/-!
# The server's identifier and the images it is pinned in: `provision_server_ref.py`

Every run of the tool writes two things: an NVS image for one node, with the server's
identifier and the node's verifier in it, and the server's identity file, with the
identifier alone. Without `--id-b` the identifier is drawn anew, and the file is
overwritten in any case. That a fleet keeps one identifier is left to the operator, whom
the usage text tells to pass the established value to every run after the first.

The generator of NVS images is a third-party program; all that is used of it is that an
image holds what the rows of its CSV file say.
-/

namespace Microgrid.ProvisionServerRef

open Handshake HexText RegisterPufNode

/-- The arguments of one run that it puts into the image. -/
structure Args where
  idB : Option String := none
  shsB : Option String := none
  idA : Option String := none
  wifiSsid : Option String := none
  wifiPass : Option String := none

/-- What `secrets.token_hex` is made from in one run. -/
structure Tokens where
  idB : { bytes : Bytes // bytes.length = rotIdLen }
  shsB : Token

/-- `id_b_hex`. -/
def idBHex (args : Args) (tokens : Tokens) : String := (given args.idB).getD (bytesHex tokens.idB)

/-- `shs_b_hex`. -/
def shsBHex (args : Args) (tokens : Tokens) : String :=
  (given args.shsB).getD (bytesHex tokens.shsB)

/-- The checks of `main`, in order; the text is that of the error. -/
def checkArgs (args : Args) (tokens : Tokens) : Option String :=
  if (idBHex args tokens).length ≠ rotIdLen * 2 then
    some ("--id-b must be " ++ toString (rotIdLen * 2) ++ " hex chars (" ++ toString rotIdLen ++
      " bytes)")
  else if (shsBHex args tokens).length ≠ rotDigestLen * 2 then
    some ("--shs-b must be " ++ toString (rotDigestLen * 2) ++ " hex chars (" ++
      toString rotDigestLen ++ " bytes)")
  else if args.idA.any (·.length ≠ rotIdLen * 2) then
    some ("--id-a must be " ++ toString (rotIdLen * 2) ++ " hex chars (" ++ toString rotIdLen ++
      " bytes)")
  else if (given args.wifiSsid).isSome != (given args.wifiPass).isSome then
    some "--wifi-ssid and --wifi-pass must be given together"
  else if (given args.wifiSsid).any (fun ssid => 32 < (utf8 ssid.toList).length) then
    some "--wifi-ssid must fit in 32 bytes (WiFi SSID limit)"
  else if (given args.wifiPass).any (fun pass => 64 < (utf8 pass.toList).length) then
    some "--wifi-pass must fit in 64 bytes (WPA2 passphrase limit)"
  else none

/-- A row of the CSV file: key, type, encoding and value. -/
abbrev Row := String × String × String × String

/-- `write_nvs_csv`. -/
def writeNvsCsv (idBHex shsBHex : String) (wifiSsid wifiPass idAHex : Option String) : List Row :=
  [("key", "type", "encoding", "value"), ("rot_identity", "namespace", "", ""),
    ("id_b", "data", "hex2bin", idBHex), ("shs_b_ref", "data", "hex2bin", shsBHex)] ++
  (match idAHex with
    | some idA => [("id_a", "data", "hex2bin", idA)]
    | none => []) ++
  match wifiSsid, wifiPass with
  | some ssid, some pass => [("wifi_creds", "namespace", "", ""), ("ssid", "data", "string", ssid),
      ("pass", "data", "string", pass)]
  | _, _ => []

/-- The blobs of an NVS image, by namespace and key. -/
abbrev NvsImage := String → String → Option Bytes

/-- `nvs_partition_gen.py generate`; `none` is a nonzero exit code. -/
abbrev NvsPartitionGen := List Row → Option NvsImage

/-- The generator decodes the identifier it is given, and fails if it cannot. -/
def DecodesHex (generate : NvsPartitionGen) : Prop :=
  ∀ idBHex shsBHex wifiSsid wifiPass idAHex image,
    generate (writeNvsCsv idBHex shsBHex wifiSsid wifiPass idAHex) = some image →
      ∃ idB, fromhex idBHex.toList = some idB ∧ image "rot_identity" "id_b" = some idB

/-- `rot_identity_load_server_ref` on a node flashed with an image. -/
def loadServerRef (image : NvsImage) : Option (Bytes × Bytes) :=
  match image "rot_identity" "id_b", image "rot_identity" "shs_b_ref" with
  | some idB, some shsBRef =>
    if idB.length = rotIdLen ∧ shsBRef.length = rotDigestLen then some (idB, shsBRef) else none
  | _, _ => none

/-- `load_server_identity` on the text in the identity file. -/
def loadServerIdentity (idB : String) : Except Framing.PyError Bytes :=
  RotSession.hexToBin (.str idB) rotIdLen

/-- The files of a fleet: the identifier in the server's identity file, the images generated
so far, and the registry. -/
structure Fleet where
  serverIdentity : Option String := none
  images : List NvsImage := []
  registry : Registry := .empty

/-- One run of `provision_server_ref.py`. It writes the identity file last, and nothing if it
fails. -/
def main (generate : NvsPartitionGen) (args : Args) (tokens : Tokens) (fleet : Fleet) : Fleet :=
  match checkArgs args tokens with
  | some _ => fleet
  | none =>
    match generate (writeNvsCsv (idBHex args tokens) (shsBHex args tokens) args.wifiSsid
        args.wifiPass args.idA) with
    | none => fleet
    | some image => { fleet with
        serverIdentity := some (idBHex args tokens)
        images := fleet.images ++ [image] }

/-- What an operator runs. -/
inductive Command where
  | provision (args : Args) (tokens : Tokens)
  | register (args : RegisterPufNode.Args) (token : Token)

/-- One command. -/
def step (generate : NvsPartitionGen) (fleet : Fleet) : Command → Fleet
  | .provision args tokens => main generate args tokens fleet
  | .register args token =>
    { fleet with registry := (RegisterPufNode.main args token fleet.registry).2 }

/-- The image a run generates, if it succeeds. -/
def generated (generate : NvsPartitionGen) (args : Args) (tokens : Tokens) : Option NvsImage :=
  match checkArgs args tokens with
  | some _ => none
  | none => generate (writeNvsCsv (idBHex args tokens) (shsBHex args tokens) args.wifiSsid
      args.wifiPass args.idA)

/-- A successful run adds its image and sets the identity file. -/
theorem main_generated {generate : NvsPartitionGen} {args : Args} {tokens : Tokens}
    {image : NvsImage} (succeeds : generated generate args tokens = some image) (fleet : Fleet) :
    main generate args tokens fleet = { fleet with
      serverIdentity := some (idBHex args tokens)
      images := fleet.images ++ [image] } := by
  unfold generated at succeeds
  unfold main
  cases checked : checkArgs args tokens with
  | some message =>
    rw [checked] at succeeds
    cases succeeds
  | none =>
    rw [checked] at succeeds
    dsimp only at succeeds ⊢
    rw [succeeds]

/-- A run that fails changes no file. -/
theorem main_failed {generate : NvsPartitionGen} {args : Args} {tokens : Tokens}
    (fails : generated generate args tokens = none) (fleet : Fleet) :
    main generate args tokens fleet = fleet := by
  unfold generated at fails
  unfold main
  cases checked : checkArgs args tokens with
  | some message => rfl
  | none =>
    rw [checked] at fails
    dsimp only at fails ⊢
    rw [fails]

/-- What the image of a successful run pins. -/
theorem generated_pins {generate : NvsPartitionGen} (decodes : DecodesHex generate) {args : Args}
    {tokens : Tokens} {image : NvsImage} (succeeds : generated generate args tokens = some image) :
    ∃ idB, fromhex (idBHex args tokens).toList = some idB ∧
      image "rot_identity" "id_b" = some idB := by
  unfold generated at succeeds
  cases checked : checkArgs args tokens with
  | some message =>
    rw [checked] at succeeds
    cases succeeds
  | none =>
    rw [checked] at succeeds
    exact decodes _ _ _ _ _ _ succeeds

/-! ### One identifier for the fleet -/

/-- The identifier in the identity file is the one pinned in every image. A server started
from the file is therefore never refused for it. -/
structure Pinned (fleet : Fleet) : Prop where
  same : ∀ image ∈ fleet.images, ∃ text idB, fleet.serverIdentity = some text ∧
    fromhex text.toList = some idB ∧ image "rot_identity" "id_b" = some idB
  accepted : ∀ image ∈ fleet.images, ∀ text idB ref, fleet.serverIdentity = some text →
    loadServerIdentity text = .ok idB → loadServerRef image = some ref →
    ∀ (suite : Suite Bytes) (opening : DeviceSession.Opening Bytes) (challengeB ephPkB proof : Bytes),
      opening.idBRef = ref.1 →
      DeviceSession.checkChallenge suite opening idB challengeB ephPkB proof = none →
        proof ≠ DeviceSession.expectedServerProof suite opening ephPkB

/-- What a session reads from a pinned blob is the blob. -/
theorem loadServerRef_fst {image : NvsImage} {ref : Bytes × Bytes}
    (loaded : loadServerRef image = some ref) : image "rot_identity" "id_b" = some ref.1 := by
  unfold loadServerRef at loaded
  split at loaded
  · split_ifs at loaded
    cases loaded
    assumption
  · cases loaded

/-- What the server reads from the file is what its text decodes to. -/
theorem loadServerIdentity_ok {text : String} {idB : Bytes}
    (loaded : loadServerIdentity text = .ok idB) : fromhex text.toList = some idB := by
  unfold loadServerIdentity RotSession.hexToBin RotSession.bytesFromhex at loaded
  cases decoded : fromhex text.toList with
  | none => simp [decoded, bind, Except.bind] at loaded
  | some bytes =>
    simp only [decoded, bind, Except.bind] at loaded
    split_ifs at loaded
    cases loaded
    rfl

/-- Equal identifiers are enough. -/
theorem pinned_of_same {fleet : Fleet}
    (same : ∀ image ∈ fleet.images, ∃ text idB, fleet.serverIdentity = some text ∧
      fromhex text.toList = some idB ∧ image "rot_identity" "id_b" = some idB) : Pinned fleet := by
  refine ⟨same, ?_⟩
  intro image member text idB ref isText loaded pinned suite opening challengeB ephPkB proof isRef
    refused genuine
  obtain ⟨found, pinnedB, isFound, decoded, blob⟩ := same image member
  rw [isText, Option.some.injEq] at isFound
  subst isFound
  rw [loadServerIdentity_ok loaded, Option.some.injEq] at decoded
  rw [loadServerRef_fst pinned, Option.some.injEq] at blob
  have claimed : idB = opening.idBRef := by rw [isRef, blob, decoded]
  have signs := (DeviceSession.checkChallenge_eq_some suite opening idB challengeB ephPkB proof _).mpr
    ⟨claimed, genuine, rfl⟩
  rw [refused] at signs
  cases signs

/-- A sequence of commands. -/
def run (generate : NvsPartitionGen) (fleet : Fleet) (commands : List Command) : Fleet :=
  commands.foldl (step generate) fleet

/-- The command is no successful provisioning run, or it uses this identifier: either its
`--id-b` or, without one, what it draws. -/
def UsesIdB (generate : NvsPartitionGen) (idB : Option Bytes) : Command → Prop
  | .provision args tokens => (generated generate args tokens).isSome = true →
      fromhex (idBHex args tokens).toList = idB
  | .register _ _ => True

/-- No command takes an image back. -/
theorem images_step (generate : NvsPartitionGen) (fleet : Fleet) (command : Command)
    {image : NvsImage} (member : image ∈ fleet.images) :
    image ∈ (step generate fleet command).images := by
  cases command with
  | register args token => exact member
  | provision args tokens =>
    rw [step]
    cases generates : generated generate args tokens with
    | none =>
      rw [main_failed generates]
      exact member
    | some fresh =>
      rw [main_generated generates]
      exact List.mem_append_left _ member

theorem images_run (generate : NvsPartitionGen) (fleet : Fleet) (commands : List Command)
    {image : NvsImage} (member : image ∈ fleet.images) :
    image ∈ (run generate fleet commands).images := by
  induction commands generalizing fleet with
  | nil => exact member
  | cons command rest inductionHypothesis =>
    exact inductionHypothesis _ (images_step generate fleet command member)

/-- The file and every image have this identifier. -/
structure Uniform (idB : Bytes) (fleet : Fleet) : Prop where
  identity : ∃ text, fleet.serverIdentity = some text ∧ fromhex text.toList = some idB
  images : ∀ image ∈ fleet.images, image "rot_identity" "id_b" = some idB

theorem pinned_of_uniform {idB : Bytes} {fleet : Fleet} (uniform : Uniform idB fleet) :
    Pinned fleet := by
  obtain ⟨text, isText, decoded⟩ := uniform.identity
  apply pinned_of_same
  intro image member
  exact ⟨text, idB, isText, decoded, uniform.images image member⟩

/-- A command that uses the identifier keeps it uniform. -/
theorem uniform_step {generate : NvsPartitionGen} (decodes : DecodesHex generate) {idB : Bytes}
    {fleet : Fleet} (uniform : Uniform idB fleet) (command : Command)
    (uses : UsesIdB generate (some idB) command) : Uniform idB (step generate fleet command) := by
  cases command with
  | register args token => exact ⟨uniform.identity, uniform.images⟩
  | provision args tokens =>
    rw [step]
    cases generates : generated generate args tokens with
    | none =>
      rw [main_failed generates]
      exact uniform
    | some fresh =>
      rw [main_generated generates]
      have same : fromhex (idBHex args tokens).toList = some idB := uses (by rw [generates]; rfl)
      refine ⟨⟨_, rfl, same⟩, ?_⟩
      intro image member
      rcases List.mem_append.mp member with old | new
      · exact uniform.images image old
      · obtain rfl := List.mem_singleton.mp new
        obtain ⟨pinned, decoded, blob⟩ := generated_pins decodes generates
        rw [blob, ← decoded, same]

theorem uniform_run {generate : NvsPartitionGen} (decodes : DecodesHex generate) {idB : Bytes}
    {fleet : Fleet} (uniform : Uniform idB fleet) (commands : List Command)
    (uses : ∀ command ∈ commands, UsesIdB generate (some idB) command) :
    Uniform idB (run generate fleet commands) := by
  induction commands generalizing fleet with
  | nil => exact uniform
  | cons command rest inductionHypothesis =>
    have next := uniform_step decodes uniform command (uses command List.mem_cons_self)
    exact inductionHypothesis next fun other member => uses other (List.mem_cons_of_mem _ member)

/-- After a first run that established an identifier, the identity file agrees with every
image through a sequence of commands if and only if every further successful run uses that
identifier. -/
theorem identity_pinned_iff (generate : NvsPartitionGen) (decodes : DecodesHex generate)
    (args : Args) (tokens : Tokens)
    (established : (generated generate args tokens).isSome = true) (later : List Command) :
    (∀ earlier rest, later = earlier ++ rest →
      Pinned (run generate (main generate args tokens {}) earlier)) ↔
    ∀ command ∈ later, UsesIdB generate (fromhex (idBHex args tokens).toList) command := by
  obtain ⟨first, generates⟩ := Option.isSome_iff_exists.mp established
  obtain ⟨idB, decoded, blob⟩ := generated_pins decodes generates
  rw [decoded]
  have start : Uniform idB (main generate args tokens {}) := by
    rw [main_generated generates]
    refine ⟨⟨_, rfl, decoded⟩, ?_⟩
    intro image member
    obtain rfl : image = first := by simpa using member
    exact blob
  have pinnedFirst : first ∈ (main generate args tokens {}).images := by
    rw [main_generated generates]
    exact List.mem_singleton.mpr rfl
  constructor
  · intro pinned command member
    obtain ⟨earlier, rest, rfl⟩ := List.append_of_mem member
    cases command with
    | register args token => trivial
    | provision again fresh =>
      intro succeeds
      obtain ⟨image, regenerates⟩ := Option.isSome_iff_exists.mp succeeds
      have agrees := pinned (earlier ++ [.provision again fresh]) rest (by simp)
      obtain ⟨text, found, isText, isFound, same⟩ := agrees.same first
        (images_run generate _ _ pinnedFirst)
      rw [run, List.foldl_append] at isText
      change (main generate again fresh _).serverIdentity = some text at isText
      rw [main_generated regenerates, Option.some.injEq] at isText
      rw [isText, isFound, ← same, blob]
  · intro uses earlier rest commands
    apply pinned_of_uniform
    apply uniform_run decodes start
    intro command member
    exact uses command (commands ▸ List.mem_append_left _ member)

/-- A generator that reads the rows it is given the way the real one does. -/
def sampleGen : NvsPartitionGen := fun rows => do
  let idB ← (rows.find? (·.1 == "id_b")).bind (fromhex ·.2.2.2.toList)
  let shsB ← (rows.find? (·.1 == "shs_b_ref")).bind (fromhex ·.2.2.2.toList)
  pure fun space key =>
    if space = "rot_identity" ∧ key = "id_b" then some idB
    else if space = "rot_identity" ∧ key = "shs_b_ref" then some shsB
    else none

theorem sampleGen_decodes : DecodesHex sampleGen := by
  intro idBHex shsBHex wifiSsid wifiPass idAHex image generates
  have idRow : (writeNvsCsv idBHex shsBHex wifiSsid wifiPass idAHex).find? (·.1 == "id_b") =
      some ("id_b", "data", "hex2bin", idBHex) := by
    simp [writeNvsCsv]
  have shsRow : (writeNvsCsv idBHex shsBHex wifiSsid wifiPass idAHex).find? (·.1 == "shs_b_ref") =
      some ("shs_b_ref", "data", "hex2bin", shsBHex) := by
    simp [writeNvsCsv]
  unfold sampleGen at generates
  rw [idRow, shsRow] at generates
  simp only [Option.bind_some, Option.bind_eq_bind, Option.pure_def] at generates
  cases decoded : fromhex idBHex.toList with
  | none => simp [decoded] at generates
  | some idB =>
    cases verifier : fromhex shsBHex.toList with
    | none => simp [decoded, verifier] at generates
    | some shsB =>
      simp only [decoded, verifier, Option.bind_some, Option.some.injEq] at generates
      subst generates
      exact ⟨idB, rfl, rfl⟩

/-- The draws of a run in which every random byte is this one. -/
def constantTokens (byte : UInt8) : Tokens where
  idB := ⟨List.replicate 16 byte, rfl⟩
  shsB := ⟨List.replicate 32 byte, rfl⟩

/-- A run without arguments succeeds and pins what it draws. -/
theorem sampleGen_generates (tokens : Tokens) : ∃ image,
    generated sampleGen {} tokens = some image ∧
      image "rot_identity" "id_b" = some tokens.idB.val := by
  have drawnB : idBHex {} tokens = bytesHex tokens.idB := rfl
  have drawnShs : shsBHex {} tokens = bytesHex tokens.shsB := rfl
  have idLength : (bytesHex tokens.idB.val).length = rotIdLen * 2 := by
    rw [bytesHex, String.length_ofList, lowerHex_length, tokens.idB.property, Nat.mul_comm]
  have shsLength : (bytesHex tokens.shsB.val).length = rotDigestLen * 2 := by
    rw [bytesHex, String.length_ofList, lowerHex_length, tokens.shsB.property, Nat.mul_comm]
  have checked : checkArgs {} tokens = none := by
    unfold checkArgs
    rw [drawnB, drawnShs, idLength, shsLength]
    simp [given]
  have idDecoded : fromhex (bytesHex tokens.idB.val).toList = some tokens.idB.val := by
    rw [bytesHex, String.toList_ofList, fromhex_lowerHex]
  have shsDecoded : fromhex (bytesHex tokens.shsB.val).toList = some tokens.shsB.val := by
    rw [bytesHex, String.toList_ofList, fromhex_lowerHex]
  unfold generated
  rw [checked, drawnB, drawnShs]
  unfold sampleGen
  simp only [writeNvsCsv, List.append_nil, List.find?_cons, Option.bind_eq_bind, Option.pure_def]
  simp [idDecoded, shsDecoded]

/-- The second run without `--id-b` replaces the identifier that the first image pins. -/
theorem identity_replaced : ¬ Pinned (run sampleGen (main sampleGen {} (constantTokens 0) {})
    [.provision {} (constantTokens 1)]) := by
  intro pinned
  obtain ⟨first, generates, blob⟩ := sampleGen_generates (constantTokens 0)
  obtain ⟨second, regenerates, _⟩ := sampleGen_generates (constantTokens 1)
  have start := main_generated generates {}
  have replaced : run sampleGen (main sampleGen {} (constantTokens 0) {})
      [.provision {} (constantTokens 1)] = _ := main_generated regenerates _
  rw [replaced, start] at pinned
  obtain ⟨text, idB, isText, decoded, same⟩ := pinned.same first (by simp)
  rw [blob, Option.some.injEq] at same
  rw [Option.some.injEq] at isText
  subst isText same
  revert decoded
  decide

/-- The second run with the established identifier keeps it. -/
theorem identity_kept : Pinned (run sampleGen (main sampleGen {} (constantTokens 0) {})
    [.provision { idB := some (bytesHex (List.replicate 16 0)) } (constantTokens 1)]) := by
  obtain ⟨first, generates, _⟩ := sampleGen_generates (constantTokens 0)
  refine (identity_pinned_iff sampleGen sampleGen_decodes {} (constantTokens 0)
    (by rw [generates]; rfl) _).mpr ?_ _ [] (List.append_nil _).symm
  intro command member
  obtain rfl := List.mem_singleton.mp member
  intro _
  rfl

end Microgrid.ProvisionServerRef
