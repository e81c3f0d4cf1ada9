import Microgrid.Fleet.ServerReference
import Microgrid.Fleet.WifiStation
import Microgrid.Handshake.Interoperation
import Microgrid.Puf.DerivedKeys

/-!
# Taking a node into the fleet

A node without a server reference prints its identifier and its public key. The operator runs the
command that is printed with them, which draws the node's verifier and enters the three into the
registry. The node is then given the reference, of the server's identifier and that verifier, by
calls that keep its enrollment. From then on the node connects.

The printed key was derived in one boot, the key that signs in another. Between them lie any
number of boots and of writes to the NVS, and in the registry any entries of other nodes. The
handshake of a node that was taken in so completes.
-/

namespace Microgrid.Onboarding

open Handshake Framing Processes HexText CrashPrograms Puflib RotIdentity AppMain ServerReference
open ProvisionServerRef (NvsImage)
open RegisterPufNode (Registry RegistryEntry Token)

/-! ### A board -/

/-- `ROT_NVS_KEY_ID_A`. -/
def rotNvsKeyIdA : String := "id_a"

/-- The placeholder, without its terminator. -/
def placeholder : Bytes := utf8 "SMG_NODE_PUF01".toList

/-- `rot_identity_get_id_a`: what is provisioned, or the placeholder in a buffer of zeros. -/
def rotIdentityGetIdA (nvs : NvsImage) : Bytes :=
  match nvsGetBlob nvs rotNvsKeyIdA rotIdLen with
  | some idA =>
    if idA.length = rotIdLen then idA
    else placeholder ++ (List.replicate rotIdLen 0).drop placeholder.length
  | none => placeholder ++ (List.replicate rotIdLen 0).drop placeholder.length

/-- A board: its boots since it was last flashed, and the namespaces that these do not write. -/
structure Board where
  boots : List Boot
  nvs : NvsImage

/-- The boot as it is with what the board has in its NVS. -/
def Board.booted (board : Board) (boot : Boot) : Boot :=
  { boot with
    serverRef := (rotIdentityLoadServerRef board.nvs).isSome
    wifi := boot.wifi && (WifiStation.wifiStationConnect board.nvs).isSome }

/-- What is done with a board until it is flashed again: it boots, or
`rot_identity_save_server_ref` is called on it. -/
inductive Action where
  | boot (boot : Boot)
  | save (outcomes : Outcomes) (idB : IdB) (shsBRef : ShsB)

/-- One of these. -/
def Board.act (board : Board) : Action → Board
  | .boot boot => { board with boots := board.boots ++ [board.booted boot] }
  | .save outcomes idB shsBRef =>
    { board with nvs := (rotIdentitySaveServerRef outcomes board.nvs idB shsBRef).2 }

/-- A sequence of them. -/
def Board.actAll (board : Board) (actions : List Action) : Board := actions.foldl Board.act board

/-- The two fields of the provisioning export. -/
structure Export where
  idA : String
  pkA : String

/-- The boot prints an export: no reference is pinned, and a key pair is derived. -/
def Board.Prints (board : Board) (mbedtls : Mbedtls) (boot : Boot) (line : Export) : Prop :=
  rotIdentityLoadServerRef board.nvs = none ∧
    ∃ keyPair, Derives mbedtls board.boots (board.booted boot) keyPair ∧
      line = ⟨binToHex (rotIdentityGetIdA board.nvs), binToHex keyPair.2⟩

/-- `sk_A` as the handshake's library takes it. -/
def scalarBytes (scalar : ℕ) : Bytes :=
  (List.range 32).map fun place => UInt8.ofNat (scalar / 256 ^ (31 - place))

/-- The derivation's multiplication and the handshake's are one, and its points are written
uncompressed. -/
def SameCurve (mbedtls : Mbedtls) (suite : Suite Bytes) : Prop :=
  ∀ scalar pkA, 1 ≤ scalar → scalar < groupOrder → mbedtls.ecpMul scalar = some pkA →
    suite.publicKey (scalarBytes scalar) = pkA ∧ pkA.head? = some 4

/-! ### What actions keep -/

/-- Saving a reference does not touch the identifier. -/
theorem save_idA (outcomes : Outcomes) (nvs : NvsImage) (idB : IdB) (shsBRef : ShsB) :
    rotIdentityGetIdA (rotIdentitySaveServerRef outcomes nvs idB shsBRef).2 =
      rotIdentityGetIdA nvs := by
  have other : rotNvsKeyIdA ≠ rotNvsKeyIdB ∧ rotNvsKeyIdA ≠ rotNvsKeyShsB := by decide
  have written : ∀ (succeeds : Bool) (image : NvsImage) (key : String) (blob : Bytes),
      rotNvsKeyIdA ≠ key → nvsSetBlob succeeds image key blob rotNvsNamespace rotNvsKeyIdA =
        image rotNvsNamespace rotNvsKeyIdA := by
    intro succeeds image key blob distinct
    cases succeeds <;> simp [nvsSetBlob, distinct]
  have kept : (rotIdentitySaveServerRef outcomes nvs idB shsBRef).2 rotNvsNamespace rotNvsKeyIdA =
      nvs rotNvsNamespace rotNvsKeyIdA := by
    rw [rotIdentitySaveServerRef]
    split
    · exact (written _ _ _ _ other.2).trans (written _ _ _ _ other.1)
    · rfl
  rw [rotIdentityGetIdA, rotIdentityGetIdA, nvsGetBlob, nvsGetBlob, kept]

/-- Boots are only added, and the identifier stays.

Induct over the actions. -/
theorem Board.actAll_keeps (actions : List Action) (board : Board) :
    (∃ later, (board.actAll actions).boots = board.boots ++ later) ∧
      rotIdentityGetIdA (board.actAll actions).nvs = rotIdentityGetIdA board.nvs := by
  induction actions generalizing board with
  | nil => exact ⟨⟨[], (List.append_nil _).symm⟩, rfl⟩
  | cons action actions inductionHypothesis =>
    obtain ⟨⟨later, boots⟩, idA⟩ := inductionHypothesis (board.act action)
    rw [Board.actAll, List.foldl_cons]
    refine ⟨?_, idA.trans ?_⟩
    · cases action with
      | boot boot =>
        refine ⟨board.booted boot :: later, boots.trans ?_⟩
        rw [Board.act, List.append_assoc]
        rfl
      | save outcomes idB shsBRef => exact ⟨later, boots⟩
    · cases action with
      | boot boot => rfl
      | save outcomes idB shsBRef => exact save_idA outcomes board.nvs idB shsBRef

/-! ### The registration -/

/-- The invocation removes or replaces the entry under this text. -/
def Touches (idA : String) (args : RegisterPufNode.Args) : Prop :=
  match RegisterPufNode.request args with
  | .remove text => text = idA
  | .register text _ _ => text = idA
  | .list | .refuse _ => False

/-- Another invocation leaves the entry alone. -/
theorem main_untouched {idA : String} {args : RegisterPufNode.Args}
    (untouched : ¬Touches idA args) (token : Token) (registry : Registry) :
    (RegisterPufNode.main args token registry).2 idA = registry idA := by
  unfold Touches at untouched
  cases asked : RegisterPufNode.request args with
  | list =>
    rw [RegisterPufNode.main, asked]
  | refuse message =>
    rw [RegisterPufNode.main, asked]
  | remove text =>
    rw [asked] at untouched
    rw [RegisterPufNode.main_remove asked]
    exact Function.update_of_ne (Ne.symm untouched) _ _
  | register text pkA shsB =>
    rw [asked] at untouched
    obtain ⟨label, written⟩ := RegisterPufNode.main_register asked token registry
    rw [written]
    exact Function.update_of_ne (Ne.symm untouched) _ _

/-- So do any number of them. -/
theorem after_untouched {idA : String} (history : List (RegisterPufNode.Args × Token))
    {later : List (RegisterPufNode.Args × Token)}
    (untouched : ∀ invocation ∈ later, ¬Touches idA invocation.1) :
    RegisterPufNode.after (history ++ later) idA = RegisterPufNode.after history idA := by
  induction later using List.reverseRecOn with
  | nil => rw [List.append_nil]
  | append_singleton later last inductionHypothesis =>
    obtain ⟨args, token⟩ := last
    have kept := main_untouched (untouched (args, token)
      (List.mem_append_right _ (List.mem_singleton_self _))) token
    rw [← List.append_assoc, RegisterPufNode.after_append, kept]
    exact inductionHypothesis fun invocation member =>
      untouched invocation (List.mem_append_left _ member)

/-- The printed command is accepted. -/
theorem printed_registers {idA pkA : Bytes} (idSize : idA.length = rotIdLen)
    (pkSize : pkA.length = Handshake.rotPubkeyLen) (uncompressed : pkA.head? = some 4)
    (label : Option String) :
    RegisterPufNode.request { idA := some (binToHex idA), pkA := some (binToHex pkA), label } =
      .register (binToHex idA) (binToHex pkA) none := by
  have idLength : (binToHex idA).length = 32 := by
    rw [binToHex, String.length_ofList, lowerHex_length, idSize]
    rfl
  have pkLength : (binToHex pkA).length = RegisterPufNode.rotPubkeyHexLen := by
    rw [binToHex, String.length_ofList, lowerHex_length, pkSize]
    rfl
  have pkStart : (binToHex pkA).toList.take 2 = ['0', '4'] := by
    obtain ⟨rest, rfl⟩ := List.head?_eq_some_iff.mp uncompressed
    rw [binToHex, String.toList_ofList]
    rfl
  have idGiven := @RegisterPufNode.given_some (binToHex idA) (by omega)
  have pkGiven := @RegisterPufNode.given_some (binToHex pkA) (by
    rw [pkLength]
    decide)
  rw [RegisterPufNode.request]
  simp only [Bool.false_eq_true, if_false, idGiven, pkGiven, idLength, pkLength, pkStart, ne_eq,
    not_true_eq_false, or_self]
  rfl

/-- After the printed registration, and others of other nodes, the server reads the printed key and
the verifier that was drawn. -/
theorem printed_found {idA pkA : Bytes} (idSize : idA.length = rotIdLen)
    (pkSize : pkA.length = Handshake.rotPubkeyLen) (uncompressed : pkA.head? = some 4)
    (label : Option String) (token : Token) (earlier : List (RegisterPufNode.Args × Token))
    {later : List (RegisterPufNode.Args × Token)}
    (untouched : ∀ invocation ∈ later, ¬Touches (binToHex idA) invocation.1) :
    ∃ fields, (RegisterPufNode.after (earlier ++
        [({ idA := some (binToHex idA), pkA := some (binToHex pkA), label }, token)] ++ later)).get
          (bytesHex idA) = some (.obj fields) ∧
      fields.lookup "pk_a" = some (.str (bytesHex pkA)) ∧
      fields.lookup "shs_b" = some (.str (bytesHex token.val)) := by
  obtain ⟨written, registered⟩ := RegisterPufNode.main_register
    (printed_registers idSize pkSize uncompressed label) token (RegisterPufNode.after earlier)
  have entry := after_untouched (earlier ++
    [({ idA := some (binToHex idA), pkA := some (binToHex pkA), label }, token)]) untouched
  rw [RegisterPufNode.after_append, registered, Function.update_self] at entry
  refine ⟨[("label", .str written), ("pk_a", .str (binToHex pkA)),
    ("shs_b", .str (bytesHex token.val))], ?_, rfl, rfl⟩
  rw [Registry.get, show bytesHex idA = binToHex idA from rfl, entry]
  rfl

/-! ### From the export to a handshake -/

/-- An export, its registration among others, what is done with the board afterwards, and the boot
of a handshake. -/
structure Joining where
  board : Board
  exportBoot : Boot
  line : Export
  label : Option String
  token : Token
  earlier : List (RegisterPufNode.Args × Token)
  later : List (RegisterPufNode.Args × Token)
  actions : List Action
  handshakeBoot : Boot

namespace Joining

variable (joining : Joining)

/-- The printed command. -/
def registration : RegisterPufNode.Args where
  idA := some joining.line.idA
  pkA := some joining.line.pkA
  label := joining.label

/-- The registry of the server. -/
def registry : Registry :=
  RegisterPufNode.after (joining.earlier ++ [(joining.registration, joining.token)] ++
    joining.later)

/-- The board at the handshake. -/
def connected : Board :=
  (joining.board.act (.boot joining.exportBoot)).actAll joining.actions

/-- The export is printed and its entry not touched afterwards, the board has come to the identifier
of the server and the verifier of the entry for its reference, and then derives a key pair. -/
structure Carried (first second : Mbedtls) (keyPair : Nat × Bytes) (idB : Bytes) : Prop where
  prints : joining.board.Prints first joining.exportBoot joining.line
  untouched : ∀ invocation ∈ joining.later, ¬Touches joining.line.idA invocation.1
  reference : rotIdentityLoadServerRef joining.connected.nvs = some (idB, joining.token.val)
  derives : Derives second joining.connected.boots
    (joining.connected.booted joining.handshakeBoot) keyPair

/-- The counts that the helper data was made from, and measurements in the two boots that are
tolerated. -/
structure Measured (pufFreqRtc pufFreqSleep : List Nat) : Prop where
  recoverable : Recoverable (after (joining.board.boots ++
    [joining.board.booted joining.exportBoot])).store pufFreqRtc pufFreqSleep
  exports : Tolerated pufFreqRtc pufFreqSleep (joining.board.booted joining.exportBoot)
  handshake : Tolerated pufFreqRtc pufFreqSleep (joining.connected.booted joining.handshakeBoot)

/-- What was printed is the identifier and the key that the board has at the handshake. -/
theorem Carried.line {joining : Joining} {first second : Mbedtls}
    (agree : StableIdentity.Agree first second) {keyPair : Nat × Bytes} {idB : Bytes}
    (carried : joining.Carried first second keyPair idB) {pufFreqRtc pufFreqSleep : List Nat}
    (measured : joining.Measured pufFreqRtc pufFreqSleep) :
    joining.line = ⟨binToHex (rotIdentityGetIdA joining.connected.nvs), binToHex keyPair.2⟩ ∧
      1 ≤ keyPair.1 ∧ keyPair.1 < groupOrder ∧ second.ecpMul keyPair.1 = some keyPair.2 := by
  obtain ⟨-, printed, derives, line⟩ := carried.prints
  obtain ⟨⟨later, boots⟩, idA⟩ :=
    Board.actAll_keeps joining.actions (joining.board.act (.boot joining.exportBoot))
  have derivesAgain := carried.derives
  rw [connected, boots, Board.act, List.append_assoc, List.singleton_append] at derivesAgain
  have derived := derives.tolerated measured.recoverable measured.exports
  have derivedAgain := derivesAgain.later derives.enrolled measured.recoverable measured.handshake
  obtain ⟨rfl, range⟩ := StableIdentity.derived_agree agree derived derivedAgain
  obtain ⟨-, -, -, multiplied⟩ := StableIdentity.rotIdentityDeriveKeypair_inv derivedAgain
  refine ⟨?_, range.1, range.2, multiplied⟩
  rw [line, connected, idA]
  rfl

end Joining

/-- The board at a handshake, as the handshake takes it. -/
def Board.device (board : Board) (keyPair : Nat × Bytes) (ephSkA challengeA : Bytes) :
    DeviceSession.Device where
  idA := rotIdentityGetIdA board.nvs
  serverRef := rotIdentityLoadServerRef board.nvs
  skA := some (scalarBytes keyPair.1)
  ephSkA := some ephSkA
  challengeA := challengeA

/-- A node that was taken in completes its handshake: however the two sides are interleaved, both
end up authenticated, with the same key. -/
theorem onboarded_handshake {sha256 : Bytes → Bytes} {isPrivate : Bytes → Prop}
    {firmware : DeviceSession.Firmware} {runtime : RotSession.Runtime}
    (libraries : Interoperation.Interoperable sha256 isPrivate firmware.suite runtime.suite)
    {first second : Mbedtls} (agree : StableIdentity.Agree first second)
    (curve : SameCurve second firmware.suite) {keyPair : Nat × Bytes}
    (parties : Interoperation.Parties isPrivate)
    (printed : Interoperation.RoundTrips firmware runtime parties) (joining : Joining)
    (carried : joining.Carried first second keyPair parties.idB)
    (identity : parties.idA = rotIdentityGetIdA joining.connected.nvs)
    (key : parties.skA = scalarBytes keyPair.1) (verifier : parties.shsB = joining.token.val)
    {pufFreqRtc pufFreqSleep : List Nat} (measured : joining.Measured pufFreqRtc pufFreqSleep) :
    Inevitable (Exchange (Reads recvAll) (Reads recvExact))
      (fun final => ∃ session : RotSession.State,
        final.left = .done (some (parties.keyAb firmware.suite runtime.suite sha256)) ∧
        final.right = .done (.ok true, session) ∧ session.authenticated = true ∧
        session.keyAb = some (parties.keyAb firmware.suite runtime.suite sha256))
      ⟨(DeviceSession.rotSessionHandshake firmware
          (joining.connected.device keyPair parties.ephSkA parties.challengeA)).run,
        (RotSession.handshake runtime (parties.setup joining.registry.get)).run {}, [], []⟩ := by
  obtain ⟨line, positive, small, multiplied⟩ := carried.line agree measured
  obtain ⟨publicKey, uncompressed⟩ := curve _ _ positive small multiplied
  rw [← key] at publicKey
  obtain ⟨pkSize, -⟩ := libraries.deviceKey parties.skA parties.skAPrivate
  rw [publicKey] at pkSize
  have untouched := carried.untouched
  rw [line, ← identity] at untouched
  have device : joining.connected.device keyPair parties.ephSkA parties.challengeA =
      parties.device := by
    rw [Board.device, carried.reference, ← identity, ← key, ← verifier]
    rfl
  obtain ⟨fields, registered, holdsKey, holdsVerifier⟩ := printed_found parties.idASize pkSize
    uncompressed joining.label joining.token joining.earlier untouched
  rw [← publicKey] at holdsKey
  rw [← verifier] at holdsVerifier
  have registry : joining.registry.get (bytesHex parties.idA) = some (.obj fields) := by
    rw [Joining.registry, Joining.registration, line, ← identity]
    exact registered
  obtain ⟨label, reached⟩ := Interoperation.handshake_reaches libraries parties printed registry
    holdsKey holdsVerifier {}
  rw [device]
  refine inevitable_mono ?_ (inevitable_of_reaches recvAll_exact recvExact_exact reached ?_)
  · rintro final rfl
    exact ⟨_, rfl, rfl, rfl, rfl⟩
  · intro next step
    cases step

/-! ### One node -/

namespace Sample

/-- What was flashed: an identifier, and credentials for the station. -/
def image : NvsImage := fun space key =>
  if space = "wifi_creds" then some [97]
  else if space = rotNvsNamespace ∧ key = rotNvsKeyIdA then some Interoperation.Sample.parties.idA
  else none

/-- A library with the sample's private key for every response. -/
def library : Mbedtls :=
  { StableIdentity.oneLibrary with
    hkdf := fun _ _ _ => some Interoperation.Sample.parties.skA
    ecpMul := fun scalar => some (4 :: scalarBytes scalar ++ scalarBytes scalar) }

/-- The key pair it derives. -/
def keyPair : Nat × Bytes :=
  (Interoperation.Sample.parties.skA.foldl (fun number byte => number * 256 + byte.toNat) 0,
    4 :: Interoperation.Sample.parties.skA ++ Interoperation.Sample.parties.skA)

/-- A node of ones that is enrolled, registered, pinned and started again. -/
def joining : Joining where
  board := ⟨onesBoot :: onesWakes, image⟩
  exportBoot := onesBoot
  line := ⟨binToHex Interoperation.Sample.parties.idA, binToHex keyPair.2⟩
  label := none
  token := ⟨Interoperation.Sample.parties.shsB, Interoperation.Sample.parties.shsBSize⟩
  earlier := []
  later := []
  actions := [.save ⟨true, true, true, true⟩
    ⟨Interoperation.Sample.parties.idB, Interoperation.Sample.parties.idBSize⟩
    ⟨Interoperation.Sample.parties.shsB, Interoperation.Sample.parties.shsBSize⟩]
  handshakeBoot := { coldBoot with wifi := true, socket := true }

/-- The scalar has the bytes that it was read from. -/
theorem keyPair_scalar : scalarBytes keyPair.1 = Interoperation.Sample.parties.skA := by
  decide +kernel

theorem library_curve : SameCurve library Interoperation.Sample.suite := by
  rintro scalar pkA - - multiplied
  rw [← Option.some.inj multiplied]
  exact ⟨rfl, rfl⟩

theorem library_agrees : StableIdentity.Agree library library where
  sha256 _ := rfl
  hkdf _ _ _ _ _ expanded again := Option.some.inj (expanded.symm.trans again)
  mpiReadBinary _ := rfl
  ecpMul _ _ _ multiplied again := Option.some.inj (multiplied.symm.trans again)

/-- The boots of the node are all of ones. -/
theorem booted_ones : joining.board.booted joining.exportBoot = onesBoot := by
  rfl

theorem connected_boots : joining.connected.boots = onesBoot :: onesWakes ++ [onesBoot] := by
  rfl

theorem reference_pinned : rotIdentityLoadServerRef joining.connected.nvs =
    some (Interoperation.Sample.parties.idB, Interoperation.Sample.parties.shsB) := by
  decide +kernel

theorem idA_kept : rotIdentityGetIdA joining.connected.nvs = Interoperation.Sample.parties.idA := by
  decide +kernel

/-- Every derivation of the node comes to this key pair. -/
theorem library_derives {data : HelperData} {nvs : Nvs} (holds : Holds data nvs) (bytes : Bytes) :
    rotIdentityDeriveKeypair library nvs bytes = some keyPair := by
  refine constant_derives rfl (fun _ _ _ => rfl) rfl (by decide +kernel) ?_ rfl holds bytes
  show some (4 :: scalarBytes keyPair.1 ++ scalarBytes keyPair.1) = _
  rw [keyPair_scalar]

/-- The node derives its key pair in the boot that completes the enrollment, and after it. -/
theorem ones_derive {history : List Boot} {boot : Boot} (same : boot.inputs = onesBoot.inputs)
    (powered : boot.powerLoss = none)
    (enrolled : isEnrolled (after (history ++ [boot])).store = true)
    (asks : ¬ (boot.serverRef = true ∧ (boot.wifi && boot.socket) = false)) :
    Derives library history boot keyPair := by
  have passed : hwOk boot.inputs.responseSram = true := by
    rw [same]
    exact ones_pass
  obtain ⟨bytes, derives⟩ := derives_measured library powered enrolled asks passed
  obtain ⟨pufFreqRtc, pufFreqSleep, recoverable⟩ := recoverable_after enrolled
  exact derives keyPair (library_derives recoverable.holds bytes)

theorem carried : joining.Carried library library keyPair Interoperation.Sample.parties.idB where
  prints := by
    refine ⟨rfl, keyPair, ?_, ?_⟩
    · rw [booted_ones]
      exact ones_derive rfl rfl ones_enrolled (by decide)
    · rfl
  untouched := nofun
  reference := reference_pinned
  derives := by
    rw [connected_boots]
    refine ones_derive rfl rfl ?_ ?_
    · rw [store_rests ones_enrolled [_]]
      exact ones_enrolled
    · decide +kernel

theorem measured : ∃ pufFreqRtc pufFreqSleep, joining.Measured pufFreqRtc pufFreqSleep := by
  obtain ⟨pufFreqRtc, pufFreqSleep, recoverable, tolerated⟩ := ones_measured
  exact ⟨pufFreqRtc, pufFreqSleep, recoverable, tolerated _ rfl, tolerated _ rfl⟩

end Sample

/-- The node completes its handshake. -/
theorem sample_onboarded : Inevitable (Exchange (Reads recvAll) (Reads recvExact))
    (fun final => ∃ session : RotSession.State,
      final.left = .done (some (Interoperation.Sample.parties.keyAb Interoperation.Sample.suite
        Interoperation.Sample.suite Interoperation.Sample.sha256)) ∧
      final.right = .done (.ok true, session) ∧ session.authenticated = true ∧
      session.keyAb = some (Interoperation.Sample.parties.keyAb Interoperation.Sample.suite
        Interoperation.Sample.suite Interoperation.Sample.sha256))
    ⟨(DeviceSession.rotSessionHandshake Interoperation.Sample.firmware
        (Sample.joining.connected.device Sample.keyPair Interoperation.Sample.parties.ephSkA
          Interoperation.Sample.parties.challengeA)).run,
      (RotSession.handshake Interoperation.Sample.runtime
        (Interoperation.Sample.parties.setup Sample.joining.registry.get)).run {}, [], []⟩ := by
  obtain ⟨pufFreqRtc, pufFreqSleep, measured⟩ := Sample.measured
  exact @onboarded_handshake _ _ Interoperation.Sample.firmware Interoperation.Sample.runtime
    Interoperation.Sample.interoperable _ _ Sample.library_agrees Sample.library_curve _
    Interoperation.Sample.parties Interoperation.Sample.roundTrips Sample.joining Sample.carried
    Sample.idA_kept.symm Sample.keyPair_scalar.symm rfl _ _ measured

end Microgrid.Onboarding
