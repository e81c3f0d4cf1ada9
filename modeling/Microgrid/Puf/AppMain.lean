import Microgrid.Puf.RotIdentity

/-!
# The node from boot to boot

`app_main`, and the machine that runs it: a boot starts from RTC memory that deep sleep
kept, or from initialised memory after power-on, a failed assertion or any other reset.
The pinned reference, the network, the key derivation, the handshake and the message only enter
with their outcome. None of them changes the `storage` namespace or the memory modelled here.

Wherever `app_main` returns, it returns nothing; which of its returns it was is kept apart, and
forgotten again for the machine.
-/

namespace Microgrid.AppMain

open CrashPrograms Puflib RotIdentity

/-- One boot: whether it is a reset rather than a wake-up, after how many NVS operations
power fails, what is measured, and which of the steps after enrollment succeed: whether
`rot_identity_load_server_ref` finds a reference, `wifi_station_connect` and `connect_to_server`
get through, the key pair for the export is derived, the handshake succeeds, and the message is
sent. -/
structure Boot where
  coldStart : Bool := false
  powerLoss : Option Nat := none
  inputs : Measurements
  serverRef : Bool := false
  wifi : Bool := false
  socket : Bool := false
  keypair : Bool := true
  handshake : Bool := true
  sent : Bool := true

/-- The returns of `app_main`, in the order of the source. -/
inductive Ending where
  | notEnrolled
  | exportUnmeasured
  | exportUnderived
  | exported
  | noWifi
  | noSocket
  | unmeasured
  | handshakeFailed
  | messageSent
  | messageFailed
deriving DecidableEq

/-- The provisioning export of `app_main`. -/
def provisioningExport (boot : Boot) : FirmwareM Ending := do
  let response ← rotIdentityGetPufResponse boot.inputs
  match response with
  | none => pure .exportUnmeasured
  | some _ =>
    cleanPufResponse
    if !boot.keypair then pure .exportUnderived
    else pure .exported

/-- `app_main` on its socket. -/
def authenticate (boot : Boot) : FirmwareM Ending := do
  let response ← rotIdentityGetPufResponse boot.inputs
  match response with
  | none => pure .unmeasured
  | some _ =>
    cleanPufResponse
    if !boot.handshake then pure .handshakeFailed
    else if boot.sent then pure .messageSent
    else pure .messageFailed

/-- `app_main` after the enrollment step, up to its return. -/
def appMainEnding (boot : Boot) (enrolled : Bool) : FirmwareM Ending :=
  if !enrolled then pure .notEnrolled
  else if !boot.serverRef then provisioningExport boot
  else if !boot.wifi then pure .noWifi
  else if !boot.socket then pure .noSocket
  else authenticate boot

/-- `app_main` after the enrollment step. -/
def appMainEnrolled (boot : Boot) (enrolled : Bool) : FirmwareM Unit := do
  let _ ← appMainEnding boot enrolled

/-- `app_main`. -/
def appMain (boot : Boot) : FirmwareM Unit := do
  let enrolled ← rotIdentityRunEnrollmentStep boot.inputs
  appMainEnrolled boot enrolled

/-- The node. -/
def node : Firmware Nvs Memory Boot where
  main := appMain
  initial := {}
  wake := Memory.wake
  coldStart := Boot.coldStart
  powerLoss := Boot.powerLoss

/-- The node after a sequence of boots, from an empty namespace. -/
abbrev after (history : List Boot) : Machine Nvs Memory := node.after Nvs.blank history

theorem after_boot (history : List Boot) (boot : Boot) :
    after (history ++ [boot]) = node.cycle (after history) boot :=
  node.after_concat Nvs.blank history boot

/-- Where `app_main` asks for a response, it releases it whatever becomes of it. -/
def useResponse (boot : Boot) : FirmwareM Unit := do
  let response ← rotIdentityGetPufResponse boot.inputs
  match response with
  | none => pure ()
  | some _ => cleanPufResponse

/-- The export releases the response, whether the key pair is derived or not. -/
theorem provisioningExport_forgets (boot : Boot) :
    (provisioningExport boot >>= fun _ => pure ()) = useResponse boot := by
  rw [provisioningExport, useResponse, Program.bind_assoc]
  congr 1
  funext response
  cases response with
  | none => rfl
  | some handed => cases boot.keypair <;> rfl

/-- So does the node on its socket, whatever becomes of the handshake and the message. -/
theorem authenticate_forgets (boot : Boot) :
    (authenticate boot >>= fun _ => pure ()) = useResponse boot := by
  rw [authenticate, useResponse, Program.bind_assoc]
  congr 1
  funext response
  cases response with
  | none => rfl
  | some handed => cases boot.handshake <;> cases boot.sent <;> rfl

/-- Only a node with a pinned reference and no connection asks for no response. -/
theorem appMainEnrolled_eq (boot : Boot) (enrolled : Bool) : appMainEnrolled boot enrolled =
    if enrolled = true ∧ ¬(boot.serverRef = true ∧ (boot.wifi && boot.socket) = false)
    then useResponse boot else pure () := by
  have ended (ending : Ending) : (pure ending >>= fun _ => pure () : FirmwareM Unit) = pure () := rfl
  rw [appMainEnrolled, appMainEnding]
  cases enrolled with
  | false => exact ended .notEnrolled
  | true =>
    cases boot.serverRef with
    | false => exact provisioningExport_forgets boot
    | true =>
      cases boot.wifi with
      | false => exact ended .noWifi
      | true =>
        cases boot.socket with
        | false => exact ended .noSocket
        | true => exact authenticate_forgets boot

/-- The memory of a node that is to retry its reconstruction. -/
def Retrying (memory : Memory) : Prop := memory.state = .pufResponseReset

/-- Reconstruction neither writes nor sleeps. -/
theorem quiet_reconstruct {asleep : Memory → Prop} (maskKey eccKey : Key) (sram : Sram) :
    Program.Quiet asleep (reconstruct maskKey eccKey sram) := by
  unfold reconstruct getBlob assert
  refine Program.quiet_bind (Program.quiet_bind Program.quiet_load fun _ => Program.quiet_require _)
    fun mask => Program.quiet_bind (Program.quiet_require _) fun _ => ?_
  refine Program.quiet_bind (Program.quiet_bind Program.quiet_load fun _ => Program.quiet_require _)
    fun eccData => Program.quiet_bind (Program.quiet_remember _) fun _ => ?_
  refine Program.quiet_bind (Program.quiet_require _) fun maskedPuf => ?_
  exact Program.quiet_bind (Program.quiet_require _) fun _ => Program.quiet_remember _

/-- Nor does the measurement of the RTC path. -/
theorem quiet_getPufResponse {asleep : Memory → Prop} (inputs : Measurements) :
    Program.Quiet asleep (getPufResponse inputs) := by
  unfold getPufResponse cleanPufResponse
  refine Program.quiet_bind (quiet_reconstruct _ _ _) fun _ =>
    Program.quiet_bind (Program.quiet_remember _) fun _ => ?_
  split
  · exact Program.quiet_pure _
  · exact Program.quiet_bind (Program.quiet_remember _) fun _ => Program.quiet_pure _

/-- Nor does that of the deep-sleep path. -/
theorem quiet_pufResponseResetCalculate {asleep : Memory → Prop} (inputs : Measurements) :
    Program.Quiet asleep (pufResponseResetCalculate inputs) := by
  unfold pufResponseResetCalculate assert cleanPufResponse
  refine Program.quiet_bind Program.quiet_inspect fun memory =>
    Program.quiet_bind (Program.quiet_require _) fun _ =>
      Program.quiet_bind (quiet_reconstruct _ _ _) fun _ =>
        Program.quiet_bind (Program.quiet_remember _) fun _ => ?_
  split
  · exact Program.quiet_remember _
  · exact Program.quiet_remember _

/-- The retry puts the node to sleep with its state set. -/
theorem quiet_getPufResponseReset {α : Type} :
    Program.Quiet Retrying (getPufResponseReset : FirmwareM α) :=
  fun _ _ => ⟨rfl, fun _ => rfl⟩

/-- A request for the response writes nothing, and sleeps to retry only. -/
theorem quiet_rotIdentityGetPufResponse (inputs : Measurements) :
    Program.Quiet Retrying (rotIdentityGetPufResponse inputs) := by
  unfold rotIdentityGetPufResponse
  refine Program.quiet_bind Program.quiet_load fun nvs => ?_
  split
  · exact Program.quiet_pure _
  · refine Program.quiet_bind Program.quiet_inspect fun memory => ?_
    split
    · exact Program.quiet_bind (Program.quiet_remember _) fun _ => Program.quiet_pure _
    · refine Program.quiet_bind (quiet_getPufResponse _) fun ok =>
        Program.quiet_bind Program.quiet_inspect fun measured => ?_
      split
      · exact Program.quiet_bind (Program.quiet_remember _) fun _ => Program.quiet_pure _
      · split
        · exact Program.quiet_bind (Program.quiet_remember _) fun _ => Program.quiet_pure _
        · exact Program.quiet_bind (Program.quiet_remember _) fun _ => quiet_getPufResponseReset

/-- After the enrollment step, `app_main` writes nothing to the `storage` namespace, and
sleeps to retry only. -/
theorem quiet_appMainEnrolled (boot : Boot) (enrolled : Bool) :
    Program.Quiet Retrying (appMainEnrolled boot enrolled) := by
  rw [appMainEnrolled_eq]
  split
  · refine Program.quiet_bind (quiet_rotIdentityGetPufResponse _) fun response => ?_
    cases response with
    | none => exact Program.quiet_pure _
    | some handed => exact Program.quiet_remember _
  · exact Program.quiet_pure _

end Microgrid.AppMain
