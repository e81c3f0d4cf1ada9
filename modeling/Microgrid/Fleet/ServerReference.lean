import Microgrid.Fleet.ProvisionServerRef

/-!
# Pinning the server reference on the device

`rot_identity_save_server_ref` writes the server's identifier and the node's verifier under
two keys. Each write takes effect by itself, and the second is made whether or not the first
succeeded. The reader takes any two blobs of the right sizes for a pair.

A call that fails is to leave what was pinned before. It does unless one half of the
reference is replaced next to a readable other half, or both are and only the commit fails.
-/

namespace Microgrid.ServerReference

open Handshake ProvisionServerRef

/-- `ROT_NVS_NAMESPACE`. -/
def rotNvsNamespace : String := "rot_identity"

/-- `ROT_NVS_KEY_ID_B`. -/
def rotNvsKeyIdB : String := "id_b"

/-- `ROT_NVS_KEY_SHS_B`. -/
def rotNvsKeyShsB : String := "shs_b_ref"

/-- `nvs_get_blob` into a buffer: a blob that does not fit is an error. -/
def nvsGetBlob (nvs : NvsImage) (key : String) (capacity : ℕ) : Option Bytes :=
  match nvs rotNvsNamespace key with
  | some blob => if blob.length ≤ capacity then some blob else none
  | none => none

/-- `rot_identity_load_server_ref`. -/
def rotIdentityLoadServerRef (nvs : NvsImage) : Option (Bytes × Bytes) :=
  match nvsGetBlob nvs rotNvsKeyIdB rotIdLen with
  | none => none
  | some idB =>
    match nvsGetBlob nvs rotNvsKeyShsB rotDigestLen with
    | none => none
    | some shsBRef =>
      if idB.length = rotIdLen ∧ shsBRef.length = rotDigestLen then some (idB, shsBRef) else none

/-- Which of the operations of one call succeed. -/
structure Outcomes where
  opened : Bool
  idBSet : Bool
  shsBSet : Bool
  committed : Bool

/-- `nvs_set_blob`. -/
def nvsSetBlob (succeeds : Bool) (nvs : NvsImage) (key : String) (blob : Bytes) : NvsImage :=
  if succeeds then
    fun space other =>
      if space = rotNvsNamespace ∧ other = key then some blob else nvs space other
  else nvs

/-- An identifier, as the parameter's type has it. -/
abbrev IdB := {bin : Bytes // bin.length = rotIdLen}

/-- A verifier. -/
abbrev ShsB := {bin : Bytes // bin.length = rotDigestLen}

/-- `rot_identity_save_server_ref`: its result and what the NVS holds afterwards. -/
def rotIdentitySaveServerRef (outcomes : Outcomes) (nvs : NvsImage) (idB : IdB) (shsBRef : ShsB) :
    Bool × NvsImage :=
  if outcomes.opened then
    let nvs := nvsSetBlob outcomes.idBSet nvs rotNvsKeyIdB idB
    let nvs := nvsSetBlob outcomes.shsBSet nvs rotNvsKeyShsB shsBRef
    (outcomes.idBSet && outcomes.shsBSet && outcomes.committed, nvs)
  else (false, nvs)

/-- A call that succeeds pins the pair, and a call that fails leaves what was pinned. -/
def AllOrNothing (outcomes : Outcomes) (nvs : NvsImage) (idB : IdB) (shsBRef : ShsB) : Prop :=
  let result := rotIdentitySaveServerRef outcomes nvs idB shsBRef
  (result.1 = true → rotIdentityLoadServerRef result.2 = some (idB.val, shsBRef.val)) ∧
  (result.1 = false → rotIdentityLoadServerRef result.2 = rotIdentityLoadServerRef nvs)

/-- What is under one of the two keys. -/
def stored (nvs : NvsImage) (key : String) : Option Bytes := nvs rotNvsNamespace key

/-- No write took effect, or all operations succeeded, or what was written was there before, or
the other half is no part of a reference. -/
def Harmless (outcomes : Outcomes) (nvs : NvsImage) (idB : IdB) (shsBRef : ShsB) : Prop :=
  outcomes.opened = true →
  match outcomes.idBSet, outcomes.shsBSet with
  | false, false => True
  | true, true => outcomes.committed = true ∨
    stored nvs rotNvsKeyIdB = some idB.val ∧ stored nvs rotNvsKeyShsB = some shsBRef.val
  | true, false => stored nvs rotNvsKeyIdB = some idB.val ∨
    ∀ old, stored nvs rotNvsKeyShsB = some old → old.length ≠ rotDigestLen
  | false, true => stored nvs rotNvsKeyShsB = some shsBRef.val ∨
    ∀ old, stored nvs rotNvsKeyIdB = some old → old.length ≠ rotIdLen

/-- The two halves make a reference. -/
def readPair : Option Bytes → Option Bytes → Option (Bytes × Bytes)
  | some idB, some shsBRef =>
    if idB.length = rotIdLen ∧ shsBRef.length = rotDigestLen then some (idB, shsBRef) else none
  | _, _ => none

/-- The reader looks at the two halves and nothing else. -/
theorem load_eq_readPair (nvs : NvsImage) : rotIdentityLoadServerRef nvs =
    readPair (stored nvs rotNvsKeyIdB) (stored nvs rotNvsKeyShsB) := by
  unfold rotIdentityLoadServerRef nvsGetBlob stored
  cases nvs rotNvsNamespace rotNvsKeyIdB with
  | none => rfl
  | some idB =>
    cases nvs rotNvsNamespace rotNvsKeyShsB with
    | none =>
      by_cases fits : idB.length ≤ rotIdLen <;> simp [fits, readPair]
    | some shsBRef =>
      by_cases fits : idB.length ≤ rotIdLen
      · by_cases fitsB : shsBRef.length ≤ rotDigestLen
        · simp [fits, fitsB, readPair]
        · have wrong : shsBRef.length ≠ rotDigestLen := fun same => fitsB same.le
          simp [fits, fitsB, readPair, wrong]
      · have wrong : idB.length ≠ rotIdLen := fun same => fits same.le
        simp [fits, readPair, wrong]

/-- It is the reader of a freshly flashed image. -/
theorem load_flashed (image : NvsImage) :
    rotIdentityLoadServerRef image = ProvisionServerRef.loadServerRef image := by
  rw [load_eq_readPair]
  unfold ProvisionServerRef.loadServerRef readPair stored
  rfl

/-- What the two keys hold after both writes, whichever of them took effect. -/
theorem stored_written (idBSet shsBSet : Bool) (nvs : NvsImage) (idB shsBRef : Bytes) :
    stored (nvsSetBlob shsBSet (nvsSetBlob idBSet nvs rotNvsKeyIdB idB) rotNvsKeyShsB shsBRef)
      rotNvsKeyIdB = (if idBSet then some idB else stored nvs rotNvsKeyIdB) ∧
    stored (nvsSetBlob shsBSet (nvsSetBlob idBSet nvs rotNvsKeyIdB idB) rotNvsKeyShsB shsBRef)
      rotNvsKeyShsB = (if shsBSet then some shsBRef else stored nvs rotNvsKeyShsB) := by
  have distinct : rotNvsKeyIdB ≠ rotNvsKeyShsB := by simp [rotNvsKeyIdB, rotNvsKeyShsB]
  constructor
  · cases idBSet <;> cases shsBSet <;> simp [stored, nvsSetBlob, distinct]
  · cases idBSet <;> cases shsBSet <;> simp [stored, nvsSetBlob, distinct.symm]

section Halves

variable (idB : IdB) (shsBRef : ShsB) (oldIdB oldShsB : Option Bytes)

theorem readPair_sized : readPair (some idB.val) (some shsBRef.val) =
    some (idB.val, shsBRef.val) := by
  rw [readPair, if_pos ⟨idB.property, shsBRef.property⟩]

/-- A new pair reads like the old one only if it is the old one. -/
theorem readPair_both : readPair (some idB.val) (some shsBRef.val) = readPair oldIdB oldShsB ↔
    oldIdB = some idB.val ∧ oldShsB = some shsBRef.val := by
  rw [readPair_sized]
  constructor
  · intro same
    unfold readPair at same
    split at same
    · split at same
      · obtain ⟨rfl, rfl⟩ := Prod.mk.inj (Option.some.inj same)
        exact ⟨rfl, rfl⟩
      · cases same
    · cases same
  · rintro ⟨rfl, rfl⟩
    exact (readPair_sized idB shsBRef).symm

/-- A new identifier next to the old verifier. -/
theorem readPair_idB : readPair (some idB.val) oldShsB = readPair oldIdB oldShsB ↔
    oldIdB = some idB.val ∨ ∀ old, oldShsB = some old → old.length ≠ rotDigestLen := by
  by_cases sized : ∀ old, oldShsB = some old → old.length ≠ rotDigestLen
  · have unread : ∀ half, readPair half oldShsB = none := by
      intro half
      cases half with
      | none => rfl
      | some half =>
        cases oldShsB with
        | none => rfl
        | some old => simp [readPair, sized old rfl]
    exact iff_of_true ((unread _).trans (unread _).symm) (.inr sized)
  · have half : ∃ old, oldShsB = some old ∧ old.length = rotDigestLen := by
      simpa using sized
    obtain ⟨old, rfl, exact⟩ := half
    rw [readPair_both idB ⟨old, exact⟩ oldIdB (some old)]
    tauto

/-- A new verifier next to the old identifier. -/
theorem readPair_shsB : readPair oldIdB (some shsBRef.val) = readPair oldIdB oldShsB ↔
    oldShsB = some shsBRef.val ∨ ∀ old, oldIdB = some old → old.length ≠ rotIdLen := by
  by_cases sized : ∀ old, oldIdB = some old → old.length ≠ rotIdLen
  · have unread : ∀ half, readPair oldIdB half = none := by
      intro half
      cases oldIdB with
      | none => rfl
      | some old =>
        cases half with
        | none => rfl
        | some half => simp [readPair, sized old rfl]
    exact iff_of_true ((unread _).trans (unread _).symm) (.inr sized)
  · have half : ∃ old, oldIdB = some old ∧ old.length = rotIdLen := by
      simpa using sized
    obtain ⟨old, rfl, exact⟩ := half
    rw [readPair_both ⟨old, exact⟩ shsBRef (some old) oldShsB]
    tauto

end Halves

/-- Pinning is all or nothing exactly where a failure is harmless. -/
theorem pinning_all_or_nothing_iff (outcomes : Outcomes) (nvs : NvsImage) (idB : IdB)
    (shsBRef : ShsB) :
    AllOrNothing outcomes nvs idB shsBRef ↔ Harmless outcomes nvs idB shsBRef := by
  obtain ⟨opened, idBSet, shsBSet, committed⟩ := outcomes
  obtain ⟨afterIdB, afterShsB⟩ := stored_written idBSet shsBSet nvs idB.val shsBRef.val
  unfold AllOrNothing Harmless rotIdentitySaveServerRef
  cases opened with
  | false => simp
  | true =>
    simp only [if_true, load_eq_readPair, afterIdB, afterShsB, true_imp_iff]
    cases idBSet with
    | false =>
      cases shsBSet with
      | false => simp
      | true => simpa using readPair_shsB shsBRef _ _
    | true =>
      cases shsBSet with
      | false => simpa using readPair_idB idB _ _
      | true =>
        cases committed with
        | false => simpa using readPair_both idB shsBRef _ _
        | true => simpa using readPair_sized idB shsBRef

/-- A node that has been provisioned. -/
def provisioned : NvsImage := fun space key =>
  if space = rotNvsNamespace then
    if key = rotNvsKeyIdB then some (List.replicate 16 1)
    else if key = rotNvsKeyShsB then some (List.replicate 32 2) else none
  else none

/-- The write of the new verifier fails: the result is `false`, and the reader returns the new
identifier with the old verifier. -/
theorem mixed_reference :
    let outcomes : Outcomes := ⟨true, true, false, true⟩
    let idB : IdB := ⟨List.replicate 16 3, rfl⟩
    let shsBRef : ShsB := ⟨List.replicate 32 4, rfl⟩
    rotIdentityLoadServerRef provisioned = some (List.replicate 16 1, List.replicate 32 2) ∧
    (rotIdentitySaveServerRef outcomes provisioned idB shsBRef).1 = false ∧
    rotIdentityLoadServerRef (rotIdentitySaveServerRef outcomes provisioned idB shsBRef).2 =
      some (List.replicate 16 3, List.replicate 32 2) ∧
    ¬AllOrNothing outcomes provisioned idB shsBRef := by
  refine ⟨rfl, rfl, rfl, ?_⟩
  rintro ⟨-, kept⟩
  have mixed := kept rfl
  revert mixed
  decide

end Microgrid.ServerReference
