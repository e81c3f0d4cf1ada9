import Mathlib.Data.List.Induction
import Mathlib.Logic.Function.Basic
import Microgrid.Handshake.RotSession

/-!
# The registry of nodes: `register_puf_node.py`

The tool keeps a JSON file that maps an identifier to a public key and a verifier. It
stores the text of `--id-a` as the key, while a session looks an identifier up by the
lowercase digits of its bytes, and it checks how long the texts are, not what is in them.

A registry is the mapping in the file. One invocation is classified by its arguments
first (`request`), in the order in which the tool looks at them, and then acts on the
mapping. The random verifier is an input.
-/

namespace Microgrid.RegisterPufNode

open Handshake HexText RotSession

/-- An entry of the file. -/
structure RegistryEntry where
  pkA : String
  shsB : String
  label : String

/-- The entry as the server's parser hands it over; the file has its keys sorted. -/
def RegistryEntry.toJson (entry : RegistryEntry) : Json :=
  .obj [("label", .str entry.label), ("pk_a", .str entry.pkA), ("shs_b", .str entry.shsB)]

/-- The dictionary in the file; a missing file is an empty one. -/
abbrev Registry := String → Option RegistryEntry

/-- The empty registry. -/
def Registry.empty : Registry := fun _ => none

/-- `load_node_registry` on the file, and `get` on the result. -/
def Registry.get (registry : Registry) (key : String) : Option Json :=
  (registry key).map RegistryEntry.toJson

/-- The arguments of one invocation. -/
structure Args where
  idA : Option String := none
  pkA : Option String := none
  label : Option String := none
  shsB : Option String := none
  remove : Option String := none
  list : Bool := false

/-- What `secrets.token_hex(ROT_DIGEST_LEN)` is made from. -/
abbrev Token := { bytes : Bytes // bytes.length = rotDigestLen }

/-- `ROT_PUBKEY_HEX_LEN`. -/
def rotPubkeyHexLen : Nat := 65 * 2

/-- An optional argument counts as given if it is not empty. -/
def given (value : Option String) : Option String := value.filter (· ≠ "")

/-- What the arguments ask for. -/
inductive Request where
  | list
  | remove (idA : String)
  | register (idA pkA : String) (shsB : Option String)
  | refuse (message : String)

/-- The checks on the arguments, in the tool's order. -/
def request (args : Args) : Request :=
  if args.list then .list
  else match given args.remove with
    | some idA => .remove idA
    | none =>
      match given args.idA, given args.pkA with
      | some idA, some pkA =>
        if idA.length ≠ 32 then .refuse "--id-a must be 32 hex chars (16 bytes)"
        else if pkA.length ≠ rotPubkeyHexLen ∨ pkA.toList.take 2 ≠ ['0', '4'] then
          .refuse ("--pk-a must be " ++ toString rotPubkeyHexLen ++
            " hex chars (65-byte uncompressed SECP256R1 point, starting with 04)")
        else match given args.shsB with
          | none => .register idA pkA none
          | some shsB =>
            if shsB.length ≠ rotDigestLen * 2 then
              .refuse ("--shs-b must be " ++ toString (rotDigestLen * 2) ++
                " hex chars (32 bytes)")
            else .register idA pkA (some shsB)
      | _, _ => .refuse "--id-a and --pk-a are required (or use --list / --remove)"

/-- How an invocation ends. -/
inductive Outcome where
  | listed
  | removed
  | notFound
  | registered
  | refused (message : String)

/-- The tool's `main`. -/
def main (args : Args) (token : Token) (registry : Registry) : Outcome × Registry :=
  match request args with
  | .list => (.listed, registry)
  | .remove idA =>
    if (registry idA).isSome then (.removed, Function.update registry idA none)
    else (.notFound, registry)
  | .register idA pkA shsB =>
    (.registered, Function.update registry idA (some {
      pkA
      shsB := shsB.getD (bytesHex token)
      label := (given args.label).getD (String.ofList (idA.toList.take 8)) }))
  | .refuse message => (.refused message, registry)

/-- A removal erases the text it is given, if it is there at all. -/
theorem main_remove {args : Args} {idA : String} (removes : request args = .remove idA)
    (token : Token) (registry : Registry) :
    (main args token registry).2 = Function.update registry idA none := by
  rw [main, removes]
  by_cases present : (registry idA).isSome = true
  · simp only [present, if_true]
  · have absent : registry idA = none := Option.not_isSome_iff_eq_none.mp present
    simp only [present, Bool.false_eq_true, if_false]
    rw [← absent, Function.update_eq_self]

/-- A registration writes one entry. -/
theorem main_register {args : Args} {idA pkA : String} {shsB : Option String}
    (registers : request args = .register idA pkA shsB) (token : Token) (registry : Registry) :
    ∃ label, (main args token registry).2 = Function.update registry idA
      (some { pkA, shsB := shsB.getD (bytesHex token), label }) := by
  rw [main, registers]
  exact ⟨_, rfl⟩

/-- The registry after a sequence of invocations, from a missing file on. -/
def after (history : List (Args × Token)) : Registry :=
  history.foldl (fun registry invocation => (main invocation.1 invocation.2 registry).2) .empty

theorem after_append (history : List (Args × Token)) (args : Args) (token : Token) :
    after (history ++ [(args, token)]) = (main args token (after history)).2 := by
  simp [after]

/-- The lengths that a registration has been checked for. -/
theorem request_register {args : Args} {idA pkA : String} {shsB : Option String}
    (registers : request args = .register idA pkA shsB) :
    idA.length = 2 * rotIdLen ∧ pkA.length = 2 * rotPubkeyLen ∧
      ∀ text, shsB = some text → text.length = 2 * rotDigestLen := by
  unfold request at registers
  split_ifs at registers
  split at registers
  · cases registers
  · split at registers
    · split_ifs at registers with idLength pkFormat
      rw [not_or, not_not] at pkFormat
      split at registers
      · cases registers
        exact ⟨not_not.mp idLength, pkFormat.1, nofun⟩
      · split_ifs at registers with shsLength
        cases registers
        refine ⟨not_not.mp idLength, pkFormat.1, ?_⟩
        rintro text ⟨⟩
        exact not_not.mp shsLength
    · cases registers

/-! ### What the server reads -/

/-- A fixed-size field of digits, and nothing else, is decoded. -/
theorem hexToBin_ok {text : String} {length : Nat} (size : text.length = 2 * length) :
    (∃ bin, RotSession.hexToBin (.str text) length = .ok bin) ↔ IsHex text.toList := by
  have chars : text.toList.length = 2 * length := by rw [String.length_toList, size]
  constructor
  · rintro ⟨bin, read⟩
    cases decoded : fromhex text.toList with
    | none => simp [RotSession.hexToBin, bytesFromhex, decoded, bind, Except.bind] at read
    | some bytes =>
      by_cases full : bytes.length = length
      · exact isHex_of_fromhex _ bytes decoded (by rw [chars, full])
      · simp [RotSession.hexToBin, bytesFromhex, decoded, bind, Except.bind, full] at read
  · intro digits
    obtain ⟨bin, decoded, full⟩ := fromhex_of_isHex length text.toList digits chars
    exact ⟨bin, by simp [RotSession.hexToBin, bytesFromhex, decoded, bind, Except.bind, full]⟩

/-- An entry of the right lengths is decoded exactly if both fields are digits. -/
theorem readEntry_ok {entry : RegistryEntry} (pkLength : entry.pkA.length = 2 * rotPubkeyLen)
    (shsLength : entry.shsB.length = 2 * rotDigestLen) :
    (∃ fields, readEntry entry.toJson = .ok fields) ↔
      IsHex entry.pkA.toList ∧ IsHex entry.shsB.toList := by
  rw [← hexToBin_ok pkLength, ← hexToBin_ok shsLength]
  have pkItem : item entry.toJson "pk_a" = .ok (.str entry.pkA) := rfl
  have shsItem : item entry.toJson "shs_b" = .ok (.str entry.shsB) := rfl
  have labelField : getField entry.toJson "label" = .ok (some (.str entry.label)) := rfl
  unfold readEntry
  rw [pkItem, shsItem, labelField]
  simp only [bind, Except.bind]
  constructor
  · rintro ⟨fields, read⟩
    cases pk : RotSession.hexToBin (.str entry.pkA) rotPubkeyLen with
    | error raised =>
      rw [pk] at read
      cases read
    | ok pkA =>
      cases shs : RotSession.hexToBin (.str entry.shsB) rotDigestLen with
      | error raised =>
        rw [pk, shs] at read
        cases read
      | ok shsB => exact ⟨⟨pkA, rfl⟩, ⟨shsB, rfl⟩⟩
  · rintro ⟨⟨pkA, pk⟩, ⟨shsB, shs⟩⟩
    rw [pk, shs]
    exact ⟨_, rfl⟩

/-! ### Usable registries -/

/-- The text of an identifier: it decodes to the sixteen bytes of a node. -/
def Names (text : String) (idA : Bytes) : Prop :=
  fromhex text.toList = some idA ∧ idA.length = rotIdLen

/-- The node of every entry is found by a session, the entry's fields are decoded, and no node
has two entries. -/
structure Usable (registry : Registry) : Prop where
  found : ∀ key entry, registry key = some entry →
    ∃ idA, Names key idA ∧ (registry.get (bytesHex idA)).isSome = true
  decodes : ∀ key entry, registry key = some entry →
    ∃ fields, readEntry entry.toJson = .ok fields
  single : ∀ key other idA, (registry key).isSome = true → (registry other).isSome = true →
    Names key idA → Names other idA → key = other

/-- No entry of the node is left. -/
def Gone (registry : Registry) (text : String) : Prop :=
  ∀ idA key, Names text idA → Names key idA → registry key = none

/-- What is promised of the file after an invocation. -/
def Intact (history : List (Args × Token)) : Prop :=
  Usable (after history) ∧ ∀ earlier args token idA, history = earlier ++ [(args, token)] →
    request args = .remove idA → Gone (after history) idA

/-- A registration has digits in every field, and those of its identifier are lowercase. A
removal is in lowercase digits too, unless there is nothing to remove. -/
def Conforms (registry : Registry) (args : Args) : Prop :=
  match request args with
  | .list => True
  | .remove text => ∀ idA, Names text idA →
      IsLowerHex text.toList ∨ registry (bytesHex idA) = none
  | .register idA pkA shsB =>
    IsLowerHex idA.toList ∧ IsHex pkA.toList ∧ ∀ text, shsB = some text → IsHex text.toList
  | .refuse _ => True

/-- Lowercase digits of the right number are what the session looks up. -/
theorem lowercase_names {text : String} (size : text.length = 2 * rotIdLen)
    (digits : IsLowerHex text.toList) : ∃ idA, Names text idA ∧ bytesHex idA = text := by
  obtain ⟨idA, written, full⟩ := lowerHex_of_digits rotIdLen text.toList digits
    (by rw [String.length_toList, size])
  refine ⟨idA, ⟨?_, full⟩, ?_⟩
  · rw [← written, fromhex_lowerHex]
  · rw [bytesHex, written, String.ofList_toList]

/-- The digits of a node's bytes name the node. -/
theorem names_bytesHex {idA : Bytes} (size : idA.length = rotIdLen) : Names (bytesHex idA) idA := by
  refine ⟨?_, size⟩
  rw [bytesHex, String.toList_ofList, fromhex_lowerHex]

/-- Written digits are lowercase. -/
theorem isLowerHex_bytesHex (bin : Bytes) : IsLowerHex (bytesHex bin).toList := by
  rw [bytesHex, String.toList_ofList]
  exact lowerHex_digits bin

/-- Written digits are digits. -/
theorem isHex_bytesHex (bin : Bytes) : IsHex (bytesHex bin).toList := by
  rw [bytesHex, String.toList_ofList]
  apply isHex_of_fromhex _ bin (fromhex_lowerHex bin)
  exact lowerHex_length bin

/-- A text names one node at most. -/
theorem names_unique {text : String} {idA other : Bytes} (first : Names text idA)
    (second : Names text other) : idA = other := by
  have same := first.1.symm.trans second.1
  exact Option.some.inj same

/-- In lowercase, a node has one name. -/
theorem lowercase_unique {text : String} {idA : Bytes} (size : text.length = 2 * rotIdLen)
    (digits : IsLowerHex text.toList) (names : Names text idA) : text = bytesHex idA := by
  obtain ⟨written, ofText, same⟩ := lowercase_names size digits
  rw [names_unique names ofText, same]

/-- Every entry is written the way the server reads it. -/
def Canonical (registry : Registry) : Prop :=
  ∀ key entry, registry key = some entry →
    (key.length = 2 * rotIdLen ∧ IsLowerHex key.toList) ∧
    (entry.pkA.length = 2 * rotPubkeyLen ∧ IsHex entry.pkA.toList) ∧
    entry.shsB.length = 2 * rotDigestLen ∧ IsHex entry.shsB.toList

theorem usable_of_canonical {registry : Registry} (canonical : Canonical registry) :
    Usable registry := by
  constructor
  · intro key entry present
    obtain ⟨⟨size, digits⟩, _⟩ := canonical key entry present
    obtain ⟨idA, names, same⟩ := lowercase_names size digits
    refine ⟨idA, names, ?_⟩
    rw [same, Registry.get, present]
    rfl
  · intro key entry present
    obtain ⟨_, ⟨pkSize, pkDigits⟩, shsSize, shsDigits⟩ := canonical key entry present
    exact (readEntry_ok pkSize shsSize).mpr ⟨pkDigits, shsDigits⟩
  · intro key other idA isKey isOther first second
    obtain ⟨_, present⟩ := Option.isSome_iff_exists.mp isKey
    obtain ⟨_, isThere⟩ := Option.isSome_iff_exists.mp isOther
    obtain ⟨⟨keySize, keyDigits⟩, _⟩ := canonical key _ present
    obtain ⟨⟨otherSize, otherDigits⟩, _⟩ := canonical other _ isThere
    rw [lowercase_unique keySize keyDigits first, lowercase_unique otherSize otherDigits second]

/-- A conforming invocation keeps the registry canonical. -/
theorem canonical_main {registry : Registry} (canonical : Canonical registry) (args : Args)
    (token : Token) (conforms : Conforms registry args) :
    Canonical (main args token registry).2 := by
  cases asked : request args with
  | list =>
    rw [main, asked]
    exact canonical
  | refuse message =>
    rw [main, asked]
    exact canonical
  | remove idA =>
    rw [main_remove asked]
    intro key entry present
    by_cases same : key = idA
    · rw [same, Function.update_self] at present
      cases present
    · rw [Function.update_of_ne same] at present
      exact canonical key entry present
  | register idA pkA shsB =>
    rw [Conforms, asked] at conforms
    obtain ⟨idDigits, pkDigits, shsDigits⟩ := conforms
    obtain ⟨idSize, pkSize, shsSize⟩ := request_register asked
    obtain ⟨label, written⟩ := main_register asked token registry
    rw [written]
    intro key entry present
    by_cases same : key = idA
    · rw [same, Function.update_self, Option.some.injEq] at present
      subst present
      refine ⟨⟨same ▸ idSize, same ▸ idDigits⟩, ⟨pkSize, pkDigits⟩, ?_⟩
      cases shsB with
      | none =>
        refine ⟨?_, isHex_bytesHex token⟩
        show (String.ofList (lowerHex token)).length = _
        rw [String.length_ofList, lowerHex_length, token.property]
      | some text => exact ⟨shsSize text rfl, shsDigits text rfl⟩
    · rw [Function.update_of_ne same] at present
      exact canonical key entry present

/-- A conforming removal leaves no entry of the node: it was given the one text that such an
entry can have, or there was none. -/
theorem gone_of_canonical {registry : Registry} (canonical : Canonical registry) {args : Args}
    (token : Token) {text : String} (removes : request args = .remove text)
    (conforms : Conforms registry args) : Gone (main args token registry).2 text := by
  rw [Conforms, removes] at conforms
  rw [main_remove removes]
  intro idA key ofText ofKey
  by_cases same : key = text
  · rw [same, Function.update_self]
  · rw [Function.update_of_ne same]
    cases present : registry key with
    | none => rfl
    | some entry =>
      obtain ⟨⟨size, digits⟩, _⟩ := canonical key entry present
      have written := lowercase_unique size digits ofKey
      rcases conforms idA ofText with lowercase | absent
      · have textSize : text.length = 2 * rotIdLen := by
          rw [← String.length_toList, fromhex_digits _ idA ofText.1 lowercase.isHex, ofText.2]
        rw [lowercase_unique textSize lowercase ofText] at same
        exact absurd written same
      · rw [← written, present] at absent
        cases absent

/-! ### Which invocations keep the registry usable -/

/-- From a usable registry, only conforming invocations lead to what is promised. -/
theorem conforms_of_usable {registry : Registry} {args : Args} {token : Token}
    (usable : Usable (main args token registry).2)
    (gone : ∀ text, request args = .remove text → Gone (main args token registry).2 text) :
    Conforms registry args := by
  rw [Conforms]
  cases asked : request args with
  | list => trivial
  | refuse message => trivial
  | remove text =>
    intro idA names
    have erased := gone text asked idA (bytesHex idA) names (names_bytesHex names.2)
    rw [main_remove asked] at erased
    by_cases same : bytesHex idA = text
    · refine .inl ?_
      rw [← same]
      exact isLowerHex_bytesHex idA
    · rw [Function.update_of_ne same] at erased
      exact .inr erased
  | register idA pkA shsB =>
    obtain ⟨label, written⟩ := main_register asked token registry
    obtain ⟨_, pkSize, shsSize⟩ := request_register asked
    rw [written] at usable
    have present : Function.update registry idA
        (some { pkA, shsB := shsB.getD (bytesHex token), label }) idA = _ := Function.update_self ..
    obtain ⟨node, names, looked⟩ := usable.found idA _ present
    have isThere : (Function.update registry idA
        (some { pkA, shsB := shsB.getD (bytesHex token), label }) (bytesHex node)).isSome = true := by
      rw [Registry.get, Option.isSome_map] at looked
      exact looked
    have same := usable.single idA (bytesHex node) node (by rw [present]; rfl) isThere names
      (names_bytesHex names.2)
    have shsLength : (shsB.getD (bytesHex token)).length = 2 * rotDigestLen := by
      cases shsB with
      | none =>
        show (String.ofList (lowerHex token)).length = _
        rw [String.length_ofList, lowerHex_length, token.property]
      | some text => exact shsSize text rfl
    obtain ⟨pkDigits, shsDigits⟩ := (readEntry_ok pkSize shsLength).mp (usable.decodes idA _ present)
    refine ⟨?_, pkDigits, ?_⟩
    · rw [same]
      exact isLowerHex_bytesHex node
    · rintro text rfl
      exact shsDigits

/-- The registry stays usable, and removals complete, through a sequence of invocations if and
only if every one of them conforms. -/
theorem registry_usable_iff (history : List (Args × Token)) :
    (∀ earlier later, history = earlier ++ later → Intact earlier) ↔
      ∀ earlier args token later, history = earlier ++ (args, token) :: later →
        Conforms (after earlier) args := by
  constructor
  · intro intact earlier args token later invocations
    obtain ⟨usable, gone⟩ := intact (earlier ++ [(args, token)]) later
      (by rw [invocations, List.append_assoc, List.cons_append, List.nil_append])
    rw [after_append] at usable gone
    exact conforms_of_usable usable fun text removes => gone earlier args token text rfl removes
  · intro conforms earlier later invocations
    have canonical : ∀ first rest, history = first ++ rest → Canonical (after first) := by
      intro first
      induction first using List.reverseRecOn with
      | nil =>
        intro rest _ key entry present
        cases present
      | append_singleton first last inductionHypothesis =>
        intro rest split
        obtain ⟨args, token⟩ := last
        have here : history = first ++ (args, token) :: rest := by
          rw [split, List.append_assoc, List.cons_append, List.nil_append]
        rw [after_append]
        exact canonical_main (inductionHypothesis _ here) args token (conforms _ _ _ _ here)
    refine ⟨usable_of_canonical (canonical earlier later invocations), ?_⟩
    rintro first args token text rfl removes
    have here : history = first ++ (args, token) :: later := by
      rw [invocations, List.append_assoc, List.cons_append, List.nil_append]
    rw [after_append]
    exact gone_of_canonical (canonical _ _ here) token removes (conforms _ _ _ _ here)

/-- The identifier of a node, in capitals. -/
def capitalId : String := String.ofList (List.replicate 32 'A')

/-- A public key in digits. -/
def zeroKey : String := String.ofList ('0' :: '4' :: List.replicate 128 '0')

/-- The zero verifier. -/
def zeroToken : Token := ⟨List.replicate 32 0, rfl⟩

/-- A registration that the tool accepts. -/
def capitals : Args := { idA := some capitalId, pkA := some zeroKey }

theorem given_some {text : String} (positive : 0 < text.length) : given (some text) = some text := by
  have notEmpty : text ≠ "" := by
    rintro rfl
    exact absurd positive (Nat.lt_irrefl 0)
  simp [given, notEmpty]

theorem capitals_registers : request capitals = .register capitalId zeroKey none := by
  have idLength : capitalId.length = 32 := String.length_ofList.trans List.length_replicate
  have pkLength : zeroKey.length = rotPubkeyHexLen := by
    unfold zeroKey
    rw [String.length_ofList]
    rfl
  have pkStart : zeroKey.toList.take 2 = ['0', '4'] := by
    unfold zeroKey
    rw [String.toList_ofList]
    rfl
  have idGiven : given capitals.idA = some capitalId :=
    given_some (idLength ▸ Nat.zero_lt_succ 31)
  have pkGiven : given capitals.pkA = some zeroKey :=
    given_some (pkLength ▸ Nat.zero_lt_succ 129)
  unfold request
  rw [idGiven, pkGiven]
  simp only [idLength, pkLength, pkStart, ne_eq, not_true_eq_false, or_self, if_false]
  rfl

/-- The tool registers the node, and no session finds it. -/
theorem capitals_not_found : ¬ Intact [(capitals, zeroToken)] := by
  intro intact
  obtain ⟨label, written⟩ := main_register capitals_registers zeroToken Registry.empty
  have usable : Usable (main capitals zeroToken Registry.empty).2 := intact.1
  rw [written] at usable
  obtain ⟨idA, names, looked⟩ := usable.found capitalId _ (Function.update_self ..)
  have known : Names capitalId (List.replicate 16 0xAA) := ⟨by decide, rfl⟩
  obtain rfl := names_unique names known
  have other : bytesHex (List.replicate 16 0xAA) ≠ capitalId := by decide
  rw [Registry.get, Function.update_of_ne other] at looked
  cases looked

end Microgrid.RegisterPufNode
