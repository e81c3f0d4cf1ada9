import Microgrid.SecureNode.Logout

/-!
# Records are read back as they were written

`_parse_tlv` keeps a position in the data and unpacks a length at it, checking before each
of its two slices that the data reach that far. The loop is related to the parser on the
remaining data, which the handlers use, and the parser to the encoders in both directions:
what was packed is returned whatever follows it, and what is returned packs to the front of
the data. So the answer `None` means that no record of that many fields is there.
-/

namespace Microgrid.SecureNode

open PythonValues

/-- `data[start:stop]`. -/
def slice (data : Bytes) (start stop : ℕ) : Bytes := (data.drop start).take (stop - start)

/-- The loop of `_parse_tlv`, with the fields and the position so far. -/
def parseTlvLoop (data : Bytes) : ℕ → List Bytes → ℕ → Except PyException (Option (List Bytes))
  | 0, fields, _ => .ok (some fields)
  | nFields + 1, fields, pos =>
    if pos + 2 > data.length then .ok none
    else do
      let ln ← structUnpack 2 (slice data pos (pos + 2))
      if pos + 2 + ln > data.length then .ok none
      else
        parseTlvLoop data nFields (fields ++ [slice data (pos + 2) (pos + 2 + ln)]) (pos + 2 + ln)

/-- `_pack_tlv_pair`. -/
def packTlvPair (a b : Bytes) : Except PyException Bytes := do
  let lengthA ← structPack 2 a.length
  let lengthB ← structPack 2 b.length
  pure (lengthA ++ a ++ lengthB ++ b)

/-- The loop is the parser on what is left of the data. Its lengths are unpacked from two
bytes each, so nothing is raised. -/
theorem parseTlvLoop_eq (data : Bytes) (nFields : ℕ) (fields : List Bytes) (pos : ℕ) :
    parseTlvLoop data nFields fields pos =
      .ok ((parseTlv nFields (data.drop pos)).map (fields ++ ·)) := by
  induction nFields generalizing fields pos with
  | zero =>
    rw [parseTlvLoop, parseTlv, Option.map_some, List.append_nil]
  | succ nFields inductionHypothesis =>
    have remaining : (data.drop pos).length = data.length - pos := List.length_drop
    rw [parseTlvLoop, parseTlv]
    by_cases header : pos + 2 > data.length
    · rw [if_pos header, if_pos (by omega)]
      rfl
    · have two : slice data pos (pos + 2) = (data.drop pos).take 2 := by
        rw [slice, Nat.add_sub_cancel_left]
      have unpacked : structUnpack 2 (slice data pos (pos + 2)) =
          .ok (fromBigEndian ((data.drop pos).take 2)) := by
        rw [structUnpack, two, if_pos (by rw [List.length_take]; omega)]
      rw [if_neg header, if_neg (by omega), unpacked]
      dsimp only [bind, Except.bind]
      generalize fromBigEndian ((data.drop pos).take 2) = ln
      rw [List.drop_drop, List.length_drop]
      by_cases body : pos + 2 + ln > data.length
      · rw [if_pos body, if_pos (by omega)]
        rfl
      · have field : slice data (pos + 2) (pos + 2 + ln) = (data.drop (pos + 2)).take ln := by
          rw [slice, Nat.add_sub_cancel_left]
        rw [if_neg body, if_neg (by omega), inductionHypothesis, field, List.drop_drop,
          Option.map_map]
        congr 2
        funext later
        exact List.append_assoc fields [_] later

/-- The number spelled by some bytes fits as many. -/
theorem fromBigEndian_lt (data : Bytes) : fromBigEndian data < 256 ^ data.length := by
  induction data using List.reverseRecOn with
  | nil => exact Nat.one_pos
  | append_singleton front last inductionHypothesis =>
    have small : last.toNat < 256 := last.toNat_lt
    rw [fromBigEndian, List.foldl_append, List.foldl_cons, List.foldl_nil, ← fromBigEndian,
      List.length_append, List.length_singleton, pow_succ]
    omega

/-- It is written as those bytes. -/
theorem bigEndian_fromBigEndian (data : Bytes) :
    bigEndian data.length (fromBigEndian data) = data := by
  induction data using List.reverseRecOn with
  | nil => rfl
  | append_singleton front last inductionHypothesis =>
    have small : last.toNat < 256 := last.toNat_lt
    have total : fromBigEndian (front ++ [last]) = fromBigEndian front * 256 + last.toNat := by
      rw [fromBigEndian, List.foldl_append]
      rfl
    have high : (fromBigEndian front * 256 + last.toNat) / 256 = fromBigEndian front := by omega
    have low : UInt8.ofNat (fromBigEndian front * 256 + last.toNat) = last := by
      apply UInt8.toNat_inj.mp
      rw [UInt8.toNat_ofNat']
      omega
    rw [List.length_append, List.length_singleton, bigEndian, total, high, low, inductionHypothesis]

/-- What is parsed is as many fields as were asked for, and packs to the front of the data. -/
theorem packFields_parseTlv {nFields : ℕ} {data : Bytes} {fields : List Bytes}
    (parsed : parseTlv nFields data = some fields) :
    fields.length = nFields ∧ ∃ packed rest, packFields fields = .ok packed ∧
      data = packed ++ rest := by
  induction nFields generalizing data fields with
  | zero =>
    obtain rfl : [] = fields := Option.some.inj parsed
    exact ⟨rfl, [], data, rfl, rfl⟩
  | succ nFields inductionHypothesis =>
    rw [parseTlv] at parsed
    split at parsed
    · cases parsed
    next header =>
    dsimp only at parsed
    split at parsed
    · cases parsed
    next body =>
    obtain ⟨later, parsedLater, rfl⟩ := Option.map_eq_some_iff.mp parsed
    obtain ⟨count, packed, rest, laterPacked, shape⟩ := inductionHypothesis parsedLater
    have two : (data.take 2).length = 2 := by
      rw [List.length_take]
      omega
    have size : ((data.drop 2).take (fromBigEndian (data.take 2))).length =
        fromBigEndian (data.take 2) := by
      rw [List.length_take]
      omega
    have written : structPack 2 (fromBigEndian (data.take 2)) = .ok (data.take 2) := by
      have fits := fromBigEndian_lt (data.take 2)
      have back := bigEndian_fromBigEndian (data.take 2)
      rw [two] at fits back
      rw [structPack, if_pos fits, back]
    constructor
    · rw [List.length_cons, count]
    · refine ⟨data.take 2 ++ (data.drop 2).take (fromBigEndian (data.take 2)) ++ packed, rest, ?_, ?_⟩
      · rw [packFields, size, written, laterPacked]
        rfl
      · rw [List.append_assoc, List.append_assoc, ← shape, List.take_append_drop,
          List.take_append_drop]

/-- `None` means that the data do not start with a record of that many fields. -/
theorem parseTlv_eq_none_iff (nFields : ℕ) (data : Bytes) :
    parseTlv nFields data = none ↔ ¬∃ fields packed, fields.length = nFields ∧
      packFields fields = .ok packed ∧ packed <+: data := by
  constructor
  · rintro missing ⟨fields, packed, rfl, encoded, suffix, rfl⟩
    rw [parseTlv_packFields encoded suffix] at missing
    cases missing
  · intro noRecord
    cases parsed : parseTlv nFields data with
    | none => rfl
    | some fields =>
      obtain ⟨count, packed, rest, encoded, rfl⟩ := packFields_parseTlv parsed
      exact absurd ⟨fields, packed, count, encoded, List.prefix_append packed rest⟩ noRecord

/-- A pair is a record of two fields. -/
theorem packTlvPair_eq (a b : Bytes) : packTlvPair a b = packFields [a, b] := by
  rw [packTlvPair, packFields, packFields, packFields]
  cases structPack 2 a.length with
  | error exception => rfl
  | ok lengthA =>
    cases structPack 2 b.length with
    | error exception => rfl
    | ok lengthB =>
      simp only [bind, Except.bind, pure, Except.pure, List.append_nil, List.append_assoc]

/-- `_parse_tlv`. -/
def parseTlvFrom (data : Bytes) (nFields : ℕ) : Except PyException (Option (List Bytes)) :=
  parseTlvLoop data nFields [] 0

/-- The method is the parser that the handlers use, and raises nothing. -/
theorem parseTlvFrom_eq (data : Bytes) (nFields : ℕ) :
    parseTlvFrom data nFields = .ok (parseTlv nFields data) := by
  rw [parseTlvFrom, parseTlvLoop_eq, List.drop_zero]
  cases parseTlv nFields data <;> rfl

/-- An encoder writes these fields: its output parses to them, whatever follows. -/
def Writes (encoded : Except PyException Bytes) (fields : List Bytes) : Prop :=
  ∀ data suffix, encoded = .ok data →
    parseTlvFrom (data ++ suffix) fields.length = .ok (some fields)

theorem writes_packFields (fields : List Bytes) : Writes (packFields fields) fields := by
  intro data suffix packed
  rw [parseTlvFrom_eq, parseTlv_packFields packed]

/-- The record of a reading, with its number in four bytes. -/
theorem writes_numbered (mNum : ℕ) (fields : Bytes → List Bytes) :
    Writes (structPack 4 mNum >>= fun mB => packFields (fields mB)) (fields (bigEndian 4 mNum)) := by
  intro data suffix packed
  obtain ⟨mB, number, record⟩ := bind_ok packed
  obtain ⟨_, rfl⟩ := structPack_ok number
  exact writes_packFields _ data suffix record

/-- Decoding inverts encoding, for lists of short fields and for each of the encoders, and
fails only where there is nothing to decode: it raises nothing, answers `None` exactly when
no prefix of the data encodes that many fields, and otherwise returns the fields of such a
prefix. -/
theorem parseTlv_inverts :
    (∀ parts : List Bytes, (∀ part ∈ parts, part.length ≤ 65535) →
      ∃ data, packFields parts = .ok data ∧ ∀ suffix,
        parseTlvFrom (data ++ suffix) parts.length = .ok (some parts)) ∧
    (∀ smgReg tsB mNum idA idB sesId, Writes (makeRegReg smgReg tsB mNum idA idB sesId)
      [smgReg, tsB, bigEndian 4 mNum, idA, idB, sesId]) ∧
    (∀ smgReg tsB mNum idA pregBl aRegBl, Writes (makeMsgReg smgReg tsB mNum idA pregBl aRegBl)
      [smgReg, tsB, bigEndian 4 mNum, idA, pregBl, aRegBl]) ∧
    (∀ tsB sesId idA idB, Writes (makeEndReg tsB sesId idA idB) [tsB, sesId, idA, idB]) ∧
    (∀ a b, Writes (packTlvPair a b) [a, b]) ∧
    ∀ (data : Bytes) (nFields : ℕ),
      (∃ fields, parseTlvFrom data nFields = .ok fields) ∧
      (parseTlvFrom data nFields = .ok none ↔ ¬∃ fields packed, fields.length = nFields ∧
        packFields fields = .ok packed ∧ packed <+: data) ∧
      ∀ fields, parseTlvFrom data nFields = .ok (some fields) → fields.length = nFields ∧
        ∃ packed, packFields fields = .ok packed ∧ packed <+: data := by
  refine ⟨?_, ?_, ?_, ?_, ?_, ?_⟩
  · intro parts short
    obtain ⟨data, packed⟩ := packFields_ok parts fun part member =>
      Nat.lt_of_le_of_lt (short part member) (by decide)
    exact ⟨data, packed, fun suffix => writes_packFields parts data suffix packed⟩
  · intro smgReg tsB mNum idA idB sesId
    exact writes_numbered mNum fun mB => [smgReg, tsB, mB, idA, idB, sesId]
  · intro smgReg tsB mNum idA pregBl aRegBl
    exact writes_numbered mNum fun mB => [smgReg, tsB, mB, idA, pregBl, aRegBl]
  · intro tsB sesId idA idB
    exact writes_packFields [tsB, sesId, idA, idB]
  · intro a b
    rw [packTlvPair_eq]
    exact writes_packFields [a, b]
  · intro data nFields
    rw [parseTlvFrom_eq]
    refine ⟨⟨_, rfl⟩, ?_, ?_⟩
    · rw [← parseTlv_eq_none_iff]
      exact ⟨Except.ok.inj, congrArg Except.ok⟩
    · intro fields parsed
      obtain ⟨count, packed, rest, encoded, shape⟩ := packFields_parseTlv (Except.ok.inj parsed)
      exact ⟨count, packed, encoded, ⟨rest, shape.symm⟩⟩

end Microgrid.SecureNode
