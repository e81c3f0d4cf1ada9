import Microgrid.Handshake.RotSession

/-!
# The texts that the two hexadecimal decoders accept

The firmware's `hex_to_bin` compares the length and then trusts one `sscanf` per byte;
the server's trusts `bytes.fromhex` and compares the length of the result. What each of
them accepts is written down as a language of texts, apart from the reader. Text written
by either side is accepted by both, and read as the same bytes; the exact texts are the
only ones for which this is promised, and neither reader turns away all the others.
-/

namespace Microgrid.HexText

open Framing JsonText

/-- A text of exactly `2 * outLen` hexadecimal digits. -/
def IsHexOf (text : List Char) (outLen : ℕ) : Prop :=
  text.length = 2 * outLen ∧ IsHex text

instance (text : List Char) (outLen : ℕ) : Decidable (IsHexOf text outLen) :=
  inferInstanceAs (Decidable (_ ∧ _))

/-- Where a `%x` conversion succeeds: behind any blanks there is a digit, or a sign and a
digit. -/
def Scannable (text : Bytes) : Prop :=
  ∃ blanks item rest, text = blanks ++ item ++ rest ∧
    (∀ blank ∈ blanks, isSpace blank.toNat = true) ∧
    ((∃ digit : UInt8, item = [digit] ∧ (hexValue digit.toNat).isSome = true) ∨
      ∃ sign digit : UInt8, item = [sign, digit] ∧ (sign.toNat = 43 ∨ sign.toNat = 45) ∧
        (hexValue digit.toNat).isSome = true)

/-- The C strings that the firmware takes for `outLen` bytes: the right length, and a
conversion succeeds at every second character. -/
def ScannableAs (hex : Bytes) (outLen : ℕ) : Prop :=
  hex.length = 2 * outLen ∧ ∀ position < outLen, Scannable (hex.drop (2 * position))

/-- The texts that the server takes for `outLen` bytes: pairs of digits, with blanks
between the pairs. -/
inductive SpacedHex : ℕ → List Char → Prop
  | done : SpacedHex 0 []
  | blank {outLen : ℕ} {space : Char} {rest : List Char}
      (isBlank : isSpace space.toNat = true) (remaining : SpacedHex outLen rest) :
      SpacedHex outLen (space :: rest)
  | byte {outLen : ℕ} {top bot : Char} {rest : List Char}
      (highDigit : (hexValue top.toNat).isSome = true)
      (lowDigit : (hexValue bot.toNat).isSome = true) (remaining : SpacedHex outLen rest) :
      SpacedHex (outLen + 1) (top :: bot :: rest)

/-! ### The server -/

/-- A digit is no blank, so a text that starts with one starts with a byte. -/
theorem not_blank_of_digit {digit : Char} (isDigit : (hexValue digit.toNat).isSome = true) :
    ¬isSpace digit.toNat = true := by
  rw [digit_not_space isDigit]
  exact Bool.false_ne_true

/-- `fromhex` accepts the spaced texts. -/
theorem fromhex_of_spacedHex {outLen : ℕ} {text : List Char} (spaced : SpacedHex outLen text) :
    ∃ bin, fromhex text = some bin ∧ bin.length = outLen := by
  induction spaced with
  | done => exact ⟨[], rfl, rfl⟩
  | @blank outLen space rest isBlank remaining inductionHypothesis =>
    obtain ⟨bin, decoded, size⟩ := inductionHypothesis
    refine ⟨bin, ?_, size⟩
    cases rest with
    | nil =>
      obtain rfl := Option.some.inj (decoded.symm.trans (show fromhex [] = some [] from rfl))
      rw [fromhex, if_pos isBlank]
    | cons next rest => rw [fromhex, if_pos isBlank, decoded]
  | @byte outLen top bot rest highDigit lowDigit remaining inductionHypothesis =>
    obtain ⟨bin, decoded, size⟩ := inductionHypothesis
    obtain ⟨high, isHigh⟩ := Option.isSome_iff_exists.mp highDigit
    obtain ⟨low, isLow⟩ := Option.isSome_iff_exists.mp lowDigit
    refine ⟨UInt8.ofNat (16 * high + low) :: bin, ?_, by rw [List.length_cons, size]⟩
    rw [fromhex, if_neg (not_blank_of_digit highDigit), isHigh, isLow, decoded]
    rfl

/-- `fromhex` accepts nothing else. -/
theorem spacedHex_of_fromhex (text : List Char) (bin : Bytes) (decoded : fromhex text = some bin) :
    SpacedHex bin.length text := by
  induction text using fromhex.induct generalizing bin with
  | case1 =>
    obtain rfl : [] = bin := by simpa [fromhex] using decoded
    exact .done
  | case2 last blank =>
    obtain rfl : [] = bin := by simpa [fromhex, blank] using decoded
    exact .blank blank .done
  | case3 last notBlank => simp [fromhex, notBlank] at decoded
  | case4 top bot rest blank inductionHypothesis =>
    rw [fromhex, if_pos blank] at decoded
    exact .blank blank (inductionHypothesis bin decoded)
  | case5 top bot rest notBlank high low isLow isHigh inductionHypothesis =>
    rw [fromhex, if_neg notBlank, isHigh, isLow] at decoded
    obtain ⟨tail, isTail, rfl⟩ := Option.map_eq_some_iff.mp decoded
    apply SpacedHex.byte
    · rw [isHigh]
      rfl
    · rw [isLow]
      rfl
    · exact inductionHypothesis tail isTail
  | case6 top bot rest notBlank noDigit =>
    rw [fromhex, if_neg notBlank] at decoded
    split at decoded
    · exact absurd ‹_› (noDigit _ _ ‹_›)
    · cases decoded

/-- The server's `hex_to_bin` returns bytes for the spaced texts and raises otherwise. -/
theorem rotHexToBin_iff (text : String) (outLen : ℕ) :
    (∃ bin, RotSession.hexToBin (.str text) outLen = .ok bin) ↔ SpacedHex outLen text.toList := by
  constructor
  · rintro ⟨bin, accepted⟩
    cases decoded : fromhex text.toList with
    | none =>
      rw [RotSession.hexToBin, RotSession.bytesFromhex, decoded] at accepted
      cases accepted
    | some found =>
      have spaced := spacedHex_of_fromhex _ found decoded
      by_cases size : found.length = outLen
      · rw [← size]
        exact spaced
      · simp only [RotSession.hexToBin, RotSession.bytesFromhex, decoded, bind, Except.bind,
          ne_eq, size, not_false_eq_true, if_true] at accepted
        cases accepted
  · intro spaced
    obtain ⟨bin, decoded, size⟩ := fromhex_of_spacedHex spaced
    refine ⟨bin, ?_⟩
    simp only [RotSession.hexToBin, RotSession.bytesFromhex, decoded, bind, Except.bind, size,
      ne_eq, not_true_eq_false, if_false]

/-! ### The firmware -/

/-- A sign or a digit is no blank. -/
theorem sign_not_space {sign : UInt8} (isSign : sign.toNat = 43 ∨ sign.toNat = 45) :
    isSpace sign.toNat = false := by
  rcases isSign with plus | minus
  · rw [plus]
    rfl
  · rw [minus]
    rfl

/-- Blanks in front are skipped. -/
theorem sscanf2x_blanks (blanks text : Bytes)
    (isBlank : ∀ blank ∈ blanks, isSpace blank.toNat = true) :
    sscanf2x (blanks ++ text) = sscanf2x text := by
  rw [sscanf2x, List.dropWhile_append_of_pos isBlank, ← sscanf2x]

/-- A digit is not a sign. -/
theorem digit_not_sign {code : Nat} (isDigit : (hexValue code).isSome = true) :
    ¬(code = 43 ∨ code = 45) := by
  rintro (rfl | rfl) <;> cases isDigit

/-- A digit at the front is converted, alone or with the digit behind it. -/
theorem sscanf2x_digit {digit : UInt8} (isDigit : (hexValue digit.toNat).isSome = true)
    (rest : Bytes) : (sscanf2x (digit :: rest)).isSome = true := by
  obtain ⟨high, isHigh⟩ := Option.isSome_iff_exists.mp isDigit
  rw [sscanf2x, List.dropWhile_cons, digit_not_space isDigit]
  simp only [Bool.false_eq_true, if_false, digit_not_sign isDigit, isHigh]
  cases rest with
  | nil => rfl
  | cons second rest =>
    dsimp only
    cases hexValue second.toNat <;> rfl

/-- A conversion succeeds exactly in front of a digit or a sign with a digit, behind any
blanks. -/
theorem sscanf2x_isSome_iff (text : Bytes) :
    (sscanf2x text).isSome = true ↔ Scannable text := by
  constructor
  · intro converted
    have cut : (text.takeWhile fun byte => isSpace byte.toNat) ++
        (text.dropWhile fun byte => isSpace byte.toNat) = text := List.takeWhile_append_dropWhile
    have isBlank : ∀ blank ∈ text.takeWhile fun byte => isSpace byte.toNat,
        isSpace blank.toNat = true := by
      intro blank member
      exact @List.mem_takeWhile_imp _ (fun byte : UInt8 => isSpace byte.toNat) _ _ member
    rw [sscanf2x] at converted
    cases behind : text.dropWhile fun byte => isSpace byte.toNat with
    | nil =>
      rw [behind] at converted
      cases converted
    | cons first rest =>
      rw [behind] at converted cut
      by_cases isSign : first.toNat = 43 ∨ first.toNat = 45
      · cases rest with
        | nil =>
          simp only [isSign, if_true] at converted
          cases converted
        | cons second rest =>
          simp only [isSign, if_true, Option.isSome_map] at converted
          refine ⟨_, [first, second], rest, ?_, isBlank,
            .inr ⟨first, second, rfl, isSign, converted⟩⟩
          rw [List.append_assoc]
          exact cut.symm
      · simp only [isSign, if_false] at converted
        cases isDigit : hexValue first.toNat with
        | none =>
          rw [isDigit] at converted
          cases converted
        | some high =>
          refine ⟨_, [first], rest, ?_, isBlank, .inl ⟨first, rfl, by rw [isDigit]; rfl⟩⟩
          rw [List.append_assoc]
          exact cut.symm
  · rintro ⟨blanks, item, rest, rfl, isBlank, ⟨digit, rfl, isDigit⟩ |
      ⟨sign, digit, rfl, isSign, isDigit⟩⟩
    · rw [List.append_assoc, sscanf2x_blanks _ _ isBlank]
      exact sscanf2x_digit isDigit rest
    · rw [List.append_assoc, sscanf2x_blanks _ _ isBlank, List.cons_append, List.cons_append,
        List.nil_append, sscanf2x, List.dropWhile_cons, sign_not_space isSign]
      simp only [Bool.false_eq_true, if_false, isSign, if_true, Option.isSome_map, isDigit]

/-- The loop succeeds as long as each of its conversions does. -/
theorem hexToBinLoop_isSome_iff (remaining : ℕ) (hex : Bytes) :
    (hexToBinLoop remaining hex).isSome = true ↔
      ∀ position < remaining, Scannable (hex.drop (2 * position)) := by
  induction remaining generalizing hex with
  | zero => exact ⟨fun _ position below => absurd below (Nat.not_lt_zero position), fun _ => rfl⟩
  | succ remaining inductionHypothesis =>
    have unfolded : (hexToBinLoop (remaining + 1) hex).isSome = true ↔
        (sscanf2x hex).isSome = true ∧ (hexToBinLoop remaining (hex.drop 2)).isSome = true := by
      rw [hexToBinLoop]
      cases sscanf2x hex <;> cases hexToBinLoop remaining (hex.drop 2) <;> simp
    rw [unfolded, sscanf2x_isSome_iff, inductionHypothesis]
    constructor
    · rintro ⟨here, later⟩ position below
      cases position with
      | zero => exact here
      | succ position =>
        have next := later position (Nat.lt_of_succ_lt_succ below)
        rw [List.drop_drop] at next
        rw [Nat.mul_succ, Nat.add_comm]
        exact next
    · intro each
      constructor
      · exact each 0 (Nat.succ_pos remaining)
      · intro position below
        have next := each (position + 1) (Nat.succ_lt_succ below)
        rw [Nat.mul_succ, Nat.add_comm] at next
        rw [List.drop_drop]
        exact next

/-- The firmware's `hex_to_bin` succeeds on the scannable texts. -/
theorem hexToBin_iff (hex : Bytes) (outLen : ℕ) :
    (∃ bin, hexToBin hex outLen = some bin) ↔ ScannableAs hex outLen := by
  have accepted := hexToBinLoop_isSome_iff outLen hex
  rw [Option.isSome_iff_exists] at accepted
  constructor
  · rintro ⟨bin, converted⟩
    rw [hexToBin] at converted
    split at converted
    · cases converted
    · next size => exact ⟨by omega, accepted.mp ⟨bin, converted⟩⟩
  · rintro ⟨size, each⟩
    rw [hexToBin, if_neg (by omega)]
    exact accepted.mpr each

/-! ### Exact texts -/

/-- A digit is one byte of UTF-8 with its own code, and not the terminator. -/
theorem utf8_digit {digit : Char} (isDigit : (hexValue digit.toNat).isSome = true) :
    String.utf8EncodeChar digit = [UInt8.ofNat digit.toNat] ∧
      (UInt8.ofNat digit.toNat).toNat = digit.toNat ∧ UInt8.ofNat digit.toNat ≠ 0 := by
  have range : 0 < digit.toNat ∧ digit.toNat < 128 := by
    by_contra outside
    have noDigit : hexValue digit.toNat = none := by
      unfold hexValue
      split_ifs <;> first | omega | rfl
    rw [noDigit] at isDigit
    cases isDigit
  have value : (UInt8.ofNat digit.toNat).toNat = digit.toNat := by
    rw [UInt8.toNat_ofNat']
    omega
  refine ⟨?_, value, ?_⟩
  · have small : digit.val.toNat ≤ 0x7f := Nat.le_of_lt_succ range.2
    rw [String.utf8EncodeChar, if_pos small]
    rfl
  · intro zero
    rw [zero] at value
    exact Nat.ne_of_gt range.1 value.symm

/-- The C string of a text of digits has their codes. -/
theorem cString_isHex {text : String} (digits : IsHex text.toList) :
    cString text = text.toList.map fun digit => UInt8.ofNat digit.toNat := by
  have plain (digits : List Char) (all : IsHex digits) :
      utf8 digits = digits.map fun digit => UInt8.ofNat digit.toNat := by
    induction digits with
    | nil => rfl
    | cons digit rest inductionHypothesis =>
      have here := (utf8_digit (all digit List.mem_cons_self)).1
      have later := inductionHypothesis fun other member => all other (List.mem_cons_of_mem _ member)
      rw [utf8] at later
      rw [utf8, List.flatMap_cons, here, later]
      rfl
  rw [cString, plain _ digits]
  apply List.takeWhile_eq_self_iff.mpr
  intro code member
  obtain ⟨digit, inText, rfl⟩ := List.mem_map.mp member
  simpa using (utf8_digit (digits digit inText)).2.2

/-- Both readers take the same byte from two digits, and so the same bytes from an exact
text. -/
theorem hexToBinLoop_eq_fromhex (outLen : ℕ) (text : List Char) (exact : IsHexOf text outLen) :
    ∃ bin, hexToBinLoop outLen (text.map fun digit => UInt8.ofNat digit.toNat) = some bin ∧
      fromhex text = some bin ∧ bin.length = outLen := by
  obtain ⟨size, digits⟩ := exact
  induction outLen generalizing text with
  | zero =>
    obtain rfl := List.length_eq_zero_iff.mp size
    exact ⟨[], rfl, rfl, rfl⟩
  | succ outLen inductionHypothesis =>
    match text, size, digits with
    | top :: bot :: rest, size, digits =>
      obtain ⟨tail, scanned, decoded, length⟩ := inductionHypothesis rest
        (by simp only [List.length_cons] at size; omega)
        fun digit member => digits digit (List.mem_cons_of_mem _ (List.mem_cons_of_mem _ member))
      have highDigit := digits top List.mem_cons_self
      have lowDigit := digits bot (List.mem_cons_of_mem _ List.mem_cons_self)
      obtain ⟨high, isHigh⟩ := Option.isSome_iff_exists.mp highDigit
      obtain ⟨low, isLow⟩ := Option.isSome_iff_exists.mp lowDigit
      have topCode := (utf8_digit highDigit).2.1
      have botCode := (utf8_digit lowDigit).2.1
      have noSign := digit_not_sign highDigit
      have pair : sscanf2x (UInt8.ofNat top.toNat :: UInt8.ofNat bot.toNat ::
          rest.map fun digit => UInt8.ofNat digit.toNat) = some (16 * high + low) := by
        rw [sscanf2x, List.dropWhile_cons, topCode, digit_not_space highDigit]
        simp only [Bool.false_eq_true, if_false, topCode, noSign, isHigh, botCode, isLow]
      refine ⟨UInt8.ofNat (16 * high + low) :: tail, ?_, ?_, by rw [List.length_cons, length]⟩
      · rw [List.map_cons, List.map_cons, hexToBinLoop, pair, List.drop_succ_cons,
          List.drop_succ_cons, List.drop_zero, scanned]
        rfl
      · rw [fromhex, if_neg (not_blank_of_digit highDigit), isHigh, isLow, decoded]
        rfl

/-- On an exact text the two decoders agree. -/
theorem decoders_agree {text : String} {outLen : ℕ} (exact : IsHexOf text.toList outLen) :
    ∃ bin, hexToBin (cString text) outLen = some bin ∧
      RotSession.hexToBin (.str text) outLen = .ok bin := by
  obtain ⟨bin, scanned, decoded, size⟩ := hexToBinLoop_eq_fromhex outLen text.toList exact
  refine ⟨bin, ?_, ?_⟩
  · rw [cString_isHex exact.2, hexToBin, List.length_map,
      if_neg (by rw [exact.1, Nat.mul_comm]; exact not_not.mpr rfl), scanned]
  · simp only [RotSession.hexToBin, RotSession.bytesFromhex, decoded, bind, Except.bind, size,
      ne_eq, not_true_eq_false, if_false]

/-- Decoding is exact on a text for a length: the firmware succeeds on exact texts only, the
server accepts nothing else, and on these both return the same bytes. -/
structure DecodesExactly (text : String) (outLen : ℕ) : Prop where
  firmware : (∃ bin, hexToBin (cString text) outLen = some bin) ↔ IsHexOf text.toList outLen
  server : ∀ bin, RotSession.hexToBin (.str text) outLen = .ok bin → IsHexOf text.toList outLen
  agree : IsHexOf text.toList outLen → ∃ bin, hexToBin (cString text) outLen = some bin ∧
    RotSession.hexToBin (.str text) outLen = .ok bin

/-- A digit and a letter that is none: the firmware reads the digit alone and reports
success. -/
theorem firmware_takes_half_pair : ¬DecodesExactly "1g" 1 ∧
    hexToBin (cString "1g") 1 = some [1] := by
  have taken : hexToBin (cString "1g") 1 = some [1] := by decide +kernel
  constructor
  · intro exactly
    have digits := exactly.firmware.mp ⟨[1], taken⟩
    have written : "1g".toList = ['1', 'g'] := by simp
    rw [written] at digits
    exact absurd (digits.2 'g' (.tail _ (.head _))) (by decide)
  · exact taken

/-- Decoding is exact on the exact texts and on those that neither reader takes; and both
readers undo both writers. -/
theorem decoding_exact_iff (text : String) (outLen : ℕ) (bin : Bytes) :
    (DecodesExactly text outLen ↔
      IsHexOf text.toList outLen ∨
        ¬ScannableAs (cString text) outLen ∧ ¬SpacedHex outLen text.toList) ∧
      hexToBin (cString (binToHex bin)) bin.length = some bin ∧
      hexToBin (cString (bytesHex bin)) bin.length = some bin ∧
      RotSession.hexToBin (.str (binToHex bin)) bin.length = .ok bin ∧
      RotSession.hexToBin (.str (bytesHex bin)) bin.length = .ok bin := by
  constructor
  · constructor
    · intro exactly
      by_cases digits : IsHexOf text.toList outLen
      · exact .inl digits
      · right
        constructor
        · intro scannable
          exact digits (exactly.firmware.mp ((hexToBin_iff _ outLen).mpr scannable))
        · intro spaced
          obtain ⟨bin, accepted⟩ := (rotHexToBin_iff text outLen).mpr spaced
          exact digits (exactly.server bin accepted)
    · rintro (digits | ⟨notScannable, notSpaced⟩)
      · obtain ⟨bin, scanned, decoded⟩ := decoders_agree digits
        constructor
        · exact ⟨fun _ => digits, fun _ => ⟨bin, scanned⟩⟩
        · exact fun _ _ => digits
        · exact fun _ => ⟨bin, scanned, decoded⟩
      · have turnedAway : ¬IsHexOf text.toList outLen := by
          intro digits
          obtain ⟨bin, scanned, _⟩ := decoders_agree digits
          exact notScannable ((hexToBin_iff _ outLen).mp ⟨bin, scanned⟩)
        constructor
        · constructor
          · intro accepted
            exact absurd ((hexToBin_iff _ outLen).mp accepted) notScannable
          · exact fun digits => absurd digits turnedAway
        · intro bin accepted
          exact absurd ((rotHexToBin_iff text outLen).mp ⟨bin, accepted⟩) notSpaced
        · exact fun digits => absurd digits turnedAway
  · have scanned := hexToBin_binToHex bin
    have decoded : RotSession.hexToBin (.str (bytesHex bin)) bin.length = .ok bin := by
      simp only [RotSession.hexToBin, RotSession.bytesFromhex, bytesHex, String.toList_ofList,
        fromhex_lowerHex, bind, Except.bind, ne_eq, not_true_eq_false, if_false]
    exact ⟨scanned, scanned, decoded, decoded⟩

end Microgrid.HexText
