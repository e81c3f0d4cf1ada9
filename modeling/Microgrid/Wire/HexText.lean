import Mathlib.Algebra.Order.Ring.Nat
import Mathlib.Data.List.Basic
import Mathlib.Data.List.GetD
import Mathlib.Data.List.TakeWhile
import Mathlib.Data.Nat.Bits

/-!
# Hexadecimal text on both sides of the wire

The firmware writes binary fields with a digit table and reads them back with one
`sscanf("%2x")` per byte; the server uses `bytes.hex` and `bytes.fromhex`. Both
readers accept more than their own writer produces: `sscanf` skips leading blanks
and takes a sign or a lone `0x`, `fromhex` skips blanks between bytes. These
definitions keep those habits; only texts produced by a writer are inverted here.

C strings are byte lists without the terminator, Python strings are character
lists. `sscanf` is the C library of the firmware's toolchain, which reads a bare
`0x` inside the field width as zero.
-/

namespace Microgrid

/-- Byte strings: Python's `bytes`, and the contents of a C buffer. -/
abbrev Bytes := List UInt8

namespace HexText

/-- The digit table of `bin_to_hex`. -/
def hexd : List Char :=
  ['0', '1', '2', '3', '4', '5', '6', '7', '8', '9', 'a', 'b', 'c', 'd', 'e', 'f']

/-- Two lowercase digits for every byte, high half first. -/
def lowerHex (bin : Bytes) : List Char :=
  bin.flatMap fun byte =>
    [hexd.getD (byte.toNat >>> 4) '0', hexd.getD (byte.toNat &&& 0x0F) '0']

/-- `bin_to_hex` of the firmware, without the terminating NUL. -/
def binToHex (bin : Bytes) : String := String.ofList (lowerHex bin)

/-- Python's `bytes.hex`. -/
def bytesHex (bin : Bytes) : String := String.ofList (lowerHex bin)

/-- The value of a hexadecimal digit in either case, by character code. -/
def hexValue (code : Nat) : Option Nat :=
  if 48 ≤ code ∧ code ≤ 57 then some (code - 48)
  else if 97 ≤ code ∧ code ≤ 102 then some (code - 87)
  else if 65 ≤ code ∧ code ≤ 70 then some (code - 55)
  else none

/-- Blanks skipped by `%x` and by `fromhex`: space and the codes 9 to 13. -/
def isSpace (code : Nat) : Bool := code == 32 || (9 ≤ code && code ≤ 13)

/-- `sscanf(text, "%2x", &byte) == 1`, with the unsigned value it stores. Blanks
do not count towards the width; a sign does, and so does the `0` of a prefix. -/
def sscanf2x (text : Bytes) : Option Nat :=
  match text.dropWhile fun byte => isSpace byte.toNat with
  | [] => none
  | first :: rest =>
    if first.toNat = 43 ∨ first.toNat = 45 then
      match rest with
      | [] => none
      | second :: _ => (hexValue second.toNat).map fun digit =>
          if first.toNat = 45 then (2 ^ 32 - digit) % 2 ^ 32 else digit
    else
      match hexValue first.toNat with
      | none => none
      | some high =>
        match rest with
        | [] => some high
        | second :: _ =>
          match hexValue second.toNat with
          | some low => some (16 * high + low)
          | none => some high

/-- The loop of the firmware's `hex_to_bin`: the scan position advances by two
characters for every byte, whatever the scan consumed. -/
def hexToBinLoop : Nat → Bytes → Option Bytes
  | 0, _ => some []
  | remaining + 1, hex => do
    let byte ← sscanf2x hex
    let rest ← hexToBinLoop remaining (hex.drop 2)
    pure (UInt8.ofNat byte :: rest)

/-- The firmware's `hex_to_bin`; `none` stands for `false`. -/
def hexToBin (hex : Bytes) (outLen : Nat) : Option Bytes :=
  if hex.length ≠ outLen * 2 then none else hexToBinLoop outLen hex

/-- Python's `bytes.fromhex`; `none` stands for `ValueError`. Blanks are skipped
in front of a byte, never between its two digits. -/
def fromhex : List Char → Option Bytes
  | [] => some []
  | [last] => if isSpace last.toNat then some [] else none
  | top :: bot :: rest =>
    if isSpace top.toNat then fromhex (bot :: rest)
    else match hexValue top.toNat, hexValue bot.toNat with
      | some high, some low => (fromhex rest).map (UInt8.ofNat (16 * high + low) :: ·)
      | _, _ => none

/-- UTF-8, the encoding of every string on the wire. -/
def utf8 (text : List Char) : Bytes := text.flatMap String.utf8EncodeChar

/-- The C view of a decoded JSON string: its UTF-8 bytes up to the first NUL. -/
def cString (text : String) : Bytes := (utf8 text.toList).takeWhile (· ≠ 0)

/-- Every table digit is read back as its position, is not a blank or a sign, and
is one UTF-8 byte with its own code. -/
theorem hexd_digit (value : Nat) (small : value < 16) :
    hexValue (hexd.getD value '0').toNat = some value ∧
      isSpace (hexd.getD value '0').toNat = false ∧
      (hexd.getD value '0').toNat ≠ 43 ∧ (hexd.getD value '0').toNat ≠ 45 ∧
      String.utf8EncodeChar (hexd.getD value '0') =
        [UInt8.ofNat (hexd.getD value '0').toNat] ∧
      0 < (hexd.getD value '0').toNat ∧ (hexd.getD value '0').toNat < 128 := by
  have all : ∀ digit : Fin 16,
      hexValue (hexd.getD digit.val '0').toNat = some digit.val ∧
        isSpace (hexd.getD digit.val '0').toNat = false ∧
        (hexd.getD digit.val '0').toNat ≠ 43 ∧ (hexd.getD digit.val '0').toNat ≠ 45 ∧
        String.utf8EncodeChar (hexd.getD digit.val '0') =
          [UInt8.ofNat (hexd.getD digit.val '0').toNat] ∧
        0 < (hexd.getD digit.val '0').toNat ∧ (hexd.getD digit.val '0').toNat < 128 := by
    decide
  exact all ⟨value, small⟩

/-- The two table positions of a byte are digits and rebuild it. -/
theorem byte_halves (byte : UInt8) :
    byte.toNat >>> 4 < 16 ∧ byte.toNat &&& 0x0F < 16 ∧
      UInt8.ofNat (16 * (byte.toNat >>> 4) + (byte.toNat &&& 0x0F)) = byte := by
  have high : byte.toNat >>> 4 = byte.toNat / 16 := Nat.shiftRight_eq_div_pow byte.toNat 4
  have low : byte.toNat &&& 0x0F = byte.toNat % 16 := Nat.and_two_pow_sub_one_eq_mod byte.toNat 4
  have bound : byte.toNat < 256 := byte.toNat_lt
  refine ⟨by omega, by omega, ?_⟩
  rw [high, low, Nat.div_add_mod]
  exact UInt8.ofNat_toNat

/-- Two characters for every byte. -/
theorem lowerHex_length (bin : Bytes) : (lowerHex bin).length = 2 * bin.length := by
  induction bin with
  | nil => rfl
  | cons byte rest inductionHypothesis =>
    simp only [lowerHex, List.flatMap_cons, List.length_append, List.length_cons,
      List.length_nil] at *
    omega

/-- `bytes.fromhex` undoes `bytes.hex`. -/
theorem fromhex_lowerHex (bin : Bytes) : fromhex (lowerHex bin) = some bin := by
  induction bin with
  | nil => rfl
  | cons byte rest inductionHypothesis =>
    obtain ⟨highSmall, lowSmall, rebuilt⟩ := byte_halves byte
    have high := hexd_digit _ highSmall
    have low := hexd_digit _ lowSmall
    have split : lowerHex (byte :: rest) = hexd.getD (byte.toNat >>> 4) '0' ::
        hexd.getD (byte.toNat &&& 0x0F) '0' :: lowerHex rest := rfl
    rw [split]
    simp only [fromhex, high.2.1, high.1, low.1, inductionHypothesis, rebuilt,
      Option.map_some, Bool.false_eq_true, if_false]

/-- The bytes of a hexadecimal text are the codes of its digits, none of them NUL. -/
theorem cString_binToHex (bin : Bytes) :
    cString (binToHex bin) = (lowerHex bin).map fun digit => UInt8.ofNat digit.toNat := by
  have plain : utf8 (lowerHex bin) = (lowerHex bin).map fun digit => UInt8.ofNat digit.toNat := by
    induction bin with
    | nil => rfl
    | cons byte rest inductionHypothesis =>
      obtain ⟨highSmall, lowSmall, _⟩ := byte_halves byte
      have high := (hexd_digit _ highSmall).2.2.2.2.1
      have low := (hexd_digit _ lowSmall).2.2.2.2.1
      have split : lowerHex (byte :: rest) = hexd.getD (byte.toNat >>> 4) '0' ::
          hexd.getD (byte.toNat &&& 0x0F) '0' :: lowerHex rest := rfl
      simp only [utf8] at inductionHypothesis
      rw [split]
      simp only [utf8, List.flatMap_cons, high, low, inductionHypothesis, List.map_cons,
        List.cons_append, List.nil_append]
  have printable : ∀ digit ∈ lowerHex bin, UInt8.ofNat digit.toNat ≠ 0 := by
    intro digit member zero
    simp only [lowerHex, List.mem_flatMap, List.mem_cons, List.not_mem_nil, or_false] at member
    obtain ⟨byte, _, isDigit⟩ := member
    obtain ⟨highSmall, lowSmall, _⟩ := byte_halves byte
    have range : 0 < digit.toNat ∧ digit.toNat < 128 := by
      rcases isDigit with rfl | rfl
      · exact (hexd_digit _ highSmall).2.2.2.2.2
      · exact (hexd_digit _ lowSmall).2.2.2.2.2
    have value : (UInt8.ofNat digit.toNat).toNat = digit.toNat := by
      simpa using Nat.mod_eq_of_lt (show digit.toNat < 256 by omega)
    rw [zero] at value
    have nonzero : digit.toNat ≠ 0 := Nat.ne_of_gt range.1
    exact nonzero value.symm
  rw [cString, binToHex, String.toList_ofList, plain]
  apply List.takeWhile_eq_self_iff.mpr
  intro code member
  obtain ⟨digit, inText, rfl⟩ := List.mem_map.mp member
  simpa using printable digit inText

/-- One scan at the start of a written byte reads exactly that byte. -/
theorem sscanf2x_digits (byte : UInt8) (rest : Bytes) :
    sscanf2x (UInt8.ofNat (hexd.getD (byte.toNat >>> 4) '0').toNat ::
      UInt8.ofNat (hexd.getD (byte.toNat &&& 0x0F) '0').toNat :: rest) =
        some (16 * (byte.toNat >>> 4) + (byte.toNat &&& 0x0F)) := by
  obtain ⟨highSmall, lowSmall, _⟩ := byte_halves byte
  obtain ⟨highValue, highBlank, highPlus, highMinus, _, _, highRange⟩ := hexd_digit _ highSmall
  obtain ⟨lowValue, _, _, _, _, _, lowRange⟩ := hexd_digit _ lowSmall
  have highCode : (UInt8.ofNat (hexd.getD (byte.toNat >>> 4) '0').toNat).toNat =
      (hexd.getD (byte.toNat >>> 4) '0').toNat := by
    simpa using Nat.mod_eq_of_lt (show (hexd.getD (byte.toNat >>> 4) '0').toNat < 256 by omega)
  have lowCode : (UInt8.ofNat (hexd.getD (byte.toNat &&& 0x0F) '0').toNat).toNat =
      (hexd.getD (byte.toNat &&& 0x0F) '0').toNat := by
    simpa using Nat.mod_eq_of_lt (show (hexd.getD (byte.toNat &&& 0x0F) '0').toNat < 256 by omega)
  simp only [sscanf2x, List.dropWhile_cons, highCode, highBlank, Bool.false_eq_true, if_false,
    highPlus, highMinus, or_self, highValue, lowCode, lowValue]

/-- The firmware's `hex_to_bin` undoes `bin_to_hex` and `bytes.hex` alike. -/
theorem hexToBin_binToHex (bin : Bytes) :
    hexToBin (cString (binToHex bin)) bin.length = some bin := by
  rw [cString_binToHex, hexToBin, List.length_map, lowerHex_length, if_neg (by omega)]
  induction bin with
  | nil => rfl
  | cons byte rest inductionHypothesis =>
    have split : (lowerHex (byte :: rest)).map (fun digit => UInt8.ofNat digit.toNat) =
        UInt8.ofNat (hexd.getD (byte.toNat >>> 4) '0').toNat ::
          UInt8.ofNat (hexd.getD (byte.toNat &&& 0x0F) '0').toNat ::
            (lowerHex rest).map fun digit => UInt8.ofNat digit.toNat := rfl
    rw [split, List.length_cons, hexToBinLoop, sscanf2x_digits]
    simp only [List.drop_succ_cons, List.drop_zero, inductionHypothesis, Option.pure_def,
      Option.bind_eq_bind, Option.bind_some, (byte_halves byte).2.2]

/-! ### Digits -/

/-- A hexadecimal digit is no blank. -/
theorem digit_not_space {code : Nat} (digit : (hexValue code).isSome = true) :
    isSpace code = false := by
  by_contra blank
  have codes : code = 32 ∨ 9 ≤ code ∧ code ≤ 13 := by
    simpa [isSpace, ← or_iff_not_imp_left] using blank
  have noDigit : hexValue code = none := by
    unfold hexValue
    split_ifs <;> first | omega | rfl
  rw [noDigit] at digit
  cases digit

/-- Every character is a hexadecimal digit, in either case. -/
def IsHex (text : List Char) : Prop := ∀ digit ∈ text, (hexValue digit.toNat).isSome = true

/-- Every character is one that `bytes.hex` writes. -/
def IsLowerHex (text : List Char) : Prop := ∀ digit ∈ text, digit ∈ hexd

instance (text : List Char) : Decidable (IsHex text) :=
  inferInstanceAs (Decidable (∀ digit ∈ text, _))

instance (text : List Char) : Decidable (IsLowerHex text) :=
  inferInstanceAs (Decidable (∀ digit ∈ text, _))

/-- `fromhex` reads two characters for a byte, and blanks besides. -/
theorem fromhex_length (text : List Char) (bin : Bytes) (decoded : fromhex text = some bin) :
    2 * bin.length ≤ text.length := by
  induction text using fromhex.induct generalizing bin with
  | case1 =>
    obtain rfl : [] = bin := by simpa [fromhex] using decoded
    exact Nat.le_refl 0
  | case2 last blank =>
    obtain rfl : [] = bin := by simpa [fromhex, blank] using decoded
    exact Nat.zero_le 1
  | case3 last notBlank => simp [fromhex, notBlank] at decoded
  | case4 top bot rest blank inductionHypothesis =>
    rw [fromhex, if_pos blank] at decoded
    have shorter := inductionHypothesis bin decoded
    rw [List.length_cons]
    omega
  | case5 top bot rest notBlank high low isLow isHigh inductionHypothesis =>
    rw [fromhex, if_neg notBlank, isHigh, isLow] at decoded
    obtain ⟨tail, isTail, rfl⟩ := Option.map_eq_some_iff.mp decoded
    have shorter := inductionHypothesis tail isTail
    simp only [List.length_cons]
    omega
  | case6 top bot rest notBlank noDigit =>
    rw [fromhex, if_neg notBlank] at decoded
    split at decoded
    · exact absurd ‹_› (noDigit _ _ ‹_›)
    · cases decoded

/-- A text of digits has two for every byte. -/
theorem fromhex_digits (text : List Char) (bin : Bytes) (decoded : fromhex text = some bin)
    (digits : IsHex text) : text.length = 2 * bin.length := by
  have blankless (first : Char) (member : first ∈ text) (blank : isSpace first.toNat = true) :
      False := by
    rw [digit_not_space (digits first member)] at blank
    cases blank
  induction text using fromhex.induct generalizing bin with
  | case1 =>
    obtain rfl : [] = bin := by simpa [fromhex] using decoded
    rfl
  | case2 last blank => exact (blankless last List.mem_cons_self blank).elim
  | case3 last notBlank => simp [fromhex, notBlank] at decoded
  | case4 top bot rest blank => exact (blankless top List.mem_cons_self blank).elim
  | case5 top bot rest notBlank high low isLow isHigh inductionHypothesis =>
    rw [fromhex, if_neg notBlank, isHigh, isLow] at decoded
    obtain ⟨tail, isTail, rfl⟩ := Option.map_eq_some_iff.mp decoded
    have inRest (digit : Char) (member : digit ∈ rest) : digit ∈ top :: bot :: rest :=
      List.mem_cons_of_mem _ (List.mem_cons_of_mem _ member)
    have size := inductionHypothesis tail isTail
      (fun digit member => digits digit (inRest digit member))
      (fun digit member => blankless digit (inRest digit member))
    simp only [List.length_cons]
    omega
  | case6 top bot rest notBlank noDigit =>
    rw [fromhex, if_neg notBlank] at decoded
    split at decoded
    · exact absurd ‹_› (noDigit _ _ ‹_›)
    · cases decoded

/-- A digit of the table has a position in it. -/
theorem hexd_position {digit : Char} (member : digit ∈ hexd) :
    ∃ value < 16, hexd.getD value '0' = digit := by
  obtain ⟨value, small, rfl⟩ := List.mem_iff_getElem.mp member
  exact ⟨value, small, List.getD_eq_getElem hexd '0' small⟩

/-- Lowercase digits are digits. -/
theorem IsLowerHex.isHex {text : List Char} (digits : IsLowerHex text) : IsHex text := by
  intro digit member
  obtain ⟨value, small, rfl⟩ := hexd_position (digits digit member)
  rw [(hexd_digit value small).1]
  rfl

/-- A text of just enough characters is decoded only if all of them are digits. -/
theorem isHex_of_fromhex (text : List Char) (bin : Bytes) (decoded : fromhex text = some bin)
    (full : text.length = 2 * bin.length) : IsHex text := by
  induction text using fromhex.induct generalizing bin with
  | case1 => exact fun _ member => absurd member List.not_mem_nil
  | case2 last blank =>
    obtain rfl : [] = bin := by simpa [fromhex, blank] using decoded
    cases full
  | case3 last notBlank => simp [fromhex, notBlank] at decoded
  | case4 top bot rest blank inductionHypothesis =>
    rw [fromhex, if_pos blank] at decoded
    have shorter := fromhex_length _ bin decoded
    rw [List.length_cons] at full
    omega
  | case5 top bot rest notBlank high low isLow isHigh inductionHypothesis =>
    rw [fromhex, if_neg notBlank, isHigh, isLow] at decoded
    obtain ⟨tail, isTail, rfl⟩ := Option.map_eq_some_iff.mp decoded
    simp only [List.length_cons] at full
    have digits := inductionHypothesis tail isTail (by omega)
    intro digit member
    rcases List.mem_cons.mp member with rfl | inner
    · rw [isHigh]
      rfl
    rcases List.mem_cons.mp inner with rfl | inRest
    · rw [isLow]
      rfl
    · exact digits digit inRest
  | case6 top bot rest notBlank noDigit =>
    rw [fromhex, if_neg notBlank] at decoded
    split at decoded
    · exact absurd ‹_› (noDigit _ _ ‹_›)
    · cases decoded

/-- An even number of digits is decoded, to half as many bytes. -/
theorem fromhex_of_isHex (count : Nat) (text : List Char) (digits : IsHex text)
    (even : text.length = 2 * count) : ∃ bin, fromhex text = some bin ∧ bin.length = count := by
  induction count generalizing text with
  | zero =>
    obtain rfl := List.length_eq_zero_iff.mp even
    exact ⟨[], rfl, rfl⟩
  | succ count inductionHypothesis =>
    match text, even with
    | top :: bot :: rest, even =>
      obtain ⟨tail, decoded, size⟩ := inductionHypothesis rest
        (fun digit member => digits digit (List.mem_cons_of_mem _ (List.mem_cons_of_mem _ member)))
        (by simp only [List.length_cons] at even; omega)
      have highDigit := digits top List.mem_cons_self
      obtain ⟨high, isHigh⟩ := Option.isSome_iff_exists.mp highDigit
      obtain ⟨low, isLow⟩ := Option.isSome_iff_exists.mp
        (digits bot (List.mem_cons_of_mem _ List.mem_cons_self))
      refine ⟨UInt8.ofNat (16 * high + low) :: tail, ?_, by rw [List.length_cons, size]⟩
      rw [fromhex, if_neg (by rw [digit_not_space highDigit]; exact Bool.false_ne_true), isHigh,
        isLow, decoded]
      rfl

/-- What `bytes.hex` writes. -/
theorem lowerHex_digits (bin : Bytes) : IsLowerHex (lowerHex bin) := by
  intro digit member
  obtain ⟨byte, _, isDigit⟩ := List.mem_flatMap.mp member
  obtain ⟨highSmall, lowSmall, _⟩ := byte_halves byte
  have table (value : Nat) (small : value < 16) : hexd.getD value '0' ∈ hexd := by
    rw [List.getD_eq_getElem hexd '0' (show value < hexd.length from small)]
    exact List.getElem_mem _
  simp only [List.mem_cons, List.not_mem_nil, or_false] at isDigit
  rcases isDigit with rfl | rfl
  · exact table _ highSmall
  · exact table _ lowSmall

/-- An even number of lowercase digits is what `bytes.hex` writes for the bytes they denote. -/
theorem lowerHex_of_digits (count : Nat) (text : List Char) (digits : IsLowerHex text)
    (even : text.length = 2 * count) : ∃ bin, lowerHex bin = text ∧ bin.length = count := by
  induction count generalizing text with
  | zero =>
    obtain rfl := List.length_eq_zero_iff.mp even
    exact ⟨[], rfl, rfl⟩
  | succ count inductionHypothesis =>
    match text, even with
    | top :: bot :: rest, even =>
      obtain ⟨tail, rfl, size⟩ := inductionHypothesis rest
        (fun digit member => digits digit (List.mem_cons_of_mem _ (List.mem_cons_of_mem _ member)))
        (by simp only [List.length_cons] at even; omega)
      obtain ⟨high, highSmall, rfl⟩ := hexd_position (digits top List.mem_cons_self)
      obtain ⟨low, lowSmall, rfl⟩ := hexd_position
        (digits bot (List.mem_cons_of_mem _ List.mem_cons_self))
      have value : (UInt8.ofNat (16 * high + low)).toNat = 16 * high + low := by
        rw [UInt8.toNat_ofNat']
        omega
      refine ⟨UInt8.ofNat (16 * high + low) :: tail, ?_, by rw [List.length_cons, size]⟩
      have highHalf : (16 * high + low) >>> 4 = high := by
        rw [Nat.shiftRight_eq_div_pow]
        omega
      have lowHalf : (16 * high + low) &&& 0x0F = low := by
        rw [Nat.and_two_pow_sub_one_eq_mod (16 * high + low) 4]
        omega
      simp only [lowerHex, List.flatMap_cons, value, highHalf, lowHalf]
      rfl

end HexText

end Microgrid
