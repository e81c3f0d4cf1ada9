import Microgrid.Wire.HexText

/-!
# JSON values and the two printers

A `Json` is what either parser hands over: the parsers themselves are parameters
of the programs that use them. Every message the two programs send is a flat
object of strings, so the printers are given on those, with each library's own
separators and escapes: `json.dumps` writes ASCII only, `cJSON_PrintUnformatted`
writes no blanks and passes other UTF-8 through.

Number literals keep their text. Strings are sequences of Unicode scalar values;
the lone surrogates that Python also admits in a string are no hexadecimal digits
and no message tags, and behave like any other unexpected character.
-/

namespace Microgrid

/-- A parsed JSON value. Object members keep the parser's order. -/
inductive Json where
  | null
  | bool (value : Bool)
  | num (literal : String)
  | str (text : String)
  | arr (items : List Json)
  | obj (fields : List (String × Json))

/-- A flat object of strings, in the order its fields were added. -/
abbrev Message := List (String × String)

/-- The value a message denotes. -/
def Message.toJson (message : Message) : Json :=
  .obj (message.map fun field => (field.1, .str field.2))

namespace JsonText

open HexText

/-- The four digits of `\u%04x`. -/
def hex4 (code : Nat) : List Char :=
  [hexd.getD (code / 4096 % 16) '0', hexd.getD (code / 256 % 16) '0',
    hexd.getD (code / 16 % 16) '0', hexd.getD (code % 16) '0']

/-- The two-character escapes both printers share; `none` for any other character. -/
def shortEscape (character : Char) : Option (List Char) :=
  if character = '"' then some ['\\', '"']
  else if character = '\\' then some ['\\', '\\']
  else if character.toNat = 8 then some ['\\', 'b']
  else if character.toNat = 9 then some ['\\', 't']
  else if character.toNat = 10 then some ['\\', 'n']
  else if character.toNat = 12 then some ['\\', 'f']
  else if character.toNat = 13 then some ['\\', 'r']
  else none

/-- `json.dumps` with its default `ensure_ascii`: anything outside the printable
ASCII range is a `\u` escape, two of them beyond the basic plane. -/
def pythonEscape (character : Char) : List Char :=
  match shortEscape character with
  | some escape => escape
  | none =>
    if 32 ≤ character.toNat ∧ character.toNat ≤ 126 then [character]
    else if character.toNat < 0x10000 then '\\' :: 'u' :: hex4 character.toNat
    else '\\' :: 'u' :: hex4 (0xd800 + (character.toNat - 0x10000) / 1024) ++
      '\\' :: 'u' :: hex4 (0xdc00 + (character.toNat - 0x10000) % 1024)

/-- cJSON escapes control characters and copies every other character. -/
def cJsonEscape (character : Char) : List Char :=
  match shortEscape character with
  | some escape => escape
  | none => if character.toNat < 32 then '\\' :: 'u' :: hex4 character.toNat else [character]

/-- A quoted string under one of the two escapings. -/
def quoted (escape : Char → List Char) (text : String) : List Char :=
  '"' :: text.toList.flatMap escape ++ ['"']

/-- One member of an object; only Python puts a blank after the colon. -/
def member (escape : Char → List Char) (colon : List Char) (field : String × String) : List Char :=
  quoted escape field.1 ++ colon ++ quoted escape field.2

/-- `json.dumps(obj).encode("utf-8")`. -/
def dumps (message : Message) : Bytes :=
  utf8 ('{' :: (List.intersperse [',', ' '] (message.map (member pythonEscape [':', ' ']))).flatten
    ++ ['}'])

/-- `cJSON_PrintUnformatted`. -/
def cJSON_PrintUnformatted (message : Message) : Bytes :=
  utf8 ('{' :: (List.intersperse [','] (message.map (member cJsonEscape [':']))).flatten ++ ['}'])

/-- Number of characters in the keys and values of a message. -/
def textLength (message : Message) : Nat :=
  (message.map fun field => field.1.toList.length + field.2.toList.length).sum

/-- A character takes at most four bytes. -/
theorem utf8_length_le (text : List Char) : (utf8 text).length ≤ 4 * text.length := by
  induction text with
  | nil => simp [utf8]
  | cons character rest inductionHypothesis =>
    have size : (String.utf8EncodeChar character).length ≤ 4 := by
      rw [String.length_utf8EncodeChar]
      exact character.utf8Size_le_four
    simp only [utf8, List.flatMap_cons, List.length_append, List.length_cons] at *
    omega

/-- A character is never dropped. -/
theorem le_utf8_length (text : List Char) : text.length ≤ (utf8 text).length := by
  induction text with
  | nil => simp [utf8]
  | cons character rest inductionHypothesis =>
    have size : 0 < (String.utf8EncodeChar character).length := by
      rw [String.length_utf8EncodeChar]
      exact character.utf8Size_pos
    simp only [utf8, List.flatMap_cons, List.length_append, List.length_cons] at *
    omega

/-- Neither printer writes more than twelve characters for one. -/
theorem escape_length_le (character : Char) :
    (pythonEscape character).length ≤ 12 ∧ (cJsonEscape character).length ≤ 12 := by
  have short : ∀ escape, shortEscape character = some escape → escape.length = 2 := by
    intro escape found
    simp only [shortEscape] at found
    split at found <;> grind
  unfold pythonEscape cJsonEscape
  cases found : shortEscape character with
  | some escape => simp [short escape found]
  | none =>
    constructor
    · by_cases printable : 32 ≤ character.toNat ∧ character.toNat ≤ 126
      · simp [printable]
      · by_cases basic : character.toNat < 0x10000 <;> simp [printable, basic, hex4]
    · by_cases control : character.toNat < 32 <;> simp [control, hex4]

/-- The body of an object under either printer is bounded by its text. -/
theorem members_length_le (escape : Char → List Char) (colon separator : List Char)
    (bounded : ∀ character, (escape character).length ≤ 12) (shortColon : colon.length ≤ 2)
    (shortSeparator : separator.length ≤ 2) (message : Message) :
    (List.intersperse separator (message.map (member escape colon))).flatten.length ≤
      12 * textLength message + 8 * message.length := by
  have escaped (text : List Char) : (text.flatMap escape).length ≤ 12 * text.length := by
    induction text with
    | nil => simp
    | cons character rest inductionHypothesis =>
      have head := bounded character
      simp only [List.flatMap_cons, List.length_append, List.length_cons]
      omega
  have field (entry : String × String) : (member escape colon entry).length ≤
      12 * (entry.1.toList.length + entry.2.toList.length) + 6 := by
    have key := escaped entry.1.toList
    have value := escaped entry.2.toList
    simp only [member, quoted, List.length_append, List.length_cons, List.length_nil]
    omega
  induction message with
  | nil => simp
  | cons first rest inductionHypothesis =>
    have head := field first
    cases rest with
    | nil =>
      simp only [List.map_cons, List.map_nil, List.intersperse_singleton, List.flatten_cons,
        List.flatten_nil, List.append_nil, textLength, List.sum_cons, List.sum_nil,
        List.length_cons, List.length_nil]
      omega
    | cons second others =>
      simp only [List.map_cons, List.intersperse_cons_cons, List.flatten_cons, List.length_append,
        textLength, List.sum_cons, List.length_cons] at inductionHypothesis head ⊢
      omega

/-- Every printed message has a positive length, bounded by its text. -/
theorem dumps_length (message : Message) : 0 < (dumps message).length ∧
    (dumps message).length ≤ 48 * textLength message + 32 * message.length + 8 := by
  have inside := members_length_le pythonEscape [':', ' '] [',', ' ']
    (fun character => (escape_length_le character).1) (by simp) (by simp) message
  constructor
  · refine Nat.lt_of_lt_of_le ?_ (le_utf8_length _)
    simp
  · apply (utf8_length_le _).trans
    simp only [List.cons_append, List.length_cons, List.length_append, List.length_nil]
    omega

/-- Every printed message has a positive length, bounded by its text. -/
theorem cJSON_PrintUnformatted_length (message : Message) :
    0 < (cJSON_PrintUnformatted message).length ∧ (cJSON_PrintUnformatted message).length ≤
      48 * textLength message + 32 * message.length + 8 := by
  have inside := members_length_le cJsonEscape [':'] [',']
    (fun character => (escape_length_le character).2) (by simp) (by simp) message
  constructor
  · refine Nat.lt_of_lt_of_le ?_ (le_utf8_length _)
    simp
  · apply (utf8_length_le _).trans
    simp only [List.cons_append, List.length_cons, List.length_append, List.length_nil]
    omega

end JsonText

end Microgrid
