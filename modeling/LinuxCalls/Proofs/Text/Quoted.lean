/-
This file shows that the quoted form of a byte string gives the bytes away and nothing else. What can be seen of it
is printable ASCII and characters of the byte string itself, and reading it back yields the byte string.
-/

import Mathlib.Data.List.Basic
import LinuxCalls.Proofs.Text.Utf8
import LinuxCalls.Text.Quoted

namespace LinuxCalls.Text

/-- The codes of printable ASCII. -/
def Printable (code : Nat) : Prop := 0x20 ≤ code ∧ code ≤ 0x7e

instance (code : Nat) : Decidable (Printable code) := inferInstanceAs (Decidable (_ ∧ _))

/-- Whether given characters are printable can be computed. -/
theorem printable_of_all {characters : List Char}
    (all : (characters.all fun character => decide (Printable character.toNat)) = true) :
    ∀ character ∈ characters, Printable character.toNat := by
  simpa only [List.all_eq_true, decide_eq_true_eq] using all

namespace Piece

/-- The bytes of a piece. -/
def bytes : Piece → Bytes
  | .character value => String.utf8EncodeChar value
  | .stray bytes => bytes

end Piece

/-- Reading loses nothing: the pieces of a byte string make it up. -/
theorem flatMap_bytes_read (bytes : Bytes) : (read bytes).flatMap Piece.bytes = bytes := by
  induction bytes using read.induct with
  | case1 => simp [read]
  | case2 first rest step =>
    rw [read, List.flatMap_cons, step]
    cases found : (next first rest).1 with
    | none => simp [Piece.bytes]
    | some value =>
      obtain ⟨completes, assembled⟩ := completes_of_next (Prod.ext found rfl)
      show String.utf8EncodeChar value ++ _ = _
      rw [← assembled, utf8EncodeChar_assemble completes, List.cons_append, List.take_append_drop]

theorem mem_of_mem_read {bytes : Bytes} {piece : Piece} (member : piece ∈ read bytes) {byte : UInt8}
    (inside : byte ∈ piece.bytes) : byte ∈ bytes := by
  rw [← flatMap_bytes_read bytes]
  exact List.mem_flatMap.mpr ⟨piece, member, inside⟩

/-- A character of ASCII is written as one byte. -/
theorem utf8EncodeChar_of_ascii {character : Char} (ascii : character.toNat ≤ 0x7f) :
    String.utf8EncodeChar character = [UInt8.ofNat character.toNat] :=
  String.utf8EncodeChar_eq_singleton (Char.utf8Size_eq_one_iff.mpr (UInt32.le_iff_toNat_le.mpr ascii))

/-- A printable character is written as a printable byte. -/
theorem printable_of_mem_utf8EncodeChar {character : Char} (printable : Printable character.toNat) {byte : UInt8}
    (member : byte ∈ String.utf8EncodeChar character) : Printable byte.toNat := by
  simp only [Printable] at printable
  rw [utf8EncodeChar_of_ascii (by omega), List.mem_singleton] at member
  rwa [member, toNat_byte (by omega)]

/-- A character outside of ASCII is written as bytes outside of ASCII. -/
theorem le_of_mem_utf8EncodeChar {character : Char} (outside : 0x7f < character.toNat) {byte : UInt8}
    (member : byte ∈ String.utf8EncodeChar character) : 0x80 ≤ byte.toNat := by
  have valid : character.toNat.isValidChar := character.valid
  have written := utf8EncodeChar_ofNat valid
  rw [Char.ofNat_toNat, if_neg (by omega)] at written
  rw [written] at member
  have lead {value : Nat} (small : value < 256) (large : 0x80 ≤ value) : 0x80 ≤ (UInt8.ofNat value).toNat := by
    rwa [toNat_byte small]
  split at member
  · simp only [List.mem_cons, List.not_mem_nil, or_false] at member
    rcases member with rfl | rfl <;> exact lead (by omega) (by omega)
  · split at member
    · simp only [List.mem_cons, List.not_mem_nil, or_false] at member
      rcases member with rfl | rfl | rfl <;> exact lead (by omega) (by omega)
    · simp only [List.mem_cons, List.not_mem_nil, or_false] at member
      rcases member with rfl | rfl | rfl | rfl <;> exact lead (by omega) (by omega)

/-- The bytes of a text are printable exactly if its characters are. -/
theorem printable_ofText_iff {text : String} : (∀ byte ∈ Bytes.ofText text, Printable byte.toNat) ↔
    ∀ character ∈ text.toList, Printable character.toNat := by
  constructor
  · intro printable character member
    have inside {byte : UInt8} (written : byte ∈ String.utf8EncodeChar character) : Printable byte.toNat :=
      printable byte (List.mem_flatMap.mpr ⟨character, member, written⟩)
    by_cases ascii : character.toNat ≤ 0x7f
    · rw [utf8EncodeChar_of_ascii ascii] at inside
      have plain := inside (List.mem_singleton_self _)
      rwa [toNat_byte (by omega)] at plain
    · -- Outside of ASCII already the first byte is too large.
      obtain ⟨first, more, written, -⟩ := exists_completes character
      have head : first ∈ String.utf8EncodeChar character := by
        rw [written]
        exact List.mem_cons_self
      have small := (inside head).2
      have large := le_of_mem_utf8EncodeChar (Nat.lt_of_not_le ascii) head
      omega
  · intro printable byte member
    obtain ⟨character, among, written⟩ := List.mem_flatMap.mp member
    exact printable_of_mem_utf8EncodeChar (printable character among) written

/-- The value of a hexadecimal digit in small letters. -/
def digitValue (digit : Char) : Nat := if digit.isDigit then digit.toNat - 48 else digit.toNat - 87

theorem digitValue_digitChar {value : Nat} (small : value < 16) : digitValue (Nat.digitChar value) = value := by
  revert value
  decide

/-- A digit is printable and closes no number. -/
theorem printable_digitChar {value : Nat} (small : value < 16) :
    Printable (Nat.digitChar value).toNat ∧ Nat.digitChar value ≠ '\x7d' := by
  revert value
  decide

/-- The hexadecimal form of a number is made of digits. -/
theorem exists_of_mem_toDigits {number : Nat} {digit : Char} (member : digit ∈ Nat.toDigits 16 number) :
    ∃ value < 16, digit = Nat.digitChar value := by
  induction number using Nat.base_induction 16 (by decide) with
  | single value small =>
    rw [Nat.toDigits_of_lt_base small] at member
    exact ⟨value, small, List.mem_singleton.mp member⟩
  | digit leading last small positive step =>
    rw [← Nat.toDigits_append_toDigits (by decide) positive small, Nat.toDigits_of_lt_base small] at member
    rcases List.mem_append.mp member with member | member
    · exact step member
    · exact ⟨last, small, List.mem_singleton.mp member⟩

/-- The byte that a character behind a backslash stands for. -/
def meaning (character : Char) : UInt8 :=
  if character = 't' then 9
  else if character = 'r' then 13
  else if character = 'n' then 10
  else if character = '0' then 0
  else UInt8.ofNat character.toNat

/-- A printable character behind a backslash stands for given bytes. The numbers begin with other characters. -/
def Escapes (character : Char) (bytes : Bytes) : Prop :=
  Printable character.toNat ∧ character ≠ 'x' ∧ character ≠ 'u' ∧ bytes = [meaning character]

instance (character : Char) (bytes : Bytes) : Decidable (Escapes character bytes) :=
  inferInstanceAs (Decidable (_ ∧ _))

/-- The forms of bytes in printable ASCII. Their beginnings tell them apart. -/
inductive AsciiForm : Bytes → List Char → Prop
  /-- A character stands for itself. -/
  | plain {character : Char} (printable : Printable character.toNat) (notQuote : character ≠ '\x22')
      (notBackslash : character ≠ '\\') : AsciiForm (String.utf8EncodeChar character) [character]
  /-- A character follows a backslash. -/
  | escaped {character : Char} {bytes : Bytes} (escapes : Escapes character bytes) :
      AsciiForm bytes ['\\', character]
  /-- A byte is written by its number. -/
  | byte (value : UInt8) :
      AsciiForm [value] ['\\', 'x', digit (value.toNat / 16), digit (value.toNat % 16)]
  /-- A character is written by its number. -/
  | number (value : Char) : AsciiForm (String.utf8EncodeChar value) (quoteNumber value)

theorem digits_lt (byte : UInt8) : byte.toNat / 16 < 16 ∧ byte.toNat % 16 < 16 := by
  have := byte.toNat_lt
  omega

/-- A form in ASCII is printable. -/
theorem AsciiForm.printable {bytes : Bytes} {form : List Char} (ascii : AsciiForm bytes form) :
    ∀ character ∈ form, Printable character.toNat := by
  cases ascii with
  | plain printable => exact List.forall_mem_singleton.mpr printable
  | escaped escapes => exact List.forall_mem_cons.mpr ⟨by decide, List.forall_mem_singleton.mpr escapes.1⟩
  | byte value =>
    rw [List.forall_mem_cons, List.forall_mem_cons, List.forall_mem_cons, List.forall_mem_singleton]
    obtain ⟨high, low⟩ := digits_lt value
    exact ⟨by decide, by decide, (printable_digitChar high).1, (printable_digitChar low).1⟩
  | number value =>
    simp only [quoteNumber, List.forall_mem_append]
    refine ⟨⟨printable_of_all rfl, fun digit member => ?_⟩, printable_of_all rfl⟩
    obtain ⟨_, small, rfl⟩ := exists_of_mem_toDigits member
    exact (printable_digitChar small).1

theorem utf8EncodeChar_ofNat_byte {byte : UInt8} (ascii : byte.toNat ≤ 0x7f) :
    String.utf8EncodeChar (Char.ofNat byte.toNat) = [byte] := by
  rw [utf8EncodeChar_ofNat (by omega), if_pos ascii, UInt8.ofNat_toNat]

theorem asciiForm_quoteByte (byte : UInt8) : AsciiForm [byte] (quoteByte byte) := by
  unfold quoteByte
  split
  · rename_i tab
    exact tab ▸ .escaped (by decide)
  split
  · rename_i ret
    exact ret ▸ .escaped (by decide)
  split
  · rename_i feed
    exact feed ▸ .escaped (by decide)
  split
  · rename_i special
    rcases special with rfl | rfl | rfl <;> exact .escaped (by decide)
  split
  · -- Both quotes and the backslash have been taken by the case before.
    rename_i ordinary inside
    simp only [UInt8.le_iff_toNat_le, UInt8.reduceToNat] at inside
    simp only [← UInt8.toNat_inj, UInt8.reduceToNat] at ordinary
    have same : (Char.ofNat byte.toNat).toNat = byte.toNat := toNat_ofNat (by omega)
    have apart {character : Char} (other : byte.toNat ≠ character.toNat) : Char.ofNat byte.toNat ≠ character := by
      rintro rfl
      exact other same.symm
    have printable : Printable (Char.ofNat byte.toNat).toNat := by rwa [same]
    have form := AsciiForm.plain printable (apart fun quote => ordinary (.inr (.inl quote)))
      (apart fun backslash => ordinary (.inr (.inr backslash)))
    rwa [utf8EncodeChar_ofNat_byte (by omega)] at form
  · exact .byte byte

/-- A character outside of ASCII that a quoted form shows as it is. -/
def IsShown (character : Char) : Prop := 0x7f < character.toNat ∧ isNumbered character = false

theorem quoteCharacter_of_isShown {value : Char} (shown : IsShown value) : quoteCharacter value = [value] := by
  obtain ⟨outside, seen⟩ := shown
  have numbered : ¬ (value.toNat < 32 ∨ value.toNat = 127 ∨ isNumbered value = true) := by
    simp only [seen, Bool.false_eq_true, or_false]
    omega
  unfold quoteCharacter
  dsimp only
  rw [if_neg (by omega), if_neg (by omega), if_neg (by omega), if_neg (by omega), if_neg (by omega), if_neg numbered]

/-- A character that is not shown is quoted in ASCII. -/
theorem asciiForm_quoteCharacter {value : Char} (hidden : ¬ IsShown value) :
    AsciiForm (String.utf8EncodeChar value) (quoteCharacter value) := by
  have known {code : Nat} (same : value.toNat = code) : value = Char.ofNat code := by
    rw [← same, Char.ofNat_toNat]
  unfold quoteCharacter
  dsimp only
  split
  · rename_i zero
    rw [known zero]
    exact .escaped (by decide)
  split
  · rename_i tab
    rw [known tab]
    exact .escaped (by decide)
  split
  · rename_i ret
    rw [known ret]
    exact .escaped (by decide)
  split
  · rename_i feed
    rw [known feed]
    exact .escaped (by decide)
  split
  · rename_i special
    rcases special with same | same <;> rw [known same] <;> exact .escaped (by decide)
  split
  · exact .number value
  · rename_i ordinary plain
    have inside : ¬ 0x7f < value.toNat :=
      fun outside => hidden ⟨outside, by simpa using fun seen => plain (.inr (.inr seen))⟩
    refine .plain ⟨by omega, by omega⟩ ?_ ?_
    · rintro rfl
      exact ordinary (.inl rfl)
    · rintro rfl
      exact ordinary (.inr rfl)

/-- A quoted piece is printable, or it is a character that is shown. -/
theorem printable_quotePiece (piece : Piece) : ∀ character ∈ quotePiece piece,
    Printable character.toNat ∨ piece = .character character ∧ IsShown character := by
  intro character member
  cases piece with
  | stray bytes =>
    obtain ⟨byte, -, member⟩ := List.mem_flatMap.mp member
    exact .inl ((asciiForm_quoteByte byte).printable character member)
  | character value =>
    rw [quotePiece] at member
    split at member
    · by_cases shown : IsShown value
      · rw [quoteCharacter_of_isShown shown, List.mem_singleton] at member
        exact .inr ⟨by rw [member], by rwa [member]⟩
      · exact .inl ((asciiForm_quoteCharacter shown).printable character member)
    · exact .inl ((asciiForm_quoteByte _).printable character member)

/-- A byte string shows the characters that are read from it and can be shown. -/
def Shows (bytes : Bytes) (character : Char) : Prop := .character character ∈ read bytes ∧ IsShown character

/-- The quoted form of a byte string stands between two quotes. -/
theorem toList_quoteBytes (bytes : Bytes) :
    (quoteBytes bytes).toList = '\x22' :: ((read bytes).flatMap quotePiece ++ ['\x22']) := by
  simp [quoteBytes]

/-- A quoted form is printable apart from the characters that the byte string shows. -/
theorem printable_quoteBytes (bytes : Bytes) : ∀ character ∈ (quoteBytes bytes).toList,
    Printable character.toNat ∨ Shows bytes character := by
  rw [toList_quoteBytes, List.forall_mem_cons, List.forall_mem_append, List.forall_mem_singleton]
  refine ⟨.inl (by decide), fun character member => ?_, .inl (by decide)⟩
  obtain ⟨piece, among, inside⟩ := List.mem_flatMap.mp member
  rcases printable_quotePiece piece character inside with printable | ⟨rfl, shown⟩
  · exact .inl printable
  · exact .inr ⟨among, shown⟩

/-- What a byte string shows stands in its quoted form. -/
theorem mem_quoteBytes_of_shows {bytes : Bytes} {character : Char} (shows : Shows bytes character) :
    character ∈ (quoteBytes bytes).toList := by
  obtain ⟨among, shown⟩ := shows
  have quoted : quotePiece (.character character) = [character] := by
    rw [quotePiece, if_pos (.inr shown.1), quoteCharacter_of_isShown shown]
  rw [toList_quoteBytes]
  refine List.mem_cons_of_mem _ (List.mem_append_left _ (List.mem_flatMap.mpr ⟨_, among, ?_⟩))
  rw [quoted]
  exact List.mem_singleton_self character

/-- A character in one of the ranges is shown by its number. -/
theorem isNumbered_of_mem {character : Char} {first last : Nat} (range : (first, last) ∈ numberedRanges)
    (inside : first ≤ character.toNat ∧ character.toNat ≤ last) : isNumbered character = true := by
  rw [isNumbered, List.any_eq_true]
  exact ⟨(first, last), range, by simpa using inside⟩

/-- No control of the second range and no separator of lines or paragraphs is shown as it is. -/
theorem IsShown.visible {character : Char} (shown : IsShown character) :
    0xa0 < character.toNat ∧ character.toNat ≠ 0x2028 ∧ character.toNat ≠ 0x2029 := by
  obtain ⟨outside, seen⟩ := shown
  have apart {first last : Nat} (range : (first, last) ∈ numberedRanges) :
      ¬ (first ≤ character.toNat ∧ character.toNat ≤ last) := fun inside => by
    rw [isNumbered_of_mem range inside] at seen
    contradiction
  -- The first range begins with the controls above ASCII, and the other one with both separators.
  have controls := @apart 0x80 0xa0 (by decide +kernel)
  have separators := @apart 0x2028 0x202f (by decide +kernel)
  omega

/-- The form of a byte string in which every byte is quoted on its own. -/
def quoteBytewise (bytes : Bytes) : String := "\"" ++ String.ofList (bytes.flatMap quoteByte) ++ "\""

/-- Where every byte is quoted on its own, nothing outside of ASCII is shown. -/
theorem not_shows_of_bytewise {bytes : Bytes} (bytewise : quoteBytes bytes = quoteBytewise bytes) (character : Char) :
    ¬ Shows bytes character := by
  intro shows
  have member := mem_quoteBytes_of_shows shows
  have printable : ∀ character ∈ (quoteBytewise bytes).toList, Printable character.toNat := by
    simp only [quoteBytewise, String.toList_append, String.toList_ofList, List.forall_mem_append]
    refine ⟨⟨printable_of_all rfl, fun character member => ?_⟩, printable_of_all rfl⟩
    obtain ⟨byte, -, inside⟩ := List.mem_flatMap.mp member
    exact (asciiForm_quoteByte byte).printable character inside
  rw [bytewise] at member
  have inside := printable character member
  have outside := shows.2.1
  simp only [Printable] at inside
  omega

/-- Every byte is quoted on its own if the byte string has no character outside of ASCII and no zero. -/
theorem quoteBytes_of_ascii {bytes : Bytes} (zeroFree : 0 ∉ bytes)
    (ascii : ∀ value, .character value ∈ read bytes → value.toNat ≤ 0x7f) :
    quoteBytes bytes = quoteBytewise bytes := by
  -- Only zero among the characters of ASCII has another form as a character than as a byte.
  have pieces : ∀ piece ∈ read bytes, quotePiece piece = piece.bytes.flatMap quoteByte := by
    intro piece member
    cases piece with
    | stray bytes => rfl
    | character value =>
      have small := ascii value member
      have written := utf8EncodeChar_of_ascii small
      have positive : value.toNat ≠ 0 := fun zero =>
        zeroFree (mem_of_mem_read member (by simp [Piece.bytes, written, zero]))
      rw [quotePiece, if_neg (by omega), Piece.bytes, written, List.flatMap_singleton]
  have joined : (read bytes).flatMap quotePiece = bytes.flatMap quoteByte :=
    calc (read bytes).flatMap quotePiece
        = (read bytes).flatMap fun piece => piece.bytes.flatMap quoteByte := List.flatMap_congr pieces
      _ = ((read bytes).flatMap Piece.bytes).flatMap quoteByte := List.flatMap_assoc.symm
      _ = bytes.flatMap quoteByte := by rw [flatMap_bytes_read]
  rw [quoteBytes, quoteBytewise, joined]

/-- How far the reader of a quoted form has come. -/
inductive Progress
  /-- The next character begins a form. -/
  | between
  /-- A backslash has been read. -/
  | escaped
  /-- The number of a byte follows. -/
  | byte
  /-- The first digit of a byte has been read. -/
  | half (high : Nat)
  /-- The braces around the number of a character follow. -/
  | mark
  /-- Some digits of a character have been read. -/
  | number (value : Nat)

/-- This function reads a quoted form back up to the quote that closes it. -/
def unquote : Progress → List Char → Option Bytes
  | _, [] => none
  | .between, character :: rest =>
    if character = '\x22' then some []
    else if character = '\\' then unquote .escaped rest
    else (unquote .between rest).map (String.utf8EncodeChar character ++ ·)
  | .escaped, character :: rest =>
    if character = 'x' then unquote .byte rest
    else if character = 'u' then unquote .mark rest
    else (unquote .between rest).map (meaning character :: ·)
  | .byte, character :: rest => unquote (.half (digitValue character)) rest
  | .half high, character :: rest =>
    (unquote .between rest).map (UInt8.ofNat (16 * high + digitValue character) :: ·)
  | .mark, _ :: rest => unquote (.number 0) rest
  | .number value, character :: rest =>
    if character = '\x7d' then (unquote .between rest).map (String.utf8EncodeChar (Char.ofNat value) ++ ·)
    else unquote (.number (16 * value + digitValue character)) rest

/-- A character that is neither a quote nor a backslash stands for itself. -/
theorem unquote_cons {character : Char} (notQuote : character ≠ '\x22') (notBackslash : character ≠ '\\')
    (rest : List Char) :
    unquote .between (character :: rest) = (unquote .between rest).map (String.utf8EncodeChar character ++ ·) := by
  rw [unquote, if_neg notQuote, if_neg notBackslash]

/-- The number of a character is read digit by digit. -/
theorem unquote_toDigits (number : Nat) (rest : List Char) :
    unquote (.number 0) (Nat.toDigits 16 number ++ rest) = unquote (.number number) rest := by
  have digit {value : Nat} (small : value < 16) (leading : Nat) (rest : List Char) :
      unquote (.number leading) (Nat.digitChar value :: rest) = unquote (.number (16 * leading + value)) rest := by
    rw [unquote, if_neg (printable_digitChar small).2, digitValue_digitChar small]
  -- The reader takes the leading digits first, so the last digit is split off.
  induction number using Nat.base_induction 16 (by decide) generalizing rest with
  | single value small =>
    rw [Nat.toDigits_of_lt_base small, List.singleton_append, digit small, Nat.mul_zero, Nat.zero_add]
  | digit leading last small positive step =>
    rw [← Nat.toDigits_append_toDigits (by decide) positive small, Nat.toDigits_of_lt_base small,
      List.append_assoc, step, List.singleton_append, digit small]

/-- A form in ASCII is read back. -/
theorem AsciiForm.unquote_append {bytes : Bytes} {form : List Char} (ascii : AsciiForm bytes form) (rest : List Char) :
    unquote .between (form ++ rest) = (unquote .between rest).map (bytes ++ ·) := by
  cases ascii with
  | plain _ notQuote notBackslash => exact unquote_cons notQuote notBackslash rest
  | @escaped character _ escapes =>
    obtain ⟨-, notByte, notNumber, rfl⟩ := escapes
    show unquote .escaped (character :: rest) = _
    rw [unquote, if_neg notByte, if_neg notNumber]
    rfl
  | byte value =>
    obtain ⟨high, low⟩ := digits_lt value
    show unquote .byte (Nat.digitChar _ :: Nat.digitChar _ :: rest) = _
    rw [unquote, unquote, digitValue_digitChar high, digitValue_digitChar low, ofNat_eq value (by omega)]
    rfl
  | number value =>
    rw [quoteNumber, List.append_assoc, List.append_assoc]
    show unquote (.number 0) (Nat.toDigits 16 value.toNat ++ ('\x7d' :: rest)) = _
    rw [unquote_toDigits, unquote, if_pos rfl, Char.ofNat_toNat]

theorem unquote_quoteCharacter (value : Char) (rest : List Char) :
    unquote .between (quoteCharacter value ++ rest) =
      (unquote .between rest).map (String.utf8EncodeChar value ++ ·) := by
  by_cases shown : IsShown value
  · rw [quoteCharacter_of_isShown shown]
    have outside {code : Nat} (ascii : code ≤ 0x7f) : value.toNat ≠ code := fun same =>
      absurd shown.1 (Nat.not_lt.mpr (same ▸ ascii))
    refine unquote_cons ?_ ?_ rest
    · rintro rfl
      exact outside (by decide) rfl
    · rintro rfl
      exact outside (by decide) rfl
  · exact (asciiForm_quoteCharacter shown).unquote_append rest

theorem unquote_quotePiece (piece : Piece) (rest : List Char) :
    unquote .between (quotePiece piece ++ rest) = (unquote .between rest).map (piece.bytes ++ ·) := by
  cases piece with
  | stray bytes =>
    show unquote .between (bytes.flatMap quoteByte ++ rest) = (unquote .between rest).map (bytes ++ ·)
    induction bytes with
    | nil => simp
    | cons byte bytes step =>
      rw [List.flatMap_cons, List.append_assoc, (asciiForm_quoteByte byte).unquote_append, step, Option.map_map]
      rfl
  | character value =>
    rw [quotePiece]
    split
    · exact unquote_quoteCharacter value rest
    · rename_i ascii
      have small : value.toNat ≤ 0x7f := by omega
      rw [(asciiForm_quoteByte _).unquote_append, Piece.bytes, utf8EncodeChar_of_ascii small]

/-- Quoted pieces are read back up to the closing quote. -/
theorem unquote_flatMap_quotePiece (pieces : List Piece) (rest : List Char) :
    unquote .between (pieces.flatMap quotePiece ++ '\x22' :: rest) = some (pieces.flatMap Piece.bytes) := by
  induction pieces with
  | nil => rfl
  | cons piece pieces step =>
    rw [List.flatMap_cons, List.append_assoc, unquote_quotePiece, step]
    rfl

/-- The byte string that is quoted first in a text. -/
def quotedIn (text : String) : Option Bytes :=
  unquote .between ((text.toList.dropWhile (· ≠ '\x22')).drop 1)

/-- The quoted form of a byte string is read back, whatever follows it and whatever comes before its first quote. -/
theorem quotedIn_append {before : String} (unquoted : '\x22' ∉ before.toList) (bytes : Bytes) (after : String) :
    quotedIn (before ++ quoteBytes bytes ++ after) = some bytes := by
  -- The first quote of the text is the one that opens the form.
  have skipped : (before ++ quoteBytes bytes ++ after).toList.dropWhile (· ≠ '\x22') =
      (quoteBytes bytes).toList ++ after.toList := by
    rw [String.toList_append, String.toList_append, List.append_assoc, List.dropWhile_append_of_pos]
    · rw [toList_quoteBytes]
      rfl
    · intro character member
      have other : character ≠ '\x22' := by
        rintro rfl
        exact unquoted member
      simpa using other
  rw [quotedIn, skipped, toList_quoteBytes, List.cons_append, List.drop_one, List.tail_cons, List.append_assoc,
    List.singleton_append, unquote_flatMap_quotePiece, flatMap_bytes_read]

end LinuxCalls.Text
