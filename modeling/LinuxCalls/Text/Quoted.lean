/-
This file holds the quoted forms of a byte string and of a text. A quoted form has no line end in it,
and it shows the characters that can be seen as they are.
-/

import LinuxCalls.Text.Utf8
import LinuxCalls.Text.CharacterClass

namespace LinuxCalls.Text

def digit (value : Nat) : Char := Nat.digitChar value

/--
The quoted form of a byte. A tab, a carriage return, a line feed, both quotes and the backslash
follow a backslash, and every other byte outside of printable ASCII is written by its number.
-/
def quoteByte (byte : UInt8) : List Char :=
  if byte = 9 then ['\\', 't']
  else if byte = 13 then ['\\', 'r']
  else if byte = 10 then ['\\', 'n']
  else if byte = 39 ∨ byte = 34 ∨ byte = 92 then ['\\', Char.ofNat byte.toNat]
  else if 32 ≤ byte ∧ byte ≤ 126 then [Char.ofNat byte.toNat]
  else ['\\', 'x', digit (byte.toNat / 16), digit (byte.toNat % 16)]

def quoteNumber (character : Char) : List Char :=
  "\\u\x7b".toList ++ Nat.toDigits 16 character.toNat ++ "\x7d".toList

/--
The quoted form of a character in a text. A few characters follow a backslash, and one that cannot
be seen or that joins the character before it is written by its number.
-/
def quoteCharacter (character : Char) : List Char :=
  let code := character.toNat
  if code = 0 then ['\\', '0']
  else if code = 9 then ['\\', 't']
  else if code = 13 then ['\\', 'r']
  else if code = 10 then ['\\', 'n']
  else if code = 34 ∨ code = 92 then ['\\', character]
  else if code < 32 ∨ code = 127 ∨ isNumbered character then quoteNumber character
  else [character]

def quoteText (text : String) : String :=
  "\"" ++ String.ofList (text.toList.flatMap quoteCharacter) ++ "\""

/--
The quoted form of a piece of a byte string. The characters of ASCII and the bytes without a
character are quoted as bytes, apart from zero, and all other characters are quoted as in a text.
-/
def quotePiece : Piece → List Char
  | .character value =>
    if value.toNat = 0 ∨ 127 < value.toNat then quoteCharacter value
    else quoteByte (UInt8.ofNat value.toNat)
  | .stray bytes => bytes.flatMap quoteByte

def quoteBytes (bytes : Bytes) : String :=
  "\"" ++ String.ofList ((read bytes).flatMap quotePiece) ++ "\""

end LinuxCalls.Text
