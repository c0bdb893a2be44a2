/-
This file reads bytes as text. A character takes one to four bytes, and bytes that begin no complete
character are found in runs that are as long as the beginning of a character can be.
-/

import LinuxCalls.Bytes

namespace LinuxCalls.Text

def isContinuation (byte : UInt8) : Bool := 0x80 ≤ byte && byte ≤ 0xbf

/-- The number of bytes that follow the first byte of a character, if it can be a first byte. -/
def following (first : UInt8) : Option Nat :=
  if first < 0x80 then some 0
  else if 0xc2 ≤ first && first ≤ 0xdf then some 1
  else if 0xe0 ≤ first && first ≤ 0xef then some 2
  else if 0xf0 ≤ first && first ≤ 0xf4 then some 3
  else none

/-- The second byte is bounded more tightly where a shorter form or no character would result. -/
def acceptsSecond (first second : UInt8) : Bool :=
  if first = 0xe0 then 0xa0 ≤ second && second ≤ 0xbf
  else if first = 0xed then 0x80 ≤ second && second ≤ 0x9f
  else if first = 0xf0 then 0x90 ≤ second && second ≤ 0xbf
  else if first = 0xf4 then 0x80 ≤ second && second ≤ 0x8f
  else isContinuation second

/-- The bytes that follow a first byte as far as they continue its character. -/
def continuations (first : UInt8) (count : Nat) (rest : Bytes) : Bytes :=
  match rest.take count with
  | [] => []
  | second :: more =>
    if acceptsSecond first second then second :: more.takeWhile isContinuation else []

def assemble (first : UInt8) (continuations : Bytes) : Char :=
  let lead := match continuations.length with
    | 0 => first.toNat
    | 1 => first.toNat % 32
    | 2 => first.toNat % 16
    | _ => first.toNat % 8
  Char.ofNat (continuations.foldl (fun value byte => value * 64 + byte.toNat % 64) lead)

/-- The next character, or nothing for a run without one, and the number of bytes after the first. -/
def next (first : UInt8) (rest : Bytes) : Option Char × Nat :=
  match following first with
  | none => (none, 0)
  | some count =>
    let found := continuations first count rest
    (if found.length = count then some (assemble first found) else none, found.length)

/-- A piece of a byte string is a character or a run of bytes without one. -/
inductive Piece
  | character (value : Char)
  | stray (bytes : Bytes)
  deriving DecidableEq

namespace Piece

def character? : Piece → Option Char
  | .character value => some value
  | .stray _ => none

/-- The character of a piece, or the replacement character for a run without one. -/
def shown (piece : Piece) : Char := piece.character?.getD (Char.ofNat 0xfffd)

end Piece

def read : Bytes → List Piece
  | [] => []
  | first :: rest =>
    (match (next first rest).1 with
      | some value => .character value
      | none => .stray (first :: rest.take (next first rest).2)) ::
        read (rest.drop (next first rest).2)
termination_by bytes => bytes.length
decreasing_by
  simp only [List.length_drop, List.length_cons]
  omega

/-- The text of a byte string, if all of it is text. -/
def ofBytes? (bytes : Bytes) : Option String :=
  ((read bytes).mapM Piece.character?).map String.ofList

/-- The text of a byte string, with a replacement character for each run that is no text. -/
def ofBytesReplacing (bytes : Bytes) : String := String.ofList ((read bytes).map Piece.shown)

end LinuxCalls.Text
