/-
This file holds formatted values, which hand their text over piece by piece.
-/

import LinuxCalls.Bytes

namespace LinuxCalls

/--
A formatted value is done, or refuses to go on, or hands over a piece of its text. After a piece it
learns whether the piece was taken.
-/
inductive Format
  | done
  | refuse
  | piece (text : Bytes) (next : Bool → Format)

namespace Format

/-- This value hands over pieces and refuses after the first one that is not taken. -/
def ofPieces : List Bytes → Format
  | [] => done
  | text :: rest => piece text fun taken => if taken then ofPieces rest else refuse

/-- This value hands over pieces and refuses where there is none, or where one is not taken. -/
def strict : List (Option Bytes) → Format
  | [] => done
  | none :: _ => refuse
  | some text :: rest => piece text fun taken => if taken then strict rest else refuse

/-- This value hands over all its pieces whatever becomes of them. -/
def lenient : List (Option Bytes) → Format
  | [] => done
  | none :: rest => lenient rest
  | some text :: rest => piece text fun _ => lenient rest

/-- This value hands over texts and refuses after the first one that is not taken. -/
def ofTexts (texts : List String) : Format := ofPieces (texts.map Bytes.ofText)

end Format

end LinuxCalls
