/-
This file reads the lines of the log back. A line shows the level and the message of its record. A message of the trace
shows the call that it is about, with its registers on the way in and its result on the way out.
-/

import Mathlib.Data.List.Basic
import LinuxCalls.Log.Backend
import LinuxCalls.Proofs.Text.Quoted

namespace LinuxCalls

namespace Text

/-- The number that some characters begin with in decimal digits, if they begin with a digit. -/
def leadingNumber (characters : List Char) : Option Nat :=
  match characters.takeWhile Char.isDigit with
  | [] => none
  | digits => some (Nat.ofDigitChars 10 digits 0)

/-- The first number in a text. -/
def numberIn (text : String) : Option Nat := leadingNumber (text.toList.dropWhile fun character => !character.isDigit)

/-- The integer that some characters begin with. A negative one has a sign. -/
def leadingInteger : List Char → Option Int
  | '-' :: rest => (leadingNumber rest).map fun size : Nat => -(size : Int)
  | characters => (leadingNumber characters).map fun size : Nat => (size : Int)

/-- Characters after which no decimal number goes on. -/
def EndsNumber (rest : List Char) : Prop := ∀ next ∈ rest.head?, next.isDigit = false

/-- A decimal number has a first digit, and it has nothing but digits. -/
theorem repr_digits (number : Nat) :
    number.repr.toList ≠ [] ∧ ∀ digit ∈ number.repr.toList, digit.isDigit = true := by
  rw [Nat.toList_repr]
  exact ⟨Nat.toDigits_ne_nil, fun digit => Nat.isDigit_of_mem_toDigits (by decide) (by decide)⟩

/-- A number in decimal digits is read back. -/
theorem leadingNumber_repr (number : Nat) {rest : List Char} (ends : EndsNumber rest) :
    leadingNumber (number.repr.toList ++ rest) = some number := by
  obtain ⟨some, digits⟩ := repr_digits number
  have stopped : rest.takeWhile Char.isDigit = [] := by
    cases rest with
    | nil => rfl
    | cons next rest => exact List.takeWhile_cons_of_neg (by simp [ends next rfl])
  have taken : (number.repr.toList ++ rest).takeWhile Char.isDigit = number.repr.toList := by
    rw [List.takeWhile_append_of_pos digits, stopped, List.append_nil]
  unfold leadingNumber
  rw [taken]
  split
  · rename_i none
    exact absurd none some
  · rw [Nat.toList_repr, Nat.ofDigitChars_ten_toDigits]

/-- The first number in a text is read back from behind other characters. -/
theorem numberIn_repr {before after : String} (number : Nat)
    (plain : ∀ character ∈ before.toList, (!character.isDigit) = true) (ends : EndsNumber after.toList) :
    numberIn (before ++ number.repr ++ after) = some number := by
  obtain ⟨first, digits, spelled⟩ := List.exists_cons_of_ne_nil (repr_digits number).1
  have digit : first.isDigit = true := (repr_digits number).2 first (spelled ▸ List.mem_cons_self)
  have skipped : (number.repr.toList ++ after.toList).dropWhile (fun character => !character.isDigit) =
      number.repr.toList ++ after.toList := by
    rw [spelled, List.cons_append, List.dropWhile_cons_of_neg (by simp [digit])]
  rw [numberIn, String.toList_append, String.toList_append, List.append_assoc,
    List.dropWhile_append_of_pos plain, skipped, leadingNumber_repr number ends]

/-- An integer is read back. -/
theorem leadingInteger_toString (number : Int) {rest : List Char} (ends : EndsNumber rest) :
    leadingInteger ((toString number).toList ++ rest) = some number := by
  rw [Int.toString_eq_repr, Int.repr_eq_if]
  split
  · rename_i positive
    obtain ⟨first, digits, spelled⟩ := List.exists_cons_of_ne_nil (repr_digits number.toNat).1
    have digit : first.isDigit = true := (repr_digits number.toNat).2 first (spelled ▸ List.mem_cons_self)
    have read := leadingNumber_repr number.toNat ends
    rw [spelled, List.cons_append] at read ⊢
    rw [leadingInteger, read, Option.map_some, Int.toNat_of_nonneg positive]
    rintro rest same
    rw [(List.cons.inj same).1] at digit
    exact absurd digit (by decide)
  · rename_i negative
    rw [String.toList_append]
    show (leadingNumber ((-number).toNat.repr.toList ++ rest)).map (fun size : Nat => -(size : Int)) = some number
    rw [leadingNumber_repr _ ends, Option.map_some, Int.toNat_of_nonneg (by omega), Int.neg_neg]

/--
The hexadecimal numbers in some characters, each of which stands between an x and a comma. The value of the digits
read so far is kept inside of a number.
-/
def hexadecimalsIn : Option Nat → List Char → List Nat
  | _, [] => []
  | none, character :: rest => hexadecimalsIn (if character = 'x' then some 0 else none) rest
  | some value, character :: rest =>
    if character = ',' then value :: hexadecimalsIn none rest
    else hexadecimalsIn (some (16 * value + digitValue character)) rest

/-- The digits of a number are read into its value. -/
theorem hexadecimalsIn_toDigits (number : Nat) (rest : List Char) :
    hexadecimalsIn (some 0) (Nat.toDigits 16 number ++ rest) = hexadecimalsIn (some number) rest := by
  have digit {value : Nat} (small : value < 16) (leading : Nat) (rest : List Char) :
      hexadecimalsIn (some leading) (Nat.digitChar value :: rest) =
        hexadecimalsIn (some (16 * leading + value)) rest := by
    have other : Nat.digitChar value ≠ ',' := by
      revert value
      decide
    rw [hexadecimalsIn, if_neg other, digitValue_digitChar small]
  -- The reader takes the leading digits first, so the last digit is split off.
  induction number using Nat.base_induction 16 (by decide) generalizing rest with
  | single value small =>
    rw [Nat.toDigits_of_lt_base small, List.singleton_append, digit small, Nat.mul_zero, Nat.zero_add]
  | digit leading last small positive step =>
    rw [← Nat.toDigits_append_toDigits (by decide) positive small, Nat.toDigits_of_lt_base small,
      List.append_assoc, step, List.singleton_append, digit small]

/-- The form of a number is read back from its line. -/
theorem hexadecimalsIn_line (number : Nat) (rest : List Char) :
    hexadecimalsIn none (("    " ++ Flags.hexadecimal number ++ ",\n").toList ++ rest) =
      number :: hexadecimalsIn none rest := by
  simp only [Flags.hexadecimal, String.toList_append, String.toList_ofList, List.append_assoc]
  show hexadecimalsIn (some 0) (Nat.toDigits 16 number ++ ',' :: '\n' :: rest) = _
  rw [hexadecimalsIn_toDigits]
  rfl

end Text

namespace CallKind

/-- The characters of the name of a call are its first ones up to a bracket or a blank. -/
def isNamed (character : Char) : Bool := character ≠ '(' ∧ character ≠ ' '

/-- No name of a call has a bracket or a blank in it. -/
theorem isNamed_of_mem_name (kind : CallKind) : ∀ character ∈ kind.name.toList, isNamed character = true := by
  have all : kind.name.toList.all isNamed = true := by cases kind <;> rfl
  exact List.all_eq_true.mp all

/-- A call is found by its name. -/
theorem ofName?_name (kind : CallKind) : ofName? kind.name = some kind := by
  cases kind <;> decide +kernel

end CallKind

namespace Log

/-- What stands in front of the message of a record. -/
def head (level : Level) (target : String) : String :=
  "[" ++ level.name ++ String.ofList (List.replicate (5 - level.name.length) ' ') ++ " " ++ target ++ "] "

/-- A line is its head, its message and a line end. -/
theorem line_eq (level : Level) (target message : String) :
    line level target message = head level target ++ message ++ "\n" := rfl

/-- All levels. -/
def levels : List Level := [.error, .warn, .info, .debug, .trace]

/-- The level and the message of the record with a target whose line a text is. -/
def recordIn (target text : String) : Option (Level × String) :=
  levels.findSome? fun level =>
    (text.toList.dropPrefix? (head level target).toList).map fun rest => (level, String.ofList rest.dropLast)

/-- The record of a line is read back. -/
theorem recordIn_line (level : Level) (target message : String) :
    recordIn target (line level target message) = some (level, message) := by
  have behind : (line level target message).toList = (head level target).toList ++ (message.toList ++ ['\n']) := by
    rw [line_eq, String.toList_append, String.toList_append, List.append_assoc]
    rfl
  have own : (line level target message).toList.dropPrefix? (head level target).toList =
      some (message.toList ++ ['\n']) := by
    rw [behind, List.dropPrefix?_append_of_beq _ (by simp)]
  -- The heads of two levels differ in the letter behind the bracket.
  have other {level' : Level} (different : level' ≠ level) :
      (line level target message).toList.dropPrefix? (head level' target).toList = none := by
    rw [behind]
    simp only [head, String.toList_append, List.append_assoc]
    revert different
    cases level <;> cases level' <;> intro different <;> first | rfl | exact absurd rfl different
  unfold recordIn levels
  cases level <;> simp [List.findSome?, own, other, String.ofList_toList]

/-- What a record of the trace says. -/
inductive Trace
  /-- A call is made with the numbers in its registers. -/
  | announced (kind : CallKind) (registers : List UInt64)
  /-- A call has come back with a result. -/
  | returned (kind : CallKind) (result : Except Errno UInt64)

/-- A record of the trace announces a call. -/
def Trace.isAnnounced : Trace → Bool
  | announced _ _ => true
  | returned _ _ => false

/-- The result that some characters show in its long form. -/
def resultIn : List Char → Option (Except Errno UInt64)
  | 'O' :: 'k' :: '(' :: rest => (Text.leadingNumber rest).map fun value => .ok (UInt64.ofNat value)
  | 'E' :: 'r' :: 'r' :: '(' :: 'E' :: 'r' :: 'r' :: 'n' :: 'o' :: '(' :: rest =>
    (Text.leadingInteger rest).map fun value => .error ⟨Int32.ofInt value⟩
  | _ => none

/-- The long form of a result is read back. -/
theorem resultIn_longForm (result : Except Errno UInt64) :
    resultIn (RawReturn.longForm result).toList = some result := by
  cases result with
  | ok value =>
    have closed : Text.EndsNumber [')'] := by rintro next ⟨⟩; rfl
    simp only [RawReturn.longForm, String.toList_append, List.append_assoc]
    show (Text.leadingNumber (value.toNat.repr.toList ++ [')'])).map _ = _
    rw [Text.leadingNumber_repr _ closed, Option.map_some, UInt64.ofNat_toNat]
  | error error =>
    have closed {rest : List Char} : Text.EndsNumber (':' :: rest) := by rintro next ⟨⟩; rfl
    simp only [RawReturn.longForm, Errno.longForm, String.toList_append, List.append_assoc]
    show (Text.leadingInteger ((toString error.raw.toInt).toList ++ ':' :: _)).map _ = _
    rw [Text.leadingInteger_toString _ closed, Option.map_some, Int32.ofInt_toInt]

/-- What a message of the trace says. The name of the call comes first. -/
def traceIn (message : String) : Option Trace := do
  let kind ← CallKind.ofName? (String.ofList (message.toList.takeWhile CallKind.isNamed))
  match message.toList.dropWhile CallKind.isNamed with
  | '(' :: rest => some (.announced kind ((Text.hexadecimalsIn none rest).map UInt64.ofNat))
  | ' ' :: '-' :: '>' :: ' ' :: rest => (resultIn rest).map (.returned kind)
  | _ => none

/-- The name of a call is parted from what comes behind it. -/
theorem traceIn_name {kind : CallKind} {message : String} {next : Char} {rest : List Char}
    (named : message.toList = kind.name.toList ++ next :: rest) (ends : CallKind.isNamed next = false) :
    CallKind.ofName? (String.ofList (message.toList.takeWhile CallKind.isNamed)) = some kind ∧
      message.toList.dropWhile CallKind.isNamed = next :: rest := by
  have inside := kind.isNamed_of_mem_name
  have outside : ¬ CallKind.isNamed next = true := by simp [ends]
  rw [named, List.takeWhile_append_of_pos inside, List.takeWhile_cons_of_neg outside, List.append_nil,
    List.dropWhile_append_of_pos inside, List.dropWhile_cons_of_neg outside, String.ofList_toList]
  exact ⟨kind.ofName?_name, rfl⟩

/-- The lines of registers show the numbers in them. -/
theorem hexadecimalsIn_registers (registers : List Register) :
    (Text.hexadecimalsIn none ((String.join (registers.map fun register =>
      "    " ++ Flags.hexadecimal register.value.toNat ++ ",\n")).toList ++ "])".toList)).map UInt64.ofNat =
      registers.map Register.value := by
  induction registers with
  | nil => rfl
  | cons register registers step =>
    rw [List.map_cons, String.join_cons, String.toList_append, List.append_assoc, Text.hexadecimalsIn_line,
      List.map_cons, step, List.map_cons, UInt64.ofNat_toNat]

/-- The text that announces a call shows the call and its registers. -/
theorem traceIn_entryText (kind : CallKind) (registers : List Register) :
    traceIn (kind.entryText registers) = some (.announced kind (registers.map Register.value)) := by
  have named : (kind.entryText registers).toList = kind.name.toList ++ '(' :: ('[' :: '\n' ::
      ((String.join (registers.map fun register =>
        "    " ++ Flags.hexadecimal register.value.toNat ++ ",\n")).toList ++ "])".toList)) := by
    simp only [CallKind.entryText, String.toList_append, List.append_assoc]
    rfl
  obtain ⟨found, rest⟩ := traceIn_name named rfl
  rw [traceIn, found, rest]
  exact congrArg (fun values => some (Trace.announced kind values)) (hexadecimalsIn_registers registers)

/-- The text that reports the return of a call shows the call and its result. -/
theorem traceIn_exitText (kind : CallKind) (result : Except Errno UInt64) :
    traceIn (kind.exitText result) = some (.returned kind result) := by
  have named : (kind.exitText result).toList =
      kind.name.toList ++ ' ' :: ('-' :: '>' :: ' ' :: (RawReturn.longForm result).toList) := by
    simp only [CallKind.exitText, String.toList_append, List.append_assoc]
    rfl
  obtain ⟨found, rest⟩ := traceIn_name named rfl
  rw [traceIn, found, rest]
  show (resultIn (RawReturn.longForm result).toList).map (Trace.returned kind) = _
  rw [resultIn_longForm, Option.map_some]

/-- The bytes of a record's line. -/
def lineBytes (level : Level) (message : String) : Bytes := Bytes.ofText (line level target message)

/-- The record of the library whose line some bytes are. -/
def recordOf (bytes : Bytes) : Option (Level × String) := (Text.ofBytes? bytes).bind (recordIn target)

/-- What a line says if it is one of the trace. -/
def traceOf (bytes : Bytes) : Option Trace := do
  let (level, message) ← recordOf bytes
  if level = .trace then traceIn message else none

/-- The record of a line of the library is read back. -/
@[simp] theorem recordOf_lineBytes (level : Level) (message : String) :
    recordOf (lineBytes level message) = some (level, message) := by
  rw [recordOf, lineBytes, Text.ofBytes?_eq_some_iff.mpr rfl]
  exact recordIn_line level target message

/-- A line of the library is not empty. -/
theorem lineBytes_ne_nil (level : Level) (message : String) : lineBytes level message ≠ [] := by
  simp [lineBytes, line, Bytes.ofText]

/-- A line of the trace says what its message says. -/
theorem traceOf_trace (message : String) : traceOf (lineBytes .trace message) = traceIn message := by
  rw [traceOf, recordOf_lineBytes]
  rfl

/-- Any other line says nothing about a call. -/
theorem traceOf_other {level : Level} (other : level ≠ .trace) (message : String) :
    traceOf (lineBytes level message) = none := by
  rw [traceOf, recordOf_lineBytes]
  exact if_neg other

end Log

end LinuxCalls
