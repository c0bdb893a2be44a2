/-
This file holds the strings that are passed to the kernel. The kernel reads a string up to its first
zero byte, so a string that contains one is rejected before any call.
-/

import LinuxCalls.Kernel.Machine

namespace LinuxCalls

/-- What carries the bytes of a string argument. -/
inductive Carrier
  | text
  | ownedText
  | systemText
  | ownedSystemText
  | path
  | ownedPath
  | terminated
  | ownedTerminated
  deriving DecidableEq

/-- A terminated carrier already ends in a zero byte and is passed on as it is. -/
def Carrier.isTerminated : Carrier → Bool
  | .terminated | .ownedTerminated => true
  | _ => false

/-- A string argument. The bytes of a terminated carrier hold no zero. -/
structure StringArgument where
  carrier : Carrier
  bytes : Bytes
  zeroFree : carrier.isTerminated = true → 0 ∉ bytes

/-- A string that the kernel reads to its end. -/
structure TerminatedString where
  bytes : Bytes
  zeroFree : 0 ∉ bytes

namespace TerminatedString

/-- The bytes in the caller's memory end in a zero. -/
def inMemory (string : TerminatedString) : Bytes := string.bytes ++ [0]

/-- The register with the address of a string, behind which the kernel reads up to the first zero. -/
def register (string : TerminatedString) : Register := .text (string.inMemory.takeWhile (· ≠ 0))

theorem takeWhile_inMemory (string : TerminatedString) : string.inMemory.takeWhile (· ≠ 0) = string.bytes := by
  have inside : ∀ byte ∈ string.bytes, decide (byte ≠ 0) = true := fun byte member =>
    decide_eq_true fun zero => string.zeroFree (zero ▸ member)
  rw [inMemory, List.takeWhile_append_of_pos inside, List.takeWhile_cons_of_neg (by decide), List.append_nil]

theorem register_eq (string : TerminatedString) : string.register = .text string.bytes :=
  congrArg Register.text string.takeWhile_inMemory

end TerminatedString

namespace StringArgument

def ofText (text : String) : StringArgument := ⟨.ownedText, Bytes.ofText text, by simp [Carrier.isTerminated]⟩

/-- A string argument is terminated unless it contains a zero byte. -/
def terminate (argument : StringArgument) : Except Errno TerminatedString :=
  if zeroFree : 0 ∉ argument.bytes then .ok ⟨argument.bytes, zeroFree⟩
  else .error Errno.invalidArgument

def prepare (argument : StringArgument) : Sys TerminatedString := Act.ofExcept argument.terminate

/-- Every string of a list is terminated, and one rejected string rejects the list. -/
def terminateAll : List StringArgument → Except Errno (List TerminatedString)
  | [] => .ok []
  | argument :: rest =>
    match argument.terminate, terminateAll rest with
    | .ok string, .ok strings => .ok (string :: strings)
    | .error error, _ => .error error
    | _, .error error => .error error

end StringArgument

/--
A list of strings for the kernel: the strings, and an array of pointers to them. A pointer is the
position of its string or null, and the kernel reads the array up to the first null pointer.
-/
structure StringVector where
  strings : List TerminatedString
  pointers : List (Option Nat)

namespace StringVector

/-- The array has a pointer to each string and a null pointer behind them. -/
def ofStrings (strings : List TerminatedString) : StringVector :=
  ⟨strings, (List.range strings.length).map some ++ [none]⟩

/-- The strings of a list are terminated before pointers to them are taken. -/
def new (arguments : List StringArgument) : Except Errno StringVector := do
  let strings ← StringArgument.terminateAll arguments
  return ofStrings strings

/-- What the kernel reads behind a pointer. -/
def behind (vector : StringVector) (pointer : Option Nat) : Option Bytes := do
  let string ← vector.strings[← pointer]?
  return string.inMemory.takeWhile (· ≠ 0)

/-- The register with the address of the array. -/
def register (vector : StringVector) : Register :=
  .texts ((vector.pointers.takeWhile Option.isSome).filterMap vector.behind)

/-- Behind the array of a list of strings the kernel reads their bytes, in order. -/
theorem register_ofStrings (strings : List TerminatedString) :
    (ofStrings strings).register = .texts (strings.map TerminatedString.bytes) := by
  have found : (List.range strings.length).map (strings[·]?) = strings.map some := by
    apply List.ext_getElem <;> simp
  have pointed : ((ofStrings strings).pointers.takeWhile Option.isSome) = (List.range strings.length).map some := by
    rw [ofStrings, List.takeWhile_append_of_pos (by simp), List.takeWhile_cons_of_neg (by decide), List.append_nil]
  have behind (index : Nat) :
      (ofStrings strings).behind (some index) = strings[index]?.map TerminatedString.bytes := by
    show (strings[index]?.bind fun string => some (string.inMemory.takeWhile (· ≠ 0))) = _
    cases strings[index]? with
    | none => rfl
    | some string => exact congrArg some string.takeWhile_inMemory
  rw [register, pointed, List.filterMap_map]
  congr 1
  calc (List.range strings.length).filterMap ((ofStrings strings).behind ∘ some)
      = (List.range strings.length).filterMap (Option.map TerminatedString.bytes ∘ (strings[·]?)) :=
        congrArg (List.filterMap · _) (funext behind)
    _ = (strings.map some).filterMap (Option.map TerminatedString.bytes) := by rw [← List.filterMap_map, found]
    _ = strings.map TerminatedString.bytes := by
      rw [List.filterMap_map]
      exact congrFun List.filterMap_eq_map strings

end StringVector

end LinuxCalls
