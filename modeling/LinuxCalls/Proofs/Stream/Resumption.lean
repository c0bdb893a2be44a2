/-
This file shows that a read up to a delimiter can be taken up again where an error has cut it short. What a
failed read has collected stays with its caller, so reading again after every error collects each byte once.
-/

import LinuxCalls.Proofs.Stream.Interruption

namespace LinuxCalls.Reader

variable {δ ζ : Type} {rest : δ × Machine → Bytes} {failures : δ × Machine → Nat} {good : δ × Machine → Prop}

section Loop

variable [Source δ]

/-- This action appends up to a delimiter and does so again after every error, as often as it is allowed to. -/
def appendUntilDone (delimiter : UInt8) : (repeats : Nat) → Bytes → Act (Reader δ × Machine) (Appended Bytes)
  | 0, out => readUntil delimiter out
  | repeats + 1, out => do
    let appended ← readUntil delimiter out
    match appended.count with
    | .ok _ => return appended
    | .error _ => appendUntilDone delimiter repeats appended.out

/-- A read that ends well needs no other one. -/
theorem appendUntilDone_of_whole {delimiter : UInt8} {out whole : Bytes} {count : Nat}
    {state next : Reader δ × Machine} (repeats : Nat)
    (made : readUntil delimiter out state = (.ok ⟨whole, .ok count⟩, next)) :
    appendUntilDone delimiter repeats out state = (.ok ⟨whole, .ok count⟩, next) := by
  cases repeats with
  | zero => exact made
  | succ repeats => simp [appendUntilDone, Act.bind_of_ok _ made]

/-- A read that fails is followed by another one, which goes on behind the bytes that have come. -/
theorem appendUntilDone_of_failed {delimiter : UInt8} {out part : Bytes} {error : Errno}
    {state next : Reader δ × Machine} (repeats : Nat)
    (made : readUntil delimiter out state = (.ok ⟨part, .error error⟩, next)) :
    appendUntilDone delimiter (repeats + 1) out state = appendUntilDone delimiter repeats part next := by
  simp [appendUntilDone, Act.bind_of_ok _ made]

end Loop

/-- The bytes in front are those up to the first delimiter, or there is no delimiter and nothing is left. -/
structure Delimited (delimiter : UInt8) (front left : Bytes) : Prop where
  onlyLast : delimiter ∉ front.dropLast
  ended : front.getLast? = some delimiter ∨ left = [] ∧ delimiter ∉ front

/-- The bytes up to the first delimiter are delimited by it. -/
theorem delimited_upTo {delimiter : UInt8} {bytes left : Bytes} (split : upTo delimiter bytes ++ left = bytes) :
    Delimited delimiter (upTo delimiter bytes) left := by
  unfold upTo at split ⊢
  cases found : bytes.findIdx? (· == delimiter) with
  | some index =>
    obtain ⟨inside, hit, earlier⟩ := List.findIdx?_eq_some_iff_getElem.mp found
    have last : bytes[index] = delimiter := by simpa using hit
    have front : bytes.take (index + 1) = bytes.take index ++ [delimiter] := by
      rw [← last, List.take_append_getElem]
    refine ⟨?_, .inl (by simp [front])⟩
    simp only [front, List.dropLast_concat]
    intro member
    obtain ⟨place, before, same⟩ := List.mem_take_iff_getElem.mp member
    exact earlier place (by omega) (by simp [same])
  | none =>
    rw [found] at split
    have missing : delimiter ∉ bytes := by
      intro member
      simpa using List.findIdx?_eq_none_iff.mp found delimiter member
    have nothing : left = [] := by simpa using split
    exact ⟨fun member => missing (List.dropLast_subset _ member), .inr ⟨nothing, missing⟩⟩

variable [Source δ]

/-- As many repeats as there are failures to come collect all bytes up to the first delimiter. -/
theorem appendUntilDone_falters (falters : Source.Falters δ rest failures good) (delimiter : UInt8)
    (repeats : Nat) (out : Bytes) {bytes : Bytes} {state : Reader δ × Machine}
    (ahead : Ahead rest good bytes state) (enough : sourceFailures failures state ≤ repeats) :
    ∃ left count next,
      appendUntilDone delimiter repeats out state = (.ok ⟨out ++ upTo delimiter bytes, .ok count⟩, next) ∧
      upTo delimiter bytes ++ left = bytes ∧ Ahead rest good left next := by
  -- What has been appended and what is ahead are the same bytes after every failure.
  induction repeats generalizing out bytes state with
  | zero =>
    obtain ⟨collected, next, made, drawn⟩ := readUntil_falters falters delimiter ahead
    cases drawn with
    | @whole left _ split same behind =>
      exact ⟨left, _, next, appendUntilDone_of_whole 0 (made out), split, behind⟩
    | failed split line used fewer behind => omega
  | succ repeats step =>
    obtain ⟨collected, middle, made, drawn⟩ := readUntil_falters falters delimiter ahead
    cases drawn with
    | @whole left _ split same behind =>
      exact ⟨left, _, middle, appendUntilDone_of_whole _ (made out), split, behind⟩
    | @failed part later error _ split line used fewer behind =>
      obtain ⟨left, count, next, again, split', behind'⟩ := step (out ++ part) behind (by omega)
      refine ⟨left, count, next, ?_, ?_, behind'⟩
      · rw [appendUntilDone_of_failed repeats (made out), again, List.append_assoc, line]
      · rw [← line, List.append_assoc, split', split]

/--
A read up to a delimiter that is repeated on the same bytes after every failure of the source appends what one
read over a source that does not fail would append, and both readers are then at the same place of the stream.
The delimiter is the last of the bytes appended, or it does not come and nothing is left.
-/
theorem readUntil_resumes [Source ζ] {rest' : ζ × Machine → Bytes} {good' : ζ × Machine → Prop}
    (falters : Source.Falters δ rest failures good) (hands : Source.HandsOut ζ rest' good') (delimiter : UInt8)
    (out : Bytes) {bytes : Bytes} {state : Reader δ × Machine} {other : Reader ζ × Machine}
    (ahead : Ahead rest good bytes state) (ahead' : Ahead rest' good' bytes other) {repeats : Nat}
    (enough : sourceFailures failures state ≤ repeats) :
    ∃ appended left count next next',
      appendUntilDone delimiter repeats out state = (.ok ⟨out ++ appended, .ok count⟩, next) ∧
      readUntil delimiter out other = (.ok ⟨out ++ appended, .ok appended.length⟩, next') ∧ appended ++ left = bytes ∧
      Ahead rest good left next ∧ Ahead rest' good' left next' ∧ Delimited delimiter appended left := by
  obtain ⟨left, count, next, repeated, split, behind⟩ :=
    appendUntilDone_falters falters delimiter repeats out ahead enough
  obtain ⟨next', once, behind'⟩ := readUntil_ahead hands delimiter ahead'
  have same : bytes.drop (upTo delimiter bytes).length = left := by
    have dropped := congrArg (List.drop (upTo delimiter bytes).length) split
    simpa using dropped.symm
  rw [same] at behind'
  exact ⟨upTo delimiter bytes, left, count, next, next', repeated, once out, split, behind, behind',
    delimited_upTo split⟩

/-- Two errors inside a line, one of them where the buffer has just been emptied, and a line over another source. -/
theorem readUntil_resumes_two_errors :
    let bytes : Bytes := [97, 98, 99, 10, 100]
    let plan := [.ok 2, .error Errno.interrupted, .ok 1, .error Errno.noData, .ok 2]
    let machine := Machine.start ⟨[]⟩ .off
    let state := (withCapacity 2 (Faltering.mk bytes plan), machine)
    let other := (withCapacity 0 (Dealer.mk bytes [3]), machine)
    sourceFailures Faltering.failures state ≤ 2 ∧ ∃ appended left count next next',
      appendUntilDone 10 2 [120] state = (.ok ⟨[120] ++ appended, .ok count⟩, next) ∧
      readUntil 10 [120] other = (.ok ⟨[120] ++ appended, .ok appended.length⟩, next') ∧ appended ++ left = bytes ∧
      Ahead (fun source : Faltering × Machine => source.1.bytes) (fun _ => True) left next ∧
      Ahead (fun source : Dealer × Machine => source.1.bytes) (fun _ => True) left next' ∧
      Delimited 10 appended left := by
  intro bytes plan machine state other
  have enough : sourceFailures Faltering.failures state ≤ 2 := by decide
  have ahead := @ahead_withCapacity _ (fun source => source.1.bytes) (fun _ => True) 2 state.1.device machine trivial
  have ahead' := @ahead_withCapacity _ (fun source => source.1.bytes) (fun _ => True) 0 other.1.device machine trivial
  exact ⟨enough, readUntil_resumes Faltering.falters Dealer.handsOut 10 [120] ahead ahead' enough⟩

end LinuxCalls.Reader
