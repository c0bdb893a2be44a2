/-
This file shows that buffered streams are faithful over faithful devices. A refill, a short write and
a formatted value do not come between the error of a device and the caller.
-/

import LinuxCalls.Proofs.Calls.Wrappers
import LinuxCalls.Proofs.Stream.Writing
import LinuxCalls.Proofs.Stream.Reading

namespace LinuxCalls

open Act (Faithful Faithfully Still Traces)

variable {δ : Type}

/-- A read or a write is within bounds if it reports no more bytes than the request asked for. -/
def Event.IsWithin (call : Event) : Prop :=
  ∀ (request : Request) word count, call = request.answered word →
    request.number = CallKind.read.number ∨ request.number = CallKind.write.number →
      RawReturn.decode word = .ok count → count ≤ request.register 2

/-- What a write to a faithful sink has done when it ends. -/
structure Sink.Offered (keeps : δ × Machine → Prop) (allowed : Event → Prop)
    (cause : List Event → Errno → Prop) (offered : Bytes) (calls : List Event)
    (outcome : Except Fault Nat) (next : δ × Machine) : Prop
    extends Faithfully keeps allowed cause (fun _ => none) calls outcome next where
  /-- A refusal of some bytes is a cause to give up. -/
  refused : offered ≠ [] → outcome = .ok 0 → cause calls Errno.transferFailed
  bounded : (∀ call ∈ calls, call.IsWithin) → ∀ count, outcome = .ok count → count ≤ offered.length
  ends : ∃ result : Except Errno Nat, outcome = result.mapError .errno

/-- A sink is faithful if each write to it is, and if it never reports more bytes than its calls do. -/
def Sink.Faithful (δ : Type) [Sink δ] (keeps : δ × Machine → Prop) (allowed : Event → Prop)
    (cause : List Event → Errno → Prop) : Prop :=
  ∀ offered state, keeps state → (Sink.write offered : Act (δ × Machine) Nat).Traces state
    (Sink.Offered keeps allowed cause offered)

/-- A source is faithful if each read from it is. -/
def Source.Faithful (δ : Type) [Source δ] (keeps : δ × Machine → Prop) (allowed : Event → Prop)
    (cause : List Event → Errno → Prop) : Prop :=
  ∀ buffer, Act.Faithful keeps allowed cause (fun reading : Reading => attempted? reading.count)
    (Source.read buffer : Act (δ × Machine) Reading)

variable {keeps : δ × Machine → Prop} {allowed : Event → Prop} {cause : List Event → Errno → Prop}

theorem Sink.Faithful.mono [Sink δ] {broader : List Event → Errno → Prop}
    (faithful : Sink.Faithful δ keeps allowed cause)
    (broaden : ∀ calls error, cause calls error → broader calls error) :
    Sink.Faithful δ keeps allowed broader := by
  intro offered state kept
  refine (faithful offered state kept).mono ?_
  intro calls outcome next done
  have reports := done.reports.mono (broaden calls)
  exact ⟨⟨done.kept, done.allowed, reports⟩, fun some none => broaden _ _ (done.refused some none),
    done.bounded, done.ends⟩

namespace Writer

/-- What holds of a writer holds of its device. -/
def DeviceKeeps (keeps : δ × Machine → Prop) (state : Writer δ × Machine) : Prop := keeps (state.1.device, state.2)

theorem faithful_onDevice {α : Type} {failure : α → Option Errno} {act : Act (δ × Machine) α}
    (faithful : Faithful keeps allowed cause failure act) :
    Faithful (DeviceKeeps keeps) allowed cause failure (onDevice act) :=
  faithful.focus (fun _ => rfl) (fun _ _ => rfl) (fun _ kept => kept) fun _ _ _ kept => kept

theorem faithful_self_bind {α : Type} {failure : α → Option Errno} {next : Writer δ → Act (Writer δ × Machine) α}
    (faithful : ∀ writer, Faithful (DeviceKeeps keeps) allowed cause failure (next writer)) :
    Faithful (DeviceKeeps keeps) allowed cause failure (self >>= next) := fun state kept =>
  faithful state.1 state kept

variable [Sink δ]

/-- A drain is faithful, it never exits, and it panics only if a call is not within bounds. -/
theorem traces_drainFrom (faithful : Sink.Faithful δ keeps allowed cause) (extending : Extends allowed cause)
    (bytes : Bytes) (written : Nat) {state : δ × Machine} (kept : keeps state) :
    (drainFrom bytes written : Act (δ × Machine) _).Traces state fun calls outcome next =>
      Faithfully keeps allowed cause (fun drained => attempted? drained.2) calls outcome next ∧
        ∀ reason, outcome = .error reason →
          reason = .panic ∧ (written ≤ bytes.length → ∃ call ∈ calls, ¬ call.IsWithin) := by
  -- Each round that goes on leaves fewer bytes behind it.
  induction left : bytes.length - written using Nat.strongRecOn generalizing written state with
  | ind size step =>
    subst left
    unfold drainFrom
    by_cases finished : written = bytes.length
    · rw [if_pos finished]
      exact .pure ⟨⟨kept, nofun, .nothing .nil⟩, nofun⟩
    · rw [if_neg finished]
      by_cases beyond : bytes.length < written
      · rw [dif_pos beyond]
        refine .fault ⟨⟨kept, nofun, .nothing .nil⟩, fun reason ended => ?_⟩
        cases ended
        exact ⟨rfl, fun inside => by omega⟩
      · rw [dif_neg beyond]
        apply (faithful (bytes.drop written) state kept).attempt_bind
        · intro calls count middle offered
          dsimp only
          split
          · rename_i none
            subst none
            have some : bytes.drop written ≠ [] := List.ne_nil_of_length_pos (by rw [List.length_drop]; omega)
            have passed := offered.reports.passed
            apply Traces.pure
            rw [List.append_nil]
            exact ⟨⟨offered.kept, offered.allowed, .caused passed (offered.refused some rfl)⟩, nofun⟩
          · rename_i some
            refine (step _ (by omega) (written + count) offered.kept rfl).mono ?_
            rintro more outcome next ⟨drained, faults⟩
            refine ⟨offered.after extending rfl drained, fun reason ended => ?_⟩
            obtain ⟨panicked, beyond⟩ := faults reason ended
            refine ⟨panicked, fun inside => ?_⟩
            by_cases within : ∀ call ∈ calls, call.IsWithin
            · have accepted := offered.bounded within count rfl
              rw [List.length_drop] at accepted
              obtain ⟨call, member, outside⟩ := beyond (by omega)
              exact ⟨call, List.mem_append_right _ member, outside⟩
            · simp only [not_forall] at within
              obtain ⟨call, member, outside⟩ := within
              exact ⟨call, List.mem_append_left _ member, outside⟩
        · intro calls error middle offered
          apply Traces.pure
          rw [List.append_nil]
          exact ⟨⟨offered.kept, offered.allowed, offered.reports⟩, nofun⟩
        · intro calls next offered
          obtain ⟨_ | _, ended⟩ := offered.ends <;> cases ended
        · intro calls status next offered
          obtain ⟨_ | _, ended⟩ := offered.ends <;> cases ended

theorem faithful_writeThrough (faithful : Sink.Faithful δ keeps allowed cause)
    (extending : Extends allowed cause) (bytes : Bytes) :
    Faithful keeps allowed cause (fun _ => none) (writeThrough bytes : Act (δ × Machine) Unit) := by
  induction size : bytes.length using Nat.strongRecOn generalizing bytes with
  | ind size step =>
    subst size
    intro state kept
    unfold writeThrough
    by_cases nothing : bytes = []
    · rw [if_pos nothing]
      exact Faithful.pure rfl state kept
    · have positive := List.length_pos_iff.mpr nothing
      rw [if_neg nothing]
      apply (faithful bytes state kept).bind
      · intro calls count middle offered
        split
        · rename_i none
          subst none
          apply Traces.fault
          rw [List.append_nil]
          exact ⟨offered.kept, offered.allowed, .caused offered.reports.passed (offered.refused nothing rfl)⟩
        · split
          · apply Traces.fault
            rw [List.append_nil]
            exact ⟨offered.kept, offered.allowed, offered.reports⟩
          · have fewer : (bytes.drop count).length < bytes.length := by
              rw [List.length_drop]
              omega
            refine (step _ fewer _ rfl middle offered.kept).mono ?_
            intro more outcome next rest
            exact offered.after extending rfl rest
      · intro calls reason next offered
        refine ⟨offered.kept, offered.allowed, ?_⟩
        have reports := offered.reports
        cases reason <;> exact reports

/-- A flush is faithful, it never exits, and it panics only if a call is not within bounds. -/
theorem traces_flush (faithful : Sink.Faithful δ keeps allowed cause) (extending : Extends allowed cause)
    {state : Writer δ × Machine} (kept : DeviceKeeps keeps state) :
    (flush : Act (Writer δ × Machine) Unit).Traces state fun calls outcome next =>
      Faithfully (DeviceKeeps keeps) allowed cause (fun _ => none) calls outcome next ∧
        (outcome = .error .panic → ∃ call ∈ calls, ¬ call.IsWithin) ∧
        ∀ status, outcome ≠ .error (.exit status) := by
  have drained : (onDevice (drainFrom state.1.buffer 0) : Act (Writer δ × Machine) _).Traces state
      fun calls outcome next =>
        Faithfully (DeviceKeeps keeps) allowed cause (fun drained => attempted? drained.2) calls outcome next ∧
          ∀ reason, outcome = .error reason → reason = .panic ∧ ∃ call ∈ calls, ¬ call.IsWithin := by
    apply Traces.focus rfl (fun _ => rfl)
    refine (traces_drainFrom faithful extending state.1.buffer 0 kept).mono ?_
    rintro calls outcome next ⟨done, faults⟩
    refine ⟨⟨done.kept, done.allowed, done.reports⟩, fun reason ended => ?_⟩
    exact (faults reason ended).imp_right fun beyond => beyond (Nat.zero_le _)
  have flushes : (flush : Act (Writer δ × Machine) Unit) state =
      (onDevice (drainFrom state.1.buffer 0) >>= fun drained =>
        setBuffer (state.1.buffer.drop drained.1) >>= fun _ => Act.ofExcept drained.2) state := rfl
  apply Traces.congr flushes
  apply drained.bind
  · rintro calls ⟨written, ending⟩ middle ⟨done, -⟩
    have reports : Reports cause calls (attempted? ending) := done.reports
    apply Traces.of_still
    · cases ending <;> rfl
    · rw [List.append_nil]
      cases ending with
      | ok _ => exact ⟨⟨done.kept, done.allowed, reports⟩, nofun, nofun⟩
      | error error => exact ⟨⟨done.kept, done.allowed, reports⟩, nofun, nofun⟩
  · rintro calls reason next ⟨done, faults⟩
    obtain ⟨rfl, outside⟩ := faults reason rfl
    exact ⟨⟨done.kept, done.allowed, done.reports⟩, fun _ => outside, nofun⟩

theorem faithful_flush (faithful : Sink.Faithful δ keeps allowed cause) (extending : Extends allowed cause) :
    Faithful (DeviceKeeps keeps) allowed cause (fun _ => none) (flush : Act (Writer δ × Machine) Unit) :=
  fun _ kept => (traces_flush faithful extending kept).mono fun _ _ _ done => done.1

theorem faithful_place (faithful : Sink.Faithful δ keeps allowed cause) (extending : Extends allowed cause)
    (capacity : Nat) (bytes : Bytes) :
    Faithful (DeviceKeeps keeps) allowed cause (fun _ => none)
      (place capacity bytes : Act (Writer δ × Machine) Unit) := by
  unfold place
  split
  · exact faithful_onDevice (faithful_writeThrough faithful extending bytes)
  · exact .of_still fun state kept => ⟨rfl, kept, rfl⟩

theorem faithful_writeAll (faithful : Sink.Faithful δ keeps allowed cause) (extending : Extends allowed cause)
    (bytes : Bytes) : Faithful (DeviceKeeps keeps) allowed cause (fun _ => none)
      (writeAll bytes : Act (Writer δ × Machine) Unit) := by
  rw [writeAll_eq]
  apply faithful_self_bind
  intro writer
  split
  · exact (faithful_flush faithful extending).bind extending
      (fun _ _ => faithful_place faithful extending writer.capacity bytes) nofun
  · exact faithful_place faithful extending writer.capacity bytes

end Writer

namespace Format

/-- A value that passes errors on refuses to go on after a piece that is not taken. -/
def PassesOn : Format → Prop
  | .done => True
  | .refuse => True
  | .piece _ next => next false = .refuse ∧ (next true).PassesOn

/-- A value that refuses to go on although each of its pieces is taken. -/
def Refuses : Format → Prop
  | .done => False
  | .refuse => True
  | .piece _ next => (next true).Refuses

end Format

namespace Writer

variable [Sink δ]

/-- A formatted write is faithful if the value passes errors on, and a value that refuses has a cause. -/
theorem faithful_writeFormat (faithful : Sink.Faithful δ keeps allowed cause)
    (extending : Extends allowed cause) {format : Format}
    (refuses : format.Refuses → cause [] Errno.invalidArgument) (passes : format.PassesOn) :
    Faithful (DeviceKeeps keeps) allowed cause (fun _ => none)
      (writeFormat format : Act (Writer δ × Machine) Unit) := by
  change Faithful _ _ _ _ (writeFormat.go format none)
  induction format with
  | done => exact .pure rfl
  | refuse => exact .of_still_error (.fail _) (refuses trivial)
  | piece text next step =>
    apply (faithful_writeAll faithful extending text).attempt.bind extending
    · intro result fine
      cases result with
      | ok _ => exact step true refuses passes.2
      | error error => contradiction
    · intro result error failed
      cases failed' : result with
      | ok _ => rw [failed'] at failed; contradiction
      | error other =>
        rw [failed'] at failed
        cases failed
        change Still _ _ _ (writeFormat.go (next false) (some error))
        rw [passes.1]
        exact .fail error

end Writer

namespace Reader

/-- What holds of a reader holds of its device. -/
def DeviceKeeps (keeps : δ × Machine → Prop) (state : Reader δ × Machine) : Prop :=
  keeps (state.1.device, state.2)

theorem faithful_onDevice {α : Type} {failure : α → Option Errno} {act : Act (δ × Machine) α}
    (faithful : Faithful keeps allowed cause failure act) :
    Faithful (DeviceKeeps keeps) allowed cause failure (onDevice act) :=
  faithful.focus (fun _ => rfl) (fun _ _ => rfl) (fun _ kept => kept) fun _ _ _ kept => kept

theorem faithful_self_bind {α : Type} {failure : α → Option Errno} {next : Reader δ → Act (Reader δ × Machine) α}
    (faithful : ∀ reader, Faithful (DeviceKeeps keeps) allowed cause failure (next reader)) :
    Faithful (DeviceKeeps keeps) allowed cause failure (self >>= next) := fun state kept =>
  faithful state.1 state kept

/-- Taking unread bytes and then giving a value is still. -/
theorem still_consume_bind {α : Type} {failure : α → Option Errno} {error? : Option Errno} (amount : Nat)
    {next : Unit → Act (Reader δ × Machine) α} (still : Still (DeviceKeeps keeps) failure error? (next ())) :
    Still (DeviceKeeps keeps) failure error? (consume amount >>= next) := fun state kept =>
  still (state.1.past amount, state.2) kept

theorem faithful_consume_bind {α : Type} {failure : α → Option Errno} (amount : Nat)
    {next : Unit → Act (Reader δ × Machine) α}
    (faithful : Faithful (DeviceKeeps keeps) allowed cause failure (next ())) :
    Faithful (DeviceKeeps keeps) allowed cause failure (consume amount >>= next) := fun state kept =>
  faithful (state.1.past amount, state.2) kept

variable [Source δ]

theorem faithful_fill (faithful : Source.Faithful δ keeps allowed cause) :
    Faithful (DeviceKeeps keeps) allowed cause (fun _ => none) (fill : Act (Reader δ × Machine) Unit) := by
  apply faithful_self_bind
  intro reader
  split
  · apply (faithful_onDevice (faithful reader.buffer)).followed
    rintro ⟨filled, count⟩ state kept
    cases count with
    | error error => exact ⟨rfl, kept, rfl⟩
    | ok count =>
      simp only [change, Act.ofExcept, Act.bind_apply, Act.modify_apply, Act.pure_apply]
      split
      · exact ⟨rfl, kept, rfl⟩
      · exact ⟨rfl, kept, rfl⟩
  · exact .pure rfl

theorem faithful_available (faithful : Source.Faithful δ keeps allowed cause) :
    Faithful (DeviceKeeps keeps) allowed cause (fun _ => none) (available : Act (Reader δ × Machine) Bytes) :=
  (faithful_fill faithful).followed fun _ _ kept => ⟨rfl, kept, rfl⟩

/-- A read is faithful, and what it gives holds the error. -/
theorem faithful_read (faithful : Source.Faithful δ keeps allowed cause) (out : Bytes) :
    Faithful (DeviceKeeps keeps) allowed cause (fun reading => attempted? reading.count)
      (read out : Act (Reader δ × Machine) Reading) := by
  apply faithful_self_bind
  intro reader
  split
  · exact faithful_onDevice (faithful out)
  · apply (faithful_available faithful).attempt.followed
    intro result
    cases result with
    | error error => exact .pure _
    | ok bytes => exact still_consume_bind _ (.pure _)

/-- Filling a buffer is faithful, and input that ends before has a cause. -/
theorem faithful_fillFrom (faithful : Source.Faithful δ keeps allowed cause)
    (extending : Extends allowed cause) (ended : cause [] Errno.noData) (rounds : Nat) (out : Bytes) :
    Faithful (DeviceKeeps keeps) allowed cause (fun collected => attempted? collected.ending)
      (readExact.fillFrom rounds out : Act (Reader δ × Machine) Collected) := by
  induction rounds generalizing out with
  | zero => exact .pure rfl
  | succ rounds step =>
    unfold readExact.fillFrom
    split
    · exact .pure rfl
    · apply (faithful_read faithful out).bind extending
      · rintro ⟨filled, count⟩ fine
        cases count with
        | error error => contradiction
        | ok count =>
          dsimp only
          split
          · exact .of_still_error (.pure _) ended
          · split
            · exact .panic
            · exact (step (filled.drop count)).followed fun rest => .pure _
      · rintro ⟨filled, count⟩ error failed
        cases count with
        | error other => cases failed; exact .pure _
        | ok count => contradiction

theorem faithful_collect (faithful : Source.Faithful δ keeps allowed cause)
    (extending : Extends allowed cause) (delimiter : UInt8) (rounds total : Nat) :
    Faithful (DeviceKeeps keeps) allowed cause (fun appended => attempted? appended.count)
      (readUntil.collect delimiter rounds total : Act (Reader δ × Machine) (Appended Bytes)) := by
  induction rounds generalizing total with
  | zero => exact .pure rfl
  | succ rounds step =>
    unfold readUntil.collect
    apply (faithful_available faithful).attempt.bind extending
    · intro result fine
      cases result with
      | error error => contradiction
      | ok bytes =>
        cases bytes with
        | nil => exact .pure rfl
        | cons first rest =>
          dsimp only
          split
          · exact .of_still (still_consume_bind _ (.pure _))
          · apply faithful_consume_bind
            exact (step _).followed fun rest => .pure _
    · intro result error failed
      cases result with
      | error other => cases failed; exact .pure _
      | ok bytes => contradiction

theorem faithful_readUntil (faithful : Source.Faithful δ keeps allowed cause)
    (extending : Extends allowed cause) (delimiter : UInt8) (out : Bytes) :
    Faithful (DeviceKeeps keeps) allowed cause (fun appended => attempted? appended.count)
      (readUntil delimiter out : Act (Reader δ × Machine) (Appended Bytes)) := fun state kept =>
  (faithful_collect faithful extending delimiter (Source.reserve state.1.device state.2 + 2) 0).followed
    (fun appended => .pure (Appended.mk (out ++ appended.out) appended.count)) state kept

/-- A read of a line is faithful, and a line that is no text has a cause. -/
theorem faithful_readLine (faithful : Source.Faithful δ keeps allowed cause)
    (extending : Extends allowed cause) (garbled : cause [] Errno.illegalSequence) (out : String) :
    Faithful (DeviceKeeps keeps) allowed cause (fun line => attempted? line.count)
      (readLine out : Act (Reader δ × Machine) (Appended String)) := by
  apply (faithful_readUntil faithful extending lineEnd []).bind extending
  · rintro ⟨bytes, count⟩ fine
    cases count with
    | error error => contradiction
    | ok count =>
      dsimp only
      split
      · exact .pure rfl
      · exact .of_still_error (.pure _) garbled
  · rintro ⟨bytes, count⟩ error failed
    cases count with
    | error other => cases failed; exact .pure _
    | ok count => contradiction

end Reader

end LinuxCalls
