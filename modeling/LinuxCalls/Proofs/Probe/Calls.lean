/-
This file says what the calls of the probe ensure while the kernel answers fairly. None of them panics, and
only a write to the standard output changes what that output shows.
-/

import LinuxCalls.Proofs.Calls.Policy
import LinuxCalls.Proofs.Probe.Fair
import LinuxCalls.Probe

namespace LinuxCalls

open Act (Ensures Keeps Settled Succeeds)

variable {shown : Bytes}

namespace Machine

/-- What holds of a machine withstands complaints if it goes on to hold after them. -/
def Withstands (keeps : Machine → Prop) : Prop :=
  ∀ before after, keeps before → before.OnlyComplains after → keeps after

/-- What a machine shows withstands complaints. -/
theorem Shows.withstands : Withstands (Shows shown) := fun _ _ shows complains => shows.complain complains

/-- A request was answered with a word, and what it has written is shown. -/
structure Answered (request : Request) (word : UInt64) (shown : Bytes) (machine : Machine) : Prop where
  noted : request.answered word ∈ machine.journal
  shows : machine.Shows (shown ++ (request.answered word).accepted Descriptor.output)

/-- An answered request withstands complaints. -/
theorem Answered.withstands {request : Request} {word : UInt64} : Withstands (Answered request word shown) :=
  fun _ _ answered complains => ⟨complains.grown.subset answered.noted, answered.shows.complain complains⟩

/-- A fair kernel has not reported more bytes to the log than it was given. -/
theorem IsFair.not_overreported {machine : Machine} (fair : machine.IsFair) : ¬ Log.Overreported machine := by
  rintro ⟨bytes, word, count, member, decoded, beyond⟩
  have within := (fair _ member).within (Log.request bytes) word count rfl (.inr rfl) decoded
  have bound := Nat.le_trans (UInt64.le_iff_toNat_le.mp within) (Log.toNat_register_request_le bytes)
  omega

end Machine

open Machine (Shows Answered Withstands)

/-- A record is written without a panic. -/
theorem Log.ensures_tell (level : Level) (message : String) {keeps : Machine → Prop}
    (withstands : Withstands keeps) :
    (tell level message).Ensures keeps (Succeeds fun _ next => keeps next) := by
  refine ⟨Act.grows_tell level message, fun machine holds fair => ?_⟩
  rcases tell_ends level message machine with ⟨next, told, complains⟩ | ⟨-, -, overreported⟩
  · rw [told]
    exact withstands machine next holds complains
  · exact absurd overreported fair.not_overreported

/-- A request that does not end the process is answered. -/
theorem ensures_perform {request : Request} (stays : request.number ≠ CallKind.exit.number) :
    (perform request).Ensures (Shows shown) (Succeeds fun reply => Answered request reply.word shown) := by
  refine ⟨Act.grows_perform request, fun machine shows _ => ?_⟩
  rw [perform_of_ne_exit stays]
  exact ⟨List.mem_cons_self, shows.of_cons rfl (beq_eq_false_iff_ne.mpr stays)⟩

namespace CallKind

variable {kind : CallKind} {registers : List Register}

/-- One attempt is announced, answered and reported. -/
theorem ensures_attemptOnce (stays : kind ≠ .exit) : (attemptOnce Log.tell kind registers).Ensures (Shows shown)
    (Succeeds fun completion next => ∃ word, completion.result = RawReturn.decode word ∧
      next.Answered ⟨kind.number, registers⟩ word shown) := by
  refine (Log.ensures_tell _ _ Shows.withstands).bind_settled fun _ => ?_
  refine (ensures_perform (number_inj.not.mpr stays)).bind_settled fun reply => ?_
  refine (Log.ensures_tell _ _ Answered.withstands).bind_settled fun _ => ?_
  exact .pure fun _ answered => ⟨reply.word, rfl, answered⟩

/-- A completion is passed on, whether it is reported as interrupted or not. -/
theorem ensures_settle (completion : Completion) {keeps : Machine → Prop} (withstands : Withstands keeps) :
    (attemptAgain.settle Log.tell kind completion).Ensures keeps
      (Succeeds fun settled next => settled = completion ∧ keeps next) := by
  unfold attemptAgain.settle
  split
  · exact (Log.ensures_tell _ _ withstands).bind_settled fun _ => .pure fun _ holds => ⟨rfl, holds⟩
  · exact .pure fun _ holds => ⟨rfl, holds⟩

/-- A call that is never tried again completes with its one answer. -/
theorem ensures_complete (stays : kind ≠ .exit) (never : kind ≠ .duplicateOnto)
    (few : registers.length ≤ registerCount) : (kind.complete registers).Ensures (Shows shown)
      (Succeeds fun completion next => ∃ word, completion.result = RawReturn.decode word ∧
        next.Answered ⟨kind.number, padded registers⟩ word shown) := by
  rw [complete, issue, if_neg (Nat.not_lt.mpr few), attemptAgain_of_never never]
  refine (ensures_attemptOnce stays).bind_settled fun completion => ?_
  have withstands : Withstands fun machine => ∃ word, completion.result = RawReturn.decode word ∧
      machine.Answered ⟨kind.number, padded registers⟩ word shown := by
    rintro before after ⟨word, same, answered⟩ complains
    exact ⟨word, same, Answered.withstands before after answered complains⟩
  refine (ensures_settle completion withstands).settle ?_ (fun _ _ _ => id) fun _ _ => id
  rintro settled next - ⟨rfl, answered⟩
  exact answered

/-- A call that is never tried again gives the value or the error that its one answer stands for. -/
theorem ensures_invoke (stays : kind ≠ .exit) (never : kind ≠ .duplicateOnto)
    (few : registers.length ≤ registerCount) : (kind.invoke registers).Ensures (Shows shown)
      (Settled
        (fun value next => RawReturn.decode value = .ok value ∧
          next.Answered ⟨kind.number, padded registers⟩ value shown)
        (fun error next => ∃ word, RawReturn.decode word = .error error ∧
          next.Answered ⟨kind.number, padded registers⟩ word shown)
        fun _ _ => False) := by
  refine (ensures_complete stays never few).bind (fun completion => ?_) fun reason next settled => ?_
  · cases ended : completion.result with
    | ok value =>
      refine .pure ?_
      rintro machine ⟨word, decoded, answered⟩
      rw [ended] at decoded
      obtain ⟨rfl, -⟩ := RawReturn.eq_of_decode_eq_ok decoded.symm
      exact ⟨decoded.symm, answered⟩
    | error error =>
      refine .fault ?_
      rintro machine ⟨word, decoded, answered⟩
      exact ⟨word, (ended ▸ decoded).symm, answered⟩
  · cases reason <;> exact absurd settled id

/-- A plain call comes back, is never tried again and does not write at the offset of a file. -/
def IsPlain (kind : CallKind) : Prop := kind ≠ .exit ∧ kind ≠ .duplicateOnto ∧ kind ≠ .write

instance (kind : CallKind) : Decidable kind.IsPlain := inferInstanceAs (Decidable (_ ∧ _ ∧ _))

end CallKind

/-- A call that is no write leaves what is shown as it is. -/
theorem Machine.Answered.shows_of_ne_write {kind : CallKind} {registers : List Register} {word : UInt64}
    {machine : Machine} (answered : machine.Answered ⟨kind.number, registers⟩ word shown)
    (silent : kind ≠ .write) : machine.Shows shown := by
  have nothing : (Request.answered ⟨kind.number, registers⟩ word).accepted Descriptor.output = [] := by
    unfold Event.accepted
    split
    · rename_i question given
      injection question with same
      injection same with same
      exact if_neg fun written => silent (CallKind.number_inj.mp (same.trans written.1))
    · rfl
  rw [← List.append_nil shown, ← nothing]
  exact answered.shows

namespace CallKind

variable {kind : CallKind} {registers : List Register}

theorem keeps_collect (plain : kind.IsPlain) (few : registers.length ≤ registerCount) :
    (kind.collect registers).Keeps True (Shows shown) fun _ => True := by
  have completes : (kind.complete registers).Keeps True (Shows shown) fun _ => True := by
    refine .of_succeeds ((ensures_complete plain.1 plain.2.1 few).settle ?_ (fun _ _ _ => id) fun _ _ => id)
    rintro completion next - ⟨word, -, answered⟩
    exact ⟨trivial, answered.shows_of_ne_write plain.2.2⟩
  exact completes.bind fun completion => (Keeps.ofExcept fun _ _ => trivial).bind fun _ => .pure trivial

end CallKind

namespace Descriptor

/-- The standard output accepts the front of what is written to it, and nothing that is written elsewhere. -/
theorem accepted_writing (descriptor : Descriptor) (bytes : Bytes) (word : UInt64) :
    ((writing descriptor bytes).answered word).accepted output =
      if descriptor = output ∧ word.toNat ≤ bytes.length then bytes.take word.toNat else [] := by
  change (if CallKind.write.number = CallKind.write.number ∧ _ then _ else _) = _
  simp only [ofInt32_inj, true_and]

/-- A write is answered with a count or with an error. -/
theorem ensures_write (descriptor : Descriptor) (bytes : Bytes) : (write descriptor bytes).Ensures (Shows shown)
    (Settled
      (fun count next => ∃ word, RawReturn.decode word = .ok word ∧ count = word.toNat ∧
        next.Answered (writing descriptor bytes) word shown)
      (fun error next => ∃ word, RawReturn.decode word = .error error ∧
        next.Answered (writing descriptor bytes) word shown)
      fun _ _ => False) := by
  refine (CallKind.ensures_invoke (by decide) (by decide) (by simp [CallKind.registerCount])).bind_settled
    fun word => ?_
  exact .pure fun _ holds => ⟨word, holds.1, rfl, holds.2⟩

/-- A fair kernel accepts at most the bytes that it was given. -/
theorem toNat_le_of_answered {descriptor : Descriptor} {bytes : Bytes} {word : UInt64} {machine : Machine}
    (answered : machine.Answered (writing descriptor bytes) word shown) (fair : machine.IsFair)
    (decoded : RawReturn.decode word = .ok word) : word.toNat ≤ bytes.length :=
  Nat.le_trans (UInt64.le_iff_toNat_le.mp ((fair _ answered.noted).within _ word word rfl (.inr rfl) decoded))
    (toNat_register_writing_le descriptor bytes)

theorem keeps_write {descriptor : Descriptor} (elsewhere : descriptor ≠ output) (bytes : Bytes) :
    (write descriptor bytes).Keeps True (Shows shown) fun count => count ≤ bytes.length := by
  have still {word : UInt64} {machine : Machine}
      (answered : machine.Answered (writing descriptor bytes) word shown) : machine.Shows shown := by
    have shows := answered.shows
    rwa [accepted_writing, if_neg fun written => elsewhere written.1, List.append_nil] at shows
  refine (ensures_write descriptor bytes).settle ?_ ?_ fun _ _ => id
  · rintro count next fair ⟨word, decoded, rfl, answered⟩
    exact ⟨toNat_le_of_answered answered fair decoded, still answered⟩
  · rintro error next - ⟨word, -, answered⟩
    exact ⟨trivial, still answered⟩

/-- A write to the standard output never fails, and the bytes that it has accepted are shown. -/
theorem ensures_write_output (bytes : Bytes) : (write output bytes).Ensures (Shows shown)
    (Succeeds fun count next => 0 < count ∧ count ≤ bytes.length ∧ next.Shows (shown ++ bytes.take count)) := by
  refine (ensures_write output bytes).settle ?_ ?_ fun _ _ => id
  · rintro count next fair ⟨word, decoded, rfl, answered⟩
    have within := toNat_le_of_answered answered fair decoded
    obtain ⟨value, accepted, some⟩ := (fair _ answered.noted).accepts bytes word rfl
    cases decoded.symm.trans accepted
    have shows := answered.shows
    rw [accepted_writing, if_pos ⟨rfl, within⟩] at shows
    exact ⟨Nat.pos_of_ne_zero fun none => some (UInt64.toNat_inj.mp none), within, shows⟩
  · rintro error next fair ⟨word, failed, answered⟩
    obtain ⟨value, accepted, -⟩ := (fair _ answered.noted).accepts bytes word rfl
    rw [failed] at accepted
    contradiction

end Descriptor

namespace Guard

end Guard

namespace Mapping

end Mapping

namespace SignalMask

theorem keeps_change (how : MaskChange) (set : SignalSet) :
    (change how set).Keeps True (Shows shown) fun _ => True :=
  (CallKind.keeps_collect (by decide) (by simp [CallKind.registerCount])).bind fun _ => .pure trivial

end SignalMask

namespace Process

/-- An exit ends the process, and it leaves nothing behind but the request for it. -/
theorem ensures_exit {α : Type} (code : Int32) : (exit code : Sys α).Ensures (Shows shown)
    (Settled (fun _ _ => False) (fun _ _ => False) fun status next =>
      status = (Register.ofInt32 code).value ∧ next.HasLeft code shown) := by
  have left (machine : Machine) : (exit code : Sys α) machine =
      (.error (.exit (Register.ofInt32 code).value), machine.note (Machine.leaving code).question none) :=
    Act.bind_of_fault _ (perform_of_exit rfl machine)
  refine ⟨fun machine => ?_, fun machine shows _ => ?_⟩
  · rw [left]
    exact List.suffix_cons _ _
  · rw [left]
    refine ⟨rfl, ?_, machine.events, List.reverse_cons, fun event member =>
      shows.stays event (List.mem_reverse.mp member)⟩
    rw [← shows.accepted]
    simp [Machine.accepted, Machine.events, Machine.note, Event.accepted, Machine.leaving]

end Process

namespace Complaint

/-- A complaint is no report, so it shows nothing on the standard output, and writing it never fails. -/
theorem keeps_push (bytes : Bytes) {mayFail : Prop} : (push bytes).Keeps mayFail (Shows shown) fun _ => True := by
  -- Each write that accepts something leaves fewer bytes for the next one.
  induction size : bytes.length using Nat.strongRecOn generalizing bytes with
  | ind size step =>
    subst size
    unfold push
    have elsewhere : Descriptor.complaints ≠ Descriptor.output := by decide
    refine (Descriptor.keeps_write elsewhere bytes).attempt_bind fun result => ?_
    cases result with
    | error error => exact .frame _ (.pure trivial)
    | ok count =>
      dsimp only
      split
      · exact .frame _ (.pure trivial)
      · rename_i some
        split
        · rename_i beyond
          exact .of_unreachable (fun _ => List.suffix_refl _) fun _ holds => by
            have within := holds.1 count rfl
            omega
        · split
          · exact .frame _ (.pure trivial)
          · exact .frame _ (step _ (by rw [List.length_drop]; omega) _ rfl)

/-- What is shown when a complaint has ended the process. -/
def HasDied (shown : Bytes) (status : UInt64) (machine : Machine) : Prop := status = 1 ∧ machine.HasLeft 1 shown

/-- A process that cannot go on complains and exits with code 1. -/
theorem ensures_die {α : Type} (context : String) (error : Errno) :
    (die context error : Sys α).Ensures (Shows shown)
      (Settled (fun _ _ => False) (fun _ _ => False) (HasDied shown)) := by
  have pushes : (push (Bytes.ofText (line context error))).Keeps False (Shows shown) fun _ => True := keeps_push _
  refine Ensures.bind (Keeps.succeeds pushes) (fun _ => ?_) fun reason next settled => ?_
  · exact (Process.ensures_exit 1).assuming fun _ => And.right
  · cases reason <;> exact absurd settled id

theorem grows_die {α : Type} (context : String) (error : Errno) : (die context error : Sys α).Grows := by
  have dies : (die context error : Sys α).Ensures (Shows []) _ := ensures_die context error
  exact dies.grows

/-- An action whose error ends the process gives a value or leaves. -/
theorem ensures_orDie {α : Type} {act : Sys α} {good : α → Prop} {mayFail : Prop} (context : String)
    (kept : act.Keeps mayFail (Shows shown) good) : (orDie act context).Ensures (Shows shown)
      (Settled (fun value next => good value ∧ next.Shows shown) (fun _ _ => False) (HasDied shown)) := by
  have attempted := (Ensures.attempt kept).settle (fun _ _ _ holds => holds) (fun _ _ _ => id)
    fun status next (none : False) => (none.elim : HasDied shown status next)
  refine attempted.bind_settled fun result => ?_
  cases result with
  | ok value => exact .pure fun _ holds => holds
  | error error =>
    refine (ensures_die context error).mono (fun _ holds => holds.2) fun _ _ settled => ?_
    exact settled.mono (fun _ => False.elim) (fun _ => id) fun _ => id

end Complaint

end LinuxCalls
