/-
This file shows that the log is transparent: with lawful answers it always comes to an end without
a fault, and it leaves nothing behind but complaints in the journal and used answers to them.
-/

import LinuxCalls.Proofs.Log.Transparent

namespace LinuxCalls

namespace Machine

/-- A machine has only complained since an earlier one. -/
structure OnlyComplains (before after : Machine) : Prop where
  recording : after.recording = before.recording
  threshold : after.threshold = before.threshold
  memory : after.memory = before.memory
  agrees : before.script.AgreesBesideComplaints after.script
  lawful : before.script.Lawful → after.script.Lawful
  asked : Event.withoutComplaints after.journal = Event.withoutComplaints before.journal
  grown : before.journal <:+ after.journal

theorem OnlyComplains.refl (machine : Machine) : machine.OnlyComplains machine :=
  ⟨rfl, rfl, rfl, fun _ _ => rfl, id, rfl, List.suffix_refl _⟩

theorem OnlyComplains.trans {first second third : Machine} (head : first.OnlyComplains second)
    (tail : second.OnlyComplains third) : first.OnlyComplains third where
  recording := tail.recording.trans head.recording
  threshold := tail.threshold.trans head.threshold
  memory := tail.memory.trans head.memory
  agrees channel other := (head.agrees channel other).trans (tail.agrees channel other)
  lawful := tail.lawful ∘ head.lawful
  asked := tail.asked.trans head.asked
  grown := head.grown.trans tail.grown

/-- Complaints do not make a difference to a quiet machine. -/
theorem Alike.complain {quiet loud next : Machine} (alike : quiet.Alike loud)
    (complains : loud.OnlyComplains next) : quiet.Alike next where
  off := alike.off
  idle := complains.recording.trans alike.idle
  memory := complains.memory.trans alike.memory
  agrees channel other := (alike.agrees channel other).trans (complains.agrees channel other)
  lawful := complains.lawful alike.lawful
  asked := complains.asked.trans alike.asked

end Machine

namespace Log

/-- The request that the log makes of some bytes. -/
def request (bytes : Bytes) : Request :=
  ⟨CallKind.write.number, CallKind.padded [.ofInt32 complaints, .data bytes, .ofLength bytes.length]⟩

/-- The log's requests are complaints. -/
theorem ofRequest_request (bytes : Bytes) : Channel.ofRequest (request bytes) = .complaints := by
  rw [Request.ofRequest_eq_complaints_iff]
  rfl

/-- The log offers as many bytes as a word can count. -/
theorem toNat_register_request_le (bytes : Bytes) : ((request bytes).register 2).toNat ≤ bytes.length := by
  change (UInt64.ofNat bytes.length).toNat ≤ bytes.length
  rw [UInt64.toNat_ofNat']
  exact Nat.mod_le _ _

/-- A word that bounds itself by the bytes offered counts at most those, unless it is an error. -/
theorem toNat_le_of_bounded {bytes : Bytes} {word count : UInt64}
    (lawful : -Errno.largest.toInt64 ≤ word.toInt64 ∨ word ≤ (request bytes).register 2)
    (decoded : RawReturn.decode (Machine.boundedWord .complaints (request bytes) word) = .ok count) :
    count.toNat ≤ bytes.length := by
  refine Nat.le_trans ?_ (toNat_register_request_le bytes)
  obtain ⟨rfl, noError⟩ := RawReturn.eq_of_decode_eq_ok decoded
  apply UInt64.le_iff_toNat_le.mp
  unfold Machine.boundedWord at noError ⊢
  split
  · exact UInt64.le_refl _
  · rename_i notBeyond
    rw [if_neg notBeyond] at noError
    rcases lawful with least | small
    · have notNegative : 0 ≤ word.toInt64 := Int64.not_lt.mp fun negative => noError ⟨least, negative⟩
      exact UInt64.not_lt.mp fun more => notBeyond ⟨rfl, notNegative, more⟩
    · exact small

/-- A lawful reply to a complaint counts at most the bytes offered. -/
theorem toNat_le_of_reply {bytes : Bytes} {answer : Option Answer} {count : UInt64}
    (lawful : ∀ given, answer = some given → given.IsLawful)
    (decoded : RawReturn.decode (Machine.replyOf .complaints (request bytes) answer).word = .ok count) :
    count.toNat ≤ bytes.length := by
  cases answer with
  | none =>
    refine Nat.le_trans ?_ (toNat_register_request_le bytes)
    obtain ⟨rfl, -⟩ := RawReturn.eq_of_decode_eq_ok decoded
    exact Nat.le_refl _
  | some answer =>
    refine toNat_le_of_bounded ?_ decoded
    cases named : answer.word with
    | some word => exact .inl (lawful answer rfl word named)
    | none =>
      right
      change Machine.impliedWord .complaints (request bytes) answer ≤ _
      unfold Machine.impliedWord
      cases answer.most with
      | none => exact UInt64.le_refl _
      | some most => exact Std.min_le_left

/-- The kernel has reported more bytes to the log than it was given. -/
def Overreported (machine : Machine) : Prop :=
  ∃ bytes word count, ⟨.kernel (request bytes), some word⟩ ∈ machine.journal ∧
    RawReturn.decode word = .ok count ∧ bytes.length < count.toNat

/-- The kernel's answer to the log is a complaint and nothing else, and lawful answers are bounded. -/
theorem perform_request (bytes : Bytes) (loud : Machine) :
    ∃ reply next, perform (request bytes) loud = (.ok reply, next) ∧ loud.OnlyComplains next ∧
      ⟨.kernel (request bytes), some reply.word⟩ ∈ next.journal ∧
      (loud.script.Lawful → ∀ count, RawReturn.decode reply.word = .ok count → count.toNat ≤ bytes.length) := by
  have noExit : (request bytes).number ≠ CallKind.exit.number := by
    change CallKind.write.number ≠ CallKind.exit.number
    decide
  refine ⟨_, _, perform_of_ne_exit noExit loud, ?_, List.mem_cons_self, fun lawful count decoded => ?_⟩
  · refine ⟨rfl, rfl, rfl, ?_, fun lawful => ?_, ?_, List.suffix_cons _ _⟩
    · change loud.script.AgreesBesideComplaints (loud.script.next (Channel.ofRequest (request bytes))).2
      rw [ofRequest_request]
      exact loud.script.agreesBesideComplaints_next
    · exact lawful.next _
    · have complains : (request bytes).isComplaint = true := rfl
      exact List.filter_cons_of_neg (by simp [Question.isComplaint, complains])
  · have replied : RawReturn.decode
        (Machine.replyOf .complaints (request bytes) (loud.script.next .complaints).1).word = .ok count := by
      rw [← ofRequest_request bytes]
      exact decoded
    exact toNat_le_of_reply (fun given found => lawful given (List.mem_of_mem_head? found)) replied

/-- A write that nobody listens to is put to the kernel once. -/
theorem attemptAgain_silent (registers : List Register) (left : Nat) :
    CallKind.attemptAgain Listener.silent .write registers left = (do
      let reply ← perform ⟨CallKind.write.number, registers⟩
      return ⟨RawReturn.decode reply.word, reply.stored⟩) := by
  have once : CallKind.attemptOnce Listener.silent .write registers = (do
      let reply ← perform ⟨CallKind.write.number, registers⟩
      return ⟨RawReturn.decode reply.word, reply.stored⟩) := by
    simp only [CallKind.attemptOnce, Listener.silent, pure_bind]
  have settled (completion : Completion) :
      CallKind.attemptAgain.settle Listener.silent .write completion = pure completion := by
    simp only [CallKind.attemptAgain.settle, Listener.silent, pure_bind, ite_self]
  have never : (Policy.of .write).retry ≠ .whenBusy := by decide
  cases left with
  | zero => simp only [CallKind.attemptAgain, once, settled, bind_assoc, pure_bind]
  | succ left =>
    simp only [CallKind.attemptAgain, once, settled, never, and_false, if_false, bind_assoc, pure_bind]

/-- A write of the log is one request. -/
theorem writeQuietly_eq (bytes : Bytes) : writeQuietly bytes = (do
    let reply ← perform (request bytes)
    Act.ofExcept (RawReturn.decode reply.word)) := by
  have few : ¬ CallKind.registerCount <
      [Register.ofInt32 complaints, .data bytes, .ofLength bytes.length].length := by simp [CallKind.registerCount]
  rw [writeQuietly, CallKind.issue, if_neg few, attemptAgain_silent, bind_assoc]
  rfl

/-- An attempt at a write of the log decodes the word that comes back. -/
theorem attempt_writeQuietly {bytes : Bytes} {reply : Reply} {loud next : Machine}
    (performed : perform (request bytes) loud = (.ok reply, next)) :
    (writeQuietly bytes).attempt loud = (.ok (RawReturn.decode reply.word), next) := by
  have written : writeQuietly bytes loud = Act.ofExcept (RawReturn.decode reply.word) next := by
    rw [writeQuietly_eq]
    exact Act.bind_of_ok _ performed
  exact Act.attempt_of_ofExcept written

/-- A write of the log ends with a count or with an error, and only unlawful answers go beyond the bytes. -/
theorem writeQuietly_complains (bytes : Bytes) (loud : Machine) :
    ∃ result next, (writeQuietly bytes).attempt loud = (.ok result, next) ∧ loud.OnlyComplains next ∧
      ∀ count, result = .ok count → bytes.length < count.toNat →
        ¬ loud.script.Lawful ∧ Overreported next := by
  obtain ⟨reply, next, performed, complains, noted, bounded⟩ := perform_request bytes loud
  refine ⟨RawReturn.decode reply.word, next, attempt_writeQuietly performed, complains, ?_⟩
  intro count decoded beyond
  exact ⟨fun lawful => Nat.not_lt.mpr (bounded lawful count decoded) beyond,
    bytes, reply.word, count, noted, decoded, beyond⟩

/-- A panic of the log is due to an unlawful answer that reports more bytes than it was given. -/
def Ends (before after : Machine) (outcome : Except Fault Unit) : Prop :=
  outcome = .ok () ∨ outcome = .error .panic ∧ ¬ before.script.Lawful ∧ Overreported after

/-- A delivery only complains, and it ends without a fault unless an answer is unlawful. -/
theorem deliverWithin_complains (patience : Nat) (bytes : Bytes) (loud : Machine) :
    ∃ outcome next, deliverWithin patience bytes loud = (outcome, next) ∧ loud.OnlyComplains next ∧
      Ends loud next outcome := by
  induction patience generalizing bytes loud with
  | zero => exact ⟨.ok (), loud, rfl, .refl loud, .inl rfl⟩
  | succ patience step =>
    unfold deliverWithin
    by_cases done : bytes = []
    · rw [if_pos done]
      exact ⟨.ok (), loud, rfl, .refl loud, .inl rfl⟩
    · obtain ⟨result, middle, written, complains, bounded⟩ := writeQuietly_complains bytes loud
      rw [if_neg done, Act.bind_of_ok _ written]
      have onwards (left : Bytes) : ∃ outcome next, deliverWithin patience left middle = (outcome, next) ∧
          loud.OnlyComplains next ∧ Ends loud next outcome := by
        obtain ⟨outcome, next, delivered, more, ended⟩ := step left middle
        have ends : Ends loud next outcome := ended.imp_right fun ⟨panicked, unlawful, overreported⟩ =>
          ⟨panicked, fun lawful => unlawful (complains.lawful lawful), overreported⟩
        exact ⟨outcome, next, delivered, complains.trans more, ends⟩
      cases result with
      | ok count =>
        dsimp only
        by_cases refused : count = 0
        · rw [if_pos refused]
          exact ⟨.ok (), middle, rfl, complains, .inl rfl⟩
        · rw [if_neg refused]
          by_cases beyond : bytes.length < count.toNat
          · rw [if_pos beyond]
            exact ⟨.error .panic, middle, rfl, complains, .inr ⟨rfl, bounded count rfl beyond⟩⟩
          · rw [if_neg beyond]
            exact onwards _
      | error error =>
        dsimp only
        split
        · exact onwards _
        · exact ⟨.ok (), middle, rfl, complains, .inl rfl⟩

/-- A delivery with the patience of the log only complains, too. -/
theorem deliver_complains (bytes : Bytes) (loud : Machine) :
    ∃ outcome next, deliver bytes loud = (outcome, next) ∧ loud.OnlyComplains next ∧ Ends loud next outcome :=
  deliverWithin_complains (bytes.length + loud.script.uses .complaints + 1) bytes loud

/--
A backend that takes a record raises the flag, makes the message, delivers the line and lowers the flag again. The
message does not touch the machine while the flag is up.
-/
theorem log_of_admitted {backend : Backend} {level : Level} (target : String) {message : Sys String}
    {text : String} {loud : Machine} (admitted : backend.threshold.admits level = true)
    (idle : loud.recording = false)
    (made : message { loud with recording := true } = (.ok text, { loud with recording := true })) :
    backend.log level target message loud =
      (deliver (Bytes.ofText (line level target text)) >>= fun _ =>
        Act.modify fun machine => { machine with recording := false }) { loud with recording := true } := by
  unfold Backend.log
  rw [if_pos admitted, Act.bind_of_ok _ (Act.get_apply loud), idle]
  change (Act.modify (fun machine => { machine with recording := true }) >>= fun _ => _) loud = _
  rw [Act.bind_of_ok _ (Act.modify_apply _ loud), Act.bind_of_ok _ made]

/-- A record that the threshold admits while none is being written is delivered with the flag up. -/
theorem tell_of_admitted {level : Level} (message : String) {loud : Machine}
    (admitted : loud.threshold.admits level = true) (idle : loud.recording = false) :
    tell level message loud =
      (deliver (Bytes.ofText (line level target message)) >>= fun _ =>
        Act.modify fun machine => { machine with recording := false }) { loud with recording := true } := by
  have installs : installed.threshold.admits level = true := by cases level <;> rfl
  rw [tell, record, Act.bind_of_ok _ (Act.get_apply loud), if_pos admitted]
  exact log_of_admitted target installs idle (Act.pure_apply _ _)

/-- A record that the threshold does not admit is not taken. -/
theorem tell_of_refused {level : Level} (message : String) {loud : Machine}
    (refused : ¬ loud.threshold.admits level = true) : tell level message loud = (.ok (), loud) := by
  simp only [tell, record, Act.bind_apply, Act.get_apply, if_neg refused, Act.pure_apply]

/--
A record that arrives while none is being written only complains and leaves none being written, or
an unlawful answer ends it with a panic.
-/
theorem tell_complains (level : Level) (message : String) {loud : Machine} (idle : loud.recording = false) :
    (∃ next, tell level message loud = (.ok (), next) ∧ loud.OnlyComplains next) ∨
      (tell level message loud).1 = .error .panic ∧ loud.threshold ≠ .off ∧ ¬ loud.script.Lawful ∧
        Overreported (tell level message loud).2 := by
  by_cases admitted : loud.threshold.admits level = true
  · let raised : Machine := { loud with recording := true }
    obtain ⟨outcome, next, delivered, complains, ended⟩ :=
      deliver_complains (Bytes.ofText (line level target message)) raised
    have told := tell_of_admitted message admitted idle
    rcases ended with rfl | ⟨rfl, unlawful, overreported⟩
    · rw [Act.bind_of_ok _ delivered, Act.modify_apply] at told
      exact .inl ⟨_, told, idle.symm, complains.threshold, complains.memory, complains.agrees,
        complains.lawful, complains.asked, complains.grown⟩
    · rw [Act.bind_of_fault _ delivered] at told
      have on : loud.threshold ≠ .off := by
        intro off
        rw [off] at admitted
        cases level <;> exact absurd admitted (by decide)
      exact .inr ⟨by rw [told], on, unlawful, by rw [told]; exact overreported⟩
  · exact .inl ⟨loud, tell_of_refused message admitted, .refl loud⟩

/-- A log that is off takes no record. -/
theorem tell_of_off (level : Level) (message : String) {quiet : Machine} (off : quiet.threshold = .off) :
    tell level message quiet = (.ok (), quiet) := by
  refine tell_of_refused message ?_
  rw [off]
  cases level <;> decide

/-- A record is transparent: no quiet machine takes it, and a loud one only complains. -/
theorem transparent_tell (level : Level) (message : String) : Act.Transparent (tell level message) where
  stays quiet off := by
    have off' : quiet.threshold = .off := off
    rw [tell_of_off level message off']
    exact ⟨off, List.suffix_refl _⟩
  follows quiet loud alike _ := by
    have alike' : quiet.Alike loud := alike
    rw [tell_of_off level message alike'.off]
    rcases tell_complains level message alike'.idle with ⟨next, told, complains⟩ | ⟨-, -, unlawful, -⟩
    · exact ⟨next, told, alike'.complain complains, complains.grown⟩
    · exact absurd alike'.lawful unlawful

end Log

end LinuxCalls
