/-
This file shows that a record is delivered whole and alone. The line goes to descriptor 2 from its front, through
short writes and interruptions, and what is logged while it is being written appears nowhere.
-/

import Mathlib.Data.List.Basic
import LinuxCalls.Proofs.Log.Reentry
import LinuxCalls.Proofs.Log.Rounds

namespace LinuxCalls.Log

/--
The writes of a record's line. The bytes that descriptor 2 accepts are the line's front, each write offers what they
have left, and none follows an answer that does not go on.
-/
structure DeliversLine (bytes : Bytes) (writes : List Written) : Prop where
  accepted : writes.flatMap Written.accepted <+: bytes
  whole : (∀ write ∈ writes, write.GoesOn) → writes.flatMap Written.accepted = bytes
  offered : ∀ earlier write later, writes = earlier ++ write :: later →
    write.offered = bytes.drop (earlier.flatMap Written.accepted).length
  stops : writes.Pairwise fun write _ => write.GoesOn

/-- Rounds whose answers do not exceed what was offered deliver a line. -/
theorem Rounds.deliversLine {bytes : Bytes} {writes : List Written} {outcome : Except Fault Unit}
    (rounds : Rounds bytes writes outcome) (short : bytes.length < 2 ^ 63) (fit : ∀ write ∈ writes, write.Fits) :
    DeliversLine bytes writes := by
  obtain ⟨left, pushed, whole⟩ := rounds.pushes
  have offered {earlier later : List Written} {write : Written} (split : writes = earlier ++ write :: later) :
      write.offered = bytes.drop ((earlier.map Written.offer).flatMap Offer.accepted).length := by
    rw [split, List.map_append, List.map_cons] at pushed
    exact pushed.offered_eq.1
  have accepted {part : List Written} (among : ∀ write ∈ part, write ∈ writes) :
      part.flatMap Written.accepted = (part.map Written.offer).flatMap Offer.accepted := by
    rw [List.flatMap_map]
    refine List.flatMap_congr fun write member => ?_
    obtain ⟨earlier, later, split⟩ := List.append_of_mem (among write member)
    refine Written.accepted_eq ?_ (fit write (among write member))
    rw [offered split, List.length_drop]
    omega
  have all := accepted fun _ member => member
  have joined := pushed.accepted_append
  refine ⟨⟨left, by rw [all, joined]⟩, fun going => ?_, fun earlier write later split => ?_, rounds.followed⟩
  · rw [whole fit going, List.append_nil] at joined
    rw [all, joined]
  · rw [offered split, accepted]
    intro write member
    rw [split]
    exact List.mem_append_left _ member

/-- Different writes leave different events. -/
theorem Written.event_injective : Function.Injective Written.event := by
  rintro ⟨first, word⟩ ⟨second, other⟩ same
  cases same
  rfl

/-- What a write leaves is the end of what it offers. -/
theorem Written.left_suffix (write : Written) : write.offer.left <:+ write.offered :=
  ⟨write.offer.accepted, Offer.accepted_append_left write.offer⟩

/-- Every write of a delivery offers the end of the bytes, and the first one offers all of them. -/
theorem deliverWithin_offers (patience : Nat) (bytes : Bytes) (machine : Machine) :
    ∃ writes, (deliverWithin patience bytes machine).2.events = machine.events ++ writes.map Written.event ∧
      (∀ write ∈ writes, write.offered <:+ bytes) ∧
      (0 < patience → bytes ≠ [] → ∃ write later, writes = write :: later ∧ write.offered = bytes) := by
  induction patience generalizing bytes machine with
  | zero => exact ⟨[], by simp [deliverWithin], by simp, fun positive => absurd positive (Nat.lt_irrefl 0)⟩
  | succ patience step =>
    by_cases done : bytes = []
    · subst done
      exact ⟨[], by simp [deliverWithin], by simp, fun _ some => absurd rfl some⟩
    · obtain ⟨reply, middle, performed, -⟩ := perform_request bytes machine
      have noted : middle.events = machine.events ++ [Written.event ⟨bytes, reply.word⟩] :=
        events_of_request performed
      -- A round that does not go on is the only write.
      have single {outcome : Except Fault Unit}
          (ended : deliverWithin (patience + 1) bytes machine = (outcome, middle)) :
          (deliverWithin (patience + 1) bytes machine).2.events =
            machine.events ++ [(⟨bytes, reply.word⟩ : Written)].map Written.event := by
        rw [ended]
        exact noted
      obtain ⟨-, ended⟩ | ⟨-, ended⟩ | ⟨-, -, ended⟩ := deliverWithin_succ patience done performed
      · exact ⟨_, single ended, by simp, fun _ _ => ⟨_, [], rfl, rfl⟩⟩
      · exact ⟨_, single ended, by simp, fun _ _ => ⟨_, [], rfl, rfl⟩⟩
      · obtain ⟨writes, joined, parts, -⟩ := step (Written.offer ⟨bytes, reply.word⟩).left middle
        refine ⟨⟨bytes, reply.word⟩ :: writes, by simp [ended, joined, noted], ?_, fun _ _ => ⟨_, _, rfl, rfl⟩⟩
        refine List.forall_mem_cons.mpr ⟨List.suffix_refl _, fun write member => ?_⟩
        exact (parts write member).trans (Written.left_suffix ⟨bytes, reply.word⟩)

/-- Every write of a line offers the end of it, and the first one offers all of it. -/
theorem deliver_offers {bytes : Bytes} (some : bytes ≠ []) (machine : Machine) :
    ∃ writes, (deliver bytes machine).2.events = machine.events ++ writes.map Written.event ∧
      (∀ write ∈ writes, write.offered <:+ bytes) ∧ ∃ write later, writes = write :: later ∧ write.offered = bytes := by
  obtain ⟨writes, joined, parts, whole⟩ := deliverWithin_offers
    (bytes.length + machine.script.uses .complaints + 1) bytes machine
  exact ⟨writes, joined, parts, whole (Nat.succ_pos _) some⟩

/--
The writes that bring a line out. The first one offers the whole line, every one offers the end of it, and they
deliver it unless the kernel reports more bytes than it was given. No line in memory is as long as the bound.
-/
structure BringsOut (line : Bytes) (writes : List Written) : Prop where
  whole : ∃ write later, writes = write :: later ∧ write.offered = line
  parts : ∀ write ∈ writes, write.offered <:+ line
  delivers : line.length < 2 ^ 63 → (∀ write ∈ writes, write.Fits) → DeliversLine line writes

/-- A record that is taken adds the writes of its line to the events. -/
theorem tell_bringsOut {level : Level} (message : String) {loud : Machine}
    (admitted : loud.threshold.admits level = true) (idle : loud.recording = false) :
    ∃ writes, (tell level message loud).2.events = loud.events ++ writes.map Written.event ∧
      BringsOut (lineBytes level message) writes := by
  let raised : Machine := { loud with recording := true }
  have told : (tell level message loud).2.events = (deliver (lineBytes level message) raised).2.events := by
    rw [tell_of_admitted message admitted idle, Act.bind_apply]
    unfold lineBytes
    generalize deliver (Bytes.ofText (line level target message)) raised = delivered
    obtain ⟨_ | _, _⟩ := delivered <;> rfl
  obtain ⟨writes, joined, parts, whole⟩ := deliver_offers (lineBytes_ne_nil level message) raised
  refine ⟨writes, told.trans joined, whole, parts, fun short fit => ?_⟩
  obtain ⟨others, joined', rounds, -⟩ := deliver_rounds short raised
  -- Both accounts of the delivery add the same events, so they speak of the same writes.
  have same : writes = others :=
    (List.map_injective_iff.mpr Written.event_injective) (List.append_cancel_left (joined.symm.trans joined'))
  subst same
  exact rounds.deliversLine short fit

/-- A record that arrives at a backend, on its own or while the message of another one is being made. -/
structure Record where
  backend : Backend
  level : Level
  target : String
  message : Sys String

/-- This action hands a record to its backend. -/
def Record.emit (record : Record) : Sys Unit := record.backend.log record.level record.target record.message

/-- This action makes a message. It emits records on the way to its text. -/
def composing (text : String) : List Record → Sys String
  | [] => pure text
  | record :: records => do
    record.emit
    composing text records

/-- The records that a message emits are dropped, so only its text remains. -/
theorem composing_of_recording (text : String) (records : List Record) {machine : Machine}
    (recording : machine.recording = true) : composing text records machine = (.ok text, machine) := by
  induction records with
  | nil => rfl
  | cons record records step =>
    have dropped := record.backend.log_of_recording record.level record.target record.message recording
    rw [composing, Act.bind_of_ok _ (show record.emit machine = _ from dropped), step]

/--
This action writes all of the bytes with the library's own write, which announces each call, reports its return and
reports an interruption.
-/
def deliverAloudWithin : (patience : Nat) → Bytes → Sys Unit
  | 0, _ => pure ()
  | patience + 1, bytes =>
    if bytes = [] then pure ()
    else do
      match ← (Descriptor.write Descriptor.complaints bytes).attempt with
      | .ok count =>
        if count = 0 then pure ()
        else if bytes.length < count then Act.panic
        else deliverAloudWithin patience (bytes.drop count)
      | .error error =>
        if error = Errno.interrupted then deliverAloudWithin patience bytes else pure ()

/-- This action has the patience of a delivery. -/
def deliverAloud (bytes : Bytes) : Sys Unit := do
  let machine ← Act.get
  deliverAloudWithin (bytes.length + machine.script.uses .complaints + 1) bytes

/-- This action writes a record with the library's own write. -/
def Backend.logAloud (backend : Backend) (level : Level) (target : String) (message : Sys String) : Sys Unit := do
  if backend.threshold.admits level then
    let machine ← Act.get
    unless machine.recording do
      Act.modify fun machine => { machine with recording := true }
      let text ← message
      deliverAloud (Bytes.ofText (line level target text))
      Act.modify fun machine => { machine with recording := false }

/-- While a record is being written, an attempt at the library's write decodes the word that comes back. -/
theorem attempt_write_of_recording {bytes : Bytes} {reply : Reply} {machine next : Machine}
    (recording : machine.recording = true) (performed : perform (request bytes) machine = (.ok reply, next)) :
    (Descriptor.write Descriptor.complaints bytes).attempt machine =
      (.ok (Written.offer ⟨bytes, reply.word⟩).answer, next) := by
  apply Act.attempt_of_ofExcept
  rw [Descriptor.write, Descriptor.complaints, Act.bind_apply, invoke_eq_writeQuietly bytes recording,
    writeQuietly_eq, Act.bind_of_ok _ performed]
  cases decoded : RawReturn.decode reply.word with
  | ok count =>
    rw [Written.offer_of_ok decoded]
    rfl
  | error error =>
    rw [Written.offer_of_error decoded]
    rfl

/-- While a record is being written, the records of a delivery's own writes change nothing. -/
theorem deliverAloudWithin_eq (patience : Nat) (bytes : Bytes) {machine : Machine}
    (recording : machine.recording = true) :
    deliverAloudWithin patience bytes machine = deliverWithin patience bytes machine := by
  induction patience generalizing bytes machine with
  | zero => rfl
  | succ patience step =>
    unfold deliverAloudWithin deliverWithin
    by_cases done : bytes = []
    · rw [if_pos done, if_pos done]
    · obtain ⟨reply, next, performed, complains, -⟩ := perform_request bytes machine
      have still : next.recording = true := complains.recording.trans recording
      rw [if_neg done, if_neg done, Act.bind_of_ok _ (attempt_write_of_recording recording performed),
        Act.bind_of_ok _ (attempt_writeQuietly performed)]
      cases decoded : RawReturn.decode reply.word with
      | ok count =>
        have none : count.toNat = 0 ↔ count = 0 := UInt64.toNat_inj (b := 0)
        rw [Written.offer_of_ok decoded]
        dsimp only
        simp only [none]
        split
        · rfl
        · split
          · rfl
          · exact step _ still
      | error error =>
        rw [Written.offer_of_error decoded]
        dsimp only
        split
        · exact step bytes still
        · rfl

/-- A delivery with the library's own write is the same as one with silent writes, too. -/
theorem deliverAloud_eq (bytes : Bytes) {machine : Machine} (recording : machine.recording = true) :
    deliverAloud bytes machine = deliver bytes machine := deliverAloudWithin_eq _ bytes recording

/-- A backend whose writes are logged does what one with silent writes does. -/
theorem Backend.logAloud_eq (backend : Backend) (level : Level) (target text : String) (records : List Record)
    (machine : Machine) : backend.logAloud level target (composing text records) machine =
      backend.log level target (composing text records) machine := by
  unfold Backend.logAloud Backend.log
  split
  · rw [Act.bind_of_ok _ (Act.get_apply machine), Act.bind_of_ok _ (Act.get_apply machine)]
    split
    · rfl
    · have made := @composing_of_recording text records { machine with recording := true } rfl
      rw [Act.bind_of_ok _ (Act.modify_apply _ machine), Act.bind_of_ok _ (Act.modify_apply _ machine),
        Act.bind_of_ok _ made, Act.bind_of_ok _ made, Act.bind_apply, Act.bind_apply, deliverAloud_eq _ rfl]
  · rfl

/--
A record that the backend's threshold admits is delivered whole and alone, whatever is logged while it is being
written. Without an answer beyond the bytes offered there is no panic, and the flag is down again. A record that finds
the flag up asks for nothing and leaves the flag as it is. No line in memory is as long as the bound.
-/
theorem Backend.log_delivers (backend : Backend) (level : Level) (target text : String) (records : List Record)
    (machine : Machine) (enabled : backend.threshold.admits level = true)
    (short : (Bytes.ofText (line level target text)).length < 2 ^ 63) :
    let logged := backend.log level target (composing text records) machine
    backend.logAloud level target (composing text records) machine = logged ∧
    (machine.recording = true → logged = (.ok (), machine)) ∧
    (machine.recording = false → ∃ writes,
      logged.2.events = machine.events ++ writes.map Written.event ∧
      (machine.script.Lawful → ∀ write ∈ writes, write.Fits) ∧
      ((∀ write ∈ writes, write.Fits) →
        logged.1 = .ok () ∧ logged.2.recording = false ∧
          DeliversLine (Bytes.ofText (line level target text)) writes)) := by
  intro logged
  refine ⟨backend.logAloud_eq level target text records machine, backend.log_of_recording level target _, ?_⟩
  intro idle
  let raised : Machine := { machine with recording := true }
  have made : composing text records raised = (.ok text, raised) := composing_of_recording text records rfl
  obtain ⟨writes, joined, rounds, fit⟩ := deliver_rounds short raised
  have taken : logged = (deliver (Bytes.ofText (line level target text)) >>= fun _ =>
      Act.modify fun machine => { machine with recording := false }) raised :=
    log_of_admitted target enabled idle made
  rw [taken, Act.bind_apply]
  generalize deliver (Bytes.ofText (line level target text)) raised = delivered at joined rounds
  obtain ⟨outcome, next⟩ := delivered
  cases outcome with
  | ok _ => exact ⟨writes, joined, fit, fun fits => ⟨rfl, rfl, rounds.deliversLine short fits⟩⟩
  | error fault => exact ⟨writes, joined, fit, fun fits => nomatch rounds.outcome_eq fits⟩

/-- A short write and an interruption meet a record whose message emits another one. -/
theorem Backend.log_delivers_interrupted :
    let backend : Backend := ⟨.upTo .info⟩
    let inner : Record := ⟨backend, .error, "inner", pure "dropped"⟩
    let machine := Machine.start ⟨[(.complaints,
      [{ most := some 3 }, { word := some (RawReturn.encode (.error Errno.interrupted)) }])]⟩ .off
    let logged := backend.log .info "app" (composing "ready" [inner]) machine
    backend.threshold.admits .info = true ∧ (Bytes.ofText (line .info "app" "ready")).length < 2 ^ 63 ∧
      machine.recording = false ∧ machine.script.Lawful ∧
      backend.logAloud .info "app" (composing "ready" [inner]) machine = logged ∧
      ∃ writes, logged.2.events = machine.events ++ writes.map Written.event ∧
        (∀ write ∈ writes, write.Fits) ∧
        (logged.1 = .ok () ∧ logged.2.recording = false ∧
          DeliversLine (Bytes.ofText (line .info "app" "ready")) writes) ∧
        logged.2.accepted complaints = Bytes.ofText "[INFO  app] ready\n" := by
  intro backend inner machine
  have enabled : backend.threshold.admits .info = true := by decide
  have short : (Bytes.ofText (line .info "app" "ready")).length < 2 ^ 63 := by decide
  have words : ∀ answer ∈ machine.script.queue .complaints, answer.word.all fun word =>
      decide (-Errno.largest.toInt64 ≤ word.toInt64) := by decide
  have lawful : machine.script.Lawful := fun answer member word named => by
    simpa [named] using words answer member
  obtain ⟨aloud, -, delivered⟩ := backend.log_delivers .info "app" "ready" [inner] machine enabled short
  obtain ⟨writes, joined, fit, delivers⟩ := delivered rfl
  have fits := fit lawful
  exact ⟨enabled, short, rfl, lawful, aloud, writes, joined, fits, delivers fits, by decide⟩

end LinuxCalls.Log
