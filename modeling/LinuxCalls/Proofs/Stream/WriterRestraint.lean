/-
This file shows that a writer stays within its buffer and reaches its sink only when it must. What it offers is
the buffered bytes first, and bytes that are new to it only behind all of them.
-/

import LinuxCalls.Proofs.Stream.Pushing
import LinuxCalls.Proofs.Stream.WriterEnd

namespace LinuxCalls.Writer

variable {δ : Type}

/-- A write needs the sink if its bytes do not fit behind the buffered ones, or if the buffer could never hold them. -/
def NeedsSink (writer : Writer δ) (bytes : Bytes) : Prop :=
  writer.capacity < writer.buffer.length + bytes.length ∨ writer.capacity ≤ bytes.length

/-- The number of bytes that a sink has accepted of some offers. -/
def acceptedLength (offers : List Offer) : Nat := (offers.flatMap Offer.accepted).length

/-- A writer stays within its capacity on the way from one state to another, and its offers are noted in order. -/
structure StaysWithin (before after : Writer (Recorded δ Offer)) (offers : List Offer) : Prop where
  noted : after.device.record = before.device.record ++ offers
  capacity : after.capacity = before.capacity
  inside : before.buffer.length ≤ before.capacity → after.buffer.length ≤ before.capacity

theorem StaysWithin.refl (writer : Writer (Recorded δ Offer)) : StaysWithin writer writer [] :=
  ⟨(List.append_nil _).symm, rfl, id⟩

theorem StaysWithin.trans {first second third : Writer (Recorded δ Offer)} {offers more : List Offer}
    (head : StaysWithin first second offers) (tail : StaysWithin second third more) :
    StaysWithin first third (offers ++ more) where
  noted := by rw [tail.noted, head.noted, List.append_assoc]
  capacity := tail.capacity.trans head.capacity
  inside bounded := by
    have middle := head.inside bounded
    rw [← head.capacity] at middle ⊢
    exact tail.inside middle

/--
What is offered to a recorded sink while a writer takes some bytes. Until the buffered bytes are all accepted, the
rest of them is offered and nothing else. Then the rest of the new bytes is.
-/
structure Reaches (needed : Prop) (bytes : Bytes) (before after : Writer (Recorded δ Offer))
    (offers : List Offer) : Prop extends StaysWithin before after offers where
  needed : offers ≠ [] → needed
  older : ∀ earlier offer later, offers = earlier ++ offer :: later →
    acceptedLength earlier < before.buffer.length →
      offer.offered = before.buffer.drop (acceptedLength earlier)
  newer : ∀ earlier offer later, offers = earlier ++ offer :: later →
    before.buffer.length ≤ acceptedLength earlier →
      offer.offered = bytes.drop (acceptedLength earlier - before.buffer.length)

/-- Accepted bytes add up over offers in a row. -/
theorem acceptedLength_append (first second : List Offer) :
    acceptedLength (first ++ second) = acceptedLength first + acceptedLength second := by
  simp [acceptedLength]

section Order

variable {buffer bytes left rest : Bytes} {older newer earlier later : List Offer} {offer : Offer}

/-- An offer among two loops of writes is one of the first loop, or it comes behind all bytes of the first. -/
theorem offered_of_pushes (first : Pushes buffer older left) (second : Pushes bytes newer rest)
    (order : newer ≠ [] → left = []) (split : older ++ newer = earlier ++ offer :: later) :
    acceptedLength earlier < buffer.length ∧ offer.offered = buffer.drop (acceptedLength earlier) ∨
      buffer.length ≤ acceptedLength earlier ∧
        offer.offered = bytes.drop (acceptedLength earlier - buffer.length) := by
  -- Where the offer is one of the second loop, the first loop has left nothing.
  have behind {between : List Offer} (before : earlier = older ++ between)
      (among : newer = between ++ offer :: later) : buffer.length ≤ acceptedLength earlier ∧
        offer.offered = bytes.drop (acceptedLength earlier - buffer.length) := by
    have nothing : left = [] := order (by simp [among])
    have whole : acceptedLength older = buffer.length := by
      rw [← first.accepted_append, nothing, List.append_nil, acceptedLength]
    rw [among] at second
    rw [before, acceptedLength_append, whole, Nat.add_sub_cancel_left]
    exact ⟨Nat.le_add_right _ _, second.offered_eq.1⟩
  rcases List.append_eq_append_iff.mp split with ⟨between, before, among⟩ | ⟨between, before, among⟩
  · exact .inr (behind before among)
  · cases between with
    | nil => exact .inr (@behind [] (by simp [before]) (by simpa using among.symm))
    | cons head between =>
      obtain ⟨rfl, -⟩ := List.cons.inj among
      rw [before] at first
      obtain ⟨offered, some⟩ := first.offered_eq
      have short : acceptedLength earlier < buffer.length := by simpa [offered, acceptedLength] using some
      exact .inl ⟨short, offered⟩

end Order

/-- A loop of writes of the buffered bytes and one of new bytes reach the sink in this order. -/
theorem reaches_of_pushes {needed : Prop} {bytes left rest : Bytes} {before after : Writer (Recorded δ Offer)}
    {older newer : List Offer} (stays : StaysWithin before after (older ++ newer))
    (needs : older ++ newer ≠ [] → needed) (first : Pushes before.buffer older left)
    (second : Pushes bytes newer rest) (order : newer ≠ [] → left = []) :
    Reaches needed bytes before after (older ++ newer) where
  toStaysWithin := stays
  needed := needs
  older earlier offer later split short := by
    rcases offered_of_pushes first second order split with ⟨-, offered⟩ | ⟨behind, -⟩
    · exact offered
    · omega
  newer earlier offer later split behind := by
    rcases offered_of_pushes first second order split with ⟨short, -⟩ | ⟨-, offered⟩
    · omega
    · exact offered

variable [Sink δ]

/-- What is left of the buffer after a flush is no more than there was. -/
theorem length_kept_le {bytes left : Bytes} {offers : List Offer} (pushes : Pushes bytes offers left)
    (outcome : Except Fault Unit) : (kept bytes left outcome).length ≤ bytes.length := by
  have whole := congrArg List.length pushes.accepted_append
  rw [List.length_append] at whole
  unfold kept
  split <;> omega

/-- A flush offers the buffered bytes, and nothing if there are none. -/
theorem flush_reaches (state : Writer (Recorded δ Offer) × Machine) :
    ∃ offers, Reaches (state.1.buffer ≠ []) [] state.1 (flush state).2.1 offers := by
  obtain ⟨outcome, device, machine, offers, left, -, flushed, noted, pushes, -⟩ := flush_pushes state
  have shorter := length_kept_le pushes outcome
  rw [flushed]
  refine ⟨offers ++ [], reaches_of_pushes ⟨?_, rfl, fun inside => Nat.le_trans shorter inside⟩ ?_ pushes (.nothing [])
    (absurd rfl)⟩
  · rw [List.append_nil]
    exact noted
  · rintro some empty
    rw [empty] at pushes
    exact some (by rw [pushes.eq_nil, List.append_nil])

/-- The second half of a write offers its bytes if the buffer could never hold them, and otherwise it buffers them. -/
theorem place_pushes (capacity : Nat) (bytes : Bytes) (state : Writer (Recorded δ Offer) × Machine) :
    ∃ newer rest, (place capacity bytes state).2.1.device.record = state.1.device.record ++ newer ∧
      Pushes bytes newer rest ∧ (place capacity bytes state).2.1.capacity = state.1.capacity ∧
      (newer ≠ [] → capacity ≤ bytes.length) ∧ (place capacity bytes state).2.1.buffer =
        if capacity ≤ bytes.length then state.1.buffer else state.1.buffer ++ bytes := by
  by_cases large : capacity ≤ bytes.length
  · obtain ⟨newer, rest, noted, pushes, -⟩ := writeThrough_pushes bytes (state.1.device, state.2)
    rw [place, if_pos large, onDevice, Act.focus_apply, if_pos large]
    exact ⟨newer, rest, noted, pushes, rfl, fun _ => large, rfl⟩
  · rw [place, if_neg large, if_neg large]
    exact ⟨[], bytes, (List.append_nil _).symm, .nothing bytes, rfl, absurd rfl, rfl⟩

/-- A write offers the buffered bytes before its own, and nothing if its bytes fit behind them. -/
theorem writeAll_reaches (bytes : Bytes) (state : Writer (Recorded δ Offer) × Machine) :
    ∃ offers, Reaches (state.1.NeedsSink bytes) bytes state.1 (writeAll bytes state).2.1 offers := by
  rw [writeAll_apply]
  by_cases crowded : state.1.capacity < state.1.buffer.length + bytes.length
  · obtain ⟨outcome, device, machine, older, left, -, flushed, noted, pushes, stops⟩ := flush_pushes state
    rw [if_pos crowded]
    cases outcome with
    | error fault =>
      have shorter := length_kept_le pushes (.error fault)
      rw [Act.bind_of_fault _ flushed]
      exact ⟨older ++ [], reaches_of_pushes ⟨by simpa using noted, rfl, fun inside => Nat.le_trans shorter inside⟩
        (fun _ => .inl crowded) pushes (.nothing bytes) (absurd rfl)⟩
    | ok _ =>
      have nothing : left = [] := stops.whole rfl
      rw [Act.bind_of_ok _ flushed]
      obtain ⟨newer, rest, noted', pushes', same, -, buffer⟩ := place_pushes state.1.capacity bytes
        (⟨device, kept state.1.buffer left (.ok ()), state.1.capacity⟩, machine)
      refine ⟨older ++ newer, reaches_of_pushes ⟨?_, same, ?_⟩ (fun _ => .inl crowded) pushes pushes' fun _ => nothing⟩
      · rw [noted', ← List.append_assoc, ← noted]
      · rw [buffer, nothing]
        intro inside
        split
        · exact Nat.zero_le _
        · simp [kept]
          omega
  · rw [if_neg crowded]
    obtain ⟨newer, rest, noted, pushes, same, needs, buffer⟩ := place_pushes state.1.capacity bytes state
    refine ⟨[] ++ newer, reaches_of_pushes ⟨noted, same, ?_⟩ (fun some => .inr (needs some)) (.nothing _) pushes
      fun some => ?_⟩
    · rw [buffer]
      intro inside
      split
      · exact inside
      · simp
        omega
    · have large := needs some
      exact List.eq_nil_of_length_eq_zero (by omega)

/-- Each piece of a formatted value reaches the sink as a write of it does, also after a piece that has failed. -/
inductive PrintReaches : Format → Writer (Recorded δ Offer) × Machine → Writer (Recorded δ Offer) × Machine →
    List Offer → Prop
  | done (state : Writer (Recorded δ Offer) × Machine) : PrintReaches .done state state []
  | refuse (state : Writer (Recorded δ Offer) × Machine) : PrintReaches .refuse state state []
  | piece {text : Bytes} {next : Bool → Format} {result : Except Errno Unit} {offers rest : List Offer}
      {before middle after : Writer (Recorded δ Offer) × Machine}
      (made : (Writer.writeAll text).attempt before = (.ok result, middle))
      (reaches : Reaches (before.1.NeedsSink text) text before.1 middle.1 offers)
      (later : PrintReaches (next result.isOk) middle after rest) :
      PrintReaches (.piece text next) before after (offers ++ rest)

/-- What a call offers to the sink on its way from one state of the writer to another one. -/
inductive CallReaches (before after : Writer (Recorded δ Offer) × Machine) : Call → List Offer → Prop
  | writeAll {bytes : Bytes} {offers : List Offer}
      (reaches : Reaches (before.1.NeedsSink bytes) bytes before.1 after.1 offers) :
      CallReaches before after (.writeAll bytes) offers
  | writeFormat {format : Format} {offers : List Offer} (reaches : PrintReaches format before after offers) :
      CallReaches before after (.writeFormat format) offers
  | flush {offers : List Offer} (reaches : Reaches (before.1.buffer ≠ []) [] before.1 after.1 offers) :
      CallReaches before after .flush offers

/-- The pieces that a value prints reach the sink one after the other. -/
theorem Prints.exists_reaches {accepted : Recorded δ Offer × Machine → Bytes → Prop} {format : Format}
    {stream : Bytes} {before after : Writer (Recorded δ Offer) × Machine} {printed : List Printed}
    (prints : Prints accepted format stream before printed after) :
    ∃ offers, PrintReaches format before after offers := by
  induction prints with
  | done stream state => exact ⟨[], .done state⟩
  | refuse stream state => exact ⟨[], .refuse state⟩
  | @piece text stream part next result rest before middle after made adds later step =>
    obtain ⟨rest, reached⟩ := step
    obtain ⟨offers, reaches⟩ := writeAll_reaches text before
    have same : (writeAll text before).2 = middle := by rw [← Act.attempt_snd, made]
    rw [same] at reaches
    exact ⟨offers ++ rest, .piece made reaches reached⟩

/-- A call that ends well or with an error reaches the sink as it may. -/
theorem Contributes.exists_reaches {accepted : Recorded δ Offer × Machine → Bytes → Prop} {call : Call}
    {stream part : Bytes} {result : Except Errno Unit} {before after : Writer (Recorded δ Offer) × Machine}
    (contributes : Contributes accepted stream before call result after part)
    (made : call.run.attempt before = (.ok result, after)) : ∃ offers, CallReaches before after call offers := by
  have same : (call.run before).2 = after := by rw [← Act.attempt_snd, made]
  cases contributes with
  | @writeAll bytes =>
    obtain ⟨offers, reaches⟩ := writeAll_reaches bytes before
    exact ⟨offers, .writeAll (same ▸ reaches)⟩
  | writeFormat prints =>
    obtain ⟨offers, reaches⟩ := prints.exists_reaches
    exact ⟨offers, .writeFormat reaches⟩
  | flush =>
    obtain ⟨offers, reaches⟩ := flush_reaches before
    exact ⟨offers, .flush (same ▸ reaches)⟩

/-- The pieces of a value leave the writer within its capacity. -/
theorem PrintReaches.staysWithin {format : Format} {before after : Writer (Recorded δ Offer) × Machine}
    {offers : List Offer} (reached : PrintReaches format before after offers) :
    StaysWithin before.1 after.1 offers := by
  induction reached with
  | done state => exact .refl state.1
  | refuse state => exact .refl state.1
  | piece _ reaches _ step => exact reaches.toStaysWithin.trans step

/-- Every call leaves the writer within its capacity. -/
theorem CallReaches.staysWithin {call : Call} {before after : Writer (Recorded δ Offer) × Machine}
    {offers : List Offer} (reached : CallReaches before after call offers) :
    StaysWithin before.1 after.1 offers := by
  cases reached with
  | writeAll reaches => exact reaches.toStaysWithin
  | writeFormat reaches => exact reaches.staysWithin
  | flush reaches => exact reaches.toStaysWithin

/-- What a call in a run offers, and how full the buffer is after it. -/
structure Restrained (capacity : Nat) (past : List (List Offer)) (call : Call) (result : Except Errno Unit)
    (before after : Writer (Recorded δ Offer) × Machine) (offers : List Offer) : Prop where
  reached : CallReaches before after call offers
  noted : after.1.device.record = (past ++ [offers]).flatten
  held : after.1.capacity = max capacity 1
  inside : after.1.buffer.length ≤ max capacity 1

/--
Over every run of calls on a new writer, failed ones included, the buffer stays within its capacity, and the sink
is reached only where a call may: a write whose bytes fit offers nothing, and neither does a flush of an empty
buffer. All that is offered before the buffered bytes are accepted is the rest of these bytes. The writer over the
bare sink gives the same results and ends with the same buffer.
-/
theorem restrained_of_run {good : δ × Machine → Prop} (bounded : Sink.Bounded δ good) (capacity : Nat)
    {device : δ} {machine : Machine} (ready : good (device, machine)) (calls : List Call) :
    ∃ results offers after,
      Act.Run Call.run (Restrained capacity) [] (withCapacity capacity (Recorded.start device), machine)
        calls results offers after ∧
      Act.each Call.run calls (withCapacity capacity device, machine) =
        (.ok results, Prod.map (onto Recorded.device) id after) := by
  have account := Recorded.accounts_accepted bounded
  let start : Writer (Recorded δ Offer) × Machine :=
    (withCapacity capacity (Recorded.start device), machine)
  let Invariant (past : List (List Offer)) (state : Writer (Recorded δ Offer) × Machine) : Prop :=
    good (state.1.device.device, state.2) ∧ state.1.device.record = past.flatten ∧
      state.1.capacity = max capacity 1 ∧ state.1.buffer.length ≤ max capacity 1
  have step (call : Call) (past : List (List Offer)) (before : Writer (Recorded δ Offer) × Machine)
      (holds : Invariant past before) : ∃ result middle offers,
        call.run.attempt before = (.ok result, middle) ∧
        Restrained capacity past call result before middle offers ∧ Invariant (past ++ [offers]) middle := by
    obtain ⟨fine, recorded, held, inside⟩ := holds
    have kept : Recorded.Accepted good (before.1.device, before.2) before.1.device.accepted := ⟨rfl, fine⟩
    obtain ⟨result, middle, part, sent, made, contributes, ⟨-, fine'⟩, -⟩ := call.run_account account kept
    obtain ⟨offers, reached⟩ := contributes.exists_reaches made
    have stays := reached.staysWithin
    have noted : middle.1.device.record = (past ++ [offers]).flatten := by
      rw [stays.noted, recorded, List.flatten_append, List.flatten_singleton]
    have held' : middle.1.capacity = max capacity 1 := stays.capacity.trans held
    have inside' : middle.1.buffer.length ≤ max capacity 1 := held ▸ stays.inside (held.symm ▸ inside)
    exact ⟨result, middle, offers, made, ⟨reached, noted, held', inside'⟩, fine', noted, held', inside'⟩
  obtain ⟨results, offers, after, run, -⟩ :=
    Act.Run.exists_of_step Invariant step calls [] start ⟨ready, rfl, rfl, Nat.zero_le _⟩
  refine ⟨results, offers, after, run, ?_⟩
  have same := Act.StandsFor.each (standsFor_run Recorded.standsFor_write) calls start
  rw [run.each_eq] at same
  exact same

/-- A writer of no capacity and one whose sink has room for three bytes, with a flush that fails and is repeated. -/
theorem restrained_of_run_full_cursor :
    let cursor := Cursor.start ⟨4096, 3, Protection.read.union Protection.write, .copied⟩
    let machine := Machine.start ⟨[]⟩ .off
    let calls := [Call.flush, .writeAll [1], .writeFormat (.ofPieces [[2], [], [3, 4]]), .flush, .writeAll [5], .flush]
    ∃ results offers after,
      Act.Run Call.run (Restrained 0) [] (withCapacity 0 (Recorded.start cursor), machine)
        calls results offers after ∧
      Act.each Call.run calls (withCapacity 0 cursor, machine) =
        (.ok results, Prod.map (onto Recorded.device) id after) :=
  restrained_of_run Cursor.bounded_write 0 trivial _

end LinuxCalls.Writer
