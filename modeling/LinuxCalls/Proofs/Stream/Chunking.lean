/-
This file shows that what a reader delivers depends on the bytes alone. Capacities, the portions in
which a source hands the bytes out and the places where portions end make no difference.
-/

import Mathlib.Data.List.Forall2
import LinuxCalls.Proofs.Stream.CursorDevice
import LinuxCalls.Proofs.Stream.ReaderBalance
import LinuxCalls.Proofs.Text.Utf8

namespace LinuxCalls.Reader

variable {δ ζ : Type}

/-- The bytes up to and including the first delimiter, or all bytes if there is none. -/
def upTo (delimiter : UInt8) (bytes : Bytes) : Bytes :=
  match bytes.findIdx? (· == delimiter) with
  | some index => bytes.take (index + 1)
  | none => bytes

/-- Bytes without a delimiter are all before the first one. -/
theorem upTo_append_of_missing {delimiter : UInt8} {bytes : Bytes} (rest : Bytes)
    (missing : bytes.findIdx? (· == delimiter) = none) :
    upTo delimiter (bytes ++ rest) = bytes ++ upTo delimiter rest := by
  rw [upTo, upTo, List.findIdx?_append, missing, Option.none_or]
  cases rest.findIdx? (· == delimiter) with
  | none => rfl
  | some index =>
    have shift : index + bytes.length + 1 = bytes.length + (index + 1) := by omega
    rw [Option.map_some]
    dsimp only
    rw [shift, List.take_length_add_append]

/-- A delimiter among the first bytes is the first one whatever follows. -/
theorem upTo_append_of_found {delimiter : UInt8} {bytes : Bytes} {index : Nat} (rest : Bytes)
    (found : bytes.findIdx? (· == delimiter) = some index) :
    upTo delimiter (bytes ++ rest) = bytes.take (index + 1) := by
  have inside : index < bytes.length := (List.findIdx?_eq_some_iff_getElem.mp found).1
  rw [upTo, List.findIdx?_append, found, Option.some_or]
  exact List.take_append_of_le_length (by omega)

/-- Something comes before the first delimiter or with it unless there is nothing. -/
theorem length_upTo_eq_zero_iff (delimiter : UInt8) (bytes : Bytes) :
    (upTo delimiter bytes).length = 0 ↔ bytes = [] := by
  rw [List.length_eq_zero_iff, upTo]
  cases bytes.findIdx? (· == delimiter) with
  | some index => simp
  | none => rfl

/-- What is demanded of a reader. Bytes or a text of the caller are appended to. -/
inductive Demand
  | exact (out : Bytes)
  | upTo (delimiter : UInt8) (out : Bytes)
  | line (out : String)

/-- The call that a demand makes. -/
def Demand.call : Demand → Call
  | .exact out => .readExact out
  | .upTo delimiter out => .readUntil delimiter out
  | .line out => .readLine out

/-- What a demand comes to: the bytes that are delivered, and how it ends or what they are appended to. -/
inductive Expected
  | filled (delivered : Bytes) (ending : Except Errno Unit)
  | appended (delivered out : Bytes)
  | line (delivered : Bytes) (out : String)

/-- What a demand comes to on bytes alone, and the bytes that it leaves. -/
def Demand.expected : Demand → Bytes → Expected × Bytes
  | .exact out, bytes =>
    if out.length ≤ bytes.length then (.filled (bytes.take out.length) (.ok ()), bytes.drop out.length)
    else (.filled bytes (.error Errno.noData), [])
  | .upTo delimiter out, bytes =>
    (.appended (Reader.upTo delimiter bytes) out, bytes.drop (Reader.upTo delimiter bytes).length)
  | .line out, bytes =>
    (.line (Reader.upTo lineEnd bytes) out, bytes.drop (Reader.upTo lineEnd bytes).length)

/-- What demands in a row come to on bytes alone, and the bytes that they leave. -/
def reference : List Demand → Bytes → List Expected × Bytes
  | [], bytes => ([], bytes)
  | demand :: demands, bytes =>
    let (first, left) := demand.expected bytes
    let (rest, last) := reference demands left
    (first :: rest, last)

/--
A result is as expected. Beyond the delivered bytes a buffer that is not full may hold anything. What is
delivered up to a delimiter is appended, and the number returned is that of the bytes delivered. A line is appended
as the text that has its bytes. If no text has them, that is an error and the caller's text is as it was.
-/
inductive Expected.Met : Expected → Except Errno Answer → Prop
  | full (bytes : Bytes) : Met (.filled bytes (.ok ())) (.ok (.collected ⟨bytes, .ok ()⟩))
  | short {delivered buffer : Bytes} {error : Errno} (front : delivered <+: buffer) :
      Met (.filled delivered (.error error)) (.ok (.collected ⟨buffer, .error error⟩))
  | appended (delivered out : Bytes) :
      Met (.appended delivered out) (.ok (.appended ⟨out ++ delivered, .ok delivered.length⟩))
  | line (text out : String) :
      Met (.line (Bytes.ofText text) out) (.ok (.line ⟨out ++ text, .ok (Bytes.ofText text).length⟩))
  | noLine {delivered : Bytes} (noText : ∀ text, delivered ≠ Bytes.ofText text) (out : String) :
      Met (.line delivered out) (.ok (.line ⟨out, .error Errno.illegalSequence⟩))

/-- What becomes of a caller's text with the bytes of a line is as expected. -/
theorem Expected.met_lineOnto (bytes : Bytes) (out : String) :
    (Expected.line bytes out).Met (.ok (.line (lineOnto out ⟨bytes, .ok ()⟩))) := by
  unfold lineOnto lineOf
  cases found : Text.ofBytes? bytes with
  | some text =>
    obtain rfl := Text.ofBytes?_eq_some_iff.mp found
    exact .line text out
  | none =>
    refine .noLine (fun text same => ?_) out
    rw [Text.ofBytes?_eq_some_iff.mpr same] at found
    contradiction

variable {rest : δ × Machine → Bytes} {good : δ × Machine → Prop}

/-- The bytes ahead of a reader: those that are unread and those that its source has left. -/
def Ahead (rest : δ × Machine → Bytes) (good : δ × Machine → Prop) (bytes : Bytes)
    (state : Reader δ × Machine) : Prop :=
  Keeps (fun device supplied => supplied ++ rest device = bytes ∧ good device) [] state

/-- What is taken comes off the front of the bytes ahead. -/
theorem ahead_of_keeps {bytes part : Bytes} {state : Reader δ × Machine}
    (kept : Keeps (fun device supplied => supplied ++ rest device = bytes ∧ good device) part state) :
    part ++ (state.1.unread ++ rest (state.1.device, state.2)) = bytes ∧
      Ahead rest good (bytes.drop part.length) state := by
  obtain ⟨whole, fine⟩ := kept.account
  rw [List.append_assoc] at whole
  refine ⟨whole, kept.ordered, kept.inside, kept.room, ?_, fine⟩
  rw [← whole, List.drop_left, List.nil_append]

/-- A new reader has ahead what its source has left. -/
theorem ahead_withCapacity (capacity : Nat) {device : δ} {machine : Machine} (ready : good (device, machine)) :
    Ahead rest good (rest (device, machine)) (withCapacity capacity device, machine) :=
  keeps_withCapacity capacity ⟨List.nil_append _, ready⟩

variable [Source δ]

/-- A read of a whole buffer delivers the bytes ahead as far as they go. -/
theorem readExact_ahead (hands : Source.HandsOut δ rest good) (out : Bytes) {bytes : Bytes}
    {state : Reader δ × Machine} (ahead : Ahead rest good bytes state) :
    ∃ result next, ((Demand.exact out).call.run : Act (Reader δ × Machine) Answer).attempt state =
        (.ok result, next) ∧
      ((Demand.exact out).expected bytes).1.Met result ∧
      Ahead rest good ((Demand.exact out).expected bytes).2 next := by
  obtain ⟨collected, next, part, made, kept, whole⟩ :=
    fillFrom_account (hands.accounts bytes) out.length out (Nat.le_refl _) ahead
  rw [List.nil_append] at kept
  obtain ⟨split, left⟩ := ahead_of_keeps kept
  have called : ((Demand.exact out).call.run : Act (Reader δ × Machine) Answer).attempt state =
      (.ok (.ok (.collected collected)), next) := by
    rw [Act.attempt_eq_ok, Demand.call, Call.run, Reader.readExact, Act.bind_of_ok _ made]
    rfl
  refine ⟨_, next, called, ?_⟩
  cases whole with
  | full size =>
    have enough : out.length ≤ bytes.length := by
      rw [← split, List.length_append]
      omega
    have front : bytes.take out.length = part := by
      rw [← split, ← size, List.take_left]
    rw [Demand.expected, if_pos enough, front, ← size]
    exact ⟨.full part, left⟩
  | short size front short used empty cause =>
    obtain ⟨rfl, ended⟩ | never := cause
    · rw [empty, ended, List.append_nil, List.append_nil] at split
      subst split
      rw [List.drop_length] at left
      rw [Demand.expected, if_neg (Nat.not_le_of_lt short)]
      exact ⟨.short front, left⟩
    · exact never.elim

/--
A fill leaves the bytes ahead as they are. It either has nothing to do, or it uses up some of the
source's reserve, or it finds the end.
-/
theorem fill_ahead (hands : Source.HandsOut δ rest good) {bytes : Bytes} {state : Reader δ × Machine}
    (ahead : Ahead rest good bytes state) :
    ∃ next, (fill : Act (Reader δ × Machine) Unit).attempt state = (.ok (.ok ()), next) ∧
      Ahead rest good bytes next ∧ (next.1.unread = [] → bytes = []) ∧
      (state.1.unread = [] →
        next.1.unread = [] ∨ Source.reserve next.1.device next.2 < Source.reserve state.1.device state.2) ∧
      (state.1.unread ≠ [] → next = state) := by
  by_cases empty : state.1.mark ≤ state.1.position
  · have none := (unread_eq_nil_iff ahead.inside).mpr empty
    obtain ⟨whole, fine⟩ := ahead.account
    rw [none, List.append_nil, List.nil_append] at whole
    obtain ⟨filled, count, next, asked, size, bounded, front, brings, spends, still⟩ :=
      hands state.1.buffer _ fine
    refine ⟨(⟨next.1, filled, 0, count⟩, next.2), fill_of_read empty asked bounded, ?_, ?_, ?_, ?_⟩
    · refine ⟨Nat.zero_le _, by rw [size]; exact bounded, ?_, ?_, still⟩
      · rw [← List.length_pos_iff, size, List.length_pos_iff]
        exact ahead.room
      · rw [unread_filled, List.nil_append, ← whole]
        exact front
    · intro nothing
      rw [unread_filled] at nothing
      apply Decidable.byContradiction
      intro some
      have positive := brings ahead.room (whole ▸ some)
      rw [← List.length_eq_zero_iff, List.length_take] at nothing
      omega
    · intro _
      by_cases more : 0 < count
      · exact .inr (spends more)
      · have zero : count = 0 := by omega
        refine .inl ?_
        rw [zero, unread_filled, List.take_zero]
    · exact fun some => absurd none some
  · have some : state.1.unread ≠ [] := by rwa [Ne, unread_eq_nil_iff ahead.inside]
    exact ⟨state, fill_of_unread empty, ahead, fun none => absurd none some, fun none => absurd none some,
      fun _ => rfl⟩

/-- Enough rounds collect the bytes ahead up to the first delimiter, wherever the fills end. -/
theorem collect_ahead (hands : Source.HandsOut δ rest good) (delimiter : UInt8) (rounds total : Nat)
    {bytes : Bytes} {state : Reader δ × Machine} (ahead : Ahead rest good bytes state)
    (enough : Source.reserve state.1.device state.2 + 1 + min state.1.unread.length 1 ≤ rounds) :
    ∃ next, readUntil.collect delimiter rounds total state =
        (.ok ((Collected.mk (upTo delimiter bytes) (.ok ())).counted total), next) ∧
      Ahead rest good (bytes.drop (upTo delimiter bytes).length) next := by
  -- A round either ends the read or empties the buffer, and only a fill that spends some reserve follows.
  induction rounds generalizing total bytes state with
  | zero => omega
  | succ rounds step =>
    obtain ⟨next, filled, still, ended, spends, same⟩ := fill_ahead hands ahead
    by_cases empty : next.1.unread = []
    · have nothing := ended empty
      subst nothing
      exact ⟨next, collect_of_empty filled empty, still⟩
    · obtain ⟨split, -⟩ := ahead_of_keeps still
      rw [List.nil_append] at split
      have moved (amount : Nat) := ahead_of_keeps (still.past amount)
      cases found : next.1.unread.findIdx? (· == delimiter) with
      | some index =>
        have front : upTo delimiter bytes = next.1.unread.take (index + 1) := by
          rw [← split]
          exact upTo_append_of_found _ found
        rw [front]
        exact ⟨_, collect_of_found filled found, (moved (index + 1)).2⟩
      | none =>
        let later := bytes.drop next.1.unread.length
        have left : Ahead rest good later (next.1.past next.1.unread.length, next.2) := by
          have all := (moved next.1.unread.length).2
          rwa [List.nil_append, List.take_length] at all
        have cut : bytes = next.1.unread ++ later := by
          have back : (next.1.unread ++ rest (next.1.device, next.2)).drop next.1.unread.length =
              rest (next.1.device, next.2) := List.drop_left
          rw [split] at back
          change bytes = next.1.unread ++ bytes.drop next.1.unread.length
          rw [back, split]
        have spent : (next.1.past next.1.unread.length).unread = [] := by
          rw [unread_past, List.drop_length]
        have fewer : Source.reserve next.1.device next.2 + 1 ≤ rounds := by
          by_cases before : state.1.unread = []
          · have less := (spends before).resolve_left empty
            omega
          · have positive := List.length_pos_iff.mpr before
            rw [same before]
            omega
        obtain ⟨last, made, ahead'⟩ := step _ left (by rw [spent]; exact fewer)
        have front : upTo delimiter bytes = next.1.unread ++ upTo delimiter later := by
          rw [cut]
          exact upTo_append_of_missing later found
        rw [front, List.length_append, ← List.drop_drop]
        exact ⟨last, collect_of_missing filled empty found made, ahead'⟩

/-- A read up to a delimiter appends the bytes ahead up to the first one and returns their number. -/
theorem readUntil_ahead (hands : Source.HandsOut δ rest good) (delimiter : UInt8) {bytes : Bytes}
    {state : Reader δ × Machine} (ahead : Ahead rest good bytes state) :
    ∃ next, (∀ out, readUntil delimiter out state =
        (.ok ⟨out ++ upTo delimiter bytes, .ok (upTo delimiter bytes).length⟩, next)) ∧
      Ahead rest good (bytes.drop (upTo delimiter bytes).length) next := by
  have enough : Source.reserve state.1.device state.2 + 1 + min state.1.unread.length 1 ≤
      Source.reserve state.1.device state.2 + 2 := by omega
  obtain ⟨next, made, left⟩ := collect_ahead hands delimiter _ 0 ahead enough
  exact ⟨next, fun out => readUntil_of_collect out made, left⟩

/-- A demand is met as the bytes ahead say, and it leaves ahead what it leaves of them. -/
theorem Demand.run_ahead (hands : Source.HandsOut δ rest good) (demand : Demand) {bytes : Bytes}
    {state : Reader δ × Machine} (ahead : Ahead rest good bytes state) :
    ∃ result next, (demand.call.run : Act (Reader δ × Machine) Answer).attempt state = (.ok result, next) ∧
      (demand.expected bytes).1.Met result ∧ Ahead rest good (demand.expected bytes).2 next := by
  cases demand with
  | exact out => exact readExact_ahead hands out ahead
  | upTo delimiter out =>
    obtain ⟨next, made, left⟩ := readUntil_ahead hands delimiter ahead
    refine ⟨_, next, ?_, .appended _ out, left⟩
    rw [Act.attempt_eq_ok, Demand.call, Call.run, Act.bind_of_ok _ (made out)]
    rfl
  | line out =>
    obtain ⟨next, made, left⟩ := readUntil_ahead hands lineEnd ahead
    have drawn : readUntil lineEnd [] state =
        (.ok ((Collected.mk (Reader.upTo lineEnd bytes) (.ok ())).onto []), next) := made []
    refine ⟨_, next, ?_, Expected.met_lineOnto _ out, left⟩
    rw [Act.attempt_eq_ok, Demand.call, Call.run, Act.bind_of_ok _ (readLine_of_readUntil out drawn)]
    rfl

/-- Demands in a row are met as the bytes ahead say. -/
theorem each_ahead (hands : Source.HandsOut δ rest good) (demands : List Demand) {bytes : Bytes}
    {state : Reader δ × Machine} (ahead : Ahead rest good bytes state) :
    ∃ results next, Act.each (fun demand => demand.call.run) demands state = (.ok results, next) ∧
      List.Forall₂ Expected.Met (reference demands bytes).1 results ∧
      Ahead rest good (reference demands bytes).2 next := by
  induction demands generalizing bytes state with
  | nil => exact ⟨[], state, rfl, .nil, ahead⟩
  | cons demand demands step =>
    obtain ⟨result, middle, made, met, left⟩ := demand.run_ahead hands ahead
    obtain ⟨results, next, later, mets, last⟩ := step left
    refine ⟨result :: results, next, ?_, .cons met mets, last⟩
    rw [Act.each, Act.bind_of_ok _ made, Act.bind_of_ok _ later]
    rfl

/--
Readers over the same bytes give the same answers, which are those of the bytes alone. Neither the
capacities nor the portions in which the sources hand the bytes out make a difference. The number that a read
up to a delimiter returns is that of the bytes it takes off them, and it is zero only at their end.
-/
theorem answers_eq_reference [Source ζ] {rest' : ζ × Machine → Bytes} {good' : ζ × Machine → Prop}
    (hands : Source.HandsOut δ rest good) (hands' : Source.HandsOut ζ rest' good')
    (capacity capacity' : Nat) {device : δ} {device' : ζ} {machine machine' : Machine} {bytes : Bytes}
    (ready : good (device, machine)) (ready' : good' (device', machine'))
    (whole : rest (device, machine) = bytes) (whole' : rest' (device', machine') = bytes)
    (demands : List Demand) :
    ∃ results next results' next',
      Act.each (fun demand => demand.call.run) demands (withCapacity capacity device, machine) =
        (.ok results, next) ∧
      Act.each (fun demand => demand.call.run) demands (withCapacity capacity' device', machine') =
        (.ok results', next') ∧
      List.Forall₂ Expected.Met (reference demands bytes).1 results ∧
      List.Forall₂ Expected.Met (reference demands bytes).1 results' ∧
      ∀ delimiter left, (Reader.upTo delimiter left).length = 0 ↔ left = [] := by
  subst whole
  obtain ⟨results, next, made, met, -⟩ := each_ahead hands demands (ahead_withCapacity capacity ready)
  obtain ⟨results', next', made', met', -⟩ := each_ahead hands' demands (ahead_withCapacity capacity' ready')
  rw [whole'] at met'
  exact ⟨results, next, results', next', made, made', met, met', length_upTo_eq_zero_iff⟩

/-- A source that hands out its bytes in planned portions, and one by one after the plan's end. -/
structure Dealer where
  bytes : Bytes
  plan : List Nat

namespace Dealer

/-- The size of the next portion that goes into a buffer. -/
def portion (dealer : Dealer) (buffer : Bytes) : Nat :=
  min dealer.bytes.length (min (max 1 (dealer.plan.headD 1)) buffer.length)

instance : Source Dealer where
  read buffer := fun (dealer, machine) =>
    (.ok ⟨Bytes.overlay (dealer.bytes.take (dealer.portion buffer)) buffer, .ok (dealer.portion buffer)⟩,
      ⟨dealer.bytes.drop (dealer.portion buffer), dealer.plan.tail⟩, machine)
  reserve dealer _ := dealer.bytes.length

/-- A dealer hands out its bytes. -/
theorem handsOut : Source.HandsOut Dealer (fun state => state.1.bytes) fun _ => True := by
  rintro buffer ⟨dealer, machine⟩ -
  have bounded : dealer.portion buffer ≤ buffer.length := by
    unfold portion
    omega
  have size : (dealer.bytes.take (dealer.portion buffer)).length = dealer.portion buffer := by
    rw [List.length_take, portion]
    omega
  have fits : (dealer.bytes.take (dealer.portion buffer)).length ≤ buffer.length := by
    rw [size]
    exact bounded
  have front := Bytes.take_overlay fits
  rw [size] at front
  refine ⟨_, _, _, rfl, Bytes.length_overlay _ _, bounded, ?_, ?_, ?_, trivial⟩
  · rw [front]
    exact List.take_append_drop _ _
  · intro asks some
    have room := List.length_pos_iff.mpr asks
    have more := List.length_pos_iff.mpr some
    unfold portion
    dsimp only at more
    omega
  · intro some
    change (dealer.bytes.drop (dealer.portion buffer)).length < dealer.bytes.length
    have inside : dealer.portion buffer ≤ dealer.bytes.length := Nat.min_le_left _ _
    rw [List.length_drop]
    omega

end Dealer

/-- Portions that end inside a character and a cursor that has no portions make no difference. -/
theorem answers_eq_reference_dealer_cursor :
    let bytes : Bytes := [104, 0xc3, 0xa9, 10, 120, 121]
    let demands := [Demand.line "x", .exact [0], .upTo 10 [1], .exact [0, 0]]
    let machine := { Machine.start ⟨[]⟩ .off with memory := Memory.blank.store 4096 bytes }
    let cursor := Cursor.start ⟨4096, 6, Protection.read, .copied⟩
    ∃ results next results' next',
      Act.each (fun demand => demand.call.run) demands (withCapacity 3 (Dealer.mk bytes [2, 1, 2]), machine) =
        (.ok results, next) ∧
      Act.each (fun demand => demand.call.run) demands (withCapacity 1 cursor, machine) =
        (.ok results', next') ∧
      List.Forall₂ Expected.Met (reference demands bytes).1 results ∧
      List.Forall₂ Expected.Met (reference demands bytes).1 results' := by
  intro bytes demands machine cursor
  have whole : Cursor.rest (cursor, machine) = bytes := Memory.load_store Memory.blank 4096 bytes
  obtain ⟨results, next, results', next', made, made', met, met', -⟩ :=
    answers_eq_reference Dealer.handsOut Cursor.handsOut 3 1 trivial trivial
      (show (Dealer.mk bytes [2, 1, 2]).bytes = bytes from rfl) whole demands
  exact ⟨results, next, results', next', made, made', met, met'⟩

end LinuxCalls.Reader
