/-
This file follows a line through a source that fails now and then. A failed read of a line keeps the bytes
that it has taken, so reading the line again gives only the part after the last error. Reading again until
something else comes leaves the same bytes unread as one read without an error.
-/

import LinuxCalls.Proofs.Stream.Chunking

namespace LinuxCalls

variable {δ : Type}

namespace Source

variable [Source δ]

/--
An answer of a source that hands out its rest and may fail. A failed read takes nothing off the rest, and
it uses up one of the failures to come.
-/
inductive Dealt (rest : δ × Machine → Bytes) (failures : δ × Machine → Nat) (buffer : Bytes)
    (before : δ × Machine) : Reading → δ × Machine → Prop
  | count {count : Nat} {filled : Bytes} {next : δ × Machine} (size : filled.length = buffer.length)
      (bounded : count ≤ buffer.length) (front : filled.take count ++ rest next = rest before)
      (brings : buffer ≠ [] → rest before ≠ [] → 0 < count)
      (spends : 0 < count → Source.reserve next.1 next.2 < Source.reserve before.1 before.2)
      (same : failures next = failures before) : Dealt rest failures buffer before ⟨filled, .ok count⟩ next
  | error {error : Errno} {filled : Bytes} {next : δ × Machine} (size : filled.length = buffer.length)
      (kept : rest next = rest before) (fewer : failures next < failures before) :
      Dealt rest failures buffer before ⟨filled, .error error⟩ next

/-- A source falters on some states if every read from them hands out some of its rest or fails. -/
def Falters (δ : Type) [Source δ] (rest : δ × Machine → Bytes) (failures : δ × Machine → Nat)
    (good : δ × Machine → Prop) : Prop :=
  ∀ (buffer : Bytes) (state : δ × Machine), good state → ∃ reading next,
    Source.read buffer state = (.ok reading, next) ∧ Dealt rest failures buffer state reading next ∧ good next

end Source

namespace Reader

variable {rest : δ × Machine → Bytes} {failures : δ × Machine → Nat} {good : δ × Machine → Prop}

/-- The failures to come of a reader's source. -/
def sourceFailures (failures : δ × Machine → Nat) (state : Reader δ × Machine) : Nat :=
  failures (state.1.device, state.2)

/--
How a collection of bytes ends over a source that may fail. A failed one has taken a part without a
delimiter, and all bytes that were unread before are in that part.
-/
inductive Drawn (rest : δ × Machine → Bytes) (failures : δ × Machine → Nat) (good : δ × Machine → Prop)
    (delimiter : UInt8) (bytes : Bytes) (before : Reader δ × Machine) : Collected → Reader δ × Machine → Prop
  | whole {left : Bytes} {next : Reader δ × Machine} (split : upTo delimiter bytes ++ left = bytes)
      (same : sourceFailures failures next = sourceFailures failures before)
      (ahead : Ahead rest good left next) :
      Drawn rest failures good delimiter bytes before ⟨upTo delimiter bytes, .ok ()⟩ next
  | failed {part left : Bytes} {error : Errno} {next : Reader δ × Machine} (split : part ++ left = bytes)
      (line : part ++ upTo delimiter left = upTo delimiter bytes) (used : before.1.unread <+: part)
      (fewer : sourceFailures failures next < sourceFailures failures before)
      (ahead : Ahead rest good left next) :
      Drawn rest failures good delimiter bytes before ⟨part, .error error⟩ next

variable [Source δ]

/--
A fill over a source that may fail leaves the bytes ahead as they are. It either has nothing to do, or it
uses up some of the source's reserve, or it finds the end, or it fails with no byte unread.
-/
inductive Refilled (rest : δ × Machine → Bytes) (failures : δ × Machine → Nat) (good : δ × Machine → Prop)
    (bytes : Bytes) (before : Reader δ × Machine) : Except Errno Unit → Reader δ × Machine → Prop
  | fine {next : Reader δ × Machine} (ahead : Ahead rest good bytes next)
      (ended : next.1.unread = [] → bytes = [])
      (spends : before.1.unread = [] →
        next.1.unread = [] ∨ Source.reserve next.1.device next.2 < Source.reserve before.1.device before.2)
      (already : before.1.unread ≠ [] → next = before)
      (same : sourceFailures failures next = sourceFailures failures before) :
      Refilled rest failures good bytes before (.ok ()) next
  | failed {error : Errno} {next : Reader δ × Machine} (ahead : Ahead rest good bytes next)
      (empty : before.1.unread = []) (fewer : sourceFailures failures next < sourceFailures failures before) :
      Refilled rest failures good bytes before (.error error) next

/-- A fill keeps the unread bytes that there are. -/
theorem Refilled.unread_prefix {bytes : Bytes} {before next : Reader δ × Machine} {ending : Except Errno Unit}
    (refilled : Refilled rest failures good bytes before ending next) : before.1.unread <+: next.1.unread := by
  by_cases empty : before.1.unread = []
  · rw [empty]
    exact List.nil_prefix
  · cases refilled with
    | fine _ _ _ already =>
      obtain rfl := already empty
      exact List.prefix_refl _
    | failed _ none => exact absurd none empty

/-- A fill over a source that may fail takes nothing off the bytes ahead. -/
theorem fill_falters (falters : Source.Falters δ rest failures good) {bytes : Bytes} {state : Reader δ × Machine}
    (ahead : Ahead rest good bytes state) :
    ∃ ending next, (fill : Act (Reader δ × Machine) Unit).attempt state = (.ok ending, next) ∧
      Refilled rest failures good bytes state ending next := by
  by_cases empty : state.1.mark ≤ state.1.position
  · have none := (unread_eq_nil_iff ahead.inside).mpr empty
    obtain ⟨whole, fine⟩ := ahead.account
    rw [none, List.append_nil, List.nil_append] at whole
    obtain ⟨reading, next, asked, dealt, still⟩ := falters state.1.buffer _ fine
    cases dealt with
    | @count count filled _ size bounded front brings spends same =>
      have room : filled ≠ [] := by
        rw [← List.length_pos_iff, size, List.length_pos_iff]
        exact ahead.room
      have kept : Ahead rest good bytes (⟨next.1, filled, 0, count⟩, next.2) := by
        refine ⟨Nat.zero_le _, by rw [size]; exact bounded, room, ?_, still⟩
        rw [unread_filled, List.nil_append, ← whole]
        exact front
      have unread : (Reader.mk next.1 filled 0 count).unread.length = count := by
        rw [length_unread (by rw [size]; exact bounded)]
        exact Nat.sub_zero count
      refine ⟨_, _, fill_of_read empty asked bounded, .fine kept ?_ ?_ (fun some => absurd none some) same⟩
      · intro nothing
        rw [← List.length_eq_zero_iff, unread] at nothing
        apply Decidable.byContradiction
        intro some
        have positive := brings ahead.room (whole ▸ some)
        omega
      · intro _
        by_cases more : 0 < count
        · exact .inr (spends more)
        · refine .inl (List.eq_nil_of_length_eq_zero ?_)
          rw [unread]
          omega
    | @error error filled _ size kept fewer =>
      refine ⟨_, _, fill_of_error empty asked, .failed ?_ none fewer⟩
      have inside : state.1.mark ≤ filled.length := by
        rw [size]
        exact ahead.inside
      have unread : ({ state.1 with device := next.1, buffer := filled } : Reader δ).unread = [] :=
        (unread_eq_nil_iff inside).mpr empty
      refine ⟨ahead.ordered, inside, ?_, ?_, still⟩
      · rw [← List.length_pos_iff, size, List.length_pos_iff]
        exact ahead.room
      · rw [unread, ← whole, ← kept]
        rfl
  · have some : state.1.unread ≠ [] := by rwa [Ne, unread_eq_nil_iff ahead.inside]
    exact ⟨_, _, fill_of_unread empty, .fine ahead (fun none => absurd none some) (fun none => absurd none some)
      (fun _ => rfl) rfl⟩

/-- The bytes up to the first delimiter and those behind it are all bytes. -/
theorem upTo_append_drop (delimiter : UInt8) (bytes : Bytes) :
    upTo delimiter bytes ++ bytes.drop (upTo delimiter bytes).length = bytes := by
  have front : upTo delimiter bytes <+: bytes := by
    unfold upTo
    cases bytes.findIdx? (· == delimiter) with
    | some index => exact List.take_prefix _ _
    | none => exact List.prefix_refl _
  exact List.prefix_iff_eq_append.mp front

/-- Enough rounds collect the bytes ahead up to the first delimiter or to the source's next failure. -/
theorem collect_falters (falters : Source.Falters δ rest failures good) (delimiter : UInt8) (rounds total : Nat)
    {bytes : Bytes} {state : Reader δ × Machine} (ahead : Ahead rest good bytes state)
    (enough : Source.reserve state.1.device state.2 + 1 + min state.1.unread.length 1 ≤ rounds) :
    ∃ collected next,
      readUntil.collect delimiter rounds total state = (.ok (Collected.counted collected total), next) ∧
      Drawn rest failures good delimiter bytes state collected next := by
  -- A round ends the read or empties the buffer, and only a fill that fails or spends some reserve follows.
  induction rounds generalizing total bytes state with
  | zero => omega
  | succ rounds step =>
    obtain ⟨ending, next, filled, refilled⟩ := fill_falters falters ahead
    have used := refilled.unread_prefix
    cases refilled with
    | failed left empty fewer =>
      refine ⟨_, next, collect_of_failed filled, .failed (List.nil_append _) (List.nil_append _) ?_ fewer left⟩
      exact empty ▸ List.nil_prefix
    | fine still ended spends already same =>
      by_cases empty : next.1.unread = []
      · have nothing := ended empty
        subst nothing
        exact ⟨_, next, collect_of_empty filled empty, .whole rfl same still⟩
      · obtain ⟨split, -⟩ := ahead_of_keeps still
        rw [List.nil_append] at split
        have moved (amount : Nat) := ahead_of_keeps (still.past amount)
        cases found : next.1.unread.findIdx? (· == delimiter) with
        | some index =>
          have front : upTo delimiter bytes = next.1.unread.take (index + 1) := by
            rw [← split]
            exact upTo_append_of_found _ found
          refine ⟨_, _, collect_of_found filled found, ?_⟩
          rw [← front]
          refine .whole (upTo_append_drop _ _) same ?_
          rw [front]
          exact (moved (index + 1)).2
        | none =>
          let later := bytes.drop next.1.unread.length
          have left : Ahead rest good later (next.1.past next.1.unread.length, next.2) := by
            have all := (moved next.1.unread.length).2
            rwa [List.nil_append, List.take_length] at all
          have cut : next.1.unread ++ later = bytes := by
            change next.1.unread ++ bytes.drop next.1.unread.length = bytes
            rw [← split, List.drop_left]
          have spent : (next.1.past next.1.unread.length).unread = [] := by rw [unread_past, List.drop_length]
          have fewer : Source.reserve next.1.device next.2 + 1 ≤ rounds := by
            by_cases before : state.1.unread = []
            · have less := (spends before).resolve_left empty
              omega
            · have positive := List.length_pos_iff.mpr before
              rw [already before]
              omega
          have front : next.1.unread ++ upTo delimiter later = upTo delimiter bytes := by
            rw [← cut, upTo_append_of_missing later found]
          obtain ⟨collected, last, made, drawn⟩ := step _ left (by rw [spent]; exact fewer)
          refine ⟨_, last, collect_of_missing filled empty found made, ?_⟩
          cases drawn with
          | whole split' same' ahead' =>
            dsimp only
            rw [front]
            refine .whole ?_ (same'.trans same) ahead'
            rw [← front, List.append_assoc, split', cut]
          | failed split' line used' fewer' ahead' =>
            refine .failed ?_ ?_ (used.trans (List.prefix_append _ _)) (same ▸ fewer') ahead'
            · rw [List.append_assoc, split', cut]
            · rw [List.append_assoc, line, front]

/-- A read up to a delimiter over a source that may fail ends with the delimiter or with the source's error. -/
theorem readUntil_falters (falters : Source.Falters δ rest failures good) (delimiter : UInt8) {bytes : Bytes}
    {state : Reader δ × Machine} (ahead : Ahead rest good bytes state) :
    ∃ collected next, (∀ out, readUntil delimiter out state = (.ok (Collected.onto collected out), next)) ∧
      Drawn rest failures good delimiter bytes state collected next := by
  have enough : Source.reserve state.1.device state.2 + 1 + min state.1.unread.length 1 ≤
      Source.reserve state.1.device state.2 + 2 := by omega
  obtain ⟨collected, next, made, drawn⟩ := collect_falters falters delimiter _ 0 ahead enough
  exact ⟨collected, next, fun out => readUntil_of_collect out made, drawn⟩

/-- Reads of a line onto the same text, in a row, that all report a failure of the source and append nothing. -/
inductive Interrupted (failures : δ × Machine → Nat) (out : String) :
    Reader δ × Machine → List Errno → Reader δ × Machine → Prop
  | none (state : Reader δ × Machine) : Interrupted failures out state [] state
  | again {state middle next : Reader δ × Machine} {error : Errno} {errors : List Errno}
      (called : readLine out state = (.ok ⟨out, .error error⟩, middle))
      (fewer : sourceFailures failures middle < sourceFailures failures state)
      (later : Interrupted failures out middle errors next) : Interrupted failures out state (error :: errors) next

/-- A read of a line that does not report a failure of the source. -/
structure Concludes (failures : δ × Machine → Nat) (out : String) (state : Reader δ × Machine)
    (line : Appended String) (next : Reader δ × Machine) : Prop where
  called : readLine out state = (.ok line, next)
  same : sourceFailures failures next = sourceFailures failures state

/--
How reads of a line that are repeated after every failure of the source end. The failed reads have taken the
front of the line, and the last one appends what is behind it.
-/
structure Resumed (rest : δ × Machine → Bytes) (failures : δ × Machine → Nat) (good : δ × Machine → Prop)
    (out : String) (bytes : Bytes) (state : Reader δ × Machine) (lost last left : Bytes) : Prop where
  split : lost ++ last ++ left = bytes
  line : lost ++ last = upTo lineEnd bytes
  run : ∃ errors middle next, Interrupted failures out state errors middle ∧
    Ahead rest good (last ++ left) middle ∧ Concludes failures out middle (lineOnto out ⟨last, .ok ()⟩) next ∧
    Ahead rest good left next ∧ (errors = [] → lost = []) ∧ (errors ≠ [] → state.1.unread <+: lost)

/-- Reads of a line that are repeated after every failure of the source come to an end. -/
theorem exists_resumed (falters : Source.Falters δ rest failures good) (out : String) {bytes : Bytes}
    {state : Reader δ × Machine} (ahead : Ahead rest good bytes state) :
    ∃ lost last left, Resumed rest failures good out bytes state lost last left := by
  -- Every failed read uses up at least one of the failures to come.
  induction count : sourceFailures failures state using Nat.strongRecOn generalizing bytes state with
  | ind count step =>
    obtain ⟨line, middle, came, drawn⟩ := readUntil_falters falters lineEnd ahead
    have called := readLine_of_readUntil out (came [])
    cases drawn with
    | @whole left _ split same ahead' =>
      refine ⟨[], upTo lineEnd bytes, left, split, rfl, [], state, middle, .none state, ?_, ⟨called, same⟩, ahead',
        fun _ => rfl, fun some => absurd rfl some⟩
      rwa [split]
    | @failed part left error _ split line used fewer ahead' =>
      subst count
      obtain ⟨lost, last, left', split', line', errors, state', next, interrupted, ahead, concludes, ended, -, -⟩ :=
        step _ fewer ahead' rfl
      refine ⟨part ++ lost, last, left', ?_, ?_, error :: errors, state', next, .again called fewer interrupted,
        ahead, concludes, ended, nofun, fun _ => used.trans (List.prefix_append _ _)⟩
      · rw [List.append_assoc part, List.append_assoc part, split', split]
      · rw [List.append_assoc, line', line]

/-- A line is given as a text exactly if it has the bytes of that text. -/
theorem lineOf_eq_ok_iff {bytes : Bytes} {text : String} :
    lineOf ⟨bytes, .ok ()⟩ = .ok text ↔ bytes = Bytes.ofText text := by
  rw [← Text.ofBytes?_eq_some_iff]
  unfold lineOf
  cases found : Text.ofBytes? bytes with
  | some other => simp
  | none => simp

end Reader

/-- A source that hands out its bytes in planned portions, with planned errors between them. -/
structure Faltering where
  bytes : Bytes
  plan : List (Except Errno Nat)

namespace Faltering

/-- This action hands out the next portion and leaves what is planned behind it. -/
def deal (sizes : List Nat) (plan : List (Except Errno Nat)) (buffer : Bytes) :
    Act (Faltering × Machine) Reading :=
  Act.focus (fun (faltering, machine) => (Reader.Dealer.mk faltering.bytes sizes, machine))
    (fun _ (dealer, machine) => (⟨dealer.bytes, plan⟩, machine)) (Source.read buffer)

instance : Source Faltering where
  read buffer := do
    let (faltering, _) ← Act.get
    match faltering.plan with
    | [] => deal [] [] buffer
    | .ok size :: plan => deal [size] plan buffer
    | .error error :: plan =>
      Act.modify fun (faltering, machine) => (⟨faltering.bytes, plan⟩, machine)
      return ⟨buffer, .error error⟩
  reserve faltering _ := faltering.bytes.length

/-- The errors that are still planned. -/
def failures (state : Faltering × Machine) : Nat :=
  state.1.plan.countP fun step => !step.isOk

/-- A portion is dealt off the front of the bytes. -/
theorem dealt_deal (sizes : List Nat) {before plan : List (Except Errno Nat)} (buffer bytes : Bytes)
    (machine : Machine) (same : failures (⟨bytes, plan⟩, machine) = failures (⟨bytes, before⟩, machine)) :
    ∃ reading next, deal sizes plan buffer (⟨bytes, before⟩, machine) = (.ok reading, next) ∧
      Source.Dealt (fun state => state.1.bytes) failures buffer (⟨bytes, before⟩, machine) reading next := by
  obtain ⟨filled, count, next, asked, size, bounded, front, brings, spends, -⟩ :=
    Reader.Dealer.handsOut buffer (⟨bytes, sizes⟩, machine) trivial
  refine ⟨_, (⟨next.1.bytes, plan⟩, next.2), ?_, .count size bounded front brings spends same⟩
  rw [deal, Act.focus_apply, asked]

/-- Whatever is planned, the source hands out its bytes and fails as often as is planned. -/
theorem falters : Source.Falters Faltering (fun state => state.1.bytes) failures fun _ => True := by
  intro buffer ⟨⟨bytes, plan⟩, machine⟩ _
  cases plan with
  | nil =>
    have same : failures (⟨bytes, []⟩, machine) = failures (⟨bytes, []⟩, machine) := rfl
    obtain ⟨reading, next, asked, dealt⟩ := dealt_deal [] buffer bytes machine same
    exact ⟨reading, next, asked, dealt, trivial⟩
  | cons step plan =>
    cases step with
    | ok size =>
      have same : failures (⟨bytes, plan⟩, machine) = failures (⟨bytes, .ok size :: plan⟩, machine) := by
        simp [failures, Except.isOk, Except.toBool]
      obtain ⟨reading, next, asked, dealt⟩ := dealt_deal [size] buffer bytes machine same
      exact ⟨reading, next, asked, dealt, trivial⟩
    | error error =>
      have fewer : failures (⟨bytes, plan⟩, machine) < failures (⟨bytes, .error error :: plan⟩, machine) := by
        simp [failures, Except.isOk, Except.toBool]
      exact ⟨⟨buffer, .error error⟩, (⟨bytes, plan⟩, machine), rfl, .error rfl rfl fewer, trivial⟩

end Faltering

namespace Reader

variable [Source δ] {rest : δ × Machine → Bytes} {failures : δ × Machine → Nat} {good : δ × Machine → Prop}

/--
Reads of a line that are repeated after every failure of the source leave the same bytes ahead as one read
over a source that does not fail. The text that they give is the line without the part that the failed reads
have taken, so it is the line only if they have taken nothing.
-/
theorem resumed_of_falters {ζ : Type} [Source ζ] {rest' : ζ × Machine → Bytes} {good' : ζ × Machine → Prop}
    (falters : Source.Falters δ rest failures good) (hands : Source.HandsOut ζ rest' good') {bytes : Bytes}
    {state : Reader δ × Machine} {other : Reader ζ × Machine} (ahead : Ahead rest good bytes state)
    (ahead' : Ahead rest' good' bytes other) (out : String) :
    ∃ lost last left next, Resumed rest failures good out bytes state lost last left ∧
      readLine out other = (.ok (lineOnto out ⟨lost ++ last, .ok ()⟩), next) ∧
      Ahead rest' good' left next ∧
      ∀ text, lineOf ⟨last, .ok ()⟩ = .ok text → lineOf ⟨lost ++ last, .ok ()⟩ = .ok text → lost = [] := by
  obtain ⟨lost, last, left, resumed⟩ := exists_resumed falters out ahead
  obtain ⟨next, made, behind⟩ := readUntil_ahead hands lineEnd ahead'
  rw [← resumed.line] at made behind
  rw [← resumed.split, List.drop_left] at behind
  have whole : readUntil lineEnd [] other = (.ok (Collected.onto ⟨lost ++ last, .ok ()⟩ []), next) := made []
  refine ⟨lost, last, left, next, resumed, readLine_of_readUntil out whole, behind, fun text given whole => ?_⟩
  have same : lost ++ last = last := (lineOf_eq_ok_iff.mp whole).trans (lineOf_eq_ok_iff.mp given).symm
  exact List.append_left_eq_self.mp same

/-- An error behind the second byte of a line, which is then read again, and the line over another source. -/
theorem resumed_of_falters_split_line :
    let bytes : Bytes := [97, 98, 99, 10, 100]
    let machine := Machine.start ⟨[]⟩ .off
    let state := (withCapacity 8 (Faltering.mk bytes [.ok 2, .error Errno.interrupted]), machine)
    let other := (withCapacity 1 (Dealer.mk bytes []), machine)
    ∃ lost last left next,
      Resumed (fun source : Faltering × Machine => source.1.bytes) Faltering.failures (fun _ => True) "x" bytes state
        lost last left ∧
      readLine "x" other = (.ok (lineOnto "x" ⟨lost ++ last, .ok ()⟩), next) ∧
      Ahead (fun source : Dealer × Machine => source.1.bytes) (fun _ => True) left next := by
  intro bytes machine state other
  have ahead := @ahead_withCapacity _ (fun source => source.1.bytes) (fun _ => True) 8 state.1.device machine trivial
  have ahead' := @ahead_withCapacity _ (fun source => source.1.bytes) (fun _ => True) 1 other.1.device machine trivial
  obtain ⟨lost, last, left, next, resumed, whole, behind, -⟩ :=
    resumed_of_falters Faltering.falters Dealer.handsOut ahead ahead' "x"
  exact ⟨lost, last, left, next, resumed, whole, behind⟩

/-- Repeated reads of a line over a source that fails leave the text that one read over another source leaves. -/
def ResumesLine {ζ : Type} [Source ζ] (failures : δ × Machine → Nat) (out : String) (state : Reader δ × Machine)
    (other : Reader ζ × Machine) : Prop :=
  ∀ errors middle line next, Interrupted failures out state errors middle →
    Concludes failures out middle line next → (readLine out other).1.map Appended.out = .ok line.out

/-- The first two bytes of the line "abc" are lost where an error comes behind them. -/
theorem not_resumesLine_split_line :
    let machine := Machine.start ⟨[]⟩ .off
    ¬ ResumesLine Faltering.failures ""
      (withCapacity 2 (Faltering.mk [97, 98, 99, 10] [.ok 2, .error Errno.interrupted, .ok 2]), machine)
      (withCapacity 2 (Dealer.mk [97, 98, 99, 10] []), machine) := by
  intro machine resumes
  let middle : Reader Faltering × Machine := (⟨⟨[99, 10], [.ok 2]⟩, [97, 98], 2, 2⟩, machine)
  let next : Reader Faltering × Machine := (⟨⟨[], []⟩, [99, 10], 2, 2⟩, machine)
  have part : readLine ""
      (withCapacity 2 (Faltering.mk [97, 98, 99, 10] [.ok 2, .error Errno.interrupted, .ok 2]), machine) =
      (.ok ⟨"", .error Errno.interrupted⟩, middle) := by rfl
  have short : readUntil lineEnd [] middle = (.ok (Collected.onto ⟨[99, 10], .ok ()⟩ []), next) := by rfl
  have long : readUntil lineEnd [] (withCapacity 2 (Dealer.mk [97, 98, 99, 10] []), machine) =
      (.ok (Collected.onto ⟨[97, 98, 99, 10], .ok ()⟩ []), (⟨⟨[], []⟩, [10, 0], 1, 1⟩, machine)) := by rfl
  have last : lineOf ⟨[99, 10], .ok ()⟩ = .ok "c\n" := lineOf_eq_ok_iff.mpr (by decide)
  have whole : lineOf ⟨[97, 98, 99, 10], .ok ()⟩ = .ok "abc\n" := lineOf_eq_ok_iff.mpr (by decide)
  have given := resumes [Errno.interrupted] middle _ next (.again part (by decide) (.none middle))
    ⟨readLine_of_readUntil "" short, by rfl⟩
  rw [readLine_of_readUntil "" long, lineOnto, lineOnto, last, whole] at given
  exact absurd (Except.ok.inj given) (by decide)

end Reader

end LinuxCalls
