/-
This file follows the bytes through the operations of a reader. For every account of the source it
says what an operation takes off the front of the stream and what stays unread, also when the
operation fails half way.
-/

import LinuxCalls.Proofs.Stream.Account

namespace LinuxCalls

namespace Collected

/-- What a collection gives that has brought some bytes, behind a number of other ones. -/
def counted (collected : Collected) (total : Nat) : Appended Bytes :=
  ⟨collected.bytes, collected.ending.map fun _ => total + collected.bytes.length⟩

/-- What becomes of a caller's bytes where a read up to a delimiter brings some more. -/
def onto (collected : Collected) (out : Bytes) : Appended Bytes :=
  ⟨out ++ collected.bytes, collected.ending.map fun _ => collected.bytes.length⟩

end Collected

namespace Reader

variable {δ : Type}

/-- As many bytes are unread as lie between the position and the mark. -/
theorem length_unread {reader : Reader δ} (inside : reader.mark ≤ reader.buffer.length) :
    reader.unread.length = reader.mark - reader.position := by
  rw [unread, List.length_take, List.length_drop]
  omega

/-- No byte is unread exactly if the position has reached the mark. -/
theorem unread_eq_nil_iff {reader : Reader δ} (inside : reader.mark ≤ reader.buffer.length) :
    reader.unread = [] ↔ reader.mark ≤ reader.position := by
  rw [← List.length_eq_zero_iff, length_unread inside]
  omega

/-- After a fill the unread bytes are those at the buffer's start. -/
theorem unread_filled (device : δ) (buffer : Bytes) (count : Nat) :
    (Reader.mk device buffer 0 count).unread = buffer.take count := by
  rw [unread, List.drop_zero, Nat.sub_zero]

/-- A reader that has moved past some of its unread bytes. -/
def past (reader : Reader δ) (amount : Nat) : Reader δ :=
  { reader with position := min (reader.position + amount) reader.mark }

/-- Taking bytes moves the reader past them. -/
theorem consume_apply (amount : Nat) (state : Reader δ × Machine) :
    consume amount state = (.ok (), (state.1.past amount, state.2)) := rfl

/-- Moving past bytes takes them off the front of the unread ones. -/
theorem unread_past (reader : Reader δ) (amount : Nat) :
    (reader.past amount).unread = reader.unread.drop amount := by
  unfold past unread
  rw [List.drop_take, List.drop_drop]
  by_cases inside : reader.position + amount ≤ reader.mark
  · rw [Nat.min_eq_left inside, Nat.sub_add_eq]
  · have ended : reader.mark - reader.position - amount = 0 := by omega
    rw [Nat.min_eq_right (by omega), Nat.sub_self, ended, List.take_zero, List.take_zero]

/--
A reader keeps its account while its position and its mark are in order and the source has supplied
exactly what was taken followed by what is unread.
-/
structure Keeps (supplied : δ × Machine → Bytes → Prop) (taken : Bytes) (state : Reader δ × Machine) :
    Prop where
  ordered : state.1.position ≤ state.1.mark
  inside : state.1.mark ≤ state.1.buffer.length
  room : state.1.buffer ≠ []
  account : supplied (state.1.device, state.2) (taken ++ state.1.unread)

theorem keeps_withCapacity {supplied : δ × Machine → Bytes → Prop} (capacity : Nat) {device : δ}
    {machine : Machine} (nothing : supplied (device, machine) []) :
    Keeps supplied [] (withCapacity capacity device, machine) where
  ordered := Nat.le_refl _
  inside := Nat.zero_le _
  room := by
    apply List.ne_nil_of_length_pos
    rw [withCapacity, Bytes.length_zeros]
    omega
  account := by
    rw [withCapacity, unread_filled]
    exact nothing

/-- What a consumption takes is the front of the unread bytes. -/
theorem Keeps.past {supplied : δ × Machine → Bytes → Prop} {taken : Bytes} {state : Reader δ × Machine}
    (kept : Keeps supplied taken state) (amount : Nat) :
    Keeps supplied (taken ++ state.1.unread.take amount) (state.1.past amount, state.2) where
  ordered := Nat.min_le_right _ _
  inside := kept.inside
  room := kept.room
  account := by
    rw [unread_past, List.append_assoc, List.take_append_drop]
    exact kept.account

/-- How a reader ends that was asked to have unread bytes. It asks its source only if it has none. -/
inductive Filled (ended : δ × Machine → Prop) (failed : Errno → δ × Machine → Prop)
    (before : Reader δ × Machine) : Except Errno Unit → Reader δ × Machine → Prop
  | already (some : before.1.unread ≠ []) : Filled ended failed before (.ok ()) before
  | refilled {next : Reader δ × Machine} (empty : before.1.unread = [])
      (last : next.1.unread = [] → ended (next.1.device, next.2)) : Filled ended failed before (.ok ()) next
  | failed {error : Errno} {next : Reader δ × Machine} (empty : before.1.unread = [])
      (still : next.1.unread = []) (reported : failed error (next.1.device, next.2)) :
      Filled ended failed before (.error error) next

variable {supplied : δ × Machine → Bytes → Prop} {ended : δ × Machine → Prop}
  {failed : Errno → δ × Machine → Prop}

/-- A fill that succeeds keeps the unread bytes that there are. -/
theorem Filled.unread_prefix {before next : Reader δ × Machine}
    (filled : Filled ended failed before (.ok ()) next) : before.1.unread <+: next.1.unread := by
  cases filled with
  | already => exact List.prefix_refl _
  | refilled empty => rw [empty]; exact List.nil_prefix

variable [Source δ]

/-- A reader with unread bytes does not ask its source. -/
theorem fill_of_unread {state : Reader δ × Machine} (some : ¬ state.1.mark ≤ state.1.position) :
    (fill : Act (Reader δ × Machine) Unit).attempt state = (.ok (.ok ()), state) := by
  rw [Act.attempt_eq_ok]
  simp only [fill, self, Act.bind_apply, Act.get_apply, Act.pure_apply, if_neg some]

/-- A reader without unread bytes asks its source once and keeps what that has brought. -/
theorem fill_of_read {state : Reader δ × Machine} (empty : state.1.mark ≤ state.1.position)
    {filled : Bytes} {count : Nat} {next : δ × Machine}
    (asked : Source.read state.1.buffer (state.1.device, state.2) = (.ok ⟨filled, .ok count⟩, next))
    (bounded : count ≤ state.1.buffer.length) :
    (fill : Act (Reader δ × Machine) Unit).attempt state =
      (.ok (.ok ()), (⟨next.1, filled, 0, count⟩, next.2)) := by
  have notBeyond : ¬ state.1.buffer.length < count := by omega
  rw [Act.attempt_eq_ok]
  simp only [fill, self, onDevice, change, Act.bind_apply, Act.get_apply, Act.pure_apply,
    if_pos empty, Act.focus_apply, asked, Act.modify_apply, Act.ofExcept]
  rw [if_neg notBeyond]
  rfl

/-- A reader whose source fails leaves its position and its mark alone. -/
theorem fill_of_error {state : Reader δ × Machine} (empty : state.1.mark ≤ state.1.position)
    {filled : Bytes} {error : Errno} {next : δ × Machine}
    (asked : Source.read state.1.buffer (state.1.device, state.2) = (.ok ⟨filled, .error error⟩, next)) :
    (fill : Act (Reader δ × Machine) Unit).attempt state =
      (.ok (.error error), ({ state.1 with device := next.1, buffer := filled }, next.2)) := by
  rw [Act.attempt_eq_error]
  simp only [fill, self, onDevice, change, Act.bind_apply, Act.get_apply, Act.pure_apply,
    if_pos empty, Act.focus_apply, asked, Act.modify_apply, Act.ofExcept, Act.fail_apply]

/-- A fill takes nothing, and a failed one leaves no unread byte where there was none. -/
theorem fill_account (account : Source.Accounts δ supplied ended failed) {taken : Bytes}
    {state : Reader δ × Machine} (kept : Keeps supplied taken state) :
    ∃ ending next, (fill : Act (Reader δ × Machine) Unit).attempt state = (.ok ending, next) ∧
      Keeps supplied taken next ∧ Filled ended failed state ending next := by
  by_cases empty : state.1.mark ≤ state.1.position
  · have none := (unread_eq_nil_iff kept.inside).mpr empty
    have before := kept.account
    rw [none, List.append_nil] at before
    obtain ⟨reading, next, asked, answered⟩ := account state.1.buffer _ _ before
    cases answered with
    | @count count filled _ size bounded supplies last =>
      refine ⟨.ok (), _, fill_of_read empty asked bounded, ?_, ?_⟩
      · refine ⟨Nat.zero_le _, by rw [size]; exact bounded, ?_, by rwa [unread_filled]⟩
        rw [← List.length_pos_iff, size, List.length_pos_iff]
        exact kept.room
      · refine .refilled none fun nothing => last ?_ kept.room
        rw [unread_filled, ← List.length_eq_zero_iff, List.length_take] at nothing
        omega
    | @error error filled _ size supplies reported =>
      have inside : state.1.mark ≤ filled.length := by
        rw [size]
        exact kept.inside
      have still : ({ state.1 with device := next.1, buffer := filled } : Reader δ).unread = [] :=
        (unread_eq_nil_iff inside).mpr empty
      refine ⟨.error error, _, fill_of_error empty asked, ?_, .failed none still reported⟩
      refine ⟨kept.ordered, inside, ?_, by rwa [still, List.append_nil]⟩
      rw [← List.length_pos_iff, size, List.length_pos_iff]
      exact kept.room
  · exact ⟨.ok (), state, fill_of_unread empty, kept, .already (by rwa [Ne, unread_eq_nil_iff kept.inside])⟩

/-- A fill that succeeds makes the unread bytes available. -/
theorem available_of_fill {state next : Reader δ × Machine}
    (filled : (fill : Act (Reader δ × Machine) Unit).attempt state = (.ok (.ok ()), next)) :
    (available : Act (Reader δ × Machine) Bytes).attempt state = (.ok (.ok next.1.unread), next) := by
  rw [Act.attempt_eq_ok] at filled ⊢
  rw [available, Act.bind_of_ok _ filled]
  rfl

/-- A fill that fails makes nothing available. -/
theorem available_of_failed {state next : Reader δ × Machine} {error : Errno}
    (filled : (fill : Act (Reader δ × Machine) Unit).attempt state = (.ok (.error error), next)) :
    (available : Act (Reader δ × Machine) Bytes).attempt state = (.ok (.error error), next) := by
  rw [Act.attempt_eq_error] at filled ⊢
  rw [available, Act.bind_of_fault _ filled]

/--
How a single read ends. It brings nothing into a buffer of some size only at the end of the input,
and it fails only where no byte is unread.
-/
inductive Brought (ended : δ × Machine → Prop) (failed : Errno → δ × Machine → Prop) (out : Bytes)
    (before : Reader δ × Machine) : Reading → Reader δ × Machine → Prop
  | count {count : Nat} {filled : Bytes} {next : Reader δ × Machine} (bounded : count ≤ out.length)
      (used : before.1.unread <+: filled.take count ++ next.1.unread)
      (last : count = 0 → out ≠ [] → next.1.unread = [] ∧ ended (next.1.device, next.2)) :
      Brought ended failed out before ⟨filled, .ok count⟩ next
  | error {error : Errno} {filled : Bytes} {next : Reader δ × Machine} (empty : before.1.unread = [])
      (still : next.1.unread = []) (reported : failed error (next.1.device, next.2)) :
      Brought ended failed out before ⟨filled, .error error⟩ next

/-- A large read of an empty buffer takes what it brings directly from the source. -/
theorem read_direct {out : Bytes} {state : Reader δ × Machine} (empty : state.1.mark ≤ state.1.position)
    (large : state.1.buffer.length ≤ out.length) :
    read out state = (onDevice (Source.read out) : Act (Reader δ × Machine) Reading) state := by
  simp only [read, self, Act.bind_apply, Act.get_apply, Act.pure_apply]
  rw [if_pos ⟨empty, large⟩]

/-- Every other read needs unread bytes and fails if there are none to be had. -/
theorem read_of_failed {out : Bytes} {state next : Reader δ × Machine} {error : Errno}
    (buffered : ¬ (state.1.mark ≤ state.1.position ∧ state.1.buffer.length ≤ out.length))
    (filled : (fill : Act (Reader δ × Machine) Unit).attempt state = (.ok (.error error), next)) :
    read out state = (.ok ⟨out, .error error⟩, next) := by
  simp only [read, self, Act.bind_apply, Act.get_apply, Act.pure_apply]
  rw [if_neg buffered, Act.bind_of_ok _ (available_of_failed filled)]
  rfl

/-- Every other read takes what it brings from the front of the unread bytes. -/
theorem read_of_filled {out : Bytes} {state next : Reader δ × Machine}
    (buffered : ¬ (state.1.mark ≤ state.1.position ∧ state.1.buffer.length ≤ out.length))
    (filled : (fill : Act (Reader δ × Machine) Unit).attempt state = (.ok (.ok ()), next)) :
    read out state = (.ok ⟨Bytes.overlay (next.1.unread.take out.length) out,
      .ok (next.1.unread.take out.length).length⟩,
      (next.1.past (next.1.unread.take out.length).length, next.2)) := by
  simp only [read, self, Act.bind_apply, Act.get_apply, Act.pure_apply]
  rw [if_neg buffered, Act.bind_of_ok _ (available_of_fill filled)]
  rfl

/-- A single read takes exactly what it brings. -/
theorem read_account (account : Source.Accounts δ supplied ended failed) (out : Bytes) {taken : Bytes}
    {state : Reader δ × Machine} (kept : Keeps supplied taken state) :
    ∃ reading next, read out state = (.ok reading, next) ∧ reading.buffer.length = out.length ∧
      Keeps supplied (taken ++ reading.chunk) next ∧ Brought ended failed out state reading next := by
  by_cases direct : state.1.mark ≤ state.1.position ∧ state.1.buffer.length ≤ out.length
  · obtain ⟨empty, large⟩ := direct
    have none := (unread_eq_nil_iff kept.inside).mpr empty
    have before := kept.account
    rw [none, List.append_nil] at before
    obtain ⟨reading, ⟨device, machine⟩, asked, answered⟩ := account out _ _ before
    refine ⟨reading, ({ state.1 with device := device }, machine), ?_, ?_, ?_, ?_⟩
    · rw [read_direct empty large, onDevice, Act.focus_apply, asked]
    · cases answered with
      | count size => exact size
      | error size => exact size
    · refine ⟨kept.ordered, kept.inside, kept.room, ?_⟩
      change supplied (device, machine) (taken ++ reading.chunk ++ state.1.unread)
      rw [none, List.append_nil]
      cases answered with
      | count _ _ supplies => exact supplies
      | error _ supplies => simpa [Reading.chunk] using supplies
    · cases answered with
      | count _ bounded _ last =>
        refine .count bounded (by rw [none]; exact List.nil_prefix) fun nothing asks => ⟨none, last nothing asks⟩
      | error _ _ reported => exact .error none none reported
  · obtain ⟨ending, next, filled, still, how⟩ := fill_account account kept
    cases ending with
    | error error =>
      refine ⟨_, next, read_of_failed direct filled, rfl, ?_, ?_⟩
      · simpa [Reading.chunk] using still
      · cases how with
        | failed empty same reported => exact .error empty same reported
    | ok _ =>
      have fits : (next.1.unread.take out.length).length ≤ out.length := by
        rw [List.length_take]
        exact Nat.min_le_left _ _
      have front : next.1.unread.take (next.1.unread.take out.length).length =
          next.1.unread.take out.length := by
        rw [List.length_take, List.take_eq_take_iff]
        omega
      refine ⟨_, _, read_of_filled direct filled, Bytes.length_overlay _ _, ?_, .count fits ?_ ?_⟩
      · have moved := still.past (next.1.unread.take out.length).length
        rw [front] at moved
        simpa only [Reading.chunk, Bytes.take_overlay fits] using moved
      · have whole := List.take_append_drop (next.1.unread.take out.length).length next.1.unread
        rw [front] at whole
        rw [Bytes.take_overlay fits, unread_past, whole]
        cases how with
        | already => exact List.prefix_refl _
        | refilled empty => rw [empty]; exact List.nil_prefix
      · intro nothing asks
        have some := List.length_pos_iff.mpr asks
        have empty : next.1.unread = [] := by
          rw [List.length_take] at nothing
          apply List.eq_nil_of_length_eq_zero
          omega
        refine ⟨by rw [unread_past, empty, List.drop_nil], ?_⟩
        cases how with
        | already full => exact absurd empty full
        | refilled _ last => exact last empty

/--
How a read of a whole buffer ends, and which part of the buffer it has filled. A failed read has taken
all unread bytes before, and it names the end of the input or the source's error.
-/
inductive Whole (ended : δ × Machine → Prop) (failed : Errno → δ × Machine → Prop) (out : Bytes)
    (before : Reader δ × Machine) : Collected → Reader δ × Machine → Bytes → Prop
  | full {bytes : Bytes} {next : Reader δ × Machine} (size : bytes.length = out.length) :
      Whole ended failed out before ⟨bytes, .ok ()⟩ next bytes
  | short {bytes part : Bytes} {error : Errno} {next : Reader δ × Machine}
      (size : bytes.length = out.length) (front : part <+: bytes) (short : part.length < out.length)
      (used : before.1.unread <+: part) (empty : next.1.unread = [])
      (cause : error = Errno.noData ∧ ended (next.1.device, next.2) ∨ failed error (next.1.device, next.2)) :
      Whole ended failed out before ⟨bytes, .error error⟩ next part

/-- A read of a whole buffer takes exactly the part that it fills. -/
theorem fillFrom_account (account : Source.Accounts δ supplied ended failed) (rounds : Nat) (out : Bytes)
    (enough : out.length ≤ rounds) {taken : Bytes} {state : Reader δ × Machine}
    (kept : Keeps supplied taken state) :
    ∃ collected next part, readExact.fillFrom rounds out state = (.ok collected, next) ∧
      Keeps supplied (taken ++ part) next ∧ Whole ended failed out state collected next part := by
  induction rounds generalizing out taken state with
  | zero =>
    have nothing : out = [] := List.eq_nil_of_length_eq_zero (by omega)
    subst nothing
    exact ⟨_, state, [], rfl, by rwa [List.append_nil], .full rfl⟩
  | succ rounds step =>
    by_cases nothing : out = []
    · subst nothing
      exact ⟨_, state, [], rfl, by rwa [List.append_nil], .full rfl⟩
    · have positive := List.length_pos_iff.mpr nothing
      obtain ⟨reading, next, came, size, still, how⟩ := read_account account out kept
      rw [readExact.fillFrom, if_neg nothing, Act.bind_of_ok _ came]
      cases how with
      | @error error filled _ empty same reported =>
        simp only [Reading.chunk, List.append_nil] at still
        refine ⟨_, next, [], rfl, by rwa [List.append_nil], .short size List.nil_prefix positive ?_ same
          (.inr reported)⟩
        simp [empty]
      | @count count filled _ bounded used last =>
        by_cases none : count = 0
        · subst none
          obtain ⟨empty, atEnd⟩ := last rfl nothing
          simp only [Reading.chunk, List.take_zero, List.append_nil] at still
          refine ⟨_, next, [], rfl, by rwa [List.append_nil], .short size List.nil_prefix positive ?_ empty
            (.inl ⟨rfl, atEnd⟩)⟩
          rwa [List.take_zero, List.nil_append, empty] at used
        · have notBeyond : ¬ out.length < count := by omega
          have fewer : (filled.drop count).length = out.length - count := by
            rw [List.length_drop, size]
          have inside : (filled.drop count).length ≤ rounds := by omega
          obtain ⟨rest, after, part, made, kept, whole⟩ := step _ inside still
          dsimp only
          rw [if_neg none, if_neg notBeyond, Act.bind_of_ok _ made]
          rw [List.append_assoc] at kept
          have front : (filled.take count).length = count := by
            rw [List.length_take, size]
            omega
          refine ⟨_, after, filled.take count ++ part, rfl, kept, ?_⟩
          cases whole with
          | @full bytes _ size' =>
            refine .full ?_
            rw [List.length_append, front, size', fewer]
            omega
          | @short bytes _ error _ size' prefix' short used' empty cause =>
            refine .short ?_ ((List.prefix_append_right_inj _).mpr prefix') ?_ ?_ empty cause
            · rw [List.length_append, front, size', fewer]
              omega
            · rw [List.length_append, front]
              omega
            · exact used.trans ((List.prefix_append_right_inj _).mpr used')

/--
How a collection of bytes ends. A failed one has taken all unread bytes before and reports the
source's error.
-/
inductive Gathered (failed : Errno → δ × Machine → Prop) (before : Reader δ × Machine) :
    Collected → Reader δ × Machine → Prop
  | fine {bytes : Bytes} {next : Reader δ × Machine} : Gathered failed before ⟨bytes, .ok ()⟩ next
  | failed {bytes : Bytes} {error : Errno} {next : Reader δ × Machine}
      (used : before.1.unread <+: bytes) (empty : next.1.unread = [])
      (reported : failed error (next.1.device, next.2)) :
      Gathered failed before ⟨bytes, .error error⟩ next

variable {delimiter : UInt8} {rounds total : Nat} {state next : Reader δ × Machine}

/-- A collection stops where the source fails. -/
theorem collect_of_failed {error : Errno}
    (filled : (fill : Act (Reader δ × Machine) Unit).attempt state = (.ok (.error error), next)) :
    readUntil.collect delimiter (rounds + 1) total state =
      (.ok ((Collected.mk [] (.error error)).counted total), next) := by
  rw [readUntil.collect, Act.bind_of_ok _ (available_of_failed filled)]
  rfl

/-- A collection stops where no byte can be had. -/
theorem collect_of_empty (filled : (fill : Act (Reader δ × Machine) Unit).attempt state = (.ok (.ok ()), next))
    (empty : next.1.unread = []) :
    readUntil.collect delimiter (rounds + 1) total state =
      (.ok ((Collected.mk [] (.ok ())).counted total), next) := by
  rw [readUntil.collect, Act.bind_of_ok _ (available_of_fill filled), empty]
  rfl

/-- A collection stops at the first delimiter. -/
theorem collect_of_found {index : Nat}
    (filled : (fill : Act (Reader δ × Machine) Unit).attempt state = (.ok (.ok ()), next))
    (found : next.1.unread.findIdx? (· == delimiter) = some index) :
    readUntil.collect delimiter (rounds + 1) total state =
      (.ok ((Collected.mk (next.1.unread.take (index + 1)) (.ok ())).counted total),
        (next.1.past (index + 1), next.2)) := by
  have inside : index + 1 ≤ next.1.unread.length := (List.findIdx?_eq_some_iff_getElem.mp found).1
  have size : (next.1.unread.take (index + 1)).length = index + 1 := by rw [List.length_take, Nat.min_eq_left inside]
  rw [readUntil.collect, Act.bind_of_ok _ (available_of_fill filled)]
  cases bytes : next.1.unread with
  | nil => simp [bytes] at found
  | cons first rest =>
    dsimp only
    rw [← bytes, found, Collected.counted, size]
    rfl

/-- A collection goes on past a buffer without a delimiter. -/
theorem collect_of_missing {last : Reader δ × Machine} {rest : Collected}
    (filled : (fill : Act (Reader δ × Machine) Unit).attempt state = (.ok (.ok ()), next))
    (some : next.1.unread ≠ []) (missing : next.1.unread.findIdx? (· == delimiter) = none)
    (later : readUntil.collect delimiter rounds (total + next.1.unread.length)
      (next.1.past next.1.unread.length, next.2) = (.ok (rest.counted (total + next.1.unread.length)), last)) :
    readUntil.collect delimiter (rounds + 1) total state =
      (.ok ((Collected.mk (next.1.unread ++ rest.bytes) rest.ending).counted total), last) := by
  rw [readUntil.collect, Act.bind_of_ok _ (available_of_fill filled)]
  cases bytes : next.1.unread with
  | nil => exact absurd bytes some
  | cons first more =>
    dsimp only
    rw [← bytes, missing]
    dsimp only
    rw [Act.bind_of_ok _ (consume_apply _ _), Act.bind_of_ok _ later]
    simp only [Collected.counted, List.length_append, Nat.add_assoc]
    rfl

/-- A collection of bytes takes exactly what it has collected. -/
theorem collect_account (account : Source.Accounts δ supplied ended failed) (delimiter : UInt8)
    (rounds total : Nat) {taken : Bytes} {state : Reader δ × Machine} (kept : Keeps supplied taken state) :
    ∃ collected next, readUntil.collect delimiter rounds total state = (.ok (Collected.counted collected total), next) ∧
      Keeps supplied (taken ++ collected.bytes) next ∧ Gathered failed state collected next := by
  induction rounds generalizing total taken state with
  | zero => exact ⟨⟨[], .ok ()⟩, state, rfl, by rwa [List.append_nil], .fine⟩
  | succ rounds step =>
    obtain ⟨ending, next, filled, still, how⟩ := fill_account account kept
    cases ending with
    | error error =>
      refine ⟨_, next, collect_of_failed filled, by rwa [List.append_nil], ?_⟩
      cases how with
      | failed empty same reported =>
        refine .failed ?_ same reported
        simp [empty]
    | ok _ =>
      by_cases empty : next.1.unread = []
      · exact ⟨_, next, collect_of_empty filled empty, by rwa [List.append_nil], .fine⟩
      · cases found : next.1.unread.findIdx? (· == delimiter) with
        | some index => exact ⟨_, _, collect_of_found filled found, still.past _, .fine⟩
        | none =>
          have moved := still.past next.1.unread.length
          rw [List.take_length] at moved
          obtain ⟨rest, last, made, kept, gathered⟩ := step _ moved
          refine ⟨_, last, collect_of_missing filled empty found made, by rwa [← List.append_assoc], ?_⟩
          cases gathered with
          | fine => exact .fine
          | failed _ empty reported =>
            exact .failed (how.unread_prefix.trans (List.prefix_append _ _)) empty reported

/-- A read up to a delimiter appends what it collects and returns how much that is. -/
theorem readUntil_of_collect {collected : Collected} (out : Bytes)
    (made : readUntil.collect delimiter (Source.reserve state.1.device state.2 + 2) 0 state =
      (.ok (collected.counted 0), next)) :
    readUntil delimiter out state = (.ok (collected.onto out), next) := by
  rw [readUntil, Act.bind_of_ok _ (Act.get_apply state)]
  dsimp only
  rw [Act.bind_of_ok _ made]
  simp only [Collected.counted, Collected.onto, Nat.zero_add]
  rfl

/-- A read up to a delimiter takes exactly what it appends. -/
theorem readUntil_account (account : Source.Accounts δ supplied ended failed) (delimiter : UInt8)
    {taken : Bytes} {state : Reader δ × Machine} (kept : Keeps supplied taken state) :
    ∃ collected next, (∀ out, readUntil delimiter out state = (.ok (Collected.onto collected out), next)) ∧
      Keeps supplied (taken ++ collected.bytes) next ∧ Gathered failed state collected next := by
  obtain ⟨collected, next, made, still, gathered⟩ :=
    collect_account account delimiter (Source.reserve state.1.device state.2 + 2) 0 kept
  exact ⟨collected, next, fun out => readUntil_of_collect out made, still, gathered⟩

/-- What a collected line comes to: the source's error, or its text if it is text. -/
def lineOf (line : Collected) : Except Errno String :=
  match line.ending with
  | .error error => .error error
  | .ok _ =>
    match Text.ofBytes? line.bytes with
    | some text => .ok text
    | none => .error Errno.illegalSequence

/-- What becomes of a caller's text where a line is collected. Only a text is appended and counted. -/
def lineOnto (out : String) (line : Collected) : Appended String :=
  match lineOf line with
  | .error error => ⟨out, .error error⟩
  | .ok text => ⟨out ++ text, .ok line.bytes.length⟩

/-- A read of a line collects its bytes first, and they stay taken whatever they come to. -/
theorem readLine_of_readUntil {line : Collected} (out : String)
    (drawn : readUntil lineEnd [] state = (.ok (line.onto []), next)) :
    readLine out state = (.ok (lineOnto out line), next) := by
  obtain ⟨bytes, ending⟩ := line
  rw [readLine, Act.bind_of_ok _ drawn]
  unfold lineOnto lineOf
  cases ending with
  | error error => rfl
  | ok _ =>
    simp only [Collected.onto, Except.map, List.nil_append]
    cases Text.ofBytes? bytes <;> rfl

end Reader

end LinuxCalls
