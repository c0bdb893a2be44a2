/-
This file says what it means that an operation keeps no error of the kernel to itself. The first call
that fails ends the operation with its error, and an error without such a call has a cause of its own.
-/

import LinuxCalls.Proofs.Calls.Policy
import LinuxCalls.Invoke

namespace LinuxCalls

/-- The error with which the kernel has answered. -/
def Event.error? (call : Event) : Option Errno :=
  match call.question, call.word with
  | .kernel _, some word =>
    match RawReturn.decode word with
    | .ok _ => none
    | .error error => some error
  | _, _ => none

/-- A busy resource is the answer to a duplication, which may be tried again. -/
def Event.IsBusyDuplicate (call : Event) : Prop :=
  ∃ registers, call = Request.answered ⟨CallKind.duplicateOnto.number, registers⟩ RawReturn.busyWord

/-- A request is answered with the error that its word stands for. -/
theorem Request.error?_answered (request : Request) (word : UInt64) (error : Errno) :
    (request.answered word).error? = some error ↔ RawReturn.decode word = .error error := by
  simp only [Event.error?]
  cases RawReturn.decode word <;> simp

/-- Calls do not end an operation if each that fails is tried again, before the last attempt. -/
def Passed (calls : List Event) : Prop :=
  ∀ index call error, calls[index]? = some call → call.error? = some error →
    call.IsBusyDuplicate ∧ index + 1 < Policy.attemptLimit

/-- Calls of which none fails do not end an operation. -/
theorem Passed.of_error?_eq_none {calls : List Event} (fine : ∀ call ∈ calls, call.error? = none) :
    Passed calls := by
  intro index call error found failed
  rw [fine call (List.mem_of_getElem? found)] at failed
  contradiction

/-- An operation that makes no calls is not ended by one. -/
theorem Passed.nil : Passed [] := .of_error?_eq_none fun _ member => absurd member List.not_mem_nil

/-- Calls that pass and are never tried again have no error. -/
theorem Passed.error?_eq_none {calls : List Event} (passed : Passed calls)
    (plain : ∀ call ∈ calls, ¬ call.IsBusyDuplicate) : ∀ call ∈ calls, call.error? = none := by
  intro call member
  obtain ⟨index, found⟩ := List.getElem?_of_mem member
  cases failed : call.error? with
  | none => rfl
  | some error => exact absurd (passed index call error found failed).1 (plain call member)

theorem Passed.append {earlier later : List Event} (head : Passed earlier) (tail : Passed later)
    (plain : ∀ call ∈ earlier ++ later, ¬ call.IsBusyDuplicate) : Passed (earlier ++ later) := by
  apply Passed.of_error?_eq_none
  intro call member
  rcases List.mem_append.mp member with before | after
  · exact head.error?_eq_none (fun call member => plain call (List.mem_append_left _ member)) call before
  · exact tail.error?_eq_none (fun call member => plain call (List.mem_append_right _ member)) call after

/-- What an operation reports after its calls, in the light of the causes that it has of its own. -/
inductive Reports (cause : List Event → Errno → Prop) : List Event → Option Errno → Prop
  | nothing {calls : List Event} (passed : Passed calls) : Reports cause calls none
  /-- The error of the last call is reported. A busy resource is reported after the last attempt only. -/
  | answered {calls : List Event} {call : Event} {error : Errno} (passed : Passed calls)
      (failed : call.error? = some error)
      (spent : call.IsBusyDuplicate → Policy.attemptLimit ≤ calls.length + 1) :
      Reports cause (calls ++ [call]) (some error)
  /-- No call has failed, but the operation has a cause to report an error. -/
  | caused {calls : List Event} {error : Errno} (passed : Passed calls) (reason : cause calls error) :
      Reports cause calls (some error)

/-- Where nothing is reported, all calls have passed. -/
theorem Reports.passed {cause : List Event → Errno → Prop} {calls : List Event}
    (reports : Reports cause calls none) : Passed calls := by
  cases reports with
  | nothing passed => exact passed

/-- The call at a position ends its operation with an error, which is not that of a call tried again. -/
def Event.Ends (index : Nat) (call : Event) (error : Errno) : Prop :=
  call.error? = some error ∧ (call.IsBusyDuplicate → Policy.attemptLimit ≤ index + 1)

/-- No call that passes ends its operation. -/
theorem Passed.not_ends {calls : List Event} (passed : Passed calls) {index : Nat} {call : Event} {error : Errno}
    (found : calls[index]? = some call) : ¬ call.Ends index error := by
  rintro ⟨failed, spent⟩
  obtain ⟨busy, early⟩ := passed index call error found failed
  have late := spent busy
  omega

/-- A call that ends the operation is the last one, and its error is reported. -/
theorem Reports.eq_of_ends {cause : List Event → Errno → Prop} {calls : List Event} {error? : Option Errno}
    (reports : Reports cause calls error?) {index : Nat} {call : Event} {error : Errno}
    (found : calls[index]? = some call) (ends : call.Ends index error) :
    error? = some error ∧ index + 1 = calls.length := by
  cases reports with
  | nothing passed => exact absurd ends (passed.not_ends found)
  | caused passed _ => exact absurd ends (passed.not_ends found)
  | @answered calls last reported passed failed _ =>
    rcases Nat.lt_or_ge index calls.length with before | after
    · rw [List.getElem?_append_left before] at found
      exact absurd ends (passed.not_ends found)
    · have inside := (List.getElem?_eq_some_iff.mp found).1
      rw [List.length_append, List.length_singleton] at inside ⊢
      have final : index = calls.length := by omega
      rw [final, List.getElem?_concat_length] at found
      cases found
      rw [← ends.1, failed, final]
      exact ⟨rfl, rfl⟩

/-- An error that is reported without a call that ends the operation has a cause. -/
theorem Reports.cause_of_no_end {cause : List Event → Errno → Prop} {calls : List Event} {error : Errno}
    (reports : Reports cause calls (some error))
    (none : ∀ (index : Nat) (call : Event) other, calls[index]? = some call → ¬ call.Ends index other) :
    cause calls error := by
  cases reports with
  | caused _ reason => exact reason
  | @answered calls last _ _ failed spent =>
    exact absurd ⟨failed, spent⟩ (none calls.length last error List.getElem?_concat_length)

theorem Reports.mono {cause broader : List Event → Errno → Prop} {calls : List Event} {error? : Option Errno}
    (reports : Reports cause calls error?) (broaden : ∀ error, cause calls error → broader calls error) :
    Reports broader calls error? := by
  cases reports with
  | nothing passed => exact .nothing passed
  | answered passed failed spent => exact .answered passed failed spent
  | caused passed reason => exact .caused passed (broaden _ reason)

/-- Calls that pass come before what is reported. -/
theorem Reports.prepend {cause : List Event → Errno → Prop} {earlier later : List Event}
    {error? : Option Errno} (passed : Passed earlier)
    (extending : ∀ error, cause later error → cause (earlier ++ later) error)
    (plain : ∀ call ∈ earlier ++ later, ¬ call.IsBusyDuplicate) (reports : Reports cause later error?) :
    Reports cause (earlier ++ later) error? := by
  cases reports with
  | nothing more => exact .nothing (passed.append more plain)
  | @answered calls call error more failed =>
    rw [← List.append_assoc] at plain ⊢
    exact .answered (passed.append more fun call member => plain call (List.mem_append_left _ member)) failed
      fun busy => absurd busy (plain call (List.mem_append_right _ List.mem_cons_self))
  | caused more reason => exact .caused (passed.append more plain) (extending _ reason)

/-- Causes remain causes after further calls, and no call is tried again. -/
structure Extends (allowed : Event → Prop) (cause : List Event → Errno → Prop) : Prop where
  plain : ∀ call, allowed call → ¬ call.IsBusyDuplicate
  later : ∀ earlier calls error, cause calls error → cause (earlier ++ calls) error

/-- The error that an outcome reports. A value may hold an error, too. -/
def reported {α : Type} (failure : α → Option Errno) : Except Fault α → Option Errno
  | .ok value => failure value
  | .error (.errno error) => some error
  | .error _ => none

/-- The error that an attempt has turned into a value. -/
def attempted? {α : Type} : Except Errno α → Option Errno
  | .ok _ => none
  | .error error => some error

/-- Applying a function to the value of an attempt leaves its error. -/
@[simp] theorem attempted?_map {α β : Type} (change : α → β) (result : Except Errno α) :
    attempted? (result.map change) = attempted? result := by
  cases result <;> rfl

namespace Act

variable {σ τ ρ α β : Type}

/-- What a faithful action has done when it ends. -/
structure Faithfully (keeps : σ → Prop) (allowed : Event → Prop) (cause : List Event → Errno → Prop)
    (failure : α → Option Errno) (calls : List Event) (outcome : Except Fault α) (next : σ) : Prop where
  kept : keeps next
  allowed : ∀ call ∈ calls, allowed call
  reports : Reports cause calls (reported failure outcome)

/-- What is done faithfully after calls that pass is done faithfully with them. -/
theorem Faithfully.after {keeps : σ → Prop} {allowed : Event → Prop} {cause : List Event → Errno → Prop}
    {failure : α → Option Errno} {failure' : β → Option Errno} {calls more : List Event} {value : α}
    {outcome : Except Fault β} {middle next : σ} (extending : Extends allowed cause)
    (head : Faithfully keeps allowed cause failure calls (.ok value) middle) (fine : failure value = none)
    (tail : Faithfully keeps allowed cause failure' more outcome next) :
    Faithfully keeps allowed cause failure' (calls ++ more) outcome next := by
  have all : ∀ call ∈ calls ++ more, allowed call := by
    intro call member
    exact (List.mem_append.mp member).elim (head.allowed call) (tail.allowed call)
  have reports : Reports cause calls (failure value) := head.reports
  rw [fine] at reports
  exact ⟨tail.kept, all, tail.reports.prepend reports.passed (extending.later calls more) fun call member =>
    extending.plain call (all call member)⟩

/--
A faithful action keeps what holds of its state, makes allowed calls only, and reports the first error
that the kernel answers with. The other errors that it reports have a cause.
-/
def Faithful [HasMachine σ] (keeps : σ → Prop) (allowed : Event → Prop)
    (cause : List Event → Errno → Prop) (failure : α → Option Errno) (act : Act σ α) : Prop :=
  ∀ state, keeps state → act.Traces state (Faithfully keeps allowed cause failure)

/-- An action is still if it changes no machine, keeps what holds of the state, and reports as said. -/
def Still [HasMachine σ] (keeps : σ → Prop) (failure : α → Option Errno) (error? : Option Errno)
    (act : Act σ α) : Prop :=
  ∀ state, keeps state → machine (act state).2 = machine state ∧ keeps (act state).2 ∧
    reported failure (act state).1 = error?

namespace Still

variable [HasMachine σ] {keeps : σ → Prop} {failure : α → Option Errno}

theorem pure (value : α) : Still keeps failure (failure value) (Pure.pure value : Act σ α) :=
  fun _ kept => ⟨rfl, kept, rfl⟩

theorem fail (error : Errno) : Still keeps failure (some error) (Act.fail error : Act σ α) :=
  fun _ kept => ⟨rfl, kept, rfl⟩

theorem ofExcept (result : Except Errno α) :
    Still keeps (fun _ => none) (attempted? result) (Act.ofExcept result : Act σ α) := by
  cases result with
  | ok value => exact pure value
  | error error => exact fail error

end Still

namespace Traces

variable [HasMachine σ] {keeps : σ → Prop} {allowed : Event → Prop} {cause : List Event → Errno → Prop}
  {failure : α → Option Errno} {failure' : β → Option Errno} {state : σ}

/-- What is done faithfully remains so when a still action reports the same after it. -/
theorem followed {first : Act σ α} {second : α → Act σ β}
    (traces : first.Traces state (Faithfully keeps allowed cause failure))
    (still : ∀ value, Still keeps failure' (failure value) (second value)) :
    (first >>= second).Traces state (Faithfully keeps allowed cause failure') := by
  apply traces.bind
  · intro calls value middle head
    obtain ⟨same, kept, equal⟩ := still value middle head.kept
    apply Traces.of_still same
    rw [List.append_nil]
    exact ⟨kept, head.allowed, equal ▸ head.reports⟩
  · intro calls reason next head
    refine ⟨head.kept, head.allowed, ?_⟩
    cases reason <;> exact head.reports

/-- What is done faithfully remains so when a function is applied to the value. -/
theorem followed_map {act : Act σ α} (traces : act.Traces state (Faithfully keeps allowed cause (fun _ => none)))
    (change : α → β) : (change <$> act).Traces state (Faithfully keeps allowed cause (fun _ => none)) := by
  rw [← bind_pure_comp]
  exact traces.followed fun value => .pure (change value)

/-- What is done faithfully remains so when its value is decided on after it and a rejection has a cause. -/
theorem decided {first : Act σ α} {second : α → Act σ β}
    (traces : first.Traces state (Faithfully keeps allowed cause (fun _ => none)))
    (decides : ∀ value next, first state = (.ok value, next) → ∃ result : Except Errno β,
      second value next = (result.mapError .errno, next) ∧
        ∀ error, result = .error error → ∀ calls, cause calls error) :
    (first >>= second).Traces state (Faithfully keeps allowed cause (fun _ => none)) := by
  apply traces.known.bind
  · rintro calls value middle ⟨ended, done⟩
    obtain ⟨result, decided, rejects⟩ := decides value middle ended
    apply Traces.of_eq decided (.nothing _)
    rw [List.append_nil]
    have passed := done.reports.passed
    cases result with
    | ok value => exact ⟨done.kept, done.allowed, .nothing passed⟩
    | error error => exact ⟨done.kept, done.allowed, .caused passed (rejects error rfl calls)⟩
  · rintro calls reason next ⟨_, done⟩
    refine ⟨done.kept, done.allowed, ?_⟩
    cases reason <;> exact done.reports

end Traces

namespace Faithful

section Control

variable [HasMachine σ] {keeps : σ → Prop} {allowed : Event → Prop}
  {cause : List Event → Errno → Prop} {failure : α → Option Errno} {failure' : β → Option Errno}

/-- A still action without an error is faithful. -/
theorem of_still {act : Act σ α} (still : Still keeps failure none act) :
    Faithful keeps allowed cause failure act := by
  intro state kept
  obtain ⟨same, kept, nothing⟩ := still state kept
  exact .of_still same ⟨kept, nofun, nothing ▸ .nothing .nil⟩

/-- A still action with an error is faithful if the error has a cause. -/
theorem of_still_error {act : Act σ α} {error : Errno} (still : Still keeps failure (some error) act)
    (reason : cause [] error) : Faithful keeps allowed cause failure act := by
  intro state kept
  obtain ⟨same, kept, failed⟩ := still state kept
  exact .of_still same ⟨kept, nofun, failed ▸ .caused .nil reason⟩

theorem pure {value : α} (fine : failure value = none) :
    Faithful keeps allowed cause failure (Pure.pure value : Act σ α) :=
  of_still (fine ▸ .pure value)

theorem panic : Faithful keeps allowed cause failure (Act.panic : Act σ α) :=
  of_still fun _ kept => ⟨rfl, kept, rfl⟩

/-- Deciding on a result before all calls is faithful if a rejection has a cause. -/
theorem ofExcept_bind {result : Except Errno α} {second : α → Act σ β}
    (rejected : ∀ error, result = .error error → cause [] error)
    (onwards : ∀ value, result = .ok value → Faithful keeps allowed cause failure' (second value)) :
    Faithful keeps allowed cause failure' (Act.ofExcept result >>= second) := by
  cases result with
  | ok value => exact onwards value rfl
  | error error => exact of_still_error (.fail error) (rejected error rfl)

/-- A faithful action remains so when a still one reports the same after it. -/
theorem followed {first : Act σ α} {second : α → Act σ β} (faithful : Faithful keeps allowed cause failure first)
    (still : ∀ value, Still keeps failure' (failure value) (second value)) :
    Faithful keeps allowed cause failure' (first >>= second) :=
  fun state kept => (faithful state kept).followed still

theorem bind {first : Act σ α} {second : α → Act σ β} (faithful : Faithful keeps allowed cause failure first)
    (extending : Extends allowed cause)
    (onwards : ∀ value, failure value = none → Faithful keeps allowed cause failure' (second value))
    (failed : ∀ value error, failure value = some error → Still keeps failure' (some error) (second value)) :
    Faithful keeps allowed cause failure' (first >>= second) := by
  intro state kept
  apply (faithful state kept).bind
  · intro calls value middle head
    cases fine : failure value with
    | some error =>
      have reports : Reports cause calls (failure value) := head.reports
      obtain ⟨same, kept, equal⟩ := failed value error fine middle head.kept
      apply Traces.of_still same
      rw [List.append_nil]
      exact ⟨kept, head.allowed, equal ▸ fine ▸ reports⟩
    | none =>
      refine (onwards value fine middle head.kept).mono ?_
      intro more outcome next tail
      exact head.after extending fine tail
  · intro calls reason next head
    refine ⟨head.kept, head.allowed, ?_⟩
    cases reason <;> exact head.reports

/-- An attempt at a faithful action is faithful, and its value holds the error. -/
theorem attempt {act : Act σ α} (faithful : Faithful keeps allowed cause (fun _ => none) act) :
    Faithful keeps allowed cause attempted? act.attempt := by
  intro state kept
  apply (faithful state kept).attempt
  all_goals
    intros
    rename_i done
    exact ⟨done.kept, done.allowed, done.reports⟩

theorem map {act : Act σ α} {change : α → β} (faithful : Faithful keeps allowed cause (fun _ => none) act) :
    Faithful keeps allowed cause (fun _ => none) (change <$> act) :=
  fun state kept => (faithful state kept).followed_map change

theorem mono {act : Act σ α} {broader : List Event → Errno → Prop} {more : Event → Prop}
    (faithful : Faithful keeps allowed cause failure act) (admits : ∀ call, allowed call → more call)
    (broaden : ∀ calls error, cause calls error → broader calls error) :
    Faithful keeps more broader failure act := by
  intro state kept
  refine (faithful state kept).mono ?_
  intro calls outcome next done
  exact ⟨done.kept, fun call member => admits call (done.allowed call member), done.reports.mono (broaden calls)⟩

end Control

section Parts

variable [HasMachine σ] [HasMachine τ] {allowed : Event → Prop} {cause : List Event → Errno → Prop}
  {failure : α → Option Errno}

theorem focus {keeps : σ → Prop} {keeps' : τ → Prop} {part : σ → τ} {replace : σ → τ → σ} {act : Act τ α}
    (parts : ∀ state, machine (part state) = machine state)
    (replaced : ∀ state next, machine (replace state next) = machine next)
    (goes : ∀ state, keeps state → keeps' (part state))
    (comes : ∀ state next, keeps state → keeps' next → keeps (replace state next))
    (faithful : Faithful keeps' allowed cause failure act) :
    Faithful keeps allowed cause failure (Act.focus part replace act) := by
  intro state kept
  apply Traces.focus (parts state) (replaced state)
  refine (faithful (part state) (goes state kept)).mono ?_
  intro calls outcome next done
  exact ⟨comes state next kept done.kept, done.allowed, done.reports⟩

theorem lift {keeps : ρ × Machine → Prop} {act : Sys α}
    (still : ∀ state next, keeps state → keeps (state.1, next))
    (faithful : Faithful (fun _ => True) allowed cause failure act) :
    Faithful keeps allowed cause failure (liftM act : Act (ρ × Machine) α) :=
  focus (fun _ => rfl) (fun _ _ => rfl) (fun _ _ => trivial) (fun state next kept _ => still state next kept)
    faithful

end Parts

end Faithful

end Act

end LinuxCalls
