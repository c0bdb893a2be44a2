/-
This file tells the lives of guards from a balance. Each guard acquires one descriptor and makes calls on
it, and it ends at most once: it gives the descriptor up, or it makes its last call, which closes it.
-/

import LinuxCalls.Proofs.Ownership.Balance

namespace LinuxCalls

/-- How the life of a guard stands: it goes on, or it has ended in one of two ways. -/
inductive Life.Ending
  | alive
  | givenUp
  | closed (word : UInt64)
  deriving DecidableEq

/-- The life of a guard has one descriptor, the calls that use it in order, and an end. -/
structure Life where
  descriptor : Descriptor
  uses : List Event
  used : ∀ call ∈ uses, call.Uses descriptor
  ending : Life.Ending

namespace Life

/-- The calls that a guard has made, in order. A guard that is closed makes its close last. -/
def calls (life : Life) : List Event :=
  match life.ending with
  | .closed word => life.uses ++ [(Descriptor.closing life.descriptor).answered word]
  | _ => life.uses

/-- The guard is still there. -/
def isAlive (life : Life) : Bool := life.ending == .alive

/-- The guard has given its descriptor up. -/
def isGivenUp (life : Life) : Bool := life.ending == .givenUp

/-- The guard was closed. -/
def isClosed (life : Life) : Bool :=
  match life.ending with
  | .closed _ => true
  | _ => false

/-- A guard that was closed has closed its descriptor once, and another guard has closed nothing. -/
theorem closes_calls (life : Life) :
    Event.closes life.calls = if life.isClosed then [life.descriptor] else [] := by
  have none : Event.closes life.uses = [] :=
    Event.closes_eq_nil fun call member => (life.used call member).closed?
  unfold calls isClosed
  cases life.ending with
  | alive => exact none
  | givenUp => exact none
  | closed word => simp [none, Event.closes_closing]

/-- The life of a guard that has made no call yet. -/
def ofDescriptor (descriptor : Descriptor) : Life := ⟨descriptor, [], List.forall_mem_nil _, .alive⟩

/-- The life of a guard after one more call that uses it. -/
def after (life : Life) {call : Event} (uses : call.Uses life.descriptor) : Life :=
  { life with
    uses := life.uses ++ [call]
    used := fun other member => (List.mem_append.mp member).elim (life.used other) fun last =>
      List.mem_singleton.mp last ▸ uses }

/-- The descriptors of the lives of a kind. -/
def among (kind : Life → Bool) (lives : List Life) : Multiset Descriptor :=
  ((lives.filter kind).map Life.descriptor : List Descriptor)

/-- A life counts for itself among the others. -/
theorem among_split (kind : Life → Bool) (before after : List Life) (life : Life) :
    among kind (before ++ life :: after) =
      (if kind life then {life.descriptor} else 0) + among kind (before ++ after) := by
  have moved : (before ++ life :: after).Perm (life :: (before ++ after)) := List.perm_middle
  have same : among kind (before ++ life :: after) = among kind (life :: (before ++ after)) :=
    Multiset.coe_eq_coe.mpr ((moved.filter kind).map Life.descriptor)
  rw [same]
  unfold among
  rw [List.filter_cons]
  split
  · rw [List.map_cons, ← Multiset.cons_coe, Multiset.singleton_add]
  · rw [zero_add]

end Life

/-- The calls of an owner among calls with their owners, in order. -/
def callsOf (owner : Nat) (owned : List (Option Nat × Event)) : List Event :=
  (owned.filter fun entry => entry.1 = some owner).map Prod.snd

/-- The calls that an owner makes next are its own. -/
theorem callsOf_append_self (owner : Nat) (owned : List (Option Nat × Event)) (more : List Event) :
    callsOf owner (owned ++ more.map (some owner, ·)) = callsOf owner owned ++ more := by
  simp [callsOf, List.filter_map, Function.comp_def]

/-- The calls that another owner makes next do not matter. -/
theorem callsOf_append_of_ne {owner other : Nat} (differs : owner ≠ other) (owned : List (Option Nat × Event))
    (more : List Event) : callsOf other (owned ++ more.map (some owner, ·)) = callsOf other owned := by
  simp [callsOf, List.filter_map, Function.comp_def, differs]

/--
Calls are attributed to lives if each of them has an owner, or opens a descriptor and has none, and if
the calls of each life are those that it owns, in order.
-/
def Attributed (lives : List Life) (calls : List Event) : Prop :=
  ∃ owned : List (Option Nat × Event), owned.map Prod.snd = calls ∧
    (∀ (owner : Nat) life, lives[owner]? = some life → callsOf owner owned = life.calls) ∧
    (∀ call, (none, call) ∈ owned → call.Opens) ∧ ∀ owner call, (some owner, call) ∈ owned → owner < lives.length

namespace Attributed

variable {lives : List Life} {calls : List Event}

/-- A life that begins has no calls. -/
theorem born (attributed : Attributed lives calls) (descriptor : Descriptor) :
    Attributed (lives ++ [.ofDescriptor descriptor]) calls := by
  obtain ⟨owned, same, own, opens, within⟩ := attributed
  refine ⟨owned, same, fun owner life found => ?_, opens, fun owner call member => ?_⟩
  · rcases Nat.lt_trichotomy owner lives.length with before | rfl | after
    · rw [List.getElem?_append_left before] at found
      exact own owner life found
    · rw [List.getElem?_concat_length] at found
      cases found
      refine List.map_eq_nil_iff.mpr (List.filter_eq_nil_iff.mpr fun entry member mine => ?_)
      have equal : entry.1 = some lives.length := by simpa using mine
      exact Nat.lt_irrefl _ (within lives.length entry.2 (equal ▸ member))
    · rw [List.getElem?_eq_none (by rw [List.length_append, List.length_singleton]; omega)] at found
      contradiction
  · rw [List.length_append]
    exact Nat.lt_add_right _ (within owner call member)

/-- A call that opens a descriptor belongs to no life. -/
theorem opened (attributed : Attributed lives calls) {call : Event} (opens : call.Opens) :
    Attributed lives (calls ++ [call]) := by
  obtain ⟨owned, rfl, own, opens', within⟩ := attributed
  refine ⟨owned ++ [(none, call)], by simp, fun owner life found => ?_, ?_, ?_⟩
  · simpa [callsOf] using own owner life found
  · intro other member
    rcases List.mem_append.mp member with earlier | last
    · exact opens' other earlier
    · cases List.mem_singleton.mp last
      exact opens
  · intro owner other member
    rcases List.mem_append.mp member with earlier | last
    · exact within owner other earlier
    · cases List.mem_singleton.mp last

/-- A life that goes on owns the calls that it makes next. -/
theorem goesOn (attributed : Attributed lives calls) {owner : Nat} {life next : Life} {more : List Event}
    (found : lives[owner]? = some life) (makes : next.calls = life.calls ++ more) :
    Attributed (lives.set owner next) (calls ++ more) := by
  obtain ⟨owned, rfl, own, opens, within⟩ := attributed
  have inside := (List.getElem?_eq_some_iff.mp found).1
  refine ⟨owned ++ more.map (some owner, ·), by simp [Function.comp_def], fun other held there => ?_, ?_, ?_⟩
  · by_cases same : owner = other
    · subst same
      rw [List.getElem?_set_self inside] at there
      cases there
      rw [callsOf_append_self, own owner life found, makes]
    · rw [List.getElem?_set_ne same] at there
      rw [callsOf_append_of_ne same, own other held there]
  · intro call member
    rcases List.mem_append.mp member with earlier | last
    · exact opens call earlier
    · obtain ⟨_, _, same⟩ := List.mem_map.mp last
      cases same
  · intro other call member
    rw [List.length_set]
    rcases List.mem_append.mp member with earlier | last
    · exact within other call earlier
    · obtain ⟨_, _, same⟩ := List.mem_map.mp last
      cases same
      exact inside

end Attributed

/--
Lives explain a balance that begins without guards: each descriptor that is gained has one life, and the
lives that go on or have ended account for what there is, what was given up and what was closed.
-/
structure Explains (lives : List Life) (calls : List Event) (gained lost : List Descriptor)
    (live : Multiset Descriptor) : Prop where
  attributed : Attributed lives calls
  gained : lives.map Life.descriptor = gained
  alive : Life.among Life.isAlive lives = live
  givenUp : Life.among Life.isGivenUp lives = lost
  closed : Life.among Life.isClosed lives = Event.closes calls

namespace Explains

variable {lives : List Life} {calls : List Event} {gained lost : List Descriptor} {descriptor : Descriptor}
  {live : Multiset Descriptor}

/-- A descriptor that a guard has belongs to a life that goes on. -/
theorem exists_alive (explains : Explains lives calls gained lost live) (owned : descriptor ∈ live) :
    ∃ before life after, lives = before ++ life :: after ∧ life.descriptor = descriptor ∧ life.ending = .alive := by
  rw [← explains.alive] at owned
  obtain ⟨life, member, same⟩ := List.mem_map.mp (Multiset.mem_coe.mp owned)
  obtain ⟨there, alive⟩ := List.mem_filter.mp member
  obtain ⟨before, after, split⟩ := List.append_of_mem there
  exact ⟨before, life, after, split, same, eq_of_beq alive⟩

variable {before after : List Life} {life : Life}

/-- A life that goes on counts as such beside the others. -/
theorem others (explains : Explains (before ++ life :: after) calls gained lost live) (alive : life.ending = .alive) :
    live = life.descriptor ::ₘ Life.among Life.isAlive (before ++ after) ∧
      lost = Life.among Life.isGivenUp (before ++ after) ∧
      Event.closes calls = Life.among Life.isClosed (before ++ after) := by
  have alive' := explains.alive
  have givenUp := explains.givenUp
  have closed := explains.closed
  rw [Life.among_split] at alive' givenUp closed
  simp only [Life.isAlive, Life.isGivenUp, Life.isClosed, alive, beq_self_eq_true, if_true, Multiset.singleton_add,
    reduceCtorEq, beq_iff_eq, if_false, Bool.false_eq_true, zero_add] at alive' givenUp closed
  exact ⟨alive'.symm, givenUp.symm, closed.symm⟩

/-- Lives explain what follows if one of them goes on and the counts come out right. -/
theorem goesOn (explains : Explains (before ++ life :: after) calls gained lost live) {next : Life}
    {more : List Event} {lost' : List Descriptor} {live' : Multiset Descriptor}
    (same : next.descriptor = life.descriptor) (makes : next.calls = life.calls ++ more)
    (alive : (if next.isAlive then {next.descriptor} else 0) + Life.among Life.isAlive (before ++ after) = live')
    (givenUp : (if next.isGivenUp then {next.descriptor} else 0) + Life.among Life.isGivenUp (before ++ after) = lost')
    (closed : (if next.isClosed then {next.descriptor} else 0) + Life.among Life.isClosed (before ++ after) =
      Event.closes (calls ++ more)) :
    Explains (before ++ next :: after) (calls ++ more) gained lost' live' := by
  have found : (before ++ life :: after)[before.length]? = some life := by simp
  have replaced : (before ++ life :: after).set before.length next = before ++ next :: after := by simp
  refine ⟨replaced ▸ explains.attributed.goesOn found makes, ?_, ?_, ?_, ?_⟩
  · rw [← explains.gained]
    simp [same]
  · rw [Life.among_split, alive]
  · rw [Life.among_split, givenUp]
  · rw [Life.among_split, closed]

/-- A life begins with each descriptor that is gained. -/
theorem born (explains : Explains lives calls gained lost live) (descriptors : List Descriptor) :
    ∃ lives', Explains lives' calls (gained ++ descriptors) lost (live + descriptors) := by
  induction descriptors generalizing lives gained live with
  | nil => exact ⟨lives, by simpa using explains⟩
  | cons descriptor rest step =>
    have counts (kind : Life → Bool) : Life.among kind (lives ++ [.ofDescriptor descriptor]) =
        (if kind (.ofDescriptor descriptor) then {descriptor} else 0) + Life.among kind lives := by
      rw [Life.among_split, List.append_nil]
      rfl
    have first : Explains (lives ++ [.ofDescriptor descriptor]) calls (gained ++ [descriptor]) lost
        (live + {descriptor}) := by
      refine ⟨explains.attributed.born descriptor, ?_, ?_, ?_, ?_⟩
      · rw [List.map_append, explains.gained]
        rfl
      · rw [counts, explains.alive]
        exact add_comm _ _
      · rw [counts, explains.givenUp]
        exact zero_add _
      · rw [counts, explains.closed]
        exact zero_add _
    obtain ⟨lives', last⟩ := step first
    refine ⟨lives', ?_⟩
    rwa [List.append_assoc, add_assoc, ← Multiset.coe_singleton, Multiset.coe_add] at last

/-- A call on a descriptor that a guard has belongs to the life of a guard. -/
theorem used (explains : Explains lives calls gained lost live) (owned : descriptor ∈ live) {call : Event}
    (uses : call.Uses descriptor) : ∃ lives', Explains lives' (calls ++ [call]) gained lost live := by
  obtain ⟨before, life, after, rfl, rfl, alive⟩ := explains.exists_alive owned
  obtain ⟨there, lost', closed⟩ := explains.others alive
  have makes : (life.after uses).calls = life.calls ++ [call] := by simp [Life.after, Life.calls, alive]
  have none : Event.closes [call] = [] := Event.closes_singleton uses.closed?
  refine ⟨before ++ life.after uses :: after, explains.goesOn rfl makes ?_ ?_ ?_⟩
  · simp [Life.after, Life.isAlive, alive, there]
  · simp [Life.after, Life.isGivenUp, alive, lost']
  · simp [Life.after, Life.isClosed, alive, none, closed]

/-- A call that is placed belongs to the life of a guard, or to none if it opens a descriptor without one. -/
theorem placed (explains : Explains lives calls gained lost live) {call : Event} (placed : call.IsPlaced live) :
    ∃ lives', Explains lives' (calls ++ [call]) gained lost live := by
  rcases placed with opens | ⟨descriptor, owned, uses⟩
  · have none : Event.closes [call] = [] := Event.closes_singleton opens.closed?
    refine ⟨lives, { explains with attributed := explains.attributed.opened opens, closed := ?_ }⟩
    rw [explains.closed, Event.closes_append, none, List.append_nil]
  · exact explains.used owned uses

end Explains

/-- The lives of guards are told from a balance that begins without guards. -/
theorem Balance.exists_lives {calls : List Event} {gained : List Gain} {lost : List Descriptor}
    {live : Multiset Descriptor} (balance : Balance 0 calls gained lost live) :
    ∃ lives, Explains lives calls (gained.flatMap Gain.descriptors) lost live := by
  induction balance with
  | even => exact ⟨[], ⟨[], rfl, nofun, nofun, nofun⟩, rfl, rfl, rfl, rfl⟩
  | @acquired calls gained lost last past descriptor step =>
    obtain ⟨lives, explains⟩ := step
    obtain ⟨lives', born⟩ := explains.born [descriptor]
    refine ⟨lives', ?_⟩
    rwa [List.flatMap_append, ← Multiset.singleton_add, add_comm]
  | @gaveUp calls gained lost descriptor last past step =>
    obtain ⟨lives, explains⟩ := step
    obtain ⟨before, life, after, rfl, rfl, alive⟩ := explains.exists_alive (Multiset.mem_cons_self _ _)
    obtain ⟨there, lost', closed⟩ := explains.others alive
    let next : Life := { life with ending := .givenUp }
    have makes : next.calls = life.calls ++ [] := by simp [next, Life.calls, alive]
    refine ⟨before ++ next :: after, List.append_nil calls ▸ explains.goesOn rfl makes ?_ ?_ ?_⟩
    · exact (zero_add _).trans ((Multiset.cons_inj_right _).mp there).symm
    · change {life.descriptor} + _ = _
      rw [← lost', add_comm, ← Multiset.coe_singleton, Multiset.coe_add]
    · rw [List.append_nil, closed]
      exact zero_add _
  | @closed calls gained lost descriptor last past word step =>
    obtain ⟨lives, explains⟩ := step
    obtain ⟨before, life, after, rfl, rfl, alive⟩ := explains.exists_alive (Multiset.mem_cons_self _ _)
    obtain ⟨there, lost', closed⟩ := explains.others alive
    let next : Life := { life with ending := .closed word }
    have makes : next.calls = life.calls ++ [(Descriptor.closing life.descriptor).answered word] := by
      simp [next, Life.calls, alive]
    refine ⟨before ++ next :: after, explains.goesOn rfl makes ?_ ?_ ?_⟩
    · exact (zero_add _).trans ((Multiset.cons_inj_right _).mp there).symm
    · rw [lost']
      exact zero_add _
    · change {life.descriptor} + _ = _
      rw [Event.closes_append, Event.closes_closing, ← Multiset.coe_add, closed, Multiset.coe_singleton, add_comm]
  | used past owned borrows step =>
    obtain ⟨lives, explains⟩ := step
    exact explains.used owned borrows.uses
  | @opened calls gained lost descriptors call last past placed opens brings step =>
    obtain ⟨lives, explains⟩ := step
    obtain ⟨lives', goesOn⟩ := explains.placed placed
    obtain ⟨lives'', born⟩ := goesOn.born descriptors
    refine ⟨lives'', ?_⟩
    rwa [List.flatMap_append, List.flatMap_singleton, Gain.descriptors]

end LinuxCalls
