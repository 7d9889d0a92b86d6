import Mathlib.Data.List.DropRight
import ProcessEngine.Join

/-!
# Joins count the arrivals of their latest activation

What a join answers follows from the calls that were made before, whatever their order: how often it
was activated, how many arrivals its latest activation expects, and how many tickets of that
activation were spent since (`InstanceState.joins_keep_count`). The barrier of a join and its
expectation are two entries that change at different moments; together they always hold these three
numbers (`InstanceState.Tallies`).
-/

namespace ProcessEngine

/-- What is asked of the joins of an instance. -/
inductive JoinCall where
  | activate (join : NodeKey) (expected : Nat)
  | arrive (ticket : JoinTicket)
deriving DecidableEq

namespace JoinCall

/-- The join that a call is about. -/
def join : JoinCall -> NodeKey
  | .activate join _ => join
  | .arrive ticket => ticket.join

/-- How many arrivals a join has to expect after a call, if the call activates it. -/
def expects? (join : NodeKey) : JoinCall -> Option Nat
  | .activate other expected => if other = join then some expected else none
  | .arrive _ => none

section

variable (join : NodeKey) (calls : List JoinCall)

/-- How often a join was activated. -/
def activations : Nat := calls.countP (fun call => (call.expects? join).isSome)

/-- How many arrivals the latest activation of a join expects. -/
def expectation : Nat := (calls.reverse.findSome? (expects? join)).getD 0

/-- The ticket of the latest activation of a join. -/
def latestTicket : JoinTicket := ⟨join, activations join calls⟩

/-- How often the ticket of the latest activation of a join was spent since. -/
def arrivals : Nat := (calls.rtakeWhile (fun call => (call.expects? join).isNone)).count
  (.arrive (latestTicket join calls))

end

variable {join other : NodeKey} {calls : List JoinCall} {expected : Nat} {ticket : JoinTicket}

/-! ## One more call -/

@[simp] theorem activations_activate : activations join (calls ++ [.activate other expected]) =
    activations join calls + if other = join then 1 else 0 := by
  by_cases same : other = join <;> simp [activations, expects?, same]

@[simp] theorem activations_arrive :
    activations join (calls ++ [.arrive ticket]) = activations join calls := by
  simp [activations, expects?]

@[simp] theorem expectation_activate : expectation join (calls ++ [.activate other expected]) =
    if other = join then expected else expectation join calls := by
  by_cases same : other = join <;> simp [expectation, expects?, same]

@[simp] theorem expectation_arrive :
    expectation join (calls ++ [.arrive ticket]) = expectation join calls := by
  rw [expectation, List.reverse_append]
  rfl

/-- An activation begins a new count for its join and for no other. -/
@[simp] theorem arrivals_activate : arrivals join (calls ++ [.activate other expected]) =
    if other = join then 0 else arrivals join calls := by
  by_cases same : other = join <;> simp [arrivals, latestTicket, expects?, same]

@[simp] theorem latestTicket_arrive :
    latestTicket join (calls ++ [.arrive ticket]) = latestTicket join calls := by
  rw [latestTicket, activations_arrive, latestTicket]

@[simp] theorem arrivals_arrive : arrivals join (calls ++ [.arrive ticket]) =
    arrivals join calls + if ticket = latestTicket join calls then 1 else 0 := by
  by_cases latest : ticket = latestTicket join calls <;>
    simp [arrivals, expects?, latest]

/-! ## The calls about one join -/

variable (join calls)

/-- The calls about one join. -/
def about : List JoinCall := calls.filter (fun call => call.join = join)

theorem about_append (call : JoinCall) : about join (calls ++ [call]) =
    if call.join = join then about join calls ++ [call] else about join calls := by
  by_cases same : call.join = join <;> simp [about, same]

/-- Calls about other joins do not count. -/
theorem counts_about : activations join (about join calls) = activations join calls ∧
    expectation join (about join calls) = expectation join calls ∧
    arrivals join (about join calls) = arrivals join calls := by
  induction calls using List.reverseRecOn with
  | nil => exact ⟨rfl, rfl, rfl⟩
  | append_singleton calls call ih =>
    obtain ⟨activated, expected, arrived⟩ := ih
    rw [about_append]
    cases call with
    | activate other count =>
      by_cases same : other = join <;> simp [JoinCall.join, same, activated, expected, arrived]
    | arrive ticket =>
      by_cases same : ticket.join = join
      · have latest : latestTicket join (about join calls) = latestTicket join calls := by
          rw [latestTicket, activated, latestTicket]
        simp [JoinCall.join, same, latest, activated, expected, arrived]
      · have foreign : ticket ≠ latestTicket join calls := fun equal => same (equal ▸ rfl)
        simp [JoinCall.join, same, foreign, activated, expected, arrived]

end JoinCall

namespace InstanceState

open JoinCall

/-- The state after a call; the answer is not kept. -/
def answerJoin (state : InstanceState) : JoinCall -> Except LifecycleError InstanceState
  | .activate join expected => .ok (state.activateJoin join expected).2
  | .arrive ticket => (state.arrive ticket).map Prod.snd

/-- The state after some calls, one after the other. -/
def answerJoins (state : InstanceState) (calls : List JoinCall) :
    Except LifecycleError InstanceState := calls.foldlM answerJoin state

/-- The entries of a join hold what the calls that were made come to. -/
structure Tallies (state : InstanceState) (calls : List JoinCall) (join : NodeKey) : Prop where
  barrier : state.barriers.get? join = if 0 < activations join calls then
    some ⟨join, activations join calls, min (arrivals join calls) (expectation join calls)⟩ else none
  /-- The expectation is there as long as some arrival is outstanding. -/
  expected : state.record.expected.get? join =
    if arrivals join calls < expectation join calls then some (expectation join calls) else none

/-- How the joins of an instance answer after some calls. -/
structure KeepsCount (state : InstanceState) (calls : List JoinCall) : Prop where
  /-- The activations of a join are numbered from one on. -/
  activates : ∀ join expected, (state.activateJoin join expected).1 = activations join calls + 1
  /-- Tickets of the latest activation are counted until as many as expected are spent. -/
  waits : ∀ join, arrivals join calls + 1 < expectation join calls ->
    ∃ next, state.arrive (latestTicket join calls) =
      .ok (.waiting (arrivals join calls + 1) (expectation join calls), next)
  satisfies : ∀ join, arrivals join calls + 1 = expectation join calls ->
    ∃ next, state.arrive (latestTicket join calls) =
      .ok (.satisfied (activations join calls), next)
  /-- Once the join is satisfied, its tickets are stale. -/
  finishes : ∀ join, expectation join calls ≤ arrivals join calls ->
    state.arrive (latestTicket join calls) = .ok (.stale, state)
  /-- Any other ticket is stale. -/
  refuses : ∀ ticket, ticket ≠ latestTicket ticket.join calls ->
    state.arrive ticket = .ok (.stale, state)
  bounded : ∀ join barrier, state.barriers.get? join = some barrier ->
    barrier.activation = activations join calls ∧ barrier.arrived ≤ expectation join calls

variable {state next : InstanceState} {calls : List JoinCall} {join other : NodeKey}
  {ticket : JoinTicket} {expected : Nat}

/-! ## What the entries say about the answers -/

/-- A join that was never activated expects nobody. -/
theorem activations_pos_of_expectation (some : 0 < expectation join calls) :
    0 < activations join calls := by
  induction calls using List.reverseRecOn with
  | nil => cases some
  | append_singleton calls call ih =>
    cases call with
    | activate other expected =>
      by_cases same : other = join
      · simp [same]
      · simpa [same] using ih (by simpa [same] using some)
    | arrive ticket => simpa using ih (by simpa using some)

/-- The ticket of the latest activation is good for an arrival while some are outstanding. -/
theorem Tallies.admission?_latest (tallies : state.Tallies calls join)
    (open_ : arrivals join calls < expectation join calls) :
    state.admission? (latestTicket join calls) =
      some (⟨join, activations join calls, arrivals join calls⟩, expectation join calls) := by
  have activated := activations_pos_of_expectation (Nat.zero_lt_of_lt open_)
  have barrier := tallies.barrier
  have expected := tallies.expected
  rw [if_pos activated, Nat.min_eq_left open_.le] at barrier
  rw [if_pos open_] at expected
  simp [admission?, latestTicket, barrier, expected]

theorem Tallies.admission?_none (tallies : state.Tallies calls ticket.join)
    (closed : ticket = latestTicket ticket.join calls ->
      expectation ticket.join calls ≤ arrivals ticket.join calls) :
    state.admission? ticket = none := by
  rw [admission?, tallies.barrier, tallies.expected]
  by_cases activated : 0 < activations ticket.join calls
  · by_cases current : activations ticket.join calls = ticket.activation
    · have latest : ticket = latestTicket ticket.join calls := by rw [latestTicket, current]
      simp [current, Nat.not_lt.2 (closed latest)]
    · simp [activated, current]
  · simp [activated]

/-- What the entries of all joins say is what they answer. -/
theorem keepsCount_of_tallies (tallies : ∀ join, state.Tallies calls join) :
    state.KeepsCount calls := by
  have stale {ticket : JoinTicket} (closed : ticket = latestTicket ticket.join calls ->
      expectation ticket.join calls ≤ arrivals ticket.join calls) :
      state.arrive ticket = .ok (.stale, state) := by
    rw [arrive, (tallies ticket.join).admission?_none closed]
  constructor
  case activates =>
    intro join expected
    rw [activateJoin, (tallies join).barrier]
    by_cases activated : 0 < activations join calls
    · simp [activated]
    · simp [Nat.eq_zero_of_not_pos activated]
  case waits =>
    intro join fewer
    rw [arrive, (tallies join).admission?_latest (Nat.lt_of_succ_lt fewer)]
    simp [Nat.not_le.2 (Nat.lt_of_succ_lt fewer), fewer.ne]
  case satisfies =>
    intro join last
    have open_ : arrivals join calls < expectation join calls := Nat.lt_of_succ_le last.le
    rw [arrive, (tallies join).admission?_latest open_]
    simp [Nat.not_le.2 open_, last]
  case finishes => exact fun join all => stale (fun _ => all)
  case refuses => exact fun ticket foreign => stale (fun latest => absurd latest foreign)
  case bounded =>
    intro join barrier found
    rw [(tallies join).barrier] at found
    split at found
    · cases found
      exact ⟨rfl, Nat.min_le_right _ _⟩
    · cases found

/-! ## One call -/

theorem Tallies.activateJoin (tallies : state.Tallies calls join) (positive : 1 ≤ expected) :
    (state.activateJoin other expected).2.Tallies (calls ++ [.activate other expected]) join := by
  by_cases same : other = join
  · subst same
    constructor
    case barrier =>
      have activation := tallies.barrier
      by_cases activated : 0 < activations other calls
      · simp [InstanceState.activateJoin, activation, activated]
      · simp [InstanceState.activateJoin, activation, Nat.eq_zero_of_not_pos activated]
    case expected =>
      have some : 0 < expected := positive
      simp [InstanceState.activateJoin, some]
  · constructor
    case barrier =>
      simpa [InstanceState.activateJoin, OrderedMap.get?_insert_of_ne, Ne.symm same, same]
        using tallies.barrier
    case expected =>
      simpa [InstanceState.activateJoin, OrderedMap.get?_insert_of_ne, Ne.symm same, same]
        using tallies.expected

/-- A stale ticket counts for no join. -/
theorem Tallies.stale (tallies : state.Tallies calls join)
    (closed : ticket = latestTicket join calls -> expectation join calls ≤ arrivals join calls) :
    state.Tallies (calls ++ [.arrive ticket]) join := by
  by_cases latest : ticket = latestTicket join calls
  · have all := closed latest
    constructor
    case barrier =>
      have full : min (arrivals join calls + 1) (expectation join calls) =
          min (arrivals join calls) (expectation join calls) := by omega
      simpa [latest, full] using tallies.barrier
    case expected =>
      have neither : ¬ arrivals join calls + 1 < expectation join calls ∧
          ¬ arrivals join calls < expectation join calls := by omega
      simpa [latest, neither] using tallies.expected
  · exact ⟨by simpa [latest] using tallies.barrier, by simpa [latest] using tallies.expected⟩

/-- An arrival changes nothing about other joins. -/
theorem Tallies.elsewhere (tallies : state.Tallies calls join) (foreign : ticket.join ≠ join)
    (barriers : next.barriers.get? join = state.barriers.get? join)
    (expected : next.record.expected.get? join = state.record.expected.get? join) :
    next.Tallies (calls ++ [.arrive ticket]) join := by
  have other : ticket ≠ latestTicket join calls := fun equal => foreign (equal ▸ rfl)
  exact ⟨by simpa [other, barriers] using tallies.barrier,
    by simpa [other, expected] using tallies.expected⟩

/-- A ticket is always answered, and counts if it is good for an arrival. -/
theorem exists_arrive (tallies : ∀ join, state.Tallies calls join) (ticket : JoinTicket) :
    ∃ arrival next, state.arrive ticket = .ok (arrival, next) ∧
      ∀ join, next.Tallies (calls ++ [.arrive ticket]) join := by
  have own := tallies ticket.join
  by_cases good : ticket = latestTicket ticket.join calls ∧
      arrivals ticket.join calls < expectation ticket.join calls
  · obtain ⟨latest, open_⟩ := good
    have activated := activations_pos_of_expectation (Nat.zero_lt_of_lt open_)
    have admitted := own.admission?_latest open_
    rw [← latest] at admitted
    rw [arrive, admitted]
    simp only [Nat.not_le.2 open_, if_false]
    by_cases last : arrivals ticket.join calls + 1 = expectation ticket.join calls
    · rw [if_pos last]
      refine ⟨_, _, rfl, fun join => ?_⟩
      by_cases same : ticket.join = join
      · subst same
        exact ⟨by simp [← latest, activated, last], by simp [← latest, last]⟩
      · refine (tallies join).elsewhere same ?_ ?_
        · exact OrderedMap.get?_insert_of_ne _ _ (Ne.symm same)
        · rw [OrderedMap.get?_erase, if_neg (Ne.symm same)]
    · rw [if_neg last]
      have fewer : arrivals ticket.join calls + 1 < expectation ticket.join calls := by omega
      refine ⟨_, _, rfl, fun join => ?_⟩
      by_cases same : ticket.join = join
      · subst same
        exact ⟨by simp [← latest, activated, Nat.min_eq_left fewer.le],
          by simpa [← latest, fewer, open_] using own.expected⟩
      · exact (tallies join).elsewhere same (OrderedMap.get?_insert_of_ne _ _ (Ne.symm same)) rfl
  · have closed : ticket = latestTicket ticket.join calls ->
        expectation ticket.join calls ≤ arrivals ticket.join calls :=
      fun latest => Nat.not_lt.1 (fun open_ => good ⟨latest, open_⟩)
    rw [arrive, own.admission?_none closed]
    refine ⟨_, _, rfl, fun join => ?_⟩
    by_cases same : ticket.join = join
    · subst same
      exact own.stale closed
    · exact (tallies join).elsewhere same rfl rfl

/-! ## Any number of calls -/

/-- Every call is answered, and the entries of all joins hold what the calls come to. -/
theorem exists_answerJoins (bare : state.barriers = .empty)
    (unexpecting : state.record.expected = .empty)
    (positive : ∀ join expected, .activate join expected ∈ calls -> 1 ≤ expected) :
    ∃ last, state.answerJoins calls = .ok last ∧ ∀ join, last.Tallies calls join := by
  induction calls using List.reverseRecOn with
  | nil => exact ⟨state, rfl, fun join => ⟨by rw [bare]; rfl, by rw [unexpecting]; rfl⟩⟩
  | append_singleton calls call ih =>
    obtain ⟨last, answered, tallies⟩ :=
      ih (fun join expected listed => positive join expected (List.mem_append_left _ listed))
    have onward : state.answerJoins (calls ++ [call]) = last.answerJoin call := by
      rw [answerJoins, List.foldlM_append, ← answerJoins, answered]
      exact bind_pure (last.answerJoin call)
    rw [onward]
    cases call with
    | activate join expected =>
      have some := positive join expected (List.mem_append_right _ List.mem_cons_self)
      exact ⟨_, rfl, fun other => (tallies other).activateJoin some⟩
    | arrive ticket =>
      obtain ⟨arrival, next, arrives, tallies'⟩ := exists_arrive tallies ticket
      exact ⟨next, by rw [answerJoin, arrives]; rfl, tallies'⟩

/-- From a state without barriers and expectations, every sequence of calls is answered without an
overflow. Afterwards every join answers as the calls about it make it, and has the entries that it
had if only these calls were made. -/
theorem joins_keep_count (bare : state.barriers = .empty)
    (unexpecting : state.record.expected = .empty)
    (positive : ∀ join expected, .activate join expected ∈ calls -> 1 ≤ expected) :
    ∃ last, state.answerJoins calls = .ok last ∧ last.KeepsCount calls ∧
      ∀ join, ∃ alone, state.answerJoins (about join calls) = .ok alone ∧
        last.barriers.get? join = alone.barriers.get? join ∧
        last.record.expected.get? join = alone.record.expected.get? join := by
  obtain ⟨last, answered, tallies⟩ := exists_answerJoins bare unexpecting positive
  refine ⟨last, answered, keepsCount_of_tallies tallies, fun join => ?_⟩
  obtain ⟨alone, answered', tallies'⟩ := @exists_answerJoins _ (about join calls) bare unexpecting
    (fun other expected listed => positive other expected (List.mem_filter.1 listed).1)
  obtain ⟨activated, expected, arrived⟩ := counts_about join calls
  refine ⟨alone, answered', ?_, ?_⟩
  · rw [(tallies join).barrier, (tallies' join).barrier, activated, expected, arrived]
  · rw [(tallies join).expected, (tallies' join).expected, expected, arrived]

end InstanceState

/-! ## Two joins in turn -/

namespace AlternatingJoins

def early : NodeKey := ⟨"early", rfl⟩
def late : NodeKey := ⟨"late", rfl⟩

/-- The early join is activated twice; between the two the late one is activated, and it is satisfied
after them. Of the four tickets for the early join only the last is good for its second activation. -/
def calls : List JoinCall := [.activate early 2, .arrive ⟨early, 1⟩, .activate late 1,
  .arrive ⟨early, 2⟩, .activate early 3, .arrive ⟨early, 1⟩, .arrive ⟨late, 1⟩, .arrive ⟨early, 2⟩]

def state : InstanceState := .ofRecord (.create ⟨0⟩
  ⟨"0000000000000000000000000000000000000000000000000000000000000000", by decide⟩ .null "" default)

theorem positive : ∀ join expected, .activate join expected ∈ calls -> 1 ≤ expected := by
  simp only [calls, List.mem_cons, List.not_mem_nil, JoinCall.activate.injEq, reduceCtorEq,
    false_or, or_false]
  omega

end AlternatingJoins

open AlternatingJoins in
/-- The third activation of the early join is next. Its second one counts one arrival of three so far,
and what remains of the others is stale. -/
theorem InstanceState.joins_keep_count_of_alternating :
    ∃ last, state.answerJoins calls = .ok last ∧ (last.activateJoin early 1).1 = 3 ∧
      (∃ next, last.arrive ⟨early, 2⟩ = .ok (.waiting 2 3, next)) ∧
      last.arrive ⟨early, 1⟩ = .ok (.stale, last) ∧ last.arrive ⟨late, 1⟩ = .ok (.stale, last) := by
  obtain ⟨last, answered, keeps, -⟩ := @joins_keep_count state calls rfl rfl positive
  exact ⟨last, answered, keeps.activates early 1, keeps.waits early (by decide),
    keeps.refuses _ (by decide), keeps.finishes late (by decide)⟩

end ProcessEngine
