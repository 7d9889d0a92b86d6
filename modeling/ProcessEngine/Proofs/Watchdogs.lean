import ProcessEngine.Proofs.Anchors
import ProcessEngine.Proofs.ShelteredCode

/-!
# Hosts and their watchdogs

A fiber has a watchdog only while it goes through the block that the watchdog guards, and a
watchdog watches only over a fiber that knows it (`WellGuarded`). A host and its watchdog part
together (`Loosens`), a host moves on alone (`Handled.moved`), or a fiber without a watchdog gets a
new one (`Handled.armed`). So fibers stay well guarded, and as long as a watchdog goes on watching
over a host that is about to take it away, the host stays where it is (`Lingers`).
-/

namespace ProcessEngine

/-- The fiber has no watchdog and is none. -/
structure Fiber.Bare (fiber : Fiber) : Prop where
  unguarded : fiber.watchdog = none
  free : fiber.watch = none

/-- The wait ends with an answer that somebody gives. -/
inductive Wait.Asks : Wait -> Prop where
  | job {key} : Asks (.job key)
  | message {name correlation} : Asks (.message name correlation)
  | human {task} : Asks (.human task)

/-- A fiber that waits in such a way goes on in code that takes its watchdog away. -/
inductive Program.Protects (program : Program) (incidents : OrderedMap IncidentId Incident)
    (fiber : Fiber) : Wait -> Prop where
  | ready {boundary code} (stands : program.HasCode fiber.pc code)
    (shelters : Instruction.Shelters boundary code) : Protects program incidents fiber .ready
  | asking {wait : Wait} (asks : wait.Asks) (still : ¬ program.Unwatches fiber.pc)
    (next : program.Unwatches (fiber.pc + 1)) : Protects program incidents fiber wait
  | halted {id key} (raised : RaisedFor incidents id key) (still : ¬ program.Unwatches fiber.pc)
    (next : program.Unwatches (fiber.pc + 1)) : Protects program incidents fiber (.incident id)

section

variable {program : Program} {incidents later : OrderedMap IncidentId Incident} {fiber : Fiber}

theorem Program.Protects.recalled {wait : Wait}
    (protects : program.Protects incidents fiber wait) (recalled : Recalled incidents later) :
    program.Protects later fiber wait := by
  cases protects with
  | ready stands shelters => exact .ready stands shelters
  | asking asks still next => exact .asking asks still next
  | halted raised still next => exact .halted (raised.recalled recalled) still next

/-- While a watchdog watches over a fiber, the fiber waits for no timer. -/
theorem Program.Protects.ne_timer {wait : Wait} (protects : program.Protects incidents fiber wait)
    (due : Instant) : wait ≠ .timer due := by
  rintro rfl
  cases protects with
  | asking asks => cases asks

/-- A fiber that is answered takes its watchdog away next, and has not done so yet. -/
theorem Program.Protects.next {wait : Wait} (protects : program.Protects incidents fiber wait)
    (asks : wait.Asks) :
    program.Unwatches (fiber.pc + 1) ∧ ¬ program.Unwatches fiber.pc := by
  cases protects with
  | ready => cases asks
  | asking _ still next => exact ⟨next, still⟩
  | halted => cases asks

/-- A fiber that is about to take its watchdog away is protected. -/
theorem Program.Unwatches.protects (unwatches : program.Unwatches fiber.pc) :
    program.Protects incidents fiber .ready := by
  obtain ⟨boundary, stands⟩ := unwatches.hasCode
  exact .ready stands .unwatch

end

/-- Every fiber with a watchdog is protected, its watchdog is there, and every watchdog watches over
a fiber that knows it and is in the block that it guards. -/
structure WellGuarded (program : Program) (incidents : OrderedMap IncidentId Incident)
    (fibers : FiberId -> Option Fiber) : Prop where
  protects : ∀ {id fiber}, fibers id = some fiber -> fiber.watchdog ≠ none ->
    program.Protects incidents fiber fiber.wait
  attended : ∀ {id guard watch}, fibers id = some guard -> guard.watch = some watch ->
    ∃ host, fibers watch.host = some host ∧ host.watchdog = some id ∧ program.Guards watch host.pc
  accompanied : ∀ {id host watchdog}, fibers id = some host -> host.watchdog = some watchdog ->
    ∃ guard, fibers watchdog = some guard

/-- The fiber that is found there, if there is one, has no watchdog and is none. -/
def BareAt (fibers : FiberId -> Option Fiber) (id : FiberId) : Prop :=
  ∀ fiber, fibers id = some fiber -> fiber.Bare

/-- One of the two fibers watches over the other one. -/
inductive Paired (fibers : FiberId -> Option Fiber) (id other : FiberId) : Prop where
  | host {host} (found : fibers id = some host) (knows : host.watchdog = some other)
  | guard {guard watch} (found : fibers id = some guard) (watches : guard.watch = some watch)
    (hosts : watch.host = other)

/-- Fibers stay as they are, or they are bare afterwards and so is the other one of a pair. -/
def Loosens (fibers fibers' : FiberId -> Option Fiber) : Prop :=
  ∀ id, fibers' id = fibers id ∨
    BareAt fibers' id ∧ ∀ other, Paired fibers id other -> BareAt fibers' other

section

variable {program : Program} {incidents incidents' : OrderedMap IncidentId Incident}
  {fibers middle fibers' : FiberId -> Option Fiber} {own watchdog id : FiberId}
  {owner : InstanceId} {sequence supply drawn : Nat} {host : Fiber}

theorem BareAt.of_none (absent : fibers id = none) : BareAt fibers id := by
  intro fiber found
  cases absent.symm.trans found

theorem BareAt.of_found {fiber : Fiber} (found : fibers id = some fiber) (bare : fiber.Bare) :
    BareAt fibers id := by
  intro other found'
  cases found.symm.trans found'
  exact bare

/-- A fiber that is bare belongs to no pair. -/
theorem BareAt.unpaired (bare : BareAt fibers id) {other : FiberId} : ¬ Paired fibers id other := by
  rintro (⟨found, knows⟩ | ⟨found, watches, -⟩)
  · rw [(bare _ found).unguarded] at knows
    cases knows
  · rw [(bare _ found).free] at watches
    cases watches

/-! ## Pairs that part -/

namespace Loosens

theorem of_same (same : ∀ id, fibers' id = fibers id) : Loosens fibers fibers' :=
  fun id => .inl (same id)

theorem bareAt (loosens : Loosens fibers fibers') (bare : BareAt fibers id) : BareAt fibers' id := by
  rcases loosens id with same | ⟨after, -⟩
  · intro fiber found
    exact bare fiber (same ▸ found)
  · exact after

/-- What was a pair still is, or both are bare. -/
theorem paired (loosens : Loosens fibers fibers') {other : FiberId}
    (paired : Paired fibers id other) :
    Paired fibers' id other ∨ BareAt fibers' id ∧ BareAt fibers' other := by
  rcases loosens id with same | ⟨after, others⟩
  · left
    cases paired with
    | host found knows => exact .host (same.trans found) knows
    | guard found watches hosts => exact .guard (same.trans found) watches hosts
  · exact .inr ⟨after, others other paired⟩

theorem trans (first : Loosens fibers middle) (rest : Loosens middle fibers') :
    Loosens fibers fibers' := by
  intro id
  rcases rest id with same | ⟨after, others⟩
  · rcases first id with same' | ⟨between, others⟩
    · exact .inl (same.trans same')
    · exact .inr ⟨rest.bareAt between, fun other paired => rest.bareAt (others other paired)⟩
  · refine .inr ⟨after, fun other paired => ?_⟩
    rcases first.paired paired with still | ⟨-, between⟩
    · exact others other still
    · exact rest.bareAt between

/-- One fiber changes that is bare before and afterwards. -/
theorem of_own (elsewhere : ∀ id, id ≠ own -> fibers' id = fibers id) (bare : BareAt fibers own)
    (after : BareAt fibers' own) : Loosens fibers fibers' := by
  intro id
  by_cases same : id = own
  · subst same
    exact .inr ⟨after, fun other paired => absurd paired bare.unpaired⟩
  · exact .inl (elsewhere id same)

/-- All fibers end. -/
theorem of_vacant (vacant : ∀ id, fibers' id = none) : Loosens fibers fibers' :=
  fun id => .inr ⟨.of_none (vacant id), fun other _ => .of_none (vacant other)⟩

end Loosens

namespace WellGuarded

variable (guarded : WellGuarded program incidents fibers)

include guarded

/-- A fiber with a watchdog is none itself. -/
theorem free (wf : WellFormed fibers owner sequence supply) (found : fibers id = some host)
    (knows : host.watchdog ≠ none) : host.watch = none :=
  wf.unwatched found (guarded.protects found knows).ne_timer

/-- A host parts with its watchdog. -/
theorem parts (wf : WellFormed fibers owner sequence supply) (found : fibers own = some host)
    (knows : host.watchdog = some watchdog)
    (elsewhere : ∀ id, id ≠ own -> id ≠ watchdog -> fibers' id = fibers id)
    (bare : BareAt fibers' own) (after : BareAt fibers' watchdog) : Loosens fibers fibers' := by
  intro id
  by_cases hosts : id = own
  · subst hosts
    refine .inr ⟨bare, fun other paired => ?_⟩
    cases paired with
    | host found' knows' =>
      cases found.symm.trans found'
      cases knows.symm.trans knows'
      exact after
    | guard found' watches hosts =>
      cases found.symm.trans found'
      rw [guarded.free wf found (by simp [knows])] at watches
      cases watches
  · by_cases guards : id = watchdog
    · subst guards
      refine .inr ⟨after, fun other paired => ?_⟩
      cases paired with
      | host found' knows' =>
        obtain ⟨watch, watches, -⟩ := wf.watched found knows found'
        rw [guarded.free wf found' (by simp [knows'])] at watches
        cases watches
      | guard found' watches hosted =>
        obtain ⟨watch, watches', hosts⟩ := wf.watched found knows found'
        cases watches.symm.trans watches'
        exact hosted ▸ hosts ▸ bare
    · exact .inl (elsewhere id hosts guards)

theorem loosened (wf : WellFormed fibers owner sequence supply) (loosens : Loosens fibers fibers')
    (recalled : Recalled incidents incidents') : WellGuarded program incidents' fibers' := by
  refine ⟨fun {id fiber} found knows => ?_, fun {id guard watch} found watches => ?_,
    fun {id host watchdog} found knows => ?_⟩
  · rcases loosens id with same | ⟨bare, -⟩
    · exact (guarded.protects (same ▸ found) knows).recalled recalled
    · exact absurd (bare fiber found).unguarded knows
  · rcases loosens id with same | ⟨bare, -⟩
    · obtain ⟨host, present, knows, within⟩ := guarded.attended (same ▸ found) watches
      rcases loosens watch.host with same' | ⟨-, others⟩
      · exact ⟨host, same'.trans present, knows, within⟩
      -- If the host were bare now, so would be its watchdog.
      · rw [(others id (.host present knows) guard found).free] at watches
        cases watches
    · rw [(bare _ found).free] at watches
      cases watches
  · rcases loosens id with same | ⟨bare, -⟩
    · have before : fibers id = some host := same ▸ found
      obtain ⟨guard, present⟩ := guarded.accompanied before knows
      rcases loosens watchdog with same' | ⟨-, others⟩
      · exact ⟨guard, same'.trans present⟩
      -- If the watchdog were bare now, so would be its host.
      · obtain ⟨watch, watches, hosts⟩ := wf.watched before knows present
        rw [(others id (.guard present watches hosts) host found).unguarded] at knows
        cases knows
    · rw [(bare _ found).unguarded] at knows
      cases knows

end WellGuarded

/-! ## Everything that happens to hosts and watchdogs -/

/-- What one step does to hosts and watchdogs, if identifiers below the supply were drawn before:
pairs part, one fiber moves on, or one fiber gets a new watchdog. A host that is about to take its
watchdog away does not move on without doing so. -/
inductive Handled (program : Program) (incidents : OrderedMap IncidentId Incident) (supply : Nat)
    (fibers fibers' : FiberId -> Option Fiber) : Prop where
  | loosened (loosens : Loosens fibers fibers')
  | moved {own former later} (found : fibers own = some former) (there : fibers' own = some later)
    (elsewhere : ∀ id, id ≠ own -> fibers' id = fibers id)
    (same : later.watchdog = former.watchdog) (free : later.watch = none)
    (protects : later.watchdog ≠ none -> program.Protects incidents later later.wait)
    (within : later.watchdog ≠ none ->
      ∀ {watch}, program.Guards watch former.pc -> program.Guards watch later.pc)
    (still : former.watchdog ≠ none -> former.wait = .ready -> ¬ program.Unwatches former.pc)
  | armed {own watchdog former later guard watch} (found : fibers own = some former)
    (bare : former.Bare) (there : fibers' own = some later)
    (knows : later.watchdog = some watchdog) (free : later.watch = none)
    (protects : program.Protects incidents later later.wait) (fresh : supply ≤ watchdog.number)
    (unused : fibers watchdog = none) (guards : fibers' watchdog = some guard)
    (alone : guard.watchdog = none) (watches : guard.watch = some watch) (hosts : watch.host = own)
    (within : program.Guards watch later.pc)
    (elsewhere : ∀ id, id ≠ own -> id ≠ watchdog -> fibers' id = fibers id)

/-- Fibers stay well guarded. -/
theorem WellGuarded.handled (guarded : WellGuarded program incidents fibers)
    (wf : WellFormed fibers owner sequence drawn)
    (handled : Handled program incidents' supply fibers fibers')
    (recalled : Recalled incidents incidents') : WellGuarded program incidents' fibers' := by
  cases handled with
  | loosened loosens => exact guarded.loosened wf loosens recalled
  | @moved own former later found there elsewhere same free protects within still =>
    refine ⟨fun {id fiber} present knows => ?_, fun {id guard watch} present watches => ?_,
      fun {id host watchdog} present knows => ?_⟩
    · by_cases mine : id = own
      · subst mine
        cases there.symm.trans present
        exact protects knows
      · rw [elsewhere id mine] at present
        exact (guarded.protects present knows).recalled recalled
    · by_cases mine : id = own
      · subst mine
        cases there.symm.trans present
        cases free.symm.trans watches
      · rw [elsewhere id mine] at present
        obtain ⟨host, hosts, knows, inside⟩ := guarded.attended present watches
        by_cases moved : watch.host = own
        · rw [moved] at hosts ⊢
          cases found.symm.trans hosts
          have knows' := same.trans knows
          exact ⟨later, there, knows', within (by simp [knows']) inside⟩
        · exact ⟨host, (elsewhere _ moved).trans hosts, knows, inside⟩
    · have before : ∃ guard, fibers watchdog = some guard := by
        by_cases mine : id = own
        · subst mine
          cases there.symm.trans present
          exact guarded.accompanied found (same.symm.trans knows)
        · exact guarded.accompanied (elsewhere id mine ▸ present) knows
      obtain ⟨guard, guards⟩ := before
      by_cases moved : watchdog = own
      · exact ⟨later, moved ▸ there⟩
      · exact ⟨guard, (elsewhere _ moved).trans guards⟩
  | @armed own watchdog former later guard watch found bare there knows free protects fresh unused
      guards alone watches hosts within elsewhere =>
    refine ⟨fun {id fiber} present knows' => ?_, fun {id guard' watch'} present watches' => ?_,
      fun {id host watchdog'} present knows' => ?_⟩
    · by_cases mine : id = own
      · subst mine
        cases there.symm.trans present
        exact protects
      · by_cases new : id = watchdog
        · subst new
          cases guards.symm.trans present
          exact absurd alone knows'
        · rw [elsewhere id mine new] at present
          exact (guarded.protects present knows').recalled recalled
    · by_cases mine : id = own
      · subst mine
        cases there.symm.trans present
        cases free.symm.trans watches'
      · by_cases new : id = watchdog
        · subst new
          cases guards.symm.trans present
          cases watches.symm.trans watches'
          exact ⟨later, hosts ▸ there, knows, within⟩
        · rw [elsewhere id mine new] at present
          obtain ⟨host, present', knows', inside⟩ := guarded.attended present watches'
          refine ⟨host, (elsewhere _ ?_ ?_).trans present', knows', inside⟩
          · intro moved
            rw [moved] at present'
            cases found.symm.trans present'
            cases bare.unguarded.symm.trans knows'
          · intro moved
            rw [moved, unused] at present'
            cases present'
    · by_cases mine : id = own
      · subst mine
        cases there.symm.trans present
        cases knows.symm.trans knows'
        exact ⟨guard, guards⟩
      · by_cases new : id = watchdog
        · subst new
          cases guards.symm.trans present
          cases alone.symm.trans knows'
        · rw [elsewhere id mine new] at present
          obtain ⟨former', guards'⟩ := guarded.accompanied present knows'
          by_cases host : watchdog' = own
          · exact ⟨later, host ▸ there⟩
          · refine ⟨former', (elsewhere _ host ?_).trans guards'⟩
            rintro rfl
            cases unused.symm.trans guards'

/-- The watchdog is there and goes on watching. -/
def ArmedAt (fibers : FiberId -> Option Fiber) (watchdog : FiberId) : Prop :=
  ∃ guard watch, fibers watchdog = some guard ∧ guard.watch = some watch

/-- A watchdog that does not watch any more never does again. -/
theorem Handled.disarmed (handled : Handled program incidents supply fibers fibers')
    (drawn : watchdog.number < supply) (armed : ArmedAt fibers' watchdog) :
    ArmedAt fibers watchdog := by
  obtain ⟨guard, watch, present, watches⟩ := armed
  cases handled with
  | loosened loosens =>
    rcases loosens watchdog with same | ⟨bare, -⟩
    · exact ⟨guard, watch, same ▸ present, watches⟩
    · cases (bare guard present).free.symm.trans watches
  | @moved own _ _ _ there elsewhere _ free =>
    have other : watchdog ≠ own := by
      rintro rfl
      cases there.symm.trans present
      cases free.symm.trans watches
    exact ⟨guard, watch, elsewhere _ other ▸ present, watches⟩
  | @armed own fresh _ _ _ _ _ _ there _ free _ late _ _ _ _ _ _ elsewhere =>
    have other : watchdog ≠ own := by
      rintro rfl
      cases there.symm.trans present
      cases free.symm.trans watches
    have old : watchdog ≠ fresh := by
      rintro rfl
      omega
    exact ⟨guard, watch, elsewhere _ other old ▸ present, watches⟩

/-- As long as the watchdog watches, its host is this one. -/
def Lingers (fibers : FiberId -> Option Fiber) (host : Fiber) (watchdog : FiberId) : Prop :=
  ArmedAt fibers watchdog -> fibers host.id = some host

/-- A host that is about to take its watchdog away stays as it is as long as the watchdog
watches. -/
theorem Handled.lingers (handled : Handled program incidents supply fibers fibers')
    (drawn : watchdog.number < supply) (knows : host.watchdog = some watchdog)
    (ready : host.wait = .ready) (unwatches : program.Unwatches host.pc)
    (lingers : Lingers fibers host watchdog) : Lingers fibers' host watchdog := by
  intro armed
  have found := lingers (handled.disarmed drawn armed)
  obtain ⟨guard, watch, present, watches⟩ := armed
  cases handled with
  | loosened loosens =>
    rcases loosens host.id with same | ⟨-, others⟩
    · exact same.trans found
    · cases (others watchdog (.host found knows) guard present).free.symm.trans watches
  | moved found' there elsewhere same free protects within still =>
    refine (elsewhere _ ?_).trans found
    rintro rfl
    cases found.symm.trans found'
    exact still (by simp [knows]) ready unwatches
  | armed found' bare there knows' free protects fresh unused guards alone watches' hosts within
      elsewhere =>
    refine (elsewhere _ ?_ ?_).trans found
    · rintro rfl
      cases found.symm.trans found'
      cases bare.unguarded.symm.trans knows
    · rintro rfl
      cases unused.symm.trans found

/-- What every step keeps once the watchdog has been drawn. -/
def Endures (program : Program) (watchdog : FiberId)
    (Holds : (FiberId -> Option Fiber) -> Prop) : Prop :=
  ∀ {incidents supply fibers fibers'}, watchdog.number < supply ->
    Handled program incidents supply fibers fibers' -> Holds fibers -> Holds fibers'

theorem endures_disarmed (program : Program) (watchdog : FiberId) :
    Endures program watchdog (fun fibers => ¬ ArmedAt fibers watchdog) :=
  fun drawn handled disarmed armed => disarmed (handled.disarmed drawn armed)

theorem endures_lingers (knows : host.watchdog = some watchdog) (ready : host.wait = .ready) :
    Endures program watchdog (fun fibers => program.Unwatches host.pc ∧
      Lingers fibers host watchdog) :=
  fun drawn handled pending =>
    ⟨pending.1, handled.lingers drawn knows ready pending.1 pending.2⟩

end

end ProcessEngine
