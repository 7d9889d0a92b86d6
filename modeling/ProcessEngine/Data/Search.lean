/-!
# Search in a finite domain

A search follows steps from some places to the places they lead to, as long as it
stays inside a finite domain, and enters no place twice. It ends because every
place that it enters is one fewer that it can still enter. `mem_reachable_iff` says
that it finds the places that can be reached and no others.
-/

namespace ProcessEngine

universe u

/-- Finitely many places. -/
structure Domain (Place : Type u) where
  /-- Whether a place belongs to the domain. -/
  inside : Place -> Bool
  /-- The places of the domain can be listed. -/
  finite : ∃ places : List Place, ∀ place, inside place = true -> place ∈ places

namespace Domain

variable {Place : Type u} [DecidableEq Place]

/-- A list that holds every place of the domain. -/
noncomputable def places (domain : Domain Place) : List Place := domain.finite.choose

/-- How many listed places were not entered yet. -/
noncomputable def unseen (domain : Domain Place) (seen : List Place) : Nat :=
  (domain.places.filter (fun place => place ∉ seen)).length

omit [DecidableEq Place] in
/-- Every place of the domain is listed. -/
theorem mem_places {domain : Domain Place} {place : Place} (inside : domain.inside place = true) :
    place ∈ domain.places := domain.finite.choose_spec place inside

/-- A new place leaves fewer to be entered. -/
theorem unseen_cons_lt {domain : Domain Place} {place : Place} {seen : List Place}
    (inside : domain.inside place = true) (new : place ∉ seen) :
    domain.unseen (place :: seen) < domain.unseen seen := by
  have listed := mem_places inside
  unfold unseen
  generalize domain.places = places at listed
  have weaker : ∀ rest : List Place,
      (rest.filter (fun other => other ∉ place :: seen)).length ≤
        (rest.filter (fun other => other ∉ seen)).length := by
    intro rest
    induction rest with
    | nil => simp
    | cons head tail hypothesis =>
      by_cases known : head ∈ seen <;> by_cases same : head = place <;> simp_all
      omega
  induction places with
  | nil => cases listed
  | cons head tail hypothesis =>
    by_cases same : head = place
    · subst same
      have bound := weaker tail
      rw [List.filter_cons_of_neg (by simp), List.filter_cons_of_pos (by simpa using new),
        List.length_cons]
      exact Nat.lt_succ_of_le bound
    · have inTail : place ∈ tail := by
        cases listed with
        | head => exact absurd rfl same
        | tail _ member => exact member
      have smaller := hypothesis inTail
      by_cases known : head ∈ seen <;> simp_all

/-- The places entered when those on a stack are visited in turn and the next places of each are
visited before the rest of the stack. -/
def explore (domain : Domain Place) (next : Place -> List Place) :
    List Place -> List Place -> List Place
  | [], seen => seen
  | place :: stack, seen =>
    if domain.inside place = true ∧ place ∉ seen then
      explore domain next (next place ++ stack) (place :: seen)
    else explore domain next stack seen
termination_by stack seen => (domain.unseen seen, stack.length)
decreasing_by
  · rename_i admitted
    exact Prod.Lex.left _ _ (unseen_cons_lt admitted.1 admitted.2)
  · exact Prod.Lex.right _ (by simp)

/-- The places that can be reached from some places without leaving the domain. -/
def reachable (domain : Domain Place) (next : Place -> List Place) (sources : List Place) :
    List Place := domain.explore next sources []

/-- A place is reached in the domain from another by steps that stay inside. -/
inductive Reaches (domain : Domain Place) (next : Place -> List Place) :
    Place -> Place -> Prop where
  | refl {place} (inside : domain.inside place = true) : Reaches domain next place place
  | step {first second last} (inside : domain.inside first = true)
      (onward : second ∈ next first) (rest : Reaches domain next second last) :
      Reaches domain next first last

variable {domain : Domain Place} {next : Place -> List Place}

omit [DecidableEq Place] in
/-- A reached place lies in the domain. -/
theorem Reaches.inside_last {first last : Place} (reaches : domain.Reaches next first last) :
    domain.inside last = true := by
  induction reaches with
  | refl inside => exact inside
  | step _ _ _ hypothesis => exact hypothesis

omit [DecidableEq Place] in
/-- What is reached from a set of places that is closed under steps belongs to the set. -/
theorem Reaches.mem_of_closed {found : List Place}
    (closed : ∀ place ∈ found, ∀ other ∈ next place,
      domain.inside other = true -> other ∈ found)
    {first last : Place} (reaches : domain.Reaches next first last) (member : first ∈ found) :
    last ∈ found := by
  induction reaches with
  | refl _ => exact member
  | step inside onward rest hypothesis =>
    refine hypothesis (closed _ member _ onward ?_)
    cases rest with
    | refl inside => exact inside
    | step inside _ _ => exact inside

/-- What a search finds: what it had entered and what is on its stack are found, and every next
place inside the domain of a found place is found, if that held of the entered places save for
places that are still on the stack. -/
theorem explore_closed (stack seen : List Place)
    (invariant : ∀ place ∈ seen, ∀ other ∈ next place, domain.inside other = true ->
      other ∈ seen ∨ other ∈ stack) :
    (∀ place ∈ seen, place ∈ domain.explore next stack seen) ∧
    (∀ place ∈ stack, domain.inside place = true -> place ∈ domain.explore next stack seen) ∧
    (∀ place ∈ domain.explore next stack seen, ∀ other ∈ next place,
      domain.inside other = true -> other ∈ domain.explore next stack seen) := by
  fun_induction explore domain next stack seen with
  | case1 seen =>
    refine ⟨fun _ member => member, by simp, ?_⟩
    intro place member other onward inside
    simpa using invariant place member other onward inside
  | case2 place stack seen admitted hypothesis =>
    obtain ⟨kept, stacked, closed⟩ := hypothesis (by
      intro entered member other onward inside
      rcases List.mem_cons.1 member with same | old
      · subst same
        exact .inr (List.mem_append_left _ onward)
      · rcases invariant entered old other onward inside with known | waiting
        · exact .inl (List.mem_cons_of_mem _ known)
        · rcases List.mem_cons.1 waiting with same | later
          · exact .inl (same ▸ List.mem_cons_self)
          · exact .inr (List.mem_append_right _ later))
    refine ⟨fun other member => kept other (List.mem_cons_of_mem _ member), ?_, closed⟩
    intro other member inside
    rcases List.mem_cons.1 member with same | later
    · exact same ▸ kept place List.mem_cons_self
    · exact stacked other (List.mem_append_right _ later) inside
  | case3 place stack seen refused hypothesis =>
    have known : domain.inside place = true -> place ∈ seen := by
      intro inside
      exact Classical.byContradiction (fun new => refused ⟨inside, new⟩)
    obtain ⟨kept, stacked, closed⟩ := hypothesis (by
      intro entered member other onward inside
      rcases invariant entered member other onward inside with old | waiting
      · exact .inl old
      · rcases List.mem_cons.1 waiting with same | later
        · exact .inl (same ▸ known (same ▸ inside))
        · exact .inr later)
    refine ⟨kept, ?_, closed⟩
    intro other member inside
    rcases List.mem_cons.1 member with same | later
    · exact same ▸ kept place (known (same ▸ inside))
    · exact stacked other later inside

/-- A search finds only what it had entered or what is reached from its stack. -/
theorem reaches_of_mem_explore (stack seen : List Place) {place : Place}
    (member : place ∈ domain.explore next stack seen) :
    place ∈ seen ∨ ∃ source ∈ stack, domain.Reaches next source place := by
  fun_induction explore domain next stack seen with
  | case1 seen => exact .inl member
  | case2 top stack seen admitted hypothesis =>
    rcases hypothesis member with known | ⟨source, waiting, reaches⟩
    · rcases List.mem_cons.1 known with rfl | old
      · exact .inr ⟨_, List.mem_cons_self, .refl admitted.1⟩
      · exact .inl old
    · rcases List.mem_append.1 waiting with onward | later
      · exact .inr ⟨top, List.mem_cons_self, .step admitted.1 onward reaches⟩
      · exact .inr ⟨source, List.mem_cons_of_mem _ later, reaches⟩
  | case3 top stack seen refused hypothesis =>
    rcases hypothesis member with known | ⟨source, waiting, reaches⟩
    · exact .inl known
    · exact .inr ⟨source, List.mem_cons_of_mem _ waiting, reaches⟩

/-- The search from some places finds the places that are reached from one of them. -/
theorem mem_reachable_iff {sources : List Place} {place : Place} :
    place ∈ domain.reachable next sources ↔
      ∃ source ∈ sources, domain.Reaches next source place := by
  constructor
  · intro member
    rcases reaches_of_mem_explore sources [] member with known | found
    · cases known
    · exact found
  · rintro ⟨source, listed, reaches⟩
    obtain ⟨_, stacked, closed⟩ :=
      @explore_closed _ _ domain next sources [] (by simp)
    refine reaches.mem_of_closed closed (stacked source listed ?_)
    cases reaches with
    | refl inside => exact inside
    | step inside _ _ => exact inside

/-- A search enters no place twice. -/
theorem nodup_explore (stack seen : List Place) (fresh : seen.Nodup) :
    (domain.explore next stack seen).Nodup := by
  fun_induction explore domain next stack seen with
  | case1 seen => exact fresh
  | case2 place stack seen admitted hypothesis =>
    exact hypothesis (List.nodup_cons.2 ⟨admitted.2, fresh⟩)
  | case3 place stack seen refused hypothesis => exact hypothesis fresh

end Domain

end ProcessEngine
