import TenantWork.Proofs.Work.Entering
/-!
What every snapshot of a unit of work looks like. The status decides which of result, failure, start
and end are present, the times follow each other, and in the initial status nothing is left of what
was tried before. A new snapshot is well formed, and a transition that the lifecycle allows makes a
well-formed snapshot of one, whatever the request carries and whatever the clock shows.
-/
namespace TenantWork

theorem Time.Instant.le_latest (now before : Time.Instant) : before ≤ latest now before := by
  unfold latest
  split
  next => exact Int.le_refl _
  next later => exact Int.le_of_lt (Int.not_le.1 later)

/-- The statuses that work is in only once it has begun. -/
def Lifecycle.hasBegun (cycle : Lifecycle) (status : Status) : Bool :=
  status == cycle.running || status == cycle.success || status == .partiallyFilled

namespace Kind

variable {kind : Kind}

theorem success_ne_running : kind.lifecycle.success ≠ kind.lifecycle.running := by
  cases kind <;> decide

theorem failure_ne_running : kind.lifecycle.failure ≠ kind.lifecycle.running := by
  cases kind <;> decide

theorem failure_ne_success : kind.lifecycle.failure ≠ kind.lifecycle.success := by
  cases kind <;> decide

theorem running_unfinished : kind.lifecycle.isFinished kind.lifecycle.running = false := by
  cases kind <;> decide

theorem initial_unbegun : kind.lifecycle.hasBegun kind.lifecycle.initial = false := by
  cases kind <;> decide

theorem failure_unbegun : kind.lifecycle.hasBegun kind.lifecycle.failure = false := by
  cases kind <;> decide

variable {source target : Status}

theorem not_success_of_allows (allowed : kind.lifecycle.allows source target = true) :
    source ≠ kind.lifecycle.success := by
  rintro rfl
  have none : kind.lifecycle.targets kind.lifecycle.success = [] := by cases kind <;> rfl
  rw [Lifecycle.allows, none] at allowed
  cases allowed

/-- Work begins to run only from the initial status. -/
theorem initial_of_running (allowed : kind.lifecycle.allows source kind.lifecycle.running = true) :
    source = kind.lifecycle.initial := by
  revert allowed
  cases kind <;> cases source <;> decide

theorem begun_of_allows (allowed : kind.lifecycle.allows source target = true)
    (begun : kind.lifecycle.hasBegun target = true) :
    target = kind.lifecycle.running ∨ kind.lifecycle.hasBegun source = true := by
  have all : ∀ next ∈ kind.lifecycle.targets source, kind.lifecycle.hasBegun next = true →
      next = kind.lifecycle.running ∨ kind.lifecycle.hasBegun source = true := by
    cases kind <;> cases source <;> decide
  exact all target (List.contains_iff_mem.1 allowed) begun

theorem unfinished_of_allows (allowed : kind.lifecycle.allows source target = true)
    (other : target ≠ kind.lifecycle.initial) : kind.lifecycle.isFinished source = false := by
  rw [← Bool.not_eq_true]
  intro finished
  exact other (initial_of_finished finished allowed)

end Kind

namespace Entity

/-! ## Entering a status, by its role -/

section Entering

variable {e : Entity} {request : Transition} (stamp : Time.Instant)

theorem entering_initial (initial : request.target = e.kind.lifecycle.initial) :
    e.entering request stamp =
      { e.withoutAttempt with status := request.target, updatedAt := stamp } := by
  simp only [entering, initial, if_true, if_neg e.kind.initial_ne_running,
    if_neg e.kind.success_ne_initial.symm, if_neg e.kind.failure_ne_initial.symm,
    e.kind.initial_unfinished, Bool.false_eq_true, if_false]

theorem entering_running (running : request.target = e.kind.lifecycle.running) :
    e.entering request stamp =
      { e.started stamp request.dispatch with status := request.target, updatedAt := stamp } := by
  simp only [entering, running, if_true, if_neg e.kind.initial_ne_running.symm,
    if_neg Kind.success_ne_running.symm, if_neg Kind.failure_ne_running.symm,
    Kind.running_unfinished, Bool.false_eq_true, if_false]

theorem entering_success (success : request.target = e.kind.lifecycle.success) :
    e.entering request stamp =
      { (e.succeeded request.result).finished stamp with
        status := request.target, updatedAt := stamp } := by
  simp only [entering, success, if_true, if_neg e.kind.success_ne_initial,
    if_neg Kind.success_ne_running, e.kind.success_finished]

theorem entering_failure (failure : request.target = e.kind.lifecycle.failure) :
    e.entering request stamp =
      { (e.failed request.failure).finished stamp with
        status := request.target, updatedAt := stamp } := by
  simp only [entering, failure, if_true, if_neg e.kind.failure_ne_initial,
    if_neg Kind.failure_ne_running, if_neg Kind.failure_ne_success, e.kind.failure_finished]

theorem entering_other (initial : request.target ≠ e.kind.lifecycle.initial)
    (running : request.target ≠ e.kind.lifecycle.running)
    (success : request.target ≠ e.kind.lifecycle.success)
    (failure : request.target ≠ e.kind.lifecycle.failure) :
    e.entering request stamp =
      { e with
        status := request.target
        updatedAt := stamp
        finishedAt :=
          if e.kind.lifecycle.isFinished request.target then e.finishedAt <|> some stamp
          else e.finishedAt } := by
  simp only [entering, if_neg initial, if_neg running, if_neg success, if_neg failure]
  split <;> rfl

end Entering

/-- Entering the running status writes down the dispatch that is asked for. -/
theorem apply_given {e next : Entity} {request : Transition} {now : Time.Instant}
    {given : Dispatch} (applied : e.apply request now = .ok next)
    (running : request.target = e.kind.lifecycle.running)
    (dispatch : request.dispatch = some given) :
    next.status = next.kind.lifecycle.running ∧ next.executor = some given.executor ∧
      next.dispatch = given.id := by
  obtain ⟨_, rfl⟩ := apply_eq_ok_iff.1 applied
  rw [entering_running _ running, dispatch]
  exact ⟨running, rfl, rfl⟩

/-! ## Well-formed snapshots -/

/-- The times of a snapshot, in the order in which they must stand. -/
def stamps (e : Entity) : List Time.Instant :=
  e.createdAt :: e.startedAt.toList ++ e.finishedAt.toList ++ [e.updatedAt]

theorem stamps_ordered_iff {e : Entity} : e.stamps.Pairwise (· ≤ ·) ↔
    e.createdAt ≤ e.updatedAt ∧ (∀ t, e.startedAt = some t → e.createdAt ≤ t ∧ t ≤ e.updatedAt) ∧
      ∀ t, e.finishedAt = some t → e.createdAt ≤ t ∧ t ≤ e.updatedAt ∧
        ∀ begun, e.startedAt = some begun → begun ≤ t := by
  rw [stamps]
  cases e.startedAt <;> cases e.finishedAt <;> simp <;> grind

/-- Times stay in order when those that are new are the last update. -/
theorem stamps_later {e next : Entity} (ordered : e.stamps.Pairwise (· ≤ ·))
    (created : next.createdAt = e.createdAt) (later : e.updatedAt ≤ next.updatedAt)
    (started : ∀ t, next.startedAt = some t → e.startedAt = some t ∨ t = next.updatedAt)
    (finished : ∀ t, next.finishedAt = some t → t = next.updatedAt) :
    next.stamps.Pairwise (· ≤ ·) := by
  rw [stamps_ordered_iff] at ordered ⊢
  obtain ⟨before, begun, _⟩ := ordered
  have updated := Int.le_trans before later
  have starts : ∀ t, next.startedAt = some t → e.createdAt ≤ t ∧ t ≤ next.updatedAt := by
    intro t found
    obtain kept | rfl := started t found
    · exact ⟨(begun t kept).1, Int.le_trans (begun t kept).2 later⟩
    · exact ⟨updated, Int.le_refl _⟩
  rw [created]
  refine ⟨updated, starts, fun t found => ?_⟩
  obtain rfl := finished t found
  exact ⟨updated, Int.le_refl _, fun t found => (starts t found).2⟩

/-- The same work before anything was tried, as it was created. -/
def asCreated (e : Entity) : Entity :=
  create e.id e.owner e.kind e.payload e.key e.createdAt

structure WellFormed (e : Entity) : Prop where
  declared : e.kind.lifecycle.declares e.status = true
  result : e.result.isSome = true ↔ e.status = e.kind.lifecycle.success
  errorCode : e.errorCode.isSome = true ↔ e.status = e.kind.lifecycle.failure
  errorMessage : e.errorMessage.isSome = true ↔ e.status = e.kind.lifecycle.failure
  finished : e.finishedAt.isSome = true ↔ e.isFinished = true
  finishedAt : ∀ t, e.finishedAt = some t → t = e.updatedAt
  ordered : e.stamps.Pairwise (· ≤ ·)
  started : e.kind.lifecycle.hasBegun e.status = true → e.startedAt.isSome = true
  dispatched : e.dispatch.isSome = true → e.executor.isSome = true
  begun : e.executor.isSome = true → e.startedAt.isSome = true
  /-- In the initial status only the last update and the number of updates tell it from new work. -/
  untried : e.status = e.kind.lifecycle.initial →
    e = { e.asCreated with updatedAt := e.updatedAt, revision := e.revision }

theorem create_wellFormed (id : EntityId) (owner : Owner) (kind : Kind) (payload : Json)
    (key : Option String) (now : Time.Instant) :
    (create id owner kind payload key now).WellFormed := by
  have unfinished : (create id owner kind payload key now).isFinished = false :=
    kind.initial_unfinished
  refine ⟨kind.declares_initial, ?_, ?_, ?_, ?_, nofun, ?_, ?_, nofun, nofun, fun _ => rfl⟩
  · simpa [create] using kind.success_ne_initial.symm
  · simpa [create] using kind.failure_ne_initial.symm
  · simpa [create] using kind.failure_ne_initial.symm
  · rw [unfinished]
    simp [create]
  · simp [stamps, create, Time.Instant.le_def]
  · intro begun
    rw [create, kind.initial_unbegun] at begun
    cases begun

namespace WellFormed

variable {e : Entity} {request : Transition} {stamp : Time.Instant}

theorem unfinishedAt (wellFormed : e.WellFormed) (unfinished : e.isFinished = false) :
    e.finishedAt = none := by
  cases found : e.finishedAt with
  | none => rfl
  | some t =>
    have finished := wellFormed.finished.1 (by rw [found]; rfl)
    rw [unfinished] at finished
    cases finished

theorem no_result (wellFormed : e.WellFormed) (other : e.status ≠ e.kind.lifecycle.success) :
    e.result = none := by
  rw [← Option.not_isSome_iff_eq_none, wellFormed.result]
  exact other

theorem no_error (wellFormed : e.WellFormed) (other : e.status ≠ e.kind.lifecycle.failure) :
    e.errorCode = none ∧ e.errorMessage = none := by
  rw [← Option.not_isSome_iff_eq_none, ← Option.not_isSome_iff_eq_none, wellFormed.errorCode,
    wellFormed.errorMessage]
  exact ⟨other, other⟩

/-- Nothing that an earlier attempt has left is found in the initial status. -/
theorem unattempted (wellFormed : e.WellFormed) (initial : e.status = e.kind.lifecycle.initial) :
    e.executor = none ∧ e.dispatch = none ∧ e.startedAt = none := by
  have same := wellFormed.untried initial
  exact ⟨congrArg Entity.executor same, congrArg Entity.dispatch same,
    congrArg Entity.startedAt same⟩

theorem started_initial (wellFormed : e.WellFormed) (initial : e.status = e.kind.lifecycle.initial)
    (dispatch : Option Dispatch) :
    e.started stamp dispatch =
      { e with
        startedAt := some stamp
        executor := dispatch.map Dispatch.executor
        dispatch := dispatch.bind Dispatch.id } := by
  obtain ⟨executor, dispatched, started⟩ := wellFormed.unattempted initial
  cases dispatch <;> simp [Entity.started, executor, dispatched, started]

/-! ## Transitions -/

section Transitions

variable (wellFormed : e.WellFormed)
  (allowed : e.kind.lifecycle.allows e.status request.target = true) (later : e.updatedAt ≤ stamp)

include wellFormed allowed later

theorem renewed (initial : request.target = e.kind.lifecycle.initial) :
    (e.entering request stamp).WellFormed := by
  obtain ⟨created, _⟩ := stamps_ordered_iff.1 wellFormed.ordered
  have declared := Kind.declares_of_allows allowed
  rw [entering_initial stamp initial]
  have none {c : Prop} (impossible : false = true) : c := by cases impossible
  refine ⟨declared, ?_, ?_, ?_, ?_, fun _ found => (by cases found), ?_, ?_, none, none, ?_⟩
  · simpa [withoutAttempt, initial] using e.kind.success_ne_initial.symm
  · simpa [withoutAttempt, initial] using e.kind.failure_ne_initial.symm
  · simpa [withoutAttempt, initial] using e.kind.failure_ne_initial.symm
  · simp [withoutAttempt, isFinished, initial, e.kind.initial_unfinished]
  · exact stamps_ordered_iff.2 ⟨Int.le_trans created later, fun _ found => (by cases found),
      fun _ found => by cases found⟩
  · intro begun
    rw [withoutAttempt, initial, e.kind.initial_unbegun] at begun
    cases begun
  · intro _
    simp only [withoutAttempt, asCreated, create, initial]

theorem running (running : request.target = e.kind.lifecycle.running) :
    (e.entering request stamp).WellFormed := by
  have declared := Kind.declares_of_allows allowed
  have initial : e.status = e.kind.lifecycle.initial := by
    rw [running] at allowed
    exact Kind.initial_of_running allowed
  have finished := wellFormed.unfinishedAt (by rw [isFinished, initial, e.kind.initial_unfinished])
  have result := wellFormed.no_result (by rw [initial]; exact e.kind.success_ne_initial.symm)
  have error := wellFormed.no_error (by rw [initial]; exact e.kind.failure_ne_initial.symm)
  rw [entering_running stamp running, wellFormed.started_initial initial]
  refine ⟨declared, ?_, ?_, ?_, ?_, ?_, ?_, fun _ => rfl, ?_, fun _ => rfl, ?_⟩
  · simpa [running, result] using Kind.success_ne_running.symm
  · simpa [running, error] using Kind.failure_ne_running.symm
  · simpa [running, error] using Kind.failure_ne_running.symm
  · simp [isFinished, running, finished, Kind.running_unfinished]
  · simp [finished]
  · refine stamps_later wellFormed.ordered rfl later ?_ ?_
    · intro t begins
      exact .inr (Option.some.inj begins).symm
    · simp [finished]
  · cases request.dispatch <;> simp
  · intro again
    exact absurd (again.symm.trans running) e.kind.initial_ne_running

theorem succeeded (success : request.target = e.kind.lifecycle.success) :
    (e.entering request stamp).WellFormed := by
  have declared := Kind.declares_of_allows allowed
  have finished := wellFormed.unfinishedAt <| Kind.unfinished_of_allows allowed <| by
    rw [success]
    exact e.kind.success_ne_initial
  have begun : e.startedAt.isSome = true := by
    obtain running | begun := Kind.begun_of_allows allowed (by simp [Lifecycle.hasBegun, success])
    · rw [success] at running
      exact absurd running Kind.success_ne_running
    · exact wellFormed.started begun
  rw [entering_success stamp success]
  refine ⟨declared, ?_, ?_, ?_, ?_, ?_, ?_, fun _ => begun, wellFormed.dispatched,
    wellFormed.begun, ?_⟩
  · simp [Entity.succeeded, Entity.finished, success]
  · simpa [Entity.succeeded, Entity.finished, success] using Kind.failure_ne_success.symm
  · simpa [Entity.succeeded, Entity.finished, success] using Kind.failure_ne_success.symm
  · simp [Entity.succeeded, Entity.finished, isFinished, success, finished, e.kind.success_finished]
  · simp [Entity.succeeded, Entity.finished, finished]
  · refine stamps_later wellFormed.ordered rfl later (fun t begins => .inl begins) ?_
    simp [Entity.succeeded, Entity.finished, finished]
  · intro again
    exact absurd (success.symm.trans again) e.kind.success_ne_initial

theorem failed (failure : request.target = e.kind.lifecycle.failure) :
    (e.entering request stamp).WellFormed := by
  have declared := Kind.declares_of_allows allowed
  have finished := wellFormed.unfinishedAt <| Kind.unfinished_of_allows allowed <| by
    rw [failure]
    exact e.kind.failure_ne_initial
  rw [entering_failure stamp failure]
  refine ⟨declared, ?_, ?_, ?_, ?_, ?_, ?_, ?_, wellFormed.dispatched, wellFormed.begun, ?_⟩
  · simpa [Entity.failed, Entity.finished, failure] using Kind.failure_ne_success
  · simp [Entity.failed, Entity.finished, failure]
  · simp [Entity.failed, Entity.finished, failure]
  · simp [Entity.failed, Entity.finished, isFinished, failure, finished, e.kind.failure_finished]
  · simp [Entity.failed, Entity.finished, finished]
  · refine stamps_later wellFormed.ordered rfl later (fun t begins => .inl begins) ?_
    simp [Entity.failed, Entity.finished, finished]
  · intro begun
    rw [Entity.failed, failure] at begun
    exact absurd begun (by simp [Entity.finished, Kind.failure_unbegun])
  · intro again
    exact absurd (failure.symm.trans again) e.kind.failure_ne_initial

theorem moved (initial : request.target ≠ e.kind.lifecycle.initial)
    (running : request.target ≠ e.kind.lifecycle.running)
    (success : request.target ≠ e.kind.lifecycle.success)
    (failure : request.target ≠ e.kind.lifecycle.failure) :
    (e.entering request stamp).WellFormed := by
  have declared := Kind.declares_of_allows allowed
  have unfinished := Kind.unfinished_of_allows allowed initial
  have finished := wellFormed.unfinishedAt unfinished
  have result := wellFormed.no_result (Kind.not_success_of_allows allowed)
  have error := wellFormed.no_error <| by
    intro failed
    have ended : e.isFinished = true := by
      rw [isFinished, failed]
      exact e.kind.failure_finished
    rw [isFinished, unfinished] at ended
    cases ended
  rw [entering_other stamp initial running success failure]
  refine ⟨declared, ?_, ?_, ?_, ?_, ?_, ?_, fun begun => ?_, wellFormed.dispatched,
    wellFormed.begun, fun again => absurd again initial⟩
  · simpa [result] using success
  · simpa [error] using failure
  · simpa [error] using failure
  · simp [isFinished, finished]
  · simp [finished]
  · refine stamps_later wellFormed.ordered rfl later (fun t begins => .inl begins) ?_
    simp [finished]
  · obtain entered | before := Kind.begun_of_allows allowed begun
    · exact absurd entered running
    · exact wellFormed.started before

/-- A transition makes a well-formed snapshot of one. -/
theorem entering : (e.entering request stamp).WellFormed := by
  by_cases initial : request.target = e.kind.lifecycle.initial
  · exact wellFormed.renewed allowed later initial
  by_cases running : request.target = e.kind.lifecycle.running
  · exact wellFormed.running allowed later running
  by_cases success : request.target = e.kind.lifecycle.success
  · exact wellFormed.succeeded allowed later success
  by_cases failure : request.target = e.kind.lifecycle.failure
  · exact wellFormed.failed allowed later failure
  · exact wellFormed.moved allowed later initial running success failure

end Transitions

theorem apply (wellFormed : e.WellFormed) {next : Entity} {now : Time.Instant}
    (applied : e.apply request now = .ok next) : next.WellFormed := by
  obtain ⟨allowed, rfl⟩ := apply_eq_ok_iff.1 applied
  exact wellFormed.entering allowed (Time.Instant.le_latest now e.updatedAt)

theorem bumped (wellFormed : e.WellFormed) : e.bumped.WellFormed := by
  refine ⟨wellFormed.declared, wellFormed.result, wellFormed.errorCode, wellFormed.errorMessage,
    wellFormed.finished, wellFormed.finishedAt, wellFormed.ordered, wellFormed.started,
    wellFormed.dispatched, wellFormed.begun, fun initial => ?_⟩
  have same := wellFormed.untried initial
  rw [Entity.bumped, same]
  rfl

end WellFormed

end Entity

end TenantWork
