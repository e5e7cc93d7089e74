import TenantWork.Proofs.Schedule.Interchange
/-!
Attempts. An entity that has failed may be tried again, and a report or the record of a failed
dispatch may arrive long after. As long as no dispatch id is used for two attempts, such a write
goes through only within the attempt it belongs to, and no dispatch id is reported twice.
-/
namespace TenantWork.Service

open Store (Storage Memory Database WriteCall)

namespace Step

/-- The dispatch id under which an update enters the running status. -/
def entered? (step : Step) : Option String :=
  step.exchange.updated?.bind fun e =>
    if e.status = e.kind.lifecycle.running then e.dispatch else none

/-- The dispatch id of a report that goes through. -/
def completed? (step : Step) : Option String :=
  match step.stage, step.exchange.updated? with
  | .reporting address, some _ => some address.dispatch
  | _, _ => none

/-- The entity with this id begins to run under a dispatch id. -/
def Enters (id : EntityId) (dispatch : String) (step : Step) : Prop :=
  (∃ e, step.exchange.updated? = some e ∧ e.id = id) ∧ step.entered? = some dispatch

/-- The entity with this id goes back to its initial status, for another attempt. -/
def Retries (id : EntityId) (step : Step) : Prop :=
  ∃ e, step.exchange.updated? = some e ∧ e.id = id ∧ e.status = e.kind.lifecycle.initial

end Step

/-- No dispatch id is used again by a later entry into the running status. -/
def DispatchedOnce (trace : List Step) : Prop := (trace.filterMap Step.entered?).Nodup

instance (trace : List Step) : Decidable (DispatchedOnce trace) :=
  inferInstanceAs (Decidable (trace.filterMap Step.entered?).Nodup)

section Trace

variable {step : Step} {earlier trace : List Step}

theorem DispatchedOnce.before (once : DispatchedOnce (step :: earlier)) :
    DispatchedOnce earlier :=
  once.sublist ((List.sublist_cons_self step earlier).filterMap _)

theorem DispatchedOnce.unused (once : DispatchedOnce (step :: earlier)) {dispatch : String}
    (enters : step.entered? = some dispatch) {old : Step} (inside : old ∈ earlier) :
    old.entered? ≠ some dispatch :=
  nodup_filterMap_iff.1 once [] step earlier rfl dispatch enters old inside

/-! ## The attempt that a dispatch id belongs to -/

theorem Follows.begins (follows : Follows earlier step) {e : Entity}
    (created : step.exchange.created? = some e) : e.dispatch = none := by
  obtain ⟨⟨owner, kind, payload, key, now, made⟩, _⟩ := follows.created e created
  rw [made]
  rfl

theorem Follows.allows (follows : Follows earlier step) {e : Entity}
    (updated : step.exchange.updated? = some e) :
    ∃ current request, snapshot earlier e.id = some current ∧ e.kind = current.kind ∧
      e.status = request.target ∧ current.kind.lifecycle.allows current.status e.status = true ∧
      e.dispatch = (current.entering request e.updatedAt).dispatch ∧
      step.stage.Admits (WasStored earlier) current request := by
  obtain ⟨current, request, now, next, there, applied, rfl, admitted⟩ := follows.updated e updated
  obtain ⟨allowed, rfl⟩ := Entity.apply_eq_ok_iff.1 applied
  exact ⟨current, request, there, Entity.entering_kind _ _ _, rfl, allowed, rfl, admitted⟩

theorem Follows.dispatch (follows : Follows earlier step) {e : Entity} {dispatch : String}
    (updated : step.exchange.updated? = some e) (carries : e.dispatch = some dispatch) :
    step.entered? = some dispatch ∨
      ∃ current, snapshot earlier e.id = some current ∧ current.dispatch = some dispatch ∧
        e.kind = current.kind ∧ e.status ≠ e.kind.lifecycle.initial ∧
        current.kind.lifecycle.allows current.status e.status = true := by
  obtain ⟨current, request, there, kind, target, allowed, made, _⟩ := follows.allows updated
  by_cases running : e.status = e.kind.lifecycle.running
  · left
    rw [Step.entered?, updated, Option.bind_some, if_pos running, carries]
  · right
    rw [carries] at made
    have again : e.status ≠ e.kind.lifecycle.initial := by
      intro initial
      rw [target, kind] at initial
      rw [Entity.entering_dispatch_initial _ _ _ initial] at made
      cases made
    have elsewhere := running
    have unlike := again
    rw [target, kind] at elsewhere unlike
    rw [Entity.entering_dispatch_other _ _ _ unlike elsewhere] at made
    exact ⟨current, there, made.symm, kind, again, allowed⟩

/-- The dispatch id of a stored snapshot has been set in its present attempt. -/
theorem Lawful.since_entered (lawful : Lawful trace) {id : EntityId} {e : Entity}
    {dispatch : String} (found : snapshot trace id = some e) (carries : e.dispatch = some dispatch) :
    Since (Step.Enters id dispatch) (Step.Retries id) trace := by
  induction trace generalizing e with
  | nil => cases found
  | cons step earlier ih =>
    obtain ⟨follows, lawful⟩ := lawful
    obtain ⟨stored, here⟩ | ⟨before, others⟩ := snapshot_cases found
    · obtain created | updated := Exchange.stored?_cases stored
      · rw [follows.begins created] at carries
        cases carries
      · obtain enters | ⟨current, there, kept, _, unlike, _⟩ := follows.dispatch updated carries
        · exact .inl ⟨⟨e, updated, here.symm⟩, enters⟩
        · rw [← here] at there
          refine .inr ⟨?_, ih lawful there kept⟩
          rintro ⟨other, same, _, initial⟩
          rw [updated] at same
          obtain rfl := Option.some.inj same
          exact unlike initial
    · refine .inr ⟨?_, ih lawful before carries⟩
      rintro ⟨other, updated, same, _⟩
      exact others other (Exchange.stored?_of_updated? updated) same

/-! ## Reports -/

theorem Outcome.target_cases (outcome : Outcome) (kind : Kind) :
    (outcome.request kind).target = kind.lifecycle.success ∨
      (outcome.request kind).target = kind.lifecycle.failure := by
  cases outcome with
  | succeeded result => exact .inl rfl
  | failed failure => exact .inr rfl

/-- A report that goes through finishes an unfinished entity that carries its dispatch id. -/
theorem Follows.completes (follows : Follows earlier step) {dispatch : String}
    (completed : step.completed? = some dispatch) :
    ∃ e current, step.exchange.updated? = some e ∧ snapshot earlier e.id = some current ∧
      current.dispatch = some dispatch ∧ current.isFinished = false ∧ e.isFinished = true := by
  unfold Step.completed? at completed
  split at completed
  next address e stage updated =>
    obtain rfl := Option.some.inj completed
    obtain ⟨current, request, there, kind, target, allowed, _, admitted⟩ := follows.allows updated
    rw [stage] at admitted
    obtain ⟨_, _, carries, outcome, rfl⟩ := admitted
    have finishes : e.isFinished = true ∧ e.status ≠ current.kind.lifecycle.initial := by
      rw [Entity.isFinished, kind, target]
      obtain same | same := outcome.target_cases current.kind
      · rw [same]
        exact ⟨Kind.success_finished _, Kind.success_ne_initial _⟩
      · rw [same]
        exact ⟨Kind.failure_finished _, Kind.failure_ne_initial _⟩
    refine ⟨e, current, updated, there, carries, ?_, finishes.1⟩
    rw [← Bool.not_eq_true]
    intro finished
    exact finishes.2 (Kind.initial_of_finished finished allowed)
  next => cases completed

theorem Lawful.entered_of_completed (lawful : Lawful trace) {dispatch : String}
    (completed : ∃ step ∈ trace, step.completed? = some dispatch) :
    ∃ step ∈ trace, step.entered? = some dispatch := by
  induction trace with
  | nil =>
    obtain ⟨_, inside, _⟩ := completed
    cases inside
  | cons step earlier ih =>
    obtain ⟨other, inside, completes⟩ := completed
    have before : ∃ step ∈ earlier, step.entered? = some dispatch := by
      rcases List.mem_cons.1 inside with rfl | before
      · obtain ⟨e, current, _, there, carries, _⟩ := lawful.1.completes completes
        obtain ⟨entry, within, enters⟩ := (lawful.2.since_entered there carries).happened
        exact ⟨entry, within, enters.2⟩
      · exact ih lawful.2 ⟨other, before, completes⟩
    obtain ⟨entry, within, enters⟩ := before
    exact ⟨entry, List.mem_cons_of_mem _ within, enters⟩

/-- Two entities never carry the same dispatch id. -/
theorem Lawful.carrier (lawful : Lawful trace) (once : DispatchedOnce trace) {a b : EntityId}
    {x y : Entity} {dispatch : String} (foundA : snapshot trace a = some x)
    (foundB : snapshot trace b = some y) (carriesA : x.dispatch = some dispatch)
    (carriesB : y.dispatch = some dispatch) : a = b := by
  obtain ⟨entryA, insideA, ⟨e, updatedA, rfl⟩, entersA⟩ :=
    (lawful.since_entered foundA carriesA).happened
  obtain ⟨entryB, insideB, ⟨e', updatedB, rfl⟩, entersB⟩ :=
    (lawful.since_entered foundB carriesB).happened
  rw [eq_of_nodup_filterMap once insideA insideB entersA entersB, updatedB] at updatedA
  rw [Option.some.inj updatedA]

theorem Lawful.finished (lawful : Lawful trace) (once : DispatchedOnce trace) {dispatch : String}
    (completed : ∃ step ∈ trace, step.completed? = some dispatch) {id : EntityId} {e : Entity}
    (found : snapshot trace id = some e) (carries : e.dispatch = some dispatch) :
    e.isFinished = true := by
  induction trace generalizing id e with
  | nil => cases found
  | cons step earlier ih =>
    obtain ⟨follows, lawful⟩ := lawful
    obtain ⟨other, inside, completes⟩ := completed
    obtain ⟨stored, here⟩ | ⟨before, others⟩ := snapshot_cases found
    · obtain created | updated := Exchange.stored?_cases stored
      · rw [follows.begins created] at carries
        cases carries
      · rcases List.mem_cons.1 inside with rfl | reported
        · obtain ⟨e', _, updated', _, _, _, finished⟩ := follows.completes completes
          rw [updated] at updated'
          rwa [Option.some.inj updated']
        · have reported : ∃ step ∈ earlier, step.completed? = some dispatch :=
            ⟨other, reported, completes⟩
          obtain enters | ⟨current, there, kept, kind, unlike, allowed⟩ :=
            follows.dispatch updated carries
          · obtain ⟨entry, within, entered⟩ := lawful.entered_of_completed reported
            exact absurd entered (once.unused enters within)
          · have finished := ih lawful once.before reported there kept
            have initial := Kind.initial_of_finished finished allowed
            rw [← kind] at initial
            exact absurd initial unlike
    · rcases List.mem_cons.1 inside with rfl | reported
      · obtain ⟨e', current, updated, there, carries', _⟩ := follows.completes completes
        have same := lawful.carrier once.before there before carries' carries
        exact absurd same (others e' (Exchange.stored?_of_updated? updated))
      · exact ih lawful once.before ⟨other, reported, completes⟩ before carries

/-- No dispatch id is reported twice with success. -/
theorem Lawful.completed_once (lawful : Lawful trace) (once : DispatchedOnce trace) :
    (trace.filterMap Step.completed?).Nodup := by
  induction trace with
  | nil => exact List.nodup_nil
  | cons step earlier ih =>
    have before := ih lawful.2 once.before
    rw [List.filterMap_cons]
    split
    next => exact before
    next dispatch completes =>
      refine List.nodup_cons.2 ⟨fun again => ?_, before⟩
      obtain ⟨e, current, _, there, carries, unfinished, _⟩ := lawful.1.completes completes
      have finished := lawful.2.finished once.before (List.mem_filterMap.1 again) there carries
      rw [finished] at unfinished
      cases unfinished

/-! ## Records of failed dispatches -/

/-- The record of a failed dispatch goes through only in the attempt in which it began. -/
theorem Lawful.recorded (lawful : Lawful (step :: earlier)) {origin e : Entity}
    (stage : step.stage = .recording origin) (updated : step.exchange.updated? = some e) :
    e.id = origin.id ∧ Since (fun old => old.exchange.stored? = some origin)
      (Step.Retries origin.id) earlier := by
  obtain ⟨current, request, there, kind, _, _, _, admitted⟩ := lawful.1.allows updated
  rw [stage] at admitted
  obtain ⟨stored, same, place⟩ := admitted
  have id := snapshot_id there
  refine ⟨id.symm.trans same, (lawful.2.since_stored stored).mono ?_⟩
  rintro old inside ⟨other, retried, here, initial⟩
  have found : snapshot earlier other.id = some current := by rw [here, ← same, id, there]
  have latest := lawful.2.revision ⟨old, inside, Exchange.stored?_of_updated? retried⟩ found
  refine ⟨other, Exchange.stored?_of_updated? retried, here, ?_⟩
  obtain rfl | ⟨revision, running⟩ := place
  · obtain rfl | lower := latest
    · exact Nat.le_refl _
    · exact Nat.le_of_lt lower
  · obtain rfl | lower := latest
    · rw [initial] at running
      exact absurd running (Kind.initial_ne_running _)
    · omega

end Trace

/-! ## Isolation -/

/-- Reports and records of failed dispatches stay within the attempts they belong to. -/
structure AttemptsIsolated (trace : List Step) : Prop where
  /-- A report that goes through replaces a snapshot that carries its owner and its dispatch id. -/
  addressed : ∀ later step earlier, trace = later ++ step :: earlier → ∀ address e,
    step.stage = .reporting address → step.exchange.updated? = some e →
      ∃ current, snapshot earlier e.id = some current ∧ current.id = address.entity ∧
        current.owner = address.owner ∧ current.dispatch = some address.dispatch
  /-- Of the reports for one dispatch id at most one goes through. -/
  once : (trace.filterMap Step.completed?).Nodup
  /-- No other attempt has begun between the dispatch that a report is about and the report. -/
  reported : ∀ later step earlier, trace = later ++ step :: earlier → ∀ address e,
    step.stage = .reporting address → step.exchange.updated? = some e →
      Since (Step.Enters e.id address.dispatch) (Step.Retries e.id) earlier
  /-- No other attempt has begun between the snapshot whose dispatch fails and its record. -/
  recorded : ∀ later step earlier, trace = later ++ step :: earlier → ∀ origin e,
    step.stage = .recording origin → step.exchange.updated? = some e →
      e.id = origin.id ∧ Since (fun old => old.exchange.stored? = some origin)
        (Step.Retries e.id) earlier

theorem Lawful.isolated {trace : List Step} (lawful : Lawful trace) (once : DispatchedOnce trace) :
    AttemptsIsolated trace := by
  have addressed : ∀ later step earlier, trace = later ++ step :: earlier → ∀ address e,
      step.stage = .reporting address → step.exchange.updated? = some e →
        ∃ current, snapshot earlier e.id = some current ∧ current.id = address.entity ∧
          current.owner = address.owner ∧ current.dispatch = some address.dispatch := by
    rintro later step earlier rfl address e stage updated
    obtain ⟨current, request, there, _, _, _, _, admitted⟩ := lawful.suffix.1.allows updated
    rw [stage] at admitted
    obtain ⟨id, owner, dispatch, _⟩ := admitted
    exact ⟨current, there, id, owner, dispatch⟩
  refine ⟨addressed, lawful.completed_once once, ?_, ?_⟩
  · intro later step earlier split address e stage updated
    obtain ⟨current, there, _, _, carries⟩ := addressed later step earlier split address e stage updated
    rw [split] at lawful
    exact lawful.suffix.2.since_entered there carries
  · rintro later step earlier rfl origin e stage updated
    obtain ⟨same, since⟩ := lawful.suffix.recorded stage updated
    rw [← same] at since
    exact ⟨same, since⟩

/-- Attempts are isolated. On an empty store of either kind, whatever the gate and the executors do
and however the calls overlap, the trace says what is stored, and as long as no dispatch id is used
again, reports and records of failed dispatches stay within their attempts. For a database the JSON
that comes to be stored is read back and the clocks show universal time in years of four digits. -/
theorem attempts_isolated (service : Service) (clients : List Client)
    (executors : List Executor) (rule : List WriteCall → WriteCall → Except Error Unit)
    (distinct : (clients.map Client.id).Nodup) (schedule : List Nat) :
    let memory := (System.onEmpty service clients executors rule : System Memory).run schedule
    let database := (System.onEmpty service clients executors rule : System Database).run schedule
    ((∀ id, memory.world.store.get id = .ok (snapshot memory.trace id)) ∧
      (DispatchedOnce memory.trace → AttemptsIsolated memory.trace)) ∧
    ((∀ client ∈ clients, ∀ n, Time.Rfc3339.InRange (client.times n)) →
      (∀ e, WasStored database.trace e → e.Readable) →
        (∀ id, database.world.store.get id = .ok (snapshot database.trace id)) ∧
          (DispatchedOnce database.trace → AttemptsIsolated database.trace)) := by
  dsimp only
  have inMemory (rule : List WriteCall → WriteCall → Except Error Unit) :
      ((System.onEmpty service clients executors rule : System Memory).run schedule).Chronicled :=
    System.chronicled_onEmpty distinct schedule
  refine ⟨⟨fun id => congrArg Except.ok ((inMemory rule).stored id), (inMemory rule).lawful.isolated⟩,
    fun dated readable => ?_⟩
  obtain ⟨alike, get, _⟩ := System.reads_run distinct dated schedule rfl rfl readable
  have chronicled := inMemory (Store.Gate.limited rule)
  rw [alike.trace]
  exact ⟨fun id => (get id).trans (congrArg Except.ok (chronicled.stored id)),
    chronicled.lawful.isolated⟩

/-- A report is read and checked, the job fails, is tried again and runs under a new dispatch id:
the report is stale when it comes to be written. -/
theorem attempts_isolated_across_retry :
    let owner : Owner := ⟨"acme", by decide⟩
    let service : Service := ⟨.default, ["remote"], by decide, nofun⟩
    let remote : Executor :=
      ⟨"remote", fun calls _ => .ok (if calls.isEmpty then "first" else "second"),
        fun _ _ _ => .answered (.ok ())⟩
    let clients : List Client := [
      ⟨.submit owner .job .null none, ⟨"a"⟩, fun _ => .epoch⟩,
      ⟨.dispatch owner ⟨"a"⟩, ⟨"b"⟩, fun _ => .epoch⟩,
      ⟨.complete ⟨owner, ⟨"a"⟩, "first"⟩ (.succeeded .null), ⟨"c"⟩, fun _ => .epoch⟩,
      ⟨.complete ⟨owner, ⟨"a"⟩, "first"⟩ (.failed .unspecified), ⟨"d"⟩, fun _ => .epoch⟩,
      ⟨.retry owner ⟨"a"⟩, ⟨"e"⟩, fun _ => .epoch⟩,
      ⟨.dispatch owner ⟨"a"⟩, ⟨"f"⟩, fun _ => .epoch⟩]
    let schedule := [0, 0, 0, 1, 1, 1, 1, 1, 1, 1, 2, 2, 3, 3, 3, 3, 4, 4, 4, 4, 5, 5, 5, 5, 5, 5, 5, 2, 2]
    let memory : System Memory :=
      (System.onEmpty service clients [remote] fun _ _ => .ok ()).run schedule
    let database : System Database :=
      (System.onEmpty service clients [remote] fun _ _ => .ok ()).run schedule
    memory.answer? 2 = some (.error (.staleDispatch "a" "first")) ∧
      memory.trace.filterMap Step.completed? = ["first"] ∧
      AttemptsIsolated memory.trace ∧ AttemptsIsolated database.trace := by
  refine ⟨rfl, by decide, (attempts_isolated _ _ _ _ (by decide) _).1.2 (by decide),
    ((attempts_isolated _ _ _ _ (by decide) _).2 ?_ ?_).2 ?_⟩
  · simp [Time.Rfc3339.inRange_epoch]
  · refine System.readable_in_database (by decide) ?_ (by decide) (by decide)
    simp [Time.Rfc3339.inRange_epoch]
  · refine System.trace_in_database (motive := DispatchedOnce) (by decide) ?_ (by decide)
      (by decide) (by decide)
    simp [Time.Rfc3339.inRange_epoch]

end TenantWork.Service
