import TenantWork.Proofs.Schedule.Conduct
import TenantWork.Proofs.Schedule.HandOver
import TenantWork.Proofs.Schedule.StoredWork
/-!
No work is executed twice. Many clients may reserve dispatch ids for one entity before any of them
has it running, but an executor is handed only what the same client has moved from the initial to
the running status, under the dispatch id that was reserved, and under no id more than once.
-/
namespace TenantWork.Service

open Store (Memory Database WriteCall)

namespace Step

def reserved? (step : Step) : Option String := step.exchange.reserved?

def started? (step : Step) : Option String := step.exchange.started?

/-- An update moves an entity from its initial status to running. -/
def begins (earlier : List Step) (step : Step) : Bool :=
  step.exchange.updated?.any fun e =>
    e.status == e.kind.lifecycle.running &&
      (snapshot earlier e.id).any fun current => current.status == current.kind.lifecycle.initial

end Step

/-- The steps that move an entity from its initial status to running, the latest first. -/
def entries : List Step → List Step
  | [] => []
  | step :: earlier => if step.begins earlier then step :: entries earlier else entries earlier

/-- Executors give out no dispatch id twice, and no caller puts one of them into a request. -/
def IssuedApart (clients : List Client) (trace : List Step) : Prop :=
  (trace.filterMap Step.reserved?).Nodup ∧
    ∀ client ∈ clients, ∀ dispatch ∈ client.operation.named?,
      dispatch ∉ trace.filterMap Step.reserved?

instance (clients : List Client) (trace : List Step) : Decidable (IssuedApart clients trace) :=
  inferInstanceAs (Decidable ((trace.filterMap Step.reserved?).Nodup ∧
    ∀ client ∈ clients, ∀ dispatch ∈ client.operation.named?,
      dispatch ∉ trace.filterMap Step.reserved?))

/-- What is handed to executors has been moved to running for them, and is handed over once. -/
structure ExecutedOnce (trace : List Step) : Prop where
  /-- Whoever hands an entity over has moved it to running before, under the dispatch id of the
  hand-over, and nothing else is ever moved to running under that id. -/
  entered : ∀ later step earlier, trace = later ++ step :: earlier → ∀ executor e dispatch reply,
    step.exchange = ⟨.start executor e dispatch, reply⟩ →
      e.executor = some executor ∧ e.dispatch = some dispatch ∧
        ∃ entry ∈ earlier, entry.client = step.client ∧ entry.exchange.updated? = some e ∧
          (entries trace).filter (fun other => other.entered? == some dispatch) = [entry]
  /-- Nothing is handed over twice under one dispatch id. -/
  once : (trace.filterMap Step.started?).Nodup
  /-- Who is turned away hands nothing over. -/
  refused : ∀ refused ∈ trace, refused.exchange.turnsAway = true →
    ∀ step ∈ trace, step.client = refused.client → step.started? = none

section Trace

variable {trace earlier : List Step} {step : Step} {client : Client} {clients : List Client}

/-! ## Entries into the running status -/

theorem mem_of_mem_entries (inside : step ∈ entries trace) : step ∈ trace := by
  induction trace with
  | nil => exact inside
  | cons first rest ih =>
    rw [entries] at inside
    split at inside
    · rcases List.mem_cons.1 inside with rfl | later
      · exact List.mem_cons_self
      · exact List.mem_cons_of_mem _ (ih later)
    · exact List.mem_cons_of_mem _ (ih inside)

theorem Step.entered?_eq_some {dispatch : String} : step.entered? = some dispatch ↔
    ∃ e, step.exchange.updated? = some e ∧ e.status = e.kind.lifecycle.running ∧
      e.dispatch = some dispatch := by
  simp only [Step.entered?, Option.bind_eq_some_iff]
  refine exists_congr fun e => and_congr_right fun _ => ?_
  split
  next running => simp [running]
  next other => simp [other]

/-- Every update into the running status comes from the initial one. -/
theorem Follows.begins_of_entered (follows : Follows earlier step) {dispatch : String}
    (enters : step.entered? = some dispatch) : step.begins earlier = true := by
  obtain ⟨e, updated, running, _⟩ := Step.entered?_eq_some.1 enters
  obtain ⟨current, _, there, kind, _, allowed, _⟩ := follows.allows updated
  have initial : current.status = current.kind.lifecycle.initial := by
    rw [running, kind] at allowed
    exact Kind.initial_of_running allowed
  simp [Step.begins, updated, running, there, initial]

theorem Lawful.entries_eq_singleton (lawful : Lawful trace) {dispatch : String}
    (single : ∀ later step earlier, trace = later ++ step :: earlier →
      step.entered? = some dispatch → ∀ old ∈ earlier, old.entered? ≠ some dispatch)
    {entry : Step} (inside : entry ∈ trace) (enters : entry.entered? = some dispatch) :
    (entries trace).filter (fun other => other.entered? == some dispatch) = [entry] := by
  induction trace with
  | nil => cases inside
  | cons step earlier ih =>
    by_cases now : step.entered? = some dispatch
    · have others := single [] step earlier rfl now
      have none : (entries earlier).filter (fun other => other.entered? == some dispatch) = [] := by
        refine List.filter_eq_nil_iff.2 fun old within => ?_
        simpa using others old (mem_of_mem_entries within)
      rcases List.mem_cons.1 inside with rfl | before
      · rw [entries, if_pos (lawful.1.begins_of_entered now),
          List.filter_cons_of_pos (by simpa using now), none]
      · exact absurd enters (others entry before)
    · have before : entry ∈ earlier := by
        rcases List.mem_cons.1 inside with rfl | before
        · exact absurd enters now
        · exact before
      have rest := ih lawful.2 (fun later old first split =>
        single (step :: later) old first (by rw [split]; rfl)) before
      rw [entries]
      split
      · rw [List.filter_cons_of_neg (by simpa using now), rest]
      · exact rest

/-! ## What the clients have done for it -/

theorem Exchange.eq_of_updated? {exchange : Exchange} {e : Entity}
    (updated : exchange.updated? = some e) : ∃ next, exchange = ⟨.save next, .ok e⟩ := by
  unfold Exchange.updated? at updated
  split at updated
  · obtain rfl := Option.some.inj updated
    exact ⟨_, rfl⟩
  · cases updated

theorem Exchange.eq_of_started? {exchange : Exchange} {dispatch : String}
    (starts : exchange.started? = some dispatch) :
    ∃ executor e reply, exchange = ⟨.start executor e dispatch, reply⟩ := by
  unfold Exchange.started? at starts
  split at starts
  · obtain rfl := Option.some.inj starts
    exact ⟨_, _, _, rfl⟩
  · cases starts

/-- An entity in its initial status carries no dispatch id, so one that it enters the running status
with is that of the request. -/
theorem Heeds.begins (heeds : Heeds Hands client earlier step) (lawful : Lawful earlier)
    {dispatch : String} (enters : step.entered? = some dispatch) :
    client.operation.named? = some dispatch ∨
      ((∃ exchange ∈ own step.client earlier, exchange.reserved? = some dispatch) ∧
        ∀ exchange ∈ own step.client earlier, exchange.updated? = none) := by
  obtain ⟨e, updated, running, carries⟩ := Step.entered?_eq_some.1 enters
  obtain ⟨next, saves⟩ := Exchange.eq_of_updated? updated
  have allowed := heeds.allowed
  have truthful := heeds.truthful
  rw [saves] at allowed truthful
  obtain rfl : e = next.bumped := truthful
  obtain ⟨current, request, n, shown, applied, begins⟩ := allowed
  have wellFormed := lawful.wellFormed (heeds.known current shown)
  obtain ⟨possible, rfl⟩ := Entity.apply_eq_ok_iff.1 applied
  have target : request.target = current.kind.lifecycle.running := by
    have status : request.target = (current.entering _ _).kind.lifecycle.running := running
    rwa [Entity.entering_kind] at status
  have initial : current.status = current.kind.lifecycle.initial := by
    rw [target] at possible
    exact Kind.initial_of_running possible
  refine (begins target).named dispatch ?_
  have given : (current.entering request _).dispatch = some dispatch := carries
  rwa [Entity.entering_running _ target, wellFormed.started_initial initial] at given

theorem Hands.unstarted {past : List Exchange} {stage : Stage} {exchange : Exchange}
    (allowed : Hands client past stage exchange.request) (turned : exchange.turnsAway = true) :
    Unstarted past := by
  unfold Exchange.turnsAway at turned
  split at turned
  next => cases turned
  next => exact allowed
  next => cases turned
  next => exact allowed
  next => exact allowed
  next next fault =>
    obtain ⟨current, request, n, _, applied, begins⟩ := allowed
    obtain ⟨_, rfl⟩ := Entity.apply_eq_ok_iff.1 applied
    have running := beq_iff_eq.1 turned
    rw [Entity.entering_kind] at running
    exact (begins running).unstarted
  next => cases turned

theorem Exchange.unstarted_of_turnsAway {exchange : Exchange} (turned : exchange.turnsAway = true) :
    exchange.started? = none := by
  unfold Exchange.turnsAway at turned
  split at turned <;> first
    | rfl
    | cases turned

theorem Heeded.handed (heeded : Heeded clients Hands trace) {later : List Step}
    (split : trace = later ++ step :: earlier) {dispatch : String}
    (starts : step.started? = some dispatch) :
    ∃ executor e reply, step.exchange = ⟨.start executor e dispatch, reply⟩ ∧
      Handed (own step.client earlier) executor e dispatch := by
  rw [split] at heeded
  obtain ⟨client, _, heeds⟩ := heeded.heeds
  obtain ⟨executor, e, reply, same⟩ := Exchange.eq_of_started? starts
  have allowed := heeds.allowed
  rw [same] at allowed
  exact ⟨executor, e, reply, same, allowed⟩

theorem Handed.reservedBy {i : Nat} {executor dispatch : String} {e : Entity}
    (handed : Handed (own i earlier) executor e dispatch) :
    ∃ step ∈ earlier, step.client = i ∧ step.reserved? = some dispatch := by
  obtain ⟨_, reserved, reserves⟩ := handed.reserved
  obtain ⟨step, before, own, rfl⟩ := mem_own.1 reserved
  exact ⟨step, before, own, reserves⟩

section Issued

variable (heeded : Heeded clients Hands trace)
include heeded

/-- Who is turned away hands nothing over, neither before nor after. -/
theorem Heeded.refused {refused : Step} (insideRefused : refused ∈ trace)
    (turned : refused.exchange.turnsAway = true) (inside : step ∈ trace)
    (same : step.client = refused.client) : step.started? = none := by
  induction trace with
  | nil => cases inside
  | cons head earlier ih =>
    have whole := heeded
    obtain ⟨⟨client, _, heeds⟩, heeded⟩ := heeded
    rcases List.mem_cons.1 insideRefused with rfl | before
    · rcases List.mem_cons.1 inside with rfl | within
      · exact Exchange.unstarted_of_turnsAway turned
      · exact Hands.unstarted heeds.allowed turned _ (mem_own.2 ⟨step, within, same, rfl⟩)
    · rcases List.mem_cons.1 inside with rfl | within
      · cases starts : step.started? with
        | none => rfl
        | some dispatch =>
          have split : step :: earlier = [] ++ step :: earlier := rfl
          obtain ⟨_, _, _, _, handed⟩ := whole.handed split starts
          have passed := handed.passed _ (mem_own.2 ⟨refused, before, same.symm, rfl⟩)
          rw [turned] at passed
          cases passed
      · exact ih heeded before within

variable (lawful : Lawful trace) (issued : IssuedApart clients trace)
include lawful issued

/-- Only who has reserved a dispatch id moves an entity to running under it, before any other
update. -/
theorem Heeded.entered {later : List Step} (split : trace = later ++ step :: earlier)
    {dispatch : String} (enters : step.entered? = some dispatch) {reserving : Step}
    (inside : reserving ∈ trace) (reserves : reserving.reserved? = some dispatch) :
    step.client = reserving.client ∧
      ∀ exchange ∈ own step.client earlier, exchange.updated? = none := by
  rw [split] at heeded lawful
  obtain ⟨client, there, heeds⟩ := heeded.heeds
  obtain named | ⟨⟨exchange, within, given⟩, unwritten⟩ := heeds.begins lawful.suffix.2 enters
  · have known : dispatch ∈ trace.filterMap Step.reserved? :=
      List.mem_filterMap.2 ⟨reserving, inside, reserves⟩
    exact absurd known (issued.2 client (List.mem_of_getElem? there) dispatch named)
  · obtain ⟨own, before, same, rfl⟩ := mem_own.1 within
    have listed : own ∈ trace := by
      rw [split]
      exact List.mem_append_right _ (List.mem_cons_of_mem _ before)
    obtain rfl := eq_of_nodup_filterMap issued.1 listed inside given reserves
    exact ⟨same.symm, unwritten⟩

theorem Heeded.executedOnce : ExecutedOnce trace := by
  have single {dispatch : String} {reserving : Step} (inside : reserving ∈ trace)
      (reserves : reserving.reserved? = some dispatch) : ∀ later step earlier,
      trace = later ++ step :: earlier → step.entered? = some dispatch →
        ∀ old ∈ earlier, old.entered? ≠ some dispatch := by
    intro later step earlier split enters old before again
    obtain ⟨here, unwritten⟩ := heeded.entered lawful issued split enters inside reserves
    obtain ⟨after, first, rfl⟩ := List.append_of_mem before
    have split' : trace = (later ++ step :: after) ++ old :: first := by simp [split]
    obtain ⟨same, _⟩ := heeded.entered lawful issued split' again inside reserves
    obtain ⟨e, updated, _⟩ := Step.entered?_eq_some.1 again
    have none := unwritten old.exchange (mem_own.2 ⟨old, before, same.trans here.symm, rfl⟩)
    rw [updated] at none
    cases none
  refine ⟨?_, ?_, fun refused inside turned step within same =>
    heeded.refused inside turned within same⟩
  · intro later step earlier split executor e dispatch reply starts
    have started : step.started? = some dispatch := by
      rw [Step.started?, starts]
      rfl
    obtain ⟨executor', e', reply', same, handed⟩ := heeded.handed split started
    rw [starts] at same
    injection same with same
    injection same with named snapshot
    subst named snapshot
    have inside {old : Step} (before : old ∈ earlier) : old ∈ trace := by
      rw [split]
      exact List.mem_append_right _ (List.mem_cons_of_mem _ before)
    obtain ⟨reserving, before, _, reserves⟩ := handed.reservedBy
    obtain ⟨_, entered, updated⟩ := handed.entered
    obtain ⟨entry, within, own, rfl⟩ := mem_own.1 entered
    have enters : entry.entered? = some dispatch :=
      Step.entered?_eq_some.2 ⟨e, updated, handed.status, handed.dispatch⟩
    refine ⟨handed.executor, handed.dispatch, entry, within, own, updated, ?_⟩
    exact lawful.entries_eq_singleton (single (inside before) reserves) (inside within) enters
  · refine nodup_filterMap_iff.2 fun later step earlier split dispatch starts old before again => ?_
    obtain ⟨after, first, rfl⟩ := List.append_of_mem before
    have split' : trace = (later ++ step :: after) ++ old :: first := by simp [split]
    obtain ⟨_, _, _, _, handed⟩ := heeded.handed split starts
    obtain ⟨_, _, _, _, handed'⟩ := heeded.handed split' again
    obtain ⟨a, beforeA, here, reserves⟩ := handed.reservedBy
    obtain ⟨b, beforeB, there, reserves'⟩ := handed'.reservedBy
    have same := eq_of_nodup_filterMap issued.1 (a := a) (b := b)
      (by simp [split, beforeA]) (by simp [split', beforeB]) reserves reserves'
    subst same
    have idle := handed.unstarted old.exchange (mem_own.2 ⟨old, before, there.symm.trans here, rfl⟩)
    rw [Step.started?, idle] at again
    cases again

end Issued

end Trace

/-- No work is executed twice. On an empty store of either kind, whatever the gate does and however
the calls overlap, executors that give out distinct dispatch ids, which no caller puts into a
request, are handed only what was moved to running for them, each time under another id, and
nothing by a client that was turned away. For a database the JSON that comes to be stored is read
back and the clocks show universal time in years of four digits. -/
theorem executed_once (service : Service) (clients : List Client) (executors : List Executor)
    (rule : List WriteCall → WriteCall → Except Error Unit)
    (distinct : (clients.map Client.id).Nodup) (schedule : List Nat) :
    let memory := (System.onEmpty service clients executors rule : System Memory).run schedule
    let database := (System.onEmpty service clients executors rule : System Database).run schedule
    ((∀ id, memory.world.store.get id = .ok (snapshot memory.trace id)) ∧
      (IssuedApart clients memory.trace → ExecutedOnce memory.trace)) ∧
    ((∀ client ∈ clients, ∀ n, Time.Rfc3339.InRange (client.times n)) →
      (∀ e, WasStored database.trace e → e.Readable) →
        (∀ id, database.world.store.get id = .ok (snapshot database.trace id)) ∧
          (IssuedApart clients database.trace → ExecutedOnce database.trace)) := by
  exact System.conduct_onEmpty distinct (fun client _ => script_hands client service)
    (fun _ heeded lawful => heeded.executedOnce lawful) schedule

/-- Two dispatches reserve an id for one job before either has it running, and a repeated submission
is replayed: the job is handed over once. -/
theorem executed_once_in_race :
    let owner : Owner := ⟨"acme", by decide⟩
    let service : Service := ⟨.default, ["remote"], by decide, nofun⟩
    let remote : Executor :=
      ⟨"remote", fun calls _ => .ok (if calls.isEmpty then "first" else "second"),
        fun _ _ _ => .answered (.ok ())⟩
    let clients : List Client := [
      ⟨.submit owner .job .null (some "nightly"), ⟨"a"⟩, fun _ => .epoch⟩,
      ⟨.dispatch owner ⟨"a"⟩, ⟨"b"⟩, fun _ => .epoch⟩,
      ⟨.dispatch owner ⟨"a"⟩, ⟨"c"⟩, fun _ => .epoch⟩,
      ⟨.submitAndDispatch owner .job .null (some "nightly"), ⟨"d"⟩, fun _ => .epoch⟩]
    let schedule := [0, 0, 0, 0, 1, 2, 1, 2, 2, 2, 1, 1, 2, 2, 2, 3]
    let memory : System Memory :=
      (System.onEmpty service clients [remote] fun _ _ => .ok ()).run schedule
    let database : System Database :=
      (System.onEmpty service clients [remote] fun _ _ => .ok ()).run schedule
    memory.trace.filterMap Step.reserved? = ["second", "first"] ∧
      memory.trace.filterMap Step.started? = ["second"] ∧
      ExecutedOnce memory.trace ∧ ExecutedOnce database.trace := by
  refine ⟨by decide, by decide, (executed_once _ _ _ _ (by decide) _).1.2 (by decide),
    ((executed_once _ _ _ _ (by decide) _).2 ?_ ?_).2 ?_⟩
  · simp [Time.Rfc3339.inRange_epoch]
  · refine System.readable_in_database (by decide) ?_ (by decide) (by decide)
    simp [Time.Rfc3339.inRange_epoch]
  · refine System.trace_in_database (motive := IssuedApart _) (by decide) ?_ (by decide)
      (by decide) (by decide)
    simp [Time.Rfc3339.inRange_epoch]

end TenantWork.Service
