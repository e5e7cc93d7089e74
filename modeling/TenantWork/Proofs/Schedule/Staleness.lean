import TenantWork.Proofs.Schedule.Backends
import TenantWork.Proofs.Schedule.OneEffect
import TenantWork.Proofs.Schedule.Snapshots
import TenantWork.Proofs.Store.Lossless
/-!
Reports judged on what they find. A report looks its entity up, and once more if another write was
faster than its own; the latest look-up decides. If that shows another dispatch than the one the
report is addressed with, the report is stale and nothing is written, unless the lifecycle has
turned it away at the first look already.
-/
namespace TenantWork.Service

open Store (Storage Memory Database)

/-! ## What a report is judged on -/

namespace Exchange

def lookUp? (id : EntityId) : Exchange → Option (Except Error (Option Entity))
  | ⟨.load other, reply⟩ => if other = id then some reply else none
  | _ => none

/-- A write that another one was faster than. -/
def isOutrun : Exchange → Bool
  | ⟨.save _, .error (.invalidTransition _ _)⟩ => true
  | _ => false

end Exchange

/-- What the latest look-up of an entity showed. -/
def lookedUp (past : List Exchange) (id : EntityId) : Option (Except Error (Option Entity)) :=
  past.findSome? (Exchange.lookUp? id)

def Outrun (past : List Exchange) : Prop := ∃ exchange ∈ past, exchange.isOutrun = true

def Unwritten (past : List Exchange) : Prop := ∀ exchange ∈ past, exchange.wrote = false

section Reports

variable (address : Address) (outcome : Outcome) (past : List Exchange)

/-- The snapshot that a report is judged on: its owner's, as the latest look-up showed it. -/
structure Judged (e : Entity) : Prop where
  shown : lookedUp past address.entity = some (.ok (some e))
  owner : e.owner = address.owner

/-- The report gets as far as its dispatch: it was outrun, or the lifecycle leads from the status to
that of the outcome. -/
def Weighed (e : Entity) : Prop :=
  Outrun past ∨ e.kind.lifecycle.allows e.status (outcome.request e.kind).target = true

/-- How a report may end. -/
structure Verdict {α : Type} (answer : Except Error α) : Prop where
  stale : ∀ e, Judged address past e → e.dispatch ≠ some address.dispatch → Weighed outcome past e →
    answer = .error (.staleDispatch e.id.text address.dispatch) ∧ Unwritten past
  refused : ∀ source target, answer = .error (.invalidTransition source target) → Unwritten past ∧
    (lookedUp past address.entity = some (.error (.invalidTransition source target)) ∨
      ∃ e, Judged address past e ∧ (e.dispatch = some address.dispatch ∨ ¬Weighed outcome past e))

/-- Whatever a report asks for, the dispatch that it has found is its own. -/
def Pending : Prop := ∀ e, Judged address past e → e.dispatch = some address.dispatch

end Reports

section Exchanges

variable {address : Address} {outcome : Outcome} {past : List Exchange} {e current : Entity}

theorem judged_cons {exchange : Exchange} (other : exchange.lookUp? address.entity = none) :
    Judged address (exchange :: past) e ↔ Judged address past e := by
  have same : lookedUp (exchange :: past) address.entity = lookedUp past address.entity := by
    rw [lookedUp, List.findSome?_cons, other]
    rfl
  exact ⟨fun judged => ⟨same ▸ judged.shown, judged.owner⟩,
    fun judged => ⟨same.symm ▸ judged.shown, judged.owner⟩⟩

theorem lookedUp_load (reply : Except Error (Option Entity)) :
    lookedUp (⟨.load address.entity, reply⟩ :: past) address.entity = some reply := by
  rw [lookedUp, List.findSome?_cons, Exchange.lookUp?, if_pos rfl]

theorem judged_load
    (judged : Judged address (⟨.load address.entity, .ok (some current)⟩ :: past) e) :
    e = current := by
  have shown := judged.shown
  rw [lookedUp_load] at shown
  exact (Option.some.inj (Except.ok.inj (Option.some.inj shown))).symm

theorem mem_of_lookedUp {id : EntityId} {reply : Except Error (Option Entity)}
    (shown : lookedUp past id = some reply) : ⟨.load id, reply⟩ ∈ past := by
  obtain ⟨exchange, inside, looks⟩ := List.exists_of_findSome?_eq_some shown
  unfold Exchange.lookUp? at looks
  split at looks
  next other given =>
    split at looks
    next same =>
      obtain rfl := Option.some.inj looks
      exact same ▸ inside
    next => cases looks
  next => cases looks

theorem Unwritten.cons {exchange : Exchange} (unwritten : Unwritten past)
    (idle : exchange.wrote = false) : Unwritten (exchange :: past) :=
  List.forall_mem_cons.2 ⟨idle, unwritten⟩

theorem Pending.cons {exchange : Exchange} (pending : Pending address past)
    (other : exchange.lookUp? address.entity = none) : Pending address (exchange :: past) :=
  fun e judged => pending e ((judged_cons other).1 judged)

/-- On its own dispatch a report ends anyhow but as an illegal one. -/
theorem Pending.verdict {α : Type} {answer : Except Error α} (pending : Pending address past)
    (legal : ∀ source target, answer ≠ .error (.invalidTransition source target)) :
    Verdict address outcome past answer :=
  ⟨fun e judged other => absurd (pending e judged) other,
    fun source target same => absurd same (legal source target)⟩

theorem Verdict.map {α β : Type} {answer : Except Error α}
    (verdict : Verdict address outcome past answer) (f : α → β) :
    Verdict address outcome past (answer.map f) := by
  cases answer with
  | ok value =>
    refine ⟨fun e judged other weighed => ?_, fun _ _ impossible => by cases impossible⟩
    cases (verdict.stale e judged other weighed).1
  | error fault =>
    refine ⟨fun e judged other weighed => ?_, fun source target same => ?_⟩
    · obtain ⟨stale, unwritten⟩ := verdict.stale e judged other weighed
      exact ⟨congrArg Except.error (Except.error.inj stale), unwritten⟩
    · exact verdict.refused source target (congrArg Except.error (Except.error.inj same))

end Exchanges

/-! ## Reports -/

section Reports

variable (client : Client) (address : Address) (outcome : Outcome) {past : List Exchange}

/-- What a look-up leaves: the snapshot of the owner, or an end. -/
def LookedUp (past later : List Exchange) : Except Error Entity → Prop
  | .ok current => later = ⟨.load address.entity, .ok (some current)⟩ :: past ∧
      current.owner = address.owner
  | .error fault => Verdict address outcome later (.error fault : Except Error Entity)

theorem load_looksUp (unwritten : Unwritten past) (pending : Pending address past) :
    ((load address.owner address.entity).within (.reporting address)).Obeys client
      (fun past _ _ => Pending address past) (LookedUp address outcome past) past := by
  have unseen {reply : Except Error (Option Entity)} (nothing : ∀ e, reply ≠ .ok (some e))
      (e : Entity) :
      ¬Judged address (⟨.load address.entity, reply⟩ :: past) e := by
    intro judged
    have shown := judged.shown
    rw [lookedUp_load] at shown
    exact nothing e (Option.some.inj shown)
  refine ⟨pending, fun reply _ => ?_⟩
  rcases reply with fault | _ | found
  · refine ⟨fun e judged => absurd judged (unseen (fun _ => by simp) e),
      fun source target same => ⟨unwritten.cons rfl, .inl ?_⟩⟩
    rw [lookedUp_load, Except.error.inj same]
  · refine ⟨fun e judged => absurd judged (unseen (fun _ => by simp) e), fun _ _ same => ?_⟩
    cases same
  · show LookedUp address outcome past _ (Entity.forOwner address.owner address.entity (some found))
    rw [Entity.forOwner]
    split
    next own => exact ⟨rfl, own⟩
    next foreign =>
      refine ⟨fun e judged => ?_, fun _ _ same => by cases same⟩
      obtain rfl := judged_load judged
      exact absurd judged.owner foreign

variable {current : Entity} {request : Transition}

theorem commit_reports (unwritten : Unwritten past) (pending : Pending address past)
    (allowed : current.kind.lifecycle.allows current.status request.target = true) :
    ((commit current request).within (.reporting address)).Obeys client
      (fun past _ _ => Pending address past)
      (fun later answer => Pending address later ∧ ∀ source target,
        answer = .error (.invalidTransition source target) → Outrun later ∧ Unwritten later)
      past := by
  refine ⟨pending, fun now _ => ?_⟩
  have timed : Pending address (⟨.readClock, now⟩ :: past) := pending.cons rfl
  dsimp only
  rw [Entity.apply_eq_ok_iff.2 ⟨allowed, rfl⟩]
  refine ⟨timed, fun reply _ => ?_⟩
  have after : Pending address (⟨.save _, reply⟩ :: _) := timed.cons rfl
  rcases reply with fault | committed
  · cases fault with
    | invalidTransition source target =>
      refine ⟨after, fun _ _ _ => ⟨⟨_, List.mem_cons_self, rfl⟩, ?_⟩⟩
      exact (unwritten.cons rfl).cons rfl
    | _ => exact ⟨after, fun _ _ same => by cases same⟩
  · exact ⟨after, fun _ _ => ⟨after.cons rfl, fun _ _ same => by cases same⟩⟩

theorem checkDispatch_cases (current : Entity) :
    (current.dispatch = some address.dispatch ∧ checkDispatch current address = .ok ()) ∨
      checkDispatch current address =
        .error (.staleDispatch current.id.text address.dispatch) := by
  unfold checkDispatch
  split
  next own => exact .inl ⟨own, rfl⟩
  next => exact .inr rfl

theorem checkReport_cases (current : Entity) :
    (current.kind.lifecycle.allows current.status (outcome.request current.kind).target = false ∧
      checkReport current address outcome =
        .error (.invalidTransition current.status (outcome.request current.kind).target)) ∨
    (current.kind.lifecycle.allows current.status (outcome.request current.kind).target = true ∧
      checkReport current address outcome = checkDispatch current address) := by
  cases allowed :
      current.kind.lifecycle.allows current.status (outcome.request current.kind).target with
  | false => exact .inl ⟨rfl, by simp only [checkReport, Entity.checkStep, allowed]; rfl⟩
  | true => exact .inr ⟨rfl, by simp only [checkReport, Entity.checkStep, allowed]; rfl⟩

theorem verdict_stale (unwritten : Unwritten past) :
    Verdict address outcome (⟨.load address.entity, .ok (some current)⟩ :: past)
      (.error (.staleDispatch current.id.text address.dispatch) : Except Error Entity) := by
  refine ⟨fun e judged _ _ => ?_, fun _ _ impossible => by cases impossible⟩
  obtain rfl := judged_load judged
  exact ⟨rfl, unwritten.cons rfl⟩

theorem verdict_illegal (unwritten : Unwritten past) (owner : current.owner = address.owner)
    (reason : current.dispatch = some address.dispatch ∨
      ¬Weighed outcome (⟨.load address.entity, .ok (some current)⟩ :: past) current)
    (source target : Status) :
    Verdict address outcome (⟨.load address.entity, .ok (some current)⟩ :: past)
      (.error (.invalidTransition source target) : Except Error Entity) := by
  refine ⟨fun e judged other weighed => ?_, fun _ _ _ =>
    ⟨unwritten.cons rfl, .inr ⟨current, ⟨lookedUp_load _, owner⟩, reason⟩⟩⟩
  obtain rfl := judged_load judged
  obtain own | unweighed := reason
  · exact absurd own other
  · exact absurd weighed unweighed

/-- After losing to another write a report is judged by its dispatch alone. -/
theorem reload_verdict (unwritten : Unwritten past) (pending : Pending address past)
    (source target : Status) :
    (((load address.owner address.entity).within (.reporting address)).andThen fun latest =>
      (match checkDispatch latest address with
        | .error fault => Program.fail fault
        | .ok () => Program.fail (.invalidTransition source target) : Call Entity).within
          (.reporting address)).Obeys client (fun past _ _ => Pending address past)
      (fun later answer => Verdict address outcome later answer) past := by
  refine (load_looksUp client address outcome unwritten pending).andThen _
    (fun later fault _ verdict => verdict) fun later latest _ found => ?_
  obtain ⟨rfl, owner⟩ := found
  obtain ⟨own, checked⟩ | checked := checkDispatch_cases address latest
  · rw [checked]
    exact verdict_illegal address outcome unwritten owner (.inl own) source target
  · rw [checked]
    exact verdict_stale address outcome unwritten

theorem complete_verdict :
    ((complete address outcome).within (.reporting address)).Obeys client
      (fun past _ _ => Pending address past)
      (fun later answer => Verdict address outcome later answer) [] := by
  have unseen : Pending address [] := fun e judged => by cases judged.shown
  have nothing : Unwritten [] := List.forall_mem_nil _
  rw [complete, Program.within_andThen]
  refine (load_looksUp client address outcome nothing unseen).andThen _
    (fun later fault _ verdict => verdict) fun later current _ found => ?_
  obtain ⟨rfl, owner⟩ := found
  obtain ⟨barred, checked⟩ | ⟨allowed, checked⟩ := checkReport_cases address outcome current
  · have unweighed : ¬Weighed outcome [⟨.load address.entity, .ok (some current)⟩] current := by
      rintro (⟨exchange, inside, outrun⟩ | allowed)
      · rw [List.mem_singleton.1 inside] at outrun
        cases outrun
      · rw [barred] at allowed
        cases allowed
    rw [checked]
    exact verdict_illegal address outcome nothing owner (.inr unweighed) _ _
  obtain ⟨own, passed⟩ | stale := checkDispatch_cases address current
  · -- The lifecycle is not asked again, so nothing but the dispatch of a later look can stop it.
    have pending : Pending address [⟨.load address.entity, .ok (some current)⟩] :=
      fun e judged => (judged_load judged) ▸ own
    rw [checked, passed]
    dsimp only
    rw [Program.within_bind]
    refine (commit_reports client address (nothing.cons rfl) pending allowed).bind
      fun last answer _ met => ?_
    obtain ⟨pending, outruns⟩ := met
    rcases answer with fault | committed
    · cases fault with
      | invalidTransition source target =>
        dsimp only
        rw [Program.within_andThen]
        exact reload_verdict client address outcome (outruns source target rfl).2 pending source
          target
      | _ => exact pending.verdict fun _ _ impossible => by cases impossible
    · exact pending.verdict fun _ _ impossible => by cases impossible
  · rw [checked, stale]
    exact verdict_stale address outcome nothing

end Reports

/-! ## Systems -/

theorem Database.get_ne_invalidTransition (database : Database) (id : EntityId)
    (source target : Status) :
    Storage.get database id ≠ .error (.invalidTransition source target) := by
  show Database.read _ ≠ _
  unfold Database.read
  split
  · exact fun impossible => by cases impossible
  · split <;> exact fun impossible => by cases impossible

namespace System

theorem reply_truthful_in_database (system : System Database) (client : Client)
    (past : List Exchange) (request : Request) :
    Exchange.Truthful client ⟨request, (system.reply client past request).1⟩ := by
  cases request with
  | readClock => exact ⟨past.length, rfl⟩
  | newId => rfl
  | load id =>
    have reply : (system.reply client past (.load id)).1 = system.world.store.tables.get id := rfl
    rw [reply]
    cases got : system.world.store.tables.get id with
    | error fault => trivial
    | ok found =>
      cases found with
      | none => trivial
      | some e =>
        obtain ⟨_, _, _, named⟩ := Database.row_of_get got
        exact named
  | insert e =>
    rw [reply_insert]
    cases done : (system.world.store.insert e).1 with
    | error fault => trivial
    | ok answer =>
      cases answer with
      | inserted created => exact (Database.insert_eq_ok done).1
      | existing held => trivial
  | save e =>
    rw [reply_save]
    cases done : (system.world.store.save e).1 with
    | error fault => trivial
    | ok saved => exact (Database.save_eq_ok done).1
  | _ => trivial

section Runs

variable {Tables : Type} [Storage Tables] {service : Service} {clients : List Client}
  {world : World Tables}

/-- A look-up shows what is stored at its moment. -/
theorem stored_at_lookUp (schedule : List Nat) {i : Nat} {thread : Thread}
    (found : ((start service clients world).run schedule).threads[i]? = some thread)
    {id : EntityId} {reply : Except Error (Option Entity)}
    (inside : ⟨.load id, reply⟩ ∈ thread.past) :
    ∃ earlier later, schedule = earlier ++ i :: later ∧
      ((start service clients world).run earlier).world.store.get id = reply := by
  -- From the end: the last step serves this client, or its past is what it was before.
  induction schedule using List.reverseRecOn generalizing thread with
  | nil =>
    obtain ⟨_, same⟩ := thread_of_start found
    rw [same] at inside
    cases inside
  | append_singleton before j ih =>
    have longer (shorter : ∃ earlier later, before = earlier ++ i :: later ∧
        ((start service clients world).run earlier).world.store.get id = reply) :
        ∃ earlier later, before ++ [j] = earlier ++ i :: later ∧
          ((start service clients world).run earlier).world.store.get id = reply := by
      obtain ⟨earlier, later, split, stored⟩ := shorter
      exact ⟨earlier, later ++ [j], by rw [split, List.append_assoc, List.cons_append], stored⟩
    rw [run_concat] at found
    obtain same | ⟨client, past, stage, request, next, there, served⟩ :=
      step_cases ((start service clients world).run before) j
    · rw [same] at found
      exact longer (ih found inside)
    · rw [served] at found
      obtain ⟨rfl, rfl⟩ | ⟨_, unmoved⟩ := thread_of_serve found
      · obtain now | past := List.mem_cons.1 inside
        · refine ⟨before, [], rfl, ?_⟩
          injection now with asked replied
          subst asked
          exact (eq_of_heq replied).symm
        · exact longer (ih there past)
      · exact longer (ih unmoved inside)

end Runs

section Verdicts

variable {Tables : Type} [Storage Tables]

/-- Every report is judged on a snapshot that was the stored one when it was looked up. It is stale,
and writes nothing, if that carries another dispatch and the report gets as far as its dispatch. An
illegal transition is answered only on the report's own dispatch or to a report that gets no further
than the lifecycle, and writes nothing. -/
def JudgesReports (system : System Tables) (schedule : List Nat) : Prop :=
  ∀ (i : Nat) (thread : Thread) (address : Address) (outcome : Outcome),
    (system.run schedule).threads[i]? = some thread →
    thread.client.operation = .complete address outcome →
      (∀ e, Judged address thread.past e →
        (∃ earlier later, schedule = earlier ++ i :: later ∧
          (system.run earlier).world.store.get address.entity = .ok (some e)) ∧
        (e.dispatch ≠ some address.dispatch → Weighed outcome thread.past e →
          thread.answer? = some (.error (.staleDispatch e.id.text address.dispatch)) ∧
            Unwritten thread.past)) ∧
      ∀ source target, thread.answer? = some (.error (.invalidTransition source target)) →
        Unwritten thread.past ∧ ∃ e, Judged address thread.past e ∧
          (e.dispatch = some address.dispatch ∨ ¬Weighed outcome thread.past e)

theorem reports_begin (service : Service) (client : Client) :
    (client.operation.script service).Obeys client
      (fun past _ _ => ∀ address outcome, client.operation = .complete address outcome →
        Pending address past)
      (fun past answer => ∀ address outcome, client.operation = .complete address outcome →
        Verdict address outcome past answer) [] := by
  cases reports : client.operation with
  | complete address outcome =>
    simp only [Operation.script, Operation.call, Program.within_mapOk]
    refine ((complete_verdict client address outcome).mapOk _
      (fun _ _ _ verdict => verdict.map Answer.entity)).imp ?_ ?_
    · intro _ _ _ pending _ _ same
      obtain ⟨rfl, rfl⟩ := Operation.complete.inj same
      exact pending
    · intro _ _ verdict _ _ same
      obtain ⟨rfl, rfl⟩ := Operation.complete.inj same
      exact verdict
  | _ =>
    refine (script_obeys client service _).imp ?_ ?_
    · exact fun _ _ _ _ _ _ impossible => by cases impossible
    · exact fun _ _ _ _ _ impossible => by cases impossible

theorem judgesReports_of_disciplined {service : Service} {clients : List Client}
    {world : World Tables} {schedule : List Nat}
    (legal : ∀ (tables : Tables) id source target,
      Storage.get tables id ≠ .error (.invalidTransition source target))
    (disciplined : ((start service clients world).run schedule).Disciplined
      (fun client past _ _ => ∀ address outcome, client.operation = .complete address outcome →
        Pending address past)
      (fun client past answer => ∀ address outcome, client.operation = .complete address outcome →
        Verdict address outcome past answer)) :
    (start service clients world).JudgesReports schedule := by
  intro i thread address outcome found reports
  have looked {reply : Except Error (Option Entity)}
      (shown : lookedUp thread.past address.entity = some reply) :=
    stored_at_lookUp schedule found (mem_of_lookedUp shown)
  have obeys := disciplined i thread found
  obtain ⟨client, past, script⟩ := thread
  cases script with
  | done answer =>
    obtain ⟨stale, refused⟩ := obeys address outcome reports
    refine ⟨fun e judged => ⟨looked judged.shown, fun other weighed => ?_⟩,
      fun source target ended => ?_⟩
    · obtain ⟨same, unwritten⟩ := stale e judged other weighed
      exact ⟨congrArg some same, unwritten⟩
    · obtain ⟨unwritten, faulty | judged⟩ := refused source target (Option.some.inj ended)
      · obtain ⟨earlier, _, _, stored⟩ := looked faulty
        exact absurd stored (legal _ _ _ _)
      · exact ⟨unwritten, judged⟩
  | ask stage request next =>
    refine ⟨fun e judged => ⟨looked judged.shown, fun other _ => ?_⟩, fun _ _ ended => ?_⟩
    · exact absurd (obeys.1 address outcome reports e judged) other
    · cases ended

end Verdicts

end System

/-- Stale reports are called stale. In memory with every entity under its own id and in any database
at all, whatever the gate and the executors do and however the calls overlap, a report that is not
turned away by the lifecycle at its first look is answered as stale if the snapshot it is judged on
carries another dispatch, and then writes nothing. -/
theorem stale_reports_are_called_stale (service : Service) (clients : List Client)
    {memory : World Memory} (filed : memory.store.tables.Filed) (database : World Database)
    (schedule : List Nat) :
    (System.start service clients memory).JudgesReports schedule ∧
      (System.start service clients database).JudgesReports schedule := by
  have begins (client : Client) (_ : client ∈ clients) := System.reports_begin service client
  constructor
  · refine System.judgesReports_of_disciplined (fun _ _ _ _ impossible => by cases impossible) ?_
    exact System.disciplined_in_memory filed begins schedule
  · refine System.judgesReports_of_disciplined Database.get_ne_invalidTransition ?_
    exact System.disciplined_run (fun _ => True)
      (fun system _ => System.reply_truthful_in_database system) (fun _ _ _ => trivial) trivial
      begins schedule

/-- A job fails and is retried while a report on it is under way. -/
theorem report_outrun_by_retry_is_stale :
    let owner : Owner := ⟨"acme", by decide⟩
    let service : Service := ⟨.default, ["remote"], by decide, nofun⟩
    let remote : Executor :=
      ⟨"remote", fun _ _ => .ok "first", fun _ _ _ => .answered (.ok ())⟩
    let address : Address := ⟨owner, ⟨"a"⟩, "first"⟩
    let clients : List Client := [
      ⟨.submitAndDispatch owner .job .null none, ⟨"a"⟩, fun _ => .epoch⟩,
      ⟨.complete address (.succeeded .null), ⟨"b"⟩, fun _ => .epoch⟩,
      ⟨.transition owner ⟨"a"⟩ (.into .failed), ⟨"c"⟩, fun _ => .epoch⟩,
      ⟨.retry owner ⟨"a"⟩, ⟨"d"⟩, fun _ => .epoch⟩]
    let schedule :=
      List.replicate 9 0 ++ [1, 1] ++ List.replicate 4 2 ++ List.replicate 4 3 ++ [1, 1]
    let memory : World Memory := World.onEmpty [remote] fun _ _ => .ok ()
    let database : World Database := World.onEmpty [remote] fun _ _ => .ok ()
    let queued := { Entity.create ⟨"a"⟩ owner .job .null none .epoch with revision := 3 }
    memory.store.tables.Filed ∧
    (∃ thread : Thread,
      ((System.start service clients memory).run schedule).threads[1]? = some thread ∧
      Judged address thread.past queued ∧ Outrun thread.past ∧
      thread.answer? = some (.error (.staleDispatch "a" "first"))) ∧
    (System.start service clients database).JudgesReports schedule := by
  intro owner service remote address clients schedule memory database queued
  have filed : memory.store.tables.Filed := Memory.filed_empty
  obtain ⟨reports, inDatabase⟩ :=
    stale_reports_are_called_stale service clients filed database schedule
  have looked : (((System.start service clients memory).run schedule).threads[1]?.map
      fun thread => lookedUp thread.past address.entity) = some (some (.ok (some queued))) := by
    decide +kernel
  have outrun : (((System.start service clients memory).run schedule).threads[1]?.any
      fun thread => thread.past.any Exchange.isOutrun) = true := by
    decide +kernel
  obtain ⟨thread, found, shown⟩ := Option.map_eq_some_iff.1 looked
  rw [found] at outrun
  have operation : thread.client.operation = .complete address (.succeeded .null) := by
    have placed := congrArg (·[1]?) (System.clients_of_run service clients memory schedule)
    simp only [List.getElem?_map, found] at placed
    exact congrArg Client.operation (Option.some.inj placed)
  have weighed : Outrun thread.past := List.any_eq_true.1 outrun
  have judged : Judged address thread.past queued := ⟨shown, rfl⟩
  obtain ⟨stale, _⟩ := ((reports 1 thread address _ found operation).1 queued judged).2
    (by decide) (.inl weighed)
  exact ⟨filed, ⟨thread, found, judged, weighed, stale⟩, inDatabase⟩

/-- The report comes when the job waits again, and the lifecycle turns it away. -/
theorem report_on_retried_job_called_illegal :
    let owner : Owner := ⟨"acme", by decide⟩
    let service : Service := ⟨.default, ["remote"], by decide, nofun⟩
    let remote : Executor :=
      ⟨"remote", fun _ _ => .ok "first", fun _ _ _ => .answered (.ok ())⟩
    let clients : List Client := [
      ⟨.submitAndDispatch owner .job .null none, ⟨"a"⟩, fun _ => .epoch⟩,
      ⟨.transition owner ⟨"a"⟩ (.into .failed), ⟨"b"⟩, fun _ => .epoch⟩,
      ⟨.retry owner ⟨"a"⟩, ⟨"c"⟩, fun _ => .epoch⟩,
      ⟨.complete ⟨owner, ⟨"a"⟩, "first"⟩ (.succeeded .null), ⟨"d"⟩, fun _ => .epoch⟩]
    let before : System Memory := (System.onEmpty service clients [remote] fun _ _ => .ok ()).run
      (List.replicate 9 0 ++ List.replicate 4 1 ++ List.replicate 4 2)
    (before.world.store.tables.get ⟨"a"⟩).map Entity.dispatch = some none ∧
      (before.world.store.tables.get ⟨"a"⟩).map Entity.isFinished = some false ∧
      (before.step 3).answer? 3 = some (.error (.invalidTransition .queued .succeeded)) := by
  exact ⟨by decide +kernel, by decide +kernel, by rfl⟩

end TenantWork.Service
