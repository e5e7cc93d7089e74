import TenantWork.Proofs.Calls.Faithful
import TenantWork.Proofs.Calls.Performance
import TenantWork.Proofs.Schedule.Attempts
/-!
The parts of a dispatch, one by one, on a store that gives back what it was given. With nobody else
acting a part either does what it is for, and the snapshot it leads to is the stored one, or the
gate has shut out a write and the snapshot it began with is still there.
-/
namespace TenantWork

/-! ## One transition -/

namespace Entity

/-- The snapshot that a durable transition into a status leaves behind. -/
structure Enters (e : Entity) (target : Status) (next : Entity) : Prop where
  work : next.asCreated = e.asCreated
  status : next.status = target
  revision : next.revision = e.revision + 1
  wellFormed : e.WellFormed → next.WellFormed

/-- The executor's failure is on record. -/
structure Declined (e : Entity) (reason : String) : Prop where
  status : e.status = e.kind.lifecycle.failure
  code : e.errorCode = some ErrorCode.executorDispatchFailed.text
  message : e.errorMessage = some reason

variable {e copy : Entity} {request : Transition} {now : Time.Instant}

theorem SameWork.asCreated (work : e.SameWork copy) : copy.bumped.asCreated = e.asCreated := by
  show create copy.id copy.owner copy.kind copy.payload copy.key copy.createdAt = e.asCreated
  rw [work.id, work.owner, work.kind, work.payload, work.key, work.createdAt]
  rfl

theorem enters_of_apply (applied : e.apply request now = .ok copy) :
    e.Enters request.target copy.bumped := by
  have wellFormed (formed : e.WellFormed) : copy.bumped.WellFormed := (formed.apply applied).bumped
  obtain ⟨_, rfl⟩ := apply_eq_ok_iff.1 applied
  have work := entering_same e request (.latest now e.updatedAt)
  exact ⟨work.asCreated, rfl, congrArg (· + 1) work.revision, wellFormed⟩

theorem Enters.kind {target : Status} {next : Entity} (enters : e.Enters target next) :
    next.kind = e.kind :=
  show next.asCreated.kind = e.asCreated.kind from congrArg Entity.kind enters.work

theorem declined_of_apply {code reason : String}
    (applied : e.apply ((Transition.into e.kind.lifecycle.failure).withFailure code reason) now =
      .ok copy) (named : code = ErrorCode.executorDispatchFailed.text) :
    copy.bumped.Declined reason := by
  obtain ⟨_, rfl⟩ := apply_eq_ok_iff.1 applied
  rw [entering_failure _ rfl, named]
  exact ⟨rfl, rfl, rfl⟩

end Entity

theorem Kind.allows_running (kind : Kind) {status : Status}
    (initial : status = kind.lifecycle.initial) :
    kind.lifecycle.allows status kind.lifecycle.running = true := by
  subst initial
  cases kind <;> decide

theorem Kind.allows_success (kind : Kind) {status : Status}
    (running : status = kind.lifecycle.running) :
    kind.lifecycle.allows status kind.lifecycle.success = true := by
  subst running
  cases kind <;> decide

theorem Kind.allows_failure (kind : Kind) {status : Status}
    (running : status = kind.lifecycle.running) :
    kind.lifecycle.allows status kind.lifecycle.failure = true := by
  subst running
  cases kind <;> decide

/-- A write that the tables are ready for goes through unless the gate shuts it out. -/
theorem Store.commit_passes {Tables α : Type} (store : Store Tables) {staged : Staged Tables α}
    {call : WriteCall} {after : Tables} {answer : α} (ready : staged = .ready call after answer) :
    ((store.commit staged).1 = .ok answer ∧ (store.commit staged).2.tables = after) ∨
    ∃ fault, (store.commit staged).1 = .error fault ∧
      (store.commit staged).2.tables = store.tables ∧
      store.gate.ShutOut (store.commit staged).2.gate fault := by
  subst ready
  obtain ⟨_, passed⟩ | ⟨fault, refused, shut⟩ := store.commit_ready call after answer
  · left
    rw [passed]
    exact ⟨rfl, rfl⟩
  · right
    rw [shut]
    exact ⟨fault, rfl, rfl, Gate.shutOut_ask refused⟩

namespace Service

open Store (Storage Faithful Stored)

section Parts

variable {Tables : Type} [Storage Tables] [Faithful Tables]

/-! ## Where a session stands -/

/-- The snapshot is stored with room for so many updates, and the clock shows times that the store
keeps. -/
structure Session.At (session : Session Tables) (n : Nat) (e : Entity) : Prop where
  stored : Stored session.tables e
  lasts : Faithful.Lasts Tables n e
  timely : ∀ reading, Faithful.Moment Tables (session.times reading)

/-- The gate has shut out a write, the snapshot is still the stored one, and an error of the store's
own class is the answer. -/
structure Session.Shut {α : Type} (session : Session Tables) (n : Nat) (e : Entity)
    (answer : Except Error α) (after : Session Tables) : Prop where
  here : after.At n e
  fault : ∃ fault, session.gate.ShutOut after.gate fault ∧
    (fault.isPersistence = true → answer = .error fault)

/-- What an outcome leaves in an entity is kept by the store. -/
def Outcome.Kept (Tables : Type) [Storage Tables] [Faithful Tables] : Outcome → Prop
  | .succeeded result => Faithful.Value Tables result
  | .failed _ => True

variable {α : Type} {session after : Session Tables} {n : Nat} {e : Entity}

theorem Session.At.of_same (here : session.At n e) (store : after.world.store = session.world.store)
    (times : after.times = session.times) : after.At n e := by
  refine ⟨?_, here.lasts, ?_⟩
  · show Stored after.world.store.tables e
    rw [store]
    exact here.stored
  · rw [times]
    exact here.timely

theorem Session.Shut.out {answer : Except Error α} (shut : session.Shut n e answer after) :
    ∃ fault, session.gate.ShutOut after.gate fault := by
  obtain ⟨fault, refused, _⟩ := shut.fault
  exact ⟨fault, refused⟩

/-- What was shut out on the way is shut out for the whole of it. -/
theorem Session.Shut.earlier {middle : Session Tables} {answer : Except Error α}
    (shut : middle.Shut n e answer after) (leads : session.Leads middle) :
    session.Shut n e answer after := by
  obtain ⟨fault, refused, answers⟩ := shut.fault
  exact ⟨shut.here, fault, refused.earlier leads.gate, answers⟩

/-- An error of another class may be answered in any way. -/
theorem Session.Shut.later {β : Type} {middle : Session Tables} {source target : Status}
    {reply : Except Error β}
    (shut : session.Shut n e (.error (.invalidTransition source target) : Except Error α) middle)
    (leads : middle.Leads after) (here : after.At n e) : session.Shut n e reply after := by
  obtain ⟨fault, refused, answers⟩ := shut.fault
  refine ⟨here, fault, refused.later leads.gate, fun ours => ?_⟩
  obtain rfl := Except.error.inj (answers ours)
  cases ours

/-! ## Reading and writing -/

theorem load_at (here : session.At n e) : (load e.owner e.id).Performs session
    fun answer after => answer = .ok e ∧ after.At n e := by
  have reply : (session.answer (.load e.id)).1 = .ok (some e) := here.stored
  refine Program.performs_ask.2 ?_
  rw [reply]
  exact ⟨Entity.forOwner_eq_ok_iff.2 ⟨rfl, rfl⟩, here.of_same rfl rfl⟩

/-- Work is found under the owner and the id of any of its snapshots. -/
theorem load_work {old : Entity} (here : session.At n e) (work : e.asCreated = old.asCreated) :
    (load old.owner old.id).Performs session fun answer after => answer = .ok e ∧ after.At n e := by
  have owner : old.owner = e.owner := (congrArg Entity.owner work.symm :)
  have id : old.id = e.id := (congrArg Entity.id work.symm :)
  rw [owner, id]
  exact load_at here

theorem Session.At.save {next : Entity} (here : session.At (n + 1) e) (work : e.SameWork next)
    (later : Faithful.Lasts Tables n next.bumped) :
    ((session.answer (.save next)).1 = .ok next.bumped ∧
      (session.answer (.save next)).2.At n next.bumped) ∨
    ∃ fault, (session.answer (.save next)).1 = .error fault ∧
      (session.answer (.save next)).2.At (n + 1) e ∧
      session.gate.ShutOut (session.answer (.save next)).2.gate fault := by
  obtain ⟨tables, ready, stored⟩ := Faithful.save here.stored here.lasts work later
  obtain ⟨reply, same⟩ | ⟨fault, reply, same, shut⟩ := session.world.store.commit_passes ready
  · have same : (session.answer (.save next)).2.tables = tables := same
    refine .inl ⟨reply, ?_, later, here.timely⟩
    rw [same]
    exact stored
  · have same : (session.answer (.save next)).2.tables = session.tables := same
    refine .inr ⟨fault, reply, ⟨?_, here.lasts, here.timely⟩, shut⟩
    rw [same]
    exact here.stored

/-- The store takes no copy of an older snapshot. -/
theorem Session.At.save_stale {old : Entity} (here : session.At n e) (id : old.id = e.id)
    (owner : old.owner = e.owner) (older : old.revision < e.revision) :
    (session.answer (.save old)).1 = .error (.invalidTransition e.status old.status) ∧
      (session.answer (.save old)).2.At n e := by
  have refused := Faithful.stale here.stored here.lasts id owner older
  have outcome : session.world.store.save old =
      (.error (.invalidTransition e.status old.status), session.world.store) :=
    congrArg session.world.store.commit refused
  exact ⟨congrArg Prod.fst outcome, here.of_same (congrArg Prod.snd outcome) rfl⟩

/-- A transition that the lifecycle allows goes through unless the gate shuts it out. -/
theorem commit_moves {request : Transition} (here : session.At (n + 1) e)
    (allowed : e.kind.lifecycle.allows e.status request.target = true)
    (kept : ∀ result, request.result = some result → Faithful.Value Tables result) :
    (commit e request).Performs session fun answer after =>
      (∃ copy now, e.apply request now = .ok copy ∧ answer = .ok copy.bumped ∧
        after.At n copy.bumped) ∨
      ∃ fault, answer = .error fault ∧ session.Shut (n + 1) e answer after := by
  have clocked : (session.answer .readClock).2.At (n + 1) e := here.of_same rfl rfl
  have applied := Entity.apply_eq_ok_iff.2 ⟨allowed, (rfl : _ = e.entering request
    (.latest session.now e.updatedAt))⟩
  have work := Entity.entering_same e request (.latest session.now e.updatedAt)
  have later := Faithful.applied here.lasts (here.timely _) kept applied
  have shown : (session.answer .readClock).1 = session.now := rfl
  refine Program.performs_ask.2 ?_
  rw [shown, applied]
  refine Program.performs_ask.2 ?_
  obtain ⟨reply, there⟩ | ⟨fault, reply, there, shut⟩ := clocked.save work later
  · rw [reply]
    exact .inl ⟨_, _, applied, rfl, there.of_same rfl rfl⟩
  · rw [reply]
    cases fault <;> exact .inr ⟨_, rfl, there, _, shut, fun ours => by first | rfl | cases ours⟩

/-- Work that is stored in progress under a dispatch, with room for its outcome. -/
structure Session.Begun (session : Session Tables) (running : Entity) (dispatch : String) :
    Prop where
  here : session.At 1 running
  status : running.status = running.kind.lifecycle.running
  carries : running.dispatch = some dispatch

/-- A dispatch of work that has not begun is durable unless the gate shuts it out. -/
theorem commit_begins {executor dispatch : String} (here : session.At 2 e)
    (initial : e.status = e.kind.lifecycle.initial) :
    (commit e ((Transition.into e.kind.lifecycle.running).withDispatch executor
      (some dispatch))).Performs session fun answer after =>
      (∃ running, e.Enters e.kind.lifecycle.running running ∧ answer = .ok running ∧
        after.Begun running dispatch) ∨
      ∃ fault, answer = .error fault ∧ session.Shut 2 e answer after := by
  refine (commit_moves here (e.kind.allows_running initial) fun result given => by
    cases given).weaken ?_
  rintro answer after (⟨copy, now, applied, told, there⟩ | shut)
  · obtain ⟨status, _, carries⟩ := Entity.apply_given applied rfl rfl
    exact .inl ⟨_, Entity.enters_of_apply applied, told, there, status, carries⟩
  · exact .inr shut

/-! ## Reports -/

/-- A report to the dispatch in progress counts unless the gate shuts out its write. -/
theorem complete_moves {dispatch : String} {outcome : Outcome} (here : session.At (n + 1) e)
    (running : e.status = e.kind.lifecycle.running) (carries : e.dispatch = some dispatch)
    (kept : outcome.Kept Tables) :
    (complete ⟨e.owner, e.id, dispatch⟩ outcome).Performs session fun answer after =>
      (∃ next, e.Enters (outcome.request e.kind).target next ∧ answer = .ok next ∧
        after.At n next) ∨
        session.Shut (n + 1) e answer after := by
  have allowed : e.kind.lifecycle.allows e.status (outcome.request e.kind).target = true := by
    obtain target | target := outcome.target_cases e.kind
    · rw [target]
      exact e.kind.allows_success running
    · rw [target]
      exact e.kind.allows_failure running
  have results : ∀ result, (outcome.request e.kind).result = some result →
      Faithful.Value Tables result := by
    intro result given
    cases outcome with
    | succeeded value =>
      obtain rfl := Option.some.inj given
      exact kept
    | failed failure => cases given
  refine (load_at here).leads.andThen (fun fault _ failed => (nomatch failed.1.1)) ?_
  rintro current middle ⟨⟨found, there⟩, leads⟩
  obtain rfl := Except.ok.inj found
  have passed : checkReport current ⟨current.owner, current.id, dispatch⟩ outcome = .ok () := by
    simp only [checkReport, Entity.checkStep, allowed, if_true, bind, Except.bind, checkDispatch,
      carries]
  rw [passed]
  refine (commit_moves there allowed results).leads.bind ?_
  rintro answer between ⟨⟨copy, now, applied, rfl, ended⟩ | ⟨fault, rfl, shut⟩, onward⟩
  · exact .inl ⟨_, Entity.enters_of_apply applied, rfl, ended⟩
  · have shut := shut.earlier leads
    cases fault with
    | invalidTransition source target =>
      -- The lifecycle has not refused the write, so a gate has, with an error of that kind.
      refine (load_at shut.here).leads.andThen (fun fault _ failed => (nomatch failed.1.1)) ?_
      rintro latest after ⟨⟨found, still⟩, later⟩
      obtain rfl := Except.ok.inj found
      have same : checkDispatch latest ⟨latest.owner, latest.id, dispatch⟩ = .ok () :=
        if_pos carries
      rw [same]
      exact .inr (shut.later later still)
    | _ => exact .inr shut

/-! ## Failures of the executor -/

/-- The transition that puts a failure of the executor on record. -/
def declining (kind : Kind) (reason : String) : Transition :=
  (Transition.into kind.lifecycle.failure).withFailure ErrorCode.executorDispatchFailed.text reason

/-- Puts a failure of the executor on record, or reads what has become of the work meanwhile. -/
def decline (current : Entity) (reason : String) : Call Entity :=
  (commit current (declining current.kind reason)).bind fun
    | .error (.invalidTransition _ _) => load current.owner current.id
    | answer => .done answer

theorem failDispatch_of_initial {dispatch : Option Dispatch} {reason : String}
    (initial : e.status = e.kind.lifecycle.initial) :
    failDispatch e dispatch reason =
      (commit e { Transition.into e.kind.lifecycle.running with dispatch }).andThen fun current =>
        (commit current (declining e.kind reason)).bind fun
          | .error (.invalidTransition _ _) => load current.owner current.id
          | answer => .done answer := by
  rw [failDispatch]
  dsimp only
  rw [if_pos initial]
  rfl

theorem failDispatch_of_running {dispatch : Option Dispatch} {reason : String}
    (running : e.status = e.kind.lifecycle.running) :
    failDispatch e dispatch reason = decline e reason := by
  rw [failDispatch]
  dsimp only
  rw [if_neg fun initial => e.kind.initial_ne_running (initial.symm.trans running)]
  rfl

variable {dispatch : Option Dispatch} {reason : String}

/-- The failure of work in progress is on record unless the gate shuts out the write. -/
theorem decline_moves (here : session.At (n + 1) e)
    (running : e.status = e.kind.lifecycle.running) :
    (decline e reason).Performs session fun answer after =>
      (∃ next, e.Enters e.kind.lifecycle.failure next ∧ next.Declined reason ∧ answer = .ok next ∧
        after.At n next) ∨ session.Shut (n + 1) e answer after := by
  have allowed : e.kind.lifecycle.allows e.status (declining e.kind reason).target = true :=
    e.kind.allows_failure running
  refine (commit_moves here allowed fun result given => by cases given).leads.bind ?_
  rintro answer middle ⟨⟨copy, now, applied, rfl, ended⟩ | ⟨fault, rfl, shut⟩, leads⟩
  · exact .inl ⟨_, Entity.enters_of_apply applied, Entity.declined_of_apply applied rfl, rfl, ended⟩
  · cases fault with
    | invalidTransition source target =>
      refine (load_at shut.here).leads.weaken ?_
      rintro _ after ⟨⟨rfl, still⟩, later⟩
      exact .inr (shut.later later still)
    | _ => exact .inr shut

/-- Whoever was faster with an outcome is left in place. -/
theorem decline_stale {old : Entity} (here : session.At n e) (work : e.asCreated = old.asCreated)
    (older : old.revision < e.revision) (running : old.status = old.kind.lifecycle.running) :
    (decline old reason).Performs session fun answer after => answer = .ok e ∧ after.At n e := by
  have id : old.id = e.id := (congrArg Entity.id work.symm :)
  have owner : old.owner = e.owner := (congrArg Entity.owner work.symm :)
  have allowed : old.kind.lifecycle.allows old.status (declining old.kind reason).target = true :=
    old.kind.allows_failure running
  have applied := Entity.apply_eq_ok_iff.2 ⟨allowed, (rfl : _ = old.entering _
    (.latest session.now old.updatedAt))⟩
  have same := Entity.entering_same old (declining old.kind reason)
    (.latest session.now old.updatedAt)
  -- The copy carries the old revision, so the store turns it away before the gate is asked.
  have clocked : (session.answer .readClock).2.At n e := here.of_same rfl rfl
  have shown : (session.answer .readClock).1 = session.now := rfl
  obtain ⟨reply, there⟩ := clocked.save_stale (same.id.trans id) (same.owner.trans owner)
    (same.revision.trans_lt older)
  have turned : (commit old (declining old.kind reason)).Performs session fun answer after =>
      (∃ source target, answer = .error (.invalidTransition source target)) ∧ after.At n e := by
    refine Program.performs_ask.2 ?_
    rw [shown, applied]
    refine Program.performs_ask.2 ?_
    rw [reply]
    exact ⟨⟨_, _, rfl⟩, there⟩
  refine turned.bind ?_
  rintro answer middle ⟨⟨source, target, rfl⟩, there⟩
  exact load_work there work

/-- A dispatch that fails before anything has begun passes through the running status. -/
theorem failDispatch_moves (here : session.At (n + 2) e)
    (initial : e.status = e.kind.lifecycle.initial) :
    (failDispatch e dispatch reason).Performs session fun answer after =>
      (∃ running next, e.Enters e.kind.lifecycle.running running ∧
        running.Enters running.kind.lifecycle.failure next ∧ next.Declined reason ∧
        answer = .ok next ∧ after.At n next) ∨
      session.Shut (n + 2) e answer after ∨
      ∃ running, e.Enters e.kind.lifecycle.running running ∧
        session.Shut (n + 1) running answer after := by
  rw [failDispatch_of_initial initial]
  refine (commit_moves here (e.kind.allows_running initial) fun result given => by
    cases given).leads.andThen ?_ ?_
  · rintro fault middle ⟨⟨_, _, _, impossible, _⟩ | ⟨_, _, there, cause, refused, answers⟩, _⟩
    · cases impossible
    · exact .inr (.inl ⟨there, cause, refused, fun ours => by rw [Except.error.inj (answers ours)]⟩)
  · rintro current middle ⟨⟨copy, now, applied, found, there⟩ | ⟨_, impossible, _⟩, leads⟩
    · obtain rfl := Except.ok.inj found
      have enters := Entity.enters_of_apply applied
      have kind := enters.kind
      have running : copy.bumped.status = copy.bumped.kind.lifecycle.running := by
        rw [enters.status, kind]
        rfl
      have same : declining e.kind reason = declining copy.bumped.kind reason := by rw [kind]
      rw [same]
      refine (decline_moves there running).weaken ?_
      rintro answer after (⟨next, ends, declined, done, last⟩ | shut)
      · exact .inl ⟨_, next, enters, ends, declined, done, last⟩
      · exact .inr (.inr ⟨_, enters, shut.earlier leads⟩)
    · cases impossible

/-! ## Handing over -/

/-- A hand-over, part by part: nobody is chosen, or no id is reserved, or the gate shuts out the
dispatch, or the chosen executor starts the work. -/
theorem handOver_moves {service : Service} {ends : Except Error Entity → Session Tables → Prop}
    (here : session.At 2 e) (initial : e.status = e.kind.lifecycle.initial)
    (unchosen : service.chosen = none →
      (failDispatch e none "no executor registered").Performs session ends)
    (refused : ∀ executor fault asked, service.chosen = some executor → asked.At 2 e →
      session.Leads asked → asked.orders = ⟨.reserve executor e, .error fault⟩ :: session.orders →
      (failDispatch e (some ⟨executor, none⟩) fault.message).Performs asked ends)
    (shut : ∀ fault after, session.Shut 2 e (.error fault : Except Error Entity) after →
      ends (.error fault) after)
    (begun : ∀ executor dispatch running middle, service.chosen = some executor →
      e.Enters e.kind.lifecycle.running running → middle.Begun running dispatch →
      session.Leads middle →
      middle.orders = ⟨.reserve executor e, .ok dispatch⟩ :: session.orders →
      (start running executor dispatch).Performs middle ends) :
    (service.handOver e).Performs session ends := by
  unfold handOver
  cases chosen : service.chosen with
  | none => exact unchosen chosen
  | some executor =>
    have orders := session.reserve_orders executor e
    have leads := session.answer_leads (.reserve executor e)
    have there : (session.answer (.reserve executor e)).2.At 2 e := here.of_same rfl rfl
    dsimp only
    rw [Program.performs_ask]
    cases reply : (session.answer (.reserve executor e)).1 with
    | error fault =>
      rw [reply] at orders
      exact refused executor fault _ chosen there leads orders
    | ok dispatch =>
      rw [reply] at orders
      refine ((commit_begins there initial).leads.silent (commit_steady _ _).apart).andThen ?_ ?_
      · rintro fault middle ⟨⟨⟨_, _, impossible, _⟩ | ⟨_, _, out⟩, _⟩, _⟩
        · cases impossible
        · exact shut fault middle (out.earlier leads)
      · rintro running middle ⟨⟨⟨_, enters, told, has⟩ | ⟨_, impossible, _⟩, onward⟩, silent⟩
        · obtain rfl := Except.ok.inj told
          exact begun executor dispatch running middle chosen enters has (leads.trans onward)
            (silent.trans orders)
        · cases impossible

/-! ## New work -/

/-- The entities that have been created in a session, the latest first. -/
def Session.creations (session : Session Tables) : List Entity :=
  session.past.filterMap Exchange.created?

/-- The snapshot that a submission begins with. -/
def Session.submitted (session : Session Tables) (owner : Owner) (kind : Kind) (payload : Json)
    (key : Option String) : Entity :=
  .create (session.world.entityIds session.world.created) owner kind payload key session.now

variable {service : Service} {owner : Owner} {kind : Kind} {payload : Json} {key : Option String}

/-- The id to be given out next is free, and so is the key of the owner, if one is given. -/
structure World.Free {Tables : Type} [Storage Tables] (world : World Tables) (owner : Owner)
    (key : Option String) : Prop where
  unused : Storage.get world.store.tables (world.entityIds world.created) = .ok none
  visible : ∀ text, key = some text → Text.isBlank text = false
  unlisted : ∀ text, key = some text → Storage.find world.store.tables owner text = .ok none

/-- What a submission needs so that the gate alone can shut it out: tables that take an entity, an
id and a key that are free, and a payload and times that the store keeps. -/
structure Session.Takes (session : Session Tables) (owner : Owner) (payload : Json)
    (key : Option String) : Prop where
  sound : Faithful.Sound session.tables
  free : session.world.Free owner key
  value : Faithful.Value Tables payload
  timely : ∀ reading, Faithful.Moment Tables (session.times reading)

/-- The new entity is there, or the gate has shut it out and the tables are as they were. -/
def Session.Entered (session : Session Tables) (e : Entity) (answer : Except Error Submission)
    (after : Session Tables) : Prop :=
  (answer = .ok (.created e) ∧ after.At 2 e ∧ after.creations = e :: session.creations) ∨
    ∃ fault, answer = .error fault ∧ session.gate.ShutOut after.gate fault ∧
      after.tables = session.tables ∧ after.creations = session.creations

theorem insertNew_moves (takes : session.Takes owner payload key) :
    (insertNew owner kind payload key).Performs session
      (session.Entered (session.submitted owner kind payload key)) := by
  let named := (session.answer .readClock).2.answer .newId
  let e : Entity := .create named.1 owner kind payload key (session.answer .readClock).1
  have lasts : Faithful.Lasts Tables 2 e :=
    Faithful.created _ owner kind key takes.value (takes.timely _)
  obtain ⟨tables, staged, stored⟩ := Faithful.insert (e := e) takes.sound takes.free.unused
    takes.free.unlisted (takes.timely _) lasts
  unfold insertNew
  rw [Program.performs_ask, Program.performs_ask, Program.performs_ask]
  obtain ⟨reply, same⟩ | ⟨fault, reply, same, shut⟩ := session.world.store.commit_passes staged
  · have reply : (named.2.answer (.insert e)).1 = .ok (.inserted e) := reply
    have same : (named.2.answer (.insert e)).2.tables = tables := same
    have there : (named.2.answer (.insert e)).2.At 2 e := by
      refine ⟨?_, lasts, takes.timely⟩
      rw [same]
      exact stored
    rw [reply]
    refine .inl ⟨rfl, there, ?_⟩
    show (Exchange.mk (.insert e) (named.2.answer (.insert e)).1 :: _).filterMap _ = _
    rw [reply]
    rfl
  · have reply : (named.2.answer (.insert e)).1 = .error fault := reply
    rw [reply]
    refine .inr ⟨fault, rfl, shut, same, ?_⟩
    show (Exchange.mk (.insert e) (named.2.answer (.insert e)).1 :: _).filterMap _ = _
    rw [reply]
    rfl

theorem place_moves (takes : session.Takes owner payload key) :
    (service.place owner kind payload key).Performs session
      (session.Entered (session.submitted owner kind payload key)) := by
  unfold place
  cases key with
  | none => exact insertNew_moves takes
  | some text =>
    have reply : (session.answer (.find owner text)).1 = .ok none := takes.free.unlisted text rfl
    have still : (session.answer (.find owner text)).2.Takes owner payload (some text) :=
      ⟨takes.sound, ⟨takes.free.unused, takes.free.visible, takes.free.unlisted⟩, takes.value,
        takes.timely⟩
    dsimp only
    rw [takes.free.visible text rfl, if_neg Bool.false_ne_true, Program.performs_ask, reply]
    exact insertNew_moves still

end Parts

end Service

end TenantWork
