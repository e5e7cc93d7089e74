import TenantWork.Proofs.Calls.Moves
/-!
What an executor can do to a dispatch. As long as the gate lets every write pass and the executor
keeps errors of the store's own class to itself when it takes work over, a dispatch ends with the
stored entity, and a refusal of the executor ends in the failure status with the executor's own
words. An error of that class, though, is taken for one of the store, and the work is left running.
-/
namespace TenantWork.Service

open Store (Storage Faithful Stored Memory Database)

/-! ## What executors answer -/

/-- The error with which an executor refuses an entity that it has not reported on. -/
def Exchange.declined? : Exchange → Option Error
  | ⟨.reserve _ _, .error fault⟩ => some fault
  | ⟨.start _ _ _, .answered (.error fault)⟩ => some fault
  | _ => none

theorem Exchange.declined_start {name dispatch : String} {e : Entity} {reply : Start}
    {fault : Error}
    (declined : (Exchange.mk (.start name e dispatch) reply).declined? = some fault) :
    reply = .answered (.error fault) := by
  cases reply with
  | answered answer =>
    cases answer with
    | ok done => cases declined
    | error cause =>
      obtain rfl := Option.some.inj declined
      rfl
  | deferred outcome => cases declined
  | reported outcome answer => cases declined
  | brokeOff => cases declined

/-- No error of the store's own class, unless the store has refused a report, and no breaking off. -/
def Start.Confined : Start → Prop
  | .answered (.error fault) => fault.isPersistence = false
  | .reported _ answer =>
    ∀ e fault, answer (.ok e) = .error fault → fault.isPersistence = false
  | .brokeOff => False
  | _ => True

def Start.Kept (Tables : Type) [Storage Tables] [Faithful Tables] : Start → Prop
  | .reported outcome _ => outcome.Kept Tables
  | _ => True

/-- An executor that takes work over without errors of the store's own class. -/
def Executor.Confined (executor : Executor) : Prop :=
  ∀ calls e dispatch, (executor.start calls e dispatch).Confined

/-- An executor whose results the store keeps. -/
def Executor.Kept (Tables : Type) [Storage Tables] [Faithful Tables] (executor : Executor) : Prop :=
  ∀ calls e dispatch, (executor.start calls e dispatch).Kept Tables

/-- The executor that new work is handed to, if there is one of its name. -/
def executor? {Tables : Type} (service : Service) (world : World Tables) : Option Executor :=
  service.chosen.bind world.executor?

section Dispatches

variable {Tables : Type} [Storage Tables] [Faithful Tables] {session : Session Tables}
  {e running : Entity}

omit [Faithful Tables] in
/-- What holds of the executor, and of the answer for a missing one, holds of what comes back. -/
theorem Session.start_reply {P : Start → Prop} {name dispatch : String}
    (registered : ∀ executor, session.world.executor? name = some executor →
      ∀ calls e dispatch, P (executor.start calls e dispatch))
    (missing : P (.answered (.error (.executorDispatchFailed name "no executor registered")))) :
    P (session.answer (.start name e dispatch)).1 := by
  cases found : session.world.executor? name with
  | none =>
    rw [session.start_unregistered found]
    exact missing
  | some executor =>
    rw [session.start_registered found]
    exact registered executor found _ _ _

omit [Faithful Tables] in
theorem Session.start_store (session : Session Tables) (name : String) (e : Entity)
    (dispatch : String) :
    (session.answer (.start name e dispatch)).2.world.store = session.world.store :=
  World.start_store _ _ _ _

omit [Storage Tables] [Faithful Tables] in
theorem Session.mem_orders {exchange : Exchange} {fault : Error} (inside : exchange ∈ session.past)
    (declined : exchange.declined? = some fault) : exchange ∈ session.orders := by
  refine List.mem_filter.2 ⟨inside, ?_⟩
  unfold Exchange.declined? at declined
  split at declined
  · rfl
  · rfl
  · cases declined

omit [Faithful Tables] in
/-- Once the executor has the entity, it is asked nothing more. -/
theorem start_orders (session : Session Tables) (running : Entity) (executor dispatch : String) :
    ((start running executor dispatch).perform session).2.orders =
      ⟨.start executor running dispatch,
        (session.answer (.start executor running dispatch)).1⟩ :: session.orders := by
  obtain ⟨next, asks, steady⟩ := start_steady running executor dispatch
  rw [asks, Program.perform, (steady _).apart.orders]
  exact List.filter_cons_of_pos rfl

/-! ## One dispatch -/

/-- The entity that a dispatch ends with, told to the caller as it is stored. -/
structure Session.Settled (e : Entity) (answer : Except Error Entity) (after : Session Tables)
    (final : Entity) : Prop where
  told : answer = .ok final
  stored : Stored after.tables final
  work : final.asCreated = e.asCreated

omit [Storage Tables] [Faithful Tables] in
/-- A refusal of the executor is put on record. -/
theorem afterStart_declines {dispatch : Dispatch} {fault : Error}
    (status : running.status = running.kind.lifecycle.running)
    (own : fault.isPersistence = false) :
    afterStart running dispatch (.error fault) = decline running fault.message := by
  rw [← failDispatch_of_running status, afterStart, own]
  exact if_neg Bool.false_ne_true

/-- What comes of work that an executor has been handed. -/
theorem start_settles {executor dispatch : String} (begun : session.Begun running dispatch)
    (confined : ((session.answer (.start executor running dispatch)).1 : Start).Confined)
    (kept : ((session.answer (.start executor running dispatch)).1 : Start).Kept Tables) :
    (start running executor dispatch).Performs session fun answer after =>
      (∃ final, Session.Settled running answer after final ∧
        ∀ fault, (session.answer (.start executor running dispatch)).1 = .answered (.error fault) →
          final.Declined fault.message) ∨
      ∃ fault, session.gate.ShutOut after.gate fault := by
  have store := session.start_store executor running dispatch
  obtain ⟨here, status, carries⟩ := begun
  have there : (session.answer (.start executor running dispatch)).2.At 1 running :=
    here.of_same store rfl
  have gate : (session.answer (.start executor running dispatch)).2.gate = session.gate :=
    congrArg Store.gate store
  rw [← gate]
  unfold start
  rw [Program.performs_ask]
  generalize (session.answer (.start executor running dispatch)).2 = handed at there
  cases reply : (session.answer (.start executor running dispatch)).1 with
  | answered answer =>
    rw [reply] at confined
    cases answer with
    | ok done =>
      refine (load_at there).weaken ?_
      rintro answer after ⟨told, still⟩
      exact .inl ⟨running, ⟨told, still.stored, rfl⟩, fun fault impossible => by cases impossible⟩
    | error fault =>
      dsimp only
      rw [afterStart_declines status confined]
      refine (decline_moves there status).weaken ?_
      rintro answer after (⟨final, enters, declined, told, last⟩ | shut)
      · refine .inl ⟨final, ⟨told, last.stored, enters.work⟩, fun cause same => ?_⟩
        obtain rfl := Except.error.inj (Start.answered.inj same)
        exact declined
      · exact .inr shut.out
  | deferred outcome =>
    refine (load_at there).weaken ?_
    rintro answer after ⟨told, still⟩
    exact .inl ⟨running, ⟨told, still.stored, rfl⟩, fun fault impossible => by cases impossible⟩
  | brokeOff =>
    rw [reply] at confined
    exact confined.elim
  | reported outcome answer =>
    rw [reply] at confined kept
    refine (complete_moves there status carries kept).leads.bind ?_
    rintro report middle ⟨⟨final, enters, rfl, last⟩ | shut, leads⟩
    · have older : running.revision < final.revision := by
        rw [enters.revision]
        exact Nat.lt_succ_self _
      cases own : answer (.ok final) with
      | ok done =>
        refine (load_work last enters.work).weaken ?_
        rintro reply after ⟨told, still⟩
        exact .inl ⟨final, ⟨told, still.stored, enters.work⟩, fun fault impossible => by
          cases impossible⟩
      | error fault =>
        -- The report was first, so a refusal after it meets finished work and changes nothing.
        rw [afterStart_declines status (confined final fault own)]
        refine (decline_stale last enters.work older status).weaken ?_
        rintro reply after ⟨told, still⟩
        exact .inl ⟨final, ⟨told, still.stored, enters.work⟩, fun fault impossible => by
          cases impossible⟩
    · obtain ⟨fault, refused⟩ := shut.out
      exact .inr ⟨fault, refused.later (middle.perform_leads _).gate⟩

/-- The failure of a dispatch that has not begun is told to the caller. -/
theorem failDispatch_settles {dispatch : Option Dispatch} {reason : String}
    (here : session.At 2 e) (initial : e.status = e.kind.lifecycle.initial) :
    (failDispatch e dispatch reason).Performs session fun answer after =>
      (∃ final, Session.Settled e answer after final ∧ final.Declined reason) ∨
        ∃ fault, session.gate.ShutOut after.gate fault := by
  refine (failDispatch_moves here initial).weaken ?_
  rintro answer after (⟨running, final, begins, ends, declined, told, last⟩ | shut | ⟨_, _, shut⟩)
  · exact .inl ⟨final, ⟨told, last.stored, ends.work.trans begins.work⟩, declined⟩
  · exact .inr shut.out
  · exact .inr shut.out

/-- A dispatch of new work settles unless the gate shuts out a write, and whatever error an executor
has refused the work with is on record. -/
theorem handOver_ends {service : Service} (here : session.At 2 e)
    (initial : e.status = e.kind.lifecycle.initial) (fresh : session.orders = [])
    (confined : ∀ executor ∈ service.executor? session.world, executor.Confined)
    (kept : ∀ executor ∈ service.executor? session.world, executor.Kept Tables) :
    (service.handOver e).Performs session fun answer after =>
      (∃ final, Session.Settled e answer after final ∧ ∀ exchange ∈ after.orders, ∀ fault,
        exchange.declined? = some fault → final.Declined fault.message) ∨
      ∃ fault, session.gate.ShutOut after.gate fault := by
  refine handOver_moves here initial (fun unchosen => ?_) ?_ ?_ ?_
  · refine ((failDispatch_settles here initial).silent (failDispatch_steady _ _ _).apart).weaken ?_
    rintro answer after ⟨⟨final, settled, _⟩ | shut, silent⟩
    · refine .inl ⟨final, settled, fun exchange inside => ?_⟩
      rw [silent, fresh] at inside
      cases inside
    · exact .inr shut
  · intro executor fault asked chosen there leads orders
    refine ((failDispatch_settles there initial).silent (failDispatch_steady _ _ _).apart).weaken ?_
    rintro answer after ⟨⟨final, settled, declined⟩ | ⟨cause, shut⟩, silent⟩
    · refine .inl ⟨final, settled, fun exchange inside cause refused => ?_⟩
      rw [silent, orders, fresh] at inside
      obtain rfl := List.mem_singleton.1 inside
      obtain rfl := Option.some.inj refused
      exact declined
    · exact .inr ⟨cause, shut.earlier leads.gate⟩
  · intro fault after shut
    exact .inr shut.out
  · intro executor dispatch running middle chosen begins begun leads orders
    have registered {found : Executor} (there : middle.world.executor? executor = some found) :
        found ∈ service.executor? session.world := by
      rw [leads.executor?] at there
      rw [executor?, chosen]
      exact there
    obtain ⟨final, settled, declined⟩ | ⟨fault, refused⟩ := start_settles begun
      (Session.start_reply (P := Start.Confined) (fun _ there => confined _ (registered there)) rfl)
      (Session.start_reply (P := Start.Kept Tables) (fun _ there => kept _ (registered there))
        trivial)
    · refine .inl ⟨final, ⟨settled.told, settled.stored, settled.work.trans begins.work⟩, ?_⟩
      intro exchange inside fault refused
      rw [start_orders middle running executor dispatch, orders, fresh] at inside
      obtain rfl | inside := List.mem_cons.1 inside
      · exact declined fault (Exchange.declined_start refused)
      · obtain rfl := List.mem_singleton.1 inside
        cases refused
    · exact .inr ⟨fault, refused.earlier leads.gate⟩

/-! ## Whole calls -/

/-- As long as the gate lets every write pass, the call ends with the stored entity, and an error
with which an executor has refused the entity is on record. -/
def Program.Settles (session : Session Tables) (e : Entity) (call : Call Entity) : Prop :=
  call.Performs session fun answer after => session.gate.LetPass after.gate →
    ∃ final, Session.Settled e answer after final ∧ ∀ exchange ∈ after.past, ∀ fault,
      exchange.declined? = some fault → final.Declined fault.message

variable {service : Service} {owner : Owner} {kind : Kind} {payload : Json} {key : Option String}

/-- What comes before the hand-over counts as well, for the gate. -/
theorem handOver_settles {before : Session Tables} (leads : before.Leads session)
    (here : session.At 2 e) (initial : e.status = e.kind.lifecycle.initial)
    (fresh : session.orders = [])
    (confined : ∀ executor ∈ service.executor? before.world, executor.Confined)
    (kept : ∀ executor ∈ service.executor? before.world, executor.Kept Tables) :
    (service.handOver e).Performs session fun answer after => before.gate.LetPass after.gate →
      ∃ final, Session.Settled e answer after final ∧ ∀ exchange ∈ after.past, ∀ fault,
        exchange.declined? = some fault → final.Declined fault.message := by
  rw [executor?, ← funext leads.executor?] at confined kept
  refine (handOver_ends here initial fresh confined kept).weaken ?_
  rintro answer after (⟨final, settled, declined⟩ | ⟨fault, shut⟩) passed
  · exact ⟨final, settled, fun exchange inside fault refused =>
      declined exchange (Session.mem_orders inside refused) fault refused⟩
  · exact absurd (shut.earlier leads.gate) passed.not_shutOut

theorem submitAndDispatch_settles (takes : session.Takes owner payload key)
    (fresh : session.orders = [])
    (confined : ∀ executor ∈ service.executor? session.world, executor.Confined)
    (kept : ∀ executor ∈ service.executor? session.world, executor.Kept Tables) :
    (service.submitAndDispatch owner kind payload key).Settles session
      (session.submitted owner kind payload key) := by
  refine ((place_moves takes).leads.silent (place_apart _ _ _ _ _)).andThen ?_ ?_
  · rintro fault middle ⟨⟨⟨impossible, _⟩ | ⟨_, _, shut, _⟩, _⟩, _⟩ passed
    · cases impossible
    · exact absurd shut passed.not_shutOut
  · rintro placed middle ⟨⟨⟨told, there, _⟩ | ⟨_, impossible, _⟩, leads⟩, silent⟩
    · obtain rfl := Except.ok.inj told
      exact handOver_settles leads there rfl (silent.trans fresh) confined kept
    · cases impossible

theorem dispatch_settles (here : session.At 2 e) (initial : e.status = e.kind.lifecycle.initial)
    (fresh : session.orders = [])
    (confined : ∀ executor ∈ service.executor? session.world, executor.Confined)
    (kept : ∀ executor ∈ service.executor? session.world, executor.Kept Tables) :
    (service.dispatch e.owner e.id).Settles session e := by
  refine ((load_at here).leads.silent (load_steady _ _).apart).andThen
    (fun fault _ failed => (nomatch failed.1.1.1)) ?_
  rintro current middle ⟨⟨⟨told, there⟩, leads⟩, silent⟩
  obtain rfl := Except.ok.inj told
  dsimp only
  rw [if_pos initial]
  exact handOver_settles leads there initial (silent.trans fresh) confined kept

end Dispatches

theorem Executor.kept_in_memory (executor : Executor) : executor.Kept Memory := by
  intro calls e dispatch
  cases executor.start calls e dispatch with
  | reported outcome answer => cases outcome <;> trivial
  | _ => trivial

/-- Only errors of the store escape from dispatching. As long as the gate lets every write pass and
nobody else acts, work that is submitted under a free key, or dispatched in its initial status, ends
as it is stored, whatever the executor does, if errors of the store's own class are not among those
with which it takes work over. An error with which it has refused the work is on record. In a
database the times are universal, in years of four digits, and its JSON is read back. -/
theorem only_store_errors_escape (service : Service) (times : Nat → Time.Instant) :
    (∀ world : World Memory, (∀ executor ∈ service.executor? world, executor.Confined) →
      (∀ owner kind payload key, world.Free owner key →
        (service.submitAndDispatch owner kind payload key).Settles (.begin world times)
          ((Session.begin world times).submitted owner kind payload key)) ∧
      ∀ e, Stored world.store.tables e → e.status = e.kind.lifecycle.initial →
        (service.dispatch e.owner e.id).Settles (.begin world times) e) ∧
    ∀ world : World Database, world.store.tables.Legible → world.store.tables.Indexed →
      (∀ reading, Time.Rfc3339.InRange (times reading)) →
      (∀ executor ∈ service.executor? world, executor.Confined ∧ executor.Kept Database) →
      (∀ owner kind payload key, payload.Readable → world.Free owner key →
        (service.submitAndDispatch owner kind payload key).Settles (.begin world times)
          ((Session.begin world times).submitted owner kind payload key)) ∧
      ∀ e, Stored world.store.tables e → Database.Lasts 2 e →
        e.status = e.kind.lifecycle.initial →
        (service.dispatch e.owner e.id).Settles (.begin world times) e := by
  refine ⟨fun world confined => ⟨?_, ?_⟩, fun world legible indexed timely executors => ⟨?_, ?_⟩⟩
  · intro owner kind payload key free
    exact submitAndDispatch_settles ⟨trivial, free, trivial, fun _ => trivial⟩ rfl confined
      fun executor _ => executor.kept_in_memory
  · intro e stored initial
    exact dispatch_settles ⟨stored, trivial, fun _ => trivial⟩ initial rfl confined
      fun executor _ => executor.kept_in_memory
  · intro owner kind payload key readable free
    have sound : Faithful.Sound world.store.tables := ⟨legible, indexed⟩
    exact submitAndDispatch_settles ⟨sound, free, readable, timely⟩ rfl
      (fun executor inside => (executors executor inside).1)
      fun executor inside => (executors executor inside).2
  · intro e stored lasts initial
    exact dispatch_settles ⟨stored, lasts, timely⟩ initial rfl
      (fun executor inside => (executors executor inside).1)
      fun executor inside => (executors executor inside).2

/-- The executor is busy when the job is handed over, with a store of either kind. -/
theorem only_store_errors_escape_of_busy_executor :
    let owner : Owner := ⟨"acme", by decide⟩
    let service : Service := ⟨.default, ["remote"], by decide, nofun⟩
    let busy : Executor := ⟨"remote", fun _ _ => .ok "first", fun _ _ _ =>
      .answered (.error (.executorDispatchFailed "remote" "queue full"))⟩
    let times := fun _ : Nat => Time.Instant.epoch
    let memory : World Memory := .new (.new .always) [busy]
    let database : World Database := .new (.new .always) [busy]
    let call := service.submitAndDispatch owner .job .null (some "nightly")
    busy.Confined ∧ busy.Kept Database ∧ memory.Free owner (some "nightly") ∧
      database.Free owner (some "nightly") ∧
      (∃ final, Session.Settled ((Session.begin memory times).submitted owner .job .null
          (some "nightly")) (call.perform (.begin memory times)).1
          (call.perform (.begin memory times)).2 final ∧
        final.Declined "executor remote failed to dispatch: queue full") ∧
      ∃ final, Session.Settled ((Session.begin database times).submitted owner .job .null
        (some "nightly")) (call.perform (.begin database times)).1
        (call.perform (.begin database times)).2 final := by
  intro owner service busy times memory database call
  have confined : busy.Confined := fun _ _ _ => rfl
  have kept : busy.Kept Database := fun _ _ _ => trivial
  have inMemory : service.executor? memory = some busy := rfl
  have inDatabase : service.executor? database = some busy := rfl
  have freeInMemory : memory.Free owner (some "nightly") :=
    ⟨rfl, fun _ same => Option.some.inj same ▸ by decide, fun _ _ => rfl⟩
  have freeInDatabase : database.Free owner (some "nightly") :=
    ⟨rfl, fun _ same => Option.some.inj same ▸ by decide, fun _ _ => rfl⟩
  obtain ⟨final, settled, declined⟩ := ((only_store_errors_escape service times).1 memory
    fun executor inside => Option.some.inj (inMemory.symm.trans inside) ▸ confined).1
      owner .job .null (some "nightly") freeInMemory (Store.Gate.Open.letPass fun _ _ => rfl)
  have refusals : (call.perform (.begin memory times)).2.past.filterMap Exchange.declined? =
      [.executorDispatchFailed "remote" "queue full"] := by decide
  obtain ⟨exchange, inside, refused⟩ :=
    List.mem_filterMap.1 (refusals ▸ List.mem_singleton_self (Error.executorDispatchFailed _ _))
  obtain ⟨last, ended, _⟩ := ((only_store_errors_escape service times).2 database
    Database.legible_empty Database.indexed_empty (fun _ => Time.Rfc3339.inRange_epoch)
    fun executor inside => Option.some.inj (inDatabase.symm.trans inside) ▸ ⟨confined, kept⟩).1
      owner .job .null (some "nightly") Json.readable_null freeInDatabase
      (Store.Gate.Open.letPass fun _ _ => rfl)
  exact ⟨confined, kept, freeInMemory, freeInDatabase,
    ⟨final, settled, declined exchange inside _ refused⟩, last, ended⟩

/-- An executor that cannot reach its queue says so with an error of the store's own class. It is
answered as if the store had failed, and the job stays in progress although nobody works on it. -/
theorem unreachable_queue_leaves_job_running :
    let owner : Owner := ⟨"acme", by decide⟩
    let service : Service := ⟨.default, ["remote"], by decide, nofun⟩
    let remote : Executor := ⟨"remote", fun _ _ => .ok "first", fun _ _ _ =>
      .answered (.error (.io "queue unreachable"))⟩
    let session : Session Memory := .begin (.new (.new .always) [remote]) fun _ => .epoch
    let job := session.submitted owner .job .null none
    let call := service.submitAndDispatch owner .job .null none
    session.world.Free owner none ∧
      (call.perform session).1 = .error (.io "queue unreachable") ∧
      Stored (call.perform session).2.tables { job with
        status := .running, executor := some "remote", dispatch := some "first",
        startedAt := some .epoch, revision := 1 } ∧
      ¬call.Settles session job := by
  intro owner service remote session job call
  have answer : (call.perform session).1 = .error (.io "queue unreachable") := by decide
  have free : session.world.Free owner none := by
    refine ⟨rfl, fun _ impossible => ?_, fun _ impossible => ?_⟩
    · cases impossible
    · cases impossible
  refine ⟨free, answer, by decide, fun settles => ?_⟩
  obtain ⟨final, settled, _⟩ := settles (Store.Gate.Open.letPass fun _ _ => rfl)
  have both := answer.symm.trans settled.told
  cases both

end TenantWork.Service
