import TenantWork.Proofs.Calls.Refusals
/-!
A worker that finishes its work before it answers, and one that leaves it to be finished apart. To a
program that asks nothing of executors it makes no difference which ones there are and what is still
to be reported, so a report may as well be made after the call. When all is reported, store, gate
and ledger are the same; only what the caller is told may differ. This takes a thread that the
system starts: a refused one ends the work in failure, and one that cannot have its name breaks the
caller off.
-/
namespace TenantWork.Service

open Store (Storage Stored Memory)

/-! ## The same state -/

/-- Worlds that differ at most in their executors, in the outcomes that wait and in their clocks. -/
structure World.SameState {Tables : Type} (a b : World Tables) : Prop where
  store : b.store = a.store
  entityIds : b.entityIds = a.entityIds
  created : b.created = a.created
  calls : b.calls = a.calls
  ledger : b.ledger = a.ledger

/-- The same state with the same readings of the clock, so far and to come. -/
structure Session.SameState {Tables : Type} (a b : Session Tables) : Prop where
  world : a.world.SameState b.world
  times : b.times = a.times
  readings : b.readings = a.readings

section States

variable {Tables α : Type} {a b c : Session Tables}

theorem World.SameState.refl (world : World Tables) : world.SameState world :=
  ⟨rfl, rfl, rfl, rfl, rfl⟩

/-- What is left to be reported when an executor has answered. -/
def Start.waiting (address : Address) : Start → List (Address × Outcome)
  | .deferred outcome => [(address, outcome)]
  | _ => []

theorem World.start_world (world : World Tables) (name : String) (e : Entity) (dispatch : String) :
    (world.start name e dispatch).2 = { world with
      calls := .start name e dispatch :: world.calls
      waiting := world.waiting ++
        (world.start name e dispatch).1.waiting ⟨e.owner, e.id, dispatch⟩ } := by
  unfold World.start
  cases world.executor? name with
  | none => simp only [Start.waiting, List.append_nil]
  | some executor =>
    dsimp only
    cases executor.start world.calls e dispatch with
    | deferred outcome => rfl
    | _ => simp only [Start.waiting, List.append_nil]

namespace Session.SameState

theorem refl (session : Session Tables) : session.SameState session := ⟨.refl _, rfl, rfl⟩

theorem symm (same : a.SameState b) : b.SameState a :=
  ⟨⟨same.world.store.symm, same.world.entityIds.symm, same.world.created.symm,
    same.world.calls.symm, same.world.ledger.symm⟩, same.times.symm, same.readings.symm⟩

theorem trans (first : a.SameState b) (second : b.SameState c) : a.SameState c :=
  ⟨⟨second.world.store.trans first.world.store, second.world.entityIds.trans first.world.entityIds,
    second.world.created.trans first.world.created, second.world.calls.trans first.world.calls,
    second.world.ledger.trans first.world.ledger⟩, second.times.trans first.times,
    second.readings.trans first.readings⟩

variable [Storage Tables]

theorem answer (same : a.SameState b) {request : Request} (apart : request.isOrder = false) :
    (b.answer request).1 = (a.answer request).1 ∧
      (a.answer request).2.SameState (b.answer request).2 := by
  obtain ⟨⟨_, _, _, _, _, _, _, _⟩, _, _, _⟩ := a
  obtain ⟨⟨_, _, _, _, _, _, _, _⟩, _, _, _⟩ := b
  obtain ⟨⟨rfl, rfl, rfl, rfl, rfl⟩, rfl, rfl⟩ := same
  cases request with
  | reserve name e => cases apart
  | start name e dispatch => cases apart
  | _ => exact ⟨rfl, ⟨rfl, rfl, rfl, rfl, rfl⟩, rfl, rfl⟩

theorem start (same : a.SameState b) (name : String) (e : Entity) (dispatch : String) :
    (a.answer (.start name e dispatch)).2.SameState (b.answer (.start name e dispatch)).2 := by
  have left : (a.answer (.start name e dispatch)).2.world = _ :=
    World.start_world { a.world with clock := ⟨a.now, 0⟩ } name e dispatch
  have right : (b.answer (.start name e dispatch)).2.world = _ :=
    World.start_world { b.world with clock := ⟨b.now, 0⟩ } name e dispatch
  refine ⟨?_, same.times, same.readings⟩
  rw [left, right]
  exact ⟨same.world.store, same.world.entityIds, same.world.created,
    congrArg (ExecutorCall.start name e dispatch :: ·) same.world.calls, same.world.ledger⟩

end Session.SameState

theorem Session.start_waiting [Storage Tables] (session : Session Tables) (name : String)
    (e : Entity) (dispatch : String) : (session.answer (.start name e dispatch)).2.world.waiting =
      session.world.waiting ++
        (session.answer (.start name e dispatch)).1.waiting ⟨e.owner, e.id, dispatch⟩ :=
  congrArg World.waiting
    (World.start_world { session.world with clock := ⟨session.now, 0⟩ } name e dispatch)

/-- What a program that asks nothing of executors comes to depends on the state alone. -/
theorem Program.Apart.sameState [Storage Tables] {program : Program α} (apart : program.Apart)
    (same : a.SameState b) : (program.perform b).1 = (program.perform a).1 ∧
      (program.perform a).2.SameState (program.perform b).2 := by
  induction program generalizing a b with
  | done value => exact ⟨rfl, same⟩
  | ask request next ih =>
    obtain ⟨reply, onward⟩ := same.answer apart.1
    rw [perform, perform, reply]
    exact ih _ (apart.2 _) onward

theorem Program.Apart.waiting [Storage Tables] {program : Program α} (apart : program.Apart) :
    (program.perform a).2.world.waiting = a.world.waiting := by
  refine apart.keeps (P := fun after : Session Tables =>
    after.world.waiting = a.world.waiting) ?_ rfl
  intro between request other same
  rw [← same]
  cases request with
  | start name e dispatch => cases other
  | _ => rfl

theorem Program.Apart.calls [Storage Tables] {program : Program α} (apart : program.Apart) :
    (program.perform a).2.world.calls = a.world.calls := by
  refine apart.keeps (P := fun after : Session Tables =>
    after.world.calls = a.world.calls) ?_ rfl
  intro between request other same
  rw [← same]
  cases request with
  | reserve name e => cases other
  | start name e dispatch => cases other
  | _ => rfl

/-! ## Callers that are broken off -/

section Heard

variable [Storage Tables] {world : World Tables}

theorem World.executors_answer (world : World Tables) (request : Request) :
    (world.answer request).2.executors = world.executors := by
  cases request with
  | start name e dispatch =>
    show (world.start name e dispatch).2.executors = _
    rw [world.start_world]
  | _ => rfl

/-- A caller is broken off by an executor only. -/
theorem World.goesOn_answer
    (steadfast : ∀ executor ∈ world.executors, ∀ calls e dispatch,
      executor.start calls e dispatch ≠ .brokeOff) (request : Request) :
    request.goesOn (world.answer request).1 = true := by
  cases request with
  | start name e dispatch =>
    have stays : (world.start name e dispatch).1 ≠ .brokeOff := by
      unfold World.start
      cases found : world.executor? name with
      | none => exact fun broke => nomatch broke
      | some executor =>
        have never := steadfast executor (List.mem_of_find?_eq_some found) world.calls e dispatch
        dsimp only
        cases reply : executor.start world.calls e dispatch with
        | brokeOff => exact absurd reply never
        | _ => exact fun broke => nomatch broke
    show Request.goesOn (.start name e dispatch) (world.start name e dispatch).1 = true
    generalize (world.start name e dispatch).1 = reply at stays
    cases reply with
    | brokeOff => exact absurd rfl stays
    | _ => rfl
  | _ => rfl

/-- Where no executor breaks off, a caller hears what its program comes to. -/
theorem Program.heard_eq_run (program : Program α)
    (steadfast : ∀ executor ∈ world.executors, ∀ calls e dispatch,
      executor.start calls e dispatch ≠ .brokeOff) :
    program.heard world = some (program.run world).1 := by
  induction program generalizing world with
  | done value => rfl
  | ask request next ih =>
    rw [heard, run]
    dsimp only
    rw [if_pos (World.goesOn_answer steadfast request)]
    refine ih _ ?_
    rwa [World.executors_answer]

end Heard

/-! ## Reporting what waits -/

variable [Storage Tables]

/-- Reports all outcomes that wait, in order. -/
def Session.settle (session : Session Tables) : Session Tables :=
  session.world.waiting.foldl
    (fun session report => ((complete report.1 report.2).perform session).2)
    { session with world := { session.world with waiting := [] } }

theorem Session.settle_idle {session : Session Tables} (idle : session.world.waiting = []) :
    session.settle = session := by
  obtain ⟨⟨_, _, _, _, _, _, _, _⟩, _, _, _⟩ := session
  obtain rfl : _ = [] := idle
  rfl

theorem Session.settle_single {session : Session Tables} {report : Address × Outcome}
    (waits : session.world.waiting = [report]) : ∃ cleared, session.SameState cleared ∧
      session.settle = ((complete report.1 report.2).perform cleared).2 := by
  refine ⟨{ session with world := { session.world with waiting := [] } },
    ⟨⟨rfl, rfl, rfl, rfl, rfl⟩, rfl, rfl⟩, ?_⟩
  rw [settle, waits]
  rfl

theorem Session.reports_tick (reports : List (Address × Outcome)) {session : Session Tables}
    {clock : Time.Clock} (ticks : session.Ticks clock) :
    let after := reports.foldl (fun session report =>
      ((complete report.1 report.2).perform session).2) session
    ∃ later, reports.foldl (fun world report => ((complete report.1 report.2).run world).2)
        { session.world with clock } = { after.world with clock := later } ∧ after.Ticks later := by
  induction reports generalizing session clock with
  | nil => exact ⟨clock, rfl, ticks⟩
  | cons report rest ih =>
    obtain ⟨between, same, ticking⟩ := perform_ticks ticks (complete report.1 report.2)
    obtain ⟨later, reached, ends⟩ := ih ticking
    refine ⟨later, ?_, ends⟩
    rw [List.foldl_cons, same]
    exact reached

/-- In a session that shows the clock of its world, what waits is reported as in the world. -/
theorem Session.settle_ticks {session : Session Tables} {clock : Time.Clock}
    (ticks : session.Ticks clock) : ∃ later, { session.world with clock }.settle =
      { session.settle.world with clock := later } := by
  have cleared : Session.Ticks { session with world := { session.world with waiting := [] } }
    clock := ticks
  obtain ⟨later, same, _⟩ := reports_tick session.world.waiting cleared
  exact ⟨later, same⟩

end States

/-! ## The two modes -/

/-- The worker, with its handlers run at once or apart. -/
def Local.inMode (worker : Local) (mode : Mode) : Local := { worker with mode }

/-- The system starts the thread that the worker asks for under a dispatch. -/
structure Local.Starts (worker : Local) (threads : Threads) (dispatch : String) : Prop where
  named : isThreadName (worker.threadName dispatch) = true
  started : threads (worker.threadName dispatch) = .ok ()

/-- The same state, where one world has the worker run its handlers at once, and the other has it
run them apart and waits for nothing. -/
structure World.Modes {Tables : Type} (worker : Local) (threads : Threads) (ids : Nat → String)
    (atOnce apart : World Tables) : Prop where
  state : atOnce.SameState apart
  inline : atOnce.executor? worker.name = some ((worker.inMode .inline).executor ids)
  thread : apart.executor? worker.name = some ((worker.inMode (.thread threads)).executor ids)
  idle : apart.waiting = []

structure Session.Modes {Tables : Type} (worker : Local) (threads : Threads) (ids : Nat → String)
    (a b : Session Tables) : Prop where
  world : a.world.Modes worker threads ids b.world
  times : b.times = a.times
  readings : b.readings = a.readings

/-- The call with its work done at once, and with its work done apart. In the end the state is the
same. The answers are, or one tells of the work in progress and the other of the work finished, or
of the commit that was rejected with the work still in progress. -/
structure Agree (atOnce apart : Except Error Entity × Session Memory) : Prop where
  state : atOnce.2.SameState apart.2.settle
  told : apart.1 = atOnce.1 ∨ ∃ running, running.status = running.kind.lifecycle.running ∧
    apart.1 = .ok running ∧ (Session.Finished running atOnce.1 atOnce.2 ∨
      (∃ refusal, atOnce.1 = .error (.commitRejected refusal)) ∧ Stored atOnce.2.tables running)

section Worker

variable {worker : Local} {threads : Threads} {ids : Nat → String} {a b : Session Memory} {α : Type}

theorem Session.Modes.state (modes : a.Modes worker threads ids b) : a.SameState b :=
  ⟨modes.world.state, modes.times, modes.readings⟩

theorem Session.Modes.later {a' b' : Session Memory} (modes : a.Modes worker threads ids b)
    (state : a'.SameState b') (leadsA : a.Leads a') (leadsB : b.Leads b')
    (idle : b'.world.waiting = []) : a'.Modes worker threads ids b' :=
  ⟨⟨state.world, (leadsA.executor? _).trans modes.world.inline,
    (leadsB.executor? _).trans modes.world.thread, idle⟩, state.times, state.readings⟩

/-- A program that asks nothing of executors keeps the two together. -/
theorem Session.Modes.perform (modes : a.Modes worker threads ids b) {program : Program α}
    (apart : program.Apart) : (program.perform b).1 = (program.perform a).1 ∧
      (program.perform a).2.Modes worker threads ids (program.perform b).2 := by
  obtain ⟨value, same⟩ := apart.sameState modes.state
  exact ⟨value, modes.later same (a.perform_leads program) (b.perform_leads program)
    (apart.waiting.trans modes.world.idle)⟩

theorem Session.Modes.agree (modes : a.Modes worker threads ids b) {call : Call Entity}
    (apart : Program.Apart call) : Agree (call.perform a) (call.perform b) := by
  obtain ⟨value, onward⟩ := modes.perform apart
  refine ⟨?_, .inl value⟩
  rw [Session.settle_idle onward.world.idle]
  exact onward.state

/-- One that asks nothing of executors may come first. -/
theorem Session.Modes.agree_andThen (modes : a.Modes worker threads ids b) {call : Call α}
    {after : α → Call Entity} {between : Except Error α → Session Memory → Prop}
    (first : call.Performs a between) (apart : Program.Apart call)
    (rest : ∀ value a' b', between (.ok value) a' → a.Leads a' → a'.Modes worker threads ids b' →
      Agree ((after value).perform a') ((after value).perform b')) :
    Agree ((call.andThen after).perform a) ((call.andThen after).perform b) := by
  obtain ⟨value, onward⟩ := modes.perform apart
  have leads := a.perform_leads call
  unfold Program.Performs at first
  rw [Program.andThen, Program.perform_bind, Program.perform_bind, value]
  cases answered : (call.perform a).1 with
  | error fault =>
    have last : Program.Apart (.done (.error fault) : Call Entity) := trivial
    exact onward.agree last
  | ok value =>
    rw [answered] at first
    exact rest value _ _ first leads onward

theorem Local.start_missing {e : Entity} (missing : worker.handler e.kind = none) (mode : Mode)
    (dispatch : String) :
    (worker.inMode mode).start e dispatch = .answered (.error (worker.missing e.kind)) := by
  simp only [Local.start, Local.inMode, missing, Local.missing]

theorem Local.spawn_started {dispatch : String} (starts : worker.Starts threads dispatch)
    (outcome : Outcome) : worker.spawn threads dispatch outcome = .deferred outcome := by
  rw [spawn, if_pos starts.named, starts.started]

theorem Local.start_handled {e : Entity} {handler : Handler} {dispatch : String}
    (handles : worker.handler e.kind = some handler) (starts : worker.Starts threads dispatch) :
    (worker.inMode .inline).start e dispatch =
        .reported (handler e.owner e).outcome Local.afterReport ∧
      (worker.inMode (.thread threads)).start e dispatch =
        .deferred (handler e.owner e).outcome := by
  have same : (worker.inMode (.thread threads)).Starts threads dispatch :=
    ⟨starts.named, starts.started⟩
  simp only [Local.start, Local.inMode, handles, true_and]
  exact spawn_started same _

theorem load_state (session : Session Memory) (owner : Owner) (id : EntityId) :
    session.SameState ((load owner id).perform session).2 := by
  rw [load, Program.perform]
  cases (session.answer (.load id)).1 <;> exact ⟨⟨rfl, rfl, rfl, rfl, rfl⟩, rfl, rfl⟩

/-- What comes after a report from within the process changes nothing. -/
theorem afterReport_state (session : Session Memory) (running : Entity) (dispatch : Dispatch)
    (report : Except Error Entity) : session.SameState
      ((afterStart running dispatch (Local.afterReport report)).perform session).2 := by
  unfold Local.afterReport
  cases report with
  | ok done => exact load_state session _ _
  | error fault =>
    dsimp only
    split
    next own =>
      rw [afterStart, if_pos own]
      exact .refl session
    next => exact load_state session _ _

/-- A report that is made after the entity has been read for the caller comes to the same as one
that is made before. -/
theorem report_later {running : Entity} {dispatch : Dispatch} {address : Address}
    {outcome : Outcome} (same : a.SameState b) (waits : b.world.waiting = [(address, outcome)]) :
    Session.SameState
      (((complete address outcome).bind fun report =>
        afterStart running dispatch (Local.afterReport report)).perform a).2
      ((load running.owner running.id).perform b).2.settle := by
  have waits := (load_steady running.owner running.id).apart.waiting.trans waits
  obtain ⟨cleared, read, settled⟩ := Session.settle_single waits
  have before := (same.trans (load_state b running.owner running.id)).trans read
  obtain ⟨_, reported⟩ := (complete_steady address outcome).apart.sameState before
  rw [Program.perform_bind, settled]
  exact (afterReport_state _ running dispatch _).symm.trans reported

theorem start_agrees {running : Entity} {dispatch : String} (modes : a.Modes worker threads ids b)
    (starts : worker.Starts threads dispatch) (rejects : a.gate.Rejects)
    (begun : a.Begun running dispatch) :
    Agree ((start running worker.name dispatch).perform a)
      ((start running worker.name dispatch).perform b) := by
  have there : b.At 1 running := begun.here.of_same modes.world.state.store modes.times
  have replyA : (a.answer (.start worker.name running dispatch)).1 =
    (worker.inMode .inline).start running dispatch :=
      a.start_registered modes.world.inline running dispatch
  have replyB : (b.answer (.start worker.name running dispatch)).1 =
    (worker.inMode (.thread threads)).start running dispatch :=
      b.start_registered modes.world.thread running dispatch
  have state := modes.state.start worker.name running dispatch
  have waiting := b.start_waiting worker.name running dispatch
  rw [modes.world.idle, List.nil_append] at waiting
  cases handles : worker.handler running.kind with
  | none =>
    -- Neither has a handler, and both say so at once.
    rw [Local.start_missing handles] at replyA replyB
    rw [replyB] at waiting
    have onward := modes.later state (a.answer_leads _) (b.answer_leads _) waiting
    obtain ⟨next, asks, steady⟩ := start_steady running worker.name dispatch
    rw [asks, Program.perform, Program.perform, replyA, replyB]
    exact onward.agree (steady _).apart
  | some handler =>
    -- One reports before it answers; the report of the other is all that waits.
    obtain ⟨inline, thread⟩ := Local.start_handled handles starts
    have registered : a.world.executor? (worker.inMode .inline).name =
      some ((worker.inMode .inline).executor ids) := modes.world.inline
    have reached := start_reaches begun registered rfl
      (((worker.inMode .inline).executor ids).kept_in_memory [] running dispatch)
    rw [inline] at replyA
    rw [thread] at replyB
    rw [replyB] at waiting
    have handed := b.start_store worker.name running dispatch
    have loaded := load_at (there.of_same handed rfl)
    refine ⟨?_, .inr ⟨running, begun.status, ?_, ?_⟩⟩
    · rw [start, Program.perform, Program.perform, replyA, replyB]
      exact report_later state waiting
    · rw [start, Program.perform, replyB]
      exact loaded.1
    · obtain finished | shut := reached
      · exact .inl finished
      · exact .inr ⟨shut.rejected rejects, shut.here.stored⟩

/-- An id is reserved without regard to the mode. -/
theorem Session.Modes.reserve (modes : a.Modes worker threads ids b) (e : Entity) :
    (b.answer (.reserve worker.name e)).1 = (a.answer (.reserve worker.name e)).1 ∧
      (a.answer (.reserve worker.name e)).2.Modes worker threads ids
        (b.answer (.reserve worker.name e)).2 := by
  obtain ⟨⟨store, entityIds, created, calls, ledger⟩, inline, thread, idle⟩ := modes.world
  refine ⟨?_, ⟨⟨store, entityIds, created, congrArg (_ :: ·) calls, ledger⟩, inline, thread, idle⟩,
    modes.times, modes.readings⟩
  rw [a.reserve_registered inline, b.reserve_registered thread, calls]
  rfl

/-- The id that is reserved is the next one of the supply. -/
theorem Session.Modes.reserved (modes : a.Modes worker threads ids b) {e : Entity}
    {dispatch : String} (done : (a.answer (.reserve worker.name e)).1 = .ok dispatch) :
    dispatch = ids a.world.calls.length := by
  rw [a.reserve_registered modes.world.inline] at done
  unfold Local.executor at done
  dsimp only at done
  split at done
  · exact (Except.ok.inj done).symm
  · cases done

theorem handOver_agrees {service : Service} {e : Entity} (modes : a.Modes worker threads ids b)
    (chosen : service.chosen = some worker.name)
    (starts : worker.Starts threads (ids a.world.calls.length)) (rejects : a.gate.Rejects) :
    Agree ((service.handOver e).perform a) ((service.handOver e).perform b) := by
  obtain ⟨reply, reserved⟩ := modes.reserve e
  have next (dispatch : String) (done : (a.answer (.reserve worker.name e)).1 = .ok dispatch) :
      dispatch = ids a.world.calls.length := modes.reserved done
  have rejects : (a.answer (.reserve worker.name e)).2.gate.Rejects := rejects
  unfold handOver
  rw [chosen]
  dsimp only
  rw [Program.perform, Program.perform, reply]
  generalize (a.answer (.reserve worker.name e)).2 = a' at reserved rejects
  generalize (b.answer (.reserve worker.name e)).2 = b' at reserved
  cases done : (a.answer (.reserve worker.name e)).1 with
  | error fault => exact reserved.agree (failDispatch_steady _ _ _).apart
  | ok dispatch =>
    obtain rfl := next dispatch done
    refine reserved.agree_andThen commit_durable (commit_steady _ _).apart ?_
    intro running before after durable leads modes
    obtain ⟨now, next, applied, rfl, stored, _⟩ := durable running rfl
    obtain ⟨status, _, carries⟩ := Entity.apply_given applied rfl rfl
    exact start_agrees modes starts (rejects.later leads.gate)
      ⟨⟨stored, trivial, fun _ => trivial⟩, status, carries⟩

theorem submitAndDispatch_agrees {service : Service} (modes : a.Modes worker threads ids b)
    (chosen : service.chosen = some worker.name)
    (starts : worker.Starts threads (ids a.world.calls.length)) (rejects : a.gate.Rejects)
    (owner : Owner) (kind : Kind) (payload : Json) (key : Option String) :
    Agree ((service.submitAndDispatch owner kind payload key).perform a)
      ((service.submitAndDispatch owner kind payload key).perform b) := by
  have asked : (service.place owner kind payload key).Performs a fun _ after =>
      after.world.calls = a.world.calls := (place_apart _ _ _ _ _).calls
  refine modes.agree_andThen asked (place_apart _ _ _ _ _) ?_
  intro placed before after calls leads modes
  rw [← calls] at starts
  cases placed with
  | created e => exact handOver_agrees modes chosen starts (rejects.later leads.gate)
  | replayed e => exact modes.agree trivial

theorem dispatch_agrees {service : Service} (modes : a.Modes worker threads ids b)
    (chosen : service.chosen = some worker.name)
    (starts : worker.Starts threads (ids a.world.calls.length)) (rejects : a.gate.Rejects)
    (owner : Owner) (id : EntityId) :
    Agree ((service.dispatch owner id).perform a) ((service.dispatch owner id).perform b) := by
  have asked : (load owner id).Performs a fun _ after => after.world.calls = a.world.calls :=
    (load_steady _ _).apart.calls
  refine modes.agree_andThen asked (load_steady _ _).apart ?_
  intro current before after calls leads modes
  rw [← calls] at starts
  dsimp only
  split
  · exact handOver_agrees modes chosen starts (rejects.later leads.gate)
  · exact modes.agree trivial

end Worker

/-- Whatever the clock shows, the two modes agree on the call; with clocks that tick by themselves,
in the worlds too, once everything that waits is reported. -/
def Program.SameInModes (atOnce apart : World Memory) (call : Call Entity) : Prop :=
  (∀ times, Agree (call.perform (.begin atOnce times)) (call.perform (.begin apart times))) ∧
    (apart.clock = atOnce.clock → (call.run atOnce).2.SameState (call.run apart).2.settle)

/-- A run in a world is a session that shows the world's clock. -/
theorem Program.run_begin {Tables α : Type} [Storage Tables] (world : World Tables)
    (program : Program α) :
    let after := (program.perform (.begin world fun n => (ticked world.clock n).now)).2
    ∃ later, (program.run world).2 = { after.world with clock := later } ∧ after.Ticks later := by
  have ticks : (Session.begin world fun n => (ticked world.clock n).now).Ticks world.clock := by
    intro n
    show (ticked world.clock (0 + n)).now = _
    rw [Nat.zero_add]
  obtain ⟨later, same, ticking⟩ := Session.perform_ticks ticks program
  exact ⟨later, congrArg Prod.snd same, ticking⟩

theorem Program.sameInModes {atOnce apart : World Memory} {call : Call Entity}
    (agree : ∀ times,
      Agree (call.perform (.begin atOnce times)) (call.perform (.begin apart times))) :
    call.SameInModes atOnce apart := by
  refine ⟨agree, fun clock => ?_⟩
  obtain ⟨_, ranA, _⟩ := call.run_begin atOnce
  obtain ⟨_, ranB, ticking⟩ := call.run_begin apart
  rw [clock] at ranB ticking
  obtain ⟨_, settled⟩ := Session.settle_ticks ticking
  obtain ⟨store, entityIds, created, calls, ledger⟩ := (agree _).state.world
  rw [ranA, ranB, settled]
  exact ⟨store, entityIds, created, calls, ledger⟩

/-- A worker within the process comes to the same in either mode, if the system starts the thread
that it asks for. From any state in which nothing waits, whatever its handlers do and whichever
commits the gate rejects, a dispatch whose handler is run apart, with its outcome reported after the
call, leaves the same tables, the same calls of the gate and of executors and the same updates told
to observers as one whose handler is run at once. Only the answers may differ: work in progress in
place of finished work or of a rejected report. -/
theorem modes_agree (service : Service) (worker : Local) (threads : Threads) (ids : Nat → String)
    (atOnce apart : World Memory) (modes : atOnce.Modes worker threads ids apart)
    (chosen : service.chosen = some worker.name)
    (starts : worker.Starts threads (ids atOnce.calls.length))
    (rejects : atOnce.store.gate.Rejects) :
    (∀ owner kind payload key,
      (service.submitAndDispatch owner kind payload key).SameInModes atOnce apart) ∧
    ∀ owner id, (service.dispatch owner id).SameInModes atOnce apart := by
  have begins (times : Nat → Time.Instant) :
      (Session.begin atOnce times).Modes worker threads ids (.begin apart times) :=
    ⟨modes, rfl, rfl⟩
  refine ⟨fun owner kind payload key => ?_, fun owner id => ?_⟩
  · exact Program.sameInModes fun times =>
      submitAndDispatch_agrees (begins times) chosen starts rejects owner kind payload key
  · exact Program.sameInModes fun times =>
      dispatch_agrees (begins times) chosen starts rejects owner id

/-- The handler breaks off, and the third write, its report, is rejected. -/
theorem modes_agree_when_report_rejected :
    let owner : Owner := ⟨"acme", by decide⟩
    let worker : Local := ⟨"local", .inline, fun _ => some fun _ _ => .panicked (some "boom")⟩
    let service : Service := ⟨.default, ["local"], by decide, nofun⟩
    let threads : Threads := fun _ => .ok ()
    let ids := fun n : Nat => toString n
    let atOnce : World Memory := .new (.new (.failingAt 3)) [(worker.inMode .inline).executor ids]
    let apart : World Memory :=
      .new (.new (.failingAt 3)) [(worker.inMode (.thread threads)).executor ids]
    let call := service.submitAndDispatch owner .job .null none
    atOnce.Modes worker threads ids apart ∧
      worker.Starts threads (ids atOnce.calls.length) ∧ atOnce.store.gate.Rejects ∧
      (call.run atOnce).1 = .error (.commitRejected (.injected 3 .update "0")) ∧
      (call.run apart).1.map Entity.status = .ok .running ∧ call.SameInModes atOnce apart := by
  intro owner worker service threads ids atOnce apart call
  have modes : atOnce.Modes worker threads ids apart :=
    ⟨⟨rfl, rfl, rfl, rfl, rfl⟩, rfl, rfl, rfl⟩
  have starts : worker.Starts threads (ids atOnce.calls.length) := ⟨by decide, rfl⟩
  have rejects : atOnce.store.gate.Rejects := Store.Gate.failingAt_rejects 3
  exact ⟨modes, starts, rejects, by decide, by decide,
    (modes_agree service worker threads ids atOnce apart modes rfl starts rejects).1 owner .job .null
      none⟩

/-- Without a thread the modes do not agree. One that the system refuses ends the work in failure,
where a handler that is run at once would have finished it. One that cannot have its name breaks the
caller off, who hears nothing, and leaves the work in progress for good. -/
theorem modes_differ_without_thread :
    let owner : Owner := ⟨"acme", by decide⟩
    let worker (name : String) : Local := ⟨name, .inline, fun _ => some Local.echo⟩
    let service (name : String) : Service := ⟨.default, [name], List.nodup_singleton _, nofun⟩
    let starting : Threads := fun _ => .ok ()
    let refusing : Threads := fun _ => .error "Resource temporarily unavailable (os error 11)"
    let ids := fun n : Nat => toString n
    let world (name : String) (mode : Mode) : World Memory :=
      .new (.new Store.Gate.always) [((worker name).inMode mode).executor ids]
    let call (name : String) := (service name).submitAndDispatch owner .job .null none
    let after (name : String) (mode : Mode) := ((call name).run (world name mode)).2.settle
    let status (world : World Memory) := (world.store.get ⟨"0"⟩).map (Option.map Entity.status)
    ((world "local" .inline).Modes (worker "local") refusing ids
        (world "local" (.thread refusing)) ∧
      status (after "local" .inline) = .ok (some .succeeded) ∧
      status (after "local" (.thread refusing)) = .ok (some .failed) ∧
      ¬(after "local" .inline).SameState (after "local" (.thread refusing))) ∧
    (world "a\x00b" .inline).Modes (worker "a\x00b") starting ids
        (world "a\x00b" (.thread starting)) ∧
      (call "a\x00b").heard (world "a\x00b" (.thread starting)) = none ∧
      status (after "a\x00b" .inline) = .ok (some .succeeded) ∧
      status (after "a\x00b" (.thread starting)) = .ok (some .running) ∧
      ¬(after "a\x00b" .inline).SameState (after "a\x00b" (.thread starting)) := by
  intro owner worker service starting refusing ids world call after status
  have differ {a b : World Memory} {x y : Status} (first : status a = .ok (some x))
      (second : status b = .ok (some y)) (apart : x ≠ y) : ¬a.SameState b := by
    intro same
    have equal : status b = status a := by
      show (b.store.get _).map _ = (a.store.get _).map _
      rw [same.store]
    rw [first, second] at equal
    exact apart (Option.some.inj (Except.ok.inj equal)).symm
  have finished : status (after "local" .inline) = .ok (some .succeeded) := by decide
  have refused : status (after "local" (.thread refusing)) = .ok (some .failed) := by decide
  have named : status (after "a\x00b" .inline) = .ok (some .succeeded) := by decide
  have stuck : status (after "a\x00b" (.thread starting)) = .ok (some .running) := by decide
  exact ⟨⟨⟨⟨rfl, rfl, rfl, rfl, rfl⟩, rfl, rfl, rfl⟩, finished, refused,
      differ finished refused (by decide)⟩,
    ⟨⟨rfl, rfl, rfl, rfl, rfl⟩, rfl, rfl, rfl⟩, by decide, named, stuck,
    differ named stuck (by decide)⟩

end TenantWork.Service
