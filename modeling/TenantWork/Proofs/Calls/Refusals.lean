import TenantWork.Proofs.Calls.Dispatching
import TenantWork.Proofs.Calls.Levels
import TenantWork.Proofs.Schedule.HandOver
/-!
Dispatching within the process while the gate may refuse any write. Whichever writes it lets pass, a
call that ends well has finished the work, and one that ends in a refusal leaves the work behind as
the last write that passed: not there at all, waiting, or in progress without an outcome. The
handler is asked once at most, and only for work whose running status is durable.
-/
namespace TenantWork

namespace Store.Gate

/-- Every error of the gate says that it has rejected the commit. -/
def Rejects (gate : Gate) : Prop :=
  ∀ calls call fault, gate.rule calls call = .error fault →
    ∃ refusal, fault = .commitRejected refusal

theorem Rejects.shutOut {a b : Gate} {fault : Error} (rejects : a.Rejects)
    (shut : a.ShutOut b fault) : ∃ refusal, fault = .commitRejected refusal := by
  obtain ⟨calls, call, _, _, refused⟩ := shut
  exact rejects calls call fault refused

theorem Rejects.later {a b : Gate} (rejects : a.Rejects) (leads : a.Leads b) : b.Rejects := by
  intro calls call fault refused
  rw [leads.rule] at refused
  exact rejects calls call fault refused

theorem failingAt_rejects (number : Nat) : (failingAt number).Rejects := by
  intro calls call fault refused
  have refused : refusing number calls call = .error fault := refused
  unfold refusing at refused
  split at refused
  · exact ⟨_, (Except.error.inj refused).symm⟩
  · cases refused

end Store.Gate

namespace Entity

/-- Nothing has come of the work: it waits as it was created, or it is in progress. -/
structure Pending (e : Entity) : Prop where
  result : e.result = none
  errorCode : e.errorCode = none
  errorMessage : e.errorMessage = none
  finishedAt : e.finishedAt = none
  stage : e.status = e.kind.lifecycle.initial ∧ e.revision = 0 ∨
    e.status = e.kind.lifecycle.running ∧ e.revision = 1

theorem WellFormed.pending {e : Entity} (formed : e.WellFormed)
    (stage : e.status = e.kind.lifecycle.initial ∧ e.revision = 0 ∨
      e.status = e.kind.lifecycle.running ∧ e.revision = 1) : e.Pending := by
  have unfinished : e.isFinished = false := by
    obtain ⟨status, _⟩ | ⟨status, _⟩ := stage
    · rw [isFinished, status, Kind.initial_unfinished]
    · rw [isFinished, status, Kind.running_unfinished]
  have success : e.status ≠ e.kind.lifecycle.success := fun same => by
    rw [isFinished, same, Kind.success_finished] at unfinished
    cases unfinished
  have failure : e.status ≠ e.kind.lifecycle.failure := fun same => by
    rw [isFinished, same, Kind.failure_finished] at unfinished
    cases unfinished
  obtain ⟨code, message⟩ := formed.no_error failure
  exact ⟨formed.no_result success, code, message, formed.unfinishedAt unfinished, stage⟩

end Entity

namespace Service

open Store (Storage Faithful Stored Memory)

section Refused

variable {Tables : Type} [Storage Tables] [Faithful Tables] {session : Session Tables}
  {e running : Entity} {service : Service} {worker : Local} {ids : Nat → String}

theorem Session.Shut.rejected {α : Type} {n : Nat} {answer : Except Error α}
    {after : Session Tables} (shut : session.Shut n e answer after)
    (rejects : session.gate.Rejects) :
    ∃ refusal, answer = .error (.commitRejected refusal) := by
  obtain ⟨fault, refused, answers⟩ := shut.fault
  obtain ⟨refusal, rfl⟩ := rejects.shutOut refused
  exact ⟨refusal, answers rfl⟩

/-! ## A worker within the process -/

/-- Work in progress has come to its end, and the caller is told so. -/
def Session.Finished (running : Entity) (answer : Except Error Entity) (after : Session Tables) :
    Prop :=
  ∃ target final, running.Enters target final ∧
    (target = running.kind.lifecycle.success ∨ target = running.kind.lifecycle.failure) ∧
    answer = .ok final ∧ after.At 0 final

/-- Where a dispatch may end: the work is finished, or the gate has shut out a write before the work
was in progress, or after. -/
def Session.Reached (session : Session Tables) (e : Entity) (answer : Except Error Entity)
    (after : Session Tables) : Prop :=
  (∃ running, e.Enters e.kind.lifecycle.running running ∧
    (Session.Finished running answer after ∨ session.Shut 1 running answer after)) ∨
  session.Shut 2 e answer after

/-- Having no handler is answered at once; a handler's outcome is reported before the answer. -/
theorem Local.start_inline (atOnce : worker.mode = .inline) (e : Entity) (dispatch : String) :
    worker.start e dispatch = .answered (.error (worker.missing e.kind)) ∨
      ∃ outcome, worker.start e dispatch = .reported outcome Local.afterReport := by
  unfold Local.start
  rw [atOnce]
  cases worker.handler e.kind with
  | none => exact .inl rfl
  | some handler => exact .inr ⟨_, rfl⟩

/-- A report that the gate has shut out is passed on to the caller. -/
theorem afterReport_shut {before : Session Tables} {report : Except Error Entity}
    (shut : before.Shut 1 running report session) (dispatch : Dispatch) :
    (afterStart running dispatch (Local.afterReport report)).Performs session
      (before.Shut 1 running) := by
  obtain ⟨fault, refused, answers⟩ := shut.fault
  -- An error of the store's own class is the report itself, so it is not dropped.
  have dropped (answered : Local.afterReport report = .ok ()) (own : fault.isPersistence = true) :
      False := by
    rw [answers own, Local.afterReport, if_pos own] at answered
    cases answered
  cases answered : Local.afterReport report with
  | ok done =>
    refine (load_at shut.here).leads.weaken ?_
    rintro answer after ⟨⟨_, still⟩, leads⟩
    exact ⟨still, fault, refused.later leads.gate, fun own => (dropped answered own).elim⟩
  | error cause =>
    obtain ⟨own, rfl⟩ : cause.isPersistence = true ∧ report = .error cause := by
      unfold Local.afterReport at answered
      split at answered
      · cases answered
      · split at answered
        next own =>
          obtain rfl := Except.error.inj answered
          exact ⟨own, rfl⟩
        next => cases answered
    rw [afterStart, if_pos own]
    refine ⟨shut.here, fault, refused, fun ours => ?_⟩
    obtain rfl := Except.error.inj (answers ours)
    rfl

theorem start_reaches {dispatch : String} (begun : session.Begun running dispatch)
    (registered : session.world.executor? worker.name = some (worker.executor ids))
    (atOnce : worker.mode = .inline) (kept : (worker.start running dispatch).Kept Tables) :
    (start running worker.name dispatch).Performs session fun answer after =>
      Session.Finished running answer after ∨ session.Shut 1 running answer after := by
  obtain ⟨here, status, carries⟩ := begun
  have store := session.start_store worker.name running dispatch
  have there : (session.answer (.start worker.name running dispatch)).2.At 1 running :=
    here.of_same store rfl
  have leads := session.answer_leads (.start worker.name running dispatch)
  have reply : (session.answer (.start worker.name running dispatch)).1 =
      worker.start running dispatch := session.start_registered registered running dispatch
  unfold start
  rw [Program.performs_ask, reply]
  generalize (session.answer (.start worker.name running dispatch)).2 = handed at there leads
  obtain answered | ⟨outcome, reported⟩ := Local.start_inline atOnce running dispatch
  · rw [answered]
    dsimp only
    rw [afterStart_declines status rfl]
    refine (decline_moves there status).weaken ?_
    rintro answer after (⟨final, ends, _, told, last⟩ | shut)
    · exact .inl ⟨_, final, ends, .inr rfl, told, last⟩
    · exact .inr (shut.earlier leads)
  · rw [reported] at kept ⊢
    refine (complete_moves there status carries kept).leads.bind ?_
    rintro report middle ⟨⟨final, ends, rfl, last⟩ | shut, onward⟩
    · refine (load_work last ends.work).weaken ?_
      rintro answer after ⟨told, still⟩
      exact .inl ⟨_, final, ends, outcome.target_cases running.kind, told, still⟩
    · refine (afterReport_shut shut _).weaken ?_
      rintro answer after shut
      exact .inr (shut.earlier leads)

/-- Only the gate keeps a worker within the process from finishing what it is handed. -/
theorem handOver_reaches (here : session.At 2 e) (initial : e.status = e.kind.lifecycle.initial)
    (serves : service.chosen = none ∨ service.WorksInline session.world.executors worker ids)
    (kept : ∀ e dispatch, (worker.start e dispatch).Kept Tables) :
    (service.handOver e).Performs session (session.Reached e) := by
  have fails {asked : Session Tables} {dispatch : Option Dispatch} {reason : String}
      (there : asked.At 2 e) (leads : session.Leads asked) :
      (failDispatch e dispatch reason).Performs asked (session.Reached e) := by
    refine (failDispatch_moves there initial).weaken ?_
    rintro answer after (⟨running, final, begins, ends, _, told, last⟩ | shut |
      ⟨running, begins, shut⟩)
    · exact .inl ⟨running, begins, .inl ⟨_, final, ends, .inr rfl, told, last⟩⟩
    · exact .inr (shut.earlier leads)
    · exact .inl ⟨running, begins, .inr (shut.earlier leads)⟩
  refine handOver_moves here initial (fun _ => fails here (.refl session)) ?_ ?_ ?_
  · intro executor fault asked _ there leads _
    exact fails there leads
  · intro fault after shut
    exact .inr shut
  · intro executor dispatch running middle chosen begins begun leads _
    obtain unchosen | works := serves
    · rw [unchosen] at chosen
      cases chosen
    · obtain rfl := Option.some.inj (works.chosen.symm.trans chosen)
      have registered := (leads.executor? worker.name).trans works.registered
      refine (start_reaches begun registered works.atOnce (kept _ _)).weaken ?_
      rintro answer after (finished | shut)
      · exact .inl ⟨running, begins, .inl finished⟩
      · exact .inl ⟨running, begins, .inr (shut.earlier leads)⟩

end Refused

/-! ## What is created, and under which key -/

section Created

variable {Tables : Type} [Storage Tables] {service : Service}

/-- Asks for no new entry of a key and gives none up. -/
theorem handOver_keepsKeys (e : Entity) :
    (service.handOver e).Asks fun request => request.changesKeys = false := by
  unfold handOver
  split
  next => exact (failDispatch_steady _ _ _).weaken fun _ => And.right
  next executor _ =>
    refine ⟨rfl, fun reply => ?_⟩
    cases reply with
    | error fault => exact (failDispatch_steady _ _ _).weaken fun _ => And.right
    | ok dispatch =>
      refine ((commit_steady _ _).weaken fun _ => And.right).andThen fun running => ?_
      obtain ⟨next, asks, steady⟩ := start_steady running executor dispatch
      rw [asks]
      exact ⟨rfl, fun reply => (steady reply).weaken fun _ => And.right⟩

theorem Program.Asks.creations {α : Type} {session : Session Tables} {program : Program α}
    (asks : program.Asks fun request => request.changesKeys = false) :
    program.Performs session fun _ after => after.creations = session.creations := by
  refine asks.keeps (P := fun after => after.creations = session.creations) ?_ rfl
  intro between request other same
  rw [← same]
  refine List.filterMap_cons_none ?_
  cases request with
  | insert e => cases other
  | _ => rfl

theorem Program.Asks.keys {α : Type} {session : Session Memory} {program : Program α}
    (asks : program.Asks fun request => request.changesKeys = false) :
    program.Performs session fun _ after => after.tables.keys = session.tables.keys := by
  refine asks.keeps (P := fun after : Session Memory =>
    after.tables.keys = session.tables.keys) ?_ rfl
  intro between request other same
  rw [← same]
  cases request with
  | insert e => cases other
  | delete id => cases other
  | save e =>
    obtain ⟨_, _, unchanged⟩ | ⟨_, _, _, _, _, put⟩ := Memory.save_cases between.world.store e
    · exact congrArg Memory.keys unchanged
    · exact (congrArg Memory.keys put).trans (Memory.keys_put _ _)
  | start name e dispatch =>
    exact congrArg (fun store => store.tables.keys) (between.start_store name e dispatch)
  | _ => rfl

end Created

/-! ## Handing over once -/

/-- Every hand-over is the first, and it is of work whose running status is durable. -/
def HandsOverOnce : List Exchange → Prop
  | [] => True
  | exchange :: earlier => HandsOverOnce earlier ∧ ∀ executor running dispatch,
      exchange.request = .start executor running dispatch →
        Handed earlier executor running dispatch

section Once

variable {session : Session Memory} {service : Service}

theorem Early.handsOverOnce {past : List Exchange} (early : Early past) : HandsOverOnce past := by
  induction past with
  | nil => trivial
  | cons exchange earlier ih =>
    obtain ⟨now, before⟩ := List.forall_mem_cons.1 early
    refine ⟨ih before, fun executor running dispatch same => ?_⟩
    obtain ⟨request, reply⟩ := exchange
    obtain rfl : request = _ := same
    cases now

theorem Program.Apart.handsOverOnce {Tables α : Type} [Storage Tables] {session : Session Tables}
    {program : Program α} (apart : program.Apart) (once : HandsOverOnce session.past) :
    program.Performs session fun _ after => HandsOverOnce after.past := by
  refine apart.keeps (P := fun after : Session Tables => HandsOverOnce after.past) ?_ once
  intro between request other before
  refine ⟨before, fun executor running dispatch same => ?_⟩
  obtain rfl : request = _ := same
  cases other

/-- The key of new work leads to it, and all that came before may come before a hand-over. -/
def Session.Opened (before : Session Memory) (owner : Owner) (key : Option String)
    (answer : Except Error Submission) (after : Session Memory) : Prop :=
  ∀ e, answer = .ok (.created e) →
    (∀ text, key = some text → after.tables.keys.find? (owner, text) = some e.id) ∧
      (Early before.past → Early after.past)

theorem insertNew_opens {owner : Owner} {kind : Kind} {payload : Json} {key : Option String} :
    (insertNew owner kind payload key).Performs session (session.Opened owner key) := by
  let named := (session.answer .readClock).2.answer .newId
  let e : Entity := .create named.1 owner kind payload key (session.answer .readClock).1
  have past : (named.2.answer (.insert e)).2.past =
      ⟨.insert e, (named.2.answer (.insert e)).1⟩ :: named.2.past := rfl
  unfold insertNew
  rw [Program.performs_ask, Program.performs_ask, Program.performs_ask]
  obtain ⟨fault, reply, _⟩ | ⟨held, _, same⟩ | ⟨_, _, reply, entered⟩ :=
    Memory.insert_cases session.world.store e
  · have reply : (named.2.answer (.insert e)).1 = .error fault := reply
    rw [reply]
    exact fun _ impossible => (nomatch impossible)
  · have reply : (named.2.answer (.insert e)).1 = .ok (.existing held) := congrArg Prod.fst same
    rw [reply]
    exact fun _ impossible => (nomatch impossible)
  · have reply : (named.2.answer (.insert e)).1 = .ok (.inserted e) := reply
    have entered : (named.2.answer (.insert e)).2.tables = (session.tables.put e).claim e := entered
    rw [reply] at past ⊢
    rintro _ told
    obtain rfl := Submission.created.inj (Except.ok.inj told)
    refine ⟨fun text carries => ?_, fun early => ?_⟩
    · show (named.2.answer (.insert e)).2.tables.keys.find? (owner, text) = some e.id
      rw [entered, Memory.find_keys_claim, if_pos ⟨rfl, carries⟩]
    · show Early (named.2.answer (.insert e)).2.past
      rw [past]
      exact ((early.cons rfl).cons rfl).cons rfl

theorem place_opens {owner : Owner} {kind : Kind} {payload : Json} {key : Option String} :
    (service.place owner kind payload key).Performs session (session.Opened owner key) := by
  unfold place
  cases key with
  | none => exact insertNew_opens
  | some text =>
    dsimp only
    split
    · exact fun _ impossible => (nomatch impossible)
    · refine Program.performs_ask.2 ?_
      have past : (session.answer (.find owner text)).2.past =
        ⟨.find owner text, (session.answer (.find owner text)).1⟩ :: session.past := rfl
      rcases reply : (session.answer (.find owner text)).1 with fault | _ | existing
      · exact fun _ impossible => (nomatch impossible)
      · refine insertNew_opens.weaken fun answer after opened e told => ?_
        obtain ⟨leads, early⟩ := opened e told
        rw [past, reply] at early
        exact ⟨leads, fun before => early (before.cons rfl)⟩
      · intro e told
        have told : service.replay existing kind payload text = .ok (.created e) := told
        unfold replay at told
        split at told <;> cases told

/-- What a durable transition leaves in the store and in the past. -/
theorem commit_durable {current : Entity} {request : Transition} :
    (commit current request).Performs session fun answer after => ∀ e, answer = .ok e →
      ∃ now next, current.apply request now = .ok next ∧ e = next.bumped ∧
        Stored after.tables e ∧ after.past = ⟨.observe current e, ()⟩ :: ⟨.save next, .ok e⟩ ::
          ⟨.readClock, now⟩ :: session.past := by
  refine Program.performs_ask.2 ?_
  cases applied : current.apply request (session.answer .readClock).1 with
  | error fault => exact fun _ impossible => (nomatch impossible)
  | ok next =>
    refine Program.performs_ask.2 ?_
    let clocked := (session.answer .readClock).2
    obtain ⟨fault, reply, _⟩ | ⟨_, _, _, _, reply, put⟩ :=
      Memory.save_cases session.world.store next
    · have reply : (clocked.answer (.save next)).1 = .error fault := reply
      rw [reply]
      cases fault <;> exact fun _ impossible => (nomatch impossible)
    · have reply : (clocked.answer (.save next)).1 = .ok next.bumped := reply
      have past : (clocked.answer (.save next)).2.past =
        ⟨.save next, (clocked.answer (.save next)).1⟩ :: clocked.past := rfl
      have put : (clocked.answer (.save next)).2.tables = session.tables.put next.bumped := put
      rw [reply] at past ⊢
      rintro e told
      obtain rfl := Except.ok.inj told
      refine ⟨_, next, applied, rfl, congrArg Except.ok ?_, congrArg _ past⟩
      show (clocked.answer (.save next)).2.tables.get next.bumped.id = _
      rw [put, Memory.get_put, if_pos rfl]

theorem handOver_once {e : Entity} (early : Early session.past) :
    (service.handOver e).Performs session fun _ after => HandsOverOnce after.past := by
  unfold handOver
  split
  next => exact (failDispatch_steady _ _ _).apart.handsOverOnce early.handsOverOnce
  next executor _ =>
    have past : (session.answer (.reserve executor e)).2.past =
      ⟨.reserve executor e, (session.answer (.reserve executor e)).1⟩ :: session.past := rfl
    have asked : HandsOverOnce (session.answer (.reserve executor e)).2.past :=
      ⟨early.handsOverOnce, fun _ _ _ same => (nomatch same)⟩
    rw [Program.performs_ask]
    generalize (session.answer (.reserve executor e)).2 = reserving at past asked
    cases reply : (session.answer (.reserve executor e)).1 with
    | error fault => exact (failDispatch_steady _ _ _).apart.handsOverOnce asked
    | ok dispatch =>
      rw [reply] at past
      refine (commit_durable.both ((commit_steady _ _).apart.handsOverOnce asked)).andThen
        (fun _ _ ended => ended.2) ?_
      rintro running middle ⟨recorded, once⟩
      obtain ⟨now, next, applied, rfl, _, before⟩ := recorded running rfl
      have handed : Handed middle.past executor next.bumped dispatch := by
        rw [before, past]
        exact early.handed applied
      have after : HandsOverOnce (middle.answer (.start executor next.bumped dispatch)).2.past := by
        refine ⟨once, fun _ _ _ same => ?_⟩
        obtain ⟨rfl, rfl, rfl⟩ := Request.start.inj same
        exact handed
      obtain ⟨next', asks, steady⟩ := start_steady next.bumped executor dispatch
      rw [asks, Program.performs_ask]
      exact (steady _).apart.handsOverOnce after

end Once

/-! ## Whole submissions -/

/-- The stored snapshot of work that has come to its end, in the second update since it was new. -/
structure Session.Completed (e : Entity) (after : Session Memory) (final : Entity) : Prop where
  stored : Stored after.tables final
  work : final.asCreated = e.asCreated
  revision : final.revision = 2
  status : final.status = final.kind.lifecycle.success ∨ final.status = final.kind.lifecycle.failure

/-- The stored snapshot of work that nothing has come of, found under its key if it has one. -/
structure Session.Left (e : Entity) (after : Session Memory) (current : Entity) : Prop where
  stored : Stored after.tables current
  work : current.asCreated = e.asCreated
  bound : ∀ text, current.key = some text →
    Storage.find after.tables current.owner text = .ok (some current)
  pending : current.Pending

section Submissions

variable {session : Session Memory} {e : Entity} {service : Service} {worker : Local}
  {ids : Nat → String}

theorem Session.left_of_bound {after : Session Memory} {current : Entity} {n : Nat}
    (bound : ∀ text, e.key = some text → after.tables.keys.find? (e.owner, text) = some e.id)
    (there : after.At n current) (work : current.asCreated = e.asCreated)
    (pending : current.Pending) : Session.Left e after current := by
  refine ⟨there.stored, work, fun text carries => ?_, pending⟩
  have owner : current.owner = e.owner := (congrArg Entity.owner work :)
  have key : current.key = e.key := (congrArg Entity.key work :)
  have id : current.id = e.id := (congrArg Entity.id work :)
  have leads := bound text (key ▸ carries)
  have got : after.tables.get current.id = some current := Except.ok.inj there.stored
  refine congrArg Except.ok ?_
  rw [owner, Memory.find, leads, ← id]
  exact got

/-- New work comes to its end, or the gate has rejected a commit and nothing has come of it. -/
theorem handOver_resolves (here : session.At 2 e) (formed : e.WellFormed)
    (initial : e.status = e.kind.lifecycle.initial) (new : e.revision = 0)
    (bound : ∀ text, e.key = some text → session.tables.keys.find? (e.owner, text) = some e.id)
    (rejects : session.gate.Rejects)
    (serves : service.chosen = none ∨ service.WorksInline session.world.executors worker ids) :
    (service.handOver e).Performs session fun answer after =>
      (∃ final, answer = .ok final ∧ Session.Completed e after final) ∨
      ∃ refusal current, answer = .error (.commitRejected refusal) ∧
        Session.Left e after current := by
  have kept (e : Entity) (dispatch : String) : (worker.start e dispatch).Kept Memory :=
    (worker.executor ids).kept_in_memory [] e dispatch
  -- Where the hand-over ends tells the stage of the work; that no entry moves keeps it findable.
  refine ((handOver_reaches here initial serves kept).both (handOver_keepsKeys e).keys).weaken ?_
  rintro answer after ⟨reached, keys⟩
  rw [← keys] at bound
  obtain ⟨running, begins, ⟨target, final, ends, finished, told, last⟩ | shut⟩ | shut := reached
  · refine .inl ⟨final, told, last.stored, ends.work.trans begins.work, ?_, ?_⟩
    · rw [ends.revision, begins.revision, new]
    · rw [ends.status, ends.kind]
      exact finished
  · obtain ⟨refusal, told⟩ := shut.rejected rejects
    refine .inr ⟨refusal, running, told, Session.left_of_bound bound shut.here begins.work ?_⟩
    refine (begins.wellFormed formed).pending (.inr ⟨?_, ?_⟩)
    · rw [begins.status, begins.kind]
    · rw [begins.revision, new]
  · obtain ⟨refusal, told⟩ := shut.rejected rejects
    exact .inr ⟨refusal, e, told, Session.left_of_bound bound shut.here rfl
      (formed.pending (.inl ⟨initial, new⟩))⟩

end Submissions

/-- A worker within the process under a gate that may reject any commit. A submission under a free
key that is answered with an entity has finished it. One that is answered with an error has met a
rejected commit, and either nothing was written, or the work is there under its key with nothing
come of it. Either way a handler is asked once at most, and only for work whose running status is
durable. -/
theorem work_stays_pending_when_rejected (service : Service) (worker : Local) (ids : Nat → String)
    (world : World Memory) (times : Nat → Time.Instant) (rejects : world.store.gate.Rejects)
    (serves : service.chosen = none ∨ service.WorksInline world.executors worker ids)
    (owner : Owner) (kind : Kind) (payload : Json) (key : Option String)
    (free : world.Free owner key) :
    let first := (Session.begin world times).submitted owner kind payload key
    (service.submitAndDispatch owner kind payload key).Performs (.begin world times)
      fun answer after =>
        (∀ e, answer = .ok e → after.creations = [first] ∧ Session.Completed first after e) ∧
        (∀ fault, answer = .error fault → (∃ refusal, fault = .commitRejected refusal) ∧
          (after.creations = [] ∧ after.tables = world.store.tables ∨
            after.creations = [first] ∧ ∃ current, Session.Left first after current)) ∧
        HandsOverOnce after.past := by
  intro first
  have takes : (Session.begin world times).Takes owner payload key :=
    ⟨trivial, free, trivial, fun _ => trivial⟩
  refine ((place_moves takes).leads.both (place_opens.both
    ((place_apart _ _ _ _ _).handsOverOnce trivial))).andThen ?_ ?_
  · rintro fault middle ⟨⟨⟨impossible, _⟩ | ⟨cause, told, shut, tables, creations⟩, _⟩, _, once⟩
    · cases impossible
    · obtain rfl := Except.error.inj told
      refine ⟨fun _ impossible => (nomatch impossible), fun _ same => ?_, once⟩
      obtain rfl := Except.error.inj same
      exact ⟨rejects.shutOut shut, .inl ⟨creations, tables⟩⟩
  · rintro placed middle ⟨⟨⟨told, there, creations⟩ | ⟨_, impossible, _⟩, leads⟩, opened, _⟩
    · obtain rfl := Except.ok.inj told
      obtain ⟨bound, early⟩ := opened first rfl
      have formed : first.WellFormed := Entity.create_wellFormed _ _ _ _ _ _
      have serves : service.chosen = none ∨
          service.WorksInline middle.world.executors worker ids := by
        rw [leads.executors]
        exact serves
      refine ((handOver_resolves there formed rfl rfl bound (rejects.later leads.gate) serves).both
        ((handOver_once (early (List.forall_mem_nil _))).both
          (handOver_keepsKeys first).creations)).weaken ?_
      rintro answer after ⟨⟨final, rfl, completed⟩ | ⟨refusal, current, rfl, left⟩, once, same⟩
      · refine ⟨fun e told => ?_, fun _ impossible => (nomatch impossible), once⟩
        obtain rfl := Except.ok.inj told
        exact ⟨same.trans creations, completed⟩
      · refine ⟨fun _ impossible => (nomatch impossible), fun fault told => ?_, once⟩
        obtain rfl := Except.error.inj told
        exact ⟨⟨refusal, rfl⟩, .inr ⟨same.trans creations, current, left⟩⟩
    · cases impossible

/-- The third write, the report of an echo, is rejected: the job stays in progress under its key. -/
theorem work_stays_pending_when_report_rejected :
    let owner : Owner := ⟨"acme", by decide⟩
    let worker : Local := ⟨"local", .inline, fun _ => some Local.echo⟩
    let service : Service := ⟨.default, ["local"], by decide, nofun⟩
    let world : World Memory := .new (.new (.failingAt 3)) [worker.executor fun n => toString n]
    let session : Session Memory := .begin world fun _ => .epoch
    let first := session.submitted owner .job .null (some "nightly")
    let done := (service.submitAndDispatch owner .job .null (some "nightly")).perform session
    world.store.gate.Rejects ∧
      service.WorksInline world.executors worker (fun n => toString n) ∧
      world.Free owner (some "nightly") ∧
      done.1 = .error (.commitRejected (.injected 3 .update "0")) ∧
      (∃ current, Session.Left first done.2 current) ∧ HandsOverOnce done.2.past := by
  intro owner worker service world session first done
  have rejects : world.store.gate.Rejects := Store.Gate.failingAt_rejects 3
  have works : service.WorksInline world.executors worker fun n => toString n :=
    ⟨rfl, List.find?_cons_of_pos (beq_self_eq_true _), rfl⟩
  have free : world.Free owner (some "nightly") :=
    ⟨rfl, fun _ same => Option.some.inj same ▸ by decide, fun _ _ => rfl⟩
  have answer : done.1 = .error (.commitRejected (.injected 3 .update "0")) := by decide
  obtain ⟨_, failed, once⟩ := work_stays_pending_when_rejected service worker _ world
    (fun _ => .epoch) rejects (.inr works) owner .job .null (some "nightly") free
  obtain ⟨_, ⟨none, _⟩ | ⟨_, left⟩⟩ := failed _ answer
  · exact absurd none (by decide)
  · exact ⟨rejects, works, free, answer, left, once⟩

end Service

end TenantWork
