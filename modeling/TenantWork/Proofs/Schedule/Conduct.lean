import TenantWork.Proofs.Schedule.Backends
/-!
What a trace says about its clients. The exchanges of each client can be picked out of the trace,
and every request is made on the strength of them: it keeps to the rule of its client, the
snapshots that the client has been shown were stored before, and a look-up by id shows what the
trace says is stored at that moment.
-/
namespace TenantWork.Service

open Store (Memory Database WriteCall)

/-- The exchanges of one client, the latest first. -/
def own (i : Nat) (trace : List Step) : List Exchange :=
  (trace.filter fun step => step.client == i).map Step.exchange

section Own

variable {i : Nat} {trace earlier : List Step} {step : Step}

theorem own_cons_self (here : step.client = i) :
    own i (step :: earlier) = step.exchange :: own i earlier := by
  subst here
  simp [own]

theorem own_cons_other (other : step.client ≠ i) : own i (step :: earlier) = own i earlier := by
  simp [own, other]

theorem mem_own {exchange : Exchange} :
    exchange ∈ own i trace ↔ ∃ step ∈ trace, step.client = i ∧ step.exchange = exchange := by
  simp [own, and_assoc]

end Own

/-- Which requests a client may make, by what it has exchanged and the stage it is in. -/
abbrev Rule := Client → List Exchange → Stage → Request → Prop

/-- A step that a client takes on the strength of its own exchanges. -/
structure Heeds (allows : Rule) (client : Client) (earlier : List Step) (step : Step) : Prop where
  allowed : allows client (own step.client earlier) step.stage step.exchange.request
  truthful : step.exchange.Truthful client
  known : ∀ e, Shown (own step.client earlier) e → WasStored earlier e
  read : ∀ id found, step.exchange = ⟨.load id, .ok found⟩ → found = snapshot earlier id
  removed : ∀ id, step.exchange.removed? = some id → ∃ e, snapshot earlier id = some e

/-- Every step is taken by one of the clients, who keeps to the rule. -/
def Heeded (clients : List Client) (allows : Rule) : List Step → Prop
  | [] => True
  | step :: earlier =>
    (∃ client, clients[step.client]? = some client ∧ Heeds allows client earlier step) ∧
      Heeded clients allows earlier

section Trace

variable {clients : List Client} {allows : Rule} {later earlier trace : List Step} {step : Step}

theorem Heeded.suffix (heeded : Heeded clients allows (later ++ trace)) :
    Heeded clients allows trace := by
  induction later with
  | nil => exact heeded
  | cons step later ih => exact ih heeded.2

theorem Heeded.heeds (heeded : Heeded clients allows (later ++ step :: earlier)) :
    ∃ client, clients[step.client]? = some client ∧ Heeds allows client earlier step :=
  heeded.suffix.1

end Trace

namespace System

section Serve

variable {system : System Memory} {i : Nat} {client : Client} {past : List Exchange}
  {stage : Stage} {request : Request} {next : request.Reply → Script (Except Error Answer)}

/-- What every client has exchanged is what the trace says. -/
def Recorded {Tables : Type} (system : System Tables) : Prop :=
  ∀ (i : Nat) (thread : Thread), system.threads[i]? = some thread →
    thread.past = own i system.trace

theorem Recorded.serve (recorded : system.Recorded)
    (found : system.threads[i]? = some ⟨client, past, .ask stage request next⟩) :
    (system.serve i client past stage request next).Recorded := by
  intro j thread there
  obtain ⟨rfl, rfl⟩ | ⟨other, before⟩ := thread_of_serve there
  · have before : past = own j system.trace := recorded j _ found
    rw [serve_trace, own_cons_self, ← before]
    rfl
  · rw [recorded j thread before, serve_trace]
    exact (own_cons_other (Ne.symm other)).symm

theorem Chronicled.read (chronicled : system.Chronicled) {id : EntityId} {found : Option Entity}
    (reads : (system.served i client past stage request).exchange = ⟨.load id, .ok found⟩) :
    found = snapshot system.trace id := by
  obtain ⟨rfl, same⟩ := Exchange.mk.inj reads
  have reply : (system.reply client past (.load id)).1 =
      .ok (system.world.store.tables.get id) := rfl
  rw [← chronicled.stored]
  exact (Except.ok.inj (reply.symm.trans (eq_of_heq same))).symm

theorem Chronicled.removed (chronicled : system.Chronicled) {id : EntityId}
    (removes : (system.served i client past stage request).exchange.removed? = some id) :
    ∃ e, snapshot system.trace id = some e := by
  cases request with
  | delete gone =>
    obtain ⟨_, refused, _⟩ | ⟨_, kept⟩ | ⟨e, there, done, _⟩ :=
      Memory.delete_cases system.world.store gone
    · rw [served, reply_delete, refused] at removes
      cases removes
    · rw [served, reply_delete, kept] at removes
      cases removes
    · rw [served, reply_delete, done] at removes
      obtain rfl := Option.some.inj removes
      rw [← chronicled.stored]
      exact ⟨e, there⟩
  | _ => cases removes

end Serve

/-- Clients that keep to a rule from the beginning have a trace that heeds it. -/
theorem heeded_run {service : Service} {clients : List Client} {world : World Memory}
    (empty : world.store.tables = Memory.empty) (distinct : (clients.map Client.id).Nodup)
    {allows : Rule} {ends : Client → List Exchange → Except Error Answer → Prop}
    (begins : ∀ client ∈ clients,
      (client.operation.script service).Obeys client (allows client) (ends client) [])
    (schedule : List Nat) :
    Heeded clients allows ((start service clients world).run schedule).trace := by
  have kept := run_induction (fun system => system.Chronicled ∧ system.Disciplined allows ends ∧
      system.threads.map Thread.client = clients ∧ system.Recorded ∧
        Heeded clients allows system.trace)
    (fun system i client past stage request next found holds => ?_) (start service clients world)
    ⟨chronicled_start service clients empty distinct, ?_, clients_of_start _ _ _, ?_, trivial⟩
    schedule
  · exact kept.2.2.2.2
  · obtain ⟨chronicled, disciplined, same, recorded, heeded⟩ := holds
    have truthful := reply_truthful chronicled.sound.filed client past request
    have there : clients[i]? = some client := by
      rw [← same, List.getElem?_map, found]
      rfl
    have past_own : past = own i system.trace := recorded i _ found
    refine ⟨chronicled.serve found, disciplined.serve found truthful,
      (clients_of_serve found).trans same, recorded.serve found, ⟨client, there, ?_⟩, heeded⟩
    refine ⟨?_, truthful, fun e shown => ?_, fun id read => chronicled.read, fun id => chronicled.removed⟩
    · rw [← past_own]
      exact (disciplined i _ found).1
    · rw [← past_own] at shown
      exact chronicled.shown i _ found e shown
  · intro i thread found
    obtain ⟨here, same⟩ := thread_of_start found
    rw [same]
    exact begins _ (List.mem_of_getElem? here)
  · intro i thread found
    rw [(thread_of_start found).2]
    rfl

/-- What follows from the conduct of the clients holds on an empty store of either kind, and the
traces say what is stored. -/
theorem conduct_onEmpty {service : Service} {clients : List Client} {executors : List Executor}
    {rule : List WriteCall → WriteCall → Except Error Unit}
    (distinct : (clients.map Client.id).Nodup) {allows : Rule}
    {ends : Client → List Exchange → Except Error Answer → Prop}
    (begins : ∀ client ∈ clients,
      (client.operation.script service).Obeys client (allows client) (ends client) [])
    {result : List Step → Prop}
    (follows : ∀ trace, Heeded clients allows trace → Lawful trace → result trace)
    (schedule : List Nat) :
    let memory := (onEmpty service clients executors rule : System Memory).run schedule
    let database := (onEmpty service clients executors rule : System Database).run schedule
    ((∀ id, memory.world.store.get id = .ok (snapshot memory.trace id)) ∧ result memory.trace) ∧
    ((∀ client ∈ clients, ∀ n, Time.Rfc3339.InRange (client.times n)) →
      (∀ e, WasStored database.trace e → e.Readable) →
        (∀ id, database.world.store.get id = .ok (snapshot database.trace id)) ∧
          result database.trace) := by
  intro memory database
  have chronicled (rule : List WriteCall → WriteCall → Except Error Unit) :
      ((onEmpty service clients executors rule : System Memory).run schedule).Chronicled :=
    chronicled_onEmpty distinct schedule
  have concluded (rule : List WriteCall → WriteCall → Except Error Unit) :
      result ((onEmpty service clients executors rule : System Memory).run schedule).trace :=
    follows _ (heeded_run rfl distinct begins schedule) (chronicled rule).lawful
  constructor
  · exact ⟨fun id => congrArg Except.ok ((chronicled rule).stored id), concluded rule⟩
  · intro dated readable
    obtain ⟨alike, get, _⟩ := reads_run distinct dated schedule rfl rfl readable
    have stored := (chronicled (Store.Gate.limited rule)).stored
    have ended := concluded (Store.Gate.limited rule)
    rw [alike.trace]
    exact ⟨fun id => (get id).trans (congrArg Except.ok (stored id)), ended⟩

end System

end TenantWork.Service
