import TenantWork.Proofs.Schedule.Backends
import TenantWork.Proofs.Schedule.InTurn
import TenantWork.Proofs.Store.Limit
import TenantWork.Proofs.Store.Lossless
/-!
Stores that can stand in for each other. Nobody can tell from the answers, from what the observers
are told or from the calls at the gate and at the executors whether a store is in memory or in a
database, as long as fewer updates are asked for than a column can count and clocks show universal
time.
-/
namespace TenantWork.Service

open Store (Storage Memory Database WriteCall)

theorem relaxed_request {limited plain : Store Memory} (relaxed : Store.Relaxed limited plain)
    (request : Request)
    (fits : ∀ call ∈ (request.storeAfter plain).gate.calls, call.fits = true) :
    request.storeReply? limited = request.storeReply? plain ∧
      Store.Relaxed (request.storeAfter limited) (request.storeAfter plain) := by
  have tables := relaxed.tables
  cases request with
  | find owner key =>
    refine ⟨?_, relaxed⟩
    rw [Request.storeReply?, Request.storeReply?, Store.find, Store.find, tables]
  | load id =>
    refine ⟨?_, relaxed⟩
    rw [Request.storeReply?, Request.storeReply?, Store.get, Store.get, tables]
  | list owner filter =>
    refine ⟨?_, relaxed⟩
    rw [Request.storeReply?, Request.storeReply?, Store.list, Store.list, tables]
  | insert e =>
    rw [Request.storeReply?, Request.storeReply?, Request.storeAfter, Request.storeAfter,
      Store.insert, tables]
    obtain ⟨same, after⟩ := relaxed.commit _ fits
    exact ⟨congrArg some same, after⟩
  | save e =>
    rw [Request.storeReply?, Request.storeReply?, Request.storeAfter, Request.storeAfter,
      Store.save, tables]
    obtain ⟨same, after⟩ := relaxed.commit _ fits
    exact ⟨congrArg some same, after⟩
  | delete id =>
    rw [Request.storeReply?, Request.storeReply?, Request.storeAfter, Request.storeAfter,
      Store.delete, tables]
    obtain ⟨same, after⟩ := relaxed.commit _ fits
    exact ⟨congrArg some same, after⟩
  | _ => exact ⟨rfl, relaxed⟩

section Runs

variable {service : Service} {clients : List Client} {executors : List Executor}
  {rule : List WriteCall → WriteCall → Except Error Unit}

namespace System

theorem calls_of_run {Tables : Type} [Storage Tables] (system : System Tables)
    (schedule : List Nat) :
    system.world.store.gate.calls <:+ (system.run schedule).world.store.gate.calls := by
  refine run_induction
    (fun other => system.world.store.gate.calls <:+ other.world.store.gate.calls) ?_ system
    List.suffix_rfl schedule
  intro other i client past stage request next _ grown
  refine grown.trans ?_
  rw [serve_world, reply_store]
  cases request with
  | insert e => exact Store.commit_calls _ _
  | save e => exact Store.commit_calls _ _
  | delete id => exact Store.commit_calls _ _
  | _ => exact List.suffix_rfl

theorem counted_run (distinct : (clients.map Client.id).Nodup) (schedule : List Nat) :
    Store.Counted ((onEmpty service clients executors rule : System Memory).run
      schedule).world.store := by
  have kept := run_induction (fun system => system.Chronicled ∧ Store.Counted system.world.store)
    (fun system i client past stage request next found holds => ?_)
    (onEmpty service clients executors rule)
    ⟨chronicled_start service clients rfl distinct, Store.Counted.new rule⟩ schedule
  · exact kept.2
  · obtain ⟨chronicled, counted⟩ := holds
    refine ⟨chronicled.serve found, ?_⟩
    rw [serve_world, reply_store]
    cases request with
    | insert e =>
      obtain ⟨_, _, _, _, _, _, rfl⟩ := chronicled.sound.allowed found
      exact counted.insert rfl
    | save e => exact counted.save e
    | delete id => exact counted.delete id
    | _ => exact counted

/-- The limit of the columns is not felt while few updates are asked for. -/
theorem relaxed_run (distinct : (clients.map Client.id).Nodup) (schedule : List Nat)
    {limited plain : System Memory}
    (begunLimited : limited = onEmpty service clients executors (Store.Gate.limited rule))
    (begunPlain : plain = onEmpty service clients executors rule)
    (few : (plain.run schedule).world.store.gate.updates ≤ Store.columnLimit) :
    (limited.run schedule).Alike (plain.run schedule) ∧
      Store.Relaxed (limited.run schedule).world.store (plain.run schedule).world.store := by
  have alike : limited.Alike plain := by
    subst begunLimited begunPlain
    exact alike_start service clients ⟨rfl, rfl, rfl, rfl, rfl, rfl, rfl⟩
  have begun : Store.Relaxed limited.world.store plain.world.store := by
    subst begunLimited begunPlain
    exact ⟨rfl, rfl, rfl⟩
  have counted : Store.Counted (plain.run schedule).world.store := by
    subst begunPlain
    exact counted_run distinct schedule
  refine alike.run Store.Relaxed schedule begun ?_
  intro earlier i later client past stage request next split same relaxed found
  refine relaxed_request relaxed request fun call inside => ?_
  have stepped : (plain.run (earlier ++ [i])).world.store =
      request.storeAfter (plain.run earlier).world.store := by
    rw [run_concat, step, found]
    exact reply_store _ _ _ _
  have grown := calls_of_run (plain.run (earlier ++ [i])) later
  rw [← run_append, List.append_assoc, List.singleton_append, ← split, stepped] at grown
  exact decide_eq_true (Nat.le_trans (counted.asked call (grown.subset inside)) few)

/-- Under every schedule clients see the same on an empty store of either kind. -/
theorem interchangeable_run (distinct : (clients.map Client.id).Nodup)
    (dated : ∀ client ∈ clients, ∀ n, Time.Rfc3339.InRange (client.times n)) (schedule : List Nat)
    {database : System Database} {memory : System Memory}
    (begunDatabase : database = onEmpty service clients executors rule)
    (begunMemory : memory = onEmpty service clients executors rule)
    (readable : ∀ e, WasStored (memory.run schedule).trace e → e.Readable)
    (few : (memory.run schedule).world.store.gate.updates ≤ Store.columnLimit) :
    (database.run schedule).Alike (memory.run schedule) ∧
      (database.run schedule).world.store.gate.calls =
        (memory.run schedule).world.store.gate.calls := by
  obtain ⟨alike, relaxed⟩ := relaxed_run distinct schedule rfl begunMemory few
  obtain ⟨same, mirrors⟩ := mirrors_run distinct dated schedule begunDatabase rfl
    fun e _ stored => by
      rw [alike.trace] at stored
      exact readable e stored
  have counted : Store.Counted (memory.run schedule).world.store := by
    rw [begunMemory]
    exact counted_run distinct schedule
  refine ⟨same.trans alike, ?_⟩
  rw [mirrors.calls, relaxed.calls, List.filter_eq_self.2]
  intro call inside
  exact decide_eq_true (Nat.le_trans (counted.asked call inside) few)

end System

/-- All JSON that comes to be stored is null. -/
def Plain (exchanges : List Exchange) : Prop :=
  ∀ e ∈ exchanges.filterMap Exchange.stored?, e.payload = .null ∧ e.result.getD .null = .null

instance (exchanges : List Exchange) : Decidable (Plain exchanges) :=
  inferInstanceAs (Decidable (∀ e ∈ exchanges.filterMap Exchange.stored?,
    e.payload = .null ∧ e.result.getD .null = .null))

theorem Plain.readable {exchanges : List Exchange} (plain : Plain exchanges) :
    ∀ exchange ∈ exchanges, ∀ e, exchange.stored? = some e → e.Readable := by
  intro exchange inside e stored
  obtain ⟨payload, result⟩ := plain e (List.mem_filterMap.2 ⟨exchange, inside, stored⟩)
  exact Entity.readable_of_null payload result

namespace System

/-- What is known of a trace in memory with null as the only JSON holds in a database as well. -/
theorem trace_in_database {motive : List Step → Prop} (distinct : (clients.map Client.id).Nodup)
    (dated : ∀ client ∈ clients, ∀ n, Time.Rfc3339.InRange (client.times n)) {schedule : List Nat}
    (plain : Plain (((onEmpty service clients executors rule : System Memory).run
      schedule).trace.map Step.exchange))
    (few : ((onEmpty service clients executors rule : System Memory).run
      schedule).world.store.gate.updates ≤ Store.columnLimit)
    (known : motive ((onEmpty service clients executors rule : System Memory).run schedule).trace) :
    motive ((onEmpty service clients executors rule : System Database).run schedule).trace := by
  have read : ∀ e, WasStored ((onEmpty service clients executors rule : System Memory).run
      schedule).trace e → e.Readable := by
    rintro e ⟨step, inside, stored⟩
    exact plain.readable step.exchange (List.mem_map_of_mem inside) e stored
  rw [(interchangeable_run distinct dated schedule rfl rfl read few).1.trace]
  exact known

theorem readable_in_database (distinct : (clients.map Client.id).Nodup)
    (dated : ∀ client ∈ clients, ∀ n, Time.Rfc3339.InRange (client.times n)) {schedule : List Nat}
    (plain : Plain (((onEmpty service clients executors rule : System Memory).run
      schedule).trace.map Step.exchange))
    (few : ((onEmpty service clients executors rule : System Memory).run
      schedule).world.store.gate.updates ≤ Store.columnLimit) :
    ∀ e, WasStored ((onEmpty service clients executors rule : System Database).run
      schedule).trace e → e.Readable := by
  refine trace_in_database (motive := fun trace => ∀ e, WasStored trace e → e.Readable)
    distinct dated plain few ?_
  rintro e ⟨step, inside, stored⟩
  exact plain.readable step.exchange (List.mem_map_of_mem inside) e stored

end System

end Runs

/-- Universal time is needed of clocks. With any other reading in these years, which must be a leap
second within a minute, one submission tells the stores apart: memory keeps the reading as it is,
while a database reads back the next second. -/
theorem leap_second_within_minute_tells_stores_apart {t : Time.Instant}
    (years : Time.Rfc3339.InYears t) (strange : ¬Time.Rfc3339.Universal t) :
    let owner : Owner := ⟨"acme", by decide⟩
    let service : Service := ⟨.default, [], List.nodup_nil, nofun⟩
    let job (t : Time.Instant) := Entity.create ⟨"a"⟩ owner .job .null none t
    let clients : List Client := [⟨.submit owner .job .null none, ⟨"a"⟩, fun _ => t⟩]
    let memory := serveAll service clients (.onEmpty [] fun _ _ => .ok () : World Memory)
    let database := serveAll service clients (.onEmpty [] fun _ _ => .ok () : World Database)
    memory.2.store.get ⟨"a"⟩ = .ok (some (job t)) ∧
      database.2.store.get ⟨"a"⟩ = .ok (some (job (Time.Rfc3339.asWritten t))) ∧
      job (Time.Rfc3339.asWritten t) ≠ job t := by
  intro owner service job clients memory database
  have entered : (Database.empty.insertEntity (job t)) = .ok database.2.store.tables := rfl
  have storable : (job t).asWritten.Storable :=
    Entity.storable_asWritten rfl (Entity.readable_of_null rfl rfl) ⟨years, years, nofun, nofun⟩
  refine ⟨rfl, (Database.keeps_inserted storable entered).get, fun same => strange ?_⟩
  exact Time.Rfc3339.asWritten_eq_iff.1 (congrArg Entity.createdAt same)

example : ∃ t, Time.Rfc3339.InYears t ∧ ¬Time.Rfc3339.Universal t :=
  ⟨⟨⟨2024, 1, 1, by decide, by decide⟩, 4, 1333333333, by decide, by decide⟩, by decide, by decide⟩

end TenantWork.Service
