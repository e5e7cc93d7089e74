import TenantWork.Proofs.Schedule.Chronicle
import TenantWork.Proofs.Schedule.Lockstep
import TenantWork.Proofs.Store.MirrorCalls
/-!
The same clients on a store in memory and on one in a database. Every step of every schedule is
answered alike on both, if the JSON that comes to be stored is read back and the clocks show
universal time in years of four digits. The gate of the memory stands in for the one thing it lacks,
columns with a limit.
-/
namespace TenantWork.Service

open Store (Storage Memory Database WriteCall)

/-! ## Requests on both stores -/

/-- What a request on both stores must meet: an insertion is of a fresh id, and an update was made
from the stored snapshot or from one of a lower revision. -/
def Request.Suits (memory : Memory) : Request → Prop
  | .insert e => memory.get e.id = none ∧ e.revision ≤ Store.columnLimit
  | .save e => ∀ stored, memory.get e.id = some stored →
    (stored.revision = e.revision → stored.SameWork e) ∧
      (stored.revision ≠ e.revision → e.revision < stored.revision)
  | _ => True

theorem mirrors_request {database : Store Database} {memory : Store Memory}
    (mirrors : Store.Mirrors database memory) (indexed : memory.tables.Indexed)
    (storable : memory.tables.Storable) {request : Request}
    (suits : request.Suits memory.tables) :
    request.storeReply? database = request.storeReply? memory ∧
      Store.Mirrors (request.storeAfter database) (request.storeAfter memory) := by
  cases request with
  | find owner key =>
    exact ⟨congrArg some (mirrors.tables.find indexed.filed storable owner key), mirrors⟩
  | load id => exact ⟨congrArg some (mirrors.tables.get indexed.filed storable id), mirrors⟩
  | list owner filter =>
    exact ⟨congrArg some (mirrors.tables.list indexed.filed storable owner filter), mirrors⟩
  | insert e =>
    obtain ⟨fresh, fits⟩ := suits
    obtain ⟨same, after⟩ := mirrors.commit (mirrors.tables.stageInsert indexed storable fresh fits)
    exact ⟨congrArg some same, after⟩
  | save e =>
    obtain ⟨same, after⟩ := mirrors.commit (mirrors.tables.stageSave indexed.filed
      (fun stored there current => (suits stored there).1 current)
      (fun stored there stale => (suits stored there).2 stale))
    exact ⟨congrArg some same, after⟩
  | delete id =>
    obtain ⟨same, after⟩ := mirrors.commit (mirrors.tables.stageDelete indexed storable id)
    exact ⟨congrArg some same, after⟩
  | _ => exact ⟨rfl, mirrors⟩

def World.onEmpty {Tables : Type} [Storage Tables] (executors : List Executor)
    (rule : List WriteCall → WriteCall → Except Error Unit) : World Tables :=
  .new (.new ⟨rule, []⟩) executors

namespace System

/-! ## Traces -/

section Traces

variable {Tables : Type} [Storage Tables]

theorem trace_of_run (system : System Tables) (schedule : List Nat) :
    system.trace <:+ (system.run schedule).trace := by
  refine run_induction (fun other => system.trace <:+ other.trace) ?_ system List.suffix_rfl schedule
  intro other i client past stage request next _ grown
  rw [serve_trace]
  exact grown.trans (List.suffix_cons _ _)

theorem wasStored_of_run (system : System Tables) (earlier later : List Nat) {e : Entity}
    (stored : WasStored (system.run earlier).trace e) :
    WasStored (system.run (earlier ++ later)).trace e := by
  obtain ⟨step, inside, stores⟩ := stored
  rw [run_append]
  exact ⟨step, (trace_of_run _ later).subset inside, stores⟩

end Traces

section Serve

variable {system : System Memory} {i : Nat} {client : Client} {past : List Exchange}
  {stage : Stage} {request : Request} {next : request.Reply → Script (Except Error Answer)}

theorem Chronicled.suits (chronicled : system.Chronicled)
    (found : system.threads[i]? = some ⟨client, past, .ask stage request next⟩) :
    request.Suits system.world.store.tables := by
  cases request with
  | insert e =>
    obtain ⟨unplaced, owner, kind, payload, key, n, rfl⟩ := chronicled.sound.allowed found
    exact ⟨chronicled.sound.unused i _ found unplaced, Nat.zero_le _⟩
  | save e =>
    intro stored there
    constructor
    · intro current
      obtain ⟨_, _, _, applied, _⟩ := chronicled.sound.origin found there current
      obtain ⟨_, rfl⟩ := Entity.apply_eq_ok_iff.1 applied
      exact Entity.entering_same _ _ _
    · intro stale
      obtain ⟨current, request, n, shown, applied, _⟩ := chronicled.sound.allowed found
      obtain ⟨_, rfl⟩ := Entity.apply_eq_ok_iff.1 applied
      rw [Entity.entering_revision] at stale ⊢
      rw [Entity.entering_id] at there
      obtain rfl | lower := chronicled.sound.current i _ found current stored shown there
      · exact absurd rfl stale
      · exact lower
  | _ => trivial

/-- A snapshot that comes to be stored is regular if those before it are. -/
theorem Chronicled.regular_serve (chronicled : system.Chronicled)
    (found : system.threads[i]? = some ⟨client, past, .ask stage request next⟩)
    (dated : ∀ n, Time.Rfc3339.InRange (client.times n))
    (regular : ∀ e, WasStored system.trace e → e.Regular) {e : Entity}
    (stores : (system.served i client past stage request).exchange.stored? = some e) :
    e.Regular := by
  cases request with
  | insert new =>
    obtain ⟨_, owner, kind, payload, key, n, rfl⟩ := chronicled.sound.allowed found
    obtain ⟨fault, refused, _⟩ | ⟨held, _, kept⟩ | ⟨_, _, done, _⟩ :=
      Memory.insert_cases system.world.store
        (Entity.create client.id owner kind payload key (client.times n))
    · rw [served, reply_insert, refused] at stores
      cases stores
    · rw [served, reply_insert, kept] at stores
      cases stores
    · rw [served, reply_insert, done] at stores
      obtain rfl := Option.some.inj stores
      exact Entity.create_regular _ _ _ _ _ (dated n)
  | save new =>
    have accepted : (system.world.store.save new).1 = .ok e := by
      obtain ⟨_, refused, _⟩ | ⟨_, _, _, _, done, _⟩ := Memory.save_cases system.world.store new
      · rw [served, reply_save, refused] at stores
        cases stores
      · rw [served, reply_save, done] at stores
        obtain rfl := Option.some.inj stores
        exact done
    obtain ⟨current, request, n, there, _, applied, _, rfl⟩ :=
      chronicled.sound.update found accepted
    rw [chronicled.stored] at there
    exact (regular current (wasStored_of_snapshot there)).apply (dated n) applied
  | _ => cases stores

end Serve

variable (service : Service) (clients : List Client)

/-- Clients with clocks in universal time, in years of four digits, store only regular snapshots. -/
theorem regular_run {world : World Memory} (empty : world.store.tables = Memory.empty)
    (distinct : (clients.map Client.id).Nodup)
    (dated : ∀ client ∈ clients, ∀ n, Time.Rfc3339.InRange (client.times n))
    (schedule : List Nat) :
    ∀ e, WasStored ((start service clients world).run schedule).trace e → e.Regular := by
  have kept := run_induction (fun system => system.Chronicled ∧
    system.threads.map Thread.client = clients ∧ ∀ e, WasStored system.trace e → e.Regular)
    (fun system i client past stage request next found holds => ?_) (start service clients world)
    ⟨chronicled_start service clients empty distinct, clients_of_start _ _ _, ?_⟩ schedule
  · exact kept.2.2
  · obtain ⟨chronicled, same, regular⟩ := holds
    refine ⟨chronicled.serve found, (clients_of_serve found).trans same, fun e stored => ?_⟩
    have inside : client ∈ clients := by
      rw [← same]
      exact List.mem_map.2 ⟨_, List.mem_of_getElem? found, rfl⟩
    obtain now | before := wasStored_cons.1 stored
    · exact chronicled.regular_serve found (dated client inside) regular now
    · exact regular e before
  · rintro e ⟨_, inside, _⟩
    cases inside

/-! ## Systems on both stores -/

def onEmpty {Tables : Type} [Storage Tables] (service : Service) (clients : List Client)
    (executors : List Executor) (rule : List WriteCall → WriteCall → Except Error Unit) :
    System Tables :=
  start service clients (.onEmpty executors rule)

variable {service clients} {executors : List Executor}
  {rule : List WriteCall → WriteCall → Except Error Unit}

theorem chronicled_onEmpty (distinct : (clients.map Client.id).Nodup) (schedule : List Nat) :
    ((onEmpty service clients executors rule : System Memory).run schedule).Chronicled :=
  chronicled_run service clients rfl distinct schedule

theorem storable_run {schedule : List Nat} (distinct : (clients.map Client.id).Nodup)
    (dated : ∀ client ∈ clients, ∀ n, Time.Rfc3339.InRange (client.times n))
    (readable : ∀ e, WasStored ((onEmpty service clients executors rule : System Memory).run
      schedule).trace e → e.Readable) :
    ((onEmpty service clients executors rule : System Memory).run
      schedule).world.store.tables.Storable := by
  have regular : ∀ e, WasStored ((onEmpty service clients executors rule : System Memory).run
      schedule).trace e → e.Regular := regular_run service clients rfl distinct dated schedule
  intro id e there
  rw [(chronicled_onEmpty distinct schedule).stored] at there
  have stored := wasStored_of_snapshot there
  exact ⟨regular e stored, readable e stored⟩

/-- A system on a database and one in memory with the same clients stay alike. Only snapshots that
come to be stored on both sides need to be read back. -/
theorem mirrors_run (distinct : (clients.map Client.id).Nodup)
    (dated : ∀ client ∈ clients, ∀ n, Time.Rfc3339.InRange (client.times n)) (schedule : List Nat)
    {database : System Database} {memory : System Memory}
    (begunDatabase : database = onEmpty service clients executors rule)
    (begunMemory : memory = onEmpty service clients executors (Store.Gate.limited rule))
    (readable : ∀ e, WasStored (database.run schedule).trace e →
      WasStored (memory.run schedule).trace e → e.Readable) :
    (database.run schedule).Alike (memory.run schedule) ∧
      Store.Mirrors (database.run schedule).world.store (memory.run schedule).world.store := by
  have alike : database.Alike memory := by
    subst begunDatabase begunMemory
    exact alike_start service clients ⟨rfl, rfl, rfl, rfl, rfl, rfl, rfl⟩
  have begun : Store.Mirrors database.world.store memory.world.store := by
    subst begunDatabase begunMemory
    exact ⟨Database.mirrors_empty, rfl, rfl⟩
  refine alike.run Store.Mirrors schedule begun ?_
  intro earlier i later client past stage request next split same mirrors found
  have chronicled : (memory.run earlier).Chronicled := by
    rw [begunMemory]
    exact chronicled_onEmpty distinct earlier
  refine mirrors_request mirrors chronicled.indexed ?_ (chronicled.suits found)
  subst begunMemory
  refine storable_run distinct dated fun e stored => readable e ?_ ?_
  · rw [← same.trace] at stored
    rw [split]
    exact wasStored_of_run _ _ _ stored
  · rw [split]
    exact wasStored_of_run _ _ _ stored

theorem reads_run (distinct : (clients.map Client.id).Nodup)
    (dated : ∀ client ∈ clients, ∀ n, Time.Rfc3339.InRange (client.times n)) (schedule : List Nat)
    {database : System Database} {memory : System Memory}
    (begunDatabase : database = onEmpty service clients executors rule)
    (begunMemory : memory = onEmpty service clients executors (Store.Gate.limited rule))
    (readable : ∀ e, WasStored (database.run schedule).trace e → e.Readable) :
    (database.run schedule).Alike (memory.run schedule) ∧
      (∀ id, (database.run schedule).world.store.get id =
        (memory.run schedule).world.store.get id) ∧
      ∀ owner key, (database.run schedule).world.store.tables.keyId? owner key =
        (memory.run schedule).world.store.tables.keyId? owner key := by
  obtain ⟨alike, mirrors⟩ := mirrors_run distinct dated schedule begunDatabase begunMemory
    fun e stored _ => readable e stored
  have chronicled : (memory.run schedule).Chronicled := by
    rw [begunMemory]
    exact chronicled_onEmpty distinct schedule
  have storable : (memory.run schedule).world.store.tables.Storable := by
    rw [alike.trace] at readable
    rw [begunMemory] at readable ⊢
    exact storable_run distinct dated readable
  exact ⟨alike, mirrors.tables.get chronicled.indexed.filed storable, mirrors.tables.keyId?⟩

end System

end TenantWork.Service
