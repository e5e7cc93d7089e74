import TenantWork.Proofs.Schedule.History
import TenantWork.Proofs.Schedule.Snapshots
import TenantWork.Proofs.Store.KeyIndex
/-!
Systems on a store in memory have lawful traces. What the trace says is stored is what the tables
hold, from an empty store on, and whatever a client has been shown was stored at some time.
-/
namespace TenantWork.Service

open Store (Storage Memory)

namespace System

structure Chronicled (system : System Memory) : Prop where
  sound : system.Sound
  indexed : system.world.store.tables.Indexed
  lawful : Lawful system.trace
  stored : ∀ id, system.world.store.tables.get id = snapshot system.trace id
  shown : ∀ (i : Nat) (thread : Thread), system.threads[i]? = some thread →
    ∀ e, Shown thread.past e → WasStored system.trace e
  unplaced : ∀ (i : Nat) (thread : Thread), system.threads[i]? = some thread →
    Unplaced thread.past → ∀ e, WasStored system.trace e → e.id ≠ thread.client.id
  looked : ∀ (i : Nat) (thread : Thread), system.threads[i]? = some thread →
    ∀ owner key e, ⟨.find owner key, .ok (some e)⟩ ∈ thread.past →
      e.owner = owner ∧ e.key = some key

theorem chronicled_start (service : Service) (clients : List Client) {world : World Memory}
    (empty : world.store.tables = Memory.empty) (distinct : (clients.map Client.id).Nodup) :
    (start service clients world).Chronicled := by
  have filed : world.store.tables.Filed := by
    rw [empty]
    exact Memory.filed_empty
  have nothing (id : EntityId) : world.store.tables.get id = none := by
    rw [empty]
    rfl
  refine ⟨sound_start service clients filed distinct fun client _ => nothing client.id, ?_, trivial,
    nothing, ?_, ?_, ?_⟩
  · show world.store.tables.Indexed
    rw [empty]
    exact Memory.indexed_empty
  · intro i thread found e shown
    rw [(thread_of_start found).2] at shown
    obtain ⟨_, inside, _⟩ := shown
    cases inside
  · rintro i thread found unplaced e ⟨_, inside, _⟩
    cases inside
  · intro i thread found owner key e inside
    rw [(thread_of_start found).2] at inside
    cases inside

section Serve

variable {system : System Memory} {i : Nat} {client : Client} {past : List Exchange}
  {stage : Stage} {request : Request} {next : request.Reply → Script (Except Error Answer)}

def served (system : System Memory) (i : Nat) (client : Client) (past : List Exchange)
    (stage : Stage) (request : Request) : Step :=
  ⟨i, stage, ⟨request, (system.reply client past request).1⟩⟩

theorem snapshot_of_idle {step : Step} {earlier : List Step}
    (stored : step.exchange.stored? = none) (removed : step.exchange.removed? = none)
    (id : EntityId) : snapshot (step :: earlier) id = snapshot earlier id := by
  simp only [snapshot, stored, removed]

/-- The tables after a request hold what its step says. -/
theorem stored_serve (stored : ∀ id, system.world.store.tables.get id = snapshot system.trace id)
    (i : Nat) (client : Client) (past : List Exchange) (stage : Stage) (request : Request)
    (id : EntityId) :
    (request.storeAfter system.world.store).tables.get id =
      snapshot (system.served i client past stage request :: system.trace) id := by
  cases request with
  | insert e =>
    obtain ⟨fault, refused, same⟩ | ⟨held, _, kept⟩ | ⟨_, _, done, changed⟩ :=
      Memory.insert_cases system.world.store e
    · rw [snapshot_of_idle (by rw [served, reply_insert, refused]; rfl)
        (by rw [served, reply_insert, refused]; rfl), Request.storeAfter, same, stored]
    · rw [snapshot_of_idle (by rw [served, reply_insert, kept]; rfl)
        (by rw [served, reply_insert, kept]; rfl), Request.storeAfter, kept, stored]
    · rw [snapshot_of_stored (by rw [served, reply_insert, done]; rfl), Request.storeAfter, changed,
        Memory.get_claim, Memory.get_put, stored]
  | save e =>
    obtain ⟨fault, refused, same⟩ | ⟨_, _, _, _, done, changed⟩ :=
      Memory.save_cases system.world.store e
    · rw [snapshot_of_idle (by rw [served, reply_save, refused]; rfl)
        (by rw [served, reply_save, refused]; rfl), Request.storeAfter, same, stored]
    · rw [snapshot_of_stored (by rw [served, reply_save, done]; rfl), Request.storeAfter, changed,
        Memory.get_put, stored]
  | delete gone =>
    obtain ⟨fault, refused, same⟩ | ⟨_, kept⟩ | ⟨e, _, done, changed⟩ :=
      Memory.delete_cases system.world.store gone
    · rw [snapshot_of_idle (by rw [served, reply_delete, refused]; rfl)
        (by rw [served, reply_delete, refused]; rfl), Request.storeAfter, same, stored]
    · rw [snapshot_of_idle (by rw [served, reply_delete, kept]; rfl)
        (by rw [served, reply_delete, kept]; rfl), Request.storeAfter, kept, stored]
    · rw [snapshot_of_removed (by rw [served, reply_delete, done]; rfl), Request.storeAfter, changed,
        Memory.get_release, Memory.get_remove, stored]
  | _ => exact (stored id).trans (snapshot_of_idle rfl rfl id).symm

theorem Chronicled.follows (chronicled : system.Chronicled)
    (found : system.threads[i]? = some ⟨client, past, .ask stage request next⟩) :
    Follows system.trace (system.served i client past stage request) := by
  have known : ∀ e, Shown past e → WasStored system.trace e := chronicled.shown i _ found
  constructor
  · intro e created
    cases request with
    | insert new =>
      obtain ⟨_, refused, _⟩ | ⟨_, _, kept⟩ | ⟨free, _, done, _⟩ :=
        Memory.insert_cases system.world.store new
      · rw [served, reply_insert, refused] at created
        cases created
      · rw [served, reply_insert, kept] at created
        cases created
      · rw [served, reply_insert, done] at created
        obtain rfl := Option.some.inj created
        obtain ⟨unplaced, own⟩ := chronicled.sound.inserts_own found rfl
        refine ⟨?_, fun old before => ?_, ?_⟩
        · obtain ⟨_, owner, kind, payload, key, n, made⟩ := chronicled.sound.allowed found
          exact ⟨owner, kind, payload, key, client.times n, by rw [own]; exact made⟩
        · rw [own]
          exact chronicled.unplaced i _ found unplaced old before
        · intro key id held keyed there owner carries
          rw [← chronicled.stored] at there
          have filed := chronicled.sound.filed id held there
          have holds := chronicled.indexed.holder_iff.2
            ⟨key, keyed, by rwa [filed], owner, carries⟩
          rw [free] at holds
          cases holds
    | _ => cases created
  · intro e updated
    cases request with
    | save new =>
      have accepted : (system.world.store.save new).1 = .ok e := by
        obtain ⟨_, refused, _⟩ | ⟨_, _, _, _, done, _⟩ := Memory.save_cases system.world.store new
        · rw [served, reply_save, refused] at updated
          cases updated
        · rw [served, reply_save, done] at updated
          obtain rfl := Option.some.inj updated
          exact done
      obtain ⟨current, request, n, there, shown, applied, admitted, rfl⟩ :=
        chronicled.sound.update found accepted
      refine ⟨current, request, client.times n, new, ?_, applied, rfl, ?_⟩
      · rw [← chronicled.stored]
        exact there
      · exact admitted.mono known
    | _ => cases updated

theorem Chronicled.indexed_serve (chronicled : system.Chronicled)
    (found : system.threads[i]? = some ⟨client, past, .ask stage request next⟩) :
    (request.storeAfter system.world.store).tables.Indexed := by
  cases request with
  | insert e => exact chronicled.indexed.insert e
  | save e =>
    refine chronicled.indexed.save fun stored there revision => ?_
    obtain ⟨_, _, _, applied, _⟩ := chronicled.sound.origin found there revision
    obtain ⟨_, made⟩ := Entity.apply_eq_ok_iff.1 applied
    rw [made, Entity.entering_key]
  | delete id => exact chronicled.indexed.delete id
  | _ => exact chronicled.indexed

theorem Chronicled.serve (chronicled : system.Chronicled)
    (found : system.threads[i]? = some ⟨client, past, .ask stage request next⟩) :
    (system.serve i client past stage request next).Chronicled := by
  have sound := chronicled.sound.serve found
  have store : (system.serve i client past stage request next).world.store =
      request.storeAfter system.world.store := system.reply_store client past request
  have stored := stored_serve chronicled.stored i client past stage request
  refine ⟨sound, ?_, ⟨chronicled.follows found, chronicled.lawful⟩, ?_, ?_, ?_, ?_⟩
  · rw [store]
    exact chronicled.indexed_serve found
  · intro id
    rw [store]
    exact stored id
  · intro j thread there e shown
    obtain ⟨rfl, rfl⟩ | ⟨_, before⟩ := thread_of_serve there
    · obtain now | earlier := shown_cons.1 shown
      · have kept := stored_of_shown chronicled.sound.filed client past request now
        rw [stored] at kept
        exact wasStored_of_snapshot kept
      · exact (chronicled.shown j _ found e earlier).later _
    · exact (chronicled.shown j thread before e shown).later _
  · intro j thread there unplaced e known
    obtain now | earlier := wasStored_cons.1 known
    · have kept : snapshot (system.served i client past stage request :: system.trace) e.id =
          some e := (snapshot_of_stored now e.id).trans (if_pos rfl)
      have unused := sound.unused j thread there unplaced
      rw [store, stored] at unused
      intro same
      rw [same, unused] at kept
      cases kept
    · obtain ⟨rfl, rfl⟩ | ⟨_, before⟩ := thread_of_serve there
      · refine chronicled.unplaced j _ found (fun exchange inside => ?_) e earlier
        exact unplaced exchange (List.mem_cons_of_mem _ inside)
      · exact chronicled.unplaced j thread before unplaced e earlier
  · intro j thread there owner key e inside
    obtain ⟨rfl, rfl⟩ | ⟨_, before⟩ := thread_of_serve there
    · rcases List.mem_cons.1 inside with now | earlier
      · obtain ⟨rfl, same⟩ := Exchange.mk.inj now
        have found : system.world.store.tables.find owner key = some e :=
          Except.ok.inj (eq_of_heq same).symm
        exact (chronicled.indexed.find_iff.1 found).2
      · exact chronicled.looked j _ found owner key e earlier
    · exact chronicled.looked j thread before owner key e inside

end Serve

/-- Every schedule of clients on a store in memory that was empty has a lawful trace. -/
theorem chronicled_run (service : Service) (clients : List Client) {world : World Memory}
    (empty : world.store.tables = Memory.empty) (distinct : (clients.map Client.id).Nodup)
    (schedule : List Nat) : ((start service clients world).run schedule).Chronicled :=
  run_induction Chronicled (fun _ _ _ _ _ _ _ found chronicled => chronicled.serve found) _
    (chronicled_start service clients empty distinct) schedule

end System

end TenantWork.Service
