import TenantWork.Proofs.Schedule.Discipline
import TenantWork.Proofs.Store.MemoryCalls
/-!
Snapshots and the store in memory. However the clients' steps fall, a snapshot that a client holds
is the stored one or has a lower revision than the stored one. An update that goes through has
therefore replaced exactly the snapshot it was made from, whatever happened since that was read.
-/
namespace TenantWork.Service

open Store (Storage Memory)

/-! ## Replies -/

section Replies

variable {Tables : Type}

theorem World.start_store (world : World Tables) (name : String) (e : Entity) (dispatch : String) :
    (world.start name e dispatch).2.store = world.store := by
  unfold start
  dsimp only
  split
  · rfl
  · rfl

variable [Storage Tables]

def Request.storeAfter (store : Store Tables) : Request → Store Tables
  | .insert e => (store.insert e).2
  | .save e => (store.save e).2
  | .delete id => (store.delete id).2
  | _ => store

theorem World.answer_store (world : World Tables) (request : Request) :
    (world.answer request).2.store = request.storeAfter world.store := by
  cases request with
  | start name e dispatch => exact world.start_store name e dispatch
  | _ => rfl

namespace System

variable (system : System Tables) (client : Client) (past : List Exchange)

theorem reply_store (request : Request) :
    (system.reply client past request).2.store = request.storeAfter system.world.store :=
  World.answer_store _ request

theorem reply_insert (e : Entity) :
    (system.reply client past (.insert e)).1 = (system.world.store.insert e).1 := rfl

theorem reply_save (e : Entity) :
    (system.reply client past (.save e)).1 = (system.world.store.save e).1 := rfl

theorem reply_delete (id : EntityId) :
    (system.reply client past (.delete id)).1 = (system.world.store.delete id).1 := rfl

end System

end Replies

theorem Memory.filed_storeAfter {store : Store Memory} (filed : store.tables.Filed)
    (request : Request) : (request.storeAfter store).tables.Filed := by
  cases request with
  | insert e => exact filed.insert e
  | save e => exact filed.save e
  | delete id => exact filed.delete id
  | _ => exact filed

theorem System.reply_truthful {system : System Memory}
    (filed : system.world.store.tables.Filed) (client : Client) (past : List Exchange)
    (request : Request) :
    Exchange.Truthful client ⟨request, (system.reply client past request).1⟩ := by
  cases request with
  | readClock => exact ⟨past.length, rfl⟩
  | newId => rfl
  | load id =>
    have reply : (system.reply client past (.load id)).1 = .ok (system.world.store.tables.get id) := rfl
    rw [reply]
    cases found : system.world.store.tables.get id with
    | none => trivial
    | some e => exact filed id e found
  | insert e =>
    rw [reply_insert]
    obtain ⟨fault, refused, _⟩ | ⟨held, _, kept⟩ | ⟨_, _, done, _⟩ :=
      Memory.insert_cases system.world.store e
    · rw [refused]
      trivial
    · rw [kept]
      trivial
    · rw [done]
      rfl
  | save e =>
    rw [reply_save]
    obtain ⟨fault, refused, _⟩ | ⟨_, _, _, _, done, _⟩ := Memory.save_cases system.world.store e
    · rw [refused]
      trivial
    · rw [done]
      rfl
  | _ => trivial

/-! ## The invariant -/

def Unplaced (past : List Exchange) : Prop := ∀ exchange ∈ past, exchange.isInsert = false

/-- The stored snapshot is the one of before, or one of a higher revision. -/
def Advanced (tables later : Memory) (id : EntityId) : Prop :=
  ∀ stored, later.get id = some stored → tables.get id = some stored ∨
    ∃ old, tables.get id = some old ∧ old.revision < stored.revision

/-- No request but the insertion of an id takes it back to a lower revision. -/
theorem advanced_storeAfter (store : Store Memory) (request : Request) (id : EntityId)
    (other : ∀ e, request = .insert e → e.id ≠ id) :
    Advanced store.tables (request.storeAfter store).tables id := by
  intro stored found
  cases request with
  | insert e =>
    have apart : id ≠ e.id := fun same => other e rfl same.symm
    obtain ⟨_, _, same⟩ | ⟨_, _, same⟩ | ⟨_, _, _, changed⟩ := Memory.insert_cases store e
    · left
      rwa [Request.storeAfter, same] at found
    · left
      rwa [Request.storeAfter, same] at found
    · left
      rwa [Request.storeAfter, changed, Memory.get_claim, Memory.get_put, if_neg apart] at found
  | save e =>
    obtain ⟨_, _, same⟩ | ⟨old, there, _, revision, _, changed⟩ := Memory.save_cases store e
    · left
      rwa [Request.storeAfter, same] at found
    · rw [Request.storeAfter, changed, Memory.get_put] at found
      split at found
      next here =>
        right
        obtain rfl := Option.some.inj found
        refine ⟨old, ?_, ?_⟩
        · rw [here]
          exact there
        · rw [revision]
          exact Nat.lt_succ_self _
      next => exact .inl found
  | delete gone =>
    left
    obtain ⟨_, _, same⟩ | ⟨_, same⟩ | ⟨_, _, _, changed⟩ := Memory.delete_cases store gone
    · rwa [Request.storeAfter, same] at found
    · rwa [Request.storeAfter, same] at found
    · rw [Request.storeAfter, changed, Memory.get_release, Memory.get_remove] at found
      split at found
      · cases found
      · exact found
  | _ => exact .inl found

theorem stored_of_shown {system : System Memory} (filed : system.world.store.tables.Filed)
    (client : Client) (past : List Exchange) (request : Request) {e : Entity}
    (shown : e ∈ Exchange.shown ⟨request, (system.reply client past request).1⟩) :
    (request.storeAfter system.world.store).tables.get e.id = some e := by
  cases request with
  | load id =>
    have reply : (system.reply client past (.load id)).1 = .ok (system.world.store.tables.get id) := rfl
    rw [reply] at shown
    cases found : system.world.store.tables.get id with
    | none => simp [found, Exchange.shown] at shown
    | some stored =>
      obtain rfl : e = stored := by simpa [found, Exchange.shown] using shown
      rw [filed id e found]
      exact found
  | find owner key =>
    have reply : (system.reply client past (.find owner key)).1 =
        .ok (system.world.store.tables.find owner key) := rfl
    rw [reply] at shown
    cases found : system.world.store.tables.find owner key with
    | none => simp [found, Exchange.shown] at shown
    | some stored =>
      obtain rfl : e = stored := by simpa [found, Exchange.shown] using shown
      obtain ⟨id, _, here⟩ := Option.bind_eq_some_iff.1 found
      rw [filed id e here]
      exact here
  | insert new =>
    rw [System.reply_insert] at shown
    obtain ⟨fault, refused, _⟩ | ⟨held, holds, kept⟩ | ⟨_, _, done, changed⟩ :=
      Memory.insert_cases system.world.store new
    · simp [refused, Exchange.shown] at shown
    · obtain rfl : e = held := by simpa [kept, Exchange.shown] using shown
      rw [Request.storeAfter, kept]
      obtain ⟨key, _, found⟩ := Option.bind_eq_some_iff.1 holds
      obtain ⟨id, _, here⟩ := Option.bind_eq_some_iff.1 found
      rw [filed id e here]
      exact here
    · obtain rfl : e = new := by simpa [done, Exchange.shown] using shown
      rw [Request.storeAfter, changed, Memory.get_claim, Memory.get_put, if_pos rfl]
  | save next =>
    rw [System.reply_save] at shown
    obtain ⟨fault, refused, _⟩ | ⟨_, _, _, _, done, changed⟩ :=
      Memory.save_cases system.world.store next
    · simp [refused, Exchange.shown] at shown
    · obtain rfl : e = next.bumped := by simpa [done, Exchange.shown] using shown
      rw [Request.storeAfter, changed, Memory.get_put, if_pos rfl]
  | _ => simp [Exchange.shown] at shown

namespace System

/-- Every client keeps to a rule of its own. -/
def Disciplined {Tables : Type} (system : System Tables)
    (allows : Client → List Exchange → Stage → Request → Prop)
    (ends : Client → List Exchange → Except Error Answer → Prop) : Prop :=
  ∀ (i : Nat) (thread : Thread), system.threads[i]? = some thread →
    thread.script.Obeys thread.client (allows thread.client) (ends thread.client) thread.past

theorem Disciplined.serve {Tables : Type} [Storage Tables] {system : System Tables}
    {allows : Client → List Exchange → Stage → Request → Prop}
    {ends : Client → List Exchange → Except Error Answer → Prop}
    (disciplined : system.Disciplined allows ends) {i : Nat} {client : Client}
    {past : List Exchange} {stage : Stage} {request : Request}
    {next : request.Reply → Script (Except Error Answer)}
    (found : system.threads[i]? = some ⟨client, past, .ask stage request next⟩)
    (truthful : Exchange.Truthful client ⟨request, (system.reply client past request).1⟩) :
    (system.serve i client past stage request next).Disciplined allows ends := by
  intro j thread there
  obtain ⟨rfl, rfl⟩ | ⟨_, before⟩ := thread_of_serve there
  · exact (disciplined j _ found).2 _ truthful
  · exact disciplined j thread before

section Runs

variable {Tables : Type} [Storage Tables] {service : Service} {clients : List Client}
  {allows : Client → List Exchange → Stage → Request → Prop}
  {ends : Client → List Exchange → Except Error Answer → Prop}

/-- Clients that keep to a rule from the beginning keep to it in every schedule, on any tables whose
replies they may rely on. -/
theorem disciplined_run {world : World Tables} (sound : Tables → Prop)
    (truthful : ∀ system : System Tables, sound system.world.store.tables → ∀ client past request,
      Exchange.Truthful client ⟨request, (system.reply client past request).1⟩)
    (kept : ∀ (store : Store Tables) (request : Request), sound store.tables →
      sound (request.storeAfter store).tables) (initially : sound world.store.tables)
    (begins : ∀ client ∈ clients,
      (client.operation.script service).Obeys client (allows client) (ends client) [])
    (schedule : List Nat) :
    ((start service clients world).run schedule).Disciplined allows ends := by
  have holds := run_induction
    (fun system => sound system.world.store.tables ∧ system.Disciplined allows ends)
    (fun system i client past stage request next found holds => ?_) (start service clients world)
    ⟨initially, fun i thread found => ?_⟩ schedule
  · exact holds.2
  · refine ⟨?_, holds.2.serve found (truthful system holds.1 client past request)⟩
    rw [serve_world, reply_store]
    exact kept system.world.store request holds.1
  · obtain ⟨here, same⟩ := thread_of_start found
    rw [same]
    exact begins _ (List.mem_of_getElem? here)

theorem disciplined_in_memory {world : World Memory} (filed : world.store.tables.Filed)
    (begins : ∀ client ∈ clients,
      (client.operation.script service).Obeys client (allows client) (ends client) [])
    (schedule : List Nat) :
    ((start service clients world).run schedule).Disciplined allows ends :=
  disciplined_run Memory.Filed (fun _ filed => reply_truthful filed)
    (fun _ request filed => Memory.filed_storeAfter filed request) filed begins schedule

end Runs

/-- What holds of the clients and the store in memory however the steps fall. -/
structure Sound (system : System Memory) : Prop where
  filed : system.world.store.tables.Filed
  /-- No two clients create entities under one id. -/
  distinct : ∀ (i j : Nat) (a b : Thread), system.threads[i]? = some a →
    system.threads[j]? = some b → a.client.id = b.client.id → i = j
  /-- The id of a client that has not inserted yet is unused. -/
  unused : ∀ (i : Nat) (thread : Thread), system.threads[i]? = some thread →
    Unplaced thread.past → system.world.store.tables.get thread.client.id = none
  /-- Nobody has been shown an entity under such an id. -/
  unseen : ∀ (i j : Nat) (thread other : Thread), system.threads[i]? = some thread →
    system.threads[j]? = some other → Unplaced other.past →
    ∀ e, Shown thread.past e → e.id ≠ other.client.id
  /-- A snapshot in hand is the stored one or is older. -/
  current : ∀ (i : Nat) (thread : Thread), system.threads[i]? = some thread →
    ∀ e stored, Shown thread.past e → system.world.store.tables.get e.id = some stored →
      stored = e ∨ e.revision < stored.revision
  lawful : system.Disciplined Allowed fun _ _ _ => True

theorem sound_start (service : Service) (clients : List Client) {world : World Memory}
    (filed : world.store.tables.Filed) (distinct : (clients.map Client.id).Nodup)
    (fresh : ∀ client ∈ clients, world.store.tables.get client.id = none) :
    (start service clients world).Sound := by
  have unseen {i : Nat} {thread : Thread}
      (found : (start service clients world).threads[i]? = some thread) (e : Entity) :
      ¬Shown thread.past e := by
    obtain ⟨_, same⟩ := thread_of_start found
    rw [same]
    simp [Shown]
  refine ⟨filed, ?_, ?_, ?_, ?_, ?_⟩
  · intro i j a b foundA foundB same
    have placeA : (clients.map Client.id)[i]? = some a.client.id := by
      rw [List.getElem?_map, (thread_of_start foundA).1]
      rfl
    have placeB : (clients.map Client.id)[j]? = some a.client.id := by
      rw [List.getElem?_map, (thread_of_start foundB).1, same]
      rfl
    have inside := (List.getElem?_eq_some_iff.1 placeA).1
    exact (List.getElem?_inj inside distinct).1 (placeA.trans placeB.symm)
  · intro i thread found _
    exact fresh _ (List.mem_of_getElem? (thread_of_start found).1)
  · intro i j thread other found _ _ e shown
    exact absurd shown (unseen found e)
  · intro i thread found e _ shown
    exact absurd shown (unseen found e)
  · intro i thread found
    obtain ⟨_, same⟩ := thread_of_start found
    rw [same]
    exact script_obeys _ _ _

section Serve

variable {system : System Memory} {i : Nat} {client : Client} {past : List Exchange}
  {stage : Stage} {request : Request} {next : request.Reply → Script (Except Error Answer)}

theorem Sound.allowed (sound : system.Sound)
    (found : system.threads[i]? = some ⟨client, past, .ask stage request next⟩) :
    Allowed client past stage request := (sound.lawful i _ found).1

theorem Sound.inserts_own (sound : system.Sound)
    (found : system.threads[i]? = some ⟨client, past, .ask stage request next⟩) {e : Entity}
    (inserts : request = .insert e) : Unplaced past ∧ e.id = client.id := by
  subst inserts
  obtain ⟨unplaced, owner, kind, payload, key, n, rfl⟩ := sound.allowed found
  exact ⟨unplaced, rfl⟩

/-- An id that no client on its way may insert any more only moves on. -/
theorem Sound.advanced (sound : system.Sound)
    (found : system.threads[i]? = some ⟨client, past, .ask stage request next⟩) {id : EntityId}
    (apart : Unplaced past → id ≠ client.id) :
    Advanced system.world.store.tables (request.storeAfter system.world.store).tables id := by
  refine advanced_storeAfter _ _ _ fun e inserts same => ?_
  obtain ⟨unplaced, own⟩ := sound.inserts_own found inserts
  exact apart unplaced (same.symm.trans own)

/-- A client is after a step where it was before, but for what it was shown. -/
theorem Sound.before (sound : system.Sound)
    (found : system.threads[i]? = some ⟨client, past, .ask stage request next⟩) {j : Nat}
    {thread : Thread}
    (there : (system.serve i client past stage request next).threads[j]? = some thread) :
    ∃ old, system.threads[j]? = some old ∧ old.client = thread.client ∧
      old.past <:+ thread.past ∧ ∀ e, Shown thread.past e → Shown old.past e ∨
        (request.storeAfter system.world.store).tables.get e.id = some e := by
  obtain ⟨rfl, rfl⟩ | ⟨_, same⟩ := thread_of_serve there
  · refine ⟨_, found, rfl, List.suffix_cons _ _, fun e shown => ?_⟩
    obtain now | earlier := shown_cons.1 shown
    · exact .inr (stored_of_shown sound.filed client past request now)
    · exact .inl earlier
  · exact ⟨thread, same, rfl, List.suffix_rfl, fun e shown => .inl shown⟩

theorem Sound.unused_serve (sound : system.Sound)
    (found : system.threads[i]? = some ⟨client, past, .ask stage request next⟩) {j : Nat}
    {thread : Thread}
    (there : (system.serve i client past stage request next).threads[j]? = some thread)
    (unplaced : Unplaced thread.past) :
    (request.storeAfter system.world.store).tables.get thread.client.id = none := by
  obtain ⟨old, here, same, grown, _⟩ := sound.before found there
  have free := sound.unused j old here fun exchange inside =>
    unplaced exchange (grown.subset inside)
  rw [same] at free
  have apart (e : Entity) (inserts : request = .insert e) : e.id ≠ thread.client.id := by
    intro clash
    rw [(sound.inserts_own found inserts).2, ← same] at clash
    obtain rfl := sound.distinct i j _ old found here clash
    obtain ⟨_, rfl⟩ | ⟨apart, _⟩ := thread_of_serve there
    · have inserted := unplaced _ List.mem_cons_self
      subst inserts
      cases inserted
    · exact apart rfl
  cases stored : (request.storeAfter system.world.store).tables.get thread.client.id with
  | none => rfl
  | some e =>
    obtain same | ⟨e', same, _⟩ := advanced_storeAfter _ request _ apart e stored <;>
      rw [free] at same <;> cases same

theorem Sound.serve (sound : system.Sound)
    (found : system.threads[i]? = some ⟨client, past, .ask stage request next⟩) :
    (system.serve i client past stage request next).Sound := by
  have filed := Memory.filed_storeAfter sound.filed request
  have tables : (system.serve i client past stage request next).world.store =
      request.storeAfter system.world.store := system.reply_store client past request
  refine ⟨?_, ?_, ?_, ?_, ?_, ?_⟩
  · rw [tables]
    exact filed
  · intro j k a b foundA foundB same
    obtain ⟨oldA, hereA, clientA, _⟩ := sound.before found foundA
    obtain ⟨oldB, hereB, clientB, _⟩ := sound.before found foundB
    exact sound.distinct j k oldA oldB hereA hereB (by rw [clientA, clientB, same])
  · rw [tables]
    intro j thread there unplaced
    exact sound.unused_serve found there unplaced
  · intro j k thread other there here unplaced e shown
    obtain ⟨old, thereOld, _, _, shows⟩ := sound.before found there
    obtain ⟨oldOther, hereOld, clientOther, grown, _⟩ := sound.before found here
    obtain earlier | now := shows e shown
    · rw [← clientOther]
      exact sound.unseen j k old oldOther thereOld hereOld
        (fun exchange inside => unplaced exchange (grown.subset inside)) e earlier
    · intro clash
      rw [clash, sound.unused_serve found here unplaced] at now
      cases now
  · rw [tables]
    intro j thread there e stored shown kept
    obtain ⟨old, thereOld, _, _, shows⟩ := sound.before found there
    obtain earlier | now := shows e shown
    · have moved := sound.advanced found fun unplaced =>
        sound.unseen j i old _ thereOld found unplaced e earlier
      obtain same | ⟨middle, same, higher⟩ := moved stored kept
      · exact sound.current j old thereOld e stored earlier same
      · obtain rfl | lower := sound.current j old thereOld e middle earlier same
        · exact .inr higher
        · exact .inr (Nat.lt_trans lower higher)
    · exact .inl (Option.some.inj (kept.symm.trans now))
  · exact sound.lawful.serve found (reply_truthful sound.filed client past request)

/-- A stored snapshot of the revision of an update is the one that the update was made from. -/
theorem Sound.origin {e stored : Entity}
    {next : (Request.save e).Reply → Script (Except Error Answer)} (sound : system.Sound)
    (found : system.threads[i]? = some ⟨client, past, .ask stage (.save e) next⟩)
    (there : system.world.store.tables.get e.id = some stored)
    (revision : stored.revision = e.revision) :
    ∃ request n, Shown past stored ∧ stored.apply request (client.times n) = .ok e ∧
      stage.Admits (Shown past) stored request := by
  obtain ⟨current, request, n, shown, applied, admitted⟩ := sound.allowed found
  obtain ⟨_, same⟩ := Entity.apply_eq_ok_iff.1 applied
  have id : e.id = current.id := by rw [same, Entity.entering_id]
  have made : e.revision = current.revision := by rw [same, Entity.entering_revision]
  rw [id] at there
  obtain rfl | older := sound.current i _ found current stored shown there
  · exact ⟨request, n, shown, applied, admitted⟩
  · omega

/-- An update goes through only on the snapshot it was made from. -/
theorem Sound.update {e saved : Entity}
    {next : (Request.save e).Reply → Script (Except Error Answer)} (sound : system.Sound)
    (found : system.threads[i]? = some ⟨client, past, .ask stage (.save e) next⟩)
    (accepted : (system.world.store.save e).1 = .ok saved) :
    ∃ current request n, system.world.store.tables.get e.id = some current ∧ Shown past current ∧
      current.apply request (client.times n) = .ok e ∧
      stage.Admits (Shown past) current request ∧ saved = e.bumped := by
  obtain ⟨fault, refused, _⟩ | ⟨stored, there, _, revision, done, _⟩ :=
    Memory.save_cases system.world.store e
  · rw [refused] at accepted
    cases accepted
  · obtain ⟨request, n, shown, applied, admitted⟩ := sound.origin found there revision
    refine ⟨stored, request, n, there, shown, applied, admitted, ?_⟩
    exact Except.ok.inj (accepted.symm.trans done)

end Serve

end System

end TenantWork.Service
