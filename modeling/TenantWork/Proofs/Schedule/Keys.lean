import TenantWork.Proofs.Schedule.Interchange
/-!
Idempotency keys. Of the submissions under one key of an owner at most one has an entity at a time,
however they overlap: the others are answered with that entity, if the policy has it so and they ask
for the same, or with a conflict.
-/
namespace TenantWork.Service

open Store (Storage Memory Database WriteCall)

/-- A submission under a key. -/
structure Posting where
  owner : Owner
  kind : Kind
  payload : Json
  key : String

def Operation.posting? : Operation → Option Posting
  | .submit owner kind payload (some key) => some ⟨owner, kind, payload, key⟩
  | .submitAndDispatch owner kind payload (some key) => some ⟨owner, kind, payload, key⟩
  | _ => none

/-- An insertion that finds the key taken. -/
def Exchange.isLost : Exchange → Bool
  | ⟨.insert _, .ok (.existing _)⟩ => true
  | _ => false

def Unlost (past : List Exchange) : Prop := ∀ exchange ∈ past, exchange.isLost = false

/-- The entity that a repeated submission gets is the one found under its key, and is the same. -/
structure Replays (service : Service) (posting : Posting) (past : List Exchange) (e : Entity) :
    Prop where
  found : ⟨.find posting.owner posting.key, .ok (some e)⟩ ∈ past
  kind : e.kind = posting.kind
  payload : e.payload.same posting.payload = true
  policy : service.settings.policy posting.kind = .replay

/-- How a submission under a key may end. -/
structure Settled (service : Service) (posting : Posting) (past : List Exchange)
    (answer : Except Error Answer) : Prop where
  /-- Who loses the key is told of a conflict. -/
  lost : ¬Unlost past →
    answer = .error (.idempotencyConflict posting.owner.name posting.key)
  /-- Who succeeds without creating has the entity under the key replayed. -/
  replayed : ∀ value, answer = .ok value → (∀ exchange ∈ past, exchange.created? = none) →
    ∃ e, value = .entity e ∧ Replays service posting past e

theorem Unlost.cons {past : List Exchange} (unlost : Unlost past) {exchange : Exchange}
    (kept : exchange.isLost = false) : Unlost (exchange :: past) := by
  intro other inside
  rcases List.mem_cons.1 inside with rfl | before
  · exact kept
  · exact unlost other before

/-- The client has created its entity, and its key was free. -/
def Creates (past : List Exchange) : Prop :=
  Unlost past ∧ ∃ exchange ∈ past, ∃ e, exchange.created? = some e

theorem Creates.settled {past : List Exchange} (creates : Creates past) (service : Service)
    (posting : Posting) (answer : Except Error Answer) : Settled service posting past answer := by
  obtain ⟨unlost, exchange, inside, e, created⟩ := creates
  refine ⟨fun lost => absurd unlost lost, fun _ _ none => ?_⟩
  rw [none exchange inside] at created
  cases created

theorem Creates.obeys {α : Type} {client : Client} {past : List Exchange} {script : Script α}
    (creates : Creates past)
    (obeys : script.Obeys client (Allowed client) (fun _ _ => True) past) :
    script.Obeys client (fun past _ _ => Unlost past) (fun later _ => Creates later) past := by
  induction script generalizing past with
  | done answer => exact creates
  | ask stage request next ih =>
    obtain ⟨unlost, exchange, inside, e, created⟩ := creates
    refine ⟨unlost, fun reply truthful => ih reply ⟨unlost.cons ?_, ?_⟩ (obeys.2 reply truthful)⟩
    · cases request with
      | insert new =>
        have idle := obeys.1.1 exchange inside
        unfold Exchange.created? at created
        split at created
        · cases idle
        · cases created
      | _ => rfl
    · exact ⟨exchange, List.mem_cons_of_mem _ inside, e, created⟩

section Submissions

variable (client : Client) (service : Service) (posting : Posting)

/-- How placing an entity under a key may end. -/
def Placed (past : List Exchange) : Except Error Submission → Prop
  | .ok (.created e) => Creates past ∧ Shown past e
  | .ok (.replayed e) => Unlost past ∧ Replays service posting past e
  | .error fault =>
    ¬Unlost past → fault = .idempotencyConflict posting.owner.name posting.key

theorem place_settles :
    ((service.place posting.owner posting.kind posting.payload (some posting.key)).within
      .calling).Obeys client (fun past _ _ => Unlost past) (Placed service posting) [] := by
  have nothing : Unlost [] := fun _ inside => absurd inside List.not_mem_nil
  unfold place
  dsimp only
  split
  · exact fun lost => absurd nothing lost
  · refine ⟨nothing, fun reply _ => ?_⟩
    rcases reply with fault | _ | existing
    · exact fun lost => absurd (nothing.cons rfl) lost
    · have looked : Unlost [⟨.find posting.owner posting.key, .ok none⟩] := nothing.cons rfl
      refine ⟨looked, fun now _ => ⟨looked.cons rfl, fun id _ => ⟨(looked.cons rfl).cons rfl,
        fun reply truthful => ?_⟩⟩⟩
      have before : Unlost [⟨.newId, id⟩, ⟨.readClock, now⟩,
          ⟨.find posting.owner posting.key, .ok none⟩] := (looked.cons rfl).cons rfl
      rcases reply with fault | created | existing
      · exact fun lost => absurd (before.cons rfl) lost
      · exact ⟨⟨before.cons rfl, _, List.mem_cons_self, created, rfl⟩,
          shown_cons.2 (.inl List.mem_cons_self)⟩
      · exact fun _ => rfl
    · show Placed service posting _ (service.replay existing posting.kind posting.payload posting.key)
      rw [replay]
      split
      next same =>
        obtain ⟨policy, kind, payload⟩ := same
        exact ⟨nothing.cons rfl, List.mem_cons_self, kind, payload, policy⟩
      next => exact fun lost => absurd (nothing.cons rfl) lost

theorem submission_settles (operation : Operation) (posts : operation.posting? = some posting) :
    (operation.script service).Obeys client (fun past _ _ => Unlost past)
      (Settled service posting) [] := by
  have placed := place_settles client service posting
  have failed (later : List Exchange) (fault : Error)
      (met : Placed service posting later (.error fault)) :
      Settled service posting later (.error fault) :=
    ⟨fun lost => by rw [met lost], fun _ impossible => (nomatch impossible)⟩
  have replayed (later : List Exchange) (e : Entity)
      (met : Placed service posting later (.ok (.replayed e))) :
      Settled service posting later (.ok (.entity e)) := by
    refine ⟨fun lost => absurd met.1 lost, fun value same _ => ⟨e, ?_, met.2⟩⟩
    exact (Except.ok.inj same).symm
  cases operation with
  | submit owner kind payload key =>
    cases key with
    | none => cases posts
    | some text =>
      obtain rfl := Option.some.inj posts
      simp only [Operation.script, Operation.call, submit, Program.within_mapOk,
        Program.within_andThen]
      refine Script.Obeys.mapOk (fun later answer => Settled service _ later (answer.map .entity))
        (placed.andThen _ (fun later fault _ met => failed later fault met)
          fun later submission _ met => ?_) fun _ _ _ met => met
      cases submission with
      | created e => exact met.1.settled service _ _
      | replayed e => exact replayed later e met
  | submitAndDispatch owner kind payload key =>
    cases key with
    | none => cases posts
    | some text =>
      obtain rfl := Option.some.inj posts
      refine Script.Obeys.mapOk (fun later answer => Settled service _ later (answer.map .entity))
        (placed.andThen _ (fun later fault _ met => failed later fault met)
          fun later submission _ met => ?_) fun _ _ _ met => met
      cases submission with
      | created e =>
        obtain ⟨creates, shown⟩ := met
        refine (creates.obeys (handOver_obeys client service shown)).weaken ?_
        exact fun last answer _ still => still.settled service _ _
      | replayed e => exact replayed later e met
  | _ => cases posts

end Submissions

/-! ## Creations -/

/-- What was created and not removed since still holds its key. -/
theorem Lawful.holds {trace : List Step} (lawful : Lawful trace) {old : Entity}
    (since : Since (fun step => step.exchange.created? = some old)
      (fun step => step.exchange.removed? = some old.id) trace) :
    ∃ held, snapshot trace old.id = some held ∧ held.owner = old.owner ∧ held.key = old.key := by
  induction trace with
  | nil => cases since
  | cons step earlier ih =>
    obtain ⟨follows, lawful⟩ := lawful
    obtain created | ⟨kept, since⟩ := since
    · refine ⟨old, ?_, rfl, rfl⟩
      rw [snapshot_of_stored (Exchange.stored?_of_created? created), if_pos rfl]
    obtain ⟨held, there, owner, key⟩ := ih lawful since
    cases stored : step.exchange.stored? with
    | some e =>
      rw [snapshot_of_stored stored]
      by_cases here : old.id = e.id
      · rw [if_pos here]
        obtain created | updated := Exchange.stored?_cases stored
        · have fresh := (follows.created e created).2.1 held (wasStored_of_snapshot there)
          exact absurd ((snapshot_id there).trans here) fresh
        · obtain ⟨current, request, now, next, found, applied, rfl, _⟩ := follows.updated e updated
          obtain ⟨_, made⟩ := Entity.apply_eq_ok_iff.1 applied
          rw [← here, there] at found
          obtain rfl := Option.some.inj found
          refine ⟨next.bumped, rfl, ?_, ?_⟩
          · show next.owner = old.owner
            rw [made, Entity.entering_owner, owner]
          · show next.key = old.key
            rw [made, Entity.entering_key, key]
      · rw [if_neg here]
        exact ⟨held, there, owner, key⟩
    | none =>
      refine ⟨held, ?_, owner, key⟩
      cases removed : step.exchange.removed? with
      | some gone =>
        rw [snapshot_of_removed removed, if_neg, there]
        rintro rfl
        exact kept removed
      | none => rw [snapshot, stored, removed, there]

/-- Between two creations under one key the first entity was removed. -/
theorem Lawful.separated {middle before : List Step} {first second : Step}
    {old new : Entity} {key : String} (lawful : Lawful (second :: middle ++ first :: before))
    (createdOld : first.exchange.created? = some old)
    (createdNew : second.exchange.created? = some new) (owner : old.owner = new.owner)
    (keyOld : old.key = some key) (keyNew : new.key = some key) :
    ∃ step ∈ middle, step.exchange.removed? = some old.id := by
  apply Classical.byContradiction
  intro none
  have since : Since (fun step => step.exchange.created? = some old)
      (fun step => step.exchange.removed? = some old.id) (middle ++ first :: before) :=
    since_iff.2 ⟨middle, first, before, rfl, createdOld,
      fun step inside removed => none ⟨step, inside, removed⟩⟩
  obtain ⟨held, there, owned, carries⟩ := lawful.2.holds since
  have free := (lawful.1.created new createdNew).2.2
  exact free key old.id held keyNew there (owned.trans owner) (carries.trans keyOld)

/-! ## Systems -/

/-- What holds of the keys of a system; `index` is the id that an owner's key leads to. -/
structure System.KeysHeld {Tables : Type} [Storage Tables] (service : Service)
    (index : Tables → Owner → String → Option EntityId) (system : System Tables) : Prop where
  /-- A key leads to the entity that carries it, and to nothing if there is none. -/
  indexed : ∀ owner key id, index system.world.store.tables owner key = some id ↔
    ∃ e, system.world.store.get id = .ok (some e) ∧ e.owner = owner ∧ e.key = some key
  /-- No two entities of one owner carry the same key. -/
  single : ∀ a b x y key, system.world.store.get a = .ok (some x) →
    system.world.store.get b = .ok (some y) → x.owner = y.owner → x.key = some key →
      y.key = some key → a = b
  /-- Between two creations under one key of an owner the first entity was removed. -/
  separated : ∀ later second middle first before,
    system.trace = later ++ second :: middle ++ first :: before → ∀ old new key,
      first.exchange.created? = some old → second.exchange.created? = some new →
        old.owner = new.owner → old.key = some key → new.key = some key →
          ∃ step ∈ middle, step.exchange.removed? = some old.id
  /-- Who saw the key free and lost it is told of a conflict. -/
  lost : ∀ (i : Nat) (thread : Thread) (posting : Posting), system.threads[i]? = some thread →
    thread.client.operation.posting? = some posting → ∀ new held,
      ⟨.insert new, .ok (.existing held)⟩ ∈ thread.past →
        thread.answer? = some (.error (.idempotencyConflict posting.owner.name posting.key))
  /-- Who succeeds without creating has read the entity under the key, and asked for the same. -/
  replayed : ∀ (i : Nat) (thread : Thread) (posting : Posting) (answer : Answer),
    system.threads[i]? = some thread →
    thread.client.operation.posting? = some posting → thread.answer? = some (.ok answer) →
      (∀ exchange ∈ thread.past, exchange.created? = none) →
        ∃ e, answer = .entity e ∧ Replays service posting thread.past e ∧
          e.owner = posting.owner ∧ e.key = some posting.key

namespace System

variable (service : Service) (clients : List Client)

/-- Whatever the schedule, submissions under a key end as they should. -/
theorem settled_run {world : World Memory} (filed : world.store.tables.Filed)
    (schedule : List Nat) :
    ((start service clients world).run schedule).Disciplined
      (fun client past _ _ => ∀ posting, client.operation.posting? = some posting → Unlost past)
      (fun client past answer => ∀ posting, client.operation.posting? = some posting →
        Settled service posting past answer) := by
  refine disciplined_in_memory filed (fun client _ => ?_) schedule
  cases posts : client.operation.posting? with
  | none =>
    refine (script_obeys client service client.operation).imp ?_ ?_
    · intro _ _ _ _ posting impossible
      cases impossible
    · intro _ _ _ posting impossible
      cases impossible
  | some posting =>
    refine (submission_settles client service posting client.operation posts).imp ?_ ?_
    · intro _ _ _ unlost _ _
      exact unlost
    · intro _ _ settled other same
      rw [← Option.some.inj same]
      exact settled

theorem keysHeld_memory {world : World Memory} (empty : world.store.tables = Memory.empty)
    (distinct : (clients.map Client.id).Nodup) (schedule : List Nat) :
    ((start service clients world).run schedule).KeysHeld service Memory.keyId? := by
  have chronicled := chronicled_run service clients empty distinct schedule
  have settled := settled_run service clients (empty ▸ Memory.filed_empty) schedule
  have stored (system : System Memory) (id : EntityId) (e : Entity) :
      system.world.store.get id = .ok (some e) ↔ system.world.store.tables.get id = some e :=
    ⟨Except.ok.inj, congrArg Except.ok⟩
  refine ⟨?_, ?_, ?_, ?_, ?_⟩
  · intro owner key id
    simp only [stored]
    exact chronicled.indexed.index owner key id
  · intro a b x y key foundA foundB owner keyA keyB
    rw [stored] at foundA foundB
    have indexed := chronicled.indexed
    have listedA := (indexed.index y.owner key a).2 ⟨x, foundA, owner, keyA⟩
    have listedB := (indexed.index y.owner key b).2 ⟨y, foundB, rfl, keyB⟩
    exact Option.some.inj (listedA.symm.trans listedB)
  · intro later second middle first before split old new key createdOld createdNew owner keyOld
      keyNew
    have lawful := chronicled.lawful
    rw [split, List.append_assoc] at lawful
    exact lawful.suffix.separated createdOld createdNew owner keyOld keyNew
  · intro i thread posting found posts new held inside
    have obeys := settled i thread found
    have lost : ¬Unlost thread.past := by
      intro unlost
      have kept := unlost _ inside
      cases kept
    obtain ⟨client, past, script⟩ := thread
    cases script with
    | done answer => exact congrArg some ((obeys posting posts).lost lost)
    | ask stage request next => exact absurd (obeys.1 posting posts) lost
  · intro i thread posting answer found posts answered none
    have obeys := settled i thread found
    have looked := chronicled.looked i thread found
    obtain ⟨client, past, script⟩ := thread
    cases script with
    | done result =>
      obtain rfl := Option.some.inj answered
      obtain ⟨e, same, replays⟩ := (obeys posting posts).replayed answer rfl none
      obtain ⟨owner, key⟩ := looked posting.owner posting.key e replays.found
      exact ⟨e, same, replays, owner, key⟩
    | ask stage request next => cases answered

theorem KeysHeld.alike {α β : Type} [Storage α] [Storage β] {a : System α} {b : System β}
    {service : Service} {indexA : α → Owner → String → Option EntityId}
    {indexB : β → Owner → String → Option EntityId} (held : b.KeysHeld service indexB)
    (alike : a.Alike b) (get : ∀ id, a.world.store.get id = b.world.store.get id)
    (index : ∀ owner key, indexA a.world.store.tables owner key =
      indexB b.world.store.tables owner key) : a.KeysHeld service indexA := by
  obtain ⟨indexed, single, separated, lost, replayed⟩ := held
  rw [← alike.threads] at lost replayed
  rw [← alike.trace] at separated
  simp only [← get, ← index] at indexed single
  exact ⟨indexed, single, separated, lost, replayed⟩

end System

/-- One creation for one key. On an empty store of either kind, whatever the gate and the executors
do and however the calls overlap, a key of an owner leads at every moment to the one entity that
carries it, two creations under it are separated by a removal, and the other submissions under it
are replays or conflicts. For a database the JSON that comes to be stored is read back and the
clocks show universal time in years of four digits. -/
theorem one_creation_per_key (service : Service) (clients : List Client)
    (executors : List Executor) (rule : List WriteCall → WriteCall → Except Error Unit)
    (distinct : (clients.map Client.id).Nodup) (schedule : List Nat) :
    let memory := (System.onEmpty service clients executors rule : System Memory).run schedule
    let database := (System.onEmpty service clients executors rule : System Database).run schedule
    memory.KeysHeld service Memory.keyId? ∧
      ((∀ client ∈ clients, ∀ n, Time.Rfc3339.InRange (client.times n)) →
        (∀ e, WasStored database.trace e → e.Readable) →
          database.KeysHeld service Database.keyId?) := by
  refine ⟨System.keysHeld_memory service clients rfl distinct schedule, fun dated readable => ?_⟩
  obtain ⟨alike, get, index⟩ := System.reads_run distinct dated schedule rfl rfl readable
  exact (System.keysHeld_memory service clients rfl distinct schedule).alike alike get index

/-- Two submissions under one key overlap: the slower one is told of a conflict. -/
theorem one_creation_in_race :
    let owner : Owner := ⟨"acme", by decide⟩
    let service : Service := ⟨.default, [], List.nodup_nil, nofun⟩
    let clients : List Client := [
      ⟨.submit owner .job .null (some "nightly"), ⟨"a"⟩, fun _ => .epoch⟩,
      ⟨.submitAndDispatch owner .job .null (some "nightly"), ⟨"b"⟩, fun _ => .epoch⟩]
    let schedule := [0, 1, 0, 0, 0, 1, 1, 1]
    let memory : System Memory := (System.onEmpty service clients [] fun _ _ => .ok ()).run schedule
    let database : System Database :=
      (System.onEmpty service clients [] fun _ _ => .ok ()).run schedule
    memory.answer? 1 = some (.error (.idempotencyConflict "acme" "nightly")) ∧
      memory.KeysHeld service Memory.keyId? ∧ database.KeysHeld service Database.keyId? := by
  refine ⟨rfl, (one_creation_per_key _ _ _ _ (by decide) _).1,
    (one_creation_per_key _ _ _ _ (by decide) _).2 ?_
      (System.readable_in_database (by decide) ?_ (by decide) (by decide))⟩
  · simp [Time.Rfc3339.inRange_epoch]
  · simp [Time.Rfc3339.inRange_epoch]

end TenantWork.Service
