import TenantWork.Proofs.Calls.Alone
import TenantWork.Proofs.Calls.Contents
import TenantWork.Proofs.Schedule.Backends
/-!
Calls that fail leave no trace. Whatever the gate shuts out and wherever a call turns back, a call
that fails has changed neither entities nor keys and told nobody; one that succeeds has changed one
entity, with its key, and nothing else. This holds on every store that calls can lead to.
-/
namespace TenantWork.Service

open Store (Storage Memory Database Gate WriteCall Contents WritesOne Inserted Replaced Removed)

/-! ## What an operation may do -/

/-- The operations that change one entity. -/
def Operation.changesOne : Operation → Bool
  | .submit _ _ _ _ | .transition _ _ _ | .cancel _ _ | .retry _ _ | .delete _ _
  | .adminDelete _ _ | .complete _ _ => true
  | _ => false

section Effects

variable {Tables : Type} [Storage Tables] [Contents Tables] (tables : Tables)
  (ledger : List (Entity × Entity)) (after : World Tables)

/-- An entity has been replaced by its next snapshot, and the observers have been told. -/
def Moved (id : EntityId) (e : Entity) : Prop :=
  e.id = id ∧ Replaced e tables after.store.tables ∧
    ∃ current, Storage.get tables id = .ok (some current) ∧ after.ledger = (current, e) :: ledger

/-- An entity has been removed. -/
def Gone (id : EntityId) : Prop :=
  ∃ e, Storage.get tables id = .ok (some e) ∧ Removed e tables after.store.tables ∧
    after.ledger = ledger

/-- An entity has been inserted, or the answer is the one that was there under the key. -/
def Submitted (owner : Owner) (key : Option String) (e : Entity) : Prop :=
  Inserted e tables after.store.tables ∧ after.ledger = ledger ∨
    after.Holds tables ledger ∧
      ∃ text, key = some text ∧ Storage.find tables owner text = .ok (some e)

/-- What an operation that succeeds has done. -/
def Operation.Effect : Operation → Answer → Prop
  | .submit owner _ _ key, .entity e => Submitted tables ledger after owner key e
  | .transition _ id _, .entity e => Moved tables ledger after id e
  | .cancel _ id, .entity e => Moved tables ledger after id e
  | .retry _ id, .entity e => Moved tables ledger after id e
  | .complete address _, .entity e => Moved tables ledger after address.entity e
  | .delete _ id, .nothing => Gone tables ledger after id
  | .adminDelete _ id, .nothing => Gone tables ledger after id
  | _, _ => False

/-- A success has its effect, and a failure leaves everything as it was. -/
def AllOrNothing {α : Type} (effect : α → World Tables → Prop) (answer : Except Error α) : Prop :=
  match answer with
  | .ok value => effect value after
  | .error _ => after.Holds tables ledger

end Effects

/-! ## Calls on the store -/

section Stores

variable {Tables : Type} [Storage Tables] [Contents Tables] [WritesOne Tables]

theorem insert_writesOne (store : Store Tables) (linked : Contents.Linked store.tables)
    (e : Entity) :
    (∃ fault, (store.insert e).1 = .error fault ∧ (store.insert e).2.tables = store.tables) ∨
    (∃ held, store.insert e = (.ok (.existing held), store)) ∨
    ((store.insert e).1 = .ok (.inserted e) ∧
      Inserted e store.tables (store.insert e).2.tables) := by
  obtain refused | ⟨answer, answered, done⟩ | ⟨call, later, answer, ready, reply, same⟩ :=
    store.commit_cases (Storage.stageInsert store.tables e)
  · exact .inl refused
  · obtain ⟨held, rfl⟩ := WritesOne.taken answered
    exact .inr (.inl ⟨held, done⟩)
  · obtain ⟨rfl, inserted⟩ := WritesOne.insert linked ready
    refine .inr (.inr ⟨reply, ?_⟩)
    rwa [Store.insert, same]

theorem save_writesOne (store : Store Tables) (e : Entity) :
    (∃ fault, (store.save e).1 = .error fault ∧ (store.save e).2.tables = store.tables) ∨
    ((store.save e).1 = .ok e.bumped ∧
      Replaced e.bumped store.tables (store.save e).2.tables) := by
  obtain refused | ⟨answer, answered, _⟩ | ⟨call, later, answer, ready, reply, same⟩ :=
    store.commit_cases (Storage.stageSave store.tables e)
  · exact .inl refused
  · exact absurd answered WritesOne.saves
  · obtain ⟨rfl, replaced⟩ := WritesOne.save ready
    refine .inr ⟨reply, ?_⟩
    rwa [Store.save, same]

theorem delete_writesOne (store : Store Tables) (linked : Contents.Linked store.tables)
    (id : EntityId) :
    (∃ fault, (store.delete id).1 = .error fault ∧ (store.delete id).2.tables = store.tables) ∨
    store.delete id = (.ok false, store) ∨
    ((store.delete id).1 = .ok true ∧ ∃ e, Storage.get store.tables id = .ok (some e) ∧
      Removed e store.tables (store.delete id).2.tables) := by
  obtain refused | ⟨answer, answered, done⟩ | ⟨call, later, answer, ready, reply, same⟩ :=
    store.commit_cases (Storage.stageDelete store.tables id)
  · exact .inl refused
  · obtain rfl := WritesOne.absent answered
    exact .inr (.inl done)
  · obtain ⟨rfl, e, got, removed⟩ := WritesOne.delete linked ready
    refine .inr (.inr ⟨reply, e, got, ?_⟩)
    rwa [Store.delete, same]

end Stores

/-! ## Parts of calls -/

section Parts

variable {Tables : Type} [Storage Tables] [Contents Tables] [WritesOne Tables] {α : Type}
  {client : Client} {n : Nat} {world : World Tables} {tables : Tables}
  {ledger : List (Entity × Entity)} {ends : α → World Tables → Prop}

theorem Program.Leaves.insert {e : Entity} {next : Except Error Store.Insertion → Program α}
    (holds : world.Holds tables ledger) (linked : Contents.Linked tables)
    (inserted : ∀ world', Inserted e tables world'.store.tables → world'.ledger = ledger →
      (next (.ok (.inserted e))).Leaves client ends (n + 1) world')
    (taken : ∀ world' held, world'.Holds tables ledger →
      (next (.ok (.existing held))).Leaves client ends (n + 1) world')
    (refused : ∀ world' fault, world'.Holds tables ledger →
      (next (.error fault)).Leaves client ends (n + 1) world') :
    (Program.ask (.insert e) next).Leaves client ends n world := by
  obtain ⟨rfl, rfl⟩ := holds
  show (next (world.store.insert e).1).Leaves client ends (n + 1)
    { world.seenBy client n with store := (world.store.insert e).2 }
  obtain ⟨fault, answer, same⟩ | ⟨held, kept⟩ | ⟨done, new⟩ := insert_writesOne world.store linked e
  · rw [answer]
    exact refused _ fault ⟨same, rfl⟩
  · rw [kept]
    exact taken _ held ⟨rfl, rfl⟩
  · rw [done]
    exact inserted _ new rfl

theorem Program.Leaves.save {e : Entity} {next : Except Error Entity → Program α}
    (holds : world.Holds tables ledger)
    (saved : ∀ world', Replaced e.bumped tables world'.store.tables → world'.ledger = ledger →
      (next (.ok e.bumped)).Leaves client ends (n + 1) world')
    (refused : ∀ world' fault, world'.Holds tables ledger →
      (next (.error fault)).Leaves client ends (n + 1) world') :
    (Program.ask (.save e) next).Leaves client ends n world := by
  obtain ⟨rfl, rfl⟩ := holds
  show (next (world.store.save e).1).Leaves client ends (n + 1)
    { world.seenBy client n with store := (world.store.save e).2 }
  obtain ⟨fault, answer, same⟩ | ⟨done, replaced⟩ := save_writesOne world.store e
  · rw [answer]
    exact refused _ fault ⟨same, rfl⟩
  · rw [done]
    exact saved _ replaced rfl

theorem Program.Leaves.delete {id : EntityId} {next : Except Error Bool → Program α}
    (holds : world.Holds tables ledger) (linked : Contents.Linked tables)
    (removed : ∀ world', Gone tables ledger world' id →
      (next (.ok true)).Leaves client ends (n + 1) world')
    (absent : ∀ world', world'.Holds tables ledger →
      (next (.ok false)).Leaves client ends (n + 1) world')
    (refused : ∀ world' fault, world'.Holds tables ledger →
      (next (.error fault)).Leaves client ends (n + 1) world') :
    (Program.ask (.delete id) next).Leaves client ends n world := by
  obtain ⟨rfl, rfl⟩ := holds
  show (next (world.store.delete id).1).Leaves client ends (n + 1)
    { world.seenBy client n with store := (world.store.delete id).2 }
  obtain ⟨fault, answer, same⟩ | kept | ⟨done, e, got, gone⟩ :=
    delete_writesOne world.store linked id
  · rw [answer]
    exact refused _ fault ⟨same, rfl⟩
  · rw [kept]
    exact absent _ ⟨rfl, rfl⟩
  · rw [done]
    exact removed _ ⟨e, got, gone, rfl⟩

theorem remove_leaves (holds : world.Holds tables ledger) (linked : Contents.Linked tables)
    (id : EntityId) (missing : Error) :
    (Service.remove id missing).Leaves client (fun answer after =>
      AllOrNothing tables ledger after (fun _ after => Gone tables ledger after id) answer)
      n world :=
  .delete holds linked (fun _ gone => gone) (fun _ holds => holds) fun _ _ holds => holds

theorem commit_leaves (holds : world.Holds tables ledger) (linked : Contents.Linked tables)
    {id : EntityId} {current : Entity} (got : Storage.get tables id = .ok (some current))
    (request : Transition) :
    (commit current request).Leaves client (fun answer after =>
      AllOrNothing tables ledger after (fun e after => Moved tables ledger after id e) answer)
      n world := by
  refine .readClock holds fun world' holds => ?_
  cases applied : current.apply request (client.times n) with
  | error fault => exact holds
  | ok next =>
    refine .save holds (fun world' replaced same => ?_) fun world' fault holds => ?_
    · obtain ⟨_, made⟩ := Entity.apply_eq_ok_iff.1 applied
      have id : next.bumped.id = id := by
        show next.id = id
        rw [made, Entity.entering_id, WritesOne.named linked got]
      exact ⟨id, replaced, current, got, congrArg _ same⟩
    · cases fault <;> exact holds

theorem moved_leaves (holds : world.Holds tables ledger) (linked : Contents.Linked tables)
    (owner : Owner) (id : EntityId) (request : Entity → Transition) :
    ((Service.load owner id).andThen fun current => commit current (request current)).Leaves client
      (fun answer after =>
        AllOrNothing tables ledger after (fun e after => Moved tables ledger after id e) answer)
      n world :=
  (load_leaves holds owner id).andThen (fun _ _ met => met.1) fun current _ _ met =>
    commit_leaves met.1 linked (met.2 current rfl).1 _

/-- A report that is refused on second thoughts has left everything as it was, too. -/
theorem complete_leaves (holds : world.Holds tables ledger) (linked : Contents.Linked tables)
    (address : Address) (outcome : Outcome) :
    (complete address outcome).Leaves client (fun answer after =>
      AllOrNothing tables ledger after
        (fun e after => Moved tables ledger after address.entity e) answer) n world := by
  refine (load_leaves holds address.owner address.entity).andThen (fun _ _ met => met.1)
    fun current _ _ met => ?_
  cases checkReport current address outcome with
  | error fault => exact met.1
  | ok passed =>
    refine (commit_leaves met.1 linked (met.2 current rfl).1 _).bind fun answer _ world' met => ?_
    rcases answer with fault | committed
    · cases fault with
      | invalidTransition source target =>
        refine (load_leaves met address.owner address.entity).andThen (fun _ _ met => met.1)
          fun latest _ _ met => ?_
        cases checkDispatch latest address <;> exact met.1
      | _ => exact met
    · exact met

theorem insertNew_leaves (holds : world.Holds tables ledger) (linked : Contents.Linked tables)
    (owner : Owner) (kind : Kind) (payload : Json) (key : Option String) :
    (insertNew owner kind payload key).Leaves client (fun answer after =>
      AllOrNothing tables ledger after (fun placed after =>
        Inserted placed.entity tables after.store.tables ∧ after.ledger = ledger) answer)
      n world := by
  refine .readClock holds fun _ holds => .newId holds fun _ holds => .insert holds linked ?_ ?_ ?_
  · exact fun _ inserted same => ⟨inserted, same⟩
  · exact fun _ _ holds => holds
  · exact fun _ _ holds => holds

theorem place_leaves (holds : world.Holds tables ledger) (linked : Contents.Linked tables)
    (service : Service) (owner : Owner) (kind : Kind) (payload : Json) (key : Option String) :
    (service.place owner kind payload key).Leaves client (fun answer after =>
      AllOrNothing tables ledger after
        (fun placed after => Submitted tables ledger after owner key placed.entity) answer)
      n world := by
  have inserted {key : Option String} (answer : Except Error Submission) (after : World Tables)
      (met : AllOrNothing tables ledger after (fun placed after =>
        Inserted placed.entity tables after.store.tables ∧ after.ledger = ledger) answer) :
      AllOrNothing tables ledger after
        (fun placed after => Submitted tables ledger after owner key placed.entity) answer := by
    cases answer with
    | ok placed => exact .inl met
    | error fault => exact met
  unfold place
  cases key with
  | none => exact (insertNew_leaves holds linked owner kind payload none).weaken inserted
  | some text =>
    dsimp only
    split
    · exact holds
    · refine .find holds fun _ holds => ?_
      rcases found : Storage.find tables owner text with fault | _ | existing
      · exact holds
      · exact (insertNew_leaves holds linked owner kind payload (some text)).weaken inserted
      · dsimp only
        rw [replay]
        split
        · exact .inr ⟨holds, text, rfl, found⟩
        · exact holds

theorem submit_leaves (holds : world.Holds tables ledger) (linked : Contents.Linked tables)
    (service : Service) (owner : Owner) (kind : Kind) (payload : Json) (key : Option String) :
    (service.submit owner kind payload key).Leaves client (fun answer after =>
      AllOrNothing tables ledger after
        (fun e after => Submitted tables ledger after owner key e) answer) n world :=
  (place_leaves holds linked service owner kind payload key).andThen (fun _ _ met => met)
    fun _ _ _ met => met

theorem delete_leaves (holds : world.Holds tables ledger) (linked : Contents.Linked tables)
    (owner : Owner) (id : EntityId) :
    (Service.delete owner id).Leaves client (fun answer after =>
      AllOrNothing tables ledger after (fun _ after => Gone tables ledger after id) answer)
      n world := by
  refine (load_leaves holds owner id).andThen (fun _ _ met => met.1) fun current _ _ met => ?_
  split
  · exact remove_leaves met.1 linked id _
  · exact met.1

/-- Every such operation does all it does or nothing. -/
theorem call_leaves (service : Service) (holds : world.Holds tables ledger)
    (linked : Contents.Linked tables) (operation : Operation)
    (single : operation.changesOne = true) :
    (operation.call service).Leaves client (fun answer after =>
      AllOrNothing tables ledger after
        (fun value after => operation.Effect tables ledger after value) answer) n world := by
  cases operation with
  | submit owner kind payload key =>
    exact (submit_leaves holds linked service owner kind payload key).mapOk fun answer _ met => by
      cases answer <;> exact met
  | transition owner id request =>
    exact (moved_leaves holds linked owner id fun _ => request).mapOk fun answer _ met => by
      cases answer <;> exact met
  | cancel owner id =>
    exact (moved_leaves holds linked owner id _).mapOk fun answer _ met => by
      cases answer <;> exact met
  | retry owner id =>
    exact (moved_leaves holds linked owner id _).mapOk fun answer _ met => by
      cases answer <;> exact met
  | delete owner id =>
    exact (delete_leaves holds linked owner id).mapOk fun answer _ met => by
      cases answer <;> exact met
  | adminDelete grant id =>
    exact (remove_leaves holds linked id _).mapOk fun answer _ met => by
      cases answer <;> exact met
  | complete address outcome =>
    exact (complete_leaves holds linked address outcome).mapOk fun answer _ met => by
      cases answer <;> exact met
  | _ => cases single

end Parts

/-! ## Calls on given tables -/

/-- No call on these tables does half of what it should, whatever the gate before them does. -/
structure Atomic {Tables : Type} [Storage Tables] [Contents Tables] (tables : Tables) : Prop where
  insert : ∀ (gate : Gate) (e : Entity),
    let (answer, after) := (Store.mk tables gate).insert e
    match answer with
    | .ok (.inserted new) => new = e ∧ Inserted e tables after.tables
    | _ => after.tables = tables
  save : ∀ (gate : Gate) (e : Entity),
    let (answer, after) := (Store.mk tables gate).save e
    match answer with
    | .ok saved => saved = e.bumped ∧ Replaced saved tables after.tables
    | .error _ => after.tables = tables
  delete : ∀ (gate : Gate) (id : EntityId),
    let (answer, after) := (Store.mk tables gate).delete id
    match answer with
    | .ok true => ∃ e, Storage.get tables id = .ok (some e) ∧ Removed e tables after.tables
    | _ => after.tables = tables
  call : ∀ (service : Service) (client : Client) (world : World Tables),
    world.store.tables = tables → client.operation.changesOne = true →
    let (answer, after) := client.serve service world
    AllOrNothing tables world.ledger after
      (fun value after => client.operation.Effect tables world.ledger after value) answer

theorem atomic_of_linked {Tables : Type} [Storage Tables] [Contents Tables] [WritesOne Tables]
    {tables : Tables} (linked : Contents.Linked tables) : Atomic tables where
  insert gate e := by
    dsimp only
    obtain ⟨fault, answer, same⟩ | ⟨held, kept⟩ | ⟨done, inserted⟩ :=
      insert_writesOne ⟨tables, gate⟩ linked e
    · rw [answer]
      exact same
    · rw [kept]
    · rw [done]
      exact ⟨rfl, inserted⟩
  save gate e := by
    dsimp only
    obtain ⟨fault, answer, same⟩ | ⟨done, replaced⟩ := save_writesOne ⟨tables, gate⟩ e
    · rw [answer]
      exact same
    · rw [done]
      exact ⟨rfl, replaced⟩
  delete gate id := by
    dsimp only
    obtain ⟨fault, answer, same⟩ | kept | ⟨done, removed⟩ :=
      delete_writesOne ⟨tables, gate⟩ linked id
    · rw [answer]
      exact same
    · rw [kept]
    · rw [done]
      exact removed
  call service client world same single :=
    (call_leaves service ⟨same, rfl⟩ linked client.operation single).attend

/-! ## Every store that calls lead to -/

theorem linked_request {store : Store Database} (linked : store.tables.Linked)
    (request : Request) : (request.storeAfter store).tables.Linked := by
  have kept {α : Type} {staged : Store.Staged Database α}
      (ready : ∀ call after answer, staged = .ready call after answer → after.Linked) :
      (store.commit staged).2.tables.Linked := by
    obtain ⟨_, _, same⟩ | ⟨_, _, done⟩ | ⟨call, after, answer, staged, _, same⟩ :=
      store.commit_cases staged
    · rwa [same]
    · rwa [done]
    · rw [same]
      exact ready call after answer staged
  cases request with
  | insert e =>
    refine kept fun call after answer ready => ?_
    obtain ⟨_, entered⟩ := Database.stageInsert_eq_ready ready
    exact linked.grown (Database.insertEntity_eq_ok entered).1
  | save e =>
    refine kept fun call after answer ready => ?_
    obtain ⟨_, rfl, _⟩ := Database.stageSave_eq_ready ready
    exact linked.updateRow _ _
  | delete id =>
    refine kept fun call after answer ready => ?_
    obtain ⟨_, rfl, _⟩ := Database.stageDelete_eq_ready ready
    exact linked.delete id
  | _ => exact linked

theorem linked_run {system : System Database} (linked : system.world.store.tables.Linked)
    (schedule : List Nat) : (system.run schedule).world.store.tables.Linked := by
  refine System.run_induction (fun system => system.world.store.tables.Linked) ?_ system linked
    schedule
  intro system i client past stage request next _ linked
  rw [System.serve_world, System.reply_store]
  exact linked_request linked request

/-- Every call is atomic on every store, in memory or in a database, that overlapping calls of
clients with ids of their own can lead to from an empty one: whatever the gates, the executors and
the clocks do on the way, and whatever gate the call meets. -/
theorem calls_are_atomic (service : Service) (clients : List Client) (executors : List Executor)
    (rule : List WriteCall → WriteCall → Except Error Unit)
    (distinct : (clients.map Client.id).Nodup) (schedule : List Nat) :
    let memory : System Memory := (System.onEmpty service clients executors rule).run schedule
    let database : System Database := (System.onEmpty service clients executors rule).run schedule
    Atomic memory.world.store.tables ∧ Atomic database.world.store.tables := by
  intro memory database
  have chronicled : memory.Chronicled := System.chronicled_onEmpty distinct schedule
  have linked : database.world.store.tables.Linked := linked_run Database.linked_empty schedule
  exact ⟨atomic_of_linked chronicled.indexed, atomic_of_linked linked⟩

/-- A job under a key, of which the gate has refused the start. -/
theorem calls_are_atomic_after_refusal :
    let owner : Owner := ⟨"acme", by decide⟩
    let service : Service := ⟨.default, [], List.nodup_nil, nofun⟩
    let clients : List Client := [
      ⟨.submit owner .job (.bool true) (some "nightly"), ⟨"a"⟩, fun _ => .epoch⟩,
      ⟨.transition owner ⟨"a"⟩ (.into .running), ⟨"b"⟩, fun _ => .epoch⟩]
    let schedule := [0, 0, 0, 0, 1, 1, 1]
    let memory : System Memory :=
      (System.onEmpty service clients [] (Gate.refusing 2)).run schedule
    let database : System Database :=
      (System.onEmpty service clients [] (Gate.refusing 2)).run schedule
    memory.answer? 1 = some (.error (.commitRejected (.injected 2 .update "a"))) ∧
      memory.world.store.tables.find owner "nightly" =
        some (Entity.create ⟨"a"⟩ owner .job (.bool true) (some "nightly") .epoch) ∧
      Atomic memory.world.store.tables ∧ Atomic database.world.store.tables := by
  refine ⟨rfl, ?_, calls_are_atomic _ _ _ _ ?_ _⟩
  · decide
  · decide

end TenantWork.Service
