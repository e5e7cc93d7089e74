import TenantWork.Proofs.Calls.Alone
import TenantWork.Proofs.Store.Decoding
import TenantWork.Proofs.Work.WellFormed
/-!
Calls that leave every row readable. A database of readable rows stays one through any sequence of
calls, whether they succeed or fail, as long as clocks show years of four digits and no value comes
in that nests deeper than texts may, from a caller or from an executor that reports at once.
-/
namespace TenantWork

open Store (Database Insertion)

/-! ## Snapshots on their way -/

namespace Entity

variable {limit : Nat} {e : Entity} {stamp : Time.Instant}

/-- A result is the old one, or the one given, or null for want of one. -/
theorem entering_result {request : Transition} {value : Json}
    (found : (e.entering request stamp).result = some value) :
    e.result = some value ∨ request.result = some value ∨ value = .null := by
  by_cases initial : request.target = e.kind.lifecycle.initial
  · rw [entering_initial stamp initial] at found
    cases found
  by_cases running : request.target = e.kind.lifecycle.running
  · rw [entering_running stamp running] at found
    cases given : request.dispatch with
    | none =>
      rw [given] at found
      exact .inl found
    | some dispatch =>
      rw [given] at found
      exact .inl found
  by_cases success : request.target = e.kind.lifecycle.success
  · rw [entering_success stamp success] at found
    obtain rfl := Option.some.inj found
    cases given : request.result with
    | none => exact .inr (.inr rfl)
    | some result => exact .inr (.inl rfl)
  by_cases failure : request.target = e.kind.lifecycle.failure
  · rw [entering_failure stamp failure] at found
    cases found
  · rw [entering_other stamp initial running success failure] at found
    exact .inl found

theorem Lasting.create (id : EntityId) (owner : Owner) (kind : Kind) {payload : Json}
    (key : Option String) {now : Time.Instant} (years : Time.Rfc3339.InYears now)
    (within : payload.Within limit) : (create id owner kind payload key now).Lasting limit :=
  ⟨kind.declares_initial, ⟨years, fun _ none => (by cases none), fun _ none => (by cases none)⟩,
    within, fun _ none => by cases none⟩

/-- The time of creation has no part in a transition. -/
theorem entering_backdated (e : Entity) (request : Transition) (stamp t : Time.Instant) :
    ({ e with createdAt := t } : Entity).entering request stamp =
      { e.entering request stamp with createdAt := t } := by
  simp only [entering]
  split_ifs <;> cases request.dispatch <;> rfl

theorem UpdateTimes.entering {P : Time.Instant → Prop} (times : e.UpdateTimes P)
    (request : Transition) (holds : P stamp) : (e.entering request stamp).UpdateTimes P := by
  have created : ({ e with createdAt := stamp } : Entity).AllTimes P :=
    ⟨holds, times.updated, times.started, times.finished⟩
  have entered := created.entering request holds
  rw [entering_backdated] at entered
  exact ⟨entered.updated, entered.started, entered.finished⟩

theorem Lasting.apply {next : Entity} (lasting : e.Lasting limit) {request : Transition}
    (given : ∀ value, request.result = some value → value.Within Json.Reader.depthLimit)
    {now : Time.Instant} (years : Time.Rfc3339.InYears now)
    (applied : e.apply request now = .ok next) : next.bumped.Lasting limit := by
  obtain ⟨allowed, rfl⟩ := apply_eq_ok_iff.1 applied
  refine ⟨?_, ?_, ?_, fun value found => ?_⟩
  · show (e.entering request _).kind.lifecycle.declares request.target = true
    rw [entering_kind]
    exact Kind.declares_of_allows allowed
  · obtain ⟨updated, started, finished⟩ :=
      lasting.years.entering request (stamp_of years lasting.years.updated)
    exact ⟨updated, started, finished⟩
  · show (e.entering request _).payload.Within limit
    rw [(entering_same e request _).payload]
    exact lasting.payload
  · obtain kept | new | rfl := entering_result found
    · exact lasting.result value kept
    · exact given value new
    · exact .null

end Entity

namespace Service

/-! ## What comes in from outside -/

/-- A result that texts can hold. -/
def Outcome.Modest : Outcome → Prop
  | .succeeded result => result.Within Json.Reader.depthLimit
  | .failed _ => True

/-- What the executor reports at once for a payload of no more levels than the limit, texts can
hold. -/
def Executor.Modest (limit : Nat) (executor : Executor) : Prop :=
  ∀ calls e dispatch outcome answer, e.payload.Within limit →
    executor.start calls e dispatch = .reported outcome answer → outcome.Modest

/-- The payload of an operation opens no more levels than the limit, and its result texts can
hold. -/
def Operation.Modest (limit : Nat) : Operation → Prop
  | .submit _ _ payload _ => payload.Within limit
  | .submitAndDispatch _ _ payload _ => payload.Within limit
  | .transition _ _ request =>
    ∀ value, request.result = some value → value.Within Json.Reader.depthLimit
  | .complete _ outcome => outcome.Modest
  | _ => True

/-- An executor within the process is as modest as its handlers are. -/
theorem Local.modest {limit : Nat} {worker : Local} (ids : Nat → String)
    (handlers : ∀ kind handler, worker.handler kind = some handler →
      ∀ owner e result, e.payload.Within limit → handler owner e = .value result →
        result.Within Json.Reader.depthLimit) :
    (worker.executor ids).Modest limit := by
  intro calls e dispatch outcome answer within started
  simp only [executor, Local.start] at started
  split at started
  · cases started
  next handler found =>
    split at started
    · obtain ⟨rfl, _⟩ := Start.reported.inj started
      cases handled : handler e.owner e with
      | value result => exact handlers e.kind handler found e.owner e result within handled
      | failed failure => trivial
      | panicked message => trivial
    · unfold spawn at started
      split at started
      · split at started <;> cases started
      · cases started

/-- The echo opens one level more than the payload. -/
theorem Local.echo_within {limit : Nat} (owner : Owner) {e : Entity} {result : Json}
    (within : e.payload.Within limit) (handled : Local.echo owner e = .value result) :
    result.Within (limit + 1) := by
  obtain rfl := Handled.value.inj handled
  exact .object (List.forall_mem_singleton.2 within)

/-! ## The world of a call -/

/-- Readable rows, and executors that report nothing unreadable. -/
structure World.Readable (limit : Nat) (world : World Database) : Prop where
  rows : world.store.tables.Lasting limit
  executors : ∀ executor ∈ world.executors, executor.Modest limit

/-- A snapshot in hand that may take the place of what is stored under its id. -/
structure World.Carries (limit : Nat) (world : World Database) (e : Entity) : Prop
    extends World.Readable limit world where
  lasting : e.Lasting limit
  kinds : world.store.tables.KindOf e

/-- The world after a call that answers with a snapshot. Whatever is stored is of its old kind. -/
structure Carried (limit : Nat) (before : Database) (answer : Except Error Entity)
    (after : World Database) : Prop where
  readable : after.Readable limit
  kinds : ∀ e, before.KindOf e → after.store.tables.KindOf e
  carries : ∀ e, answer = .ok e → after.Carries limit e

section Worlds

variable {limit : Nat} {world after : World Database} {e : Entity}

theorem World.Readable.of_same (readable : world.Readable limit) (store : after.store = world.store)
    (executors : after.executors = world.executors) : after.Readable limit := by
  refine ⟨?_, ?_⟩
  · rw [store]
    exact readable.rows
  · rw [executors]
    exact readable.executors

theorem World.Carries.of_same (carries : world.Carries limit e) (store : after.store = world.store)
    (executors : after.executors = world.executors) : after.Carries limit e := by
  refine ⟨carries.toReadable.of_same store executors, carries.lasting, ?_⟩
  rw [store]
  exact carries.kinds

theorem Carried.error {before : Database} {answer : Except Error Entity}
    (met : Carried limit before answer after) (fault : Error) :
    Carried limit before (.error fault) after :=
  ⟨met.readable, met.kinds, fun _ impossible => by cases impossible⟩

theorem World.Readable.failed (readable : after.Readable limit) (fault : Error) :
    Carried limit after.store.tables (.error fault) after :=
  ⟨readable, fun _ kinds => kinds, fun _ impossible => by cases impossible⟩

theorem World.Carries.carried (carries : after.Carries limit e) :
    Carried limit after.store.tables (.ok e) after := by
  refine ⟨carries.toReadable, fun _ kinds => kinds, fun other same => ?_⟩
  obtain rfl := Except.ok.inj same
  exact carries

/-- One call after another. -/
theorem Carried.andThen {before : Database} {answer : Except Error Entity} {client : Client} {n : Nat}
    {call : Call Entity} (first : Carried limit before answer world)
    (rest : call.Leaves client (Carried limit world.store.tables) n world) :
    call.Leaves client (Carried limit before) n world :=
  rest.weaken fun _ _ met =>
    ⟨met.readable, fun e kinds => met.kinds e (first.kinds e kinds), met.carries⟩

/-- What is loaded may be changed and saved. -/
theorem World.Readable.carries {id : EntityId} (readable : world.Readable limit)
    (got : world.store.tables.get id = .ok (some e)) : world.Carries limit e := by
  obtain ⟨row, there, read, rfl⟩ := Database.row_of_get got
  obtain ⟨other, same, lasting⟩ := readable.rows row (Database.row?_eq_some_iff.1 there).1
  obtain rfl := Except.ok.inj (read.symm.trans same)
  refine ⟨readable, lasting, fun found here => ?_⟩
  obtain rfl := Option.some.inj (there.symm.trans here)
  exact ⟨e, read, rfl⟩

end Worlds

/-! ## Requests -/

section Requests

variable {α : Type} {limit : Nat} {client : Client} {n : Nat} {world : World Database} {e : Entity}
  {ends : α → World Database → Prop}

/-- A request that neither writes nor changes the executors. -/
theorem Program.Leaves.idle {request : Request} {next : request.Reply → Program α}
    (same : ∀ world : World Database, (world.answer request).2.store = world.store ∧
      (world.answer request).2.executors = world.executors)
    (rest : ∀ after, after.store = world.store → after.executors = world.executors →
      (next ((world.seenBy client n).answer request).1).Leaves client ends (n + 1) after) :
    (Program.ask request next).Leaves client ends n world :=
  rest _ (same _).1 (same _).2

theorem Program.Leaves.saveReadable {next : Except Error Entity → Program α}
    (carries : world.Carries limit e.bumped) (small : limit ≤ Json.Reader.depthLimit)
    (saved : ∀ after, Carried limit world.store.tables (.ok e.bumped) after →
      (next (.ok e.bumped)).Leaves client ends (n + 1) after)
    (refused : ∀ after fault, Carried limit world.store.tables (.error fault) after →
      (next (.error fault)).Leaves client ends (n + 1) after) :
    (Program.ask (.save e) next).Leaves client ends n world := by
  show (next (world.store.save e).1).Leaves client ends (n + 1)
    { world.seenBy client n with store := (world.store.save e).2 }
  obtain ⟨fault, answer, same⟩ | ⟨answer, answered, _⟩ | ⟨call, tables, answer, ready, reply, same⟩ :=
    world.store.commit_cases (Store.Storage.stageSave world.store.tables e)
  · have kept : (world.store.save e).2.tables = world.store.tables := same
    rw [show (world.store.save e).1 = .error fault from answer]
    refine refused _ fault ⟨⟨?_, carries.executors⟩, ?_, fun _ impossible => by cases impossible⟩
    · show (world.store.save e).2.tables.Lasting limit
      rw [kept]
      exact carries.rows
    · show ∀ other, world.store.tables.KindOf other → (world.store.save e).2.tables.KindOf other
      rw [kept]
      exact fun _ kinds => kinds
  · exact absurd answered Store.WritesOne.saves
  · obtain ⟨rfl, rfl, _⟩ := Database.stageSave_eq_ready ready
    have changed : (world.store.save e).2.tables =
        world.store.tables.updateRow e.id (.ofEntity e.bumped) := same
    obtain ⟨rows, kinds⟩ := carries.rows.updateRow carries.kinds carries.lasting small
    rw [show (world.store.save e).1 = .ok e.bumped from reply]
    have kept : ∀ other, world.store.tables.KindOf other → (world.store.save e).2.tables.KindOf other := by
      rw [changed]
      exact kinds
    have readable : World.Readable limit
        { world.seenBy client n with store := (world.store.save e).2 } := by
      refine ⟨?_, carries.executors⟩
      show (world.store.save e).2.tables.Lasting limit
      rw [changed]
      exact rows
    refine saved _ ⟨readable, kept, fun other answered => ?_⟩
    obtain rfl := Except.ok.inj answered
    exact ⟨readable, carries.lasting, kept _ carries.kinds⟩

theorem Program.Leaves.insertReadable {next : Except Error Insertion → Program α}
    (readable : world.Readable limit) (new : e.Lasting limit)
    (created : Time.Rfc3339.InYears e.createdAt) (small : limit ≤ Json.Reader.depthLimit)
    (inserted : ∀ after, after.Carries limit e →
      (next (.ok (.inserted e))).Leaves client ends (n + 1) after)
    (taken : ∀ after held, after.Readable limit →
      (next (.ok (.existing held))).Leaves client ends (n + 1) after)
    (refused : ∀ after fault, after.Readable limit →
      (next (.error fault)).Leaves client ends (n + 1) after) :
    (Program.ask (.insert e) next).Leaves client ends n world := by
  show (next (world.store.insert e).1).Leaves client ends (n + 1)
    { world.seenBy client n with store := (world.store.insert e).2 }
  obtain ⟨fault, answer, same⟩ | ⟨answer, answered, done⟩ | ⟨call, tables, answer, ready, reply, same⟩ :=
    world.store.commit_cases (Store.Storage.stageInsert world.store.tables e)
  · rw [show (world.store.insert e).1 = .error fault from answer]
    refine refused _ fault ⟨?_, readable.executors⟩
    show (world.store.insert e).2.tables.Lasting limit
    rw [show (world.store.insert e).2.tables = world.store.tables from same]
    exact readable.rows
  · obtain ⟨held, rfl⟩ := Store.WritesOne.taken answered
    rw [show world.store.insert e = (.ok (.existing held), world.store) from done]
    exact taken _ held ⟨readable.rows, readable.executors⟩
  · obtain ⟨rfl, entered⟩ := Database.stageInsert_eq_ready ready
    obtain ⟨grown, unused, _⟩ := Database.insertEntity_eq_ok entered
    obtain ⟨rows, kinds⟩ := readable.rows.grown grown unused new created small
    have changed : (world.store.insert e).2.tables = tables := same
    rw [show (world.store.insert e).1 = .ok (.inserted e) from reply]
    refine inserted _ ⟨⟨?_, readable.executors⟩, new, ?_⟩
    · show (world.store.insert e).2.tables.Lasting limit
      rwa [changed]
    · show (world.store.insert e).2.tables.KindOf e
      rwa [changed]

theorem Program.Leaves.deleteReadable {id : EntityId} {next : Except Error Bool → Program α}
    (readable : world.Readable limit)
    (rest : ∀ after answer, after.Readable limit →
      (next answer).Leaves client ends (n + 1) after) :
    (Program.ask (.delete id) next).Leaves client ends n world := by
  refine rest _ _ ⟨?_, readable.executors⟩
  show (world.store.delete id).2.tables.Lasting limit
  obtain ⟨fault, answer, same⟩ | ⟨answer, answered, done⟩ | ⟨call, tables, answer, ready, reply, same⟩ :=
    world.store.commit_cases (Store.Storage.stageDelete world.store.tables id)
  · rw [show (world.store.delete id).2.tables = world.store.tables from same]
    exact readable.rows
  · rw [show world.store.delete id = (.ok answer, world.store) from done]
    exact readable.rows
  · obtain ⟨_, rfl, _⟩ := Database.stageDelete_eq_ready ready
    rw [show (world.store.delete id).2.tables = _ from same]
    exact readable.rows.delete id

/-- What is reported at once, texts can hold. -/
theorem World.Carries.reported (carries : world.Carries limit e) {executor dispatch : String}
    {outcome : Outcome} {answer : Except Error Entity → Except Error Unit}
    (started : (world.start executor e dispatch).1 = .reported outcome answer) : outcome.Modest := by
  simp only [World.start] at started
  cases found : world.executor? executor with
  | none =>
    rw [found] at started
    cases started
  | some registered =>
    rw [found] at started
    dsimp only at started
    refine carries.executors registered (List.mem_of_find?_eq_some found) world.calls e dispatch _ answer
      carries.lasting.payload ?_
    cases reply : registered.start world.calls e dispatch <;> rw [reply] at started <;> exact started

theorem World.start_same (world : World Database) (executor : String) (e : Entity)
    (dispatch : String) :
    (world.start executor e dispatch).2.store = world.store ∧
      (world.start executor e dispatch).2.executors = world.executors := by
  rw [World.start]
  dsimp only
  split <;> exact ⟨rfl, rfl⟩

end Requests

/-! ## Calls -/

theorem noResult_within {request : Transition} (none : request.result = none) (value : Json)
    (given : request.result = some value) : value.Within Json.Reader.depthLimit := by
  rw [none] at given
  cases given

section Calls

variable {limit : Nat} {client : Client} {n : Nat} {world : World Database} {e : Entity}

theorem load_carried (readable : world.Readable limit) (owner : Owner) (id : EntityId) :
    (Service.load owner id).Leaves client (Carried limit world.store.tables) n world := by
  refine .idle (fun _ => ⟨rfl, rfl⟩) fun after store executors => ?_
  have readable := readable.of_same store executors
  have reply : ((world.seenBy client n).answer (.load id)).1 = world.store.tables.get id := rfl
  rw [reply, ← store]
  cases got : after.store.tables.get id with
  | error fault => exact readable.failed fault
  | ok found =>
    refine ⟨readable, fun _ kinds => kinds, fun e own => ?_⟩
    obtain ⟨rfl, _⟩ := Entity.forOwner_eq_ok_iff.1 own
    exact readable.carries got

variable (small : limit ≤ Json.Reader.depthLimit)
  (times : ∀ n, Time.Rfc3339.InYears (client.times n))

include small times

theorem commit_carried (carries : world.Carries limit e) {request : Transition}
    (given : ∀ value, request.result = some value → value.Within Json.Reader.depthLimit) :
    (commit e request).Leaves client (Carried limit world.store.tables) n world := by
  refine .idle (fun _ => ⟨rfl, rfl⟩) fun after store executors => ?_
  have carries := carries.of_same store executors
  have reply : ((world.seenBy client n).answer .readClock).1 = client.times n := rfl
  rw [reply, ← store]
  cases applied : e.apply request (client.times n) with
  | error fault => exact carries.toReadable.failed fault
  | ok next =>
    have lasting := carries.lasting.apply given (times n) applied
    have kinds : after.store.tables.KindOf next.bumped := by
      obtain ⟨_, rfl⟩ := Entity.apply_eq_ok_iff.1 applied
      show after.store.tables.KindOf { e.entering request _ with revision := _ }
      rw [Database.KindOf, Entity.entering_id, Entity.entering_kind]
      exact carries.kinds
    refine Program.Leaves.saveReadable ⟨carries.toReadable, lasting, kinds⟩ small ?_ ?_
    · intro later saved
      refine .idle (fun _ => ⟨rfl, rfl⟩) fun last store executors => ?_
      refine ⟨saved.readable.of_same store executors, ?_, fun other same => ?_⟩
      · rw [store]
        exact saved.kinds
      · exact (saved.carries other same).of_same store executors
    · intro later fault met
      cases fault <;> exact met.error _

theorem moved_carried (readable : world.Readable limit) (owner : Owner) (id : EntityId)
    {request : Entity → Transition} (given : ∀ e value, (request e).result = some value →
      value.Within Json.Reader.depthLimit) :
    ((Service.load owner id).andThen fun current => commit current (request current)).Leaves client
      (Carried limit world.store.tables) n world :=
  (load_carried readable owner id).andThen (fun fault _ met => met.error fault)
    fun current _ _ met => met.andThen (commit_carried small times (met.carries current rfl) (given current))

theorem complete_carried (readable : world.Readable limit) (address : Address) {outcome : Outcome}
    (modest : outcome.Modest) :
    (complete address outcome).Leaves client (Carried limit world.store.tables) n world := by
  refine (load_carried readable address.owner address.entity).andThen
    (fun fault _ met => met.error fault) fun current _ _ met => ?_
  cases checkReport current address outcome with
  | error fault => exact met.error fault
  | ok passed =>
    have given : ∀ value, (outcome.request current.kind).result = some value →
        value.Within Json.Reader.depthLimit := by
      intro value found
      cases outcome with
      | succeeded result =>
        obtain rfl := Option.some.inj found
        exact modest
      | failed failure => cases found
    refine (met.andThen (commit_carried small times (met.carries current rfl) given)).bind
      fun answer _ _ met => ?_
    rcases answer with fault | committed
    · cases fault with
      | invalidTransition source target =>
        refine (met.andThen (load_carried met.readable address.owner address.entity)).andThen
          (fun fault _ met => met.error fault) fun latest _ _ met => ?_
        cases checkDispatch latest address <;> exact met.error _
      | _ => exact met
    · exact met

/-! ### Dispatching -/

theorem failDispatch_carried (carries : world.Carries limit e) (dispatch : Option Dispatch)
    (reason : String) :
    (failDispatch e dispatch reason).Leaves client (Carried limit world.store.tables) n world := by
  have running : Program.Leaves client (Carried limit world.store.tables) n world
      (if e.status = e.kind.lifecycle.initial then
        commit e { Transition.into e.kind.lifecycle.running with dispatch }
      else .succeed e) := by
    split
    · exact commit_carried small times carries (noResult_within rfl)
    · exact carries.carried
  refine running.andThen (fun fault _ met => met.error fault) fun current _ _ met => ?_
  refine (met.andThen (commit_carried small times (met.carries current rfl)
    (noResult_within rfl))).bind
    fun answer _ _ met => ?_
  rcases answer with fault | committed
  · cases fault with
    | invalidTransition source target => exact met.andThen (load_carried met.readable _ _)
    | _ => exact met
  · exact met

theorem afterStart_carried (carries : world.Carries limit e) (dispatch : Dispatch)
    (answer : Except Error Unit) :
    (afterStart e dispatch answer).Leaves client (Carried limit world.store.tables) n world := by
  rcases answer with fault | done
  · rw [afterStart]
    split
    · exact carries.toReadable.failed fault
    · exact failDispatch_carried small times carries _ _
  · exact load_carried carries.toReadable _ _

theorem start_carried (carries : world.Carries limit e) (executor dispatch : String) :
    (Service.start e executor dispatch).Leaves client (Carried limit world.store.tables) n world := by
  refine .idle (fun world => world.start_same executor e dispatch) fun after store executors => ?_
  have later := carries.of_same store executors
  have modest : ∀ outcome answer,
      ((world.seenBy client n).answer (.start executor e dispatch)).1 = .reported outcome answer →
        outcome.Modest := fun outcome answer started =>
    (carries.of_same rfl rfl : (world.seenBy client n).Carries limit e).reported started
  rw [← store]
  cases reply : ((world.seenBy client n).answer (.start executor e dispatch)).1 with
  | answered answer => exact afterStart_carried small times later _ answer
  | deferred outcome => exact afterStart_carried small times later _ (.ok ())
  | reported outcome answer =>
    refine (complete_carried small times later.toReadable _ (modest outcome answer reply)).bind
      fun report _ world met => met.andThen ?_
    have running : world.Carries limit e := ⟨met.readable, later.lasting, met.kinds e later.kinds⟩
    exact afterStart_carried small times running _ _
  | brokeOff => exact ⟨later.toReadable, fun _ kinds => kinds, fun e same => Except.ok.inj same ▸ later⟩

theorem handOver_carried (carries : world.Carries limit e) (service : Service) :
    (service.handOver e).Leaves client (Carried limit world.store.tables) n world := by
  unfold handOver
  cases service.chosen with
  | none => exact failDispatch_carried small times carries _ _
  | some executor =>
    refine .idle (fun _ => ⟨rfl, rfl⟩) fun after store executors => ?_
    have later := carries.of_same store executors
    rw [← store]
    cases ((world.seenBy client n).answer (.reserve executor e)).1 with
    | error fault => exact failDispatch_carried small times later _ _
    | ok dispatch =>
      refine (commit_carried small times later (noResult_within rfl)).andThen
        (fun fault _ met => met.error fault) fun running _ _ met => ?_
      exact met.andThen (start_carried small times (met.carries running rfl) _ _)

theorem dispatch_carried (readable : world.Readable limit) (service : Service) (owner : Owner)
    (id : EntityId) :
    (service.dispatch owner id).Leaves client (Carried limit world.store.tables) n world := by
  refine (load_carried readable owner id).andThen (fun fault _ met => met.error fault)
    fun current _ _ met => ?_
  dsimp only
  split
  · exact met.andThen (handOver_carried small times (met.carries current rfl) service)
  · exact met.error _

/-! ### Submitting -/

/-- The world after a placement: what is new may be handed over. -/
def Entered (limit : Nat) (answer : Except Error Submission) (after : World Database) : Prop :=
  after.Readable limit ∧ ∀ e, answer = .ok (.created e) → after.Carries limit e

theorem insertNew_entered (readable : world.Readable limit) (owner : Owner) (kind : Kind)
    {payload : Json} (within : payload.Within limit) (key : Option String) :
    (insertNew owner kind payload key).Leaves client (Entered limit) n world := by
  have failed (after : World Database) (fault : Error) (readable : after.Readable limit) :
      Entered limit (.error fault) after := ⟨readable, fun _ impossible => by cases impossible⟩
  refine .idle (fun _ => ⟨rfl, rfl⟩) fun clocked store executors => ?_
  have readable := readable.of_same store executors
  refine .idle (fun _ => ⟨rfl, rfl⟩) fun named store executors => ?_
  have readable := readable.of_same store executors
  refine Program.Leaves.insertReadable readable
    (Entity.Lasting.create _ owner kind key (times n) within) (times n) small ?_ ?_ ?_
  · refine fun after carries => ⟨carries.toReadable, fun e same => ?_⟩
    obtain rfl := Submission.created.inj (Except.ok.inj same)
    exact carries
  · exact fun after _ readable => failed after _ readable
  · exact fun after _ readable => failed after _ readable

theorem place_entered (readable : world.Readable limit) (service : Service) (owner : Owner)
    (kind : Kind) {payload : Json} (within : payload.Within limit) (key : Option String) :
    (service.place owner kind payload key).Leaves client (Entered limit) n world := by
  have failed (after : World Database) (fault : Error) (readable : after.Readable limit) :
      Entered limit (.error fault) after := ⟨readable, fun _ impossible => by cases impossible⟩
  unfold place
  cases key with
  | none => exact insertNew_entered small times readable owner kind within none
  | some text =>
    dsimp only
    split
    · exact failed _ _ readable
    · refine .idle (fun _ => ⟨rfl, rfl⟩) fun after store executors => ?_
      have readable := readable.of_same store executors
      rcases ((world.seenBy client n).answer (.find owner text)).1 with fault | _ | existing
      · exact failed _ _ readable
      · exact insertNew_entered small times readable owner kind within (some text)
      · show Entered limit (service.replay existing kind payload text) after
        rw [replay]
        split
        · exact ⟨readable, fun _ impossible => by cases impossible⟩
        · exact failed _ _ readable

theorem submit_readable (readable : world.Readable limit) (service : Service) (owner : Owner)
    (kind : Kind) {payload : Json} (within : payload.Within limit) (key : Option String) :
    (service.submit owner kind payload key).Leaves client (fun _ after => after.Readable limit)
      n world :=
  (place_entered small times readable service owner kind within key).andThen
    (fun _ _ met => met.1) fun _ _ _ met => met.1

theorem submitAndDispatch_readable (readable : world.Readable limit) (service : Service)
    (owner : Owner) (kind : Kind) {payload : Json} (within : payload.Within limit)
    (key : Option String) :
    (service.submitAndDispatch owner kind payload key).Leaves client
      (fun _ after => after.Readable limit) n world := by
  refine (place_entered small times readable service owner kind within key).andThen
    (fun _ _ met => met.1) fun placed _ _ met => ?_
  cases placed with
  | created e =>
    exact (handOver_carried small times (met.2 e rfl) service).weaken fun _ _ met => met.readable
  | replayed e => exact met.1

omit small times in
theorem remove_readable (readable : world.Readable limit) (id : EntityId) (missing : Error) :
    (Service.remove id missing).Leaves client (fun _ after => after.Readable limit) n world := by
  refine .deleteReadable readable fun after answer readable => ?_
  rcases answer with fault | _ | _ <;> exact readable

/-- Every call leaves readable rows behind. -/
theorem call_readable (service : Service) (readable : world.Readable limit) (operation : Operation)
    (modest : operation.Modest limit) :
    (operation.call service).Leaves client (fun _ after => after.Readable limit) n world := by
  have entity {call : Call Entity} {before : Database}
      (leaves : call.Leaves client (Carried limit before) n world) :
      (call.mapOk Answer.entity).Leaves client (fun _ after => after.Readable limit) n world :=
    leaves.mapOk fun _ _ met => met.readable
  have asked {β : Type} {request : Request} {next : request.Reply → Program β}
      (same : ∀ world : World Database, (world.answer request).2.store = world.store ∧
        (world.answer request).2.executors = world.executors)
      (done : ∀ reply, ∃ value, next reply = .done value) :
      (Program.ask request next).Leaves client (fun _ after => after.Readable limit) n world := by
    refine .idle same fun after store executors => ?_
    obtain ⟨value, ends⟩ := done ((world.seenBy client n).answer request).1
    rw [ends]
    exact readable.of_same store executors
  cases operation with
  | submit owner kind payload key =>
    exact (submit_readable small times readable service owner kind modest key).mapOk fun _ _ met => met
  | submitAndDispatch owner kind payload key =>
    exact (submitAndDispatch_readable small times readable service owner kind modest key).mapOk
      fun _ _ met => met
  | get owner id => exact entity (load_carried readable owner id)
  | transition owner id request =>
    exact entity (moved_carried small times readable owner id fun _ => modest)
  | cancel owner id =>
    exact entity (moved_carried small times readable owner id fun _ => noResult_within rfl)
  | retry owner id =>
    exact entity (moved_carried small times readable owner id fun _ => noResult_within rfl)
  | dispatch owner id => exact entity (dispatch_carried small times readable service owner id)
  | complete address outcome => exact entity (complete_carried small times readable address modest)
  | delete owner id =>
    have deletes : (Service.delete owner id).Leaves client (fun _ after => after.Readable limit)
        n world := by
      refine (load_carried readable owner id).andThen (fun _ _ met => met.readable)
        fun current _ _ met => ?_
      split
      · exact remove_readable met.readable id _
      · exact met.readable
    exact deletes.mapOk fun _ _ met => met
  | adminDelete grant id =>
    exact (remove_readable readable id _).mapOk fun _ _ met => met
  | list owner filter => exact asked (fun _ => ⟨rfl, rfl⟩) fun _ => ⟨_, rfl⟩
  | adminList grant owner filter => exact asked (fun _ => ⟨rfl, rfl⟩) fun _ => ⟨_, rfl⟩
  | adminGet grant id =>
    refine asked (fun _ => ⟨rfl, rfl⟩) fun reply => ?_
    rcases reply with fault | _ | e <;> exact ⟨_, rfl⟩

end Calls

end Service

end TenantWork
