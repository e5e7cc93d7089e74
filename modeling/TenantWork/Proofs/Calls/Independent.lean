import TenantWork.Proofs.Calls.Atomic
import TenantWork.Proofs.Schedule.Serial
import TenantWork.Proofs.Store.Places
/-!
Independent calls. A call concerns few places of a store in memory, which can be told before it is
made: those of the entity it names or brings and those of the keys in question. It asks about no
others and changes no others, so two calls that share no place commute.
-/
namespace TenantWork.Service

open Store (Storage Memory Place)

/-! ## Requests about places -/

/-- The request asks about places of the region only, and may change no others. -/
def Request.Within (region : Set Place) (memory : Memory) : Request → Prop
  | .readClock | .newId | .observe _ _ => True
  | .find owner key => memory.lookedUp owner key ⊆ region
  | .load id => .entity id ∈ region
  | .insert e => .entity e.id ∈ region ∧
    ∀ key, e.key = some key → memory.lookedUp e.owner key ⊆ region
  | .save e => .entity e.id ∈ region
  | .delete id => .entity id ∈ region ∧ ∀ e, memory.get id = some e → e.keyPlaces ⊆ region
  | _ => False

/-- Two worlds with open gates whose stores have changed alike in a region only. -/
structure World.Confined (region : Set Place) (left right : Memory) (a b : World Memory) :
    Prop where
  tables : Memory.Confined region left right a.store.tables b.store.tables
  openLeft : a.store.gate.Open
  openRight : b.store.gate.Open

section Runs

variable {α β : Type} {client : Client} {region : Set Place} {left right : Memory} {n : Nat}
  {a b world : World Memory}

theorem World.Confined.answer (confined : World.Confined region left right a b) (client : Client)
    (n : Nat) {request : Request} (within : request.Within region a.store.tables) :
    ((a.seenBy client n).answer request).1 = ((b.seenBy client n).answer request).1 ∧
      World.Confined region left right ((a.seenBy client n).answer request).2
        ((b.seenBy client n).answer request).2 := by
  obtain ⟨tables, openLeft, openRight⟩ := confined
  cases request with
  | readClock => exact ⟨rfl, tables, openLeft, openRight⟩
  | newId => exact ⟨rfl, tables, openLeft, openRight⟩
  | observe before after => exact ⟨rfl, tables, openLeft, openRight⟩
  | find owner key => exact ⟨congrArg Except.ok (tables.find within), tables, openLeft, openRight⟩
  | load id => exact ⟨congrArg Except.ok (tables.get within), tables, openLeft, openRight⟩
  | insert e =>
    obtain ⟨same, after⟩ :=
      (tables.stageInsert within.1 within.2).commit openLeft openRight tables
    exact ⟨same, after, openLeft.commit _, openRight.commit _⟩
  | save e =>
    obtain ⟨same, after⟩ := (tables.stageSave within).commit openLeft openRight tables
    exact ⟨same, after, openLeft.commit _, openRight.commit _⟩
  | delete id =>
    obtain ⟨same, after⟩ :=
      (tables.stageDelete within.1 within.2).commit openLeft openRight tables
    exact ⟨same, after, openLeft.commit _, openRight.commit _⟩
  | _ => exact within.elim

/-- Carried out for a client with nobody else acting, the program keeps to the region. -/
def Program.Within (client : Client) (region : Set Place) : Nat → World Memory → Program α → Prop
  | _, _, .done _ => True
  | n, world, .ask request next => request.Within region world.store.tables ∧
    (next ((world.seenBy client n).answer request).1).Within client region (n + 1)
      ((world.seenBy client n).answer request).2

theorem World.Confined.attend (confined : World.Confined region left right a b)
    {program : Program α} (within : program.Within client region n a) :
    (program.attend client n a).1 = (program.attend client n b).1 ∧
      World.Confined region left right (program.attend client n a).2
        (program.attend client n b).2 := by
  induction program generalizing n a b with
  | done value => exact ⟨rfl, confined⟩
  | ask request next ih =>
    obtain ⟨asked, rest⟩ := within
    obtain ⟨same, after⟩ := confined.answer client n asked
    have reached := ih _ after rest
    simp only [Program.attend]
    rw [← same]
    exact reached

theorem Program.Within.bind {between : α → World Memory → Prop} {program : Program α}
    {after : α → Program β} (first : program.Within client region n world)
    (leads : program.Leaves client between n world)
    (rest : ∀ value m world, between value world → (after value).Within client region m world) :
    (program.bind after).Within client region n world := by
  induction program generalizing n world with
  | done value => exact rest value n world leads
  | ask request next ih => exact ⟨first.1, ih _ first.2 leads⟩

theorem Program.Within.andThen {between : Except Error α → World Memory → Prop} {call : Call α}
    {after : α → Call β} (first : call.Within client region n world)
    (leads : call.Leaves client between n world)
    (rest : ∀ value m world, between (.ok value) world →
      (after value).Within client region m world) :
    (call.andThen after).Within client region n world := by
  refine first.bind leads fun answer m world met => ?_
  cases answer with
  | ok value => exact rest value m world met
  | error fault => trivial

/-- After a request whose reply does not matter. -/
theorem Program.Within.ask {request : Request} {next : request.Reply → Program α}
    (asked : request.Within region world.store.tables)
    (rest : ∀ reply after, (next reply).Within client region (n + 1) after) :
    (Program.ask request next).Within client region n world := ⟨asked, rest _ _⟩

theorem Program.Within.find {owner : Owner} {key : String}
    {next : Except Error (Option Entity) → Program α}
    (asked : world.store.tables.lookedUp owner key ⊆ region)
    (rest : ∀ after : World Memory, after.store.tables = world.store.tables →
      (next (.ok (world.store.tables.find owner key))).Within client region (n + 1) after) :
    (Program.ask (.find owner key) next).Within client region n world := ⟨asked, rest _ rfl⟩

theorem Program.leaves_somewhere (program : Program α) :
    program.Leaves client (fun _ _ => True) n world := by
  induction program generalizing n world with
  | done value => trivial
  | ask request next ih => exact ih _

theorem Program.Within.mapOk {call : Call α} {f : α → β}
    (first : call.Within client region n world) : (call.mapOk f).Within client region n world :=
  first.bind call.leaves_somewhere fun _ _ _ _ => trivial

end Runs

/-! ## What a call concerns -/

/-- The places of an entity: its own, and that of its key. -/
def placesOf (memory : Memory) (id : EntityId) : Set Place :=
  {place | place = .entity id ∨ ∃ e, memory.get id = some e ∧ place ∈ e.keyPlaces}

/-- The places of a submission: that of the entity it brings, and those of its key, if it has one,
and of the entity that is bound to that key. -/
def placesOfNew (memory : Memory) (id : EntityId) (owner : Owner) (key : Option String) :
    Set Place :=
  {place | place = .entity id ∨ ∃ text, key = some text ∧ place ∈ memory.lookedUp owner text}

/-- The places that a call concerns. Calls that may change several entities may concern any. -/
def Client.concerns (client : Client) (memory : Memory) : Set Place :=
  match client.operation with
  | .submit owner _ _ key => placesOfNew memory client.id owner key
  | .transition _ id _ | .cancel _ id | .retry _ id | .delete _ id | .adminDelete _ id =>
    placesOf memory id
  | .complete address _ => placesOf memory address.entity
  | _ => Set.univ

/-! ## Calls keep to what they concern -/

section Calls

variable {client : Client} {region : Set Place} {n : Nat} {world : World Memory} {id : EntityId}

theorem load_within (inside : .entity id ∈ region) (owner : Owner) :
    (Service.load owner id).Within client region n world := ⟨inside, trivial⟩

theorem commit_within {current : Entity} (inside : .entity current.id ∈ region)
    (request : Transition) : (commit current request).Within client region n world := by
  refine .ask trivial fun now _ => ?_
  cases applied : current.apply request now with
  | error fault => trivial
  | ok next =>
    have named : next.id = current.id := by
      obtain ⟨_, made⟩ := Entity.apply_eq_ok_iff.1 applied
      rw [made, Entity.entering_id]
    refine .ask (by rwa [Request.Within, named]) fun reply _ => ?_
    split
    · exact ⟨trivial, trivial⟩
    · trivial
    · trivial

theorem moved_within (filed : world.store.tables.Filed) (inside : .entity id ∈ region)
    (owner : Owner) (request : Entity → Transition) :
    ((Service.load owner id).andThen fun current => commit current (request current)).Within client
      region n world := by
  refine (load_within inside owner).andThen (load_leaves ⟨rfl, rfl⟩ owner id)
    fun current _ _ met => commit_within ?_ _
  rwa [filed id current (Except.ok.inj (met.2 current rfl).1)]

theorem complete_within (filed : world.store.tables.Filed) (address : Address)
    (inside : .entity address.entity ∈ region) (outcome : Outcome) :
    (complete address outcome).Within client region n world := by
  refine (load_within inside _).andThen (load_leaves ⟨rfl, rfl⟩ _ _) fun current _ _ met => ?_
  have again := inside
  rw [← filed _ current (Except.ok.inj (met.2 current rfl).1)] at inside
  cases checkReport current address outcome with
  | error fault => trivial
  | ok passed =>
    refine (commit_within inside _).bind (Program.leaves_somewhere _) fun answer _ _ _ => ?_
    rcases answer with fault | committed
    · cases fault with
      | invalidTransition source target =>
        refine (load_within again _).andThen (Program.leaves_somewhere _) fun latest _ _ _ => ?_
        cases checkDispatch latest address <;> trivial
      | _ => trivial
    · trivial

theorem remove_within (inside : placesOf world.store.tables id ⊆ region) (missing : Error) :
    (Service.remove id missing).Within client region n world := by
  refine .ask ⟨inside (.inl rfl), fun e stored place member => inside (.inr ⟨e, stored, member⟩)⟩
    fun reply _ => ?_
  split <;> trivial

theorem delete_within (inside : placesOf world.store.tables id ⊆ region) (owner : Owner) :
    (Service.delete owner id).Within client region n world := by
  refine (load_within (inside (.inl rfl)) owner).andThen (load_leaves ⟨rfl, rfl⟩ owner id)
    fun current _ after met => ?_
  split
  · refine remove_within ?_ _
    rwa [met.1.tables]
  · trivial

theorem insertNew_within {owner : Owner} {key : Option String}
    (inside : placesOfNew world.store.tables client.id owner key ⊆ region) (kind : Kind)
    (payload : Json) : (insertNew owner kind payload key).Within client region n world := by
  refine ⟨trivial, trivial, .ask ⟨inside (.inl rfl), fun text carries place member => ?_⟩ ?_⟩
  · exact inside (.inr ⟨text, carries, member⟩)
  · intro reply _
    split <;> trivial

theorem submit_within {owner : Owner} {key : Option String}
    (inside : placesOfNew world.store.tables client.id owner key ⊆ region) (service : Service)
    (kind : Kind) (payload : Json) :
    (service.submit owner kind payload key).Within client region n world := by
  refine Program.Within.andThen ?_ (Program.leaves_somewhere _) fun _ _ _ _ => trivial
  unfold place
  cases key with
  | none => exact insertNew_within inside kind payload
  | some text =>
    dsimp only
    split
    · trivial
    · refine .find (fun place member => inside (.inr ⟨text, rfl, member⟩)) fun after same => ?_
      cases world.store.tables.find owner text with
      | none => exact insertNew_within (by rwa [same]) kind payload
      | some existing => trivial

/-- Each of these calls keeps to the places that it concerns. -/
theorem call_within (service : Service) (filed : world.store.tables.Filed)
    (single : client.operation.changesOne = true) :
    (client.operation.call service).Within client (client.concerns world.store.tables) n world := by
  have here {id : EntityId} : .entity id ∈ placesOf world.store.tables id := .inl rfl
  unfold Client.concerns
  cases asked : client.operation with
  | submit owner kind payload key => exact (submit_within subset_rfl service kind payload).mapOk
  | transition owner id request => exact (moved_within filed here owner fun _ => request).mapOk
  | cancel owner id => exact (moved_within filed here owner _).mapOk
  | retry owner id => exact (moved_within filed here owner _).mapOk
  | delete owner id => exact (delete_within subset_rfl owner).mapOk
  | adminDelete grant id => exact (remove_within subset_rfl _).mapOk
  | complete address outcome => exact (complete_within filed address here outcome).mapOk
  | _ =>
    rw [asked] at single
    cases single

end Calls

/-! ## Two calls in either order -/

/-- The same entities under the same ids, and the same keys for the same ids. -/
structure SameTables (a b : Memory) : Prop where
  entities : ∀ id, a.get id = b.get id
  keys : ∀ owner key, a.keys.find? (owner, key) = b.keys.find? (owner, key)

theorem sameTables_of_held {a b : Memory} (same : ∀ place, a.held place = b.held place) :
    SameTables a b :=
  ⟨fun id => Memory.held_entity_iff.1 (same (.entity id)),
    fun owner key => Memory.held_key_iff.1 (same (.key owner key))⟩

section Orders

variable (service : Service) {client : Client} {world : World Memory}

/-- Of two stores that hold the same where a call looks, the call cannot tell which it is. -/
theorem Client.serve_confined {a b : World Memory} (filed : a.store.tables.Filed)
    (openLeft : a.store.gate.Open) (openRight : b.store.gate.Open)
    (single : client.operation.changesOne = true)
    (alike : Set.EqOn a.store.tables.held b.store.tables.held (client.concerns a.store.tables)) :
    (client.serve service a).1 = (client.serve service b).1 ∧
      World.Confined (client.concerns a.store.tables) a.store.tables b.store.tables
        (client.serve service a).2 (client.serve service b).2 :=
  World.Confined.attend ⟨.refl alike, openLeft, openRight⟩ (call_within service filed single)

theorem Client.serve_keeps (filed : world.store.tables.Filed) (hookless : world.store.gate.Open)
    (single : client.operation.changesOne = true) :
    (client.serve service world).2.store.gate.Open ∧
      Set.EqOn (client.serve service world).2.store.tables.held world.store.tables.held
        (client.concerns world.store.tables)ᶜ := by
  obtain ⟨_, confined⟩ := Client.serve_confined service filed hookless hookless single
    fun _ _ => rfl
  exact ⟨confined.openLeft, confined.tables.left⟩

/-- After a call that shares no place with it, a call answers as before it, changes what it concerns
in the same way and leaves the rest. -/
theorem Client.serve_after {first second : Client} (filed : world.store.tables.Filed)
    (hookless : world.store.gate.Open) (singleFirst : first.operation.changesOne = true)
    (singleSecond : second.operation.changesOne = true)
    (apart : ∀ place ∈ first.concerns world.store.tables,
      place ∉ second.concerns world.store.tables) :
    (second.serve service (first.serve service world).2).1 = (second.serve service world).1 ∧
      Memory.Confined (second.concerns world.store.tables) world.store.tables
        (first.serve service world).2.store.tables (second.serve service world).2.store.tables
        (second.serve service (first.serve service world).2).2.store.tables := by
  obtain ⟨stillOpen, kept⟩ := Client.serve_keeps service filed hookless singleFirst
  obtain ⟨answer, confined⟩ := Client.serve_confined service filed hookless stillOpen
    singleSecond fun place member => (kept fun shared => apart place shared member).symm
  exact ⟨answer.symm, confined.tables⟩

end Orders

/-- On every store in memory that calls lead to, behind a gate that lets everything pass, two calls
that share no place commute. In either order each answers as it would alone, and in the end the same
entities and the same keys are stored. -/
theorem independent_calls_commute (service : Service) {world : World Memory}
    (reached : world.store.Reached) (hookless : world.store.gate.Open) {first second : Client}
    (singleFirst : first.operation.changesOne = true)
    (singleSecond : second.operation.changesOne = true)
    (apart : ∀ place ∈ first.concerns world.store.tables,
      place ∉ second.concerns world.store.tables) :
    let one := serveAll service [first, second] world
    let other := serveAll service [second, first] world
    one.1 = [(first.serve service world).1, (second.serve service world).1] ∧
      other.1 = [(second.serve service world).1, (first.serve service world).1] ∧
      SameTables one.2.store.tables other.2.store.tables := by
  have filed := Memory.filed_of_reached reached
  obtain ⟨answerSecond, second'⟩ := Client.serve_after service filed hookless singleFirst
    singleSecond apart
  obtain ⟨answerFirst, first'⟩ := Client.serve_after service filed hookless singleSecond
    singleFirst fun place ofSecond ofFirst => apart place ofFirst ofSecond
  simp only [serveAll]
  refine ⟨by rw [answerSecond], by rw [answerFirst], sameTables_of_held fun place => ?_⟩
  -- A place is one of the first call, one of the second, or one of neither.
  by_cases ofFirst : place ∈ first.concerns world.store.tables
  · have notSecond : place ∉ second.concerns world.store.tables := apart place ofFirst
    exact (second'.right notSecond).trans (first'.alike ofFirst)
  · rw [first'.right ofFirst]
    by_cases ofSecond : place ∈ second.concerns world.store.tables
    · exact (second'.alike ofSecond).symm
    · rw [second'.right ofSecond, second'.left ofSecond]
      exact first'.left ofFirst

/-- A cancelled job is deleted while another one is submitted under another key. -/
theorem deletion_commutes_with_submission :
    let owner : Owner := ⟨"acme", by decide⟩
    let service : Service := ⟨.default, [], List.nodup_nil, nofun⟩
    let nightly := Entity.create ⟨"a"⟩ owner .job (.bool true) (some "nightly") .epoch
    let store : Store Memory := ((Store.new .always).insert { nightly with status := .cancelled }).2
    let world := World.new store []
    let deletion : Client := ⟨.delete owner ⟨"a"⟩, ⟨"c"⟩, fun _ => .epoch⟩
    let submission : Client := ⟨.submit owner .job .null (some "weekly"), ⟨"d"⟩, fun _ => .epoch⟩
    let one := serveAll service [deletion, submission] world
    let other := serveAll service [submission, deletion] world
    let weekly := Entity.create ⟨"d"⟩ owner .job .null (some "weekly") .epoch
    one.1 = [.ok .nothing, .ok (.entity weekly)] ∧
      other.1 = [.ok (.entity weekly), .ok .nothing] ∧
      SameTables one.2.store.tables other.2.store.tables := by
  intro owner service nightly store world deletion submission one other weekly
  have reached : world.store.Reached := .insert (.new _) _
  have hookless : world.store.gate.Open := fun _ _ => rfl
  have unbound : world.store.tables.keys.find? (owner, "weekly") = none := by decide
  have apart : ∀ place ∈ deletion.concerns world.store.tables,
      place ∉ submission.concerns world.store.tables := by
    rintro place ofDeletion (rfl | ⟨text, same, looked⟩)
    · obtain same | ⟨e, _, _, _, same⟩ := ofDeletion
      · exact absurd (Place.entity.inj same) (by decide)
      · cases same
    · obtain rfl : "weekly" = text := Option.some.inj same
      obtain rfl | ⟨id, bound, _⟩ := looked
      · obtain same | ⟨e, stored, key, carries, same⟩ := ofDeletion
        · cases same
        · obtain ⟨_, rfl⟩ := Place.key.inj same
          obtain rfl : _ = e := Option.some.inj stored
          exact absurd carries (by decide)
      · cases unbound.symm.trans bound
  exact independent_calls_commute service reached hookless rfl rfl apart

end TenantWork.Service
