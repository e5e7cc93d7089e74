import TenantWork.Proofs.Tenancy.Separation
/-!
The calls of one tenant in two worlds. As long as the stores look the same to the tenant, each call
goes the same way in both, and the stores look the same to the tenant again afterwards and to
everyone else as before.
-/
namespace TenantWork.Service

open Store (Storage Parts)

/-- The owner whose entities an operation is about, if it is bound to one. -/
def Operation.tenant? : Operation → Option Owner
  | .submit owner _ _ _ => some owner
  | .submitAndDispatch owner _ _ _ => some owner
  | .get owner _ => some owner
  | .list owner _ => some owner
  | .transition owner _ _ => some owner
  | .cancel owner _ => some owner
  | .retry owner _ => some owner
  | .dispatch owner _ => some owner
  | .delete owner _ => some owner
  | .complete address _ => some address.owner
  | .adminGet _ _ | .adminList _ _ _ | .adminDelete _ _ => none

variable {Tables : Type}

/-- Worlds that differ only in what their stores hold of others. -/
structure World.Beside (parts : Parts Tables) (start : Tables × Tables) (fresh : List EntityId)
    (a b : World Tables) : Prop where
  alike : a.Alike b
  store : a.store.Beside parts start fresh b.store

/-- The worlds still look the same to the tenant, and a success is as it should be. -/
def Stays {α : Type} (parts : Parts Tables) (start : Tables × Tables) (fresh : List EntityId)
    (fits : α → Prop) (answer : Except Error α) (a b : World Tables) : Prop :=
  a.Beside parts start fresh b ∧ ∀ value, answer = .ok value → fits value

variable {parts : Parts Tables} {tenant : Owner} {start : Tables × Tables}
  {fresh later : List EntityId} {client : Client} {n : Nat} {a b : World Tables} {α : Type}

theorem World.Beside.fewer (beside : a.Beside parts start fresh b) (fewer : later ⊆ fresh) :
    a.Beside parts start later b :=
  ⟨beside.alike, beside.store.fewer fewer⟩

theorem Stays.failed {fits : α → Prop} (fault : Error) (beside : a.Beside parts start fresh b) :
    Stays parts start fresh fits (.error fault) a b := ⟨beside, fun _ done => (nomatch done)⟩

theorem Stays.done {fits : α → Prop} {value : α} (beside : a.Beside parts start fresh b)
    (fit : fits value) : Stays parts start fresh fits (.ok value) a b := by
  refine ⟨beside, fun other same => ?_⟩
  obtain rfl := Except.ok.inj same
  exact fit

variable [Storage Tables]

/-! ## Requests -/

/-- A request that the stores answer alike goes the same way in both worlds. -/
theorem World.Beside.ask {ends : α → World Tables → World Tables → Prop} {request : Request}
    {next : request.Reply → Program α} (alike : a.Alike b)
    (same : request.storeReply? a.store = request.storeReply? b.store)
    (after : (request.storeAfter a.store).Beside parts start later (request.storeAfter b.store))
    (rest : ∀ reply a' b', reply = ((a.seenBy client n).answer request).1 →
      World.Beside parts start later a' b' → (next reply).Paired client ends (n + 1) a' b') :
    (Program.ask request next).Paired client ends n a b := by
  obtain ⟨replies, worlds⟩ := (alike.seenBy client n).answer request same
  refine ⟨congrArg next replies, rest _ _ _ rfl ⟨worlds, ?_⟩⟩
  rw [World.answer_store, World.answer_store]
  exact after

/-- What a tenant loads is what it can see. -/
theorem load_eq (owner : Owner) (id : EntityId) :
    load owner id =
      .ask (.load id) fun reply => .done (reply.bind (Entity.forOwner owner id)) := by
  refine congrArg (Program.ask (.load id)) (funext fun reply => ?_)
  cases reply with
  | ok found => rfl
  | error fault => rfl

section Calls

variable (separate : parts.Separate tenant) (beside : a.Beside parts start fresh b)
include separate beside

theorem load_sight_paired (id : EntityId) :
    (load tenant id).Paired client (fun answer a b => a.Beside parts start fresh b ∧
      answer = Parts.sight tenant a.store.tables id) n a b := by
  have same : Parts.sight tenant a.store.tables id = Parts.sight tenant b.store.tables id :=
    separate.load _ _ id beside.store.agree
  rw [load_eq]
  exact ⟨congrArg Program.done same, ⟨beside.alike.seenBy client n, beside.store⟩, rfl⟩

theorem load_paired (id : EntityId) :
    (load tenant id).Paired client (Stays parts start fresh fun e => e.owner = tenant) n a b := by
  refine (load_sight_paired separate beside id).weaken fun answer a b ⟨beside, seen⟩ => ?_
  refine ⟨beside, fun e found => ?_⟩
  exact (Parts.sight_eq_ok_iff.1 (seen.symm.trans found)).2

theorem list_paired (filter : Filter) :
    (list tenant filter).Paired client (Stays parts start fresh fun _ => True) n a b := by
  refine World.Beside.ask beside.alike ?_ beside.store fun _ a b _ beside =>
    ⟨beside, fun _ _ => trivial⟩
  exact congrArg some (separate.list _ _ filter beside.store.agree)

theorem commit_paired {current : Entity} (own : current.owner = tenant) (request : Transition) :
    (commit current request).Paired client
      (Stays parts start fresh fun e => e.owner = tenant) n a b := by
  refine World.Beside.ask beside.alike rfl beside.store fun now a b _ beside => ?_
  cases applied : current.apply request now with
  | error fault => exact Stays.failed fault beside
  | ok next =>
    have owned : next.owner = tenant := by
      obtain ⟨_, rfl⟩ := Entity.apply_eq_ok_iff.1 applied
      rw [Entity.entering_owner, own]
    obtain ⟨same, fits, after⟩ := beside.store.commit separate
      (separate.save _ _ next beside.store.agree owned) (List.Subset.refl fresh)
      fun id _ => nofun
    refine World.Beside.ask beside.alike (congrArg some same) after fun reply a b told beside => ?_
    cases reply with
    | ok committed =>
      have kept : committed.owner = tenant := by
        rw [fits committed told.symm]
        exact owned
      exact World.Beside.ask beside.alike rfl beside.store fun _ a b _ beside =>
        Stays.done beside kept
    | error fault => cases fault <;> exact Stays.failed _ beside

theorem complete_paired {address : Address} (own : address.owner = tenant) (outcome : Outcome) :
    (complete address outcome).Paired client
      (Stays parts start fresh fun e => e.owner = tenant) n a b := by
  subst own
  refine (load_paired separate beside address.entity).andThen (fun _ _ _ met => .failed _ met.1)
    fun current m a b ⟨beside, owned⟩ => ?_
  cases checkReport current address outcome with
  | error fault => exact Stays.failed fault beside
  | ok passed =>
    refine (commit_paired separate beside (owned current rfl) _).bind
      fun answer m a b ⟨beside, fits⟩ => ?_
    -- Only a commit that was overtaken reads the entity again.
    split
    next source target =>
      refine (load_paired separate beside address.entity).andThen (fun _ _ _ met => .failed _ met.1)
        fun latest m a b ⟨beside, _⟩ => ?_
      cases checkDispatch latest address with
      | error fault => exact Stays.failed fault beside
      | ok passed => exact Stays.failed _ beside
    next => exact ⟨beside, fits⟩

theorem failDispatch_paired {e : Entity} (own : e.owner = tenant) (dispatch : Option Dispatch)
    (reason : String) : (failDispatch e dispatch reason).Paired client
      (Stays parts start fresh fun e => e.owner = tenant) n a b := by
  unfold failDispatch
  have running : (if e.status = e.kind.lifecycle.initial then
        commit e { Transition.into e.kind.lifecycle.running with dispatch }
      else .succeed e).Paired client (Stays parts start fresh fun e => e.owner = tenant) n a b := by
    split
    · exact commit_paired separate beside own _
    · exact Stays.done beside own
  refine running.andThen (fun _ _ _ met => .failed _ met.1) fun current m a b ⟨beside, owned⟩ => ?_
  refine (commit_paired separate beside (owned current rfl) _).bind
    fun answer m a b ⟨beside, fits⟩ => ?_
  split
  · rw [owned current rfl]
    exact load_paired separate beside current.id
  · exact ⟨beside, fits⟩

theorem afterStart_paired {running : Entity} (own : running.owner = tenant) (dispatch : Dispatch)
    (answer : Except Error Unit) : (afterStart running dispatch answer).Paired client
      (Stays parts start fresh fun e => e.owner = tenant) n a b := by
  cases answer with
  | ok done =>
    subst own
    exact load_paired separate beside running.id
  | error fault =>
    unfold afterStart
    dsimp only
    split
    · exact Stays.failed fault beside
    · exact failDispatch_paired separate beside own _ _

theorem start_paired {running : Entity} (own : running.owner = tenant)
    (executor dispatch : String) : (Service.start running executor dispatch).Paired client
      (Stays parts start fresh fun e => e.owner = tenant) n a b := by
  refine World.Beside.ask beside.alike rfl beside.store fun reply a b _ beside => ?_
  cases reply with
  | answered answer => exact afterStart_paired separate beside own _ _
  | deferred outcome => exact afterStart_paired separate beside own _ _
  | reported outcome answer =>
    exact (complete_paired separate beside own outcome).bind fun report m a b ⟨beside, _⟩ =>
      afterStart_paired separate beside own _ _
  | brokeOff => exact ⟨beside, fun e same => Except.ok.inj same ▸ own⟩

theorem handOver_paired (service : Service) {e : Entity} (own : e.owner = tenant) :
    (service.handOver e).Paired client
      (Stays parts start fresh fun e => e.owner = tenant) n a b := by
  unfold handOver
  cases service.chosen with
  | none => exact failDispatch_paired separate beside own _ _
  | some executor =>
    refine World.Beside.ask beside.alike rfl beside.store fun reply a b _ beside => ?_
    cases reply with
    | error fault => exact failDispatch_paired separate beside own _ _
    | ok dispatch =>
      exact (commit_paired separate beside own _).andThen (fun _ _ _ met => .failed _ met.1)
        fun running m a b ⟨beside, owned⟩ =>
          start_paired separate beside (owned running rfl) executor dispatch

theorem dispatch_paired (service : Service) (id : EntityId) :
    (service.dispatch tenant id).Paired client
      (Stays parts start fresh fun e => e.owner = tenant) n a b := by
  refine (load_paired separate beside id).andThen (fun _ _ _ met => .failed _ met.1)
    fun current m a b ⟨beside, owned⟩ => ?_
  show (if current.status = current.kind.lifecycle.initial then service.handOver current
    else Program.fail _).Paired client _ m a b
  split
  · exact handOver_paired separate beside service (owned current rfl)
  · exact Stays.failed _ beside

/-- A transition on an entity of the tenant, whatever it asks for there. -/
theorem transition_paired (id : EntityId) (request : Entity → Transition) :
    ((load tenant id).andThen fun current => commit current (request current)).Paired client
      (Stays parts start fresh fun e => e.owner = tenant) n a b :=
  (load_paired separate beside id).andThen (fun _ _ _ met => .failed _ met.1)
    fun current _ _ _ ⟨beside, owned⟩ => commit_paired separate beside (owned current rfl) _

theorem delete_paired (id : EntityId) :
    (Service.delete tenant id).Paired client (Stays parts start fresh fun _ => True) n a b := by
  refine (load_sight_paired separate beside id).andThen (fun _ _ _ met => .failed _ met.1)
    fun current m a b ⟨beside, seen⟩ => ?_
  split
  next =>
    obtain ⟨same, _, after⟩ := beside.store.commit separate
      (separate.delete _ _ id current beside.store.agree seen.symm) (List.Subset.refl fresh)
      fun id _ => nofun
    refine World.Beside.ask beside.alike (congrArg some same) after fun reply a b _ beside => ?_
    match reply with
    | .ok true => exact Stays.done beside trivial
    | .ok false => exact Stays.failed _ beside
    | .error fault => exact Stays.failed _ beside
  next => exact Stays.failed _ beside

end Calls

section Submissions

variable (separate : parts.Separate tenant)
  (beside : a.Beside parts start (client.id :: fresh) b) (apart : client.id ∉ fresh)
include separate beside apart

theorem insertNew_paired (kind : Kind) (payload : Json) (key : Option String) :
    (insertNew tenant kind payload key).Paired client (Stays parts start fresh fun placed =>
      ∀ e, placed = .created e → e.owner = tenant) n a b := by
  refine World.Beside.ask beside.alike rfl beside.store fun now a b _ beside => ?_
  refine World.Beside.ask beside.alike rfl beside.store fun id a b given beside => ?_
  obtain rfl : id = client.id := given
  obtain ⟨unusedA, unusedB⟩ := beside.store.unused client.id List.mem_cons_self
  obtain ⟨same, fits, after⟩ := beside.store.commit separate
    (separate.insert _ _ (Entity.create client.id tenant kind payload key now) beside.store.agree
      rfl unusedA unusedB) (List.subset_cons_self client.id fresh)
    fun id later taken => apart ((Option.some.inj taken : client.id = id) ▸ later)
  refine World.Beside.ask beside.alike (congrArg some same) after fun reply a b told beside => ?_
  match reply with
  | .ok (.inserted e) =>
    refine Stays.done beside fun other created => ?_
    obtain rfl := Submission.created.inj created
    rw [fits _ told.symm e rfl]
    rfl
  | .ok (.existing e) => exact Stays.failed _ beside
  | .error fault => exact Stays.failed _ beside

theorem place_paired (service : Service) (kind : Kind) (payload : Json) (key : Option String) :
    (service.place tenant kind payload key).Paired client (Stays parts start fresh fun placed =>
      ∀ e, placed = .created e → e.owner = tenant) n a b := by
  have fewer := beside.fewer (List.subset_cons_self client.id fresh)
  unfold place
  cases key with
  | none => exact insertNew_paired separate beside apart kind payload none
  | some text =>
    dsimp only
    split
    next => exact Stays.failed _ fewer
    next =>
      refine World.Beside.ask beside.alike
        (congrArg some (separate.find _ _ text beside.store.agree)) beside.store
        fun reply a b _ beside => ?_
      have fewer := beside.fewer (List.subset_cons_self client.id fresh)
      match reply with
      | .ok (some existing) =>
        refine ⟨fewer, fun placed answered e created => ?_⟩
        unfold replay at answered
        split at answered
        · obtain rfl := Except.ok.inj answered
          cases created
        · cases answered
      | .ok none => exact insertNew_paired separate beside apart kind payload (some text)
      | .error fault => exact Stays.failed _ fewer

/-- Every operation of a tenant, which may create one entity under the client's id. -/
theorem call_paired (service : Service) (operation : Operation)
    (own : operation.tenant? = some tenant) :
    (operation.call service).Paired client
      (fun _ a b => a.Beside parts start fresh b) n a b := by
  have fewer := beside.fewer (List.subset_cons_self client.id fresh)
  have kept {β γ : Type} (fits : β → Prop) {call : Call β} {f : β → γ}
      (paired : call.Paired client (Stays parts start fresh fits) n a b) :
      (call.mapOk f).Paired client (fun _ a b => a.Beside parts start fresh b) n a b :=
    paired.mapOk fun _ _ _ met => met.1
  cases operation with
  | submit owner kind payload key =>
    cases own
    refine kept (fun _ => True) ?_
    exact (place_paired separate beside apart service kind payload key).andThen
      (fun _ _ _ met => .failed _ met.1) fun _ _ _ _ met => Stays.done met.1 trivial
  | submitAndDispatch owner kind payload key =>
    cases own
    refine kept (fun _ => True) ?_
    refine (place_paired separate beside apart service kind payload key).andThen
      (fun _ _ _ met => .failed _ met.1) fun placed _ _ _ met => ?_
    cases placed with
    | created e =>
      exact (handOver_paired separate met.1 service (met.2 _ rfl e rfl)).weaken
        fun _ _ _ met => ⟨met.1, fun _ _ => trivial⟩
    | replayed e => exact Stays.done met.1 trivial
  | get owner id =>
    cases own
    exact kept _ (load_paired separate fewer id)
  | list owner filter =>
    cases own
    exact kept _ (list_paired separate fewer filter)
  | transition owner id _ | cancel owner id | retry owner id =>
    cases own
    exact kept _ (transition_paired separate fewer id _)
  | dispatch owner id =>
    cases own
    exact kept _ (dispatch_paired separate fewer service id)
  | delete owner id =>
    cases own
    exact kept _ (delete_paired separate fewer id)
  | complete address outcome =>
    cases own
    exact kept _ (complete_paired separate fewer rfl outcome)
  | adminGet | adminList | adminDelete => cases own

end Submissions

/-! ## Whole runs -/

/-- Any number of calls of a tenant, one after another, each with a new id of its own. -/
theorem serveAll_beside (separate : parts.Separate tenant) (service : Service)
    (clients : List Client) (own : ∀ client ∈ clients, client.operation.tenant? = some tenant)
    (distinct : (clients.map Client.id).Nodup)
    (beside : a.Beside parts start (clients.map Client.id) b) :
    (serveAll service clients a).1 = (serveAll service clients b).1 ∧
      (serveAll service clients a).2.Beside parts start [] (serveAll service clients b).2 := by
  induction clients generalizing a b with
  | nil => exact ⟨rfl, beside⟩
  | cons client rest ih =>
    obtain ⟨ownFirst, ownRest⟩ := List.forall_mem_cons.1 own
    obtain ⟨apart, distinctRest⟩ := List.nodup_cons.1 distinct
    obtain ⟨first, between⟩ :=
      (call_paired separate beside apart service client.operation ownFirst).attend
    obtain ⟨others, after⟩ := ih ownRest distinctRest between
    simp only [serveAll]
    exact ⟨List.cons_eq_cons.2 ⟨first, others⟩, after⟩

end TenantWork.Service
