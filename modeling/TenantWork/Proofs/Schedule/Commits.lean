import TenantWork.Proofs.Schedule.Discipline
/-!
Rules that only concern commits. Between its commits a script is at rest, and everything it asks
there is harmless to such a rule. So a rule holds of all scripts as soon as it holds of a single
commit that begins at rest on a snapshot that its client has been shown.
-/
namespace TenantWork.Service

/-- A request that neither updates an entity nor tells of an update. -/
def Request.isPlain : Request → Bool
  | .save _ | .observe _ _ => false
  | _ => true

/-- At rest anything plain may be asked, and a commit comes to rest again. -/
structure KeptByCommits (client : Client) (allows : List Exchange → Stage → Request → Prop)
    (atRest : List Exchange → Prop) : Prop where
  plain : ∀ past stage request, atRest past → request.isPlain = true → allows past stage request
  stays : ∀ past exchange, atRest past → exchange.request.isPlain = true →
    atRest (exchange :: past)
  commit : ∀ past stage current request, atRest past → Shown past current →
    ((commit current request).within stage).Obeys client allows
      (fun later answer => atRest later ∧ ∀ e, answer = .ok e → Shown later e) past

namespace KeptByCommits

variable {client : Client} {allows : List Exchange → Stage → Request → Prop}
  {atRest : List Exchange → Prop} {past : List Exchange} (kept : KeptByCommits client allows atRest)
include kept

theorem load (rests : atRest past) (stage : Stage) (owner : Owner) (id : EntityId) :
    ((Service.load owner id).within stage).Obeys client allows
      (fun later answer => atRest later ∧ ∀ e, answer = .ok e → Shown later e) past := by
  refine ⟨kept.plain _ _ _ rests rfl, fun reply _ => ?_⟩
  have after := kept.stays past ⟨.load id, reply⟩ rests rfl
  rcases reply with fault | _ | found
  · exact ⟨after, fun _ done => (nomatch done)⟩
  · exact ⟨after, fun _ done => (nomatch done)⟩
  · refine ⟨after, fun e done => ?_⟩
    simp only [Entity.forOwner] at done
    split at done
    next =>
      obtain rfl := Except.ok.inj done
      exact shown_cons.2 (.inl List.mem_cons_self)
    next => cases done

theorem remove (rests : atRest past) (stage : Stage) (id : EntityId) (missing : Error) :
    ((Service.remove id missing).within stage).Obeys client allows (fun later _ => atRest later)
      past := by
  refine ⟨kept.plain _ _ _ rests rfl, fun reply _ => ?_⟩
  have after := kept.stays past ⟨.delete id, reply⟩ rests rfl
  rcases reply with fault | _ | _ <;> exact after

theorem complete (rests : atRest past) (stage : Stage) (address : Address) (outcome : Outcome) :
    ((Service.complete address outcome).within stage).Obeys client allows
      (fun later _ => atRest later) past := by
  rw [Service.complete, Program.within_andThen]
  refine (kept.load rests stage address.owner address.entity).andThen _
    (fun _ _ _ met => met.1) fun later current _ met => ?_
  cases checkReport current address outcome with
  | error fault => exact met.1
  | ok passed =>
    dsimp only
    rw [Program.within_bind]
    refine (kept.commit later stage current _ met.1 (met.2 current rfl)).bind
      fun last answer _ met => ?_
    rcases answer with fault | committed
    · cases fault with
      | invalidTransition source target =>
        dsimp only
        rw [Program.within_andThen]
        refine (kept.load met.1 stage address.owner address.entity).andThen _
          (fun _ _ _ met => met.1) fun _ latest _ met => ?_
        cases checkDispatch latest address <;> exact met.1
      | _ => exact met.1
    · exact met.1

theorem recordFailure (rests : atRest past) {e : Entity} (shown : Shown past e)
    (dispatch : Option Dispatch) (reason : String) :
    (Script.recordFailure e dispatch reason).Obeys client allows (fun later _ => atRest later)
      past := by
  rw [Script.recordFailure, failDispatch, Program.within_andThen]
  refine Script.Obeys.andThen (fun later answer => atRest later ∧
      ∀ current, answer = .ok current → Shown later current) ?_ (fun _ _ _ met => met.1) ?_
  · split
    next => exact kept.commit past _ e _ rests shown
    next =>
      refine ⟨rests, fun current done => ?_⟩
      obtain rfl := Except.ok.inj done
      exact shown
  · intro later current _ met
    rw [Program.within_bind]
    refine (kept.commit later _ current _ met.1 (met.2 current rfl)).bind fun last answer _ met => ?_
    rcases answer with fault | committed
    · cases fault with
      | invalidTransition source target =>
        exact (kept.load met.1 _ current.owner current.id).weaken fun _ _ _ met => met.1
      | _ => exact met.1
    · exact met.1

theorem afterStart (rests : atRest past) {running : Entity} (shown : Shown past running)
    (dispatch : Dispatch) (answer : Except Error Unit) :
    (Script.afterStart running dispatch answer).Obeys client allows (fun later _ => atRest later)
      past := by
  cases answer with
  | ok passed =>
    exact (kept.load rests .calling running.owner running.id).weaken fun _ _ _ met => met.1
  | error fault =>
    simp only [Script.afterStart]
    split
    · exact rests
    · exact kept.recordFailure rests shown _ _

theorem start (rests : atRest past) {running : Entity} (shown : Shown past running)
    (executor dispatch : String) :
    (Script.start running executor dispatch).Obeys client allows (fun later _ => atRest later)
      past := by
  refine ⟨kept.plain _ _ _ rests rfl, fun reply _ => ?_⟩
  have after := kept.stays past ⟨.start executor running dispatch, reply⟩ rests rfl
  have again := shown.later (List.suffix_cons ⟨.start executor running dispatch, reply⟩ past)
  cases reply with
  | answered answer => exact kept.afterStart after again _ _
  | deferred outcome => exact kept.afterStart after again _ _
  | reported outcome answer =>
    refine (kept.complete after _ _ outcome).bind fun later report grown met => ?_
    exact kept.afterStart met (again.later grown) _ _
  | brokeOff => exact after

theorem handOver (rests : atRest past) (service : Service) {e : Entity} (shown : Shown past e) :
    (Script.handOver service e).Obeys client allows (fun later _ => atRest later) past := by
  unfold Script.handOver
  cases service.chosen with
  | none => exact kept.recordFailure rests shown _ _
  | some executor =>
    refine ⟨kept.plain _ _ _ rests rfl, fun reply _ => ?_⟩
    have after := kept.stays past ⟨.reserve executor e, reply⟩ rests rfl
    have again := shown.later (List.suffix_cons ⟨.reserve executor e, reply⟩ past)
    rcases reply with fault | dispatch
    · exact kept.recordFailure after again _ _
    · refine (kept.commit _ .calling e _ after again).andThen _ (fun _ _ _ met => met.1)
        fun later running _ met => ?_
      exact kept.start met.1 (met.2 running rfl) executor dispatch

theorem insertNew (rests : atRest past) (owner : Owner) (kind : Kind) (payload : Json)
    (key : Option String) :
    ((Service.insertNew owner kind payload key).within .calling).Obeys client allows
      (fun later answer => atRest later ∧ ∀ e, answer = .ok (.created e) → Shown later e) past := by
  refine ⟨kept.plain _ _ _ rests rfl, fun now _ => ?_⟩
  have clock := kept.stays past ⟨.readClock, now⟩ rests rfl
  refine ⟨kept.plain _ _ _ clock rfl, fun id _ => ?_⟩
  have given := kept.stays _ ⟨.newId, id⟩ clock rfl
  refine ⟨kept.plain _ _ _ given rfl, fun reply _ => ?_⟩
  have after := kept.stays _ ⟨.insert (Entity.create id owner kind payload key now), reply⟩ given rfl
  rcases reply with fault | created | existing
  · exact ⟨after, fun _ done => (nomatch done)⟩
  · refine ⟨after, fun e done => ?_⟩
    cases done
    exact shown_cons.2 (.inl List.mem_cons_self)
  · exact ⟨after, fun _ done => (nomatch done)⟩

theorem place (rests : atRest past) (service : Service) (owner : Owner) (kind : Kind)
    (payload : Json) (key : Option String) :
    ((service.place owner kind payload key).within .calling).Obeys client allows
      (fun later answer => atRest later ∧ ∀ e, answer = .ok (.created e) → Shown later e) past := by
  unfold Service.place
  cases key with
  | none => exact kept.insertNew rests owner kind payload none
  | some text =>
    dsimp only
    split
    · exact ⟨rests, fun _ done => (nomatch done)⟩
    · refine ⟨kept.plain _ _ _ rests rfl, fun reply _ => ?_⟩
      have after := kept.stays past ⟨.find owner text, reply⟩ rests rfl
      rcases reply with fault | _ | existing
      · exact ⟨after, fun _ done => (nomatch done)⟩
      · exact kept.insertNew after owner kind payload (some text)
      · refine ⟨after, fun e done => ?_⟩
        simp only [replay] at done
        split at done <;> cases done

theorem moved (rests : atRest past) (owner : Owner) (id : EntityId)
    (request : Entity → Transition) :
    (((Service.load owner id).andThen fun current =>
      Service.commit current (request current)).within .calling).Obeys client allows
        (fun later _ => atRest later) past := by
  rw [Program.within_andThen]
  refine (kept.load rests .calling owner id).andThen _ (fun _ _ _ met => met.1)
    fun later current _ met => ?_
  exact (kept.commit later .calling current _ met.1 (met.2 current rfl)).weaken
    fun _ _ _ met => met.1

/-- Every operation keeps to the rule, if it begins at rest. -/
theorem script (begins : atRest []) (service : Service) (operation : Operation) :
    (operation.script service).Obeys client allows (fun later _ => atRest later) [] := by
  cases operation with
  | submit owner kind payload key =>
    simp only [Operation.script, Operation.call, submit, Program.within_mapOk,
      Program.within_andThen]
    refine Script.Obeys.mapOk (fun later _ => atRest later) ?_ fun _ _ _ met => met
    exact (kept.place begins service owner kind payload key).andThen _ (fun _ _ _ met => met.1)
      fun _ _ _ met => met.1
  | submitAndDispatch owner kind payload key =>
    refine Script.Obeys.mapOk (fun later _ => atRest later) ?_ fun _ _ _ met => met
    refine (kept.place begins service owner kind payload key).andThen _ (fun _ _ _ met => met.1)
      fun later placed _ met => ?_
    cases placed with
    | created e => exact kept.handOver met.1 service (met.2 e rfl)
    | replayed e => exact met.1
  | get owner id =>
    simp only [Operation.script, Operation.call, Program.within_mapOk]
    exact (kept.load begins .calling owner id).mapOk _ fun _ _ _ met => met.1
  | list owner filter =>
    exact ⟨kept.plain _ _ _ begins rfl, fun reply _ => kept.stays _ ⟨.list _ _, reply⟩ begins rfl⟩
  | transition owner id request =>
    simp only [Operation.script, Operation.call, Program.within_mapOk]
    exact (kept.moved begins owner id fun _ => request).mapOk _ fun _ _ _ met => met
  | cancel owner id =>
    simp only [Operation.script, Operation.call, Program.within_mapOk]
    exact (kept.moved begins owner id _).mapOk _ fun _ _ _ met => met
  | retry owner id =>
    simp only [Operation.script, Operation.call, Program.within_mapOk]
    exact (kept.moved begins owner id _).mapOk _ fun _ _ _ met => met
  | dispatch owner id =>
    refine Script.Obeys.mapOk (fun later _ => atRest later) ?_ fun _ _ _ met => met
    refine (kept.load begins .calling owner id).andThen _ (fun _ _ _ met => met.1)
      fun later current _ met => ?_
    split
    · exact kept.handOver met.1 service (met.2 current rfl)
    · exact met.1
  | delete owner id =>
    simp only [Operation.script, Operation.call, Program.within_mapOk, delete,
      Program.within_andThen]
    refine Script.Obeys.mapOk (fun later _ => atRest later) ?_ fun _ _ _ met => met
    refine (kept.load begins .calling owner id).andThen _ (fun _ _ _ met => met.1)
      fun later current _ met => ?_
    split
    · exact kept.remove met.1 .calling id _
    · exact met.1
  | adminGet grant id =>
    refine ⟨kept.plain _ _ _ begins rfl, fun reply _ => ?_⟩
    have after := kept.stays [] ⟨.load id, reply⟩ begins rfl
    rcases reply with fault | _ | found <;> exact after
  | adminList grant owner filter =>
    exact ⟨kept.plain _ _ _ begins rfl, fun reply _ => kept.stays _ ⟨.list _ _, reply⟩ begins rfl⟩
  | adminDelete grant id =>
    simp only [Operation.script, Operation.call, Program.within_mapOk, adminDelete]
    exact (kept.remove begins .calling id _).mapOk _ fun _ _ _ met => met
  | complete address outcome =>
    simp only [Operation.script, Operation.call, Program.within_mapOk]
    exact (kept.complete begins _ address outcome).mapOk _ fun _ _ _ met => met

end KeptByCommits

end TenantWork.Service
