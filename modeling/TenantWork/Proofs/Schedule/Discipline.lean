import TenantWork.Proofs.Schedule.System
import TenantWork.Proofs.Work.Entering
/-!
What every call keeps to, whatever it is answered. A script obeys a rule if each of its requests is
allowed by what its client has exchanged before, and each of its ends fits that too. Replies are
arbitrary but truthful: a look-up by id shows an entity of that id, and a write that is accepted
shows what it wrote. The rule of all operations: a client inserts at most once, a new entity under
its own id, and saves only what a transition makes of a snapshot that it has been shown.
-/
namespace TenantWork.Service

/-- What a client may rely on in a reply, whoever else acts. -/
def Exchange.Truthful (client : Client) : Exchange → Prop
  | ⟨.readClock, now⟩ => ∃ n, now = client.times n
  | ⟨.newId, id⟩ => id = client.id
  | ⟨.load id, .ok (some e)⟩ => e.id = id
  | ⟨.insert e, .ok (.inserted created)⟩ => created = e
  | ⟨.save e, .ok saved⟩ => saved = e.bumped
  | _ => True

/-- A snapshot that the store has shown before. -/
def Shown (past : List Exchange) (e : Entity) : Prop := ∃ exchange ∈ past, e ∈ exchange.shown

theorem Shown.later {past later : List Exchange} {e : Entity} (shown : Shown past e)
    (grown : past <:+ later) : Shown later e := by
  obtain ⟨exchange, inside, shows⟩ := shown
  exact ⟨exchange, grown.subset inside, shows⟩

theorem shown_cons {exchange : Exchange} {past : List Exchange} {e : Entity} :
    Shown (exchange :: past) e ↔ e ∈ exchange.shown ∨ Shown past e := by
  simp [Shown]

namespace Script

variable {α β : Type}

/-- Every request is allowed after what was exchanged before it, and every end fits. -/
def Obeys (client : Client) (allows : List Exchange → Stage → Request → Prop)
    (ends : List Exchange → α → Prop) : List Exchange → Script α → Prop
  | past, .done value => ends past value
  | past, .ask stage request next =>
    allows past stage request ∧
      ∀ reply, Exchange.Truthful client ⟨request, reply⟩ →
        (next reply).Obeys client allows ends (⟨request, reply⟩ :: past)

variable {client : Client} {allows : List Exchange → Stage → Request → Prop}

theorem Obeys.bind {between : List Exchange → α → Prop} {ends : List Exchange → β → Prop}
    {past : List Exchange} {script : Script α} {after : α → Script β}
    (first : script.Obeys client allows between past)
    (rest : ∀ later value, past <:+ later → between later value →
      (after value).Obeys client allows ends later) :
    (script.bind after).Obeys client allows ends past := by
  induction script generalizing past with
  | done value => exact rest past value List.suffix_rfl first
  | ask stage request next ih =>
    refine ⟨first.1, fun reply truthful => ?_⟩
    refine ih reply (first.2 reply truthful) fun later value grown met => ?_
    exact rest later value ((List.suffix_cons _ _).trans grown) met

theorem Obeys.andThen (between : List Exchange → Except Error α → Prop)
    {ends : List Exchange → Except Error β → Prop} {past : List Exchange}
    {script : Script (Except Error α)} {after : α → Script (Except Error β)}
    (first : script.Obeys client allows between past)
    (failed : ∀ later fault, past <:+ later → between later (.error fault) →
      ends later (.error fault))
    (rest : ∀ later value, past <:+ later → between later (.ok value) →
      (after value).Obeys client allows ends later) :
    (script.andThen after).Obeys client allows ends past := by
  refine first.bind fun later answer grown met => ?_
  cases answer with
  | ok value => exact rest later value grown met
  | error fault => exact failed later fault grown met

theorem Obeys.mapOk (between : List Exchange → Except Error α → Prop)
    {ends : List Exchange → Except Error β → Prop} {past : List Exchange}
    {script : Script (Except Error α)} {f : α → β}
    (first : script.Obeys client allows between past)
    (met : ∀ later answer, past <:+ later → between later answer → ends later (answer.map f)) :
    (script.mapOk f).Obeys client allows ends past :=
  first.bind met

theorem Obeys.weaken {between ends : List Exchange → α → Prop} {past : List Exchange}
    {script : Script α} (first : script.Obeys client allows between past)
    (met : ∀ later value, past <:+ later → between later value → ends later value) :
    script.Obeys client allows ends past := by
  induction script generalizing past with
  | done value => exact met past value List.suffix_rfl first
  | ask stage request next ih =>
    refine ⟨first.1, fun reply truthful => ?_⟩
    refine ih reply (first.2 reply truthful) fun later value grown => ?_
    exact met later value ((List.suffix_cons _ _).trans grown)

theorem Obeys.imp {allows' : List Exchange → Stage → Request → Prop}
    {ends ends' : List Exchange → α → Prop} {past : List Exchange} {script : Script α}
    (obeys : script.Obeys client allows ends past)
    (wider : ∀ past stage request, allows past stage request → allows' past stage request)
    (met : ∀ past value, ends past value → ends' past value) :
    script.Obeys client allows' ends' past := by
  induction script generalizing past with
  | done value => exact met past value obeys
  | ask stage request next ih =>
    exact ⟨wider past stage request obeys.1, fun reply truthful => ih reply (obeys.2 reply truthful)⟩

end Script

theorem Program.within_bind {α β : Type} (stage : Stage) (program : Program α)
    (after : α → Program β) :
    (program.bind after).within stage =
      (program.within stage).bind fun value => (after value).within stage := by
  induction program with
  | done value => rfl
  | ask request next ih => simp [Program.bind, within, Script.bind, ih]

theorem Program.within_andThen {α β : Type} (stage : Stage) (call : Call α)
    (after : α → Call β) :
    (call.andThen after).within stage =
      (call.within stage).andThen fun value => (after value).within stage := by
  rw [andThen, within_bind, Script.andThen]
  congr 1
  funext answer
  cases answer <;> rfl

theorem Program.within_mapOk {α β : Type} (stage : Stage) (f : α → β) (call : Call α) :
    (call.mapOk f).within stage = (call.within stage).mapOk f := by
  rw [mapOk, within_bind, Script.mapOk]
  rfl

/-! ## The rule of all operations -/

/-- What a stage says about the snapshot it changes, and about the change. -/
def Stage.Admits (known : Entity → Prop) (current : Entity) (request : Transition) : Stage → Prop
  | .calling => True
  | .reporting address =>
    current.id = address.entity ∧ current.owner = address.owner ∧
      current.dispatch = some address.dispatch ∧ ∃ outcome, request = Outcome.request outcome current.kind
  | .recording e =>
    known e ∧ current.id = e.id ∧
      (current = e ∨
        current.revision = e.revision + 1 ∧ current.status = current.kind.lifecycle.running)

theorem Stage.Admits.mono {known known' : Entity → Prop} {stage : Stage} {current : Entity}
    {request : Transition} (admitted : stage.Admits known current request)
    (weaker : ∀ e, known e → known' e) : stage.Admits known' current request := by
  cases stage with
  | calling => trivial
  | reporting address => exact admitted
  | recording e => exact ⟨weaker e admitted.1, admitted.2⟩

def Allowed (client : Client) (past : List Exchange) (stage : Stage) : Request → Prop
  | .insert e =>
    (∀ exchange ∈ past, exchange.isInsert = false) ∧
      ∃ owner kind payload key n,
        e = Entity.create client.id owner kind payload key (client.times n)
  | .save next =>
    ∃ current request n, Shown past current ∧
      current.apply request (client.times n) = .ok next ∧ stage.Admits (Shown past) current request
  | _ => True

section Calls

variable (client : Client) (stage : Stage) (past : List Exchange)

theorem load_obeys (owner : Owner) (id : EntityId) :
    ((load owner id).within stage).Obeys client (Allowed client)
      (fun later answer => ∀ e, answer = .ok e → Shown later e ∧ e.id = id ∧ e.owner = owner) past := by
  refine ⟨trivial, fun reply truthful => ?_⟩
  rcases reply with fault | _ | found
  · intro e done
    cases done
  · intro e done
    cases done
  · intro e done
    simp only [Entity.forOwner] at done
    split at done
    next own =>
      cases done
      exact ⟨shown_cons.2 (.inl (by simp [Exchange.shown])), truthful, own⟩
    next => cases done

variable {past} in
theorem commit_obeys {current : Entity} {request : Transition} (shown : Shown past current)
    (admitted : ∀ later, past <:+ later → stage.Admits (Shown later) current request) :
    ((commit current request).within stage).Obeys client (Allowed client)
      (fun later answer => ∀ e, answer = .ok e → Shown later e ∧
        ∃ now next, current.apply request now = .ok next ∧ e = next.bumped) past := by
  refine ⟨trivial, fun now read => ?_⟩
  cases applied : current.apply request now with
  | error fault =>
    simp only [applied]
    intro e done
    cases done
  | ok next =>
    simp only [applied]
    obtain ⟨n, rfl⟩ := read
    have grown : past <:+ ⟨.readClock, client.times n⟩ :: past := List.suffix_cons _ _
    refine ⟨⟨current, request, n, shown.later grown, applied, admitted _ grown⟩, ?_⟩
    intro reply truthful
    rcases reply with fault | committed
    · cases fault <;> intro e done <;> cases done
    · refine ⟨trivial, fun _ _ e done => ?_⟩
      cases done
      refine ⟨?_, client.times n, next, applied, truthful⟩
      exact shown_cons.2 (.inr (shown_cons.2 (.inl (by simp [Exchange.shown]))))

theorem remove_obeys (id : EntityId) (missing : Error) :
    ((remove id missing).within stage).Obeys client (Allowed client) (fun _ _ => True) past := by
  refine ⟨trivial, fun reply _ => ?_⟩
  rcases reply with fault | _ | _ <;> trivial

end Calls

/-! ## Every operation keeps to it -/

section Operations

variable (client : Client) (past : List Exchange)

theorem complete_obeys (address : Address) (outcome : Outcome) :
    ((complete address outcome).within (.reporting address)).Obeys client (Allowed client)
      (fun _ _ => True) past := by
  rw [complete, Program.within_andThen]
  refine (load_obeys client _ past address.owner address.entity).andThen _
    (fun _ _ _ _ => trivial) fun later current _ found => ?_
  obtain ⟨shown, id, owner⟩ := found current rfl
  cases checked : checkReport current address outcome with
  | error fault => trivial
  | ok passed =>
    have current_dispatch : current.dispatch = some address.dispatch := by
      simp only [checkReport, checkDispatch, bind, Except.bind] at checked
      split at checked
      · cases checked
      · split at checked
        next same => exact same
        next => cases checked
    dsimp only
    rw [Program.within_bind]
    refine (commit_obeys client (.reporting address) shown fun _ _ =>
      ⟨id, owner, current_dispatch, outcome, rfl⟩).bind
      fun last answer _ _ => ?_
    rcases answer with fault | committed
    · cases fault with
      | invalidTransition source target =>
        dsimp only
        rw [Program.within_andThen]
        refine (load_obeys client _ last address.owner address.entity).andThen _
          (fun _ _ _ _ => trivial) fun _ latest _ _ => ?_
        cases checkDispatch latest address <;> trivial
      | _ => trivial
    · trivial

variable {past} in
theorem recordFailure_obeys {e : Entity} (shown : Shown past e) (dispatch : Option Dispatch)
    (reason : String) :
    (Script.recordFailure e dispatch reason).Obeys client (Allowed client) (fun _ _ => True)
      past := by
  rw [Script.recordFailure, failDispatch, Program.within_andThen]
  refine Script.Obeys.andThen (fun later answer => ∀ current, answer = .ok current →
      Shown later current ∧ current.id = e.id ∧
        (current = e ∨ current.revision = e.revision + 1 ∧
          current.status = current.kind.lifecycle.running)) ?_ (fun _ _ _ _ => trivial) ?_
  · split
    next initial =>
      refine (commit_obeys client (.recording e) shown fun later grown =>
        ⟨shown.later grown, rfl, .inl rfl⟩).weaken fun later answer grown met current done => ?_
      obtain ⟨again, now, next, applied, rfl⟩ := met current done
      obtain ⟨_, rfl⟩ := Entity.apply_eq_ok_iff.1 applied
      exact ⟨again, by simp [Entity.bumped], .inr ⟨by simp [Entity.bumped], by simp [Entity.bumped]; rfl⟩⟩
    next =>
      intro current done
      cases done
      exact ⟨shown, rfl, .inl rfl⟩
  · intro later current grown met
    obtain ⟨again, id, same⟩ := met current rfl
    rw [Program.within_bind]
    refine (commit_obeys client (.recording e) again fun last grown' =>
      ⟨(shown.later grown).later grown', id, same⟩).bind fun last answer _ _ => ?_
    rcases answer with fault | committed
    · cases fault with
      | invalidTransition source target =>
        refine (load_obeys client (.recording e) last current.owner current.id).weaken ?_
        exact fun _ _ _ _ => trivial
      | _ => trivial
    · trivial

variable {past} in
theorem afterStart_obeys {running : Entity} (shown : Shown past running) (dispatch : Dispatch)
    (answer : Except Error Unit) :
    (Script.afterStart running dispatch answer).Obeys client (Allowed client) (fun _ _ => True)
      past := by
  cases answer with
  | ok passed =>
    refine (load_obeys client .calling past running.owner running.id).weaken ?_
    exact fun _ _ _ _ => trivial
  | error fault =>
    simp only [Script.afterStart]
    split
    · trivial
    · exact recordFailure_obeys client shown _ _

variable {past} in
theorem start_obeys {running : Entity} (shown : Shown past running) (executor dispatch : String) :
    (Script.start running executor dispatch).Obeys client (Allowed client) (fun _ _ => True)
      past := by
  refine ⟨trivial, fun reply _ => ?_⟩
  have again := shown.later (List.suffix_cons ⟨.start executor running dispatch, reply⟩ past)
  cases reply with
  | answered answer => exact afterStart_obeys client again _ _
  | deferred outcome => exact afterStart_obeys client again _ _
  | reported outcome answer =>
    refine (complete_obeys client _ _ outcome).bind fun later report grown _ => ?_
    exact afterStart_obeys client (again.later grown) _ _
  | brokeOff => trivial

variable {past} in
theorem handOver_obeys (service : Service) {e : Entity} (shown : Shown past e) :
    (Script.handOver service e).Obeys client (Allowed client) (fun _ _ => True) past := by
  unfold Script.handOver
  cases service.chosen with
  | none => exact recordFailure_obeys client shown _ _
  | some executor =>
    refine ⟨trivial, fun reply _ => ?_⟩
    have again := shown.later (List.suffix_cons ⟨.reserve executor e, reply⟩ past)
    rcases reply with fault | dispatch
    · exact recordFailure_obeys client again _ _
    · refine (commit_obeys client .calling again fun _ _ => trivial).andThen _
        (fun _ _ _ _ => trivial) fun later running _ met => ?_
      exact start_obeys client (met running rfl).1 executor dispatch

theorem insertNew_obeys (unplaced : ∀ exchange ∈ past, exchange.isInsert = false) (owner : Owner)
    (kind : Kind) (payload : Json) (key : Option String) :
    ((insertNew owner kind payload key).within .calling).Obeys client (Allowed client)
      (fun later answer => ∀ e, answer = .ok (.created e) → Shown later e) past := by
  refine ⟨trivial, fun now read => ⟨trivial, fun id given => ⟨⟨?_, ?_⟩, fun reply truthful => ?_⟩⟩⟩
  · intro exchange inside
    simp only [List.mem_cons] at inside
    rcases inside with rfl | rfl | before
    · rfl
    · rfl
    · exact unplaced exchange before
  · obtain ⟨n, rfl⟩ := read
    obtain rfl : id = client.id := given
    exact ⟨owner, kind, payload, key, n, rfl⟩
  · rcases reply with fault | created | existing
    · intro e done
      cases done
    · intro e done
      cases done
      exact shown_cons.2 (.inl (by simp [Exchange.shown]))
    · intro e done
      cases done

theorem place_obeys (unplaced : ∀ exchange ∈ past, exchange.isInsert = false) (service : Service)
    (owner : Owner) (kind : Kind) (payload : Json) (key : Option String) :
    ((service.place owner kind payload key).within .calling).Obeys client (Allowed client)
      (fun later answer => ∀ e, answer = .ok (.created e) → Shown later e) past := by
  unfold Service.place
  cases key with
  | none => exact insertNew_obeys client past unplaced owner kind payload none
  | some text =>
    dsimp only
    split
    · intro e done
      cases done
    · refine ⟨trivial, fun reply _ => ?_⟩
      rcases reply with fault | _ | existing
      · intro e done
        cases done
      · refine insertNew_obeys client _ ?_ owner kind payload (some text)
        intro exchange inside
        rcases List.mem_cons.1 inside with rfl | before
        · rfl
        · exact unplaced exchange before
      · intro e done
        simp only [replay] at done
        split at done <;> cases done

/-- Every operation keeps to the rule, from its first request on. -/
theorem script_obeys (service : Service) (operation : Operation) :
    (operation.script service).Obeys client (Allowed client) (fun _ _ => True) [] := by
  have unplaced : ∀ exchange ∈ ([] : List Exchange), exchange.isInsert = false :=
    fun _ inside => absurd inside List.not_mem_nil
  have moved (owner : Owner) (id : EntityId) (request : Entity → Transition) :
      (((load owner id).andThen fun current => commit current (request current)).within
        .calling).Obeys client (Allowed client) (fun _ _ => True) [] := by
    rw [Program.within_andThen]
    refine (load_obeys client _ _ owner id).andThen _ (fun _ _ _ _ => trivial)
      fun later current _ found => ?_
    refine (commit_obeys client .calling (found current rfl).1 fun _ _ => trivial).weaken ?_
    exact fun _ _ _ _ => trivial
  cases operation with
  | submit owner kind payload key =>
    simp only [Operation.script, Operation.call, submit, Program.within_mapOk,
      Program.within_andThen]
    refine Script.Obeys.mapOk (fun _ _ => True) ?_ fun _ _ _ _ => trivial
    refine (place_obeys client [] unplaced service owner kind payload key).andThen _
      (fun _ _ _ _ => trivial) fun _ _ _ _ => trivial
  | submitAndDispatch owner kind payload key =>
    refine Script.Obeys.mapOk (fun _ _ => True) ?_ fun _ _ _ _ => trivial
    refine (place_obeys client [] unplaced service owner kind payload key).andThen _
      (fun _ _ _ _ => trivial) fun later placed _ met => ?_
    cases placed with
    | created e => exact handOver_obeys client service (met e rfl)
    | replayed e => trivial
  | get owner id =>
    simp only [Operation.script, Operation.call, Program.within_mapOk]
    exact (load_obeys client _ _ owner id).mapOk _ fun _ _ _ _ => trivial
  | list owner filter => exact ⟨trivial, fun _ _ => trivial⟩
  | transition owner id request =>
    simp only [Operation.script, Operation.call, Program.within_mapOk]
    exact (moved owner id fun _ => request).mapOk _ fun _ _ _ _ => trivial
  | cancel owner id =>
    simp only [Operation.script, Operation.call, Program.within_mapOk]
    exact (moved owner id _).mapOk _ fun _ _ _ _ => trivial
  | retry owner id =>
    simp only [Operation.script, Operation.call, Program.within_mapOk]
    exact (moved owner id _).mapOk _ fun _ _ _ _ => trivial
  | dispatch owner id =>
    refine Script.Obeys.mapOk (fun _ _ => True) ?_ fun _ _ _ _ => trivial
    refine (load_obeys client _ _ owner id).andThen _ (fun _ _ _ _ => trivial)
      fun later current _ found => ?_
    split
    · exact handOver_obeys client service (found current rfl).1
    · trivial
  | delete owner id =>
    simp only [Operation.script, Operation.call, Program.within_mapOk, delete,
      Program.within_andThen]
    refine Script.Obeys.mapOk (fun _ _ => True) ?_ fun _ _ _ _ => trivial
    refine (load_obeys client _ _ owner id).andThen _ (fun _ _ _ _ => trivial)
      fun later current _ _ => ?_
    split
    · exact remove_obeys client _ later id _
    · trivial
  | adminGet grant id =>
    refine ⟨trivial, fun reply _ => ?_⟩
    rcases reply with fault | _ | found <;> trivial
  | adminList grant owner filter => exact ⟨trivial, fun _ _ => trivial⟩
  | adminDelete grant id =>
    simp only [Operation.script, Operation.call, Program.within_mapOk, adminDelete]
    exact (remove_obeys client _ [] id _).mapOk _ fun _ _ _ _ => trivial
  | complete address outcome =>
    simp only [Operation.script, Operation.call, Program.within_mapOk]
    exact (complete_obeys client [] address outcome).mapOk _ fun _ _ _ _ => trivial

end Operations

end TenantWork.Service
