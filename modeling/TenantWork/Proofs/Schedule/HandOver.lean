import TenantWork.Proofs.Schedule.Attempts
import TenantWork.Proofs.Work.WellFormed
/-!
How a client comes to hand work to an executor. It reserves a dispatch id, writes the id on the
entity as it enters the running status, and only then hands the entity over. It does so once. Who
is turned away, by a key in use or by a refused reservation or entry, hands nothing over, and after
a hand-over its client enters the running status no more.
-/
namespace TenantWork.Service

namespace Exchange

/-- The dispatch id that an executor gives out. -/
def reserved? : Exchange → Option String
  | ⟨.reserve _ _, .ok dispatch⟩ => some dispatch
  | _ => none

/-- The dispatch id under which work is handed to an executor. -/
def started? : Exchange → Option String
  | ⟨.start _ _ dispatch, _⟩ => some dispatch
  | _ => none

/-- A key in use, or a refused insertion, reservation or entry into the running status. -/
def turnsAway : Exchange → Bool
  | ⟨.find _ _, .ok none⟩ => false
  | ⟨.find _ _, _⟩ => true
  | ⟨.insert _, .ok (.inserted _)⟩ => false
  | ⟨.insert _, _⟩ => true
  | ⟨.reserve _ _, .error _⟩ => true
  | ⟨.save next, .error _⟩ => next.status == next.kind.lifecycle.running
  | _ => false

/-- An exchange that may come before the reservation of a dispatch id. -/
def isEarly : Exchange → Bool
  | ⟨.readClock, _⟩ => true
  | ⟨.newId, _⟩ => true
  | ⟨.load _, _⟩ => true
  | ⟨.find _ _, .ok none⟩ => true
  | ⟨.insert _, .ok (.inserted _)⟩ => true
  | _ => false

end Exchange

/-- The dispatch id that a caller puts into a request of its own. -/
def Operation.named? : Operation → Option String
  | .transition _ _ request => request.dispatch.bind Dispatch.id
  | _ => none

/-! ## The rule -/

def Unstarted (past : List Exchange) : Prop := ∀ exchange ∈ past, exchange.started? = none

/-- Nothing has happened yet but what prepares a hand-over. -/
def Early (past : List Exchange) : Prop := ∀ exchange ∈ past, exchange.isEarly = true

/-- The entry into the running status is the first, and a dispatch id that it carries was given out
by an executor, unless the caller has named it. -/
structure Begins (client : Client) (past : List Exchange) (request : Transition) : Prop where
  unstarted : Unstarted past
  named : ∀ dispatch, request.dispatch.bind Dispatch.id = some dispatch →
    client.operation.named? = some dispatch ∨
      ((∃ exchange ∈ past, exchange.reserved? = some dispatch) ∧
        ∀ exchange ∈ past, exchange.updated? = none)

/-- The dispatch was reserved and written on the running entity before the entity is handed over. -/
structure Handed (past : List Exchange) (executor : String) (running : Entity)
    (dispatch : String) : Prop where
  unstarted : Unstarted past
  passed : ∀ exchange ∈ past, exchange.turnsAway = false
  reserved : ∃ exchange ∈ past, exchange.reserved? = some dispatch
  entered : ∃ exchange ∈ past, exchange.updated? = some running
  status : running.status = running.kind.lifecycle.running
  executor : running.executor = some executor
  dispatch : running.dispatch = some dispatch

def Hands (client : Client) (past : List Exchange) (_ : Stage) : Request → Prop
  | .find _ _ | .insert _ | .reserve _ _ => Unstarted past
  | .save next =>
    ∃ current request n, Shown past current ∧
      current.apply request (client.times n) = .ok next ∧
        (request.target = current.kind.lifecycle.running → Begins client past request)
  | .start executor running dispatch => Handed past executor running dispatch
  | _ => True

section Rule

variable {client : Client} {past : List Exchange} {exchange : Exchange} {request : Transition}

theorem Exchange.early (early : exchange.isEarly = true) :
    exchange.started? = none ∧ exchange.turnsAway = false ∧ exchange.updated? = none := by
  unfold isEarly at early
  split at early <;> first
    | exact ⟨rfl, rfl, rfl⟩
    | cases early

theorem Unstarted.cons (unstarted : Unstarted past) (idle : exchange.started? = none) :
    Unstarted (exchange :: past) := List.forall_mem_cons.2 ⟨idle, unstarted⟩

theorem Early.cons (early : Early past) (now : exchange.isEarly = true) :
    Early (exchange :: past) := List.forall_mem_cons.2 ⟨now, early⟩

theorem Early.unstarted (early : Early past) : Unstarted past :=
  fun exchange inside => (Exchange.early (early exchange inside)).1

theorem Begins.plain (unstarted : Unstarted past)
    (unnamed : request.dispatch.bind Dispatch.id = none) : Begins client past request := by
  refine ⟨unstarted, fun dispatch named => ?_⟩
  rw [unnamed] at named
  cases named

theorem Begins.readClock (begins : Begins client past request) (now : Time.Instant) :
    Begins client (⟨.readClock, now⟩ :: past) request := by
  refine ⟨begins.unstarted.cons rfl, fun dispatch named => ?_⟩
  refine (begins.named dispatch named).imp_right fun ⟨given, unwritten⟩ => ⟨?_, ?_⟩
  · obtain ⟨exchange, inside, reserves⟩ := given
    exact ⟨exchange, List.mem_cons_of_mem _ inside, reserves⟩
  · exact List.forall_mem_cons.2 ⟨rfl, unwritten⟩

/-- After a reservation, a commit into the running status makes everything ready. -/
theorem Early.handed {e next : Entity} {executor dispatch : String} {now : Time.Instant}
    (early : Early past)
    (applied : e.apply ((Transition.into e.kind.lifecycle.running).withDispatch executor
      (some dispatch)) now = .ok next) :
    Handed (⟨.observe e next.bumped, ()⟩ :: ⟨.save next, .ok next.bumped⟩ :: ⟨.readClock, now⟩ ::
      ⟨.reserve executor e, .ok dispatch⟩ :: past) executor next.bumped dispatch := by
  obtain ⟨status, named, carries⟩ := Entity.apply_given applied rfl rfl
  have idle := early.unstarted
  refine ⟨?_, ?_, ⟨⟨.reserve executor e, .ok dispatch⟩, ?_, rfl⟩,
    ⟨⟨.save next, .ok next.bumped⟩, ?_, rfl⟩, status, named, carries⟩
  · exact (((idle.cons rfl).cons rfl).cons rfl).cons rfl
  · simp only [List.forall_mem_cons]
    exact ⟨rfl, rfl, rfl, rfl, fun x inside => (Exchange.early (early x inside)).2.1⟩
  · simp
  · simp

end Rule

/-! ## Every operation keeps to it -/

section Operations

variable (client : Client) (stage : Stage) {past : List Exchange}

theorem load_hands (owner : Owner) (id : EntityId) :
    ((load owner id).within stage).Obeys client (Hands client)
      (fun later answer => (∃ reply, later = ⟨.load id, reply⟩ :: past) ∧
        ∀ e, answer = .ok e → Shown later e) past := by
  refine ⟨trivial, fun reply _ => ?_⟩
  rcases reply with fault | _ | found
  · exact ⟨⟨_, rfl⟩, fun _ done => (nomatch done)⟩
  · exact ⟨⟨_, rfl⟩, fun _ done => (nomatch done)⟩
  · refine ⟨⟨_, rfl⟩, fun e done => ?_⟩
    simp only [Entity.forOwner] at done
    split at done
    next =>
      obtain rfl := Except.ok.inj done
      exact shown_cons.2 (.inl List.mem_cons_self)
    next => cases done

theorem commit_hands {current : Entity} {request : Transition} (shown : Shown past current)
    (begins : request.target = current.kind.lifecycle.running → Begins client past request) :
    ((commit current request).within stage).Obeys client (Hands client)
      (fun later answer => ∀ e, answer = .ok e → ∃ now next, current.apply request now = .ok next ∧
        e = next.bumped ∧ later = ⟨.observe current e, ()⟩ :: ⟨.save next, .ok e⟩ ::
          ⟨.readClock, now⟩ :: past) past := by
  refine ⟨trivial, fun now read => ?_⟩
  cases applied : current.apply request now with
  | error fault =>
    simp only [applied]
    intro e done
    cases done
  | ok next =>
    simp only [applied]
    obtain ⟨n, rfl⟩ := read
    refine ⟨⟨current, request, n, shown.later (List.suffix_cons _ _), applied, fun running => ?_⟩,
      fun reply truthful => ?_⟩
    · exact (begins running).readClock _
    · rcases reply with fault | committed
      · cases fault <;> intro e done <;> cases done
      · refine ⟨trivial, fun _ _ e done => ?_⟩
        cases done
        exact ⟨client.times n, next, applied, truthful, rfl⟩

/-- A commit into another status than running is always in order. -/
theorem commit_hands_other {current : Entity} {request : Transition} (shown : Shown past current)
    (other : request.target ≠ current.kind.lifecycle.running) :
    ((commit current request).within stage).Obeys client (Hands client) (fun _ _ => True) past :=
  (commit_hands client stage shown fun running => absurd running other).weaken
    fun _ _ _ _ => trivial

theorem complete_hands (address : Address) (outcome : Outcome) :
    ((complete address outcome).within stage).Obeys client (Hands client) (fun _ _ => True)
      past := by
  rw [complete, Program.within_andThen]
  refine (load_hands client stage address.owner address.entity).andThen _
    (fun _ _ _ _ => trivial) fun later current _ loaded => ?_
  cases checkReport current address outcome with
  | error fault => trivial
  | ok passed =>
    dsimp only
    rw [Program.within_bind]
    have other : (outcome.request current.kind).target ≠ current.kind.lifecycle.running := by
      obtain same | same := outcome.target_cases current.kind
      · rw [same]
        exact Kind.success_ne_running
      · rw [same]
        exact Kind.failure_ne_running
    refine (commit_hands_other client stage (loaded.2 current rfl) other).bind
      fun last answer _ _ => ?_
    rcases answer with fault | committed
    · cases fault with
      | invalidTransition source target =>
        dsimp only
        rw [Program.within_andThen]
        refine (load_hands client stage address.owner address.entity).andThen _
          (fun _ _ _ _ => trivial) fun _ latest _ _ => ?_
        cases checkDispatch latest address <;> trivial
      | _ => trivial
    · trivial

theorem recordFailure_hands {e : Entity} (shown : Shown past e) (dispatch : Option Dispatch)
    (reason : String) (begins : e.status = e.kind.lifecycle.initial →
      Begins client past { Transition.into e.kind.lifecycle.running with dispatch }) :
    (Script.recordFailure e dispatch reason).Obeys client (Hands client) (fun _ _ => True)
      past := by
  rw [Script.recordFailure, failDispatch, Program.within_andThen]
  refine Script.Obeys.andThen (fun later answer => ∀ current, answer = .ok current →
      Shown later current ∧ current.kind = e.kind) ?_ (fun _ _ _ _ => trivial) ?_
  · split
    next initial =>
      refine (commit_hands client _ shown fun _ => begins initial).weaken
        fun later answer grown met current done => ?_
      obtain ⟨now, next, applied, rfl, rfl⟩ := met current done
      obtain ⟨_, rfl⟩ := Entity.apply_eq_ok_iff.1 applied
      refine ⟨?_, Entity.entering_kind _ _ _⟩
      exact shown_cons.2 (.inr (shown_cons.2 (.inl List.mem_cons_self)))
    next =>
      intro current done
      cases done
      exact ⟨shown, rfl⟩
  · intro later current _ met
    obtain ⟨again, kind⟩ := met current rfl
    rw [Program.within_bind]
    refine (commit_hands_other client _ again ?_).bind fun last answer _ _ => ?_
    · rw [kind]
      exact Kind.failure_ne_running
    · rcases answer with fault | committed
      · cases fault with
        | invalidTransition source target =>
          refine (load_hands client _ current.owner current.id).weaken ?_
          exact fun _ _ _ _ => trivial
        | _ => trivial
      · trivial

theorem afterStart_hands {running : Entity} (shown : Shown past running)
    (status : running.status = running.kind.lifecycle.running) (dispatch : Dispatch)
    (answer : Except Error Unit) :
    (Script.afterStart running dispatch answer).Obeys client (Hands client) (fun _ _ => True)
      past := by
  cases answer with
  | ok passed =>
    refine (load_hands client .calling running.owner running.id).weaken ?_
    exact fun _ _ _ _ => trivial
  | error fault =>
    simp only [Script.afterStart]
    split
    · trivial
    · refine recordFailure_hands client shown _ _ fun initial => ?_
      exact absurd (initial.symm.trans status) (Kind.initial_ne_running _)

theorem start_hands {running : Entity} {executor dispatch : String} (shown : Shown past running)
    (handed : Handed past executor running dispatch) :
    (Script.start running executor dispatch).Obeys client (Hands client) (fun _ _ => True)
      past := by
  refine ⟨handed, fun reply _ => ?_⟩
  have again := shown.later (List.suffix_cons ⟨.start executor running dispatch, reply⟩ past)
  cases reply with
  | answered answer => exact afterStart_hands client again handed.status _ _
  | deferred outcome => exact afterStart_hands client again handed.status _ _
  | reported outcome answer =>
    refine (complete_hands client _ _ outcome).bind fun later report grown _ => ?_
    exact afterStart_hands client (again.later grown) handed.status _ _
  | brokeOff => trivial

theorem handOver_hands (service : Service) {e : Entity} (shown : Shown past e)
    (early : Early past) :
    (Script.handOver service e).Obeys client (Hands client) (fun _ _ => True) past := by
  unfold Script.handOver
  cases service.chosen with
  | none => exact recordFailure_hands client shown _ _ fun _ => .plain early.unstarted rfl
  | some executor =>
    refine ⟨early.unstarted, fun reply _ => ?_⟩
    have again := shown.later (List.suffix_cons ⟨.reserve executor e, reply⟩ past)
    rcases reply with fault | dispatch
    · refine recordFailure_hands client again _ _ fun _ => .plain ?_ rfl
      exact early.unstarted.cons rfl
    · have given : ∃ exchange ∈ (⟨.reserve executor e, .ok dispatch⟩ :: past : List Exchange),
          exchange.reserved? = some dispatch := ⟨_, List.mem_cons_self, rfl⟩
      have unwritten : ∀ exchange ∈ (⟨.reserve executor e, .ok dispatch⟩ :: past : List Exchange),
          exchange.updated? = none :=
        List.forall_mem_cons.2 ⟨rfl, fun x inside => (Exchange.early (early x inside)).2.2⟩
      refine (commit_hands client .calling again fun _ =>
          ⟨early.unstarted.cons rfl, fun other named => .inr ⟨?_, unwritten⟩⟩).andThen _
        (fun _ _ _ _ => trivial) fun later running _ met => ?_
      · obtain rfl := Option.some.inj named
        exact given
      · obtain ⟨now, next, applied, rfl, rfl⟩ := met running rfl
        refine start_hands client ?_ (early.handed applied)
        exact shown_cons.2 (.inr (shown_cons.2 (.inl List.mem_cons_self)))

theorem insertNew_hands (early : Early past) (owner : Owner) (kind : Kind) (payload : Json)
    (key : Option String) :
    ((insertNew owner kind payload key).within .calling).Obeys client (Hands client)
      (fun later answer => ∀ e, answer = .ok (.created e) → Shown later e ∧ Early later) past := by
  refine ⟨trivial, fun now _ => ⟨trivial, fun id _ => ⟨?_, fun reply truthful => ?_⟩⟩⟩
  · exact (early.unstarted.cons rfl).cons rfl
  · rcases reply with fault | created | existing
    · intro e done
      cases done
    · intro e done
      cases done
      exact ⟨shown_cons.2 (.inl List.mem_cons_self), ((early.cons rfl).cons rfl).cons rfl⟩
    · intro e done
      cases done

theorem place_hands (service : Service) (owner : Owner) (kind : Kind) (payload : Json)
    (key : Option String) :
    ((service.place owner kind payload key).within .calling).Obeys client (Hands client)
      (fun later answer => ∀ e, answer = .ok (.created e) → Shown later e ∧ Early later) [] := by
  have nothing : Early [] := fun _ inside => absurd inside List.not_mem_nil
  unfold Service.place
  cases key with
  | none => exact insertNew_hands client nothing owner kind payload none
  | some text =>
    dsimp only
    split
    · intro e done
      cases done
    · refine ⟨nothing.unstarted, fun reply _ => ?_⟩
      rcases reply with fault | _ | existing
      · intro e done
        cases done
      · exact insertNew_hands client (nothing.cons rfl) owner kind payload (some text)
      · intro e done
        simp only [replay] at done
        split at done <;> cases done

/-- A snapshot is loaded and committed with a request that names no other dispatch id than the
caller's own. -/
theorem moved_hands (owner : Owner) (id : EntityId) (request : Entity → Transition)
    (named : ∀ current dispatch, (request current).dispatch.bind Dispatch.id = some dispatch →
      client.operation.named? = some dispatch) :
    (((load owner id).andThen fun current => commit current (request current)).within
      .calling).Obeys client (Hands client) (fun _ _ => True) [] := by
  rw [Program.within_andThen]
  refine (load_hands client .calling owner id).andThen _ (fun _ _ _ _ => trivial)
    fun later current _ loaded => ?_
  obtain ⟨⟨reply, rfl⟩, shown⟩ := loaded
  have unstarted : Unstarted [⟨.load id, reply⟩] := List.forall_mem_singleton.2 rfl
  refine (commit_hands client .calling (shown current rfl) fun _ =>
    ⟨unstarted, fun dispatch given => .inl (named current dispatch given)⟩).weaken ?_
  exact fun _ _ _ _ => trivial

/-- Every operation keeps to the rule, from its first request on. -/
theorem script_hands (service : Service) :
    (client.operation.script service).Obeys client (Hands client) (fun _ _ => True) [] := by
  have nothing : Early [] := fun _ inside => absurd inside List.not_mem_nil
  cases operation : client.operation with
  | submit owner kind payload key =>
    simp only [Operation.script, Operation.call, submit, Program.within_mapOk,
      Program.within_andThen]
    refine Script.Obeys.mapOk (fun _ _ => True) ?_ fun _ _ _ _ => trivial
    refine (place_hands client service owner kind payload key).andThen _
      (fun _ _ _ _ => trivial) fun _ _ _ _ => trivial
  | submitAndDispatch owner kind payload key =>
    refine Script.Obeys.mapOk (fun _ _ => True) ?_ fun _ _ _ _ => trivial
    refine (place_hands client service owner kind payload key).andThen _
      (fun _ _ _ _ => trivial) fun later placed _ met => ?_
    cases placed with
    | created e =>
      obtain ⟨shown, early⟩ := met e rfl
      exact handOver_hands client service shown early
    | replayed e => trivial
  | get owner id =>
    simp only [Operation.script, Operation.call, Program.within_mapOk]
    exact (load_hands client .calling owner id).mapOk _ fun _ _ _ _ => trivial
  | list owner filter => exact ⟨trivial, fun _ _ => trivial⟩
  | transition owner id request =>
    simp only [Operation.script, Operation.call, Program.within_mapOk]
    refine (moved_hands client owner id (fun _ => request) fun _ dispatch given => ?_).mapOk _
      fun _ _ _ _ => trivial
    rw [operation]
    exact given
  | cancel owner id =>
    simp only [Operation.script, Operation.call, Program.within_mapOk]
    refine (moved_hands client owner id _ fun _ _ given => ?_).mapOk _ fun _ _ _ _ => trivial
    cases given
  | retry owner id =>
    simp only [Operation.script, Operation.call, Program.within_mapOk]
    refine (moved_hands client owner id _ fun _ _ given => ?_).mapOk _ fun _ _ _ _ => trivial
    cases given
  | dispatch owner id =>
    refine Script.Obeys.mapOk (fun _ _ => True) ?_ fun _ _ _ _ => trivial
    refine (load_hands client .calling owner id).andThen _ (fun _ _ _ _ => trivial)
      fun later current _ loaded => ?_
    obtain ⟨⟨reply, rfl⟩, shown⟩ := loaded
    split
    · exact handOver_hands client service (shown current rfl) (nothing.cons rfl)
    · trivial
  | delete owner id =>
    simp only [Operation.script, Operation.call, Program.within_mapOk, delete,
      Program.within_andThen]
    refine Script.Obeys.mapOk (fun _ _ => True) ?_ fun _ _ _ _ => trivial
    refine (load_hands client .calling owner id).andThen _ (fun _ _ _ _ => trivial)
      fun later current _ _ => ?_
    split
    · refine ⟨trivial, fun reply _ => ?_⟩
      rcases reply with fault | _ | _ <;> trivial
    · trivial
  | adminGet grant id =>
    refine ⟨trivial, fun reply _ => ?_⟩
    rcases reply with fault | _ | found <;> trivial
  | adminList grant owner filter => exact ⟨trivial, fun _ _ => trivial⟩
  | adminDelete grant id =>
    refine ⟨trivial, fun reply _ => ?_⟩
    rcases reply with fault | _ | _ <;> trivial
  | complete address outcome =>
    simp only [Operation.script, Operation.call, Program.within_mapOk]
    exact (complete_hands client _ address outcome).mapOk _ fun _ _ _ _ => trivial

end Operations

end TenantWork.Service
