import TenantWork.Proofs.Schedule.Discipline
/-!
Operations that take effect in one step. Such an operation changes the store at most once, and from
then on only tells the observers; if it only reads, its one read decides the answer. Whatever it
asked before the step would be answered the same at the moment of the step. Owners' removals are not
among them, since their read is not protected until the write, and neither are dispatches, which
write more than once.
-/
namespace TenantWork.Service

/-! ## Where an operation takes effect -/

def Operation.takesOneStep : Operation → Bool
  | .submitAndDispatch _ _ _ _ | .dispatch _ _ | .delete _ _ => false
  | _ => true

namespace Exchange

def wrote : Exchange → Bool
  | ⟨.insert _, .ok (.inserted _)⟩ => true
  | ⟨.save _, .ok _⟩ => true
  | ⟨.delete _, .ok true⟩ => true
  | _ => false

/-- The read that decides the answer: that of an operation that only reads, and that of a
submission that finds its key in use. -/
def decides (operation : Operation) (exchange : Exchange) : Bool :=
  match operation, exchange with
  | .get _ _, ⟨.load _, _⟩ => true
  | .adminGet _ _, ⟨.load _, _⟩ => true
  | .list _ _, ⟨.list _ _, _⟩ => true
  | .adminList _ _ _, ⟨.list _ _, _⟩ => true
  | .submit _ _ _ _, ⟨.find _ _, .ok (some _)⟩ => true
  | _, _ => false

/-- The step at which an operation takes effect. -/
def takesEffect (operation : Operation) (exchange : Exchange) : Bool :=
  exchange.wrote || exchange.decides operation

/-- An exchange that concerns nobody else: a look at the clock or a new id. -/
def isQuiet : Exchange → Bool
  | ⟨.readClock, _⟩ => true
  | ⟨.newId, _⟩ => true
  | _ => false

/-- An earlier exchange that would have the same reply at the moment when a request succeeds. -/
def RenewedBy (request : Request) (exchange : Exchange) : Prop :=
  exchange.isQuiet = true ∨
    match request with
    | .insert e => ∃ key, e.key = some key ∧ exchange = ⟨.find e.owner key, .ok none⟩
    | .save next =>
      ∃ current : Entity, exchange = ⟨.load current.id, .ok (some current)⟩ ∧
        next.id = current.id ∧ next.revision = current.revision
    | _ => False

end Exchange

/-- The value of a script that has nothing left but to tell the observers. -/
def Script.outcome? {α : Type} : Script α → Option α
  | .done value => some value
  | .ask _ (.observe _ _) next => (next ()).outcome?
  | .ask _ _ _ => none

/-! ## The rule -/

/-- The client has not taken effect yet. -/
def Untouched (client : Client) (past : List Exchange) : Prop :=
  ∀ exchange ∈ past, exchange.takesEffect client.operation = false

/-- Until it takes effect a client may ask anything but an executor, and afterwards it only tells
the observers. -/
def OneEffect (client : Client) (past : List Exchange) (_ : Stage) : Request → Prop
  | .observe _ _ => True
  | .reserve _ _ | .start _ _ _ => False
  | request =>
    Untouched client past ∧
      ((∃ reply, Exchange.takesEffect client.operation ⟨request, reply⟩ = true) →
        ∀ exchange ∈ past, exchange.RenewedBy request)

/-- A success has taken effect, and what has written is a success. -/
def Conclusive {α : Type} (client : Client) (past : List Exchange) (answer : Except Error α) :
    Prop :=
  ((∃ value, answer = .ok value) → ¬Untouched client past) ∧
    ((∃ exchange ∈ past, exchange.wrote = true) → ∃ value, answer = .ok value)

section Rule

variable {client : Client} {past : List Exchange} {α β : Type}

theorem Untouched.cons (untouched : Untouched client past) (exchange : Exchange)
    (idle : exchange.takesEffect client.operation = false) :
    Untouched client (exchange :: past) := by
  intro other inside
  rcases List.mem_cons.1 inside with rfl | before
  · exact idle
  · exact untouched other before

theorem Untouched.not_wrote (untouched : Untouched client past) {exchange : Exchange}
    (inside : exchange ∈ past) : exchange.wrote = false := by
  have idle := untouched exchange inside
  rw [Exchange.takesEffect, Bool.or_eq_false_iff] at idle
  exact idle.1

theorem Untouched.conclusive (untouched : Untouched client past) (fault : Error) :
    Conclusive client past (.error fault : Except Error α) := by
  refine ⟨fun ⟨_, succeeded⟩ => (nomatch succeeded), fun ⟨exchange, inside, wrote⟩ => ?_⟩
  rw [untouched.not_wrote inside] at wrote
  cases wrote

theorem conclusive_of_effect {exchange : Exchange} (inside : exchange ∈ past)
    (effect : exchange.takesEffect client.operation = true) (value : α) :
    Conclusive client past (.ok value : Except Error α) := by
  refine ⟨fun _ untouched => ?_, fun _ => ⟨value, rfl⟩⟩
  rw [untouched exchange inside] at effect
  cases effect

theorem Conclusive.failed {fault : Error}
    (conclusive : Conclusive client past (.error fault : Except Error α)) :
    Conclusive client past (.error fault : Except Error β) := by
  refine ⟨fun ⟨_, succeeded⟩ => (nomatch succeeded), fun wrote => ?_⟩
  obtain ⟨_, succeeded⟩ := conclusive.2 wrote
  cases succeeded

theorem Conclusive.map {answer : Except Error α} (conclusive : Conclusive client past answer)
    (f : α → β) : Conclusive client past (answer.map f) := by
  cases answer with
  | ok value => exact ⟨fun _ => conclusive.1 ⟨value, rfl⟩, fun _ => ⟨f value, rfl⟩⟩
  | error fault => exact conclusive.failed

/-- A client that has taken effect only tells the observers, and a write is answered by success. -/
theorem Script.Obeys.outcome {script : Script (Except Error α)}
    (obeys : script.Obeys client (OneEffect client) (Conclusive client) past)
    (touched : ¬Untouched client past) :
    ∃ answer, script.outcome? = some answer ∧
      ((∃ exchange ∈ past, exchange.wrote = true) → ∃ value, answer = .ok value) := by
  induction script generalizing past with
  | done answer => exact ⟨answer, rfl, obeys.2⟩
  | ask stage request next ih =>
    cases request with
    | observe before after =>
      have rest := obeys.2 () trivial
      obtain ⟨answer, ended, succeeds⟩ := ih () rest fun untouched =>
        touched fun exchange inside => untouched exchange (List.mem_cons_of_mem _ inside)
      refine ⟨answer, ended, fun ⟨exchange, inside, wrote⟩ => ?_⟩
      exact succeeds ⟨exchange, List.mem_cons_of_mem _ inside, wrote⟩
    | reserve executor e => exact obeys.1.elim
    | start executor e dispatch => exact obeys.1.elim
    | _ => exact absurd obeys.1.1 touched

/-- A call that is bound to succeed has taken effect. -/
theorem Script.Obeys.touched {script : Script (Except Error α)} {value : α}
    (obeys : script.Obeys client (OneEffect client) (Conclusive client) past)
    (ended : script.outcome? = some (.ok value)) : ¬Untouched client past := by
  induction script generalizing past with
  | done answer =>
    obtain rfl := Option.some.inj ended
    exact obeys.1 ⟨value, rfl⟩
  | ask stage request next ih =>
    cases request with
    | observe before after =>
      have later := ih () (obeys.2 () trivial) ended
      exact fun untouched => later (untouched.cons _ (by cases client.operation <;> rfl))
    | _ => cases ended

end Rule

/-! ## Every such operation keeps to it -/

section Operations

variable {client : Client} {past : List Exchange} {stage : Stage}

theorem load_oneEffect (moves : ∀ exchange : Exchange, exchange.decides client.operation = false)
    (untouched : Untouched client past) (owner : Owner) (id : EntityId) :
    ((load owner id).within stage).Obeys client (OneEffect client)
      (fun later answer => Untouched client later ∧
        ∀ e, answer = .ok e → later = ⟨.load e.id, .ok (some e)⟩ :: past) past := by
  have idle (reply) : Exchange.takesEffect client.operation ⟨.load id, reply⟩ = false :=
    moves ⟨.load id, reply⟩
  refine ⟨⟨untouched, fun ⟨reply, effect⟩ => ?_⟩, fun reply truthful => ?_⟩
  · rw [idle] at effect
    cases effect
  · have after := untouched.cons _ (idle reply)
    rcases reply with fault | _ | found
    · exact ⟨after, fun _ done => (nomatch done)⟩
    · exact ⟨after, fun _ done => (nomatch done)⟩
    · refine ⟨after, fun e done => ?_⟩
      simp only [Entity.forOwner] at done
      split at done
      · cases done
        obtain rfl : found.id = id := truthful
        rfl
      · cases done

theorem commit_oneEffect (moves : ∀ exchange : Exchange, exchange.decides client.operation = false)
    (untouched : Untouched client past) {current : Entity}
    (loaded : ∀ exchange ∈ past, exchange.isQuiet = true ∨
      exchange = ⟨.load current.id, .ok (some current)⟩) (request : Transition) :
    ((commit current request).within stage).Obeys client (OneEffect client)
      (fun later answer => Conclusive client later answer ∧
        ∀ fault, answer = .error fault → Untouched client later) past := by
  have failed (later : List Exchange) (fault : Error) (idle : Untouched client later) :
      Conclusive client later (.error fault : Except Error Entity) ∧
        ∀ other, (.error fault : Except Error Entity) = .error other → Untouched client later :=
    ⟨idle.conclusive fault, fun _ _ => idle⟩
  refine ⟨⟨untouched, fun ⟨now, effect⟩ => ?_⟩, fun now _ => ?_⟩
  · rw [Exchange.takesEffect, moves] at effect
    cases effect
  have clock : Untouched client (⟨.readClock, now⟩ :: past) :=
    untouched.cons ⟨.readClock, now⟩ (moves _)
  cases applied : current.apply request now with
  | error fault =>
    simp only [applied]
    exact failed _ fault clock
  | ok next =>
    simp only [applied]
    obtain ⟨_, made⟩ := Entity.apply_eq_ok_iff.1 applied
    refine ⟨⟨clock, fun _ exchange inside => ?_⟩, fun reply _ => ?_⟩
    · rcases List.mem_cons.1 inside with rfl | before
      · exact .inl rfl
      · refine (loaded exchange before).imp_right fun same => ?_
        refine ⟨current, same, ?_, ?_⟩
        · rw [made, Entity.entering_id]
        · rw [made, Entity.entering_revision]
    · rcases reply with fault | committed
      · have idle := clock.cons ⟨.save next, .error fault⟩ (moves _)
        cases fault <;> exact failed _ _ idle
      · refine ⟨trivial, fun _ _ => ⟨?_, fun _ done => (nomatch done)⟩⟩
        have written : ⟨.save next, .ok committed⟩ ∈
            (⟨.observe current committed, ()⟩ :: ⟨.save next, .ok committed⟩ ::
              ⟨.readClock, now⟩ :: past : List Exchange) :=
          List.mem_cons_of_mem _ List.mem_cons_self
        exact conclusive_of_effect written rfl committed

theorem insertNew_oneEffect
    (moves : ∀ exchange : Exchange, (exchange.isQuiet || exchange.isInsert) = true →
      exchange.decides client.operation = false)
    (untouched : Untouched client past) {owner : Owner} {key : Option String}
    (looked : ∀ exchange ∈ past, ∃ text, key = some text ∧ exchange = ⟨.find owner text, .ok none⟩)
    (kind : Kind) (payload : Json) :
    ((insertNew owner kind payload key).within stage).Obeys client (OneEffect client)
      (Conclusive client) past := by
  refine ⟨⟨untouched, fun ⟨now, effect⟩ => ?_⟩, fun now _ =>
    ⟨⟨?_, fun ⟨id, effect⟩ => ?_⟩, fun id _ => ⟨⟨?_, fun _ exchange inside => ?_⟩, fun reply _ => ?_⟩⟩⟩
  · rw [Exchange.takesEffect, moves _ rfl] at effect
    cases effect
  · exact untouched.cons ⟨.readClock, now⟩ (moves _ rfl)
  · rw [Exchange.takesEffect, moves _ rfl] at effect
    cases effect
  · exact (untouched.cons ⟨.readClock, now⟩ (moves _ rfl)).cons ⟨.newId, id⟩ (moves _ rfl)
  · simp only [List.mem_cons] at inside
    rcases inside with rfl | rfl | before
    · exact .inl rfl
    · exact .inl rfl
    · obtain ⟨text, held, same⟩ := looked exchange before
      exact .inr ⟨text, held, same⟩
  · have clock := (untouched.cons ⟨.readClock, now⟩ (moves _ rfl)).cons ⟨.newId, id⟩ (moves _ rfl)
    rcases reply with fault | created | existing
    · exact (clock.cons ⟨.insert _, .error fault⟩ (moves _ rfl)).conclusive fault
    · exact conclusive_of_effect List.mem_cons_self rfl _
    · exact (clock.cons ⟨.insert _, .ok (.existing existing)⟩ (moves _ rfl)).conclusive _

theorem place_oneEffect {owner : Owner} {kind : Kind} {payload : Json} {key : Option String}
    (submits : client.operation = .submit owner kind payload key) (service : Service) :
    ((service.place owner kind payload key).within stage).Obeys client (OneEffect client)
      (Conclusive client) [] := by
  have moves (exchange : Exchange) (plain : (exchange.isQuiet || exchange.isInsert) = true) :
      exchange.decides client.operation = false := by
    obtain ⟨request, reply⟩ := exchange
    rw [submits]
    cases request with
    | find owner key => cases plain
    | _ => rfl
  have nothing : Untouched client [] := fun _ inside => absurd inside List.not_mem_nil
  unfold place
  cases key with
  | none =>
    exact insertNew_oneEffect moves nothing (fun _ inside => absurd inside List.not_mem_nil) _ _
  | some text =>
    dsimp only
    split
    · exact nothing.conclusive _
    · refine ⟨⟨nothing, fun _ _ inside => absurd inside List.not_mem_nil⟩, fun reply _ => ?_⟩
      have idle (unused : ∀ e, reply ≠ .ok (some e)) :
          Untouched client [⟨.find owner text, reply⟩] := by
        refine nothing.cons _ ?_
        rw [submits]
        rcases reply with fault | _ | existing
        · rfl
        · rfl
        · exact absurd rfl (unused existing)
      rcases reply with fault | _ | existing
      · refine (idle fun e same => ?_).conclusive fault
        cases same
      · refine insertNew_oneEffect moves (idle fun e same => ?_) ?_ kind payload
        · cases same
        intro exchange inside
        obtain rfl := List.mem_singleton.1 inside
        exact ⟨text, rfl, rfl⟩
      · show Conclusive client _ (replay service existing kind payload text)
        have effect : Exchange.takesEffect client.operation
            ⟨.find owner text, .ok (some existing)⟩ = true := by
          rw [submits]
          rfl
        rw [replay]
        split
        · exact conclusive_of_effect List.mem_cons_self effect _
        · constructor
          · rintro ⟨_, succeeded⟩
            cases succeeded
          · rintro ⟨exchange, inside, wrote⟩
            obtain rfl := List.mem_singleton.1 inside
            cases wrote

theorem complete_oneEffect {address : Address} {outcome : Outcome}
    (moves : ∀ exchange : Exchange, exchange.decides client.operation = false) :
    ((complete address outcome).within stage).Obeys client (OneEffect client)
      (Conclusive client) [] := by
  have nothing : Untouched client [] := fun _ inside => absurd inside List.not_mem_nil
  rw [complete, Program.within_andThen]
  refine (load_oneEffect moves nothing address.owner address.entity).andThen _
    (fun _ fault _ met => met.1.conclusive fault) fun later current _ met => ?_
  obtain ⟨idle, loaded⟩ := met
  cases checkReport current address outcome with
  | error fault => exact idle.conclusive fault
  | ok passed =>
    dsimp only
    rw [Program.within_bind]
    have only : ∀ exchange ∈ later, exchange.isQuiet = true ∨
        exchange = ⟨.load current.id, .ok (some current)⟩ := by
      intro exchange inside
      rw [loaded current rfl] at inside
      exact .inr (List.mem_singleton.1 inside)
    refine (commit_oneEffect moves idle only _).bind fun last answer _ met => ?_
    obtain ⟨conclusive, failed⟩ := met
    rcases answer with fault | committed
    · have idle := failed fault rfl
      cases fault with
      | invalidTransition source target =>
        dsimp only
        rw [Program.within_andThen]
        refine (load_oneEffect moves idle address.owner address.entity).andThen _
          (fun _ fault _ met => met.1.conclusive fault) fun _ latest _ met => ?_
        cases checkDispatch latest address <;> exact met.1.conclusive _
      | _ => exact conclusive
    · exact conclusive

theorem read_oneEffect {α : Type} {request : Request} {next : request.Reply → Call α}
    (reads : ∀ reply, Exchange.takesEffect client.operation ⟨request, reply⟩ = true)
    (asks : ∀ reply, Exchange.wrote ⟨request, reply⟩ = false)
    (allowed : OneEffect client [] stage request)
    (ends : ∀ reply, ∃ answer, next reply = .done answer) :
    ((Program.ask request next).within stage).Obeys client (OneEffect client)
      (Conclusive client) [] := by
  refine ⟨allowed, fun reply _ => ?_⟩
  obtain ⟨answer, ended⟩ := ends reply
  simp only [ended]
  refine ⟨fun _ untouched => ?_, fun ⟨exchange, inside, wrote⟩ => ?_⟩
  · have idle := untouched _ List.mem_cons_self
    rw [reads reply] at idle
    cases idle
  · obtain rfl := List.mem_singleton.1 inside
    rw [asks reply] at wrote
    cases wrote

theorem moved_oneEffect (moves : ∀ exchange : Exchange, exchange.decides client.operation = false)
    (owner : Owner) (id : EntityId) (request : Entity → Transition) :
    (((load owner id).andThen fun current => commit current (request current)).within
      .calling).Obeys client (OneEffect client) (Conclusive client) [] := by
  have nothing : Untouched client [] := fun _ inside => absurd inside List.not_mem_nil
  rw [Program.within_andThen]
  refine (load_oneEffect moves nothing owner id).andThen _
    (fun _ fault _ met => met.1.conclusive fault) fun later current _ met => ?_
  refine (commit_oneEffect moves met.1 (fun exchange inside => ?_) _).weaken
    fun _ _ _ done => done.1
  rw [met.2 current rfl] at inside
  exact .inr (List.mem_singleton.1 inside)

/-- Every operation of one step keeps to the rule, from its first request on. -/
theorem script_oneEffect (service : Service) (oneStep : client.operation.takesOneStep = true) :
    (client.operation.script service).Obeys client (OneEffect client) (Conclusive client) [] := by
  have nothing : Untouched client [] := fun _ inside => absurd inside List.not_mem_nil
  have first (request : Request) : Untouched client [] ∧
      ((∃ reply, Exchange.takesEffect client.operation ⟨request, reply⟩ = true) →
        ∀ exchange ∈ ([] : List Exchange), exchange.RenewedBy request) :=
    ⟨nothing, fun _ _ inside => absurd inside List.not_mem_nil⟩
  cases asked : client.operation with
  | submit owner kind payload key =>
    simp only [Operation.script, Operation.call, submit, Program.within_mapOk,
      Program.within_andThen]
    refine Script.Obeys.mapOk (Conclusive client) ?_ fun _ _ _ met => met.map _
    exact (place_oneEffect asked service).andThen _ (fun _ _ _ met => met.failed)
      fun _ _ _ met => met.map Submission.entity
  | get owner id =>
    simp only [Operation.script, Operation.call, Program.within_mapOk]
    refine Script.Obeys.mapOk (Conclusive client) ?_ fun _ _ _ met => met.map _
    refine read_oneEffect (fun reply => ?_) (fun _ => rfl) (first _) fun reply => ?_
    · rw [asked]
      rfl
    · rcases reply with fault | found <;> exact ⟨_, rfl⟩
  | list owner filter =>
    simp only [Operation.script, Operation.call, Program.within_mapOk]
    refine Script.Obeys.mapOk (Conclusive client) ?_ fun _ _ _ met => met.map _
    refine read_oneEffect (fun reply => ?_) (fun _ => rfl) (first _) fun reply => ⟨_, rfl⟩
    rw [asked]
    rfl
  | transition owner id request =>
    simp only [Operation.script, Operation.call, Program.within_mapOk]
    refine (moved_oneEffect (fun _ => ?_) owner id fun _ => request).mapOk _ fun _ _ _ met => met.map _
    rw [asked]
    rfl
  | cancel owner id =>
    simp only [Operation.script, Operation.call, Program.within_mapOk]
    refine (moved_oneEffect (fun _ => ?_) owner id _).mapOk _ fun _ _ _ met => met.map _
    rw [asked]
    rfl
  | retry owner id =>
    simp only [Operation.script, Operation.call, Program.within_mapOk]
    refine (moved_oneEffect (fun _ => ?_) owner id _).mapOk _ fun _ _ _ met => met.map _
    rw [asked]
    rfl
  | adminGet grant id =>
    simp only [Operation.script, Operation.call, Program.within_mapOk]
    refine Script.Obeys.mapOk (Conclusive client) ?_ fun _ _ _ met => met.map _
    refine read_oneEffect (fun reply => ?_) (fun _ => rfl) (first _) fun reply => ?_
    · rw [asked]
      rfl
    · rcases reply with fault | _ | found <;> exact ⟨_, rfl⟩
  | adminList grant owner filter =>
    simp only [Operation.script, Operation.call, Program.within_mapOk]
    refine Script.Obeys.mapOk (Conclusive client) ?_ fun _ _ _ met => met.map _
    refine read_oneEffect (fun reply => ?_) (fun _ => rfl) (first _) fun reply => ⟨_, rfl⟩
    rw [asked]
    rfl
  | adminDelete grant id =>
    simp only [Operation.script, Operation.call, Program.within_mapOk]
    refine Script.Obeys.mapOk (Conclusive client) ?_ fun _ _ _ met => met.map _
    have moves (exchange : Exchange) : exchange.decides client.operation = false := by
      rw [asked]
      rfl
    refine ⟨first _, fun reply _ => ?_⟩
    rcases reply with fault | _ | _
    · exact (nothing.cons ⟨.delete id, .error fault⟩ (moves _)).conclusive fault
    · exact (nothing.cons ⟨.delete id, .ok false⟩ (moves _)).conclusive _
    · exact conclusive_of_effect List.mem_cons_self rfl _
  | complete address outcome =>
    simp only [Operation.script, Operation.call, Program.within_mapOk]
    refine (complete_oneEffect fun _ => ?_).mapOk _ fun _ _ _ met => met.map _
    rw [asked]
    rfl
  | submitAndDispatch owner kind payload key => rw [asked] at oneStep; cases oneStep
  | dispatch owner id => rw [asked] at oneStep; cases oneStep
  | delete owner id => rw [asked] at oneStep; cases oneStep

end Operations

end TenantWork.Service
