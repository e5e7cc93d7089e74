import Mathlib.Data.List.Basic
import TenantWork.Proofs.Schedule.Chain
import TenantWork.Proofs.Schedule.Commits
/-!
What observers are told. A call that has updated an entity tells the observers of it with its next
request, so at any time the ledger together with what such calls still owe is exactly the list of
updates. Each update is told as the snapshot that was stored immediately before it and the one it
stored, and the updates of one entity are the steps of its chain of snapshots.
-/
namespace TenantWork.Service

open Store (Memory WriteCall)

/-! ## Updates and what is owed of them -/

/-- The snapshots before and after an update. -/
def Step.change? (earlier : List Step) (step : Step) : Option (Entity × Entity) :=
  step.exchange.updated?.bind fun after => (snapshot earlier after.id).map fun before => (before, after)

/-- The updates of a trace as before and after, the latest first. -/
def updates : List Step → List (Entity × Entity)
  | [] => []
  | step :: earlier => (step.change? earlier).toList ++ updates earlier

/-- What a client is about to tell the observers. -/
def Thread.owes? (thread : Thread) : Option (Entity × Entity) :=
  match thread.script with
  | .ask _ (.observe before after) _ => some (before, after)
  | _ => none

def System.owed {Tables : Type} (system : System Tables) : List (Entity × Entity) :=
  system.threads.filterMap Thread.owes?

/-- Of two updates the one that left the higher revision. -/
def laterUpdate (a b : Entity × Entity) : Bool := decide (b.2.revision ≤ a.2.revision)

/-- The observers are told of each update once and of nothing else, but for what is still owed. -/
structure LedgerExact (system : System Memory) : Prop where
  stored : ∀ id, system.world.store.get id = .ok (snapshot system.trace id)
  /-- Every write that went through on an entity is listed as an update. -/
  listed : (updates system.trace).map Prod.snd =
    system.trace.filterMap fun step => step.exchange.updated?
  told : (system.world.ledger ++ system.owed).Perm (updates system.trace)
  once : (system.world.ledger ++ system.owed).Nodup
  /-- Nothing is owed any more when every client has been answered. -/
  complete : (∀ thread ∈ system.threads, thread.answer?.isSome = true) →
    system.world.ledger.Perm (updates system.trace)
  succeeds : ∀ change ∈ system.world.ledger, change.1.Succeeds change.2
  chain : ∀ id, Chain id (history system.trace id)
  /-- The updates of one entity, by revision, are the steps of its chain of snapshots. -/
  tiled : ∀ id, ((system.world.ledger ++ system.owed).filter fun change =>
    change.2.id == id).mergeSort laterUpdate =
      (history system.trace id).tail.zip (history system.trace id)

section Trace

variable {trace earlier : List Step} {step : Step} {id : EntityId} {before after : Entity}

theorem Step.change?_eq_some : step.change? earlier = some (before, after) ↔
    step.exchange.updated? = some after ∧ snapshot earlier after.id = some before := by
  simp only [change?, Option.bind_eq_some_iff, Option.map_eq_some_iff, Prod.mk.injEq]
  constructor
  · rintro ⟨_, updated, _, there, rfl, rfl⟩
    exact ⟨updated, there⟩
  · rintro ⟨updated, there⟩
    exact ⟨after, updated, before, there, rfl, rfl⟩

theorem updates_cons_idle (idle : step.exchange.updated? = none) :
    updates (step :: earlier) = updates earlier := by
  rw [updates, Step.change?, idle]
  rfl

theorem Follows.succeeds (follows : Follows earlier step)
    (changes : step.change? earlier = some (before, after)) : before.Succeeds after := by
  obtain ⟨updated, there⟩ := Step.change?_eq_some.1 changes
  obtain ⟨current, request, now, next, found, applied, rfl, _⟩ := follows.updated after updated
  obtain rfl := Option.some.inj (there.symm.trans found)
  exact Entity.succeeds_of_apply applied

theorem Lawful.map_updates (lawful : Lawful trace) :
    (updates trace).map Prod.snd = trace.filterMap fun step => step.exchange.updated? := by
  induction trace with
  | nil => rfl
  | cons step earlier ih =>
    obtain ⟨follows, lawful⟩ := lawful
    cases updated : step.exchange.updated? with
    | none => simp only [updates_cons_idle updated, List.filterMap_cons, updated, ih lawful]
    | some after =>
      obtain ⟨before, _, _, _, there, _⟩ := follows.updated after updated
      simp only [updates, Step.change?_eq_some.2 ⟨updated, there⟩, Option.toList_some,
        List.singleton_append, List.map_cons, List.filterMap_cons, updated, ih lawful]

theorem Lawful.mem_updates (lawful : Lawful trace) (inside : (before, after) ∈ updates trace) :
    before.Succeeds after ∧ WasStored trace after := by
  induction trace with
  | nil => cases inside
  | cons step earlier ih =>
    rw [updates, List.mem_append, Option.mem_toList] at inside
    obtain now | old := inside
    · obtain ⟨updated, _⟩ := Step.change?_eq_some.1 now
      exact ⟨lawful.1.succeeds now, step, List.mem_cons_self, Exchange.stored?_of_updated? updated⟩
    · obtain ⟨succeeds, stored⟩ := ih lawful.2 old
      exact ⟨succeeds, stored.later step⟩

/-- No update is listed twice, since each one leaves a revision of its own. -/
theorem Lawful.updates_nodup (lawful : Lawful trace) : (updates trace).Nodup := by
  induction trace with
  | nil => exact List.nodup_nil
  | cons step earlier ih =>
    rw [updates]
    cases changes : step.change? earlier with
    | none => exact ih lawful.2
    | some change =>
      refine List.nodup_cons.2 ⟨fun again => ?_, ih lawful.2⟩
      obtain ⟨updated, _⟩ := Step.change?_eq_some.1 changes
      have stored := (lawful.2.mem_updates again).2
      have higher := lawful.1.revision stored (fun _ => lawful.2.revision stored)
        (Exchange.stored?_of_updated? updated) rfl
      exact Nat.lt_irrefl _ higher

theorem Lawful.updates_of (lawful : Lawful trace) (id : EntityId) :
    (updates trace).filter (fun change => change.2.id == id) =
      (history trace id).tail.zip (history trace id) := by
  induction trace with
  | nil => rfl
  | cons step earlier ih =>
    obtain ⟨follows, lawful⟩ := lawful
    cases stored : step.exchange.stored? with
    | none =>
      rw [updates_cons_idle (Exchange.updated?_of_idle stored), history_of_idle stored]
      exact ih lawful
    | some e =>
      obtain created | updated := Exchange.stored?_cases stored
      · rw [updates_cons_idle (Exchange.updated?_of_created? created), history_of_stored stored,
          ih lawful]
        split
        next here =>
          subst here
          rw [follows.history_of_created created]
          rfl
        next => rfl
      · obtain ⟨current, _, _, _, there, _⟩ := follows.updated e updated
        have changes : step.change? earlier = some (current, e) :=
          Step.change?_eq_some.2 ⟨updated, there⟩
        rw [updates, changes, history_of_stored stored]
        simp only [Option.toList_some, List.singleton_append, List.filter_cons, beq_iff_eq,
          ih lawful]
        split
        next here =>
          subst here
          obtain ⟨rest, same⟩ := history_of_snapshot there
          rw [same]
          rfl
        next => rfl

end Trace

/-! ## The order of the updates of one entity -/

section Order

variable {id : EntityId} {snapshots : List Entity}

theorem Chain.descending (chain : Chain id snapshots) :
    snapshots.Pairwise fun later earlier => earlier.revision < later.revision := by
  induction chain with
  | unused => exact List.Pairwise.nil
  | created owner kind payload key now => exact List.pairwise_singleton _ _
  | @updated current next earlier before succeeds ih =>
    refine List.pairwise_cons.2 ⟨fun old inside => ?_, ih⟩
    have above := succeeds.revision
    rcases List.mem_cons.1 inside with rfl | inside
    · omega
    · have := (List.pairwise_cons.1 ih).1 old inside
      omega

/-- A list of snapshots from the latest one on lists the steps between them from the latest on. -/
theorem pairwise_steps {before : Entity → Entity → Prop} (sorted : snapshots.Pairwise before) :
    (snapshots.tail.zip snapshots).Pairwise fun a b => before a.2 b.2 := by
  induction sorted with
  | nil => exact List.Pairwise.nil
  | @cons latest older first rest ih =>
    cases older with
    | nil => exact List.Pairwise.nil
    | cons next oldest =>
      refine List.pairwise_cons.2 ⟨fun step inside => ?_, ih⟩
      exact first step.2 (List.of_mem_zip inside).2

/-- Sorted by revision, the steps of a chain stand in the order of the chain. -/
theorem Chain.mergeSort_steps (chain : Chain id snapshots) {changes : List (Entity × Entity)}
    (same : changes.Perm (snapshots.tail.zip snapshots)) :
    changes.mergeSort laterUpdate = snapshots.tail.zip snapshots := by
  have steps := pairwise_steps chain.descending
  have apart := steps.imp fun lower => (Nat.ne_of_gt lower : ¬_ = _)
  have sorted : (changes.mergeSort laterUpdate).Pairwise fun a b => laterUpdate a b = true := by
    refine List.pairwise_mergeSort ?_ ?_ changes
    · simp only [laterUpdate, decide_eq_true_eq]
      omega
    · simp only [laterUpdate, Bool.or_eq_true, decide_eq_true_eq]
      omega
  have shuffled := (List.mergeSort_perm changes laterUpdate).trans same
  refine List.Perm.eq_of_pairwise ?_ sorted (steps.imp fun lower => ?_) shuffled
  · intro a b insideA insideB notLater notEarlier
    simp only [laterUpdate, decide_eq_true_eq] at notLater notEarlier
    exact Store.eq_of_pairwise_not (fun _ _ => Eq.symm) apart (shuffled.mem_iff.1 insideA) insideB
      (Nat.le_antisymm notEarlier notLater)
  · exact decide_eq_true (Nat.le_of_lt lower)

end Order

/-! ## Who owes what -/

/-- The last request was not an update that went through. -/
def AllTold (past : List Exchange) : Prop := past.head?.bind Exchange.updated? = none

/-- The last request was an update that went through, made from a snapshot the client was shown. -/
def Owing (client : Client) (past : List Exchange) (before after : Entity) : Prop :=
  ∃ next rest request n, past = ⟨.save next, .ok after⟩ :: rest ∧ Shown rest before ∧
    before.apply request (client.times n) = .ok next

/-- A client tells of each of its updates with the next request, and of nothing else. -/
def Notifies (client : Client) (past : List Exchange) (_ : Stage) : Request → Prop
  | .observe before after => Owing client past before after
  | _ => AllTold past

theorem AllTold.cons {past : List Exchange} {exchange : Exchange}
    (idle : exchange.updated? = none) : AllTold (exchange :: past) := idle

theorem updated?_of_plain {exchange : Exchange} (plain : exchange.request.isPlain = true) :
    exchange.updated? = none := by
  obtain ⟨request, reply⟩ := exchange
  cases request <;> first | rfl | cases plain

theorem notifies_kept (client : Client) : KeptByCommits client (Notifies client) AllTold where
  plain past stage request rests plain := by
    cases request with
    | observe before after => cases plain
    | _ => exact rests
  stays past exchange _ plain := AllTold.cons (updated?_of_plain plain)
  commit past stage current request rests shown := by
    refine ⟨rests, fun now read => ?_⟩
    have told : AllTold (⟨.readClock, now⟩ :: past) := AllTold.cons rfl
    cases applied : current.apply request now with
    | error fault =>
      simp only [applied]
      exact ⟨told, fun _ done => (nomatch done)⟩
    | ok next =>
      simp only [applied]
      refine ⟨told, fun reply truthful => ?_⟩
      cases reply with
      | error fault =>
        cases fault <;> exact ⟨AllTold.cons rfl, fun _ done => (nomatch done)⟩
      | ok committed =>
        obtain ⟨n, rfl⟩ := read
        refine ⟨⟨next, _, request, n, rfl, shown_cons.2 (.inr shown), applied⟩, fun reply _ => ?_⟩
        refine ⟨AllTold.cons rfl, fun e done => ?_⟩
        obtain rfl := Except.ok.inj done
        exact shown_cons.2 (.inr (shown_cons.2 (.inl List.mem_cons_self)))

/-- A client that keeps to the rule owes exactly what its last request has left it to tell. -/
theorem owes_of_obeys {client : Client} {past : List Exchange}
    {script : Script (Except Error Answer)}
    (obeys : script.Obeys client (Notifies client) (fun later _ => AllTold later) past) :
    (AllTold past ∧ Thread.owes? ⟨client, past, script⟩ = none) ∨
      ∃ before after, Owing client past before after ∧
        Thread.owes? ⟨client, past, script⟩ = some (before, after) := by
  cases script with
  | done answer => exact .inl ⟨obeys, rfl⟩
  | ask stage request next =>
    cases request with
    | observe before after => exact .inr ⟨before, after, obeys.1, rfl⟩
    | _ => exact .inl ⟨obeys.1, rfl⟩

/-! ## Serving a request -/

/-- Replacing one element of a list replaces what it contributes. -/
theorem perm_filterMap_set {α β : Type} {f : α → Option β} {l : List α} {i : Nat} {old : α}
    (found : l[i]? = some old) (new : α) :
    ∃ rest, (l.filterMap f).Perm ((f old).toList ++ rest) ∧
      ((l.set i new).filterMap f).Perm ((f new).toList ++ rest) := by
  obtain ⟨inside, rfl⟩ := List.getElem?_eq_some_iff.1 found
  have split (x : α) : ((l.take i ++ x :: l.drop (i + 1)).filterMap f).Perm
      ((f x).toList ++ (l.take i ++ l.drop (i + 1)).filterMap f) := by
    refine (List.perm_middle.filterMap f).trans ?_
    cases here : f x <;> simp [here]
  refine ⟨(l.take i ++ l.drop (i + 1)).filterMap f, ?_, ?_⟩
  · have whole := split l[i]
    rwa [← List.drop_eq_getElem_cons inside, List.take_append_drop] at whole
  · rw [List.set_eq_take_append_cons_drop, if_pos inside]
    exact split new

namespace System

variable {system : System Memory} {i : Nat} {client : Client} {past : List Exchange}
  {stage : Stage} {request : Request} {next : request.Reply → Script (Except Error Answer)}

/-- The ledger grows by what the served client owed. -/
theorem ledger_serve (system : System Memory) (i : Nat) (client : Client) (past : List Exchange)
    (stage : Stage) (request : Request) (next : request.Reply → Script (Except Error Answer)) :
    (system.serve i client past stage request next).world.ledger =
      (Thread.owes? ⟨client, past, .ask stage request next⟩).toList ++ system.world.ledger := by
  cases request with
  | start name e dispatch =>
    simp only [serve, System.reply, World.answer, World.start, World.seenBy]
    split <;> rfl
  | _ => rfl

/-- After an update the client owes the snapshots before and after it, after anything else nothing. -/
theorem owes_serve (chronicled : system.Chronicled)
    (found : system.threads[i]? = some ⟨client, past, .ask stage request next⟩)
    (obeys : (next (system.reply client past request).1).Obeys client (Notifies client)
      (fun later _ => AllTold later) (⟨request, (system.reply client past request).1⟩ :: past)) :
    Thread.owes? ⟨client, ⟨request, (system.reply client past request).1⟩ :: past,
        next (system.reply client past request).1⟩ =
      (system.served i client past stage request).change? system.trace := by
  obtain ⟨told, owes⟩ | ⟨before, after, ⟨new, rest, transition, n, same, shown, applied⟩, owes⟩ :=
    owes_of_obeys obeys
  · have idle : (system.served i client past stage request).exchange.updated? = none := told
    rw [owes, Step.change?, idle]
    rfl
  · obtain ⟨exchange, rfl⟩ := List.cons.inj same
    have updated : (system.served i client past stage request).exchange.updated? = some after := by
      rw [served, exchange]
      rfl
    obtain ⟨rfl, reply⟩ := Exchange.mk.inj exchange
    have accepted : (system.world.store.save new).1 = .ok after := eq_of_heq reply
    obtain ⟨current, _, _, there, _, applied', _, rfl⟩ := chronicled.sound.update found accepted
    obtain ⟨_, made⟩ := Entity.apply_eq_ok_iff.1 applied
    obtain ⟨_, made'⟩ := Entity.apply_eq_ok_iff.1 applied'
    have id : new.id = before.id := by rw [made, Entity.entering_id]
    have revision : new.revision = before.revision := by rw [made, Entity.entering_revision]
    have revision' : new.revision = current.revision := by rw [made', Entity.entering_revision]
    have stored : snapshot system.trace new.bumped.id = some before := by
      rw [← chronicled.stored, Entity.bumped, there]
      rw [id] at there
      obtain rfl | older := chronicled.sound.current i _ found before current shown there
      · rfl
      · omega
    rw [owes, Step.change?_eq_some.2 ⟨updated, stored⟩]

/-- Each update becomes owed with the step that makes it and is told with the step after. -/
theorem told_serve (chronicled : system.Chronicled)
    (disciplined : system.Disciplined Notifies fun _ later _ => AllTold later)
    (found : system.threads[i]? = some ⟨client, past, .ask stage request next⟩)
    (told : (system.world.ledger ++ system.owed).Perm (updates system.trace)) :
    ((system.serve i client past stage request next).world.ledger ++
      (system.serve i client past stage request next).owed).Perm
        (updates (system.serve i client past stage request next).trace) := by
  have truthful := reply_truthful chronicled.sound.filed client past request
  have owes := owes_serve chronicled found ((disciplined i _ found).2 _ truthful)
  obtain ⟨rest, owed, owed'⟩ := perm_filterMap_set (f := Thread.owes?) found
    ⟨client, ⟨request, (system.reply client past request).1⟩ :: past,
      next (system.reply client past request).1⟩
  rw [owes] at owed'
  set old := (Thread.owes? ⟨client, past, .ask stage request next⟩).toList
  set new := ((system.served i client past stage request).change? system.trace).toList
  have regroup : ((old ++ system.world.ledger) ++ (new ++ rest)).Perm
      (new ++ (system.world.ledger ++ (old ++ rest))) := by
    refine (List.perm_append_comm_assoc _ _ _).trans (List.Perm.append_left new ?_)
    rw [List.append_assoc]
    exact List.perm_append_comm_assoc _ _ _
  rw [ledger_serve]
  refine ((owed'.append_left _).trans regroup).trans (List.Perm.append_left new ?_)
  exact (owed.symm.append_left _).trans told

theorem told_run {service : Service} {clients : List Client} {world : World Memory}
    (empty : world.store.tables = Memory.empty) (silent : world.ledger = [])
    (distinct : (clients.map Client.id).Nodup) (schedule : List Nat) :
    let system := (start service clients world).run schedule
    (system.world.ledger ++ system.owed).Perm (updates system.trace) := by
  have begins (client : Client) : (client.operation.script service).Obeys client (Notifies client)
      (fun later _ => AllTold later) [] := (notifies_kept client).script rfl service client.operation
  let holds (system : System Memory) : Prop := system.Chronicled ∧
    (system.Disciplined Notifies fun _ later _ => AllTold later) ∧
    (system.world.ledger ++ system.owed).Perm (updates system.trace)
  refine (run_induction holds ?_ _ ⟨?_, ?_, ?_⟩ schedule).2.2
  · rintro system i client past stage request next found ⟨chronicled, disciplined, told⟩
    have truthful := reply_truthful chronicled.sound.filed client past request
    exact ⟨chronicled.serve found, disciplined.serve found truthful,
      told_serve chronicled disciplined found told⟩
  · exact chronicled_start service clients empty distinct
  · intro i thread found
    rw [(thread_of_start found).2]
    exact begins thread.client
  · have owed : (start service clients world).owed = [] := by
      refine List.filterMap_eq_nil_iff.2 fun thread inside => ?_
      obtain ⟨i, found⟩ := List.mem_iff_getElem?.1 inside
      rw [(thread_of_start found).2]
      obtain ⟨_, owes⟩ | ⟨_, _, ⟨_, _, _, _, nothing, _⟩, _⟩ := owes_of_obeys (begins thread.client)
      · exact owes
      · cases nothing
    show (world.ledger ++ _).Perm []
    rw [silent, owed]
    rfl

/-- At every moment of every schedule the ledger is exact: on an empty store in memory, for clients
with ids of their own, whatever the gate and the executors do and whatever the clocks show. -/
theorem ledger_exact (service : Service) (clients : List Client) (executors : List Executor)
    (rule : List WriteCall → WriteCall → Except Error Unit)
    (distinct : (clients.map Client.id).Nodup) (schedule : List Nat) :
    LedgerExact ((onEmpty service clients executors rule : System Memory).run schedule) := by
  set system := (onEmpty service clients executors rule : System Memory).run schedule
  have chronicled : system.Chronicled := chronicled_onEmpty distinct schedule
  have lawful := chronicled.lawful
  have told : (system.world.ledger ++ system.owed).Perm (updates system.trace) :=
    told_run rfl rfl distinct schedule
  refine ⟨fun id => congrArg Except.ok (chronicled.stored id), lawful.map_updates, told,
    told.nodup_iff.2 lawful.updates_nodup, fun answered => ?_, ?_, lawful.chain, ?_⟩
  · have owed : system.owed = [] := by
      refine List.filterMap_eq_nil_iff.2 fun thread inside => ?_
      have ended := answered thread inside
      obtain ⟨client, past, script⟩ := thread
      cases script with
      | done answer => rfl
      | ask => cases ended
    rwa [owed, List.append_nil] at told
  · intro change inside
    exact (lawful.mem_updates (told.subset (List.mem_append_left _ inside))).1
  · intro id
    refine (lawful.chain id).mergeSort_steps ?_
    rw [← lawful.updates_of]
    exact told.filter _

/-- Of two overlapping starts of a job one is refused. The job fails, and the observers are told so,
before they are told of the start that went through. -/
theorem ledger_exact_in_race :
    let owner : Owner := ⟨"acme", by decide⟩
    let service : Service := ⟨.default, [], List.nodup_nil, nofun⟩
    let clients : List Client := [
      ⟨.submit owner .job (.bool true) (some "nightly"), ⟨"a"⟩, fun _ => .epoch⟩,
      ⟨.transition owner ⟨"a"⟩ (.into .running), ⟨"b"⟩, fun _ => .epoch⟩,
      ⟨.transition owner ⟨"a"⟩ (.into .running), ⟨"c"⟩, fun _ => .epoch⟩,
      ⟨.transition owner ⟨"a"⟩ (.into .failed), ⟨"d"⟩, fun _ => .epoch⟩]
    let schedule := [0, 0, 0, 0, 1, 2, 1, 2, 1, 2, 3, 3, 3, 3]
    let system : System Memory := (System.onEmpty service clients [] fun _ _ => .ok ()).run schedule
    let revisions (changes : List (Entity × Entity)) :=
      changes.map fun change => (change.1.revision, change.2.revision)
    system.answer? 2 = some (.error (.invalidTransition .running .running)) ∧
      revisions system.world.ledger = [(1, 2)] ∧ revisions system.owed = [(0, 1)] ∧
      LedgerExact system := by
  refine ⟨?_, ?_, ?_, ledger_exact _ _ _ _ ?_ _⟩
  · rfl
  · decide
  · decide
  · decide

end System

end TenantWork.Service
