import TenantWork.Proofs.Schedule.Attempts
import TenantWork.Proofs.Schedule.Conduct
/-!
Removals by owners. An owner removes only what was finished when it was read, but nothing protects
that read until the removal: an entity that is tried again in between is removed all the same, in
whatever status it is by then. Unless that happens, what is removed is the snapshot that was read.
-/
namespace TenantWork.Service

open Store (Memory Database WriteCall)

/-- A client that removes for an owner has been shown the owner's entity in a finished status. -/
def Removes (client : Client) (past : List Exchange) (_ : Stage) (request : Request) : Prop :=
  ∀ owner id gone, client.operation = .delete owner id → request = .delete gone →
    gone = id ∧ ∃ e, ⟨.load id, .ok (some e)⟩ ∈ past ∧ e.owner = owner ∧ e.isFinished = true

theorem delete_removes (client : Client) (service : Service) {owner : Owner} {id : EntityId}
    (deletes : client.operation = .delete owner id) :
    (client.operation.script service).Obeys client (Removes client) (fun _ _ => True) [] := by
  rw [deletes]
  refine ⟨fun _ _ _ _ impossible => (nomatch impossible), fun reply _ => ?_⟩
  rcases reply with fault | _ | found
  · trivial
  · trivial
  by_cases own : found.owner = owner
  · by_cases finished : found.isFinished = true
    · simp only [Entity.forOwner, if_pos own, Program.bind, if_pos finished]
      refine ⟨fun other target gone same removes => ?_, fun reply _ => ?_⟩
      · rw [deletes] at same
        injection same with sameOwner sameId
        injection removes with sameGone
        subst sameOwner sameId sameGone
        exact ⟨rfl, found, List.mem_cons_self, own, finished⟩
      · rcases reply with fault | _ | _ <;> trivial
    · simp only [Entity.forOwner, if_pos own, Program.bind, if_neg finished]
      trivial
  · simp only [Entity.forOwner, if_neg own]
    trivial

theorem script_removes (client : Client) (service : Service) :
    (client.operation.script service).Obeys client (Removes client) (fun _ _ => True) [] := by
  cases operation : client.operation with
  | delete owner id =>
    rw [← operation]
    exact delete_removes client service operation
  | _ =>
    refine (script_obeys client service _).imp ?_ fun _ _ _ => trivial
    intro _ _ _ _ _ _ _ deletes
    rw [operation] at deletes
    cases deletes

section Trace

variable {clients : List Client} {trace middle earlier : List Step} {step : Step}

/-- A finished snapshot stays the stored one until it is tried again or removed. -/
theorem Lawful.finished_kept (lawful : Lawful (middle ++ earlier)) {id : EntityId}
    {e current : Entity} (there : snapshot earlier id = some e) (finished : e.isFinished = true)
    (found : snapshot (middle ++ earlier) id = some current) :
    current.owner = e.owner ∧ (current = e ∨ ∃ step ∈ middle, step.Retries id) := by
  induction middle generalizing current with
  | nil =>
    rw [List.nil_append, there] at found
    obtain rfl := Option.some.inj found
    exact ⟨rfl, .inl rfl⟩
  | cons step middle ih =>
    obtain ⟨follows, lawful⟩ := lawful
    obtain ⟨stored, here⟩ | ⟨before, _⟩ := snapshot_cases found
    · obtain created | updated := Exchange.stored?_cases stored
      · obtain ⟨old, inside, stores⟩ := wasStored_of_snapshot there
        have known : WasStored (middle ++ earlier) e :=
          ⟨old, List.mem_append_right _ inside, stores⟩
        exact absurd ((snapshot_id there).trans here) ((follows.created current created).2.1 e known)
      · obtain ⟨old, request, now, next, before, applied, rfl, _⟩ := follows.updated current updated
        rw [← here] at before
        obtain ⟨owner, same⟩ := ih lawful before
        obtain ⟨allowed, rfl⟩ := Entity.apply_eq_ok_iff.1 applied
        refine ⟨?_, .inr ?_⟩
        · show (old.entering _ _).owner = e.owner
          rw [Entity.entering_owner, owner]
        · obtain rfl | ⟨retry, inside, retries⟩ := same
          · refine ⟨step, List.mem_cons_self, _, updated, here.symm, ?_⟩
            show request.target = (old.entering _ _).kind.lifecycle.initial
            rw [Entity.entering_kind]
            exact Kind.initial_of_finished finished allowed
          · exact ⟨retry, List.mem_cons_of_mem _ inside, retries⟩
    · obtain ⟨owner, same⟩ := ih lawful before
      refine ⟨owner, same.imp_right fun ⟨retry, inside, retries⟩ => ?_⟩
      exact ⟨retry, List.mem_cons_of_mem _ inside, retries⟩

/-- What an owner removes was the owner's and finished when it was read, and it is still what was
read, unless it was tried again since. -/
def RemovedAsRead (clients : List Client) (trace : List Step) : Prop :=
  ∀ later step earlier, trace = later ++ step :: earlier → ∀ client owner id gone,
    clients[step.client]? = some client → client.operation = .delete owner id →
      step.exchange.removed? = some gone →
        gone = id ∧ ∃ middle read before e removed, earlier = middle ++ read :: before ∧
          read.client = step.client ∧ read.exchange = ⟨.load id, .ok (some e)⟩ ∧
          snapshot before id = some e ∧ e.owner = owner ∧ e.isFinished = true ∧
          snapshot earlier id = some removed ∧ removed.owner = owner ∧
          (removed = e ∨ ∃ retry ∈ middle, retry.Retries id)

theorem Exchange.eq_of_removed? {exchange : Exchange} {id : EntityId}
    (removes : exchange.removed? = some id) : exchange = ⟨.delete id, .ok true⟩ := by
  unfold Exchange.removed? at removes
  split at removes
  · obtain rfl := Option.some.inj removes
    rfl
  · cases removes

theorem Heeded.removedAsRead (heeded : Heeded clients Removes trace) (lawful : Lawful trace) :
    RemovedAsRead clients trace := by
  rintro later step earlier rfl client owner id gone there deletes removes
  obtain ⟨client', there', heeds⟩ := heeded.heeds
  obtain rfl := Option.some.inj (there.symm.trans there')
  have allowed := heeds.allowed
  rw [Exchange.eq_of_removed? removes] at allowed
  obtain ⟨rfl, e, shown, own, finished⟩ := allowed owner id gone deletes rfl
  obtain ⟨removed, found⟩ := heeds.removed gone removes
  obtain ⟨read, inside, same, exchange⟩ := mem_own.1 shown
  obtain ⟨middle, before, rfl⟩ := List.append_of_mem inside
  obtain ⟨_, _, reads⟩ := (heeded.suffix.2).heeds
  have current := (reads.read gone (some e) exchange).symm
  -- The read itself stores nothing, so it may stand at the end of the middle part.
  have still : snapshot (read :: before) gone = some e := by
    have unstored : read.exchange.stored? = none := by
      rw [exchange]
      rfl
    have unremoved : read.exchange.removed? = none := by
      rw [exchange]
      rfl
    rw [System.snapshot_of_idle unstored unremoved, current]
  obtain ⟨owned, kept⟩ := lawful.suffix.2.finished_kept still finished found
  exact ⟨rfl, middle, read, before, e, removed, rfl, same, exchange, current, own, finished, found,
    owned.trans own, kept⟩

end Trace

/-- An owner removes what was finished when it was read: on an empty store of either kind, whatever
the gate and the executors do and however the calls overlap. For a database the JSON that comes to
be stored is read back and the clocks show universal time in years of four digits. -/
theorem owner_removes_as_read (service : Service) (clients : List Client)
    (executors : List Executor) (rule : List WriteCall → WriteCall → Except Error Unit)
    (distinct : (clients.map Client.id).Nodup) (schedule : List Nat) :
    let memory := (System.onEmpty service clients executors rule : System Memory).run schedule
    let database := (System.onEmpty service clients executors rule : System Database).run schedule
    ((∀ id, memory.world.store.get id = .ok (snapshot memory.trace id)) ∧
      RemovedAsRead clients memory.trace) ∧
    ((∀ client ∈ clients, ∀ n, Time.Rfc3339.InRange (client.times n)) →
      (∀ e, WasStored database.trace e → e.Readable) →
        (∀ id, database.world.store.get id = .ok (snapshot database.trace id)) ∧
          RemovedAsRead clients database.trace) := by
  exact System.conduct_onEmpty distinct (fun client _ => script_removes client service)
    (fun _ heeded lawful => heeded.removedAsRead lawful) schedule

/-- A failed signal is removed by its owner while another call is looking at it. -/
theorem owner_removes_failed_signal :
    let owner : Owner := ⟨"acme", by decide⟩
    let service : Service := ⟨.default, [], List.nodup_nil, nofun⟩
    let clients : List Client := [
      ⟨.submitAndDispatch owner .tradingSignal .null none, ⟨"a"⟩, fun _ => .epoch⟩,
      ⟨.delete owner ⟨"a"⟩, ⟨"b"⟩, fun _ => .epoch⟩,
      ⟨.retry owner ⟨"a"⟩, ⟨"c"⟩, fun _ => .epoch⟩]
    let schedule := [0, 0, 0, 0, 0, 0, 0, 0, 0, 2, 1, 1, 2, 2]
    let memory : System Memory := (System.onEmpty service clients [] fun _ _ => .ok ()).run schedule
    let database : System Database :=
      (System.onEmpty service clients [] fun _ _ => .ok ()).run schedule
    memory.answer? 1 = some (.ok .nothing) ∧ memory.answer? 2 = some (.error (.accessDenied "a")) ∧
      RemovedAsRead clients memory.trace ∧ RemovedAsRead clients database.trace := by
  refine ⟨rfl, rfl, (owner_removes_as_read _ _ _ _ (by decide) _).1.2,
    ((owner_removes_as_read _ _ _ _ (by decide) _).2 ?_ ?_).2⟩
  · simp [Time.Rfc3339.inRange_epoch]
  · refine System.readable_in_database (by decide) ?_ (by decide) (by decide)
    simp [Time.Rfc3339.inRange_epoch]

/-- A job has failed when its owner is about to remove it, and waits again when it is removed. -/
theorem waiting_job_removed_by_owner :
    let owner : Owner := ⟨"acme", by decide⟩
    let service : Service := ⟨.default, [], List.nodup_nil, nofun⟩
    let clients : List Client := [
      ⟨.submit owner .job .null none, ⟨"a"⟩, fun _ => .epoch⟩,
      ⟨.transition owner ⟨"a"⟩ (.into .running), ⟨"b"⟩, fun _ => .epoch⟩,
      ⟨.transition owner ⟨"a"⟩ (.into .failed), ⟨"c"⟩, fun _ => .epoch⟩,
      ⟨.delete owner ⟨"a"⟩, ⟨"d"⟩, fun _ => .epoch⟩,
      ⟨.retry owner ⟨"a"⟩, ⟨"e"⟩, fun _ => .epoch⟩]
    let before : System Memory := (System.onEmpty service clients [] fun _ _ => .ok ()).run
      [0, 0, 0, 1, 1, 1, 1, 2, 2, 2, 2, 3, 4, 4, 4, 4]
    let after := before.step 3
    (before.world.store.tables.get ⟨"a"⟩).map Entity.status = some .queued ∧
      (before.world.store.tables.get ⟨"a"⟩).map Entity.isFinished = some false ∧
      after.answer? 3 = some (.ok .nothing) ∧ after.world.store.tables.get ⟨"a"⟩ = none := by
  exact ⟨by decide, by decide, rfl, by decide⟩

end TenantWork.Service
