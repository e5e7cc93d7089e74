import TenantWork.Proofs.Calls.Readable
import TenantWork.Proofs.Store.MirrorCalls
/-!
How deep values may nest so that every row stays readable, and what comes of one level too many. A
text may open 127 levels. The echo opens one level more than the payload it is given, so payloads
of 126 levels are safe with it, and one of 127 levels, which was read from a text itself, ends in a
row that is never read again.
-/
namespace TenantWork

/-! ## What readable rows are good for -/

namespace Store.Database

/-- Nothing that is asked of the rows fails: reads succeed, and a removal is shut out by the gate
alone. -/
structure Answers (database : Database) : Prop where
  get : ∀ id, ∃ found, database.get id = .ok found
  find : ∀ owner key, ∃ found, database.find owner key = .ok found
  list : ∀ owner filter, ∃ found, database.list owner filter = .ok found
  delete : ∀ id fault, database.stageDelete id ≠ .refused fault

theorem Legible.answers {database : Database} (legible : database.Legible) : database.Answers where
  get := legible.get
  find := legible.find
  list := legible.list
  delete := legible.stageDelete

/-- A row of the owner stands under the id and is not read. -/
def Lost (database : Database) (owner : Owner) (id : EntityId) : Prop :=
  ∃ row fault, database.row? (.text id.text) = some row ∧ row .owner = .text owner.name ∧
    row.toEntity = .error fault

/-- A lost row is not got, it keeps its owner from any listing, and it cannot be removed. -/
theorem Lost.fails {database : Database} {owner : Owner} {id : EntityId}
    (lost : database.Lost owner id) :
    (∃ fault, database.get id = .error fault) ∧
      (∃ fault, database.list (some owner) .all = .error fault) ∧
      ∃ fault, database.stageDelete id = .refused fault := by
  obtain ⟨row, fault, found, own, refused⟩ := lost
  have get : database.get id = .error (.databaseQuery fault) := by
    rw [Database.get, found, Database.read, refused]
  refine ⟨⟨_, get⟩, ?_, ⟨_, by rw [Database.stageDelete, get]⟩⟩
  cases listed : database.list (some owner) .all with
  | error fault => exact ⟨fault, rfl⟩
  | ok entities =>
    obtain ⟨e, read⟩ := list_ok_iff.1 ⟨entities, listed⟩ row (row?_eq_some_iff.1 found).1 (by
      rw [Option.map_some, matchesText, Option.all_some, own, beq_self_eq_true]
      rfl)
    rw [refused] at read
    cases read

end Store.Database

namespace Service

open Store (Database Row)

/-! ## Any number of calls -/

/-- What the client sends nests no deeper than allowed, and its clock shows years of four digits. -/
structure Client.Modest (limit : Nat) (client : Client) : Prop where
  operation : client.operation.Modest limit
  times : ∀ n, Time.Rfc3339.InYears (client.times n)

section Runs

variable {limit : Nat} (small : limit ≤ Json.Reader.depthLimit) (service : Service)

include small

theorem serve_readable {client : Client} (modest : client.Modest limit) {world : World Database}
    (readable : world.Readable limit) : (client.serve service world).2.Readable limit :=
  (call_readable small modest.times service readable client.operation modest.operation).attend

theorem serveAll_readable {clients : List Client} (modest : ∀ client ∈ clients, client.Modest limit)
    {world : World Database} (readable : world.Readable limit) :
    (serveAll service clients world).2.Readable limit := by
  induction clients generalizing world with
  | nil => exact readable
  | cons client rest ih =>
    obtain ⟨first, others⟩ := List.forall_mem_cons.1 modest
    exact ih others (serve_readable small service first readable)

end Runs

/-- Rows stay readable. Let every row of a database be read, as a snapshot with times in years of
four digits and a payload of no more levels than the limit; let the executors answer such payloads
with results that texts can hold; and let clients bring payloads of no more levels than the limit,
results that texts can hold, and clocks in such years, as whatever comes out of the parser is within
its own limit. Then after any calls, whether they succeeded or not, every row is again read so, and
reads, listings and removals do not fail. -/
theorem rows_stay_readable (service : Service) {limit : Nat} (small : limit ≤ Json.Reader.depthLimit)
    (world : World Database)
    (rows : ∀ row ∈ world.store.tables.rows,
      ∃ e, row.toEntity = .ok e ∧ e.Timed ∧ e.payload.Within limit)
    (executors : ∀ executor ∈ world.executors, executor.Modest limit)
    (clients : List Client) (modest : ∀ client ∈ clients, client.Modest limit) :
    let after := (serveAll service clients world).2.store.tables
    (∀ row ∈ after.rows, ∃ e, row.toEntity = .ok e ∧ e.Timed ∧ e.payload.Within limit) ∧
      after.Answers := by
  have readable : world.Readable limit := by
    refine ⟨fun row inside => ?_, executors⟩
    obtain ⟨e, read, timed, within⟩ := rows row inside
    exact ⟨e, read, (Row.denotes_of_toEntity read).lasting timed.years within⟩
  have after := serveAll_readable small service modest readable
  refine ⟨fun row inside => ?_, after.rows.legible.answers⟩
  obtain ⟨e, read, lasting⟩ := after.rows row inside
  have universal := (Row.denotes_of_toEntity read).universal
  exact ⟨e, read, lasting.years.timed universal, lasting.payload⟩

/-- Payloads of 126 levels, the echo, and an entity that is stored already. -/
theorem rows_stay_readable_with_echo :
    let acme : Owner := ⟨"acme", by decide⟩
    let worker : Local := ⟨"local", .inline, fun _ => some Local.echo⟩
    let service : Service := ⟨.default, ["local"], by decide, nofun⟩
    let stored := Entity.create ⟨"m"⟩ acme .job .null none .epoch
    let world : World Database := .new ⟨⟨[.ofEntity stored], [], List.pairwise_singleton _ _, .nil⟩,
      .always⟩ [worker.executor fun n => toString n]
    let clients : List Client := [
      ⟨.dispatch acme ⟨"m"⟩, ⟨"a"⟩, fun _ => .epoch⟩,
      ⟨.submitAndDispatch acme .job (.nested 1) none, ⟨"b"⟩, fun _ => .epoch⟩,
      ⟨.cancel acme ⟨"b"⟩, ⟨"c"⟩, fun _ => .epoch⟩]
    let after := (serveAll service clients world).2.store.tables
    (serveAll service clients world).1.map Except.isOk = [true, true, false] ∧
      (∀ row ∈ after.rows, ∃ e, row.toEntity = .ok e ∧ e.Timed ∧ e.payload.Within 126) ∧
      after.Answers := by
  intro acme worker service stored world clients after
  have storable : stored.Storable :=
    ⟨Entity.create_regular _ _ _ _ _ Time.Rfc3339.inRange_epoch, Entity.readable_of_null rfl rfl⟩
  have rows : ∀ row ∈ world.store.tables.rows,
      ∃ e, row.toEntity = .ok e ∧ e.Timed ∧ e.payload.Within 126 :=
    List.forall_mem_singleton.2
      ⟨stored, Row.toEntity_ofEntity storable, storable.regular.dated.updates, .null⟩
  have echo : (worker.executor fun n => toString n).Modest 126 := by
    refine Local.modest _ fun kind handler found owner e result within handled => ?_
    obtain rfl := Option.some.inj found
    exact Local.echo_within owner within handled
  have modest : ∀ client ∈ clients, client.Modest 126 := by
    have clocks (n : Nat) : Time.Rfc3339.InYears ((fun _ => .epoch : Nat → Time.Instant) n) :=
      Time.Rfc3339.inRange_epoch.years
    have brief : (Json.nested 1).Within 126 := (Json.nested_within 1).mono (by decide)
    simp only [clients, List.forall_mem_cons]
    exact ⟨⟨trivial, clocks⟩, ⟨brief, clocks⟩, ⟨trivial, clocks⟩, List.forall_mem_nil _⟩
  exact ⟨by decide +kernel, rows_stay_readable service (by decide) world rows
    (List.forall_mem_singleton.2 echo) clients modest⟩

/-! ## One level too many -/

/-- The row of a snapshot as it was written, behind a gate that lets every write pass. -/
structure World.Shows (executors : List Executor) (world : World Database) (e : Entity) : Prop where
  row : world.store.tables.row? (.text e.id.text) = some (.ofEntity e)
  gate : world.store.gate.Open
  executors : world.executors = executors

/-- New work goes to this worker, which is registered and reports at once. -/
structure WorksInline (service : Service) (executors : List Executor) (worker : Local)
    (ids : Nat → String) : Prop where
  chosen : service.chosen = some worker.name
  registered : executors.find? (fun executor => executor.name == worker.name) =
    some (worker.executor ids)
  atOnce : worker.mode = .inline

section Shown

variable {client : Client} {n : Nat} {world after : World Database} {e : Entity}
  {executors : List Executor} {service : Service} {worker : Local} {ids : Nat → String}

theorem World.Shows.of_same (shows : world.Shows executors e) (store : after.store = world.store)
    (same : after.executors = world.executors) : after.Shows executors e := by
  refine ⟨?_, ?_, same.trans shows.executors⟩
  · rw [store]
    exact shows.row
  · rw [store]
    exact shows.gate

/-- A snapshot is read as it was written, if it is read at all. -/
theorem load_shows (shows : world.Shows executors e) (storable : e.Storable) :
    (load e.owner e.id).Leaves client (fun answer after => answer = .ok e ∧ after.Shows executors e)
      n world := by
  refine .idle (fun _ => ⟨rfl, rfl⟩) fun after store same => ?_
  have reply : ((world.seenBy client n).answer (.load e.id)).1 = .ok (some e) := by
    show Database.get world.store.tables e.id = _
    rw [Database.get, shows.row, Database.read, Row.toEntity_ofEntity storable]
  rw [reply]
  exact ⟨Entity.forOwner_eq_ok_iff.2 ⟨rfl, rfl⟩, shows.of_same store same⟩

theorem load_refused (shows : world.Shows executors e) {fault : QueryFault}
    (refused : (Row.ofEntity e).toEntity = .error fault) :
    (load e.owner e.id).Leaves client
      (fun answer after => answer = .error (.databaseQuery fault) ∧ after.Shows executors e)
      n world := by
  refine .idle (fun _ => ⟨rfl, rfl⟩) fun after store same => ?_
  have reply : ((world.seenBy client n).answer (.load e.id)).1 = .error (.databaseQuery fault) := by
    show Database.get world.store.tables e.id = _
    rw [Database.get, shows.row, Database.read, refused]
  rw [reply]
  exact ⟨rfl, shows.of_same store same⟩

/-- An update of what is shown goes through and is shown. -/
theorem Program.Leaves.saveShown {α : Type} {ends : α → World Database → Prop}
    {next : Except Error Entity → Program α} {copy : Entity} (shows : world.Shows executors e)
    (work : e.SameWork copy) (room : e.revision < Store.columnLimit)
    (rest : ∀ after, after.Shows executors copy.bumped →
      (next (.ok copy.bumped)).Leaves client ends (n + 1) after) :
    (Program.ask (.save copy) next).Leaves client ends n world := by
  have staged : Store.Storage.stageSave world.store.tables copy =
      .ready ⟨.update, copy.bumped⟩ (world.store.tables.updateRow copy.id (.ofEntity copy.bumped))
        copy.bumped := by
    show Database.stageSave _ copy = _
    rw [Database.stageSave, work.id, shows.row]
    simp only [Database.ownerAndStatus_ofEntity, work.owner, work.revision, Row.ofEntity, ne_eq,
      not_true_eq_false, if_false, if_neg (Nat.not_lt.2 room)]
  have saved : world.store.save copy = (.ok copy.bumped,
      ⟨world.store.tables.updateRow copy.id (.ofEntity copy.bumped), { world.store.gate with
        calls := ⟨.update, copy.bumped⟩ :: world.store.gate.calls }⟩) := by
    rw [Store.save, staged, Store.commit, Store.Gate.ask, shows.gate]
  show (next (world.store.save copy).1).Leaves client ends (n + 1)
    { world.seenBy client n with store := (world.store.save copy).2 }
  rw [saved]
  refine rest _ ⟨?_, shows.gate, shows.executors⟩
  obtain ⟨inside, named⟩ := Database.row?_eq_some_iff.1 shows.row
  refine Database.row?_eq_some_iff.2 ⟨Database.mem_updateRow.2 ⟨_, inside, ?_⟩, rfl⟩
  rw [work.id, if_pos named, Database.updated_bumped work]

/-- The write of a transition that the lifecycle allows goes through. -/
theorem commit_shows (shows : world.Shows executors e) {request : Transition}
    (allowed : e.kind.lifecycle.allows e.status request.target = true)
    (room : e.revision < Store.columnLimit) :
    (commit e request).Leaves client (fun answer after => ∃ next,
      e.apply request (client.times n) = .ok next ∧ answer = .ok next.bumped ∧
        after.Shows executors next.bumped) n world := by
  refine .idle (fun _ => ⟨rfl, rfl⟩) fun clocked store same => ?_
  have reply : ((world.seenBy client n).answer .readClock).1 = client.times n := rfl
  have applied := Entity.apply_eq_ok_iff.2 ⟨allowed, (rfl : _ = e.entering request
    (.latest (client.times n) e.updatedAt))⟩
  rw [reply, applied]
  refine .saveShown (shows.of_same store same) (Entity.entering_same e request _) room
    fun saved shows => ?_
  refine .idle (fun _ => ⟨rfl, rfl⟩) fun after store same => ?_
  exact ⟨_, rfl, rfl, shows.of_same store same⟩

/-- Whoever starts work on what is shown shows it under the dispatch, ready for its outcome. -/
theorem apply_running {next : Entity} (storable : e.Storable)
    {dispatch executor : String} {now : Time.Instant} (inRange : Time.Rfc3339.InRange now)
    (applied : e.apply ((Transition.into e.kind.lifecycle.running).withDispatch executor
      (some dispatch)) now = .ok next) :
    e.SameWork next ∧ next.bumped.Storable ∧ next.status = e.kind.lifecycle.running ∧
      next.dispatch = some dispatch := by
  have regular := storable.regular.apply inRange applied
  obtain ⟨_, rfl⟩ := Entity.apply_eq_ok_iff.1 applied
  have work := Entity.entering_same e ((Transition.into e.kind.lifecycle.running).withDispatch
    executor (some dispatch)) (.latest now e.updatedAt)
  refine ⟨work, ⟨regular, ?_, fun value found => ?_⟩, ?_⟩
  · show (e.entering _ _).payload.Readable
    rw [work.payload]
    exact storable.readable.payload
  · obtain kept | new | rfl := Entity.entering_result found
    · exact storable.readable.result value kept
    · cases new
    · exact Json.readable_null
  · rw [Entity.entering_running _ rfl]
    exact ⟨rfl, rfl⟩

/-- The result of work in progress is written as it was reported. -/
theorem complete_shows (shows : world.Shows executors e) (storable : e.Storable)
    (running : e.status = e.kind.lifecycle.running) {dispatch : String}
    (carried : e.dispatch = some dispatch) (room : e.revision < Store.columnLimit) (result : Json) :
    (complete ⟨e.owner, e.id, dispatch⟩ (.succeeded result)).Leaves client (fun answer after =>
      ∃ next, e.SameWork next ∧ next.result = some result ∧ answer = .ok next.bumped ∧
        after.Shows executors next.bumped) n world := by
  have allowed : e.kind.lifecycle.allows e.status e.kind.lifecycle.success = true := by
    rw [running]
    cases e.kind <;> decide
  refine (load_shows shows storable).andThen ?_ ?_
  · rintro fault _ ⟨impossible, _⟩
    cases impossible
  rintro current m w ⟨answer, shows⟩
  obtain rfl := Except.ok.inj answer
  have passed : checkReport current ⟨current.owner, current.id, dispatch⟩ (.succeeded result) =
      .ok () := by
    simp only [checkReport, Outcome.request, Transition.withResult, Transition.into, Entity.checkStep,
      allowed, if_true, bind, Except.bind, checkDispatch, carried]
  rw [passed]
  refine (commit_shows shows allowed room).bind ?_
  rintro _ _ _ ⟨next, applied, rfl, shows⟩
  obtain ⟨_, rfl⟩ := Entity.apply_eq_ok_iff.1 applied
  refine ⟨_, Entity.entering_same current _ _, ?_, rfl, shows⟩
  rw [Entity.entering_success _ rfl]
  rfl

/-- The worker reports what its handler gives. -/
theorem WorksInline.start (works : service.WorksInline executors worker ids)
    (world : World Database) (same : world.executors = executors) {handler : Handler}
    (handles : worker.handler e.kind = some handler) {result : Json}
    (gives : handler e.owner e = .value result) (dispatch : String) :
    (world.start worker.name e dispatch).1 = .reported (.succeeded result) Local.afterReport := by
  have start : (worker.executor ids).start world.calls e dispatch =
      .reported (.succeeded result) Local.afterReport := by
    show worker.start e dispatch = _
    simp only [Local.start, handles, gives, Handled.outcome, works.atOnce]
  simp only [World.start, World.executor?, same, works.registered, start]

/-- A row that is written with an unreadable result is not read again. -/
theorem refused_of_result {result : Json} {fault : Json.Fault}
    (refused : Json.parse result.compact = .error fault) (found : e.result = some result) :
    ∃ fault, (Row.ofEntity e).toEntity = .error fault := by
  cases read : (Row.ofEntity e).toEntity with
  | error fault => exact ⟨fault, rfl⟩
  | ok other =>
    obtain ⟨text, cell, done⟩ := (Row.denotes_of_toEntity read).result
    have same : text = some result.compact := by
      simp only [Row.ofEntity, found, Option.map_some, Store.Cell.ofText?] at cell
      cases text with
      | none => cases cell
      | some written => rw [Store.Cell.text.inj cell]
    rw [same] at done
    simp only [Row.readOptional, Row.readJson, refused] at done
    cases done

/-- Work whose result texts cannot hold is lost with it. Let the row of a queued entity be read as it
was written, let its executor report at once, and let what it reports not be read from the text that
is written of it. Then the call ends in an error of the store, and the row is not read again. -/
theorem handOver_loses (shows : world.Shows executors e) (storable : e.Storable)
    (waiting : e.status = e.kind.lifecycle.initial) (room : e.revision + 1 < Store.columnLimit)
    (times : ∀ n, Time.Rfc3339.InRange (client.times n))
    (works : service.WorksInline executors worker ids) {handler : Handler}
    (handles : worker.handler e.kind = some handler) {result : Json}
    (gives : ∀ owner other, other.payload = e.payload → handler owner other = .value result)
    {fault : Json.Fault} (refused : Json.parse result.compact = .error fault) :
    (service.handOver e).Leaves client (fun answer after =>
      (∃ fault, answer = .error (.databaseQuery fault)) ∧ after.store.tables.Lost e.owner e.id)
      n world := by
  unfold handOver
  rw [works.chosen]
  refine .idle (fun _ => ⟨rfl, rfl⟩) fun reserved store same => ?_
  have reply : ((world.seenBy client n).answer (.reserve worker.name e)).1 =
      .ok (ids world.calls.length) := by
    have executor : (world.seenBy client n).executor? worker.name = some (worker.executor ids) := by
      rw [World.executor?, ← works.registered, ← shows.executors]
      rfl
    show (World.reserve _ _ _).1 = _
    rw [World.reserve, executor]
    show (if (worker.handler e.kind).isSome then _ else _) = _
    rw [handles]
    rfl
  rw [reply]
  have mayRun : e.kind.lifecycle.allows e.status e.kind.lifecycle.running = true := by
    rw [waiting]
    cases e.kind <;> decide
  refine (commit_shows (shows.of_same store same) mayRun (Nat.lt_of_succ_lt room)).andThen ?_ ?_
  · rintro fault _ ⟨_, _, impossible, _⟩
    cases impossible
  rintro _ m w ⟨next, applied, answer, shows⟩
  obtain rfl := Except.ok.inj answer
  obtain ⟨work, storable, running, dispatch⟩ := apply_running storable (times _) applied
  refine .idle (fun w => w.start_same worker.name next.bumped _) fun started store same => ?_
  have handled : worker.handler next.bumped.kind = some handler :=
    (congrArg worker.handler work.kind).trans handles
  have reply : ((w.seenBy client m).answer (.start worker.name next.bumped
      (ids world.calls.length))).1 = .reported (.succeeded result) Local.afterReport :=
    works.start (w.seenBy client m) shows.executors handled (gives _ _ work.payload) _
  rw [reply]
  have kept : next.status = next.kind.lifecycle.running := by rw [running, work.kind]
  have space : next.bumped.revision < Store.columnLimit := by
    show next.revision + 1 < _
    rwa [work.revision]
  refine (complete_shows (shows.of_same store same) storable kept dispatch space result).bind ?_
  rintro _ _ _ ⟨last, same, found, rfl, shows⟩
  obtain ⟨fault, unread⟩ := refused_of_result refused (e := last.bumped) found
  show (load next.bumped.owner next.bumped.id).Leaves _ _ _ _
  rw [← same.owner, ← same.id]
  refine (load_refused shows unread).weaken ?_
  rintro _ after ⟨rfl, shows⟩
  have id : last.bumped.id = e.id := same.id.trans work.id
  have owner : last.bumped.owner = e.owner := same.owner.trans work.owner
  exact ⟨⟨fault, rfl⟩, _, fault, id ▸ shows.row, owner ▸ rfl, unread⟩

/-- A new entity without a key goes in. -/
theorem Program.Leaves.insertShown {α : Type} {ends : α → World Database → Prop}
    {next : Except Error Store.Insertion → Program α} (passes : world.store.gate.Open)
    (unused : world.store.tables.Unused e.id) (keyless : e.key = none)
    (fits : e.revision ≤ Store.columnLimit)
    (rest : ∀ after, after.Shows world.executors e →
      (next (.ok (.inserted e))).Leaves client ends (n + 1) after) :
    (Program.ask (.insert e) next).Leaves client ends n world := by
  obtain ⟨tables, entered, rows, _⟩ := world.store.tables.insertEntity_free fits unused
    fun key carries => by
      rw [keyless] at carries
      cases carries
  have staged : Store.Storage.stageInsert world.store.tables e =
      .ready ⟨.insert, e⟩ tables (.inserted e) := by
    show Database.stageInsert _ e = _
    simp only [Database.stageInsert, Database.holder, keyless, entered]
  have inserted : world.store.insert e = (.ok (.inserted e), ⟨tables, { world.store.gate with
      calls := ⟨.insert, e⟩ :: world.store.gate.calls }⟩) := by
    rw [Store.insert, staged, Store.commit, Store.Gate.ask, passes]
  show (next (world.store.insert e).1).Leaves client ends (n + 1)
    { world.seenBy client n with store := (world.store.insert e).2 }
  rw [inserted]
  refine rest _ ⟨Database.row?_eq_some_iff.2 ⟨?_, rfl⟩, passes, rfl⟩
  rw [rows]
  exact List.mem_append_right _ (List.mem_singleton_self _)

theorem insertNew_shows (passes : world.store.gate.Open) (unused : world.store.tables.Unused client.id)
    (owner : Owner) (kind : Kind) (payload : Json) :
    (insertNew owner kind payload none).Leaves client (fun answer after => ∃ now,
      answer = .ok (.created (.create client.id owner kind payload none (client.times now))) ∧
        after.Shows world.executors (.create client.id owner kind payload none (client.times now)))
      n world := by
  refine .idle (fun _ => ⟨rfl, rfl⟩) fun clocked store same => ?_
  refine .idle (fun _ => ⟨rfl, rfl⟩) fun named store' same' => ?_
  have stores := store'.trans store
  rw [← stores] at passes unused
  rw [← same, ← same']
  refine .insertShown passes unused rfl (Nat.zero_le _) fun after shows => ?_
  exact ⟨n, rfl, shows⟩

/-- The echo of a payload that is read, but not from a text with one level around it, is lost. -/
theorem serve_loses (passes : world.store.gate.Open) (unused : world.store.tables.Unused client.id)
    (times : ∀ n, Time.Rfc3339.InRange (client.times n))
    (works : service.WorksInline world.executors worker ids) {owner : Owner} {kind : Kind}
    (handles : worker.handler kind = some Local.echo) {payload : Json} (readable : payload.Readable)
    {fault : Json.Fault}
    (refused : Json.parse (.object [("echo", payload)] : Json).compact = .error fault)
    (asks : client.operation = .submitAndDispatch owner kind payload none) :
    (∃ fault, (client.serve service world).1 = .error (.databaseQuery fault)) ∧
      (client.serve service world).2.store.tables.Lost owner client.id := by
  have loses : (service.submitAndDispatch owner kind payload none).Leaves client
      (fun answer after => (∃ fault, answer = .error (.databaseQuery fault)) ∧
        after.store.tables.Lost owner client.id) 0 world := by
    refine (insertNew_shows passes unused owner kind payload).andThen ?_ ?_
    · rintro fault _ ⟨_, impossible, _⟩
      cases impossible
    rintro placed m after ⟨now, answer, shows⟩
    obtain rfl := Except.ok.inj answer
    refine handOver_loses shows ⟨Entity.create_regular _ _ _ _ _ (times now), readable, ?_⟩ rfl
      (show 0 + 1 < Store.columnLimit by decide) times works handles ?_ refused
    · exact fun _ impossible => by cases impossible
    · intro _ other same
      rw [Local.echo, same]
      rfl
  have ended : (client.operation.call service).Leaves client (fun answer after =>
      (∃ fault, answer = .error (.databaseQuery fault)) ∧
        after.store.tables.Lost owner client.id) 0 world := by
    rw [asks]
    refine loses.mapOk ?_
    rintro _ after ⟨⟨fault, rfl⟩, lost⟩
    exact ⟨⟨fault, rfl⟩, lost⟩
  exact ended.attend

end Shown

/-- An echo within the process, an empty database, and a payload of 127 lists that the parser reads
from its text: the call ends in an error of the store, and the entity can neither be got nor listed
nor removed. -/
theorem echo_loses_deepest_payload :
    let owner : Owner := ⟨"acme", by decide⟩
    let worker : Local := ⟨"local", .inline, fun _ => some Local.echo⟩
    let service : Service := ⟨.default, ["local"], by decide, nofun⟩
    let world : World Database := .new (.new .always) [worker.executor fun n => toString n]
    let payload := Json.nested 126
    let client : Client := ⟨.submitAndDispatch owner .job payload none, ⟨"a"⟩, fun _ => .epoch⟩
    let tables := (client.serve service world).2.store.tables
    Json.parse payload.compact = .ok payload ∧ (∀ n, Time.Rfc3339.InRange (client.times n)) ∧
      world.store.tables.rows = [] ∧
      (∃ fault, (client.serve service world).1 = .error (.databaseQuery fault)) ∧
      tables.Lost owner client.id ∧
      (∃ fault, tables.get client.id = .error fault) ∧
      (∃ fault, tables.list (some owner) .all = .error fault) ∧
      ∃ fault, tables.stageDelete client.id = .refused fault := by
  intro owner worker service world payload client tables
  have readable : payload.Readable := Json.parse_nested (by decide)
  obtain ⟨fault, refused⟩ := Json.parse_around_nested "echo" (n := 126) (by decide)
  have unused : world.store.tables.Unused client.id := List.forall_mem_nil _
  have works : service.WorksInline world.executors worker fun n => toString n :=
    ⟨rfl, List.find?_cons_of_pos (beq_self_eq_true _), rfl⟩
  obtain ⟨failed, lost⟩ := serve_loses (fun _ _ => rfl) unused (fun _ => Time.Rfc3339.inRange_epoch)
    works rfl readable refused rfl
  exact ⟨readable, fun _ => Time.Rfc3339.inRange_epoch, rfl, failed, lost, lost.fails⟩

end Service

end TenantWork
