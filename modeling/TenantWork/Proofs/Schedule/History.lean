import TenantWork.Proofs.Schedule.Discipline
/-!
What a trace says about the store. A trace tells which snapshot is stored under an id: the one that
was written last, unless the entity was removed since. In a lawful trace every entity begins under
an unused id and with a free key, and every update is a transition of the stored snapshot. Nothing
here speaks of tables: whatever follows from a trace holds of every store that has such traces.
-/
namespace TenantWork.Service

/-! ## Events of a trace -/

/-- A snapshot that the store has taken. -/
def WasStored (trace : List Step) (e : Entity) : Prop :=
  ∃ step ∈ trace, step.exchange.stored? = some e

theorem WasStored.later {trace : List Step} {e : Entity} (stored : WasStored trace e)
    (step : Step) : WasStored (step :: trace) e := by
  obtain ⟨old, inside, stores⟩ := stored
  exact ⟨old, List.mem_cons_of_mem _ inside, stores⟩

theorem wasStored_cons {trace : List Step} {step : Step} {e : Entity} :
    WasStored (step :: trace) e ↔ step.exchange.stored? = some e ∨ WasStored trace e := by
  simp [WasStored]

section Once

variable {trace : List Step} {f : Step → Option String}

theorem nodup_filterMap_iff :
    (trace.filterMap f).Nodup ↔ ∀ later step earlier, trace = later ++ step :: earlier →
      ∀ dispatch, f step = some dispatch → ∀ old ∈ earlier, f old ≠ some dispatch := by
  induction trace with
  | nil =>
    refine ⟨fun _ later step earlier split => ?_, fun _ => List.nodup_nil⟩
    cases later <;> cases split
  | cons first rest ih =>
    have head : (List.filterMap f (first :: rest)).Nodup ↔
        (∀ dispatch, f first = some dispatch → ∀ old ∈ rest, f old ≠ some dispatch) ∧
          (rest.filterMap f).Nodup := by
      rw [List.filterMap_cons]
      split
      next none => simp [none]
      next dispatch found => simp [found, List.nodup_cons]
    rw [head, ih]
    constructor
    · rintro ⟨now, before⟩ later step earlier split
      rcases later with _ | ⟨_, later⟩
      · obtain ⟨rfl, rfl⟩ := List.cons.inj split
        exact now
      · obtain ⟨rfl, rfl⟩ := List.cons.inj split
        exact before later step earlier rfl
    · intro all
      refine ⟨all [] first rest rfl, fun later step earlier split => ?_⟩
      exact all (first :: later) step earlier (by rw [split]; rfl)

/-- Steps that share the value of a function with no value twice are one step. -/
theorem eq_of_nodup_filterMap (once : (trace.filterMap f).Nodup)
    {a b : Step} {dispatch : String} (insideA : a ∈ trace) (insideB : b ∈ trace)
    (foundA : f a = some dispatch) (foundB : f b = some dispatch) : a = b := by
  rw [nodup_filterMap_iff] at once
  obtain ⟨later, earlier, rfl⟩ := List.append_of_mem insideA
  have apart := once later a earlier rfl dispatch foundA
  rcases List.mem_append.1 insideB with after | here
  · obtain ⟨first, last, rfl⟩ := List.append_of_mem after
    refine absurd foundA (once first b (last ++ a :: earlier) (by simp) dispatch foundB a ?_)
    exact List.mem_append_right _ List.mem_cons_self
  · rcases List.mem_cons.1 here with rfl | before
    · rfl
    · exact absurd foundB (apart b before)

end Once

/-- Something has happened, and something else has not happened since. -/
def Since (begun ended : Step → Prop) : List Step → Prop
  | [] => False
  | step :: earlier => begun step ∨ ¬ended step ∧ Since begun ended earlier

theorem since_iff {begun ended : Step → Prop} {trace : List Step} :
    Since begun ended trace ↔ ∃ later step earlier, trace = later ++ step :: earlier ∧ begun step ∧
      ∀ other ∈ later, ¬ended other := by
  induction trace with
  | nil => simp [Since]
  | cons first rest ih =>
    rw [Since, ih]
    constructor
    · rintro (begins | ⟨kept, later, step, earlier, rfl, begins, quiet⟩)
      · exact ⟨[], first, rest, rfl, begins, fun _ inside => absurd inside List.not_mem_nil⟩
      · refine ⟨first :: later, step, earlier, rfl, begins, fun other inside => ?_⟩
        rcases List.mem_cons.1 inside with rfl | inside
        · exact kept
        · exact quiet other inside
    · rintro ⟨later, step, earlier, split, begins, quiet⟩
      cases later with
      | nil =>
        obtain ⟨rfl, rfl⟩ := List.cons.inj split
        exact .inl begins
      | cons head later =>
        obtain ⟨rfl, rfl⟩ := List.cons.inj split
        refine .inr ⟨quiet _ List.mem_cons_self, later, step, earlier, rfl, begins, ?_⟩
        exact fun other inside => quiet other (List.mem_cons_of_mem _ inside)

theorem Since.mono {begun ended ended' : Step → Prop} {trace : List Step}
    (since : Since begun ended trace) (weaker : ∀ step ∈ trace, ended' step → ended step) :
    Since begun ended' trace := by
  induction trace with
  | nil => exact since
  | cons step earlier ih =>
    obtain begins | ⟨kept, since⟩ := since
    · exact .inl begins
    · refine .inr ⟨fun holds => kept (weaker step List.mem_cons_self holds), ih since ?_⟩
      exact fun other inside => weaker other (List.mem_cons_of_mem _ inside)

theorem Since.happened {begun ended : Step → Prop} {trace : List Step}
    (since : Since begun ended trace) : ∃ step ∈ trace, begun step := by
  obtain ⟨later, step, earlier, rfl, begins, _⟩ := since_iff.1 since
  exact ⟨step, List.mem_append_right _ List.mem_cons_self, begins⟩

namespace Exchange

theorem stored?_of_created? {exchange : Exchange} {e : Entity}
    (created : exchange.created? = some e) : exchange.stored? = some e := by
  unfold created? at created
  split at created
  · exact created
  · cases created

theorem stored?_of_updated? {exchange : Exchange} {e : Entity}
    (updated : exchange.updated? = some e) : exchange.stored? = some e := by
  unfold updated? at updated
  split at updated
  · exact updated
  · cases updated

theorem updated?_of_idle {exchange : Exchange} (idle : exchange.stored? = none) :
    exchange.updated? = none :=
  Option.eq_none_iff_forall_ne_some.2 fun _ updated => by
    rw [stored?_of_updated? updated] at idle
    cases idle

theorem updated?_of_created? {exchange : Exchange} {e : Entity}
    (created : exchange.created? = some e) : exchange.updated? = none := by
  unfold created? at created
  split at created
  · rfl
  · cases created

theorem stored?_cases {exchange : Exchange} {e : Entity} (stored : exchange.stored? = some e) :
    exchange.created? = some e ∨ exchange.updated? = some e := by
  unfold stored? at stored
  split at stored
  · exact .inl stored
  · exact .inr stored
  · cases stored

theorem removed?_of_stored? {exchange : Exchange} {e : Entity}
    (stored : exchange.stored? = some e) : exchange.removed? = none := by
  unfold stored? at stored
  split at stored
  · rfl
  · rfl
  · cases stored

end Exchange

/-! ## What is stored -/

/-- The snapshot that is stored under an id after a trace. -/
def snapshot : List Step → EntityId → Option Entity
  | [], _ => none
  | step :: earlier, id =>
    match step.exchange.stored?, step.exchange.removed? with
    | some e, _ => if id = e.id then some e else snapshot earlier id
    | none, some gone => if id = gone then none else snapshot earlier id
    | none, none => snapshot earlier id

section Snapshot

variable {step : Step} {earlier trace : List Step} {id : EntityId} {e : Entity}

theorem snapshot_of_stored (stored : step.exchange.stored? = some e) (id : EntityId) :
    snapshot (step :: earlier) id = if id = e.id then some e else snapshot earlier id := by
  simp only [snapshot, stored]

theorem snapshot_of_removed {gone : EntityId} (removed : step.exchange.removed? = some gone)
    (id : EntityId) :
    snapshot (step :: earlier) id = if id = gone then none else snapshot earlier id := by
  have stored : step.exchange.stored? = none := by
    cases stored : step.exchange.stored? with
    | none => rfl
    | some e =>
      rw [Exchange.removed?_of_stored? stored] at removed
      cases removed
  simp only [snapshot, stored, removed]

theorem snapshot_cases (found : snapshot (step :: earlier) id = some e) :
    (step.exchange.stored? = some e ∧ id = e.id) ∨
      (snapshot earlier id = some e ∧ ∀ other, step.exchange.stored? = some other → other.id ≠ id) := by
  cases stored : step.exchange.stored? with
  | some other =>
    rw [snapshot_of_stored stored] at found
    split at found
    next here =>
      obtain rfl := Option.some.inj found
      exact .inl ⟨rfl, here⟩
    next elsewhere =>
      refine .inr ⟨found, fun another same => ?_⟩
      obtain rfl := Option.some.inj same
      exact fun clash => elsewhere clash.symm
  | none =>
    refine .inr ⟨?_, fun other impossible => (nomatch impossible)⟩
    cases removed : step.exchange.removed? with
    | some gone =>
      rw [snapshot_of_removed removed] at found
      split at found
      · cases found
      · exact found
    | none => simpa only [snapshot, stored, removed] using found

theorem snapshot_id (found : snapshot trace id = some e) : e.id = id := by
  induction trace with
  | nil => cases found
  | cons step earlier ih =>
    obtain ⟨_, here⟩ | ⟨before, _⟩ := snapshot_cases found
    · exact here.symm
    · exact ih before

theorem wasStored_of_snapshot (found : snapshot trace id = some e) : WasStored trace e := by
  induction trace with
  | nil => cases found
  | cons step earlier ih =>
    obtain ⟨stored, _⟩ | ⟨before, _⟩ := snapshot_cases found
    · exact ⟨step, List.mem_cons_self, stored⟩
    · exact (ih before).later step

end Snapshot

/-! ## Lawful traces -/

/-- A step that may follow a trace. -/
structure Follows (earlier : List Step) (step : Step) : Prop where
  /-- An entity is created as a new one, and its key is free. -/
  created : ∀ e, step.exchange.created? = some e →
    (∃ owner kind payload key now, e = Entity.create e.id owner kind payload key now) ∧
      (∀ old, WasStored earlier old → old.id ≠ e.id) ∧
      ∀ key id held, e.key = some key → snapshot earlier id = some held →
        held.owner = e.owner → held.key ≠ some key
  /-- An update is a transition of the stored snapshot. -/
  updated : ∀ e, step.exchange.updated? = some e →
    ∃ current request now next, snapshot earlier e.id = some current ∧
      current.apply request now = .ok next ∧ e = next.bumped ∧
      step.stage.Admits (WasStored earlier) current request

def Lawful : List Step → Prop
  | [] => True
  | step :: earlier => Follows earlier step ∧ Lawful earlier

theorem Lawful.suffix {later trace : List Step} (lawful : Lawful (later ++ trace)) :
    Lawful trace := by
  induction later with
  | nil => exact lawful
  | cons step later ih => exact ih lawful.2

/-- A new snapshot of an entity has a higher revision than those before it. -/
theorem Follows.revision {earlier : List Step} {step : Step} (follows : Follows earlier step)
    {old new : Entity} (before : WasStored earlier old)
    (below : ∀ current, snapshot earlier old.id = some current →
      old = current ∨ old.revision < current.revision)
    (stores : step.exchange.stored? = some new) (same : new.id = old.id) :
    old.revision < new.revision := by
  obtain created | updated := Exchange.stored?_cases stores
  · exact absurd same.symm ((follows.created new created).2.1 old before)
  · obtain ⟨current, request, now, next, there, applied, rfl, _⟩ := follows.updated new updated
    rw [same] at there
    obtain ⟨_, made⟩ := Entity.apply_eq_ok_iff.1 applied
    have revision : next.revision = current.revision := by rw [made, Entity.entering_revision]
    show old.revision < next.revision + 1
    obtain rfl | lower := below current there
    · omega
    · omega

/-- A stored snapshot was written last of all snapshots of its entity. -/
theorem Lawful.revision {trace : List Step} (lawful : Lawful trace) {old current : Entity}
    (stored : WasStored trace old) (found : snapshot trace old.id = some current) :
    old = current ∨ old.revision < current.revision := by
  induction trace generalizing current with
  | nil => cases found
  | cons step earlier ih =>
    obtain ⟨now, same⟩ | ⟨there, others⟩ := snapshot_cases found
    · obtain stores | before := wasStored_cons.1 stored
      · rw [stores] at now
        exact .inl (Option.some.inj now)
      · exact .inr (lawful.1.revision before (fun _ => ih lawful.2 before) now same.symm)
    · obtain stores | before := wasStored_cons.1 stored
      · exact absurd rfl (others old stores)
      · exact ih lawful.2 before there

/-- After a snapshot was written, only higher revisions of its entity are. -/
theorem Lawful.since_stored {trace : List Step} (lawful : Lawful trace) {old : Entity}
    (stored : WasStored trace old) :
    Since (fun step => step.exchange.stored? = some old)
      (fun step => ∃ other, step.exchange.stored? = some other ∧ other.id = old.id ∧
        other.revision ≤ old.revision) trace := by
  induction trace with
  | nil =>
    obtain ⟨_, inside, _⟩ := stored
    cases inside
  | cons step earlier ih =>
    obtain stores | before := wasStored_cons.1 stored
    · exact .inl stores
    · refine .inr ⟨?_, ih lawful.2 before⟩
      rintro ⟨other, stores, same, lower⟩
      have higher := lawful.1.revision before (fun _ => lawful.2.revision before) stores same
      omega

end TenantWork.Service
