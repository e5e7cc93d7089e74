import TenantWork.Proofs.Store.MemoryCalls
import TenantWork.Proofs.Tenancy.Pairing
/-!
Tenants side by side in one store. Of two stores that hold the same of one tenant, that tenant's
calls cannot tell which it is, and they leave alone what others have. Said here of any tables that
keep tenants apart: what a tenant reads is the same on both sides, and so are the writes that are
staged for it.
-/
namespace TenantWork

theorem Entity.forOwner_eq_ok_iff {owner : Owner} {id : EntityId} {found : Option Entity}
    {e : Entity} : forOwner owner id found = .ok e ↔ found = some e ∧ e.owner = owner := by
  cases found with
  | none =>
    constructor
    · intro impossible
      cases impossible
    · rintro ⟨impossible, _⟩
      cases impossible
  | some stored =>
    rw [forOwner, Option.some.injEq]
    split
    next own =>
      rw [Except.ok.injEq]
      exact ⟨fun same => ⟨same, same ▸ own⟩, And.left⟩
    next foreign =>
      refine ⟨fun impossible => (by cases impossible), ?_⟩
      rintro ⟨rfl, own⟩
      exact absurd own foreign

/-- Only what an owner has itself decides what it sees. -/
theorem Entity.forOwner_congr {tenant : Owner} {x y : Option Entity} (id : EntityId)
    (same : ∀ e, e.owner = tenant → (x = some e ↔ y = some e)) :
    forOwner tenant id x = forOwner tenant id y := by
  have foreign {z : Option Entity} (other : ∀ e, z = some e → e.owner ≠ tenant) :
      forOwner tenant id z = .error (.accessDenied id.text) := by
    cases z with
    | none => rfl
    | some e => exact if_neg (other e rfl)
  by_cases own : ∃ e, e.owner = tenant ∧ x = some e
  · obtain ⟨e, owned, found⟩ := own
    rw [found, (same e owned).1 found]
  · rw [foreign fun e found owned => own ⟨e, owned, found⟩,
      foreign fun e found owned => own ⟨e, owned, (same e owned).2 found⟩]

namespace Store

variable {Tables : Type}

/-- A call staged in the same way on both sides. -/
inductive Staged.Beside {α : Type} (related : Tables → Tables → Prop) (fits : α → Prop) :
    Staged Tables α → Staged Tables α → Prop where
  | refused (fault : Error) : Beside related fits (.refused fault) (.refused fault)
  | answered (answer : α) (fit : fits answer) :
    Beside related fits (.answered answer) (.answered answer)
  | ready {x y : Tables} (call : WriteCall) (answer : α) (fit : fits answer)
    (after : related x y) : Beside related fits (.ready call x answer) (.ready call y answer)

/-- How tables are compared for one tenant. -/
structure Parts (Tables : Type) where
  /-- Both tables hold the same of the tenant. -/
  Agree : Tables → Tables → Prop
  /-- Both tables hold the same of everyone else. -/
  Keeps : Tables → Tables → Prop
  Unused : Tables → EntityId → Prop

namespace Parts

/-- Tables on both sides after a write of the tenant, which may have used one new id. -/
structure Moved (parts : Parts Tables) (new : Option EntityId) (a b x y : Tables) : Prop where
  agree : parts.Agree x y
  left : parts.Keeps a x
  right : parts.Keeps b y
  unused : ∀ id, new ≠ some id → (parts.Unused a id → parts.Unused x id) ∧
    (parts.Unused b id → parts.Unused y id)

variable [Storage Tables]

/-- What a tenant finds under an id. -/
def sight (tenant : Owner) (tables : Tables) (id : EntityId) : Except Error Entity :=
  (Storage.get tables id).bind (Entity.forOwner tenant id)

theorem sight_eq_ok_iff {tenant : Owner} {tables : Tables} {id : EntityId} {e : Entity} :
    sight tenant tables id = .ok e ↔ Storage.get tables id = .ok (some e) ∧ e.owner = tenant := by
  unfold sight
  cases Storage.get tables id with
  | error fault =>
    constructor
    · intro impossible
      cases impossible
    · rintro ⟨impossible, _⟩
      cases impossible
  | ok found =>
    rw [Except.ok.injEq]
    exact Entity.forOwner_eq_ok_iff

/-- Tables that keep a tenant apart from others. -/
structure Separate (parts : Parts Tables) (tenant : Owner) : Prop where
  refl : ∀ a, parts.Keeps a a
  trans : ∀ a b c, parts.Keeps a b → parts.Keeps b c → parts.Keeps a c
  load : ∀ a b id, parts.Agree a b → sight tenant a id = sight tenant b id
  find : ∀ a b key, parts.Agree a b → Storage.find a tenant key = Storage.find b tenant key
  list : ∀ a b filter, parts.Agree a b →
    Storage.list a (some tenant) filter = Storage.list b (some tenant) filter
  insert : ∀ a b e, parts.Agree a b → e.owner = tenant → parts.Unused a e.id →
    parts.Unused b e.id → Staged.Beside (parts.Moved (some e.id) a b)
      (fun answer => ∀ new, answer = .inserted new → new = e)
      (Storage.stageInsert a e) (Storage.stageInsert b e)
  save : ∀ a b e, parts.Agree a b → e.owner = tenant →
    Staged.Beside (parts.Moved none a b) (fun answer => answer = e.bumped)
      (Storage.stageSave a e) (Storage.stageSave b e)
  delete : ∀ a b id e, parts.Agree a b → sight tenant a id = .ok e →
    Staged.Beside (parts.Moved none a b) (fun _ => True)
      (Storage.stageDelete a id) (Storage.stageDelete b id)

end Parts

/-- Stores that look the same to a tenant, and to everyone else as they did in the beginning. Some
ids are still unused in both. -/
structure Beside (parts : Parts Tables) (start : Tables × Tables) (fresh : List EntityId)
    (a b : Store Tables) : Prop where
  gate : a.gate = b.gate
  agree : parts.Agree a.tables b.tables
  left : parts.Keeps start.1 a.tables
  right : parts.Keeps start.2 b.tables
  unused : ∀ id ∈ fresh, parts.Unused a.tables id ∧ parts.Unused b.tables id

section Commit

variable {parts : Parts Tables} {tenant : Owner} {start : Tables × Tables}
  {fresh later : List EntityId} {a b : Store Tables} {α : Type} {fits : α → Prop}
  {new : Option EntityId} {left right : Staged Tables α}

theorem Beside.fewer (beside : Beside parts start fresh a b) (fewer : later ⊆ fresh) :
    Beside parts start later a b :=
  ⟨beside.gate, beside.agree, beside.left, beside.right,
    fun id inside => beside.unused id (fewer inside)⟩

/-- A write that is staged in the same way is carried out in the same way. -/
theorem Beside.commit [Storage Tables] (separate : parts.Separate tenant)
    (beside : Beside parts start fresh a b)
    (staged : Staged.Beside (parts.Moved new a.tables b.tables) fits left right)
    (fewer : later ⊆ fresh) (apart : ∀ id ∈ later, new ≠ some id) :
    (a.commit left).1 = (b.commit right).1 ∧
      (∀ answer, (a.commit left).1 = .ok answer → fits answer) ∧
        Beside parts start later (a.commit left).2 (b.commit right).2 := by
  cases staged with
  | refused fault => exact ⟨rfl, fun _ done => (by cases done), beside.fewer fewer⟩
  | answered answer fit =>
    refine ⟨rfl, fun other done => ?_, beside.fewer fewer⟩
    obtain rfl := Except.ok.inj done
    exact fit
  | @ready x y call answer fit moved =>
    have asked : b.gate.rule b.gate.calls call = a.gate.rule a.gate.calls call := by
      rw [beside.gate]
    have gates : ({ a.gate with calls := call :: a.gate.calls } : Gate) =
        { b.gate with calls := call :: b.gate.calls } := by
      rw [beside.gate]
    cases verdict : a.gate.rule a.gate.calls call with
    | ok passed =>
      rw [verdict] at asked
      simp only [Store.commit, Gate.ask, verdict, asked]
      refine ⟨trivial, fun other done => ?_, gates, moved.agree, ?_, ?_, fun id inside => ?_⟩
      · obtain rfl := Except.ok.inj done
        exact fit
      · exact separate.trans _ _ _ beside.left moved.left
      · exact separate.trans _ _ _ beside.right moved.right
      · obtain ⟨unusedA, unusedB⟩ := beside.unused id (fewer inside)
        obtain ⟨keptA, keptB⟩ := moved.unused id (apart id inside)
        exact ⟨keptA unusedA, keptB unusedB⟩
    | error fault =>
      rw [verdict] at asked
      simp only [Store.commit, Gate.ask, verdict, asked]
      refine ⟨trivial, fun _ done => (by cases done), gates, beside.agree, beside.left,
        beside.right, fun id inside => beside.unused id (fewer inside)⟩

end Commit

end Store

end TenantWork
