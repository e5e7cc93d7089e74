import TenantWork.Proofs.Store.Decoding
/-!
Listings of a database beside single reads. A listing picks and orders the rows by the texts in
their columns, a single read goes by what the columns are read as. What is listed is what is read,
once each. What is read is listed if the kind and the status that are asked for stand in the row by
name, and the creations follow each other if they stand in the rows as they are written.
-/
namespace TenantWork

theorem Entity.create_storable {id : EntityId} {owner : Owner} {kind : Kind} {key : Option String}
    {now : Time.Instant} (inRange : Time.Rfc3339.InRange now) :
    (create id owner kind .null key now).Storable :=
  ⟨create_regular _ _ _ _ _ inRange, readable_of_null rfl rfl⟩

namespace Store

namespace Row

/-- The columns that a filter looks at hold the names of what they are read as. -/
structure Spells (row : Row) (filter : Filter) (e : Entity) : Prop where
  kind : filter.kind.isSome → row .kind = .text e.kind.name
  status : filter.status.isSome → row .status = .text e.status.name

variable {row : Row} {e : Entity}

theorem Denotes.kind_of_name (denotes : row.Denotes e) {kind : Kind}
    (cell : row .kind = .text kind.name) : e.kind = kind := by
  obtain ⟨text, there, read⟩ := denotes.kind
  obtain rfl := Cell.text.inj (cell.symm.trans there)
  rw [readKind, Kind.ofText?_name] at read
  exact (Except.ok.inj read).symm

theorem Denotes.status_of_name (denotes : row.Denotes e) {status : Status}
    (cell : row .status = .text status.name) : e.status = status := by
  obtain ⟨text, there, read⟩ := denotes.status
  obtain rfl := Cell.text.inj (cell.symm.trans there)
  unfold readStatus at read
  rw [Status.ofText?_name] at read
  dsimp only at read
  split at read
  · exact (Except.ok.inj read).symm
  · cases read

theorem matchesText_iff {α : Type} [DecidableEq α] {name : α → String} {column : Column} {value : α}
    (reads : ∀ other, row column = .text (name other) → value = other) (wanted : Option α) :
    Database.matchesText row column (wanted.map name) = true ↔
      wanted.all (value == ·) = true ∧ (wanted.isSome → row column = .text (name value)) := by
  cases wanted with
  | none => simp [Database.matchesText]
  | some other =>
    simp only [Database.matchesText, Option.map_some, Option.all_some, beq_iff_eq,
      Option.isSome_some, true_implies]
    constructor
    · intro cell
      obtain rfl := reads other cell
      exact ⟨rfl, cell⟩
    · rintro ⟨rfl, cell⟩
      exact cell

/-- A row is picked if what it is read as is asked for and spelled out. -/
theorem Denotes.chosen_iff (denotes : row.Denotes e) (owner : Option Owner) (filter : Filter) :
    (Database.matchesText row .owner (owner.map Owner.name) &&
        Database.matchesText row .kind (filter.kind.map Kind.name) &&
        Database.matchesText row .status (filter.status.map Status.name)) = true ↔
      owner.all (e.owner == ·) = true ∧ filter.accepts e = true ∧ row.Spells filter e := by
  have owners (other : Owner) (cell : row .owner = .text other.name) : e.owner = other :=
    Cell.text_owner.1 (denotes.owner.symm.trans cell)
  rw [Bool.and_eq_true, Bool.and_eq_true, matchesText_iff owners owner,
    matchesText_iff (fun _ => denotes.kind_of_name) filter.kind,
    matchesText_iff (fun _ => denotes.status_of_name) filter.status, Filter.accepts,
    Bool.and_eq_true]
  constructor
  · rintro ⟨⟨⟨owned, _⟩, kind, spelledKind⟩, status, spelledStatus⟩
    exact ⟨owned, ⟨kind, status⟩, spelledKind, spelledStatus⟩
  · rintro ⟨owned, ⟨kind, status⟩, spelledKind, spelledStatus⟩
    exact ⟨⟨⟨owned, fun _ => denotes.owner⟩, kind, spelledKind⟩, status, spelledStatus⟩

/-- The row of a snapshot with its kind and its creation in another spelling. -/
def respelled (kind created : String) (e : Entity) : Row
  | .kind => .text kind
  | .createdAt => .text created
  | column => ofEntity e column

theorem toEntity_respelled {kind created : String} (storable : e.Storable)
    (kindRead : readKind kind = .ok e.kind)
    (createdRead : readTime .createdAt created = .ok e.createdAt) :
    (respelled kind created e).toEntity = .ok e :=
  Denotes.toEntity { denotes_of_toEntity (toEntity_ofEntity storable) with
    kind := ⟨kind, rfl, kindRead⟩
    createdAt := ⟨created, rfl, createdRead⟩ }

theorem map_toEntity {rows : List Row} {found : List Entity}
    (read : rows.mapM Row.toEntity = .ok found) : rows.map Row.toEntity = found.map .ok := by
  induction rows generalizing found with
  | nil =>
    obtain rfl := Except.ok.inj read
    rfl
  | cons row rest ih =>
    rw [List.mapM_cons] at read
    obtain ⟨e, first, read⟩ := bind_eq_ok read
    obtain ⟨more, others, read⟩ := bind_eq_ok read
    obtain rfl := Except.ok.inj read
    rw [List.map_cons, List.map_cons, first, ih others]

theorem mem_of_mapM {rows : List Row} {found : List Entity}
    (read : rows.mapM Row.toEntity = .ok found) :
    e ∈ found ↔ ∃ row ∈ rows, row.toEntity = .ok e := by
  rw [← List.mem_map_of_injective (fun _ _ => Except.ok.inj), ← map_toEntity read, List.mem_map]

/-- What holds of any two rows in their order holds of what they are read as. -/
theorem pairwise_of_mapM {rows : List Row} {found : List Entity} {before : Entity → Entity → Prop}
    (read : rows.mapM Row.toEntity = .ok found)
    (ordered : rows.Pairwise fun x y =>
      ∀ a b, x.toEntity = .ok a → y.toEntity = .ok b → before a b) :
    found.Pairwise before := by
  let reads (x y : Except QueryFault Entity) : Prop := ∀ a b, x = .ok a → y = .ok b → before a b
  have mapped : (rows.map Row.toEntity).Pairwise reads := List.pairwise_map.2 ordered
  rw [map_toEntity read, List.pairwise_map] at mapped
  exact mapped.imp fun {a b} holds => holds a b rfl rfl

end Row

namespace Database

variable {database : Database} {e : Entity} {owner : Option Owner} {filter : Filter}
  {found : List Entity}

theorem get_eq_some_iff :
    database.get e.id = .ok (some e) ↔ ∃ row ∈ database.rows, row.toEntity = .ok e := by
  constructor
  · intro got
    obtain ⟨row, there, read, _⟩ := row_of_get got
    exact ⟨row, (row?_eq_some_iff.1 there).1, read⟩
  · rintro ⟨row, inside, read⟩
    have there := row?_eq_some_iff.2 ⟨inside, (Row.holds_of_toEntity read).id⟩
    rw [Database.get, there, Database.read, read]

theorem eq_of_reads {row other : Row} {a : Entity} (inside : row ∈ database.rows)
    (insideOther : other ∈ database.rows) (read : row.toEntity = .ok e)
    (readOther : other.toEntity = .ok a) (same : e.id = a.id) : row = other := by
  refine row_unique inside insideOther (Row.holds_of_toEntity read).id ?_
  rw [same]
  exact (Row.holds_of_toEntity readOther).id

/-- The row under the id of a snapshot spells out what a filter looks at. -/
def Spells (database : Database) (filter : Filter) (e : Entity) : Prop :=
  ∀ row, database.row? (.text e.id.text) = some row → row.Spells filter e

/-- The creation of a snapshot stands in its row as it is written. -/
def DatedInFull (database : Database) (e : Entity) : Prop :=
  ∀ row, database.row? (.text e.id.text) = some row →
    row .createdAt = .text (Time.Rfc3339.writeNanos e.createdAt)

theorem list_eq_ok : database.list owner filter = .ok found ↔
    ((database.rows.filter fun row => matchesText row .owner (owner.map Owner.name) &&
      matchesText row .kind (filter.kind.map Kind.name) &&
      matchesText row .status (filter.status.map Status.name)).mergeSort listedBefore).mapM
        Row.toEntity = .ok found := by
  unfold Database.list
  dsimp only
  split
  next entities read => rw [read, Except.ok.injEq, Except.ok.injEq]
  next fault read =>
    rw [read]
    exact ⟨fun impossible => (nomatch impossible), fun impossible => (nomatch impossible)⟩

/-- What a listing holds: what is read under its id, if it is asked for and spelled out. -/
theorem mem_list_iff (listed : database.list owner filter = .ok found) :
    e ∈ found ↔ database.get e.id = .ok (some e) ∧ owner.all (e.owner == ·) = true ∧
      filter.accepts e = true ∧ database.Spells filter e := by
  rw [Row.mem_of_mapM (list_eq_ok.1 listed), get_eq_some_iff]
  simp only [List.mem_mergeSort, List.mem_filter]
  constructor
  · rintro ⟨row, ⟨inside, chosen⟩, read⟩
    obtain ⟨owned, accepted, spells⟩ :=
      ((Row.denotes_of_toEntity read).chosen_iff owner filter).1 chosen
    refine ⟨⟨row, inside, read⟩, owned, accepted, fun other there => ?_⟩
    obtain ⟨insideOther, named⟩ := row?_eq_some_iff.1 there
    rwa [row_unique insideOther inside named (Row.holds_of_toEntity read).id]
  · rintro ⟨⟨row, inside, read⟩, owned, accepted, spells⟩
    have there := row?_eq_some_iff.2 ⟨inside, (Row.holds_of_toEntity read).id⟩
    exact ⟨row, ⟨inside, ((Row.denotes_of_toEntity read).chosen_iff owner filter).2
      ⟨owned, accepted, spells row there⟩⟩, read⟩

/-- The rows of a listing stand by the texts of their creations, then by their ids. -/
theorem list_placed (listed : database.list owner filter = .ok found) :
    found.Pairwise fun a b => ∀ x ∈ database.rows, ∀ y ∈ database.rows, x.toEntity = .ok a →
      y.toEntity = .ok b → x.place < y.place := by
  have read := list_eq_ok.1 listed
  generalize picked : database.rows.filter _ = chosen at read
  have within (row : Row) (inside : row ∈ chosen) : row ∈ database.rows := by
    rw [← picked] at inside
    exact (List.mem_filter.1 inside).1
  have readable : ∀ row ∈ chosen, ∃ e, row.toEntity = .ok e := fun row inside =>
    (mapM_toEntity_iff _).1 ⟨found, read⟩ row (List.mem_mergeSort.2 inside)
  have placed (row : Row) (inside : row ∈ chosen) : row.Placed := by
    obtain ⟨e, reads⟩ := readable row inside
    exact (Row.holds_of_toEntity reads).placed
  have apart : (chosen.mergeSort listedBefore).Pairwise fun x y => x .id ≠ y .id := by
    refine ((List.mergeSort_perm chosen listedBefore).symm.pairwise ?_ fun differ => differ.symm)
    rw [← picked]
    refine (List.Pairwise.filter _ database.ids_distinct).imp_of_mem ?_
    intro x y insideX _ distinct same
    obtain ⟨⟨id, cell⟩, _⟩ := placed x (picked ▸ insideX)
    rw [distinct same] at cell
    cases cell
  refine Row.pairwise_of_mapM read
    (((Row.sorted_place placed).and apart).imp_of_mem ?_)
  intro x y insideX insideY both a b readX readY u insideU v insideV readU readV
  have inX := List.mem_mergeSort.1 insideX
  have inY := List.mem_mergeSort.1 insideY
  obtain rfl : u = x := eq_of_reads insideU (within x inX) readU readX rfl
  obtain rfl : v = y := eq_of_reads insideV (within y inY) readV readY rfl
  exact lt_of_le_of_ne both.1 fun same =>
    both.2 (Row.id_of_place (placed u inX) (placed v inY) same)

theorem reads_of_list (listed : database.list owner filter = .ok found) (inside : e ∈ found) :
    ∃ row ∈ database.rows, row.toEntity = .ok e :=
  get_eq_some_iff.1 ((mem_list_iff listed).1 inside).1

theorem list_distinct (listed : database.list owner filter = .ok found) :
    (found.map Entity.id).Nodup := by
  refine List.pairwise_map.2 ((list_placed listed).imp_of_mem ?_)
  intro a b insideA insideB before same
  obtain ⟨x, insideX, readX⟩ := reads_of_list listed insideA
  obtain ⟨y, insideY, readY⟩ := reads_of_list listed insideB
  obtain rfl : x = y := eq_of_reads insideX insideY readX readY same
  exact lt_irrefl _ (before x insideX x insideY readX readY)

/-- Creations that stand in full compare as the instants they are read as. -/
theorem createdAt_of_place {x y : Row} {a b : Entity} (insideX : x ∈ database.rows)
    (insideY : y ∈ database.rows) (readX : x.toEntity = .ok a) (readY : y.toEntity = .ok b)
    (before : x.place < y.place) (fullA : database.DatedInFull a) (fullB : database.DatedInFull b) :
    a.createdAt < b.createdAt ∨ a.createdAt = b.createdAt ∧ a.id.text < b.id.text := by
  have dated {row : Row} {e : Entity} (inside : row ∈ database.rows) (read : row.toEntity = .ok e)
      (full : database.DatedInFull e) :
      Time.Rfc3339.InRange e.createdAt ∧
        row.place = toLex (Time.Rfc3339.writeNanos e.createdAt, e.id.text) := by
    have holds := Row.holds_of_toEntity read
    have cell := full row (row?_eq_some_iff.2 ⟨inside, holds.id⟩)
    obtain ⟨text, there, reads⟩ := (Row.denotes_of_toEntity read).createdAt
    obtain rfl := Cell.text.inj (cell.symm.trans there)
    exact ⟨Time.Rfc3339.inRange_of_read (Row.readTime_eq_ok reads), by rw [Row.place, cell, holds.id]⟩
  obtain ⟨rangeA, placeA⟩ := dated insideX readX fullA
  obtain ⟨rangeB, placeB⟩ := dated insideY readY fullB
  rw [placeA, placeB, Prod.Lex.lt_iff] at before
  obtain earlier | ⟨texts, ids⟩ := before
  · exact .inl ((Time.Rfc3339.writeNanos_lt rangeA rangeB).1 earlier)
  · exact .inr ⟨(Time.Rfc3339.writeNanos_inj rangeA rangeB).1 texts, ids⟩

/-- On a database in which every row is read, a listing answers with what single reads give for the
owner and the filter, each once. It leaves out exactly what is not spelled out, and what was created
earlier comes first where creations stand in full. -/
theorem lists_what_is_read {database : Database} (legible : database.Legible) (owner : Option Owner)
    (filter : Filter) :
    ∃ found, database.list owner filter = .ok found ∧ (found.map Entity.id).Nodup ∧
      (∀ e ∈ found, database.get e.id = .ok (some e) ∧ owner.all (e.owner == ·) = true ∧
        filter.accepts e = true) ∧
      (∀ e, database.get e.id = .ok (some e) → owner.all (e.owner == ·) = true →
        filter.accepts e = true → (e ∈ found ↔ database.Spells filter e)) ∧
      found.Pairwise fun a b => database.DatedInFull a → database.DatedInFull b →
        a.createdAt < b.createdAt ∨ a.createdAt = b.createdAt ∧ a.id.text < b.id.text := by
  obtain ⟨found, listed⟩ := legible.list owner filter
  refine ⟨found, listed, list_distinct listed, fun e inside => ?_,
    fun e got owned accepted => ?_, ?_⟩
  · obtain ⟨got, owned, accepted, _⟩ := (mem_list_iff listed).1 inside
    exact ⟨got, owned, accepted⟩
  · rw [mem_list_iff listed]
    exact ⟨fun all => all.2.2.2, fun spells => ⟨got, owned, accepted, spells⟩⟩
  · -- Rows are ordered by text; the order carries over where texts are those that are written.
    refine (list_placed listed).imp_of_mem fun {a b} insideA insideB before fullA fullB => ?_
    obtain ⟨x, insideX, readX⟩ := reads_of_list listed insideA
    obtain ⟨y, insideY, readY⟩ := reads_of_list listed insideB
    exact createdAt_of_place insideX insideY readX readY
      (before x insideX y insideY readX readY) fullA fullB

theorem legible_pair (database : Database) {x y : Row} {a b : Entity} (first : x.toEntity = .ok a)
    (second : y.toEntity = .ok b) (rows : database.rows = [x, y]) :
    database.Legible ∧ database.get a.id = .ok (some a) ∧ database.get b.id = .ok (some b) := by
  refine ⟨fun row inside => ?_, get_eq_some_iff.2 ⟨x, ?_, first⟩, get_eq_some_iff.2 ⟨y, ?_, second⟩⟩
  · rw [rows, List.mem_pair] at inside
    obtain rfl | rfl := inside
    · exact ⟨a, first⟩
    · exact ⟨b, second⟩
  · rw [rows]
    exact List.mem_cons_self
  · rw [rows]
    exact List.mem_cons_of_mem _ List.mem_cons_self

/-- A job of another program, its kind in capitals and its creation with an offset, is listed beside
one of the service. -/
theorem lists_job_of_other_program :
    let owner : Owner := ⟨"u", by decide⟩
    let earlier := Entity.create ⟨"a"⟩ owner .job .null none .epoch
    let later := Entity.create ⟨"b"⟩ owner .job .null none (Time.Instant.epoch.add 1000000000)
    let loose := Row.respelled "Job" "1970-01-01T01:00:00+01:00" earlier
    let database : Database := ⟨[loose, Row.ofEntity later], [], by decide, .nil⟩
    database.Legible ∧ ∃ found, database.list (some owner) Filter.all = .ok found ∧
      earlier ∈ found ∧ later ∈ found := by
  intro owner earlier later loose database
  have first : loose.toEntity = .ok earlier :=
    Row.toEntity_respelled (Entity.create_storable Time.Rfc3339.inRange_epoch) (by decide)
      (by decide +kernel)
  have second : (Row.ofEntity later).toEntity = .ok later :=
    Row.toEntity_ofEntity (Entity.create_storable ⟨by decide, by decide⟩)
  obtain ⟨legible, gotFirst, gotSecond⟩ :=
    legible_pair database first second rfl
  obtain ⟨found, listed, _, _, complete, _⟩ := lists_what_is_read legible (some owner) Filter.all
  have spells (e : Entity) : database.Spells Filter.all e := fun row _ =>
    ⟨fun asked => (nomatch asked), fun asked => (nomatch asked)⟩
  exact ⟨legible, found, listed, (complete earlier gotFirst (by decide) rfl).2 (spells _),
    (complete later gotSecond (by decide) rfl).2 (spells _)⟩

/-- Such a job is read like any other, but it is not listed among the jobs, and it is listed after
one that was created later. -/
theorem job_of_other_program_listed_late_or_not_at_all :
    let owner : Owner := ⟨"u", by decide⟩
    let earlier := Entity.create ⟨"a"⟩ owner .job .null none .epoch
    let later := Entity.create ⟨"b"⟩ owner .job .null none (Time.Instant.epoch.add 1000000000)
    let loose := Row.respelled "Job" "1970-01-01T01:00:00+01:00" earlier
    let database : Database := ⟨[loose, Row.ofEntity later], [], by decide, .nil⟩
    database.Legible ∧ database.get earlier.id = .ok (some earlier) ∧
      database.get later.id = .ok (some later) ∧ earlier.createdAt < later.createdAt ∧
      Filter.accepts ⟨some .job, none⟩ earlier = true ∧
      database.list (some owner) Filter.all = .ok [later, earlier] ∧
      database.list (some owner) ⟨some .job, none⟩ = .ok [later] := by
  intro owner earlier later loose database
  have first : loose.toEntity = .ok earlier :=
    Row.toEntity_respelled (Entity.create_storable Time.Rfc3339.inRange_epoch) (by decide)
      (by decide +kernel)
  have second : (Row.ofEntity later).toEntity = .ok later :=
    Row.toEntity_ofEntity (Entity.create_storable ⟨by decide, by decide⟩)
  obtain ⟨legible, gotFirst, gotSecond⟩ :=
    legible_pair database first second rfl
  have behind : listedBefore loose (Row.ofEntity later) = false := by decide +kernel
  refine ⟨legible, gotFirst, gotSecond, by decide, rfl, ?_, ?_⟩
  · have sorted : [loose, Row.ofEntity later].mergeSort listedBefore =
        [Row.ofEntity later, loose] := by
      simp [List.mergeSort, List.MergeSort.Internal.splitInTwo, behind]
    refine list_eq_ok.2 (Eq.trans (congrArg (List.mapM Row.toEntity) sorted) ?_)
    rw [List.mapM_cons, List.mapM_cons, first, second]
    rfl
  · refine list_eq_ok.2 (Eq.trans (congrArg (List.mapM Row.toEntity)
      (List.mergeSort_singleton (Row.ofEntity later))) ?_)
    rw [List.mapM_cons, second]
    rfl

end Database

end Store

end TenantWork
