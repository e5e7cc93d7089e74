import Mathlib.Data.List.Pairwise
import Mathlib.Data.Prod.Lex
import Mathlib.Data.String.Basic
import TenantWork.Proofs.Json.Reading
import TenantWork.Store.Database
/-!
Rows of a database as statements find them, also rows of other programs. A row that decodes holds
texts wherever a call looks before it decodes; an id leads to one row and an owner's key to one
entry; listings stand in the order of the texts.
-/
namespace TenantWork.Store

/-! ## Rows -/

theorem Cell.readText_eq_ok {cell : Cell} {index : Nat} {name value : String}
    (read : cell.readText index name = .ok value) : cell = .text value := by
  unfold readText at read
  split at read
  next text =>
    obtain rfl := Except.ok.inj read
    rfl
  next => cases read

namespace Row

theorem text_eq_ok {row : Row} {column : Column} {value : String}
    (read : row.text column = .ok value) : row column = .text value := Cell.readText_eq_ok read

/-- The columns that calls look at before a row is decoded. -/
structure Holds (row : Row) (e : Entity) : Prop where
  id : row .id = .text e.id.text
  owner : row .owner = .text e.owner.name
  status : ∃ text, row .status = .text text
  createdAt : ∃ text, row .createdAt = .text text

theorem holds_of_toEntity {row : Row} {e : Entity} (read : row.toEntity = .ok e) : row.Holds e := by
  unfold toEntity at read
  obtain ⟨owner, ownerCell, read⟩ := bind_eq_ok read
  iterate 2 obtain ⟨_, _, read⟩ := bind_eq_ok read
  obtain ⟨status, statusCell, read⟩ := bind_eq_ok read
  obtain ⟨_, _, read⟩ := bind_eq_ok read
  obtain ⟨created, createdCell, read⟩ := bind_eq_ok read
  iterate 5 obtain ⟨_, _, read⟩ := bind_eq_ok read
  obtain ⟨id, idCell, read⟩ := bind_eq_ok read
  obtain ⟨named, ownerRead, read⟩ := bind_eq_ok read
  iterate 12 obtain ⟨_, _, read⟩ := bind_eq_ok read
  obtain rfl := Except.ok.inj read
  have name : named.name = owner := by
    unfold readOwner at ownerRead
    split at ownerRead
    · obtain rfl := Except.ok.inj ownerRead
      rfl
    · cases ownerRead
  refine ⟨text_eq_ok idCell, ?_, ⟨status, text_eq_ok statusCell⟩, ⟨created, text_eq_ok createdCell⟩⟩
  show row .owner = .text named.name
  rw [name]
  exact text_eq_ok ownerCell

/-! ## The order of listings -/

/-- Where a row stands in a listing: by the text of its creation, then by its id. -/
def place (row : Row) : String ×ₗ String :=
  let letters : Cell → String
    | .text value => value
    | _ => ""
  toLex (letters (row .createdAt), letters (row .id))

/-- A row with texts where listings look for its place. -/
structure Placed (row : Row) : Prop where
  id : ∃ id : EntityId, row .id = .text id.text
  createdAt : ∃ text, row .createdAt = .text text

theorem Holds.placed {row : Row} {e : Entity} (holds : row.Holds e) : row.Placed :=
  ⟨⟨e.id, holds.id⟩, holds.createdAt⟩

theorem placed_ofEntity (e : Entity) : (ofEntity e).Placed := ⟨⟨e.id, rfl⟩, ⟨_, rfl⟩⟩

theorem listedBefore_place {a b : Row} (placedA : a.Placed) (placedB : b.Placed) :
    Database.listedBefore a b = decide (a.place ≤ b.place) := by
  obtain ⟨⟨idA, idCellA⟩, ⟨createdA, createdCellA⟩⟩ := placedA
  obtain ⟨⟨idB, idCellB⟩, ⟨createdB, createdCellB⟩⟩ := placedB
  refine Bool.eq_iff_iff.2 ?_
  simp only [Database.listedBefore, place, idCellA, idCellB, createdCellA, createdCellB, Cell.before,
    Bool.or_eq_true, Bool.and_eq_true, decide_eq_true_eq, beq_iff_eq, Bool.not_eq_true',
    decide_eq_false_iff_not, Cell.text.injEq, Prod.Lex.le_iff, ofLex_toLex, not_lt]

theorem id_of_place {a b : Row} (placedA : a.Placed) (placedB : b.Placed)
    (same : a.place = b.place) : a .id = b .id := by
  obtain ⟨⟨idA, idCellA⟩, _⟩ := placedA
  obtain ⟨⟨idB, idCellB⟩, _⟩ := placedB
  have texts : idA.text = idB.text := by
    have second := congrArg (fun pair => (ofLex pair).2) same
    simpa only [place, idCellA, idCellB, ofLex_toLex] using second
  rw [idCellA, idCellB, texts]

theorem sorted_place {rows : List Row} (placed : ∀ row ∈ rows, row.Placed) :
    (rows.mergeSort Database.listedBefore).Pairwise fun x y => x.place ≤ y.place := by
  let ordered (x y : Row) : Bool := decide (x.place ≤ y.place)
  have byPlace : rows.mergeSort Database.listedBefore = rows.mergeSort ordered := by
    have agrees (x : Row) (insideX : x ∈ rows) (y : Row) (insideY : y ∈ rows) :
        Database.listedBefore x y = ordered (id x) (id y) :=
      listedBefore_place (placed x insideX) (placed y insideY)
    have mapped := List.map_mergeSort agrees
    rwa [List.map_id, List.map_id] at mapped
  have trans (x y z : Row) (first : ordered x y = true) (second : ordered y z = true) :
      ordered x z = true :=
    decide_eq_true (le_trans (of_decide_eq_true first) (of_decide_eq_true second))
  have total (x y : Row) : (ordered x y || ordered y x) = true := by
    rw [Bool.or_eq_true, decide_eq_true_eq, decide_eq_true_eq]
    exact le_total x.place y.place
  rw [byPlace]
  exact (List.pairwise_mergeSort trans total _).imp of_decide_eq_true

/-- Rows with ids of their own are listed in one order. -/
theorem mergeSort_of_perm {a b : List Row} (perm : a.Perm b) (placed : ∀ row ∈ a, row.Placed)
    (distinct : ∀ x ∈ a, ∀ y ∈ a, x .id = y .id → x = y) :
    a.mergeSort Database.listedBefore = b.mergeSort Database.listedBefore := by
  have placedB (row : Row) (inside : row ∈ b) : row.Placed := placed row (perm.mem_iff.2 inside)
  refine List.Perm.eq_of_pairwise (fun x y insideX insideY before after => ?_)
    (sorted_place placed) (sorted_place placedB)
    (((List.mergeSort_perm _ _).trans perm).trans (List.mergeSort_perm _ _).symm)
  have inA := List.mem_mergeSort.1 insideX
  have inB := perm.mem_iff.2 (List.mem_mergeSort.1 insideY)
  exact distinct x inA y inB (id_of_place (placed x inA) (placed y inB) (le_antisymm before after))

end Row

/-! ## Looking up -/

/-- Of members that are told apart by a relation, no two are related. -/
theorem eq_of_pairwise_not {α : Type} {same : α → α → Prop} {l : List α} {x y : α}
    (symm : ∀ a b, same a b → same b a) (apart : l.Pairwise fun a b => ¬same a b) (insideX : x ∈ l)
    (insideY : y ∈ l) (related : same x y) : x = y := by
  have : Std.Symm fun a b => ¬same a b := ⟨fun a b no yes => no (symm b a yes)⟩
  by_contra differ
  exact apart.forall insideX insideY differ related

namespace Database

variable {database : Database}

theorem row_unique {x y : Row} {text : String} (insideX : x ∈ database.rows)
    (insideY : y ∈ database.rows) (namedX : x .id = .text text) (namedY : y .id = .text text) :
    x = y := by
  have apart : database.rows.Pairwise fun a b => ¬(a .id = .text text ∧ b .id = .text text) := by
    refine database.ids_distinct.imp fun {a b} distinct named => ?_
    have absent := distinct (named.1.trans named.2.symm)
    rw [named.1] at absent
    cases absent
  exact eq_of_pairwise_not (fun _ _ => And.symm) apart insideX insideY ⟨namedX, namedY⟩

theorem row?_eq_some_iff {text : String} {row : Row} :
    database.row? (.text text) = some row ↔ row ∈ database.rows ∧ row .id = .text text := by
  rw [Database.row?, if_neg (by simp)]
  constructor
  · intro found
    have named := List.find?_some found
    exact ⟨List.mem_of_find?_eq_some found, eq_of_beq named⟩
  · rintro ⟨inside, named⟩
    cases found : database.rows.find? fun row => row .id == .text text with
    | none => exact absurd (beq_iff_eq.2 named) (List.find?_eq_none.1 found row inside)
    | some other =>
      have same := List.find?_some found
      rw [row_unique (List.mem_of_find?_eq_some found) inside (eq_of_beq same) named]

theorem keyRow?_eq_some_iff {owner key : Cell} {entry : KeyRow} :
    database.keyRow? owner key = some entry ↔
      entry ∈ database.keys ∧ entry.owner = owner ∧ entry.key = key := by
  rw [Database.keyRow?]
  constructor
  · intro found
    have fits := List.find?_some found
    rw [Bool.and_eq_true, beq_iff_eq, beq_iff_eq] at fits
    exact ⟨List.mem_of_find?_eq_some found, fits⟩
  · rintro ⟨inside, fits⟩
    cases found : database.keys.find? fun entry => entry.owner == owner && entry.key == key with
    | none => exact absurd (by simp [fits]) (List.find?_eq_none.1 found entry inside)
    | some other =>
      have same := List.find?_some found
      rw [Bool.and_eq_true, beq_iff_eq, beq_iff_eq] at same
      have apart : database.keys.Pairwise fun a b => ¬(a.owner = b.owner ∧ a.key = b.key) :=
        database.keys_distinct.imp And.left
      rw [eq_of_pairwise_not (fun _ _ both => ⟨both.1.symm, both.2.symm⟩) apart
        (List.mem_of_find?_eq_some found) inside
        ⟨same.1.trans fits.1.symm, same.2.trans fits.2.symm⟩]

/-! ## Inserting -/

theorem insertRow_ofEntity (database : Database) {e : Entity}
    (unused : ∀ row ∈ database.rows, row .id ≠ .text e.id.text) :
    ∃ after, database.insertRow (Row.ofEntity e) = .ok after ∧ after.keys = database.keys ∧
      after.rows = database.rows ++ [Row.ofEntity e] := by
  have filled : (Column.all.find? fun column => column.isRequired &&
      Row.ofEntity e column == .null) = none := by
    refine List.find?_eq_none.2 fun column _ => ?_
    cases column <;> simp [Column.isRequired, Row.ofEntity]
  have free : ∀ other ∈ database.rows, other .id = Row.ofEntity e .id → other .id = .null :=
    fun other inside same => absurd same (unused other inside)
  rw [Database.insertRow, filled]
  dsimp only
  rw [dif_pos free]
  exact ⟨_, rfl, rfl, rfl⟩

theorem insertKey_free (database : Database) (entry : KeyRow)
    (free : ∀ other ∈ database.keys, ¬(other.owner = entry.owner ∧ other.key = entry.key) ∧
      other.entity ≠ entry.entity) :
    ∃ after, database.insertKey entry = .ok after ∧ after.rows = database.rows ∧
      after.keys = database.keys ++ [entry] := by
  rw [Database.insertKey, dif_pos free]
  exact ⟨_, rfl, rfl, rfl⟩

end Database

end TenantWork.Store
