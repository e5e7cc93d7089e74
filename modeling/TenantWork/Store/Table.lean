/-!
Finite maps. A table is a list of pairs in which no key stands twice; its meaning is `find?`, and
each operation comes with its law for it.
-/
namespace TenantWork.Store

structure Table (κ α : Type) where
  entries : List (κ × α)
  distinct : (entries.map Prod.fst).Nodup

namespace Table

variable {κ α : Type} [DecidableEq κ]

def empty : Table κ α := ⟨[], List.nodup_nil⟩

def find? (table : Table κ α) (key : κ) : Option α :=
  (table.entries.find? fun entry => entry.1 == key).map Prod.snd

def values (table : Table κ α) : List α := table.entries.map Prod.snd

def erase (table : Table κ α) (key : κ) : Table κ α where
  entries := table.entries.filter fun entry => entry.1 != key
  distinct := table.distinct.sublist (List.filter_sublist.map Prod.fst)

def insert (table : Table κ α) (key : κ) (value : α) : Table κ α where
  entries := (key, value) :: (table.erase key).entries
  distinct := by
    refine List.nodup_cons.2 ⟨?_, (table.erase key).distinct⟩
    simp [erase]

theorem find?_erase (table : Table κ α) (key other : κ) :
    (table.erase key).find? other = if other = key then none else table.find? other := by
  simp only [find?, erase]
  induction table.entries with
  | nil => simp
  | cons entry rest ih =>
    by_cases same : entry.1 = key <;> by_cases wanted : entry.1 = other <;> grind

theorem find?_insert (table : Table κ α) (key other : κ) (value : α) :
    (table.insert key value).find? other = if other = key then some value else table.find? other := by
  have erased := find?_erase table key other
  simp only [find?] at erased
  by_cases same : key = other
  · simp [find?, insert, same]
  · simp [find?, insert, same, erased, Ne.symm same]

theorem mem_entries_iff (table : Table κ α) (key : κ) (value : α) :
    (key, value) ∈ table.entries ↔ table.find? key = some value := by
  have distinct := table.distinct
  simp only [find?]
  generalize table.entries = entries at distinct
  induction entries with
  | nil => simp
  | cons entry rest ih =>
    have apart := List.nodup_cons.1 distinct
    by_cases same : entry.1 = key
    · subst same
      have : (entry.1, value) ∉ rest := fun inside => apart.1 (List.mem_map.2 ⟨_, inside, rfl⟩)
      simp [this, Prod.ext_iff, eq_comm]
    · have : (key, value) ≠ entry := fun e => same (e ▸ rfl)
      simp [same, this, ih apart.2]

end Table

end TenantWork.Store
