import TenantWork.Proofs.Store.MirrorCalls
/-!
Columns with a limit. As long as fewer updates were asked for than a column can count, no snapshot
has a revision beyond the limit, and it makes no difference whether the gate looks for such numbers.
-/
namespace TenantWork.Store

def Gate.updates (gate : Gate) : Nat := gate.calls.countP fun call => call.kind == .update

theorem Gate.updates_ask (gate : Gate) (call : WriteCall) :
    (gate.ask call).2.updates = gate.updates + if call.kind = .update then 1 else 0 := by
  simp [updates, ask, List.countP_cons]

/-- No snapshot counts more updates than were asked for. -/
structure Counted (store : Store Memory) : Prop where
  stored : ∀ id e, store.tables.get id = some e → e.revision ≤ store.gate.updates
  asked : ∀ call ∈ store.gate.calls, call.entity.revision ≤ store.gate.updates

namespace Counted

variable {store : Store Memory}

theorem new (rule : List WriteCall → WriteCall → Except Error Unit) :
    Counted (Store.new ⟨rule, []⟩) := by
  constructor
  · intro id e found
    cases found
  · intro call inside
    cases inside

theorem commit {α : Type} (counted : Counted store) {staged : Staged Memory α}
    (ready : ∀ call tables answer, staged = .ready call tables answer →
      call.entity.revision ≤ (store.gate.ask call).2.updates ∧
      ∀ id e, tables.get id = some e → e.revision ≤ (store.gate.ask call).2.updates) :
    Counted (store.commit staged).2 := by
  cases staged with
  | refused fault => exact counted
  | answered answer => exact counted
  | ready call tables answer =>
    obtain ⟨bounded, later⟩ := ready call tables answer rfl
    have grown : store.gate.updates ≤ (store.gate.ask call).2.updates := by
      rw [Gate.updates_ask]
      exact Nat.le_add_right _ _
    have asked : ∀ other ∈ (store.gate.ask call).2.calls,
        other.entity.revision ≤ (store.gate.ask call).2.updates := by
      intro other inside
      rcases List.mem_cons.1 inside with rfl | before
      · exact bounded
      · exact Nat.le_trans (counted.asked other before) grown
    obtain ⟨_, passed⟩ | ⟨fault, _, refused⟩ := store.commit_ready call tables answer
    · rw [passed]
      exact ⟨later, asked⟩
    · rw [refused]
      exact ⟨fun id e found => Nat.le_trans (counted.stored id e found) grown, asked⟩

theorem insert (counted : Counted store) {e : Entity} (new : e.revision = 0) :
    Counted (store.insert e).2 := by
  refine counted.commit fun call tables answer staged => ?_
  simp only [Storage.stageInsert, Memory.stageInsert] at staged
  split at staged
  · cases staged
  split at staged
  · cases staged
  obtain ⟨rfl, rfl, rfl⟩ := Staged.ready.inj staged
  rw [Gate.updates_ask]
  refine ⟨by rw [new]; exact Nat.zero_le _, fun id a found => ?_⟩
  rw [Memory.get_claim, Memory.get_put] at found
  split at found
  · rw [← Option.some.inj found, new]
    exact Nat.zero_le _
  · exact counted.stored id a found

theorem save (counted : Counted store) (e : Entity) : Counted (store.save e).2 := by
  refine counted.commit fun call tables answer staged => ?_
  simp only [Storage.stageSave, Memory.stageSave] at staged
  split at staged
  · cases staged
  next stored there =>
    have bounded := counted.stored e.id stored there
    split at staged
    · cases staged
    split at staged
    · cases staged
    next current =>
      obtain ⟨rfl, rfl, rfl⟩ := Staged.ready.inj staged
      have raised : e.bumped.revision ≤ (store.gate.ask ⟨.update, e.bumped⟩).2.updates := by
        rw [Gate.updates_ask, if_pos rfl]
        show e.revision + 1 ≤ _
        omega
      refine ⟨raised, fun id a found => ?_⟩
      rw [Memory.get_put] at found
      split at found
      · rw [← Option.some.inj found]
        exact raised
      · rw [Gate.updates_ask]
        exact Nat.le_add_right_of_le (counted.stored id a found)

theorem delete (counted : Counted store) (id : EntityId) : Counted (store.delete id).2 := by
  refine counted.commit fun call tables answer staged => ?_
  simp only [Storage.stageDelete, Memory.stageDelete] at staged
  split at staged
  · cases staged
  next e there =>
    obtain ⟨rfl, rfl, rfl⟩ := Staged.ready.inj staged
    rw [Gate.updates_ask]
    refine ⟨counted.stored id e there, fun other a found => ?_⟩
    rw [Memory.get_release, Memory.get_remove] at found
    split at found
    · cases found
    · exact counted.stored other a found

end Counted

/-! ## Gates with and without the limit -/

/-- Two stores in memory, the gate of the first also shutting out large numbers. -/
structure Relaxed (limited plain : Store Memory) : Prop where
  tables : limited.tables = plain.tables
  calls : limited.gate.calls = plain.gate.calls
  rule : limited.gate.rule = Gate.limited plain.gate.rule

/-- The limit makes no difference to a call if all numbers fit. -/
theorem Relaxed.commit {α : Type} {limited plain : Store Memory} (relaxed : Relaxed limited plain)
    (staged : Staged Memory α)
    (fits : ∀ call ∈ (plain.commit staged).2.gate.calls, call.fits = true) :
    (limited.commit staged).1 = (plain.commit staged).1 ∧
      Relaxed (limited.commit staged).2 (plain.commit staged).2 := by
  cases staged with
  | refused fault => exact ⟨rfl, relaxed⟩
  | answered answer => exact ⟨rfl, relaxed⟩
  | ready call tables answer =>
    have asked (small : ∀ other ∈ call :: plain.gate.calls, other.fits = true) :
        limited.gate.rule limited.gate.calls call = plain.gate.rule plain.gate.calls call := by
      obtain ⟨own, before⟩ := List.forall_mem_cons.1 small
      rw [relaxed.rule, Gate.limited, if_pos own, relaxed.calls, List.filter_eq_self.2 before]
    have counted : call :: limited.gate.calls = call :: plain.gate.calls := by
      rw [relaxed.calls]
    obtain ⟨verdict, passed⟩ | ⟨fault, verdict, refused⟩ := plain.commit_ready call tables answer
    · rw [passed] at fits ⊢
      rw [← asked fits] at verdict
      rw [Store.commit, Gate.ask, verdict]
      exact ⟨rfl, rfl, counted, relaxed.rule⟩
    · rw [refused] at fits ⊢
      rw [← asked fits] at verdict
      rw [Store.commit, Gate.ask, verdict]
      exact ⟨rfl, relaxed.tables, counted, relaxed.rule⟩

end TenantWork.Store
