import TenantWork.Proofs.Schedule.Lockstep
/-!
One program in two worlds. The worlds may answer a request differently, as long as the program goes
on in the same way; then it ends with the same value in both.
-/
namespace TenantWork.Service

open Store (Storage)

namespace Program

variable {Tables : Type} [Storage Tables] {α β : Type}

/-- The replies of both worlds lead on to the same program, again and again to the end. -/
def Paired (client : Client) (ends : α → World Tables → World Tables → Prop) :
    Nat → World Tables → World Tables → Program α → Prop
  | _, a, b, .done value => ends value a b
  | n, a, b, .ask request next =>
    next ((a.seenBy client n).answer request).1 = next ((b.seenBy client n).answer request).1 ∧
      (next ((a.seenBy client n).answer request).1).Paired client ends (n + 1)
        ((a.seenBy client n).answer request).2 ((b.seenBy client n).answer request).2

variable {client : Client} {n : Nat} {a b : World Tables}
  {ends : α → World Tables → World Tables → Prop}

theorem Paired.attend {program : Program α} (paired : program.Paired client ends n a b) :
    (program.attend client n a).1 = (program.attend client n b).1 ∧
      ends (program.attend client n a).1 (program.attend client n a).2
        (program.attend client n b).2 := by
  induction program generalizing n a b with
  | done value => exact ⟨rfl, paired⟩
  | ask request next ih =>
    obtain ⟨same, rest⟩ := paired
    have reached := ih _ rest
    simp only [Program.attend]
    rw [← same]
    exact reached

theorem Paired.weaken {ends' : α → World Tables → World Tables → Prop} {program : Program α}
    (paired : program.Paired client ends n a b)
    (weaker : ∀ value a b, ends value a b → ends' value a b) :
    program.Paired client ends' n a b := by
  induction program generalizing n a b with
  | done value => exact weaker value a b paired
  | ask request next ih => exact ⟨paired.1, ih _ paired.2⟩

theorem Paired.bind {between : α → World Tables → World Tables → Prop}
    {ends : β → World Tables → World Tables → Prop} {program : Program α} {after : α → Program β}
    (first : program.Paired client between n a b)
    (rest : ∀ value m a b, between value a b → (after value).Paired client ends m a b) :
    (program.bind after).Paired client ends n a b := by
  induction program generalizing n a b with
  | done value => exact rest value n a b first
  | ask request next ih =>
    exact ⟨congrArg (fun program => program.bind after) first.1, ih _ first.2⟩

/-- Goes on only after a success. -/
theorem Paired.andThen {between : Except Error α → World Tables → World Tables → Prop}
    {ends : Except Error β → World Tables → World Tables → Prop} {call : Call α}
    {after : α → Call β} (first : call.Paired client between n a b)
    (failed : ∀ fault a b, between (.error fault) a b → ends (.error fault) a b)
    (rest : ∀ value m a b, between (.ok value) a b → (after value).Paired client ends m a b) :
    (call.andThen after).Paired client ends n a b := by
  refine first.bind fun answer m a b met => ?_
  cases answer with
  | ok value => exact rest value m a b met
  | error fault => exact failed fault a b met

theorem Paired.mapOk {between : Except Error α → World Tables → World Tables → Prop}
    {ends : Except Error β → World Tables → World Tables → Prop} {call : Call α} {f : α → β}
    (first : call.Paired client between n a b)
    (met : ∀ answer a b, between answer a b → ends (answer.map f) a b) :
    (call.mapOk f).Paired client ends n a b :=
  first.bind fun answer _ a b => met answer a b

end Program

end TenantWork.Service
