import TenantWork.Proofs.Calls.Alone
import TenantWork.Proofs.Time.Universal
/-!
Calls carried out while nobody else acts, with all that was exchanged on the way. The clock may show
any instant at any reading; a clock that ticks by itself is one of these. Whatever a program is, it
leaves the executors as they are, and what the gate has been asked and what has been exchanged only
grows. What else a program keeps follows from the requests that it may make.
-/
namespace TenantWork

namespace Store.Gate

/-! ## What a gate has been asked meanwhile -/

/-- The same gate, which may have been asked more. -/
structure Leads (before after : Gate) : Prop where
  rule : after.rule = before.rule
  calls : before.calls <:+ after.calls

/-- Meanwhile the gate has shut out a write with this error. -/
def ShutOut (before after : Gate) (fault : Error) : Prop :=
  ∃ calls call, before.calls <:+ calls ∧ call :: calls <:+ after.calls ∧
    before.rule calls call = .error fault

/-- Meanwhile the gate has let every write pass. -/
def LetPass (before after : Gate) : Prop :=
  ∀ calls call, before.calls <:+ calls → call :: calls <:+ after.calls →
    before.rule calls call = .ok ()

variable {a b c : Gate} {fault : Error}

theorem Leads.refl (gate : Gate) : gate.Leads gate := ⟨rfl, List.suffix_rfl⟩

theorem Leads.trans (first : a.Leads b) (second : b.Leads c) : a.Leads c :=
  ⟨second.rule.trans first.rule, first.calls.trans second.calls⟩

theorem ShutOut.earlier (leads : a.Leads b) (shut : b.ShutOut c fault) : a.ShutOut c fault := by
  obtain ⟨calls, call, since, asked, refused⟩ := shut
  refine ⟨calls, call, leads.calls.trans since, asked, ?_⟩
  rwa [← leads.rule]

theorem ShutOut.later (shut : a.ShutOut b fault) (leads : b.Leads c) : a.ShutOut c fault := by
  obtain ⟨calls, call, since, asked, refused⟩ := shut
  exact ⟨calls, call, since, asked.trans leads.calls, refused⟩

theorem LetPass.not_shutOut (passed : a.LetPass b) : ¬a.ShutOut b fault := by
  rintro ⟨calls, call, since, asked, refused⟩
  rw [passed calls call since asked] at refused
  cases refused

/-- A gate that lets every write pass does so meanwhile. -/
theorem Open.letPass (always : a.Open) : a.LetPass b := fun calls call _ _ => always calls call

theorem shutOut_ask {call : WriteCall} (refused : a.rule a.calls call = .error fault) :
    a.ShutOut (a.ask call).2 fault :=
  ⟨a.calls, call, List.suffix_rfl, List.suffix_rfl, refused⟩

end Store.Gate

namespace Store

theorem commit_leads {Tables α : Type} (store : Store Tables) (staged : Staged Tables α) :
    store.gate.Leads (store.commit staged).2.gate :=
  ⟨store.commit_rule staged, store.commit_calls staged⟩

end Store

namespace Service

open Store (Storage)

/-- Whether a request is one to an executor. -/
def Request.isOrder : Request → Bool
  | .reserve _ _ | .start _ _ _ => true
  | _ => false

/-- Whether a request may enter a key or give one up. -/
def Request.changesKeys : Request → Bool
  | .insert _ | .delete _ => true
  | _ => false

/-- How often a request reads the clock. -/
def Request.readings : Request → Nat
  | .readClock => 1
  | _ => 0

structure Session (Tables : Type) where
  world : World Tables
  /-- What the clock shows at each reading. -/
  times : Nat → Time.Instant
  readings : Nat
  /-- What has been exchanged, the latest first. -/
  past : List Exchange

namespace Session

variable {Tables : Type}

def begin (world : World Tables) (times : Nat → Time.Instant) : Session Tables :=
  ⟨world, times, 0, []⟩

def tables (session : Session Tables) : Tables := session.world.store.tables

def gate (session : Session Tables) : Store.Gate := session.world.store.gate

/-- What the clock shows at the next reading. -/
def now (session : Session Tables) : Time.Instant := session.times session.readings

/-- What executors have been asked, the latest first. -/
def orders (session : Session Tables) : List Exchange :=
  session.past.filter fun exchange => exchange.request.isOrder

variable [Storage Tables]

def answer (session : Session Tables) (request : Request) : request.Reply × Session Tables :=
  let given := { session.world with clock := ⟨session.now, 0⟩ }.answer request
  (given.1, ⟨given.2, session.times, session.readings + request.readings,
    ⟨request, given.1⟩ :: session.past⟩)

end Session

section Performing

variable {Tables : Type} [Storage Tables] {α β : Type}

def Program.perform (session : Session Tables) : Program α → α × Session Tables
  | .done value => (value, session)
  | .ask request next => (next (session.answer request).1).perform (session.answer request).2

/-- Carried out in a session, the program ends as asked for. -/
def Program.Performs (session : Session Tables) (ends : α → Session Tables → Prop)
    (program : Program α) : Prop :=
  ends (program.perform session).1 (program.perform session).2

namespace Program

variable {session : Session Tables} {ends : α → Session Tables → Prop}

theorem perform_bind (session : Session Tables) (program : Program α) (after : α → Program β) :
    (program.bind after).perform session =
      (after (program.perform session).1).perform (program.perform session).2 := by
  induction program generalizing session with
  | done value => rfl
  | ask request next ih => exact ih _ _

theorem performs_ask {request : Request} {next : request.Reply → Program α} :
    (ask request next).Performs session ends ↔
      (next (session.answer request).1).Performs (session.answer request).2 ends := Iff.rfl

theorem Performs.weaken {ends' : α → Session Tables → Prop} {program : Program α}
    (performs : program.Performs session ends)
    (weaker : ∀ value after, ends value after → ends' value after) :
    program.Performs session ends' :=
  weaker _ _ performs

theorem Performs.both {ends' : α → Session Tables → Prop} {program : Program α}
    (first : program.Performs session ends) (second : program.Performs session ends') :
    program.Performs session fun value after => ends value after ∧ ends' value after :=
  ⟨first, second⟩

theorem Performs.bind {ends : β → Session Tables → Prop} {between : α → Session Tables → Prop}
    {program : Program α} {after : α → Program β} (first : program.Performs session between)
    (rest : ∀ value middle, between value middle → (after value).Performs middle ends) :
    (program.bind after).Performs session ends := by
  unfold Performs
  rw [perform_bind]
  exact rest _ _ first

/-- Goes on only after a success. -/
theorem Performs.andThen {between : Except Error α → Session Tables → Prop}
    {ends : Except Error β → Session Tables → Prop} {call : Call α} {after : α → Call β}
    (first : call.Performs session between)
    (failed : ∀ fault middle, between (.error fault) middle → ends (.error fault) middle)
    (rest : ∀ value middle, between (.ok value) middle → (after value).Performs middle ends) :
    (call.andThen after).Performs session ends := by
  refine first.bind fun answer middle met => ?_
  cases answer with
  | ok value => exact rest value middle met
  | error fault => exact failed fault middle met

end Program

/-! ## What any program leaves alone -/

/-- The session may have gone on, with the same executors and the same clock. -/
structure Session.Leads (before after : Session Tables) : Prop where
  executors : after.world.executors = before.world.executors
  times : after.times = before.times
  gate : before.gate.Leads after.gate
  past : before.past <:+ after.past

namespace Session

omit [Storage Tables] in
theorem Leads.refl (session : Session Tables) : session.Leads session :=
  ⟨rfl, rfl, .refl _, List.suffix_rfl⟩

omit [Storage Tables] in
theorem Leads.trans {a b c : Session Tables} (first : a.Leads b) (second : b.Leads c) :
    a.Leads c :=
  ⟨second.executors.trans first.executors, second.times.trans first.times,
    first.gate.trans second.gate, first.past.trans second.past⟩

omit [Storage Tables] in
theorem Leads.executor? {a b : Session Tables} (leads : a.Leads b) (name : String) :
    b.world.executor? name = a.world.executor? name := by
  rw [World.executor?, leads.executors]
  rfl

theorem answer_leads (session : Session Tables) (request : Request) :
    session.Leads (session.answer request).2 := by
  have past : session.past <:+ (session.answer request).2.past := List.suffix_cons _ _
  cases request with
  | insert e => exact ⟨rfl, rfl, session.world.store.commit_leads _, past⟩
  | save e => exact ⟨rfl, rfl, session.world.store.commit_leads _, past⟩
  | delete id => exact ⟨rfl, rfl, session.world.store.commit_leads _, past⟩
  | start name e dispatch =>
    have kept : (session.answer (.start name e dispatch)).2.world.executors =
          session.world.executors ∧
        (session.answer (.start name e dispatch)).2.world.store = session.world.store := by
      simp only [answer, World.answer, World.start]
      split
      all_goals exact ⟨rfl, rfl⟩
    refine ⟨kept.1, rfl, ?_, past⟩
    unfold gate
    rw [kept.2]
    exact .refl _
  | _ => exact ⟨rfl, rfl, .refl _, past⟩

theorem perform_leads (session : Session Tables) (program : Program α) :
    session.Leads (program.perform session).2 := by
  induction program generalizing session with
  | done value => exact .refl session
  | ask request next ih => exact (session.answer_leads request).trans (ih _ _)

end Session

/-- A program together with how far its session has gone. -/
theorem Program.Performs.leads {session : Session Tables} {ends : α → Session Tables → Prop}
    {program : Program α} (performs : program.Performs session ends) :
    program.Performs session fun value after => ends value after ∧ session.Leads after :=
  ⟨performs, session.perform_leads program⟩

/-! ## Executors in a session -/

namespace Session

variable {executor : Executor} {name : String}

theorem reserve_registered (session : Session Tables)
    (found : session.world.executor? name = some executor) (e : Entity) :
    (session.answer (.reserve name e)).1 = executor.reserve session.world.calls e := by
  have same : World.executor? { session.world with clock := ⟨session.now, 0⟩ } name =
    some executor := found
  simp only [answer, World.answer, World.reserve, same]

theorem start_registered (session : Session Tables)
    (found : session.world.executor? name = some executor) (e : Entity) (dispatch : String) :
    (session.answer (.start name e dispatch)).1 =
      executor.start session.world.calls e dispatch := by
  have same : World.executor? { session.world with clock := ⟨session.now, 0⟩ } name =
    some executor := found
  simp only [answer, World.answer, World.start, same]
  cases executor.start session.world.calls e dispatch <;> rfl

theorem start_unregistered (session : Session Tables)
    (missing : session.world.executor? name = none) (e : Entity) (dispatch : String) :
    (session.answer (.start name e dispatch)).1 =
      .answered (.error (.executorDispatchFailed name "no executor registered")) := by
  have same : World.executor? { session.world with clock := ⟨session.now, 0⟩ } name = none :=
    missing
  simp only [answer, World.answer, World.start, same]

theorem reserve_orders (session : Session Tables) (executor : String) (e : Entity) :
    (session.answer (.reserve executor e)).2.orders =
      ⟨.reserve executor e, (session.answer (.reserve executor e)).1⟩ :: session.orders :=
  List.filter_cons_of_pos rfl

end Session

/-! ## Clocks that tick by themselves -/

/-- A clock after so many readings. -/
def ticked (clock : Time.Clock) : Nat → Time.Clock
  | 0 => clock
  | n + 1 => ticked clock.read.2 n

/-- A clock that is set in universal time shows universal time in every reading. -/
theorem universal_ticked {clock : Time.Clock} (universal : Time.Rfc3339.Universal clock.now)
    (n : Nat) : Time.Rfc3339.Universal (ticked clock n).now := by
  induction n generalizing clock with
  | zero => exact universal
  | succ n ih => exact ih (Time.Rfc3339.universal_clock universal).2.1

/-- The session shows what a clock of the world would show. -/
def Session.Ticks (session : Session Tables) (clock : Time.Clock) : Prop :=
  ∀ n, session.times (session.readings + n) = (ticked clock n).now

namespace Session

variable {session : Session Tables} {clock : Time.Clock}

theorem answer_ticks (ticks : session.Ticks clock) (request : Request) :
    ∃ later, { session.world with clock }.answer request =
        ((session.answer request).1, { (session.answer request).2.world with clock := later }) ∧
      (session.answer request).2.Ticks later := by
  cases request with
  | readClock =>
    refine ⟨clock.read.2, ?_, fun n => ?_⟩
    · have shown : session.times session.readings = clock.now := ticks 0
      simp only [answer, World.answer, Time.Clock.read, now, shown]
    · show session.times (session.readings + 1 + n) = _
      rw [Nat.add_assoc, Nat.add_comm 1 n]
      exact ticks (n + 1)
  | start name e dispatch =>
    refine ⟨clock, ?_, ticks⟩
    simp only [answer, World.answer, World.start, World.executor?]
    split
    all_goals rfl
  | _ => exact ⟨clock, rfl, ticks⟩

/-- A program that runs in its world comes to the same as one in a session that shows its clock. -/
theorem perform_ticks (ticks : session.Ticks clock) (program : Program α) :
    ∃ later, program.run { session.world with clock } =
        ((program.perform session).1, { (program.perform session).2.world with clock := later }) ∧
      (program.perform session).2.Ticks later := by
  induction program generalizing session clock with
  | done value => exact ⟨clock, rfl, ticks⟩
  | ask request next ih =>
    obtain ⟨between, same, ticking⟩ := answer_ticks ticks request
    obtain ⟨later, reached, ends⟩ := ih _ ticking
    refine ⟨later, ?_, ends⟩
    rw [Program.run, same]
    exact reached

end Session

/-! ## What a program asks for -/

/-- Whatever the replies, all requests of the program are allowed ones. -/
def Program.Asks (allowed : Request → Prop) : Program α → Prop
  | .done _ => True
  | .ask request next => allowed request ∧ ∀ reply, (next reply).Asks allowed

namespace Program.Asks

variable {allowed : Request → Prop}

theorem bind {program : Program α} {after : α → Program β} (asks : program.Asks allowed)
    (rest : ∀ value, (after value).Asks allowed) : (program.bind after).Asks allowed := by
  induction program with
  | done value => exact rest value
  | ask request next ih => exact ⟨asks.1, fun reply => ih reply (asks.2 reply)⟩

theorem andThen {call : Call α} {after : α → Call β} (asks : Program.Asks allowed call)
    (rest : ∀ value, (after value).Asks allowed) : (call.andThen after).Asks allowed :=
  asks.bind fun answer => by
    cases answer with
    | ok value => exact rest value
    | error fault => trivial

theorem weaken {more : Request → Prop} {program : Program α} (asks : program.Asks allowed)
    (wider : ∀ request, allowed request → more request) : program.Asks more := by
  induction program with
  | done value => trivial
  | ask request next ih => exact ⟨wider request asks.1, fun reply => ih reply (asks.2 reply)⟩

/-- What every allowed request keeps is kept by the program. -/
theorem keeps {P : Session Tables → Prop} {session : Session Tables} {program : Program α}
    (asks : program.Asks allowed)
    (kept : ∀ session request, allowed request → P session → P (session.answer request).2)
    (holds : P session) : P (program.perform session).2 := by
  induction program generalizing session with
  | done value => exact holds
  | ask request next ih => exact ih _ (asks.2 _) (kept _ _ asks.1 holds)

end Program.Asks

/-- Neither inserts nor removes anything nor asks anything of an executor. -/
def Request.Steady (request : Request) : Prop :=
  request.isOrder = false ∧ request.changesKeys = false

/-- Asks nothing of an executor. -/
def Program.Apart (program : Program α) : Prop :=
  program.Asks fun request => request.isOrder = false

theorem Program.Apart.orders {session : Session Tables} {program : Program α}
    (apart : program.Apart) : (program.perform session).2.orders = session.orders := by
  refine apart.keeps (P := fun after => after.orders = session.orders) ?_ rfl
  intro between request other same
  rw [← same]
  exact List.filter_cons_of_neg (by simp only [other, Bool.false_eq_true, not_false_eq_true])

/-- A program that stays apart, together with the orders, which remain what they were. -/
theorem Program.Performs.silent {session : Session Tables} {ends : α → Session Tables → Prop}
    {program : Program α} (performs : program.Performs session ends) (apart : program.Apart) :
    program.Performs session fun value after => ends value after ∧ after.orders = session.orders :=
  ⟨performs, apart.orders⟩

theorem Program.Asks.apart {program : Program α} (steady : program.Asks Request.Steady) :
    program.Apart :=
  steady.weaken fun _ => And.left

theorem load_steady (owner : Owner) (id : EntityId) :
    (Service.load owner id).Asks Request.Steady :=
  ⟨⟨rfl, rfl⟩, fun reply => by cases reply <;> trivial⟩

theorem commit_steady (current : Entity) (request : Transition) :
    (commit current request).Asks Request.Steady := by
  refine ⟨⟨rfl, rfl⟩, fun now => ?_⟩
  dsimp only
  cases current.apply request now with
  | error fault => trivial
  | ok next =>
    refine ⟨⟨rfl, rfl⟩, fun reply => ?_⟩
    rcases reply with fault | committed
    · cases fault <;> trivial
    · exact ⟨⟨rfl, rfl⟩, fun _ => trivial⟩

theorem complete_steady (address : Address) (outcome : Outcome) :
    (complete address outcome).Asks Request.Steady := by
  refine (load_steady _ _).andThen fun current => ?_
  cases checkReport current address outcome with
  | error fault => trivial
  | ok passed =>
    refine (commit_steady _ _).bind fun answer => ?_
    rcases answer with fault | committed
    · cases fault with
      | invalidTransition source target =>
        refine (load_steady _ _).andThen fun latest => ?_
        cases checkDispatch latest address <;> trivial
      | _ => trivial
    · trivial

theorem failDispatch_steady (e : Entity) (dispatch : Option Dispatch) (reason : String) :
    (failDispatch e dispatch reason).Asks Request.Steady := by
  refine Program.Asks.andThen ?_ fun current => (commit_steady _ _).bind fun answer => ?_
  · split
    · exact commit_steady _ _
    · trivial
  · rcases answer with fault | committed
    · cases fault with
      | invalidTransition source target => exact load_steady _ _
      | _ => trivial
    · trivial

theorem afterStart_steady (running : Entity) (dispatch : Dispatch) (answer : Except Error Unit) :
    (afterStart running dispatch answer).Asks Request.Steady := by
  cases answer with
  | ok done => exact load_steady _ _
  | error fault =>
    unfold afterStart
    dsimp only
    split
    · trivial
    · exact failDispatch_steady _ _ _

/-- Once an executor has answered for the work, nothing more is asked of one. -/
theorem start_steady (running : Entity) (executor dispatch : String) :
    ∃ next, start running executor dispatch = .ask (.start executor running dispatch) next ∧
      ∀ reply, (next reply).Asks Request.Steady := by
  refine ⟨_, rfl, ?_⟩
  rintro (answer | outcome | ⟨outcome, answer⟩ | -)
  · exact afterStart_steady _ _ _
  · exact afterStart_steady _ _ _
  · exact (complete_steady _ _).bind fun _ => afterStart_steady _ _ _
  · trivial

theorem insertNew_apart (owner : Owner) (kind : Kind) (payload : Json) (key : Option String) :
    (insertNew owner kind payload key).Apart := by
  refine ⟨rfl, fun now => ⟨rfl, fun id => ⟨rfl, fun reply => ?_⟩⟩⟩
  rcases reply with fault | inserted
  · trivial
  · cases inserted <;> trivial

theorem place_apart (service : Service) (owner : Owner) (kind : Kind) (payload : Json)
    (key : Option String) : (service.place owner kind payload key).Apart := by
  unfold place
  cases key with
  | none => exact insertNew_apart _ _ _ _
  | some text =>
    dsimp only
    split
    · trivial
    · refine ⟨rfl, fun reply => ?_⟩
      rcases reply with fault | _ | existing
      · trivial
      · exact insertNew_apart _ _ _ _
      · trivial

end Performing

end Service

end TenantWork
