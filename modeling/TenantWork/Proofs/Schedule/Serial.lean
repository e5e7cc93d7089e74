import TenantWork.Proofs.Schedule.OneEffect
import TenantWork.Proofs.Schedule.Snapshots
/-!
Calls that overlap act as if made one after another. Each call here takes effect in one step: its
write, or its read if it only reads. Of calls on one store in memory, those that succeed can be
repeated without overlap, in the order of these steps, and give the same answers and the same
tables. Owners' removals and dispatches are left out, since they write on the strength of a read
that nothing protects, or write more than once.
-/
namespace TenantWork.Service

open Store (Storage Memory)

/-! ## Where the calls of a system take effect -/

namespace System

variable {Tables : Type}

/-- The answer that a client has got, or gets for certain. -/
def outcome? (system : System Tables) (i : Nat) : Option (Except Error Answer) :=
  system.threads[i]?.bind fun thread => thread.script.outcome?

def succeeded (system : System Tables) (i : Nat) : Bool :=
  match system.outcome? i with
  | some (.ok _) => true
  | _ => false

def takesEffect (system : System Tables) (step : Step) : Bool :=
  match system.threads[step.client]? with
  | some thread => step.exchange.takesEffect thread.client.operation
  | none => false

/-- The clients whose calls succeed, in the order in which the calls took effect. -/
def effectOrder (system : System Tables) : List Nat :=
  (system.trace.reverse.filter fun step =>
    system.takesEffect step && system.succeeded step.client).map Step.client

theorem outcome?_of_answer? {system : System Tables} {i : Nat} {answer : Except Error Answer}
    (answered : system.answer? i = some answer) : system.outcome? i = some answer := by
  obtain ⟨thread, found, ended⟩ := Option.bind_eq_some_iff.1 answered
  rw [outcome?, found, Option.bind_some]
  unfold Thread.answer? at ended
  split at ended
  next value done =>
    rw [done]
    exact ended
  next => cases ended

theorem succeeded_iff {system : System Tables} {i : Nat} :
    system.succeeded i = true ↔ ∃ value, system.outcome? i = some (.ok value) := by
  unfold succeeded
  split
  next value certain => exact ⟨fun _ => ⟨value, certain⟩, fun _ => rfl⟩
  next uncertain =>
    refine ⟨fun impossible => (nomatch impossible), fun ⟨value, certain⟩ => ?_⟩
    exact absurd certain (uncertain value)

section Serve

variable [Storage Tables] {system : System Tables} {i : Nat} {client : Client}
  {past : List Exchange} {stage : Stage} {request : Request}
  {next : request.Reply → Script (Except Error Answer)}

theorem outcome?_serve (found : system.threads[i]? = some ⟨client, past, .ask stage request next⟩)
    (j : Nat) :
    (system.serve i client past stage request next).outcome? j =
      if j = i then (next (system.reply client past request).1).outcome?
      else system.outcome? j := by
  obtain ⟨inside, _⟩ := List.getElem?_eq_some_iff.1 found
  simp only [outcome?, serve, List.getElem?_set]
  by_cases here : i = j
  · rw [if_pos here, if_pos inside, if_pos here.symm]
    rfl
  · rw [if_neg here, if_neg (Ne.symm here)]

theorem succeeded_serve_other
    (found : system.threads[i]? = some ⟨client, past, .ask stage request next⟩) {j : Nat}
    (other : j ≠ i) :
    (system.serve i client past stage request next).succeeded j = system.succeeded j := by
  rw [succeeded, outcome?_serve found, if_neg other]
  rfl

theorem takesEffect_serve
    (found : system.threads[i]? = some ⟨client, past, .ask stage request next⟩) (step : Step) :
    (system.serve i client past stage request next).takesEffect step =
      system.takesEffect step := by
  obtain ⟨inside, _⟩ := List.getElem?_eq_some_iff.1 found
  simp only [takesEffect, serve, List.getElem?_set]
  by_cases here : i = step.client
  · rw [if_pos here, if_pos inside, ← here, found]
  · rw [if_neg here]

theorem effectOrder_serve
    (found : system.threads[i]? = some ⟨client, past, .ask stage request next⟩)
    (steady : ∀ step ∈ system.trace, step.client = i →
      step.exchange.takesEffect client.operation = true →
      (system.serve i client past stage request next).succeeded i = system.succeeded i) :
    (system.serve i client past stage request next).effectOrder =
      system.effectOrder ++
        if (Exchange.takesEffect client.operation
              ⟨request, (system.reply client past request).1⟩ &&
            (system.serve i client past stage request next).succeeded i) = true
        then [i] else [] := by
  have before : ∀ step ∈ system.trace.reverse,
      ((system.serve i client past stage request next).takesEffect step &&
        (system.serve i client past stage request next).succeeded step.client) =
      (system.takesEffect step && system.succeeded step.client) := by
    intro step inside
    rw [takesEffect_serve found]
    by_cases here : step.client = i
    · cases effect : system.takesEffect step with
      | false => rfl
      | true =>
        rw [takesEffect, here, found] at effect
        rw [here, steady step (List.mem_reverse.1 inside) here effect]
    · rw [succeeded_serve_other found here]
  have now : (system.serve i client past stage request next).takesEffect
      ⟨i, stage, ⟨request, (system.reply client past request).1⟩⟩ =
        Exchange.takesEffect client.operation ⟨request, (system.reply client past request).1⟩ := by
    rw [takesEffect_serve found, takesEffect]
    simp only [found]
  rw [effectOrder, serve_trace, List.reverse_cons, List.filter_append, List.map_append,
    List.filter_congr before, effectOrder]
  congr 1
  simp only [List.filter_cons, List.filter_nil, now]
  split <;> rfl

end Serve

end System

/-! ## What is left of a call -/

namespace Script

variable {α : Type}

/-- What is left of a script after some exchanges, the latest first. -/
inductive Leads (script : Script α) : List Exchange → Script α → Prop
  | start : Leads script [] script
  | step {past : List Exchange} {stage : Stage} {request : Request}
      {next : request.Reply → Script α} (reply : request.Reply)
      (before : Leads script past (.ask stage request next)) :
      Leads script (⟨request, reply⟩ :: past) (next reply)

end Script

section Repeat

variable {Tables : Type} [Storage Tables]

theorem Script.attend_of_outcome? {α : Type} (client : Client) {script : Script α} {value : α}
    (ended : script.outcome? = some value) (n : Nat) (world : World Tables) :
    (script.plain.attend client n world).1 = value ∧
      (script.plain.attend client n world).2.store = world.store := by
  induction script generalizing n world with
  | done other =>
    obtain rfl := Option.some.inj ended
    exact ⟨rfl, rfl⟩
  | ask stage request next ih =>
    cases request with
    | observe before after => exact ih () ended (n + 1) _
    | _ => cases ended

/-- A client would get the same reply to a request that changes nothing. -/
def Exchange.Repeats (client : Client) (tables : Tables) (n : Nat) : Exchange → Prop
  | ⟨.readClock, now⟩ => now = client.times n
  | ⟨.newId, id⟩ => id = client.id
  | ⟨.find owner key, reply⟩ => reply = Storage.find tables owner key
  | ⟨.load id, reply⟩ => reply = Storage.get tables id
  | _ => False

theorem Exchange.Repeats.answer {client : Client} {n : Nat} {world : World Tables}
    {request : Request} {reply : request.Reply}
    (repeats : Exchange.Repeats client world.store.tables n ⟨request, reply⟩) :
    ((world.seenBy client n).answer request).1 = reply ∧
      ((world.seenBy client n).answer request).2.store = world.store := by
  cases request with
  | readClock => exact ⟨repeats.symm, rfl⟩
  | newId => exact ⟨repeats.symm, rfl⟩
  | find owner key => exact ⟨repeats.symm, rfl⟩
  | load id => exact ⟨repeats.symm, rfl⟩
  | _ => exact repeats.elim

def Repeatable (client : Client) (tables : Tables) : List Exchange → Prop
  | [] => True
  | exchange :: past =>
    exchange.Repeats client tables past.length ∧ Repeatable client tables past

/-- Where the exchanges can be repeated, an uninterrupted call comes to the same point. -/
theorem attend_of_repeatable {α : Type} {client : Client} {world : World Tables}
    {script rest : Script α} {past : List Exchange} (leads : script.Leads past rest)
    (repeatable : Repeatable client world.store.tables past) :
    ∃ later : World Tables, later.store = world.store ∧
      script.plain.attend client 0 world = rest.plain.attend client past.length later := by
  induction leads with
  | start => exact ⟨world, rfl, rfl⟩
  | step reply before ih =>
    obtain ⟨later, same, reached⟩ := ih repeatable.2
    have again := repeatable.1
    rw [← same] at again
    obtain ⟨answered, kept⟩ := again.answer
    refine ⟨_, kept.trans same, reached.trans ?_⟩
    simp only [Script.plain, Program.attend, List.length_cons, answered]

/-- The clock and the ids in a client's past are its own. -/
def Genuine (client : Client) : List Exchange → Prop
  | [] => True
  | exchange :: past =>
    (match exchange with
      | ⟨.readClock, now⟩ => now = client.times past.length
      | ⟨.newId, id⟩ => id = client.id
      | _ => True) ∧ Genuine client past

theorem Genuine.repeatable {client : Client} {tables : Tables} {past : List Exchange}
    (genuine : Genuine client past)
    (renewed : ∀ exchange ∈ past, exchange.isQuiet = true ∨
      ∀ n, exchange.Repeats client tables n) : Repeatable client tables past := by
  induction past with
  | nil => trivial
  | cons exchange past ih =>
    refine ⟨?_, ih genuine.2 fun other inside => renewed other (List.mem_cons_of_mem _ inside)⟩
    obtain quiet | repeats := renewed exchange List.mem_cons_self
    · obtain ⟨request, reply⟩ := exchange
      cases request with
      | readClock => exact genuine.1
      | newId => exact genuine.1
      | _ => cases quiet
    · exact repeats _

/-- Behind open gates a request that can take effect is answered alike on equal tables. -/
theorem World.answer_open {a b : World Tables} (openA : a.store.gate.Open)
    (openB : b.store.gate.Open) (same : a.store.tables = b.store.tables) {request : Request}
    (effective : ∃ operation reply, Exchange.takesEffect operation ⟨request, reply⟩ = true) :
    (a.answer request).1 = (b.answer request).1 ∧
      (a.answer request).2.store.tables = (b.answer request).2.store.tables := by
  obtain ⟨operation, reply, effect⟩ := effective
  cases request with
  | find owner key => exact ⟨congrArg (Storage.find · owner key) same, same⟩
  | load id => exact ⟨congrArg (Storage.get · id) same, same⟩
  | list owner filter => exact ⟨congrArg (Storage.list · owner filter) same, same⟩
  | insert e =>
    show (a.store.insert e).1 = (b.store.insert e).1 ∧
      (a.store.insert e).2.tables = (b.store.insert e).2.tables
    rw [Store.insert, Store.insert, same]
    exact Store.commit_open openA openB same _
  | save e =>
    show (a.store.save e).1 = (b.store.save e).1 ∧
      (a.store.save e).2.tables = (b.store.save e).2.tables
    rw [Store.save, Store.save, same]
    exact Store.commit_open openA openB same _
  | delete id =>
    show (a.store.delete id).1 = (b.store.delete id).1 ∧
      (a.store.delete id).2.tables = (b.store.delete id).2.tables
    rw [Store.delete, Store.delete, same]
    exact Store.commit_open openA openB same _
  | _ => cases operation <;> cases effect

theorem Request.storeAfter_rule (store : Store Tables) (request : Request) :
    (request.storeAfter store).gate.rule = store.gate.rule := by
  cases request with
  | insert e => exact store.commit_rule _
  | save e => exact store.commit_rule _
  | delete id => exact store.commit_rule _
  | _ => rfl

end Repeat

/-! ## The store at the moment of an effect -/

section Moment

variable {system : System Memory} {i : Nat} {client : Client} {past : List Exchange}
  {stage : Stage} {request : Request} {next : request.Reply → Script (Except Error Answer)}

theorem tables_of_not_wrote
    (idle : Exchange.wrote ⟨request, (system.reply client past request).1⟩ = false) :
    (request.storeAfter system.world.store).tables = system.world.store.tables := by
  cases request with
  | insert e =>
    obtain ⟨_, _, same⟩ | ⟨_, _, same⟩ | ⟨_, _, done, _⟩ := Memory.insert_cases system.world.store e
    · exact same
    · rw [Request.storeAfter, same]
    · rw [System.reply_insert, done] at idle
      cases idle
  | save e =>
    obtain ⟨_, _, same⟩ | ⟨_, _, _, _, done, _⟩ := Memory.save_cases system.world.store e
    · exact same
    · rw [System.reply_save, done] at idle
      cases idle
  | delete id =>
    obtain ⟨_, _, same⟩ | ⟨_, same⟩ | ⟨_, _, done, _⟩ := Memory.delete_cases system.world.store id
    · exact same
    · rw [Request.storeAfter, same]
    · rw [System.reply_delete, done] at idle
      cases idle
  | _ => rfl

/-- What a client was told before its write goes through still holds at the write. -/
theorem System.Sound.repeats (sound : system.Sound)
    (found : system.threads[i]? = some ⟨client, past, .ask stage request next⟩)
    (effect : Exchange.takesEffect client.operation
      ⟨request, (system.reply client past request).1⟩ = true)
    {exchange : Exchange} (inside : exchange ∈ past) (renewed : exchange.RenewedBy request) :
    exchange.isQuiet = true ∨ ∀ n, exchange.Repeats client system.world.store.tables n := by
  refine renewed.imp_right fun renewed n => ?_
  cases request with
  | insert e =>
    obtain ⟨key, held, rfl⟩ := renewed
    obtain ⟨_, refused, _⟩ | ⟨_, _, kept⟩ | ⟨free, _, _, _⟩ :=
      Memory.insert_cases system.world.store e
    · rw [reply_insert, refused] at effect
      cases operation : client.operation <;> rw [operation] at effect <;> cases effect
    · rw [reply_insert, kept] at effect
      cases operation : client.operation <;> rw [operation] at effect <;> cases effect
    · rw [Memory.holder, held] at free
      exact congrArg Except.ok (free : system.world.store.tables.find e.owner key = none).symm
  | save e =>
    obtain ⟨current, rfl, id, revision⟩ := renewed
    obtain ⟨_, refused, _⟩ | ⟨stored, there, _, kept, _, _⟩ :=
      Memory.save_cases system.world.store e
    · rw [reply_save, refused] at effect
      cases operation : client.operation <;> rw [operation] at effect <;> cases effect
    · rw [id] at there
      have shown : Shown past current := ⟨_, inside, List.mem_cons_self⟩
      obtain rfl | older := sound.current i _ found current stored shown there
      · exact congrArg Except.ok there.symm
      · omega
  | _ => exact renewed.elim

end Moment

/-! ## The invariant -/

/-- The calls that succeed, made one after another, give the answers and the tables of a system. -/
structure System.Repeated (service : Service) (clients : List Client) (origin : World Memory)
    (system : System Memory) : Prop where
  once : system.effectOrder.Nodup
  listed : ∀ i, i ∈ system.effectOrder ↔ system.succeeded i = true
  answers : (serveAll service (system.effectOrder.filterMap (clients[·]?)) origin).1.map some =
    system.effectOrder.map system.outcome?
  tables : (serveAll service (system.effectOrder.filterMap (clients[·]?)) origin).2.store.tables =
    system.world.store.tables
  gate : (serveAll service (system.effectOrder.filterMap (clients[·]?)) origin).2.store.gate.Open

namespace System.Repeated

variable {service : Service} {clients : List Client} {origin : World Memory}
  {system later : System Memory}

theorem unchanged (repeated : system.Repeated service clients origin)
    (order : later.effectOrder = system.effectOrder)
    (outcomes : ∀ j, later.succeeded j = true ∨ system.succeeded j = true →
      later.outcome? j = system.outcome? j)
    (tables : later.world.store.tables = system.world.store.tables) :
    later.Repeated service clients origin := by
  have succeeded (j : Nat) : later.succeeded j = true ↔ system.succeeded j = true := by
    constructor
    · intro holds
      rwa [System.succeeded, ← outcomes j (.inl holds)]
    · intro holds
      rwa [System.succeeded, outcomes j (.inr holds)]
  refine ⟨?_, fun j => ?_, ?_, ?_, ?_⟩
  · rw [order]
    exact repeated.once
  · rw [order, succeeded]
    exact repeated.listed j
  · rw [order, repeated.answers]
    refine List.map_congr_left fun j inside => ?_
    exact (outcomes j (.inr ((repeated.listed j).1 inside))).symm
  · rw [order, tables]
    exact repeated.tables
  · rw [order]
    exact repeated.gate

theorem joined (repeated : system.Repeated service clients origin) {i : Nat} {client : Client}
    {value : Answer} (order : later.effectOrder = system.effectOrder ++ [i])
    (place : clients[i]? = some client) (before : system.succeeded i = false)
    (others : ∀ j, j ≠ i → later.outcome? j = system.outcome? j)
    (own : later.outcome? i = some (.ok value))
    (served : ∀ world : World Memory, world.store.gate.Open →
      world.store.tables = system.world.store.tables →
      (client.serve service world).1 = .ok value ∧
        (client.serve service world).2.store.tables = later.world.store.tables ∧
        (client.serve service world).2.store.gate.Open) :
    later.Repeated service clients origin := by
  have absent : i ∉ system.effectOrder := by
    intro inside
    rw [(repeated.listed i).1 inside] at before
    cases before
  obtain ⟨answer, tables, gate⟩ := served _ repeated.gate repeated.tables
  have serial : later.effectOrder.filterMap (clients[·]?) =
      system.effectOrder.filterMap (clients[·]?) ++ [client] := by
    rw [order, List.filterMap_append]
    simp only [List.filterMap_cons, place, List.filterMap_nil]
  refine ⟨?_, fun j => ?_, ?_, ?_, ?_⟩
  · rw [order, List.nodup_append]
    refine ⟨repeated.once, List.pairwise_singleton _ i, fun j inside k here same => ?_⟩
    rw [same, List.mem_singleton.1 here] at inside
    exact absent inside
  · rw [order, List.mem_append, List.mem_singleton]
    by_cases here : j = i
    · rw [here, succeeded_iff]
      exact ⟨fun _ => ⟨value, own⟩, fun _ => .inr rfl⟩
    · rw [repeated.listed j, System.succeeded, System.succeeded, others j here]
      exact or_iff_left here
  · rw [serial, serveAll_concat, order, List.map_append, List.map_append, repeated.answers]
    congr 1
    · refine List.map_congr_left fun j inside => (others j ?_).symm
      rintro rfl
      exact absent inside
    · simp only [List.map_cons, List.map_nil, answer, own]
  · rw [serial, serveAll_concat]
    exact tables
  · rw [serial, serveAll_concat]
    exact gate

end System.Repeated

/-- What holds of calls of one step on an open store in memory, however their steps fall. -/
structure System.InOrder (service : Service) (clients : List Client) (origin : World Memory)
    (system : System Memory) : Prop where
  sound : system.Sound
  disciplined : system.Disciplined OneEffect Conclusive
  passing : system.world.store.gate.Open
  placed : system.threads.map Thread.client = clients
  genuine : ∀ (i : Nat) (thread : Thread), system.threads[i]? = some thread →
    Genuine thread.client thread.past
  leads : ∀ (i : Nat) (thread : Thread), system.threads[i]? = some thread →
    (thread.client.operation.script service).Leads thread.past thread.script
  recorded : ∀ step ∈ system.trace, ∃ thread, system.threads[step.client]? = some thread ∧
    step.exchange ∈ thread.past
  repeated : system.Repeated service clients origin

namespace System

theorem inOrder_start {service : Service} {clients : List Client} {world : World Memory}
    (sound : (start service clients world).Sound) (passing : world.store.gate.Open)
    (oneStep : ∀ client ∈ clients, client.operation.takesOneStep = true) :
    (start service clients world).InOrder service clients world := by
  have unanswered (client : Client) (oneStep : client.operation.takesOneStep = true)
      (value : Answer) : (client.operation.script service).outcome? ≠ some (.ok value) := by
    intro ended
    refine (script_oneEffect service oneStep).touched ended fun exchange inside => ?_
    cases inside
  refine ⟨sound, ?_, passing, clients_of_start _ _ _, ?_, ?_, ?_,
    List.nodup_nil, ?_, rfl, rfl, passing⟩
  · intro i thread found
    obtain ⟨here, same⟩ := thread_of_start found
    rw [same]
    exact script_oneEffect service (oneStep _ (List.mem_of_getElem? here))
  · intro i thread found
    rw [(thread_of_start found).2]
    trivial
  · intro i thread found
    rw [(thread_of_start found).2]
    exact .start
  · intro step inside
    cases inside
  · intro i
    refine ⟨fun inside => (nomatch inside), fun succeeded => ?_⟩
    obtain ⟨value, certain⟩ := succeeded_iff.1 succeeded
    obtain ⟨thread, found, ended⟩ := Option.bind_eq_some_iff.1 certain
    obtain ⟨here, same⟩ := thread_of_start found
    rw [same] at ended
    exact absurd ended (unanswered _ (oneStep _ (List.mem_of_getElem? here)) value)

section Serve

variable {service : Service} {clients : List Client} {origin : World Memory}
  {system : System Memory} {i : Nat} {client : Client} {past : List Exchange}
  {stage : Stage} {request : Request} {next : request.Reply → Script (Except Error Answer)}

/-- At the moment of its effect a call can be made as a whole, on equal tables. -/
theorem InOrder.repeats (inOrder : system.InOrder service clients origin)
    (found : system.threads[i]? = some ⟨client, past, .ask stage request next⟩)
    (effect : Exchange.takesEffect client.operation
      ⟨request, (system.reply client past request).1⟩ = true)
    (renewed : ∀ exchange ∈ past, exchange.RenewedBy request)
    {answer : Except Error Answer}
    (ended : (next (system.reply client past request).1).outcome? = some answer)
    {world : World Memory} (passing : world.store.gate.Open)
    (same : world.store.tables = system.world.store.tables) :
    (client.serve service world).1 = answer ∧
      (client.serve service world).2.store.tables =
        (request.storeAfter system.world.store).tables ∧
      (client.serve service world).2.store.gate.Open := by
  have repeatable : Repeatable client world.store.tables past := by
    rw [same]
    exact (inOrder.genuine i _ found).repeatable fun exchange inside =>
      inOrder.sound.repeats found effect inside (renewed exchange inside)
  obtain ⟨later, kept, reached⟩ := attend_of_repeatable (inOrder.leads i _ found) repeatable
  rw [Client.serve, ← Operation.plain_script, reached]
  have tables : later.store.tables = system.world.store.tables := by rw [kept, same]
  have gate : later.store.gate.Open := by
    rw [kept]
    exact passing
  obtain ⟨told, left⟩ : ((later.seenBy client past.length).answer request).1 =
        (system.reply client past request).1 ∧
      ((later.seenBy client past.length).answer request).2.store.tables =
        (system.reply client past request).2.store.tables :=
    World.answer_open (a := later.seenBy client past.length)
      (b := system.world.seenBy client past.length) gate inOrder.passing tables ⟨_, _, effect⟩
  obtain ⟨value, store⟩ := Script.attend_of_outcome? client ended (past.length + 1)
    ((later.seenBy client past.length).answer request).2
  simp only [Script.plain, Program.attend, told]
  refine ⟨value, ?_, ?_⟩
  · rw [store, left, reply_store]
  · intro calls call
    rw [store, World.answer_store, Request.storeAfter_rule]
    exact gate calls call

/-- The call took effect before, or it has not and nothing in its past has. -/
theorem InOrder.untouched (inOrder : system.InOrder service clients origin)
    (found : system.threads[i]? = some ⟨client, past, .ask stage request next⟩) :
    (∃ before after, request = .observe before after) ∨
      system.outcome? i = none ∧ Untouched client past ∧
        (Exchange.takesEffect client.operation
            ⟨request, (system.reply client past request).1⟩ = true →
          ∀ exchange ∈ past, exchange.RenewedBy request) := by
  have allowed := (inOrder.disciplined i _ found).1
  cases request with
  | observe before after => exact .inl ⟨before, after, rfl⟩
  | reserve name e => exact allowed.elim
  | start name e dispatch => exact allowed.elim
  | _ =>
    refine .inr ⟨?_, allowed.1, fun effect => allowed.2 ⟨_, effect⟩⟩
    rw [outcome?, found]
    rfl

/-- Observers are told of what has happened already. -/
theorem InOrder.observe_repeated (inOrder : system.InOrder service clients origin)
    {before after : Entity} {next : Unit → Script (Except Error Answer)}
    (found : system.threads[i]? = some ⟨client, past, .ask stage (.observe before after) next⟩) :
    (system.serve i client past stage (.observe before after) next).Repeated service clients
      origin := by
  have same (j : Nat) : (system.serve i client past stage (.observe before after) next).outcome? j =
      system.outcome? j := by
    rw [outcome?_serve found]
    split
    next here =>
      rw [here, outcome?, found]
      rfl
    next => rfl
  have idle : Exchange.takesEffect client.operation ⟨.observe before after, ()⟩ = false := by
    cases client.operation <;> rfl
  have store : (system.serve i client past stage (.observe before after) next).world.store =
      system.world.store := system.reply_store client past (.observe before after)
  refine inOrder.repeated.unchanged ?_ (fun j _ => same j) (by rw [store])
  rw [effectOrder_serve found fun _ _ _ _ => by rw [succeeded, same, succeeded]]
  simp only [reply, World.answer, idle, Bool.false_and, Bool.false_eq_true, if_false,
    List.append_nil]

theorem InOrder.serve_repeated (inOrder : system.InOrder service clients origin)
    (found : system.threads[i]? = some ⟨client, past, .ask stage request next⟩) :
    (system.serve i client past stage request next).Repeated service clients origin := by
  have order := effectOrder_serve found
  have outcomes := outcome?_serve found
  have obeys := (inOrder.disciplined i _ found).2 _
    (reply_truthful inOrder.sound.filed client past request)
  have store : (system.serve i client past stage request next).world.store =
      request.storeAfter system.world.store := system.reply_store client past request
  obtain ⟨before, after, rfl⟩ | ⟨uncertain, untouched, renewed⟩ := inOrder.untouched found
  · exact inOrder.observe_repeated found
  · have steady : ∀ step ∈ system.trace, step.client = i →
        step.exchange.takesEffect client.operation = true →
        (system.serve i client past stage request next).succeeded i = system.succeeded i := by
      intro step inside here effect
      obtain ⟨thread, there, exchanged⟩ := inOrder.recorded step inside
      rw [here, found] at there
      obtain rfl := Option.some.inj there
      rw [untouched _ exchanged] at effect
      cases effect
    have order := order steady
    have before : system.succeeded i = false := by rw [succeeded, uncertain]
    have others (j : Nat) (other : j ≠ i) :
        (system.serve i client past stage request next).outcome? j = system.outcome? j := by
      rw [outcomes, if_neg other]
    have own : (system.serve i client past stage request next).outcome? i =
        (next (system.reply client past request).1).outcome? := by rw [outcomes, if_pos rfl]
    have touches (idle : Untouched client
          (⟨request, (system.reply client past request).1⟩ :: past) → False) :
        Exchange.takesEffect client.operation ⟨request, (system.reply client past request).1⟩ =
          true := by
      rw [← Bool.not_eq_false]
      exact fun none => idle (untouched.cons _ none)
    -- The call takes effect now and succeeds, or the tables stay as they are.
    cases certain : (system.serve i client past stage request next).succeeded i with
    | true =>
      obtain ⟨value, ended⟩ := succeeded_iff.1 certain
      rw [own] at ended
      have effect := touches (obeys.touched ended)
      have place : clients[i]? = some client := by
        rw [← inOrder.placed, List.getElem?_map, found]
        rfl
      rw [effect, certain, Bool.true_and, if_pos rfl] at order
      refine inOrder.repeated.joined order place before others (own.trans ended) ?_
      intro world passing same
      rw [store]
      exact inOrder.repeats found effect (renewed effect) ended passing same
    | false =>
      have idle : Exchange.wrote ⟨request, (system.reply client past request).1⟩ = false := by
        rw [← Bool.not_eq_true]
        intro wrote
        obtain ⟨answer, ended, succeeds⟩ := obeys.outcome fun idle => by
          rw [idle.not_wrote List.mem_cons_self] at wrote
          cases wrote
        obtain ⟨value, rfl⟩ := succeeds ⟨_, List.mem_cons_self, wrote⟩
        rw [succeeded_iff.2 ⟨value, own.trans ended⟩] at certain
        cases certain
      rw [certain, Bool.and_false, if_neg Bool.false_ne_true, List.append_nil] at order
      refine inOrder.repeated.unchanged order (fun j certainly => others j ?_) ?_
      · rintro rfl
        rw [certain, before] at certainly
        obtain impossible | impossible := certainly <;> cases impossible
      · rw [store]
        exact tables_of_not_wrote idle

theorem InOrder.serve (inOrder : system.InOrder service clients origin)
    (found : system.threads[i]? = some ⟨client, past, .ask stage request next⟩) :
    (system.serve i client past stage request next).InOrder service clients origin := by
  have truthful := reply_truthful inOrder.sound.filed client past request
  have inside := (List.getElem?_eq_some_iff.1 found).1
  refine ⟨inOrder.sound.serve found, inOrder.disciplined.serve found truthful, ?_, ?_, ?_, ?_, ?_,
    inOrder.serve_repeated found⟩
  · intro calls call
    rw [serve_world, reply_store, Request.storeAfter_rule]
    exact inOrder.passing calls call
  · rw [clients_of_serve found]
    exact inOrder.placed
  · intro j thread there
    obtain ⟨rfl, rfl⟩ | ⟨_, before⟩ := thread_of_serve there
    · refine ⟨?_, inOrder.genuine j _ found⟩
      cases request with
      | readClock => rfl
      | newId => rfl
      | _ => trivial
    · exact inOrder.genuine j thread before
  · intro j thread there
    obtain ⟨rfl, rfl⟩ | ⟨_, before⟩ := thread_of_serve there
    · exact .step _ (inOrder.leads j _ found)
    · exact inOrder.leads j thread before
  · intro step there
    have after : (system.serve i client past stage request next).threads[i]? =
        some ⟨client, ⟨request, (system.reply client past request).1⟩ :: past,
          next (system.reply client past request).1⟩ := by
      simp only [System.serve, List.getElem?_set_self inside]
    rw [serve_trace] at there
    rcases List.mem_cons.1 there with rfl | earlier
    · exact ⟨_, after, List.mem_cons_self⟩
    · obtain ⟨thread, here, exchanged⟩ := inOrder.recorded step earlier
      by_cases same : step.client = i
      · rw [same, found] at here
        obtain rfl := Option.some.inj here
        exact ⟨_, by rw [same]; exact after, List.mem_cons_of_mem _ exchanged⟩
      · refine ⟨thread, ?_, exchanged⟩
        simp only [System.serve, List.getElem?_set_ne (Ne.symm same)]
        exact here

end Serve

end System

/-- No update is lost. Calls of one step overlap in any way on an open store in memory, each client
with an id of its own for what it creates and with any clock. Those that succeed, made one after
another from the same store in the order in which they took effect, give the same answers and end
in the same tables. -/
theorem overlapping_calls_serialize (service : Service) (clients : List Client)
    (world : World Memory) (reached : world.store.Reached) (passing : world.store.gate.Open)
    (oneStep : ∀ client ∈ clients, client.operation.takesOneStep = true)
    (distinct : (clients.map Client.id).Nodup)
    (fresh : ∀ client ∈ clients, world.store.tables.get client.id = none) (schedule : List Nat) :
    let system := (System.start service clients world).run schedule
    let order := system.effectOrder
    let serial := serveAll service (order.filterMap (clients[·]?)) world
    order.Nodup ∧
      (∀ i value, system.answer? i = some (.ok value) → i ∈ order) ∧
      (∀ i ∈ order, ∃ value, system.outcome? i = some (.ok value)) ∧
      serial.1.map some = order.map system.outcome? ∧
      serial.2.store.tables = system.world.store.tables := by
  have sound := System.sound_start service clients (Memory.filed_of_reached reached) distinct fresh
  have inOrder : ((System.start service clients world).run schedule).InOrder service clients world :=
    System.run_induction (System.InOrder service clients world)
      (fun _ _ _ _ _ _ _ found inOrder => inOrder.serve found) _
      (System.inOrder_start sound passing oneStep) schedule
  obtain ⟨once, listed, answers, tables, _⟩ := inOrder.repeated
  refine ⟨once, fun i value answered => ?_, fun i inside => ?_, answers, tables⟩
  · exact (listed i).2 (System.succeeded_iff.2 ⟨value, System.outcome?_of_answer? answered⟩)
  · exact System.succeeded_iff.1 ((listed i).1 inside)

/-- Two clients cancel the entity of a third at the same time: the slower one alone is refused. -/
theorem overlapping_cancels_serialize :
    let owner : Owner := ⟨"acme", by decide⟩
    let service : Service := ⟨.default, [], List.nodup_nil, nofun⟩
    let clients : List Client := [
      ⟨.submit owner .job .null (some "nightly"), ⟨"a"⟩, fun _ => .epoch⟩,
      ⟨.cancel owner ⟨"a"⟩, ⟨"b"⟩, fun _ => .epoch⟩,
      ⟨.cancel owner ⟨"a"⟩, ⟨"c"⟩, fun _ => .epoch⟩]
    let world : World Memory := .new (.new .always) []
    let system := (System.start service clients world).run [0, 0, 0, 0, 1, 2, 1, 2, 2, 1, 2]
    let serial := serveAll service (system.effectOrder.filterMap (clients[·]?)) world
    system.effectOrder = [0, 2] ∧ serial.1.map some = system.effectOrder.map system.outcome? ∧
      serial.2.store.tables = system.world.store.tables := by
  refine ⟨by decide, ?_⟩
  exact (overlapping_calls_serialize _ _ _ (.new .always) (fun _ _ => rfl) (by decide) (by decide)
    (by decide) _).2.2.2

end TenantWork.Service
