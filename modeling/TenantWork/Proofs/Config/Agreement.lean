import TenantWork.Config.Validation
import Mathlib.Tactic.Push
/-!
The check of a port against the use of its values. The settings are refused exactly when the check
refuses the port, with the same error, and what is used is what was checked. One thing is read in
two ways: the check looks at the log format and at the number of connections without the blanks
around them, their use does not. With blanks around it a format counts for `pretty` and a number of
connections for four, whatever was accepted.
-/
namespace TenantWork

/-! ## Numbers among blanks -/

namespace Text

theorem dropBlanks_of_none {text : List Char} (none : ∀ c ∈ text, isBlankChar c = false) :
    text.dropWhile isBlankChar = text := by
  cases text with
  | nil => rfl
  | cons c rest =>
    refine List.dropWhile_cons_of_neg ?_
    rw [none c List.mem_cons_self]
    exact Bool.false_ne_true

theorem trim_of_none {text : String} (none : ∀ c ∈ text.toList, isBlankChar c = false) :
    trim text = text := by
  have reversed : ∀ c ∈ text.toList.reverse, isBlankChar c = false := fun c member =>
    none c (List.mem_reverse.1 member)
  rw [trim, trimChars, dropBlanks_of_none none, dropBlanks_of_none reversed, List.reverse_reverse,
    String.ofList_toList]

end Text

namespace Number

theorem digits_of_ofDigits? {digits : List Char} {n : Nat} (read : ofDigits? digits = some n) :
    ∀ c ∈ digits, c.isDigit = true := by
  unfold ofDigits? at read
  split at read
  next digital => exact List.all_eq_true.1 (Bool.and_eq_true_iff.1 digital).2
  next => cases read

theorem digits_of_integer? {text : String} {n : Int} (read : integer? text = some n) :
    ∃ sign digits, text.toList = sign ++ digits ∧ (∀ c ∈ sign, c = '-' ∨ c = '+') ∧
      ∀ c ∈ digits, c.isDigit = true := by
  have digital {digits : List Char} {f : Int → Int}
      (read : (do return ((← ofDigits? digits : Nat) : Int)).map f = some n) :
      ∀ c ∈ digits, c.isDigit = true := by
    cases found : ofDigits? digits with
    | none =>
      rw [found] at read
      cases read
    | some m => exact digits_of_ofDigits? found
  unfold integer? at read
  split at read
  next digits chars => exact ⟨['-'], digits, chars, by simp, digital read⟩
  next digits chars => exact ⟨['+'], digits, chars, by simp, digital read⟩
  next => exact ⟨[], text.toList, rfl, by simp, digital read⟩

theorem trim_of_integer? {text : String} {n : Int} (read : integer? text = some n) :
    Text.trim text = text := by
  obtain ⟨sign, digits, chars, signs, digital⟩ := digits_of_integer? read
  refine Text.trim_of_none fun c member => ?_
  rw [chars, List.mem_append] at member
  obtain inSign | inDigits := member
  · obtain rfl | rfl := signs c inSign <;> decide
  · exact Text.isBlankChar_of_isDigit (digital c inDigits)

theorem integer?_of_natural? {text : String} {n : Nat} (read : natural? text = some n) :
    integer? text = some n := by
  unfold natural? at read
  unfold integer?
  split
  next digits chars =>
    rw [chars] at read
    exact absurd (digits_of_ofDigits? read '-' List.mem_cons_self) (by decide)
  next digits chars =>
    rw [chars] at read
    replace read : ofDigits? digits = some n := read
    rw [read]
    rfl
  next digits unsigned positive =>
    split at read
    next digits chars => exact absurd chars (positive digits)
    next =>
      rw [read]
      rfl

theorem fitsWord_of_le {n : Nat} (small : n ≤ Config.connectionLimit) : fitsWord n = true := by
  unfold Config.connectionLimit at small
  simp only [fitsWord, Bool.and_eq_true, decide_eq_true_eq]
  omega

end Number

namespace Config

/-! ## What the check accepts -/

/-- No blanks stand around the value under a name. -/
def Port.Trimmed (port : Port) (part key : String) : Prop :=
  ∀ text, port.text? part key = some text → Text.trim text = text

/-- The number of connections that is asked for. -/
def connectionsMeant? (port : Port) : Option Nat :=
  match port.text? "store" "pool_size" with
  | some text => Number.natural? (Text.trim text)
  | none => some 4

/-- The key means a kind and the value under it a policy. -/
def SetsPolicy (port : Port) (key : String) (kind : Kind) (policy : Policy) : Prop :=
  Kind.ofText? key = some kind ∧
    ∃ text, port.text? "idempotency" key = some text ∧ Policy.parse text = .ok policy

/-- Every value behind the port is one that its name may have. -/
structure Accepted (port : Port) : Prop where
  backend : ∃ backend, checkBackend port = .ok backend ∧ (backend = .database →
    ∃ path, port.text? "store" "path" = some path ∧ Text.isBlank path = false)
  connections : ∃ n, connectionsMeant? port = some n ∧ 1 ≤ n ∧ n ≤ connectionLimit
  policies : ∀ key ∈ port.keys "idempotency", ∃ kind policy, SetsPolicy port key kind policy
  executor : ∀ name, port.text? "executor" "default" = some name → Text.isBlank name = false
  level : ∀ level, port.text? "logging" "level" = some level → Text.fold level ∈ logLevels
  format : ∀ format, port.text? "logging" "format" = some format →
    Text.trim format = "pretty" ∨ Text.trim format = "json"

section Checks

variable {port : Port}

theorem then_eq_ok_iff {first second : Except Error Unit} :
    (do first; second) = .ok () ↔ first = .ok () ∧ second = .ok () := by
  cases first with
  | error fault => exact ⟨fun impossible => (by cases impossible), fun both => (by cases both.1)⟩
  | ok done => exact ⟨fun rest => ⟨rfl, rest⟩, And.right⟩

theorem checkPath_eq_ok_iff : checkPath port = .ok () ↔
    ∃ path, port.text? "store" "path" = some path ∧ Text.isBlank path = false := by
  unfold checkPath
  split
  next path found =>
    split
    next blank => simp [found, blank]
    next named => simp [found, named]
  next missing => simp [missing]

theorem checkConnections_eq_ok_iff : checkConnections port = .ok () ↔
    ∃ n, connectionsMeant? port = some n ∧ 1 ≤ n ∧ n ≤ connectionLimit := by
  unfold checkConnections connectionsMeant?
  cases port.text? "store" "pool_size" with
  | none => simp [connectionLimit]
  | some text =>
    cases read : Number.natural? (Text.trim text) with
    | none => simp [read]
    | some n =>
      by_cases fits : 1 ≤ n ∧ n ≤ connectionLimit <;> simp [read, fits]

theorem checkStorage_eq_ok_iff : checkStorage port = .ok () ↔
    (∃ backend, checkBackend port = .ok backend ∧ (backend = .database →
      ∃ path, port.text? "store" "path" = some path ∧ Text.isBlank path = false)) ∧
    ∃ n, connectionsMeant? port = some n ∧ 1 ≤ n ∧ n ≤ connectionLimit := by
  rw [← checkPath_eq_ok_iff, ← checkConnections_eq_ok_iff]
  cases checked : checkBackend port with
  | error fault => simp [checkStorage, checked, bind, Except.bind]
  | ok backend =>
    cases backend with
    | memory => simp [checkStorage, checked, bind, Except.bind]
    | database =>
      have steps : checkStorage port = (do checkPath port; checkConnections port) := by
        rw [checkStorage, checked]
        rfl
      rw [steps, then_eq_ok_iff]
      simp

theorem exists_of_succeeds {α : Type} {x : Except Error α} :
    succeeds x = true ↔ ∃ a, x = .ok a := by
  cases x with
  | error fault => simp [succeeds]
  | ok a => simp [succeeds]

theorem kind_parse_eq_ok_iff {text : String} {kind : Kind} :
    Kind.parse text = .ok kind ↔ Kind.ofText? text = some kind := by
  unfold Kind.parse
  split
  next found => simp [found]
  next unknown => simp [unknown]

/-- A key without a value sets no policy. -/
theorem sets_policy_iff {key : String} : (∃ kind policy, SetsPolicy port key kind policy) ↔
    succeeds (Kind.parse key) = true ∧
      succeeds (Policy.parse ((port.text? "idempotency" key).getD "")) = true := by
  rw [exists_of_succeeds, exists_of_succeeds]
  constructor
  · rintro ⟨kind, policy, means, text, found, parsed⟩
    refine ⟨⟨kind, kind_parse_eq_ok_iff.2 means⟩, policy, ?_⟩
    rwa [found]
  · rintro ⟨⟨kind, means⟩, policy, parsed⟩
    refine ⟨kind, policy, kind_parse_eq_ok_iff.1 means, ?_⟩
    cases found : port.text? "idempotency" key with
    | none =>
      have unset : Policy.parse "" = .error (.invalidInput (.unknownPolicy "")) := rfl
      rw [found, Option.getD_none, unset] at parsed
      cases parsed
    | some text =>
      rw [found] at parsed
      exact ⟨text, rfl, parsed⟩

theorem checkPolicies_eq_ok_iff {keys : List String} : checkPolicies port keys = .ok () ↔
    ∀ key ∈ keys, ∃ kind policy, SetsPolicy port key kind policy := by
  induction keys with
  | nil => simp [checkPolicies]
  | cons key rest ih =>
    rw [List.forall_mem_cons, sets_policy_iff, ← ih, checkPolicies]
    split
    next unknown => simp_all
    next known =>
      split
      next unset => simp_all
      next set => simp_all

theorem checkExecutor_eq_ok_iff : checkExecutor port = .ok () ↔
    ∀ name, port.text? "executor" "default" = some name → Text.isBlank name = false := by
  unfold checkExecutor
  split
  next name found =>
    split
    next blank => simp [found, blank]
    next named => simp [found, named]
  next missing => simp [missing]

theorem checkLevel_eq_ok_iff : checkLevel port = .ok () ↔
    ∀ level, port.text? "logging" "level" = some level → Text.fold level ∈ logLevels := by
  unfold checkLevel
  split
  next level found =>
    rw [found]
    split
    next known => simpa using known
    next unknown => simpa using unknown
  next missing => simp [missing]

theorem checkFormat_eq_ok_iff : checkFormat port = .ok () ↔
    ∀ format, port.text? "logging" "format" = some format →
      Text.trim format = "pretty" ∨ Text.trim format = "json" := by
  unfold checkFormat
  split
  next format found =>
    rw [found]
    split
    next known => simpa using known
    next unknown => simpa using unknown
  next missing => simp [missing]

theorem validate_eq_ok_iff : validate port = .ok () ↔ Accepted port := by
  unfold validate
  rw [then_eq_ok_iff, then_eq_ok_iff, then_eq_ok_iff, then_eq_ok_iff, checkStorage_eq_ok_iff,
    checkPolicies_eq_ok_iff, checkExecutor_eq_ok_iff, checkLevel_eq_ok_iff, checkFormat_eq_ok_iff]
  constructor
  · rintro ⟨⟨backend, connections⟩, policies, executor, level, format⟩
    exact ⟨backend, connections, policies, executor, level, format⟩
  · rintro ⟨backend, connections, policies, executor, level, format⟩
    exact ⟨⟨backend, connections⟩, policies, executor, level, format⟩

end Checks

/-! ## What is used -/

/-- The key that settles the policy of a kind: the last of those that mean it. -/
def decidingKey? (keys : List String) (kind : Kind) : Option String :=
  keys.reverse.find? fun key => Kind.ofText? key == some kind

theorem decidingKey?_cons {key : String} {rest : List String} {kind : Kind} :
    decidingKey? (key :: rest) kind =
      (decidingKey? rest kind).or (if Kind.ofText? key = some kind then some key else none) := by
  rw [decidingKey?, decidingKey?, List.reverse_cons, List.find?_append, List.find?_cons,
    List.find?_nil]
  congr 1
  split
  next means => rw [if_pos (beq_iff_eq.1 means)]
  next other =>
    rw [if_neg]
    rintro means
    simp [means] at other

/-- The policy is the one under the key that settles it, or the given one where no key does. -/
def PolicyTaken (port : Port) (keys : List String) (kind : Kind) (otherwise policy : Policy) :
    Prop :=
  match decidingKey? keys kind with
  | some key => SetsPolicy port key kind policy
  | none => policy = otherwise

theorem policyTaken_cons {port : Port} {key : String} {rest : List String}
    {kind other : Kind} {set otherwise policy : Policy} (sets : SetsPolicy port key kind set)
    (taken : PolicyTaken port rest other (if other = kind then set else otherwise) policy) :
    PolicyTaken port (key :: rest) other otherwise policy := by
  unfold PolicyTaken at *
  rw [decidingKey?_cons]
  cases later : decidingKey? rest other with
  | some found =>
    rw [later] at taken
    exact taken
  | none =>
    rw [later] at taken
    obtain rfl := taken
    by_cases same : other = kind
    · rw [if_pos (same ▸ sets.1), if_pos same]
      exact same ▸ sets
    · rw [if_neg, if_neg same]
      · rfl
      · intro means
        exact same (Option.some.inj (means.symm.trans sets.1))

/-- Keys that all set policies are taken one after another, so that later ones count. -/
theorem readPolicies_total {port : Port} {keys : List String}
    (sets : ∀ key ∈ keys, ∃ kind policy, SetsPolicy port key kind policy)
    (settings : ServiceSettings) : ∃ service, readPolicies port settings keys = .ok service ∧
      service.defaultExecutor = settings.defaultExecutor ∧
      ∀ kind, PolicyTaken port keys kind (settings.policy kind) (service.policy kind) := by
  induction keys generalizing settings with
  | nil => exact ⟨settings, rfl, rfl, fun _ => rfl⟩
  | cons key rest ih =>
    rw [List.forall_mem_cons] at sets
    obtain ⟨⟨kind, policy, set⟩, sets⟩ := sets
    obtain ⟨service, read, executor, taken⟩ := ih sets (settings.withPolicy kind policy)
    refine ⟨service, ?_, executor, fun other => policyTaken_cons set (taken other)⟩
    obtain ⟨means, text, found, parsed⟩ := set
    simp only [readPolicies, kind_parse_eq_ok_iff.2 means, found, parsed, bind, Except.bind]
    exact read

/-- The settings that an accepted port stands for. -/
structure InUse (port : Port) (settings : Settings) : Prop where
  backend : checkBackend port = .ok settings.backend
  path : settings.backend = .database →
    ∃ path, port.text? "store" "path" = some path ∧ Text.isBlank path = false
  policies : ∀ kind, PolicyTaken port (port.keys "idempotency") kind (Policy.forKind kind)
    (settings.service.policy kind)
  executor : settings.service.defaultExecutor = port.text? "executor" "default"
  named : ∀ name, settings.service.defaultExecutor = some name → Text.isBlank name = false
  level : settings.level = (port.text? "logging" "level").getD "info"
  levelKnown : Text.fold settings.level ∈ logLevels
  /-- Without blanks around it, the format is the one that was accepted. -/
  format : port.Trimmed "logging" "format" → (settings.format = .json ↔
    ∃ text, port.text? "logging" "format" = some text ∧ Text.trim text = "json")
  /-- With blanks around it, the format is not used. -/
  formatPadded : ¬port.Trimmed "logging" "format" → settings.format = .pretty

theorem backend_of_check {port : Port} {backend : Backend}
    (checked : checkBackend port = .ok backend) :
    (∃ text, port.text? "store" "backend" = some text ∧ Backend.parse text = .ok backend) ∨
      port.text? "store" "backend" = none ∧ backend = .database := by
  unfold checkBackend at checked
  split at checked
  next text found =>
    split at checked
    next parsed =>
      obtain rfl := Except.ok.inj checked
      exact .inl ⟨text, found, parsed⟩
    next => cases checked
  next missing => exact .inr ⟨missing, (Except.ok.inj checked).symm⟩

theorem format_eq_json_iff {found : Option String} :
    (if found = some "json" then LogFormat.json else .pretty) = .json ↔ found = some "json" := by
  split <;> simp_all

theorem ofPort_of_accepted {port : Port} (accepted : Accepted port) :
    ∃ settings, Settings.ofPort port = .ok settings ∧ InUse port settings := by
  obtain ⟨backend, checked, path⟩ := accepted.backend
  obtain ⟨service, read, _, taken⟩ := readPolicies_total accepted.policies .default
  have executor : (port.text? "executor" "default").filter (fun name => !Text.isBlank name) =
      port.text? "executor" "default" := by
    cases found : port.text? "executor" "default" with
    | none => rfl
    | some name => rw [Option.filter_some, accepted.executor name found, Bool.not_false, if_pos rfl]
  refine ⟨⟨backend, { service with defaultExecutor := port.text? "executor" "default" },
    (port.text? "logging" "level").getD "info",
    if port.text? "logging" "format" = some "json" then .json else .pretty⟩, ?_, ?_⟩
  · obtain ⟨text, found, parsed⟩ | ⟨missing, rfl⟩ := backend_of_check checked
    · simp only [Settings.ofPort, validate_eq_ok_iff.2 accepted, executor, found, parsed, read,
        bind, Except.bind, pure, Except.pure]
    · simp only [Settings.ofPort, validate_eq_ok_iff.2 accepted, executor, missing, read, bind,
        Except.bind, pure, Except.pure]
  · refine ⟨checked, path, taken, rfl, accepted.executor, rfl, ?_, ?_, ?_⟩
    · cases found : port.text? "logging" "level" with
      | none =>
        change Text.fold "info" ∈ logLevels
        decide
      | some level => exact accepted.level level found
    · intro trimmed
      rw [format_eq_json_iff]
      constructor
      · intro found
        exact ⟨"json", found, trimmed "json" found⟩
      · rintro ⟨text, found, word⟩
        rw [found, ← trimmed text found, word]
    · intro padded
      refine if_neg fun found => padded ?_
      intro text same
      obtain rfl := Option.some.inj (found.symm.trans same)
      decide

theorem integer_of_trimmed {port : Port} {n : Nat} (meant : connectionsMeant? port = some n)
    (small : n ≤ connectionLimit) (trimmed : port.Trimmed "store" "pool_size") :
    port.integer "store" "pool_size" 4 = n := by
  unfold connectionsMeant? at meant
  unfold Port.integer
  split at meant
  next text found =>
    rw [trimmed text found] at meant
    have fits : Option.filter Number.fitsWord (some (n : Int)) = some (n : Int) := by
      rw [Option.filter_some, if_pos (Number.fitsWord_of_le small)]
    rw [found, Option.bind_some, Number.integer?_of_natural? meant]
    exact congrArg (Option.getD · 4) fits
  next missing =>
    obtain rfl := Option.some.inj meant
    rw [missing]
    rfl

theorem integer_of_padded {port : Port} (padded : ¬port.Trimmed "store" "pool_size") :
    port.integer "store" "pool_size" 4 = 4 := by
  unfold Port.Trimmed at padded
  push Not at padded
  obtain ⟨text, found, blanks⟩ := padded
  have unread : Number.integer? text = none := by
    cases read : Number.integer? text with
    | none => rfl
    | some n => exact absurd (Number.trim_of_integer? read) blanks
  rw [Port.integer, found, Option.bind_some, unread]
  rfl

/-- How a database is opened: with the number of connections that was accepted, or
with four where blanks stand around that number. -/
structure Opens (port : Port) : Prop where
  /-- A database is never refused for the number of its connections. -/
  served : ∀ reason,
    DatabaseOptions.ofPort port ≠ .error (.configInvalid "store" "pool_size" reason)
  connections : ∃ n, connectionsMeant? port = some n ∧ 1 ≤ n ∧ n ≤ connectionLimit ∧
    ∀ path, port.text? "store" "path" = some path →
      (port.Trimmed "store" "pool_size" → DatabaseOptions.ofPort port = .ok ⟨path, n⟩) ∧
      (¬port.Trimmed "store" "pool_size" → DatabaseOptions.ofPort port = .ok ⟨path, 4⟩)

theorem options_of_integer {port : Port} {path : String} {n : Nat}
    (located : port.text? "store" "path" = some path)
    (counted : port.integer "store" "pool_size" 4 = n) (least : 1 ≤ n)
    (small : n ≤ connectionLimit) : DatabaseOptions.ofPort port = .ok ⟨path, n⟩ := by
  simp only [DatabaseOptions.ofPort, located, counted]
  rw [if_pos ⟨by omega, by omega⟩, Int.toNat_natCast]

theorem opens_of_accepted {port : Port} (accepted : Accepted port) : Opens port := by
  obtain ⟨n, meant, least, small⟩ := accepted.connections
  have opened (path : String) (located : port.text? "store" "path" = some path) :
      (port.Trimmed "store" "pool_size" → DatabaseOptions.ofPort port = .ok ⟨path, n⟩) ∧
      (¬port.Trimmed "store" "pool_size" → DatabaseOptions.ofPort port = .ok ⟨path, 4⟩) :=
    ⟨fun trimmed => options_of_integer located (integer_of_trimmed meant small trimmed) least small,
      fun padded => options_of_integer located (integer_of_padded padded) (by decide) (by decide)⟩
  refine ⟨fun reason refused => ?_, n, meant, least, small, opened⟩
  cases located : port.text? "store" "path" with
  | none =>
    simp only [DatabaseOptions.ofPort, located] at refused
    cases refused
  | some path =>
    by_cases trimmed : port.Trimmed "store" "pool_size"
    · cases ((opened path located).1 trimmed).symm.trans refused
    · cases ((opened path located).2 trimmed).symm.trans refused

theorem ofPort_of_refused {port : Port} {fault : Error}
    (refused : validate port = .error fault) : Settings.ofPort port = .error fault := by
  simp only [Settings.ofPort, refused, bind, Except.bind]

/-- Settings are refused when the check refuses the port, with its error, and only then. The values
in use are the accepted ones, save a log format and a number of connections with blanks around. The
keys of the policies count in the order in which the port gives them, whatever it is. -/
theorem settings_agree_with_validation (port : Port) :
    (∀ fault, Settings.ofPort port = .error fault ↔ validate port = .error fault) ∧
    ∀ settings, Settings.ofPort port = .ok settings →
      validate port = .ok () ∧ InUse port settings ∧ Opens port := by
  cases checked : validate port with
  | error fault =>
    rw [ofPort_of_refused checked]
    exact ⟨fun other => by rw [Except.error.injEq, Except.error.injEq],
      fun settings impossible => by cases impossible⟩
  | ok done =>
    have accepted := validate_eq_ok_iff.1 checked
    obtain ⟨settings, taken, inUse⟩ := ofPort_of_accepted accepted
    rw [taken]
    refine ⟨fun fault => ⟨fun impossible => (by cases impossible),
      fun impossible => (by cases impossible)⟩, fun other same => ?_⟩
    obtain rfl := Except.ok.inj same
    exact ⟨rfl, inUse, opens_of_accepted accepted⟩

/-- Two keys mean trade orders, and the one that the port gives last counts. -/
theorem later_policy_in_use :
    let source : Source := .given [⟨"store", "backend", some " SQLite"⟩,
      ⟨"store", "path", some "q.db"⟩, ⟨"store", "pool_size", some "+8"⟩,
      ⟨"idempotency", "trade_order", some " REPLAY"⟩,
      ⟨"idempotency", "Trade-Order", some "reject"⟩, ⟨"logging", "format", some "json"⟩]
    let port := source.port
    let turned : Port := { port with keys := fun part => (port.keys part).reverse }
    (∃ settings, Settings.ofPort port = .ok settings ∧
      settings.service.policy .tradeOrder = .replay ∧ settings.format = .json ∧
      DatabaseOptions.ofPort port = .ok ⟨"q.db", 8⟩ ∧ validate port = .ok () ∧
      InUse port settings ∧ Opens port) ∧
    ∃ settings, Settings.ofPort turned = .ok settings ∧
      settings.service.policy .tradeOrder = .reject ∧ validate turned = .ok () ∧
      InUse turned settings ∧ Opens turned :=
  ⟨⟨_, rfl, rfl, rfl, rfl, (settings_agree_with_validation _).2 _ rfl⟩,
    ⟨_, rfl, rfl, (settings_agree_with_validation _).2 _ rfl⟩⟩

/-- With blanks around them, a format and a number of connections are accepted but not used. -/
theorem padded_values_not_used :
    let source : Source := .given [⟨"store", "backend", some "sqlite"⟩,
      ⟨"store", "path", some "q.db"⟩, ⟨"store", "pool_size", some " 8 "⟩,
      ⟨"logging", "format", some " json "⟩]
    let port := source.port
    validate port = .ok () ∧ Text.trim " json " = "json" ∧ connectionsMeant? port = some 8 ∧
      (∃ settings, Settings.ofPort port = .ok settings ∧ settings.format = .pretty) ∧
      DatabaseOptions.ofPort port = .ok ⟨"q.db", 4⟩ :=
  ⟨rfl, rfl, rfl, ⟨_, rfl, rfl⟩, rfl⟩

end Config

end TenantWork
