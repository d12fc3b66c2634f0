/-
# BoardCompiler.Log — log entries and computations that write them

A `Level` orders entries by verbosity, a `Filter` keeps the entries up to a
level. `Logged ε α` is a computation that writes entries in order and ends in a
value or an error; what was written before an error stays written. `LoggedT ε m α`
also has effects of its own.
-/

namespace BoardCompiler

set_option autoImplicit false

namespace Log

/-- How verbose an entry is, from the most severe to the most detailed. -/
inductive Level where
  | error
  | warn
  | info
  | debug
  | trace
  deriving DecidableEq, Repr

namespace Level

/-- Position in the order of verbosity. -/
def rank : Level → Nat
  | .error => 1
  | .warn => 2
  | .info => 3
  | .debug => 4
  | .trace => 5

/-- The name written in front of an entry. -/
def label : Level → String
  | .error => "ERROR"
  | .warn => "WARN"
  | .info => "INFO"
  | .debug => "DEBUG"
  | .trace => "TRACE"

end Level

/-- One line of the log. -/
structure Entry where
  level : Level
  message : String
  deriving DecidableEq, Repr

/-- The entry as one line: its level, then its message. -/
def Entry.line (e : Entry) : String :=
  e.level.label ++ ": " ++ e.message

/-- The most verbose level kept; `none` keeps nothing. -/
abbrev Filter := Option Level

namespace Filter

def admits (filter : Filter) (level : Level) : Bool :=
  match filter with
  | none => false
  | some most => level.rank ≤ most.rank

def label : Filter → String
  | none => "OFF"
  | some level => level.label

/-- The filters by their names, which are read without regard to case. -/
def named : List (String × Filter) :=
  [("OFF", none), ("ERROR", some .error), ("WARN", some .warn), ("INFO", some .info),
   ("DEBUG", some .debug), ("TRACE", some .trace)]

/-- The filter of a name in any case of its ASCII letters. -/
def ofName? (name : String) : Option Filter :=
  (named.find? fun entry => entry.1 == name.map Char.toUpper).map (·.2)

/-- The filter that the flags ask for, else the configured one, else warnings. A
configured name counts only without flags, and a name of no filter is the error. -/
def choose (verbose : Nat) (quiet : Bool) (configured : Option String) : Except String Filter :=
  if quiet then .ok none
  else
    match verbose with
    | 0 =>
      match configured with
      | none => .ok (some .warn)
      | some name =>
        match ofName? name with
        | some filter => .ok filter
        | none => .error name
    | 1 => .ok (some .info)
    | 2 => .ok (some .debug)
    | _ => .ok (some .trace)

end Filter

end Log

/-- A computation that writes log entries and ends in a value or an error. -/
structure Logged (ε α : Type) where
  log : List Log.Entry
  outcome : Except ε α

namespace Logged

variable {ε ε' α β : Type}

protected def pure (a : α) : Logged ε α := ⟨[], .ok a⟩

protected def bind (x : Logged ε α) (f : α → Logged ε β) : Logged ε β :=
  match x.outcome with
  | .ok a => ⟨x.log ++ (f a).log, (f a).outcome⟩
  | .error e => ⟨x.log, .error e⟩

instance : Monad (Logged ε) where
  pure := Logged.pure
  bind := Logged.bind

/-- End in an error. -/
def fail (e : ε) : Logged ε α := ⟨[], .error e⟩

/-- Take the outcome of a computation that writes nothing. -/
def ofExcept (x : Except ε α) : Logged ε α := ⟨[], x⟩

/-- Write one entry. -/
def write (level : Log.Level) (message : String) : Logged ε Unit :=
  ⟨[⟨level, message⟩], .ok ()⟩

/-- Write entries in order. -/
def writeAll (entries : List Log.Entry) : Logged ε Unit := ⟨entries, .ok ()⟩

/-- The same computation with its error seen through `f`. -/
def mapError (f : ε → ε') (x : Logged ε α) : Logged ε' α :=
  ⟨x.log, x.outcome.mapError f⟩

@[simp] theorem pure_def (a : α) : (pure a : Logged ε α) = ⟨[], .ok a⟩ := rfl

@[simp] theorem bind_ok (log : List Log.Entry) (a : α) (f : α → Logged ε β) :
    (⟨log, .ok a⟩ : Logged ε α) >>= f = ⟨log ++ (f a).log, (f a).outcome⟩ := rfl

@[simp] theorem bind_error (log : List Log.Entry) (e : ε) (f : α → Logged ε β) :
    (⟨log, .error e⟩ : Logged ε α) >>= f = ⟨log, .error e⟩ := rfl

/-- What is written has no say in the outcome. -/
theorem outcome_bind (x : Logged ε α) (f : α → Logged ε β) :
    (x >>= f).outcome = x.outcome.bind fun a => (f a).outcome := by
  cases x with
  | mk log outcome => cases outcome <;> rfl

theorem outcome_map (f : α → β) (x : Logged ε α) : (f <$> x).outcome = x.outcome.map f := by
  cases x with
  | mk log outcome => cases outcome <;> rfl

theorem outcome_bind_eq_ok_iff {x : Logged ε α} {f : α → Logged ε β} {b : β} :
    (x >>= f).outcome = .ok b ↔ ∃ a, x.outcome = .ok a ∧ (f a).outcome = .ok b := by
  cases x with
  | mk log outcome => cases outcome <;> simp

theorem outcome_map_eq_ok_iff {f : α → β} {x : Logged ε α} {b : β} :
    (f <$> x).outcome = .ok b ↔ ∃ a, x.outcome = .ok a ∧ f a = b := by
  rw [outcome_map]
  cases x.outcome <;> simp [Except.map]

@[simp] theorem outcome_pure (a : α) : (pure a : Logged ε α).outcome = .ok a := rfl

@[simp] theorem outcome_fail (e : ε) : (fail e : Logged ε α).outcome = .error e := rfl

@[simp] theorem outcome_ofExcept (x : Except ε α) : (ofExcept x).outcome = x := rfl

@[simp] theorem outcome_write (level : Log.Level) (message : String) :
    (write level message : Logged ε Unit).outcome = .ok () := rfl

@[simp] theorem outcome_writeAll (entries : List Log.Entry) :
    (writeAll entries : Logged ε Unit).outcome = .ok () := rfl

@[simp] theorem outcome_mapError (f : ε → ε') (x : Logged ε α) :
    (x.mapError f).outcome = x.outcome.mapError f := rfl

theorem outcome_mapError_eq_ok_iff {f : ε → ε'} {x : Logged ε α} {a : α} :
    (x.mapError f).outcome = .ok a ↔ x.outcome = .ok a := by
  rw [outcome_mapError]
  cases x.outcome with
  | error e => exact iff_of_false nofun nofun
  | ok b =>
      constructor
      · intro same
        cases same
        rfl
      · intro same
        cases same
        rfl

end Logged

/-- A logged computation that has effects of another monad. -/
def LoggedT (ε : Type) (m : Type → Type) (α : Type) : Type := m (Logged ε α)

namespace LoggedT

variable {ε α β : Type} {m : Type → Type} [Monad m]

protected def bind (x : LoggedT ε m α) (f : α → LoggedT ε m β) : LoggedT ε m β :=
  show m (Logged ε β) from do
    let first ← (x : m (Logged ε α))
    match first.outcome with
    | .ok a =>
      let second ← (f a : m (Logged ε β))
      return ⟨first.log ++ second.log, second.outcome⟩
    | .error e => return ⟨first.log, .error e⟩

instance : Monad (LoggedT ε m) where
  pure a := (pure (Logged.pure a) : m (Logged ε _))
  bind := LoggedT.bind

def run (x : LoggedT ε m α) : m (Logged ε α) := x

/-- A computation without effects. -/
def ofLogged (x : Logged ε α) : LoggedT ε m α := (pure x : m (Logged ε α))

/-- Effects that neither write entries nor fail. -/
def lift (x : m α) : LoggedT ε m α := ((fun a => ⟨[], .ok a⟩) <$> x : m (Logged ε α))

/-- Effects that write no entries; an error is seen through `f`. -/
def ofExceptT {ε' : Type} (f : ε' → ε) (x : ExceptT ε' m α) : LoggedT ε m α :=
  ((fun result => ⟨[], result.mapError f⟩) <$> x.run : m (Logged ε α))

def fail (e : ε) : LoggedT ε m α := ofLogged (.fail e)

def write (level : Log.Level) (message : String) : LoggedT ε m Unit :=
  ofLogged (.write level message)

end LoggedT

end BoardCompiler
