/-
Log lines as data. A step of the program gives its log lines beside its
result, in the order in which they arise; whether they are shown is decided
by whoever runs the program.

`Logged ε α` is a step that may fail: the lines up to the failure are kept.
-/

namespace InspectionFeed.Log

/-- The weight of a log line. -/
inductive Level
  | trace
  | debug
  | info
  | warning
  | error
  | critical
  deriving Repr, DecidableEq

/-- The levels, lightest first. -/
def Level.all : List Level := [.trace, .debug, .info, .warning, .error, .critical]

def Level.number : Level → Nat
  | .trace => 5
  | .debug => 10
  | .info => 20
  | .warning => 30
  | .error => 40
  | .critical => 50

def Level.name : Level → String
  | .trace => "TRACE"
  | .debug => "DEBUG"
  | .info => "INFO"
  | .warning => "WARNING"
  | .error => "ERROR"
  | .critical => "CRITICAL"

/-- A log line. -/
structure Event where
  level : Level
  text : String
  deriving Repr, DecidableEq

/-- The line is shown under a threshold. -/
def Event.isShown (threshold : Int) (e : Event) : Bool :=
  threshold ≤ e.level.number

end InspectionFeed.Log

namespace InspectionFeed

/-- A step that may fail, with the log lines it gave. -/
structure Logged (ε α : Type) where
  /-- The log lines, in order. -/
  events : List Log.Event
  result : Except ε α
  deriving Repr

namespace Logged

variable {ε δ α β γ : Type}

/-- The step that gives a value and no log line. -/
protected def pure (a : α) : Logged ε α := ⟨[], .ok a⟩

/-- One step after another. A failure ends the sequence; the lines before it stay. -/
protected def bind (x : Logged ε α) (f : α → Logged ε β) : Logged ε β :=
  match x.result with
  | .error e => ⟨x.events, .error e⟩
  | .ok a => ⟨x.events ++ (f a).events, (f a).result⟩

instance : Monad (Logged ε) where
  pure := Logged.pure
  bind := Logged.bind

/-- The step that fails. -/
def fail (e : ε) : Logged ε α := ⟨[], .error e⟩

/-- The step that gives log lines only. -/
def emit (events : List Log.Event) : Logged ε Unit := ⟨events, .ok ()⟩

/-- A result without log lines. -/
def lift (r : Except ε α) : Logged ε α := ⟨[], r⟩

/-- The same step with its failure told otherwise. -/
def mapError (f : ε → δ) (x : Logged ε α) : Logged δ α := ⟨x.events, x.result.mapError f⟩

@[simp] theorem pure_eq (a : α) : (pure a : Logged ε α) = ⟨[], .ok a⟩ := rfl

@[simp] theorem bind_ok (events : List Log.Event) (a : α) (f : α → Logged ε β) :
    (⟨events, .ok a⟩ : Logged ε α) >>= f = ⟨events ++ (f a).events, (f a).result⟩ := rfl

theorem bind_pure (x : Logged ε α) : x >>= pure = x := by
  obtain ⟨events, e | a⟩ := x
  · rfl
  · rw [bind_ok, pure_eq, List.append_nil]

theorem result_bind (x : Logged ε α) (f : α → Logged ε β) :
    (x >>= f).result = x.result >>= fun a => (f a).result := by
  obtain ⟨events, e | a⟩ := x
  · rfl
  · rfl

theorem result_mapError (f : ε → δ) (x : Logged ε α) :
    (x.mapError f).result = x.result.mapError f := rfl

end Logged

end InspectionFeed
