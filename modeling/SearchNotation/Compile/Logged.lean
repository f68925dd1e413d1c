import SearchNotation.Compile.Error

/-!
# Compiling with a log

The compilers drop what they cannot use and say so in a log of events. A `Logged α` is the log of
a compilation together with its result; the log is kept when the compilation fails.
-/

set_option autoImplicit false

namespace SearchNotation

/-- Something that a compiler left out. -/
inductive Event where
  /-- The value of an entry has no shape that implies a kind. -/
  | unmatchedEntry (key : String) (shape : Shape)
  /-- The kind that the shape of an entry implies is not registered. -/
  | unregisteredKind (key kind : String)
  /-- A key that joins nothing stands beside keys that do. -/
  | strayKey (key : String)
  /-- The value of a joining key holds no objects. -/
  | strayJoin (join : String) (shape : Shape)
  /-- No aggregation kind has the name. -/
  | unknownAggregation (key : String)
  deriving DecidableEq, Repr

namespace Event

/-- The wording of an event. -/
def message : Event → String
  | .unmatchedEntry .. => "no predicate matches entry, dropping it"
  | .unregisteredKind .. => "implied kind is not registered, dropping entry"
  | .strayKey .. => "ignoring non-join key beside join keys"
  | .strayJoin .. => "ignoring join value that is not a list of objects"
  | .unknownAggregation .. => "unknown aggregation kind, dropping it"

/-- The particulars of an event by name. -/
def fields : Event → List (String × String)
  | .unmatchedEntry key shape => [("key", key), ("shape", shape.text)]
  | .unregisteredKind key kind => [("key", key), ("kind", kind)]
  | .strayKey key => [("key", key)]
  | .strayJoin join shape => [("join", join), ("shape", shape.text)]
  | .unknownAggregation key => [("key", key)]

end Event

/-- The result of a compilation and what was left out up to there. -/
structure Logged (α : Type) where
  events : List Event
  result : Except CompileError α

namespace Logged

variable {α β : Type}

/-- A result without events. -/
def ofExcept (result : Except CompileError α) : Logged α := ⟨[], result⟩

/-- A value without events. -/
def done (value : α) : Logged α := ⟨[], .ok value⟩

/-- A failure without events. -/
def fail (error : CompileError) : Logged α := ⟨[], .error error⟩

/-- A value after one event. -/
def after (event : Event) (value : α) : Logged α := ⟨[event], .ok value⟩

/-- Goes on with the value, if there is one; the events follow each other. -/
def andThen (x : Logged α) (f : α → Logged β) : Logged β :=
  match x.result with
  | .ok value =>
    let y := f value
    ⟨x.events ++ y.events, y.result⟩
  | .error e => ⟨x.events, .error e⟩

instance : Monad Logged where
  pure := done
  bind := andThen

/-- A result without events, where a logged one is wanted. -/
instance : MonadLift (Except CompileError) Logged where
  monadLift := ofExcept

theorem map_id (x : Logged α) : id <$> x = x := by
  obtain ⟨events, result⟩ := x
  cases result <;> simp [Functor.map, andThen, done]

theorem done_bind (value : α) (f : α → Logged β) : pure value >>= f = f value := by
  simp [bind, pure, andThen, done]

theorem bind_bind {γ : Type} (x : Logged α) (f : α → Logged β) (g : β → Logged γ) :
    x >>= f >>= g = x >>= fun value => f value >>= g := by
  obtain ⟨events, result⟩ := x
  cases result with
  | error e => rfl
  | ok value =>
    simp only [bind, andThen]
    cases (f value).result <;> simp

instance : LawfulMonad Logged := LawfulMonad.mk' Logged map_id done_bind bind_bind

end Logged

end SearchNotation
