/-
# Computations that leave a record

Generation reports what it does: unknown scalars, skipped routes, operations
built.  A logged computation is the list of its events together with its
outcome; events that happen before an error are kept.  The outcome of a sequence
is the sequence of the outcomes, so a statement about results never has to look
at events.
-/

import ApiDoc.Error
import ApiDoc.Json.Basic

namespace ApiDoc

/-- How important an event is. -/
inductive Level where
  | error
  | warn
  | info
  | debug
  | trace
  deriving DecidableEq, Repr

/-- The rank of a level; the more important a level, the lower its rank. -/
def Level.rank : Level → Nat
  | error => 1
  | warn => 2
  | info => 3
  | debug => 4
  | trace => 5

/-- What generation reports. -/
inductive Event where
  /-- A scalar is not in the table of primitive types. -/
  | unknownScalar (name : String)
  /-- A parameter has the type of a struct, which parameters cannot express. -/
  | structParameter (memberType : String)
  /-- A route is skipped because its method is none of the five. -/
  | unsupportedMethod (method path : String)
  /-- A route takes the place of an earlier one. -/
  | routeOverridden (method path : String)
  | operationBuilt (method path handler : String)
  | definitionSynthesized (name : String)
  | documentAssembled (paths definitions : Nat)
  /-- The document has been written to a file. -/
  | documentWritten (output : String)
  deriving DecidableEq, Repr

namespace Event

/-- The importance of an event. -/
def level : Event → Level
  | unknownScalar _ => .warn
  | structParameter _ => .warn
  | unsupportedMethod _ _ => .warn
  | routeOverridden _ _ => .debug
  | operationBuilt _ _ _ => .debug
  | definitionSynthesized _ => .debug
  | documentAssembled _ _ => .debug
  | documentWritten _ => .info

/-- The part of the program that an event comes from, by which a log can be
filtered. -/
def target : Event → String
  | unknownScalar _ => "swagger_gen_core::swagger::resolver"
  | structParameter _ => "swagger_gen_core::swagger::params"
  | unsupportedMethod _ _ => "swagger_gen_core::swagger::routes"
  | routeOverridden _ _ => "swagger_gen_core::swagger::routes"
  | operationBuilt _ _ _ => "swagger_gen_core::swagger::routes"
  | definitionSynthesized _ => "swagger_gen_core::swagger::definitions"
  | documentAssembled _ _ => "swagger_gen_core::swagger::document"
  | documentWritten _ => "swagger_gen::generate"

/-- The event in words. -/
def message : Event → String
  | unknownScalar _ => "unknown scalar type, emitting UNKNOWN format"
  | structParameter _ => "struct-typed parameter has no primitive form"
  | unsupportedMethod _ _ => "unsupported HTTP method, route skipped"
  | routeOverridden _ _ => "route overrides an earlier one"
  | operationBuilt _ _ _ => "built operation"
  | definitionSynthesized _ => "synthesized definition"
  | documentAssembled _ _ => "assembled swagger document"
  | documentWritten _ => "wrote swagger document"

/-- The named values of an event. -/
def fields : Event → List (String × Json)
  | unknownScalar name => [("scalar", .string name)]
  | structParameter memberType => [("member_type", .string memberType)]
  | unsupportedMethod method path => [("method", .string method), ("path", .string path)]
  | routeOverridden method path => [("method", .string method), ("path", .string path)]
  | operationBuilt method path handler =>
    [("method", .string method), ("path", .string path), ("handler", .string handler)]
  | definitionSynthesized name => [("definition", .string name)]
  | documentAssembled paths definitions =>
    [("paths", .ofNat paths), ("definitions", .ofNat definitions)]
  | documentWritten output => [("output", .string output)]

end Event

/-- The events of a computation, in order, and its outcome. -/
structure Logged (α : Type) where
  events : List Event
  /-- The value, or the error that ended the computation. -/
  outcome : Except Error α

namespace Logged

variable {α β : Type}

/-- A computation that reports nothing. -/
def ofExcept (outcome : Except Error α) : Logged α :=
  ⟨[], outcome⟩

/-- A computation that only reports. -/
def report (events : List Event) : Logged Unit :=
  ⟨events, .ok ()⟩

/-- Run a computation and then one that depends on its value; an error ends the
sequence. -/
def andThen (first : Logged α) (next : α → Logged β) : Logged β :=
  match first.outcome with
  | .error e => ⟨first.events, .error e⟩
  | .ok a => ⟨first.events ++ (next a).events, (next a).outcome⟩

instance : Monad Logged where
  pure a := ⟨[], .ok a⟩
  bind := andThen

instance : MonadExceptOf Error Logged where
  throw e := ⟨[], .error e⟩
  tryCatch first handle :=
    match first.outcome with
    | .error e => ⟨first.events ++ (handle e).events, (handle e).outcome⟩
    | .ok _ => first

@[simp] theorem outcome_pure (a : α) : (pure a : Logged α).outcome = .ok a := rfl

@[simp] theorem outcome_ofExcept (x : Except Error α) : (ofExcept x).outcome = x := rfl

@[simp] theorem outcome_report (events : List Event) :
    (report events).outcome = .ok () := rfl

@[simp] theorem outcome_throw (e : Error) :
    (throw e : Logged α).outcome = .error e := rfl

/-- The outcome of a sequence is the sequence of the outcomes. -/
@[simp] theorem outcome_bind (first : Logged α) (next : α → Logged β) :
    (first >>= next).outcome = first.outcome >>= fun a => (next a).outcome := by
  show (andThen first next).outcome = _
  unfold andThen
  cases result : first.outcome with
  | error e => rfl
  | ok a => rfl

@[simp] theorem events_pure (a : α) : (pure a : Logged α).events = [] := rfl

@[simp] theorem events_ofExcept (x : Except Error α) : (ofExcept x).events = [] := rfl

@[simp] theorem events_report (events : List Event) : (report events).events = events := rfl

/-- When the first part succeeds, the events of a sequence are those of its
parts in order. -/
theorem events_bind_of_ok {first : Logged α} {a : α} (next : α → Logged β)
    (success : first.outcome = .ok a) :
    (first >>= next).events = first.events ++ (next a).events := by
  show (andThen first next).events = _
  unfold andThen
  rw [success]

end Logged

end ApiDoc
