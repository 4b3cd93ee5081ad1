/-
# Filtering the log

A filter is a list of directives set apart by commas: a level, or a target, or
either of them with more.  A target may have a level, and in brackets a span or a
field.  An event is judged by the most specific directive whose target it starts
with and whose field it has; it is shown if it is at least as important as that
directive asks.
-/

import ApiDoc.Logged
import ApiDoc.Number.Decimal
import ApiDoc.Text.Alphanumeric
import ApiDoc.Text.Blank
import ApiDoc.Text.Pieces

namespace ApiDoc

open ApiDoc.Text

/-- Which events of a target are shown: those of at most a rank. -/
structure LogDirective where
  /-- What the target of an event must start with. -/
  target : List Char := []
  /-- The name of a field that an event must have. -/
  field : Option String := none
  /-- The greatest rank that is shown; zero shows nothing. -/
  rank : Nat
  deriving DecidableEq, Repr

namespace LogDirective

/-- Whether a directive speaks of an event. -/
def appliesTo (d : LogDirective) (e : Event) : Bool :=
  d.target.isPrefixOf e.target.toList &&
    d.field.all fun name => name == "message" || e.fields.any fun f => f.1 == name

/-- Whether a directive is at most as specific as another one that applies to the
same event.  A longer target is more specific, and with one target a field is;
between two fields the later name decides. -/
def yieldsTo (d other : LogDirective) : Bool :=
  if d.target.length = other.target.length then
    match d.field, other.field with
    | none, _ => true
    | some _, none => false
    | some name, some otherName => name ≤ otherName
  else d.target.length < other.target.length

end LogDirective

/-- A filter of events. -/
abbrev LogFilter := List LogDirective

namespace LogFilter

/-- The rank that the name or number of a level stands for. -/
def rank? (s : List Char) : Option Nat :=
  match Decimal.nat64? s with
  | some n => if n ≤ 5 then some n else none
  | none =>
    match String.ofList (s.map Char.toLower) with
    | "" => some 5
    | "off" => some 0
    | "error" => some 1
    | "warn" => some 2
    | "info" => some 3
    | "debug" => some 4
    | "trace" => some 5
    | _ => none

/-- Whether a directive can start with a character. -/
def isStart (c : Char) : Bool :=
  isAlphanumeric c || c == '-' || c == ':' || c == '_' || c == '['

/-- What a directive says in brackets. -/
inductive Restriction where
  /-- It is limited to spans, or to a value of a field.  No event is inside of a
  span, and no value is looked at outside of spans. -/
  | spans
  /-- It is limited to what has a field. -/
  | field (name : String)
  deriving DecidableEq, Repr

/-- Read what stands in brackets at a place of a directive, behind the opening one.
The place is found in `core`, which has no blanks at its ends, and what is said
there is taken from the same place of `s`, which may have some in front.  The
result tells also the place after the closing bracket. -/
def readRestriction? (s core : List Char) (place : Nat) : Option (Restriction × Nat) :=
  let size := ((core.drop place).takeWhile fun c => c != ']' && c != '\x7b').length
  let name := (s.drop place).take size
  match core.drop (place + size) with
  | ']' :: _ => some (.spans, place + size + 1)
  | '\x7b' :: rest =>
    let length := (rest.takeWhile (· != '\x7d')).length
    let text := (s.drop (place + size + 1)).take length
    match text, rest.drop length with
    | _ :: _, '\x7d' :: ']' :: _ =>
      let restriction :=
        if name.isEmpty && !text.contains '=' then .field (String.ofList text) else .spans
      some (restriction, place + size + length + 3)
    | _, _ => none
  | _ => none

/-- Read one directive.  One that is limited to spans never shows an event, so it
reads as no directive. -/
def readDirective (s : List Char) : Option (List LogDirective) :=
  let core := trim s
  if !core.head?.any isStart then none
  else
    let size := (core.takeWhile fun c => c != '=' && c != '[').length
    let target := s.take size
    match core.drop size with
    | [] =>
      match rank? s with
      | some rank => some [{ rank := rank }]
      | none => some [{ target := s, rank := 5 }]
    | '=' :: _ =>
      (rank? (s.drop (size + 1))).map fun rank => [{ target := target, rank := rank }]
    | _ =>
      match readRestriction? s core (size + 1) with
      | none => none
      | some (restriction, place) =>
        let rank :=
          match core.drop place with
          | [] => some 5
          | '=' :: _ => rank? (s.drop (place + 1))
          | _ => none
        rank.map fun rank =>
          match restriction with
          | .spans => []
          | .field name => [{ target := target, field := some name, rank := rank }]

/-- Read the directives of a list, where nothing between two commas counts as no
directive. -/
def readDirectives : List (List Char) → Option LogFilter
  | [] => some []
  | s :: rest =>
    if s.isEmpty then readDirectives rest
    else
      match readDirective s, readDirectives rest with
      | some first, some others => some (first ++ others)
      | _, _ => none

/-- The filter that shows warnings and errors. -/
def warnings : LogFilter :=
  [{ rank := 2 }]

/-- The filter a text stands for; one that cannot be read stands for warnings. -/
def ofText (s : String) : LogFilter :=
  (readDirectives (s.toList.splitOn ',')).getD warnings

/-- The filter that is used unless another is asked for: the more verbose, the
more it shows. -/
def ofVerbosity (verbosity : Nat) : LogFilter :=
  match verbosity with
  | 0 => ofText "warn"
  | 1 => ofText "warn,swagger_gen_core=debug,swagger_gen=debug"
  | _ => ofText "debug,swagger_gen_core=trace,swagger_gen=trace"

/-- The directive by which an event is judged, given the best so far. -/
def governing? (e : Event) : Option LogDirective → LogFilter → Option LogDirective
  | best, [] => best
  | best, d :: rest =>
    let better := d.appliesTo e && best.all fun b => b.yieldsTo d
    governing? e (if better then some d else best) rest

/-- Whether an event is shown. -/
def shows (filter : LogFilter) (e : Event) : Bool :=
  match governing? e none filter with
  | some d => e.level.rank ≤ d.rank
  | none => false

end LogFilter

end ApiDoc
