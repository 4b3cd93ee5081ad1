/-
# The worklist of definitions

The queue of names that still have to be defined grows while it is worked off, and a name may
stand in it several times.  A turn takes the first name off.  If it is defined already, that was
all; otherwise its struct is synthesized, and the names that the new definition refers to come
to the end of the queue.  So a name is synthesized in the turn that defines it and never again,
and the references that a turn may add are taken from a stock that every name has only once.
-/

import ApiDoc.Proofs.DefinitionSet
import ApiDoc.Proofs.Loops
import ApiDoc.Proofs.Reach

namespace ApiDoc

/-- The names that the structs of a description have, each counted once. -/
def Spec.structNames (spec : Spec) : Finset String :=
  (spec.types.map StructType.name).toFinset

/-- How many references the definition of a name has; none without a definition. -/
def Spec.referenceCount (spec : Spec) (name : String) : Nat :=
  (spec.referencesOf name).length

theorem Spec.mem_structNames_of_findType? {spec : Spec} {name : String} {s : StructType}
    (found : spec.findType? name = some s) : name ∈ spec.structNames := by
  rw [structNames, List.mem_toFinset, ← Spec.name_of_findType? found]
  exact List.mem_map_of_mem (Spec.mem_of_findType? found)

/-- The worklist between two turns. -/
structure Worklist where
  /-- The names whose structs have been synthesized, in order. -/
  asked : List String
  done : Table Schema
  queue : List (String × String)

namespace Worklist

/-- The worklist before the first turn. -/
def start (roots : List (String × String)) : Worklist :=
  ⟨[], .empty, roots⟩

/-- The names whose structs were synthesized up to the end, and the definitions or the error. -/
abbrev End := List String × Except Error (Table Schema)

/-- One turn of the loop. -/
def turn (spec : Spec) (w : Worklist) : Loop Worklist End :=
  match w.queue with
  | [] => .ended (w.asked, .ok w.done)
  | (name, context) :: rest =>
    if (w.done.get? name).isSome then .going { w with queue := rest }
    else
      match spec.findType? name with
      | none => .ended (w.asked, .error (.unresolvedReference name context))
      | some s =>
        match (spec.synthesize s).outcome with
        | .error e => .ended (w.asked ++ [name], .error e)
        | .ok schema =>
          .going ⟨w.asked ++ [name], w.done.insert name schema,
            rest ++ Definitions.added w.done name schema⟩

variable {spec : Spec} {w : Worklist}

/-- Everything that a turn can do. -/
inductive Turns (spec : Spec) : Worklist → Loop Worklist End → Prop
  | finish {asked : List String} {done : Table Schema} :
      Turns spec ⟨asked, done, []⟩ (.ended (asked, .ok done))
  | skip {asked : List String} {done : Table Schema} {name context : String}
      {rest : List (String × String)} (defined : name ∈ done.keys) :
      Turns spec ⟨asked, done, (name, context) :: rest⟩ (.going ⟨asked, done, rest⟩)
  | unknown {asked : List String} {done : Table Schema} {name context : String}
      {rest : List (String × String)} (undefined : name ∉ done.keys)
      (unknown : spec.findType? name = none) :
      Turns spec ⟨asked, done, (name, context) :: rest⟩
        (.ended (asked, .error (.unresolvedReference name context)))
  | refuse {asked : List String} {done : Table Schema} {name context : String}
      {rest : List (String × String)} {s : StructType} {e : Error}
      (undefined : name ∉ done.keys) (found : spec.findType? name = some s)
      (refused : (spec.synthesize s).outcome = .error e) :
      Turns spec ⟨asked, done, (name, context) :: rest⟩ (.ended (asked ++ [name], .error e))
  | define {asked : List String} {done : Table Schema} {name context : String}
      {rest : List (String × String)} {s : StructType} {schema : Schema}
      (undefined : name ∉ done.keys) (found : spec.findType? name = some s)
      (made : (spec.synthesize s).outcome = .ok schema) :
      Turns spec ⟨asked, done, (name, context) :: rest⟩
        (.going ⟨asked ++ [name], done.insert name schema,
          rest ++ Definitions.added done name schema⟩)

theorem turns_turn (spec : Spec) (w : Worklist) : Turns spec w (w.turn spec) := by
  obtain ⟨asked, done, queue⟩ := w
  cases queue with
  | nil => exact .finish
  | cons entry rest =>
      obtain ⟨name, context⟩ := entry
      by_cases defined : name ∈ done.keys
      · have present := (done.mem_keys_iff name).mp defined
        simp only [turn, if_pos present]
        exact .skip defined
      · have absent := mt (done.mem_keys_iff name).mpr defined
        simp only [turn, if_neg absent]
        cases found : spec.findType? name with
        | none => exact .unknown defined found
        | some s =>
            cases made : (spec.synthesize s).outcome with
            | error e => simpa only [made] using .refuse defined found made
            | ok schema => simpa only [made] using .define defined found made

/-- What a worklist comes to. -/
def outcome (spec : Spec) (w : Worklist) : Except Error (Table Schema) :=
  (Definitions.close spec w.done w.queue).outcome

/-- No turn changes what the worklist comes to, and at the end it is there. -/
theorem holds_outcome (w : Worklist) :
    (w.turn spec).Holds (fun next => next.outcome spec = w.outcome spec)
      fun last => last.2 = w.outcome spec := by
  have step := turns_turn spec w
  generalize w.turn spec = reached at step ⊢
  cases step with
  | finish =>
      show .ok _ = (Definitions.close spec _ []).outcome
      rw [Definitions.close]
      rfl
  | @skip asked done name context rest defined =>
      have present := (done.mem_keys_iff name).mp defined
      show (Definitions.close spec done rest).outcome = (Definitions.close spec done (_ :: _)).outcome
      rw [Definitions.close, dif_pos present]
  | @unknown asked done name context rest undefined unknown =>
      have absent := mt (done.mem_keys_iff name).mpr undefined
      show .error _ = (Definitions.close spec done (_ :: _)).outcome
      rw [Definitions.close_of_unknown absent unknown]
      rfl
  | @refuse asked done name context rest s e undefined found refused =>
      have absent := mt (done.mem_keys_iff name).mpr undefined
      show .error _ = (Definitions.close spec done (_ :: _)).outcome
      rw [Definitions.close_of_found absent found, Logged.outcome_bind, refused]
      rfl
  | @define asked done name context rest s schema undefined found made =>
      have absent := mt (done.mem_keys_iff name).mpr undefined
      show (Definitions.close spec _ _).outcome = (Definitions.close spec done (_ :: _)).outcome
      rw [Definitions.close_of_found absent found, Logged.outcome_bind, made]
      rfl

/-- What is known about the names that have been synthesized: none occurs twice, and each one is
the name of a struct. -/
structure AsksOnce (spec : Spec) (asked : List String) : Prop where
  distinct : asked.Nodup
  known : ∀ n ∈ asked, n ∈ spec.structNames

theorem AsksOnce.concat {asked : List String} (once : AsksOnce spec asked) {name : String}
    {s : StructType} (fresh : name ∉ asked) (found : spec.findType? name = some s) :
    AsksOnce spec (asked ++ [name]) := by
  apply AsksOnce.mk
  case distinct =>
    exact once.distinct.append (List.nodup_singleton name) (List.disjoint_singleton.mpr fresh)
  case known =>
    rw [List.forall_mem_append, List.forall_mem_singleton]
    exact ⟨once.known, Spec.mem_structNames_of_findType? found⟩

/-- A struct is synthesized in the turn that defines its name, or in the last turn of all. -/
theorem holds_asksOnce (w : Worklist) (once : AsksOnce spec w.asked)
    (recorded : w.asked = w.done.keys) :
    (w.turn spec).Holds (fun next => AsksOnce spec next.asked ∧ next.asked = next.done.keys)
      fun last => AsksOnce spec last.1 := by
  have step := turns_turn spec w
  generalize w.turn spec = reached at step ⊢
  cases step with
  | finish => exact once
  | skip => exact ⟨once, recorded⟩
  | unknown => exact once
  | refuse undefined found => exact once.concat (recorded ▸ undefined) found
  | @define asked done name context rest s schema undefined found made =>
      refine ⟨once.concat (recorded ▸ undefined) found, ?_⟩
      show asked ++ [name] = (done.insert name schema).keys
      rw [Definitions.keys_insert_of_undefined undefined, ← recorded]

/-- How many turns a worklist may still take before the last one: one for every entry of the
queue, and one for every reference that the definitions still to be made can add. -/
def potential (spec : Spec) (w : Worklist) : Nat :=
  w.queue.length + ahead spec.structNames spec.referenceCount w.done.keys

/-- A turn takes one entry off the queue, and what it adds is no longer ahead. -/
theorem potential_lt_of_turn {next : Worklist} (turned : w.turn spec = .going next) :
    next.potential spec < w.potential spec := by
  have step := turns_turn spec w
  rw [turned] at step
  cases step with
  | skip => exact Nat.add_lt_add_right (Nat.lt_succ_self _) _
  | @define asked done name context rest s schema undefined found made =>
      have shorter : (Definitions.added done name schema).length ≤ spec.referenceCount name := by
        rw [Definitions.added, List.length_map, Spec.referenceCount, Spec.referencesOf_eq found made]
        exact List.length_filter_le _ _
      have spent := ahead_cons spec.referenceCount
        (Spec.mem_structNames_of_findType? found) undefined
      have passed : ahead spec.structNames spec.referenceCount (done.insert name schema).keys =
          ahead spec.structNames spec.referenceCount (name :: done.keys) := by
        apply ahead_congr
        intro n
        rw [Definitions.keys_insert_of_undefined undefined, List.mem_append, List.mem_singleton,
          List.mem_cons, or_comm]
      simp only [potential, passed, List.length_append, List.length_cons]
      omega

variable (spec) in
/-- The worklist of some roots after a number of turns. -/
def after (roots : List (String × String)) (n : Nat) : Loop Worklist End :=
  Loop.after (turn spec) n (start roots)

/-- However many turns are taken, no struct is synthesized twice. -/
theorem holds_after_asksOnce (roots : List (String × String)) (n : Nat) :
    (after spec roots n).Holds (fun w => AsksOnce spec w.asked)
      fun last => AsksOnce spec last.1 := by
  have all := Loop.holds_after (turn spec)
    (I := fun w => AsksOnce spec w.asked ∧ w.asked = w.done.keys)
    (fun w once => holds_asksOnce w once.1 once.2) n (s := start roots)
    ⟨⟨List.nodup_nil, nofun⟩, rfl⟩
  exact all.imp (fun w once => once.1) fun last once => once

/-- After as many turns as there are roots and references, and one more, the worklist has come to
its end. -/
theorem exists_after_eq_ended (roots : List (String × String)) {n : Nat}
    (enough : roots.length + ∑ name ∈ spec.structNames, spec.referenceCount name < n) :
    ∃ asked, after spec roots n = .ended (asked, (spec.definitions roots).outcome) := by
  have low : (start roots).potential spec < n := by
    rw [potential, start, Table.keys_empty, ahead_nil]
    exact enough
  obtain ⟨⟨asked, result⟩, ended, right⟩ := Loop.exists_ended_holds
    (I := fun w => w.outcome spec = (start roots).outcome spec)
    (fun w next => potential_lt_of_turn) (fun w same => same ▸ holds_outcome w) low rfl
  exact ⟨asked, by rw [after, ended, show result = _ from right]; rfl⟩

end Worklist

end ApiDoc
