/-
# The definitions of a document are the reference closure of its roots

The references of a name are those of the definition of the struct it finds.
Closing the roots of a description under them takes finitely many places, since
only the finitely many structs of the description refer to anything.  The queue
of `Definitions.close` then runs through the closure in order: it succeeds when
every name on it has a definition, and otherwise ends with the error of the first
that has none.  An unknown name is reported with the place that asks for it
first, which is a root if there is one of that name.
-/

import ApiDoc.Proofs.Closure
import Mathlib.Data.List.Perm.Subperm

namespace ApiDoc

open Closure

namespace Spec

variable (spec : Spec)

/-- The definition of the struct with a name, which `context` asks for. -/
def definitionOf (name context : String) : Except Error Schema :=
  match spec.findType? name with
  | none => .error (.unresolvedReference name context)
  | some s => (spec.synthesize s).outcome

/-- The names that the definition of a name refers to; none without a
definition. -/
def referencesOf (name : String) : List String :=
  match spec.findType? name with
  | none => []
  | some s =>
    match (spec.synthesize s).outcome with
    | .error _ => []
    | .ok schema => schema.references

/-- The names that the definitions of a description refer to. -/
def allReferences : List String :=
  spec.types.flatMap fun s => spec.referencesOf s.name

/-- The roots and all they refer to, in breadth-first order. -/
def closure (roots : List String) : List String :=
  stage spec.referencesOf roots (roots ++ spec.allReferences).length

/-- The place that is the first to ask for a name: a root of that name, or the
first definition that refers to it. -/
def requester (roots : List (String × String)) (name : String) : String :=
  match roots.find? fun root => root.1 == name with
  | some root => root.2
  | none =>
    match (spec.closure (roots.map Prod.fst)).find? fun n => (spec.referencesOf n).contains name with
    | some n => "referenced by definition '" ++ n ++ "'"
    | none => ""

variable {spec}

theorem requester_of_root {roots : List (String × String)} {name : String}
    {root : String × String} (first : roots.find? (fun other => other.1 == name) = some root) :
    spec.requester roots name = root.2 := by
  rw [requester, first]

theorem requester_of_reference {roots : List (String × String)} {name n : String}
    (noRoot : roots.find? (fun root => root.1 == name) = none)
    (first : (spec.closure (roots.map Prod.fst)).find?
      (fun m => (spec.referencesOf m).contains name) = some n) :
    spec.requester roots name = "referenced by definition '" ++ n ++ "'" := by
  rw [requester, noRoot, first]

theorem referencesOf_eq {name : String} {s : StructType} {schema : Schema}
    (found : spec.findType? name = some s) (made : (spec.synthesize s).outcome = .ok schema) :
    spec.referencesOf name = schema.references := by
  simp only [referencesOf, found, made]

theorem nodup_referencesOf (name : String) : (spec.referencesOf name).Nodup := by
  rw [referencesOf]
  split
  · exact List.nodup_nil
  · split
    · exact List.nodup_nil
    · exact nodup_eraseDups _

theorem mem_allReferences {name n : String} (refers : n ∈ spec.referencesOf name) :
    n ∈ spec.allReferences := by
  cases found : spec.findType? name with
  | none =>
      rw [referencesOf, found] at refers
      cases refers
  | some s =>
      rw [← name_of_findType? found] at refers
      exact List.mem_flatMap.mpr ⟨s, mem_of_findType? found, refers⟩

/-- No stage is longer than the roots and all references together. -/
theorem length_stage_le (roots : List String) (i : Nat) :
    (stage spec.referencesOf roots i).length ≤ (roots ++ spec.allReferences).length := by
  have distinct : (stage spec.referencesOf roots i).Nodup := nodup_stage nodup_referencesOf i
  have inside : ∀ n ∈ stage spec.referencesOf roots i, n ∈ roots ++ spec.allReferences :=
    forall_mem_stage (fun n root => List.mem_append_left _ root)
      (fun m _ n refers => List.mem_append_right _ (mem_allReferences refers)) i
  exact (distinct.subperm inside).length_le

/-- The closure is where the extension stops. -/
theorem closure_isLimit (spec : Spec) (roots : List String) :
    IsLimit spec.referencesOf roots (spec.closure roots) := by
  intro i long
  let bound := (roots ++ spec.allReferences).length
  rcases Nat.le_total i bound with before | after
  · have short : (stage spec.referencesOf roots i).length ≤ i :=
      Nat.le_trans (Closure.stage_prefix_stage before).length_le long
    exact (stage_eq_of_length_le short before).symm
  · exact stage_eq_of_length_le (length_stage_le roots bound) after

end Spec

/-! ## What the queue stands for -/

namespace Definitions

variable {spec : Spec} {done : Table Schema} {name context : String}
  {rest queue roots : List (String × String)}

/-- The names a queue still asks for, each once and in order. -/
def pending (done : Table Schema) (queue : List (String × String)) : List String :=
  ((queue.map Prod.fst).filter fun n => n ∉ done.keys).eraseDups

theorem mem_pending_iff {n : String} :
    n ∈ pending done queue ↔ n ∈ queue.map Prod.fst ∧ n ∉ done.keys := by
  rw [pending, List.mem_eraseDups, List.mem_filter, decide_eq_true_iff]

theorem keys_insert_of_undefined (undefined : name ∉ done.keys) (schema : Schema) :
    (done.insert name schema).keys = done.keys ++ [name] := by
  rw [Table.keys_insert, if_neg undefined]

/-- A name that is defined is not asked for again. -/
theorem pending_cons_of_defined (defined : name ∈ done.keys) :
    pending done ((name, context) :: rest) = pending done rest := by
  rw [pending, List.map_cons, List.filter_cons_of_neg (by simpa using defined), pending]

/-- A name that is not defined is the first that the queue asks for; the others
are those the rest of the queue asks for once it is defined. -/
theorem pending_cons_of_undefined (undefined : name ∉ done.keys) (schema : Schema) :
    pending done ((name, context) :: rest) =
      name :: pending (done.insert name schema) rest := by
  rw [pending, List.map_cons, List.filter_cons_of_pos (by simpa using undefined),
    List.eraseDups_cons, List.filter_filter, pending, keys_insert_of_undefined undefined]
  congr 2
  refine List.filter_congr fun n _ => ?_
  rw [Bool.eq_iff_iff]
  simp [and_comm]

theorem map_fst_added (undefined : name ∉ done.keys) (schema : Schema) :
    (added done name schema).map Prod.fst =
      schema.references.filter fun n => n ∉ (done.insert name schema).keys := by
  have projected : (added done name schema).map Prod.fst =
      schema.references.filter fun r => r != name && (done.get? r).isNone := by
    rw [added, List.map_map]
    exact List.map_id _
  rw [projected, keys_insert_of_undefined undefined]
  refine List.filter_congr fun n _ => ?_
  rw [Bool.eq_iff_iff]
  simp [Table.mem_keys_iff, and_comm]

/-- The references of a new definition are asked for after everything else, as far
as they are not defined, being defined or asked for already. -/
theorem pending_append_added (undefined : name ∉ done.keys) (schema : Schema) :
    pending (done.insert name schema) (rest ++ added done name schema) =
      pending (done.insert name schema) rest ++ schema.references.filter fun n =>
        !((done.insert name schema).keys ++ pending (done.insert name schema) rest).contains n := by
  have distinct : schema.references.Nodup := nodup_eraseDups _
  conv_lhs => rw [pending, List.map_append, List.filter_append, List.eraseDups_append,
    map_fst_added undefined]
  refine congrArg _ ?_
  rw [List.filter_filter, List.removeAll, List.filter_filter,
    eraseDups_eq_self (distinct.filter _)]
  refine List.filter_congr fun n _ => ?_
  rw [Bool.eq_iff_iff]
  simp only [Bool.and_eq_true, Bool.not_eq_true', decide_eq_true_iff, List.elem_eq_mem,
    decide_eq_false_iff_not, List.mem_append, List.mem_filter, mem_pending_iff]
  tauto

/-- What holds whenever `close` looks at its queue: what is defined, followed by
what the queue still asks for, is the stage of the closure that belongs to the
number of definitions, and every name still to be defined is first asked for by
its requester. -/
structure Faithful (spec : Spec) (roots : List (String × String)) (done : Table Schema)
    (queue : List (String × String)) : Prop where
  /-- Nothing that is to come has been lost, and the order is that of the closure. -/
  reached : stage spec.referencesOf (roots.map Prod.fst) done.keys.length =
    done.keys ++ pending done queue
  /-- The first entry for a name carries the place that is reported for it. -/
  attributed : ∀ entry, entry.1 ∉ done.keys →
    queue.find? (fun other => other.1 == entry.1) = some entry →
      entry.2 = spec.requester roots entry.1

namespace Faithful

/-- The queue of the roots, before anything is defined. -/
theorem start (spec : Spec) (roots : List (String × String)) :
    Faithful spec roots .empty roots := by
  apply Faithful.mk
  · simp [stage, pending]
  · intro entry _ first
    rw [Spec.requester, first]

/-- An entry for a name that is defined can be dropped. -/
theorem skip (faithful : Faithful spec roots done ((name, context) :: rest))
    (defined : name ∈ done.keys) : Faithful spec roots done rest := by
  apply Faithful.mk
  · rw [faithful.reached, pending_cons_of_defined defined]
  · intro entry fresh first
    refine faithful.attributed entry fresh ?_
    rw [List.find?_cons_of_neg, first]
    intro same
    exact fresh (by simpa using (beq_iff_eq.mp same) ▸ defined)

/-- The closure starts with what is defined and the name in front of the queue. -/
theorem closure_split (faithful : Faithful spec roots done ((name, context) :: rest))
    (undefined : name ∉ done.keys) :
    ∃ later, spec.closure (roots.map Prod.fst) = done.keys ++ name :: later := by
  obtain ⟨later, whole⟩ :=
    (spec.closure_isLimit (roots.map Prod.fst)).stage_prefix_limit done.keys.length
  rw [faithful.reached, pending_cons_of_undefined undefined {}] at whole
  exact ⟨pending (done.insert name {}) rest ++ later, by rw [← whole]; simp⟩

/-- The next name to be defined is the next one of the closure. -/
theorem drop_closure (faithful : Faithful spec roots done ((name, context) :: rest))
    (undefined : name ∉ done.keys) :
    (spec.closure (roots.map Prod.fst)).drop done.keys.length =
      name :: (spec.closure (roots.map Prod.fst)).drop (done.keys.length + 1) := by
  obtain ⟨later, whole⟩ := faithful.closure_split undefined
  rw [whole, List.drop_left, ← List.drop_drop, List.drop_left, List.drop_one, List.tail_cons]

/-- Without a queue, what is defined is the closure. -/
theorem closure_eq (faithful : Faithful spec roots done []) :
    spec.closure (roots.map Prod.fst) = done.keys := by
  have whole : stage spec.referencesOf (roots.map Prod.fst) done.keys.length = done.keys := by
    rw [faithful.reached]
    simp [pending]
  have short : (stage spec.referencesOf (roots.map Prod.fst) done.keys.length).length ≤
      done.keys.length := Nat.le_of_eq (congrArg List.length whole)
  exact ((spec.closure_isLimit _).eq_stage short).trans whole

/-- The entry in front carries the place that is reported for its name. -/
theorem context_eq (faithful : Faithful spec roots done ((name, context) :: rest))
    (undefined : name ∉ done.keys) : context = spec.requester roots name :=
  faithful.attributed (name, context) undefined (List.find?_cons_of_pos (by simp))

/-- A name that the definition in front is the first to ask for is no root, since
roots stay in the queue until they are defined, and no earlier definition refers to
it, for the same reason. -/
theorem requester_eq_of_unasked (faithful : Faithful spec roots done ((name, context) :: rest))
    (undefined : name ∉ done.keys) {n : String} (fresh : n ∉ done.keys) (apart : n ≠ name)
    (unasked : n ∉ rest.map Prod.fst) (refers : n ∈ spec.referencesOf name) :
    spec.requester roots n = "referenced by definition '" ++ name ++ "'" := by
  have offStage : n ∉ stage spec.referencesOf (roots.map Prod.fst) done.keys.length := by
    rw [faithful.reached, List.mem_append, mem_pending_iff]
    intro onStage
    rcases onStage with defined | ⟨inQueue, -⟩
    · exact fresh defined
    · rcases List.mem_cons.mp inQueue with same | inRest
      · exact apart same
      · exact unasked inRest
  have noRoot : roots.find? (fun root => root.1 == n) = none := by
    refine List.find?_eq_none.mpr fun root present same => offStage ?_
    rw [← beq_iff_eq.mp same]
    exact root_mem_stage (List.mem_map_of_mem present) _
  have noEarlier : done.keys.find? (fun m => (spec.referencesOf m).contains n) = none := by
    refine List.find?_eq_none.mpr fun m defined mRefers => offStage ?_
    obtain ⟨i, place⟩ := List.mem_iff_getElem?.mp defined
    have inside : i < done.keys.length := (List.getElem?_eq_some_iff.mp place).1
    refine mem_stage_of_next inside ?_ (List.contains_iff_mem.mp mRefers)
    rw [faithful.reached, List.getElem?_append_left inside, place]
  obtain ⟨later, whole⟩ := faithful.closure_split undefined
  refine Spec.requester_of_reference noRoot ?_
  rw [whole, List.find?_append, noEarlier, Option.none_or]
  exact List.find?_cons_of_pos (List.contains_iff_mem.mpr refers)

/-- Defining the name in front keeps the invariant. -/
theorem define (faithful : Faithful spec roots done ((name, context) :: rest))
    (undefined : name ∉ done.keys) {s : StructType} {schema : Schema}
    (found : spec.findType? name = some s) (made : (spec.synthesize s).outcome = .ok schema) :
    Faithful spec roots (done.insert name schema) (rest ++ added done name schema) := by
  have refs : spec.referencesOf name = schema.references := Spec.referencesOf_eq found made
  have keys := keys_insert_of_undefined undefined schema
  apply Faithful.mk
  · have before : stage spec.referencesOf (roots.map Prod.fst) done.keys.length =
        (done.insert name schema).keys ++ pending (done.insert name schema) rest := by
      rw [faithful.reached, pending_cons_of_undefined undefined schema, keys]
      simp
    have entry : (stage spec.referencesOf (roots.map Prod.fst) done.keys.length)[
        done.keys.length]? = some name := by
      rw [before, keys]
      simp
    rw [pending_append_added undefined, ← List.append_assoc, ← before, ← refs,
      ← stage_succ_of_getElem? entry, keys, List.length_append, List.length_singleton]
  · intro entry fresh first
    rw [keys, List.mem_append, List.mem_singleton, not_or] at fresh
    rcases fresh with ⟨old, apart⟩
    rw [List.find?_append] at first
    cases inRest : rest.find? fun other => other.1 == entry.1 with
    | some other =>
        rw [inRest, Option.some_or] at first
        refine faithful.attributed entry old ?_
        rw [List.find?_cons_of_neg (by simpa using fun same => apart same.symm), inRest, first]
    | none =>
        rw [inRest, Option.none_or] at first
        have unasked : entry.1 ∉ rest.map Prod.fst := by
          intro asked
          obtain ⟨other, present, same⟩ := List.mem_map.mp asked
          exact List.find?_eq_none.mp inRest other present (by simpa using same)
        obtain ⟨r, isReference, rfl⟩ := List.mem_map.mp (List.mem_of_find?_eq_some first)
        have refers : r ∈ spec.referencesOf name := by
          rw [refs]
          exact (List.mem_filter.mp isReference).1
        exact (faithful.requester_eq_of_unasked undefined old apart unasked refers).symm

end Faithful

/-- A name of the closure with its definition. -/
def entryOf (spec : Spec) (roots : List (String × String)) (name : String) :
    Except Error (String × Schema) :=
  (spec.definitionOf name (spec.requester roots name)).map fun schema => (name, schema)

/-- The queue defines the names of the closure that are not defined yet, one after
another. -/
theorem outcome_close (faithful : Faithful spec roots done queue) :
    (close spec done queue).outcome =
      (((spec.closure (roots.map Prod.fst)).drop done.keys.length).mapM
        (entryOf spec roots)).map fun later => ⟨done.entries ++ later⟩ := by
  fun_induction close spec done queue with
  | case1 done =>
      rw [faithful.closure_eq, List.drop_length, List.mapM_nil]
      simp [pure, Except.pure, Except.map]
  | case2 done name context rest defined ih =>
      exact ih (faithful.skip ((Table.mem_keys_iff done name).mpr defined))
  | case3 done name context rest undefined unknown =>
      have fresh : name ∉ done.keys := fun defined =>
        undefined ((Table.mem_keys_iff done name).mp defined)
      have fails : entryOf spec roots name =
          .error (.unresolvedReference name (spec.requester roots name)) := by
        rw [entryOf, Spec.definitionOf, unknown]
        rfl
      rw [faithful.drop_closure fresh, List.mapM_cons, fails, faithful.context_eq fresh]
      rfl
  | case4 done name context rest undefined s found ih =>
      have fresh : name ∉ done.keys := fun defined =>
        undefined ((Table.mem_keys_iff done name).mp defined)
      have makes : entryOf spec roots name =
          (spec.synthesize s).outcome.map fun schema => (name, schema) := by
        rw [entryOf, Spec.definitionOf, found]
      rw [faithful.drop_closure fresh, List.mapM_cons, makes]
      simp only [Logged.outcome_bind, Logged.outcome_report]
      cases made : (spec.synthesize s).outcome with
      | error e => rfl
      | ok schema =>
          have run := ih schema (faithful.define fresh found made)
          rw [keys_insert_of_undefined fresh, List.length_append, List.length_singleton,
            Table.entries_insert_of_not_mem done fresh] at run
          refine run.trans ?_
          cases ((spec.closure (roots.map Prod.fst)).drop (done.keys.length + 1)).mapM
            (entryOf spec roots) with
          | error e => rfl
          | ok later => simp [bind, Except.bind, pure, Except.pure, Except.map]

end Definitions

/-! ## The definitions of a document -/

namespace Spec

/-- A name finds a struct, and the struct has a definition. -/
def Defines (spec : Spec) (name : String) (schema : Schema) : Prop :=
  ∃ s, spec.findType? name = some s ∧ (spec.synthesize s).outcome = .ok schema

theorem definitionOf_eq_ok_iff {spec : Spec} {name context : String} {schema : Schema} :
    spec.definitionOf name context = .ok schema ↔ spec.Defines name schema := by
  rw [definitionOf, Defines]
  cases spec.findType? name <;> simp

/-- The definitions of a document are those of the closure of the roots, in order. -/
theorem outcome_definitions (spec : Spec) (roots : List (String × String)) :
    (spec.definitions roots).outcome =
      ((spec.closure (roots.map Prod.fst)).mapM (Definitions.entryOf spec roots)).map Table.mk := by
  rw [definitions, Definitions.outcome_close (Definitions.Faithful.start spec roots)]
  rfl

theorem entryOf_eq_ok_iff {spec : Spec} {roots : List (String × String)} {name : String}
    {entry : String × Schema} :
    Definitions.entryOf spec roots name = .ok entry ↔
      ∃ schema, spec.Defines name schema ∧ (name, schema) = entry := by
  rw [Definitions.entryOf, map_eq_ok_iff]
  simp only [definitionOf_eq_ok_iff]

/-- When every name of the closure has a definition, these are the definitions. -/
theorem outcome_definitions_of_defines {spec : Spec} {roots : List (String × String)}
    {schemas : List Schema}
    (defined : List.Forall₂ spec.Defines (spec.closure (roots.map Prod.fst)) schemas) :
    (spec.definitions roots).outcome = .ok ⟨(spec.closure (roots.map Prod.fst)).zip schemas⟩ := by
  have run : (spec.closure (roots.map Prod.fst)).mapM (Definitions.entryOf spec roots) =
      .ok ((spec.closure (roots.map Prod.fst)).zip schemas) := by
    rw [mapM_eq_ok_iff]
    generalize spec.closure (roots.map Prod.fst) = names at defined
    induction defined with
    | nil => exact List.Forall₂.nil
    | cons makes _ ih => exact List.Forall₂.cons (entryOf_eq_ok_iff.mpr ⟨_, makes, rfl⟩) ih
  rw [outcome_definitions, run]
  rfl

/-- The first name of the closure without a definition decides the error. -/
theorem outcome_definitions_of_first {spec : Spec} {roots : List (String × String)}
    {before after : List String} {name : String} {e : Error}
    (split : spec.closure (roots.map Prod.fst) = before ++ name :: after)
    (earlier : ∀ n ∈ before, ∃ schema, spec.Defines n schema)
    (fails : spec.definitionOf name (spec.requester roots name) = .error e) :
    (spec.definitions roots).outcome = .error e := by
  have entryFails : Definitions.entryOf spec roots name = .error e := by
    rw [Definitions.entryOf, map_eq_error_iff]
    exact fails
  rw [outcome_definitions, map_eq_error_iff, mapM_eq_error_iff]
  refine ⟨name, before, after, split, fun n inBefore => ?_, entryFails⟩
  obtain ⟨schema, makes⟩ := earlier n inBefore
  exact ⟨(n, schema), entryOf_eq_ok_iff.mpr ⟨schema, makes, rfl⟩⟩

/-- A name of the closure that is no root is asked for by the first name that refers
to it. -/
theorem exists_requester_of_not_root {spec : Spec} {roots : List (String × String)}
    {name : String} (onList : name ∈ spec.closure (roots.map Prod.fst))
    (noRoot : name ∉ roots.map Prod.fst) :
    ∃ n, (spec.closure (roots.map Prod.fst)).find?
        (fun m => (spec.referencesOf m).contains name) = some n ∧
      spec.requester roots name = "referenced by definition '" ++ n ++ "'" := by
  have noFirst : roots.find? (fun root => root.1 == name) = none := by
    refine List.find?_eq_none.mpr fun root present same => noRoot ?_
    exact List.mem_map.mpr ⟨root, present, beq_iff_eq.mp same⟩
  rcases (spec.closure_isLimit (roots.map Prod.fst)).root_or_next onList with
    root | ⟨m, entry, refers⟩
  · exact absurd root noRoot
  · cases first : (spec.closure (roots.map Prod.fst)).find?
        fun m => (spec.referencesOf m).contains name with
    | none =>
        have silent := List.find?_eq_none.mp first m entry
        exact absurd (List.contains_iff_mem.mpr refers) silent
    | some n => exact ⟨n, rfl, requester_of_reference noFirst first⟩

/-- Defining the names that the roots reach gives exactly the closure of the roots,
each name with its definition.  If some name of the closure has no definition, the
first such name decides the error; when it is unknown, the error names the first
root of that name or else the first definition that refers to it. -/
theorem definitions_follow_closure (spec : Spec) (roots : List (String × String)) :
    IsLimit spec.referencesOf (roots.map Prod.fst) (spec.closure (roots.map Prod.fst)) ∧
      (∀ schemas, List.Forall₂ spec.Defines (spec.closure (roots.map Prod.fst)) schemas →
        (spec.definitions roots).outcome =
          .ok ⟨(spec.closure (roots.map Prod.fst)).zip schemas⟩) ∧
      ∀ before name after, spec.closure (roots.map Prod.fst) = before ++ name :: after →
        (∀ n ∈ before, ∃ schema, spec.Defines n schema) →
          (∀ s e, spec.findType? name = some s → (spec.synthesize s).outcome = .error e →
            (spec.definitions roots).outcome = .error e) ∧
          (spec.findType? name = none →
            (∀ root, roots.find? (fun other => other.1 == name) = some root →
              (spec.definitions roots).outcome =
                .error (.unresolvedReference name root.2)) ∧
            (name ∉ roots.map Prod.fst →
              ∃ n, (spec.closure (roots.map Prod.fst)).find?
                  (fun m => (spec.referencesOf m).contains name) = some n ∧
                (spec.definitions roots).outcome = .error (.unresolvedReference name
                  ("referenced by definition '" ++ n ++ "'")))) := by
  refine ⟨spec.closure_isLimit (roots.map Prod.fst), ?_, ?_⟩
  · intro schemas defined
    exact outcome_definitions_of_defines defined
  · intro before name after split earlier
    apply And.intro
    · intro s e found fails
      apply outcome_definitions_of_first split earlier
      rw [definitionOf, found]
      exact fails
    · intro unknown
      have unresolved : (spec.definitions roots).outcome =
          .error (.unresolvedReference name (spec.requester roots name)) := by
        apply outcome_definitions_of_first split earlier
        rw [definitionOf, unknown]
      apply And.intro
      · intro root first
        rw [unresolved, requester_of_root first]
      · intro noRoot
        have onList : name ∈ spec.closure (roots.map Prod.fst) := by simp [split]
        obtain ⟨n, first, asks⟩ := exists_requester_of_not_root onList noRoot
        exact ⟨n, first, by rw [unresolved, asks]⟩

end Spec

end ApiDoc
