/-
# Where the members of a request end up

On a route that does more than read, three rules place the members of a request, and
none of them looks at the others.  Tags decide whether a member travels as a header or
belongs in the body; a `json` tag or an embedded struct decides whether the operation has
a body; and the definition of the request, which the body refers to, keeps every member
that is not part of the path.

This module puts the three together for every operation of a document.  It also shows
what they do not give: a place for every member, and only one.
-/

import ApiDoc.Proofs.ParameterLayout
import ApiDoc.Proofs.Success

namespace ApiDoc

/-! ## Operations and their members -/

/-- The operation of a route stands in the document of a description. -/
structure Spec.Emits (spec : Spec) (d : Document) (path : String) (method : Method)
    (entry : Group × Route) (o : Operation) : Prop where
  /-- The description has the document. -/
  generated : spec.document.outcome = .ok d
  /-- The document has the operation under the path and method. -/
  stored : ∃ item, (path, item) ∈ d.paths.entries ∧ item.operation? method = some o
  /-- The route is the last one there. -/
  last : spec.lastRoute? path method = some entry

namespace Document

/-- A property of one of the definitions. -/
def property? (d : Document) (name key : String) : Option Schema :=
  (d.definitions.get? name).bind fun schema =>
    schema.properties.bind fun properties => properties.get? key

/-- A member travels as a header, or it belongs in the body and is a property of the
definition of its request. -/
inductive Carries (d : Document) (o : Operation) (readOnly : Bool) (request : String)
    (m : Member) : Prop
  | header {tagged : TaggedMember} (read : m.tagged = .ok tagged)
      (there : (tagged.classify readOnly).location = .header)
      (sent : tagged.parameter (tagged.classify readOnly) ∈ o.parameters) :
      Carries d o readOnly request m
  | body {tagged : TaggedMember} (read : m.tagged = .ok tagged)
      (there : (tagged.classify readOnly).location = .body)
      (listed : (d.property? request tagged.propertyName).isSome) :
      Carries d o readOnly request m

/-- How an operation carries a request. -/
structure CarriesRequest (d : Document) (o : Operation) (readOnly : Bool)
    (request : StructType) : Prop where
  /-- The operation has a body exactly when the request has one. -/
  body : (∃ p ∈ o.parameters, p.location = .body) ↔ request.hasBody
  /-- The schema of a body is the definition of the request. -/
  definition : ∀ p ∈ o.parameters, p.location = .body → p.IsBodyOf request.name
  /-- Every member that holds a value and is not part of the path is carried. -/
  members : ∀ m ∈ request.members, m.isInline = false → m.hasTag Tag.pathKey = false →
    d.Carries o readOnly request.name m

/-- A member travels in exactly one place: as a header, without the property it would
make in the definition that a body refers to, or as a property of that definition. -/
def CarriesOnce (d : Document) (o : Operation) (readOnly : Bool) (m : TaggedMember) : Prop :=
  match (m.classify readOnly).location with
  | .header => m.parameter (m.classify readOnly) ∈ o.parameters ∧
      ∀ p ∈ o.parameters, ∀ name, p.IsBodyOf name →
        d.property? name m.propertyName ≠ some m.propertySchema
  | .body => ∃ p ∈ o.parameters, ∃ name, p.IsBodyOf name ∧
      (d.property? name m.propertyName).isSome
  | .path | .query => False

end Document

/-- Every member of a request that holds a value and is not part of the path travels in
exactly one place, on every route that does more than read. -/
def Spec.CarriesEachOnce (spec : Spec) : Prop :=
  ∀ d path method entry o, spec.Emits d path method entry o → method ≠ .get →
    ∀ name, named? entry.2.requestType = some name →
      ∃ request, spec.findType? name = some request ∧
        ∀ m ∈ request.members, m.isInline = false → m.hasTag Tag.pathKey = false →
          ∃ tagged, m.tagged = .ok tagged ∧ d.CarriesOnce o (isReadOnly entry.2.method) tagged

/-! ## Headers, body and definition -/

/-- A member that holds a value and is not part of the path is a header or belongs in the
body. -/
theorem Member.location_of_writes {m : Member} {tagged : TaggedMember}
    (read : m.tagged = .ok tagged) (plain : m.isInline = false)
    (offPath : m.hasTag Tag.pathKey = false) :
    (tagged.classify false).location = if m.hasTag Tag.headerKey then .header else .body := by
  rw [Member.hasTag_eq read] at offPath ⊢
  simp [TaggedMember.location_classify, Member.member_of_tagged read, plain, offPath]

/-- Every contribution is a property of the definition, if not with its own schema. -/
theorem StructType.exists_property_of_mem (s : StructType) {members : List TaggedMember}
    {m : TaggedMember} (listed : m ∈ members) :
    ∃ properties, (s.definition members).properties = some properties ∧
      (properties.get? m.propertyName).isSome := by
  refine ⟨(members.foldl PropertyList.add {}).properties, rfl, ?_⟩
  rw [← Table.mem_keys_iff, PropertyList.keys_foldl_add, List.mem_eraseDups]
  exact List.mem_map_of_mem listed

namespace Spec

variable {spec : Spec} {name : String}

/-- A member that holds a value and is not part of the path contributes itself. -/
theorem mem_contributions_of_own {s : StructType} {members : List TaggedMember}
    (contributed : (spec.contributions s).outcome = .ok members) {m : Member}
    {tagged : TaggedMember} (listed : m ∈ s.members) (read : m.tagged = .ok tagged)
    (plain : m.isInline = false) (offPath : m.hasTag Tag.pathKey = false) :
    tagged ∈ members := by
  rw [contributions, Logged.outcome_bind, Logged.outcome_forEach, bind_eq_ok_iff] at contributed
  rcases contributed with ⟨parts, run, gathered⟩
  obtain rfl : parts.flatten = members := Except.ok.inj gathered
  have own : m.embedded? = none := by
    rw [Member.embedded?, if_neg (by simp [plain])]
  have itself : tagged.ownContributions = [tagged] := by
    rw [Member.hasTag_eq read] at offPath
    rw [TaggedMember.ownContributions, TaggedMember.isPath, TaggedMember.isPlainWith, offPath,
      Bool.and_false, if_neg Bool.false_ne_true]
  have value : (spec.contribution s.name m).outcome = .ok [tagged] := by
    rw [outcome_contribution_of_own own, read]
    exact congrArg Except.ok itself
  exact List.mem_flatten.mpr
    ⟨[tagged], (mem_results_iff run).mpr ⟨m, listed, value⟩, List.mem_singleton_self tagged⟩

variable {t : RouteTable} {definitions : Table Schema}

/-- A struct that a document needs has its definition in the document, under its name. -/
theorem exists_get?_of_needed (finished : spec.routeTable.outcome = .ok t)
    (made : (spec.definitions t.referenced.entries).outcome = .ok definitions)
    (needed : spec.Needed name) :
    ∃ schema, definitions.get? name = some schema ∧ spec.Defines name schema := by
  obtain ⟨keys, defined⟩ := definitions_of_routeTable finished made
  obtain ⟨schema, found⟩ :=
    Option.isSome_iff_exists.mp ((Table.mem_keys_iff definitions name).mp ((keys name).mpr needed))
  exact ⟨schema, found, defined name schema (Table.mem_entries_of_get? found)⟩

/-- Every member that holds a value and is not part of the path is a property of the
definition of its struct, wherever it travels. -/
theorem exists_property_of_needed (finished : spec.routeTable.outcome = .ok t)
    (made : (spec.definitions t.referenced.entries).outcome = .ok definitions)
    (needed : spec.Needed name) {s : StructType} (found : spec.findType? name = some s)
    {m : Member} (listed : m ∈ s.members) (plain : m.isInline = false)
    (offPath : m.hasTag Tag.pathKey = false) :
    ∃ tagged, m.tagged = .ok tagged ∧
      ((spec.assemble t definitions).property? name tagged.propertyName).isSome := by
  obtain ⟨schema, stored, defines⟩ := exists_get?_of_needed finished made needed
  obtain ⟨s', members, found', definable, contributed, rfl⟩ := contributions_of_defines defines
  obtain rfl : s = s' := Option.some.inj (found.symm.trans found')
  obtain ⟨tagged, read⟩ := Member.exists_tagged_iff.mpr (definable.readable m listed)
  have contributes : tagged ∈ members :=
    mem_contributions_of_own contributed listed read plain offPath
  obtain ⟨properties, isTable, present⟩ := s.exists_property_of_mem contributes
  refine ⟨tagged, read, ?_⟩
  show ((definitions.get? name).bind _).isSome
  rw [stored, Option.bind_some, isTable, Option.bind_some]
  exact present

/-! ## The headers and the body of an operation -/

section Layout

variable {request : StructType} {method : Method} {ps : List Parameter}

/-- Whatever is in the body is the definition of a request that has one. -/
theorem isBodyOf_of_laysOut (laidOut : spec.LaysOut request method ps) (writes : method ≠ .get)
    {p : Parameter} (listed : p ∈ ps) (inBody : p.location = .body) :
    request.hasBody ∧ p.IsBodyOf request.name := by
  obtain ⟨headers, body, rfl, sent, bodies⟩ := (laysOut_iff_of_writes writes).mp laidOut
  rcases List.mem_append.mp listed with isHeader | isBody
  · obtain ⟨m, -, inHeader, -⟩ := exists_left_of_forall₂ sent isHeader
    rw [inHeader] at inBody
    cases inBody
  · by_cases has : request.hasBody
    · rw [if_pos has] at bodies
      obtain ⟨b, rfl, itself⟩ := bodies
      obtain rfl := List.mem_singleton.mp isBody
      exact ⟨has, itself⟩
    · rw [if_neg has] at bodies
      subst bodies
      cases isBody

theorem exists_body_of_laysOut (laidOut : spec.LaysOut request method ps)
    (writes : method ≠ .get) (has : request.hasBody) : ∃ p ∈ ps, p.location = .body := by
  obtain ⟨headers, body, rfl, -, bodies⟩ := (laysOut_iff_of_writes writes).mp laidOut
  rw [if_pos has] at bodies
  obtain ⟨b, rfl, inBody, -⟩ := bodies
  exact ⟨b, List.mem_append_right _ (List.mem_singleton_self b), inBody⟩

theorem exists_header_of_laysOut (laidOut : spec.LaysOut request method ps)
    (writes : method ≠ .get) {m : Member} (isHeader : m ∈ request.headerMembers) :
    ∃ p ∈ ps, Parameter.Sends false .header m p := by
  obtain ⟨headers, body, rfl, sent, -⟩ := (laysOut_iff_of_writes writes).mp laidOut
  obtain ⟨p, listed, sends⟩ := exists_left_of_forall₂ sent.flip isHeader
  exact ⟨p, List.mem_append_left _ listed, sends⟩

end Layout

/-! ## Documents -/

/-- On every route that does more than read, a member of the request that holds a value
and is not part of the path is sent as a header, or is a property of the definition that
the body refers to.  Whether there is a body is up to the tags of the whole request. -/
theorem carriesRequest_of_emits {d : Document} {path : String} {method : Method}
    {entry : Group × Route} {o : Operation} (emits : spec.Emits d path method entry o)
    (writes : method ≠ .get) (named : named? entry.2.requestType = some name) :
    ∃ request, spec.findType? name = some request ∧
      d.CarriesRequest o (isReadOnly entry.2.method) request := by
  obtain ⟨t, definitions, finished, made, rfl⟩ := document_eq_ok_iff.mp emits.generated
  have wins := isLastWriterWins_of_routeTable finished
  obtain ⟨entry', last, built⟩ :=
    wins.operation?_eq_some_iff.mp (wins.mem_paths_iff.mp emits.stored)
  obtain rfl : entry = entry' := Option.some.inj (emits.last.symm.trans last)
  have hasMethod := hasMethod_of_lastRoute? last
  have reads : isReadOnly entry.2.method = false := by
    rw [isReadOnly_of_hasMethod hasMethod]
    simpa using writes
  obtain ⟨placeholders, others, parameters, inPath, laidOut⟩ :=
    laysOutRoute_operationOf hasMethod built
  rw [named] at laidOut
  obtain ⟨request, found, laidOut⟩ := laidOut
  have needed : spec.Needed name := by
    refine Needed.route (mem_supportedRoutes_of_lastRoute? last) ?_
    rw [Route.typeNames, named]
    exact List.mem_cons_self
  -- The placeholders of the path are not in the body.
  have inOthers : ∀ p ∈ o.parameters, p.location = .body → p ∈ others := by
    intro p listed inBody
    rw [parameters] at listed
    rcases List.mem_append.mp listed with isPlaceholder | isOther
    · obtain ⟨token, -, -, location, -⟩ := exists_left_of_forall₂ inPath isPlaceholder
      rw [location] at inBody
      cases inBody
    · exact isOther
  refine ⟨request, found, ?_⟩
  rw [reads]
  apply Document.CarriesRequest.mk
  case body =>
    apply Iff.intro
    · intro body
      rcases body with ⟨p, listed, inBody⟩
      exact (isBodyOf_of_laysOut laidOut writes (inOthers p listed inBody) inBody).1
    · intro has
      obtain ⟨p, listed, inBody⟩ := exists_body_of_laysOut laidOut writes has
      exact ⟨p, parameters ▸ List.mem_append_right placeholders listed, inBody⟩
  case definition =>
    intro p listed inBody
    exact (isBodyOf_of_laysOut laidOut writes (inOthers p listed inBody) inBody).2
  case members =>
    intro m listed plain offPath
    obtain ⟨tagged, read, property⟩ :=
      exists_property_of_needed finished made needed found listed plain offPath
    have location := Member.location_of_writes read plain offPath
    by_cases inHeader : m.hasTag Tag.headerKey
    · rw [if_pos inHeader] at location
      have isHeader : m ∈ request.headerMembers :=
        List.mem_filter.mpr ⟨listed, by simp [plain, offPath, inHeader]⟩
      obtain ⟨p, isOther, -, tagged', read', rfl⟩ := exists_header_of_laysOut laidOut writes isHeader
      obtain rfl : tagged = tagged' := Except.ok.inj (read.symm.trans read')
      exact .header read location (parameters ▸ List.mem_append_right placeholders isOther)
    · rw [if_neg inHeader] at location
      rw [← name_of_findType? found] at property
      exact .body read location property

/-- A member that travels as a header. -/
def traceHeader : Member :=
  { name := "Trace", type := .scalar "string", tag := "header:\"X-Trace\"" }

/-- A route that takes a trace. -/
def traceRoute : Route :=
  { method := "post", path := "/trace", handler := "store", requestType := some "TraceRequest" }

/-- A member with the given tag next to it. -/
def traceNote (tag : String) : Member :=
  { name := "Note", type := .scalar "string", tag := tag }

/-- A service whose only route takes a trace: a header, and a note with the given tag. -/
def tracing (tag : String) : Spec :=
  { service := { name := "traces", groups := [{ routes := [traceRoute] }] }
    types := [{ name := "TraceRequest", members := [traceHeader, traceNote tag] }] }

/-- The operation that a document has for a trace is that of the only route. -/
theorem exists_emits_tracing (tag : String) (ps : List Parameter)
    (run : (tracing tag).document.outcome.map (fun d =>
      ((d.paths.get? "/trace").bind fun item => item.operation? .post).map
        Operation.parameters) = .ok (some ps)) :
    ∃ d o, (tracing tag).Emits d "/trace" .post ({ routes := [traceRoute] }, traceRoute) o ∧
      o.parameters = ps := by
  obtain ⟨d, generated, present⟩ := map_eq_ok_iff.mp run
  obtain ⟨o, stored, parameters⟩ := Option.map_eq_some_iff.mp present
  obtain ⟨item, found, emitted⟩ := Option.bind_eq_some_iff.mp stored
  have last : (tracing tag).lastRoute? "/trace" .post =
      some ({ routes := [traceRoute] }, traceRoute) := by cbv
  exact ⟨d, o, ⟨generated, ⟨item, Table.mem_entries_of_get? found, emitted⟩, last⟩, parameters⟩

/-- The note is sent in the body when it has a tag for that. -/
theorem tracing_json_carriesRequest :
    ∃ d o request, (tracing "json:\"note\"").Emits d "/trace" .post
        ({ routes := [traceRoute] }, traceRoute) o ∧
      Method.post ≠ .get ∧ named? traceRoute.requestType = some "TraceRequest" ∧
      (tracing "json:\"note\"").findType? "TraceRequest" = some request ∧
      d.CarriesRequest o (isReadOnly traceRoute.method) request := by
  obtain ⟨d, o, emits, -⟩ := exists_emits_tracing "json:\"note\""
    [Parameter.text "X-Trace" .header, Parameter.bodyOf "TraceRequest"] (by cbv)
  have writes : Method.post ≠ .get := by decide
  have named : named? traceRoute.requestType = some "TraceRequest" := by cbv
  obtain ⟨request, found, carries⟩ := carriesRequest_of_emits emits writes named
  exact ⟨d, o, request, emits, writes, named, found, carries⟩

/-- A header that shares its request with a member of the body is a property of the
definition that the body refers to, and so travels twice. -/
theorem tracing_json_not_carriesEachOnce : ¬ (tracing "json:\"note\"").CarriesEachOnce := by
  intro once
  obtain ⟨d, o, emits, parameters⟩ := exists_emits_tracing "json:\"note\""
    [Parameter.text "X-Trace" .header, Parameter.bodyOf "TraceRequest"] (by cbv)
  obtain ⟨request, found, each⟩ :=
    once d "/trace" .post _ o emits (by decide) "TraceRequest" (by cbv)
  obtain rfl := Option.some.inj found
  obtain ⟨tagged, read, carries⟩ := each traceHeader List.mem_cons_self rfl (by cbv)
  have tags : traceHeader.tagged = .ok ⟨traceHeader, [⟨"header", "X-Trace", []⟩]⟩ := by cbv
  obtain rfl := Except.ok.inj (tags.symm.trans read)
  have isBody : Parameter.bodyOf "TraceRequest" ∈ o.parameters := by
    rw [parameters]
    exact List.mem_cons_of_mem _ List.mem_cons_self
  have property : (tracing "json:\"note\"").document.outcome.map (fun d =>
      d.property? "TraceRequest" "X-Trace") = .ok (some (.primitive "string" none)) := by cbv
  rw [emits.generated] at property
  exact carries.2 (Parameter.bodyOf "TraceRequest") isBody "TraceRequest" ⟨rfl, rfl, rfl⟩
    (Except.ok.inj property)

/-- A member that belongs in the body but has no tag that says so does not bring about a
body, and so travels nowhere. -/
theorem tracing_untagged_not_carriesEachOnce : ¬ (tracing "").CarriesEachOnce := by
  intro once
  obtain ⟨d, o, emits, parameters⟩ := exists_emits_tracing "" [Parameter.text "X-Trace" .header] (by cbv)
  obtain ⟨request, found, each⟩ :=
    once d "/trace" .post _ o emits (by decide) "TraceRequest" (by cbv)
  obtain rfl := Option.some.inj found
  have listed : traceNote "" ∈ [traceHeader, traceNote ""] := by simp
  obtain ⟨tagged, read, carries⟩ := each (traceNote "") listed rfl (by cbv)
  have untagged : (traceNote "").tagged = .ok ⟨traceNote "", []⟩ := by cbv
  obtain rfl := Except.ok.inj (untagged.symm.trans read)
  obtain ⟨p, isSent, name, ⟨inBody, -⟩, -⟩ := carries
  rw [parameters, List.mem_singleton] at isSent
  rw [isSent] at inBody
  cases inBody

/-- Neither service gives every member of its request one place. -/
theorem tracing_not_carriesEachOnce :
    ¬ (tracing "json:\"note\"").CarriesEachOnce ∧ ¬ (tracing "").CarriesEachOnce :=
  ⟨tracing_json_not_carriesEachOnce, tracing_untagged_not_carriesEachOnce⟩

end Spec

end ApiDoc
