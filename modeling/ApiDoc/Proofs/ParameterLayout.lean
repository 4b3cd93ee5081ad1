/-
# The order of the parameters of an operation

An operation lists the placeholders of its path first.  On a route that only reads, the
query string follows: every member of the request that is not part of the path, in order
of declaration, where an embedded struct stands for its own members.  On every other
route the headers follow, and then at most one body.

Which members these are is said here from the declared tags alone.  The request is run
member by member, and each member adds exactly the parameters of the members it stands
for.
-/

import ApiDoc.Proofs.Request
import ApiDoc.Proofs.RouteTable
import Mathlib

namespace ApiDoc

/-! ## The members that travel alone -/

/-- The tags of a member can be read, and one of them has the given key. -/
def Member.hasTag (m : Member) (key : String) : Bool :=
  match Tag.readAll m.tag with
  | .ok tags => tags.any fun t => t.key == key
  | .error _ => false

/-- The members of an embedded struct that travel in the query string. -/
def StructType.embeddedQueryMembers (s : StructType) : List Member :=
  s.members.filter fun n => !n.isInline && !n.hasTag Tag.pathKey && !n.hasTag Tag.headerKey

/-- The members that travel in the query string in the place of a member of a request: the
member itself unless it is part of the path, or those of the struct that it embeds. -/
def Spec.queryMembers (spec : Spec) (m : Member) : List Member :=
  if m.isInline then
    match m.embedded?.bind spec.findType? with
    | some inner => inner.embeddedQueryMembers
    | none => []
  else if m.hasTag Tag.pathKey then [] else [m]

/-- The members of a request that travel as headers. -/
def StructType.headerMembers (s : StructType) : List Member :=
  s.members.filter fun m => !m.isInline && m.hasTag Tag.headerKey && !m.hasTag Tag.pathKey

/-- A request has a body when it embeds a struct or one of its members belongs there. -/
def StructType.hasBody (s : StructType) : Bool :=
  s.members.any fun m => m.isInline || m.hasTag Tag.bodyKey

/-! ## The layout -/

namespace Parameter

/-- A required string in the path. -/
def IsPlaceholder (token : String) (p : Parameter) : Prop :=
  p.name = token ∧ p.location = .path ∧ p.required = true ∧ p.kind = some "string"

/-- The parameter sends the member at a location. -/
def Sends (readOnly : Bool) (location : Location) (m : Member) (p : Parameter) : Prop :=
  p.location = location ∧
    ∃ tagged, m.tagged = .ok tagged ∧ tagged.parameter (tagged.classify readOnly) = p

/-- A required body whose schema is the definition of a struct. -/
def IsBodyOf (name : String) (p : Parameter) : Prop :=
  p.location = .body ∧ p.required = true ∧ p.schema = some (.referenceTo name)

end Parameter

namespace Spec

/-- How the parameters of a request are laid out for a method. -/
def LaysOut (spec : Spec) (request : StructType) (method : Method) (ps : List Parameter) : Prop :=
  match method with
  | .get => List.Forall₂ (Parameter.Sends true .query) (request.members.flatMap spec.queryMembers) ps
  | .delete | .post | .put | .patch =>
    ∃ headers body, ps = headers ++ body ∧
      List.Forall₂ (Parameter.Sends false .header) request.headerMembers headers ∧
      if request.hasBody then ∃ p, body = [p] ∧ p.IsBodyOf request.name else body = []

/-- How the parameters of a route are laid out for its method: the placeholders of its
path, and then those of the request, if it names one. -/
def LaysOutRoute (spec : Spec) (entry : Group × Route) (method : Method)
    (ps : List Parameter) : Prop :=
  ∃ placeholders others, ps = placeholders ++ others ∧
    List.Forall₂ Parameter.IsPlaceholder (pathTokens (entry.2.pathIn entry.1)) placeholders ∧
    match named? entry.2.requestType with
    | none => others = []
    | some name => ∃ request, spec.findType? name = some request ∧
        spec.LaysOut request method others

theorem laysOut_iff_of_writes {spec : Spec} {request : StructType} {method : Method}
    {ps : List Parameter} (writes : method ≠ .get) :
    spec.LaysOut request method ps ↔ ∃ headers body, ps = headers ++ body ∧
      List.Forall₂ (Parameter.Sends false .header) request.headerMembers headers ∧
      if request.hasBody then ∃ p, body = [p] ∧ p.IsBodyOf request.name else body = [] := by
  cases method with
  | get => exact absurd rfl writes
  | delete | post | put | patch => exact Iff.rfl

end Spec

/-! ## One member -/

theorem Member.hasTag_eq {m : Member} {tagged : TaggedMember} (read : m.tagged = .ok tagged)
    (key : String) : m.hasTag key = (tagged.tag? key).isSome := by
  rw [Member.tagged, Tag.readFor] at read
  rw [hasTag]
  cases tags : Tag.readAll m.tag with
  | error fault =>
      rw [tags] at read
      cases read
  | ok found =>
      rw [tags] at read
      obtain rfl := Except.ok.inj read
      show (found.any fun t => t.key == key) = (found.find? fun t => t.key == key).isSome
      rw [Bool.eq_iff_iff, List.any_eq_true, List.find?_isSome]

namespace TaggedMember

variable {m : TaggedMember}

/-- Where a member travels, by its tags. -/
theorem location_classify (m : TaggedMember) (readOnly : Bool) :
    (m.classify readOnly).location =
      if m.member.isInline then .body
      else if (m.tag? Tag.pathKey).isSome then .path
      else if readOnly then .query
      else if (m.tag? Tag.headerKey).isSome then .header
      else .body := by
  rw [classify]
  by_cases inlined : m.member.isInline
  · rw [if_pos inlined, if_pos inlined]
  · rw [if_neg inlined, if_neg inlined]
    cases m.tag? Tag.pathKey with
    | some t => rfl
    | none =>
        cases readOnly with
        | true => cases m.tag? Tag.formKey <;> rfl
        | false => cases m.tag? Tag.headerKey <;> rfl

/-- A member of a request that only reads is sent in the query string unless it is part of
the path or embeds a struct. -/
theorem ownPart_true (m : TaggedMember) :
    m.ownPart true = { inBody := m.isBody, queries :=
      if !m.member.isInline && !(m.tag? Tag.pathKey).isSome then
        [m.parameter (m.classify true)] else [] } := by
  have location := m.location_classify true
  rw [ownPart]
  by_cases inlined : m.member.isInline
  · rw [if_pos inlined] at location
    simp [location, inlined]
  · rw [if_neg inlined] at location
    by_cases inPath : (m.tag? Tag.pathKey).isSome
    · rw [if_pos inPath] at location
      simp [location, inPath]
    · rw [if_neg inPath, if_pos rfl] at location
      simp [location, inlined, inPath]

/-- A member of a request that does more than read is sent as a header when its tags say
so and it is not part of the path. -/
theorem ownPart_false (m : TaggedMember) :
    m.ownPart false = { inBody := m.isBody, headers :=
      if !m.member.isInline && (m.tag? Tag.headerKey).isSome && !(m.tag? Tag.pathKey).isSome then
        [m.parameter (m.classify false)] else [] } := by
  have location := m.location_classify false
  rw [ownPart]
  by_cases inlined : m.member.isInline
  · rw [if_pos inlined] at location
    simp [location, inlined]
  · rw [if_neg inlined] at location
    by_cases inPath : (m.tag? Tag.pathKey).isSome
    · rw [if_pos inPath] at location
      simp [location, inPath]
    · rw [if_neg inPath, if_neg Bool.false_ne_true] at location
      by_cases inHeader : (m.tag? Tag.headerKey).isSome
      · rw [if_pos inHeader] at location
        simp [location, inlined, inPath, inHeader]
      · rw [if_neg inHeader] at location
        simp [location, inHeader]

/-- A member of an embedded struct is sent in the query string unless it embeds a struct
itself or travels in the path or as a header. -/
theorem embeddedQueries_eq (m : TaggedMember) :
    m.embeddedQueries =
      if !m.member.isInline && !(m.tag? Tag.pathKey).isSome && !(m.tag? Tag.headerKey).isSome then
        [m.parameter (m.classify true)] else [] := by
  have location := m.location_classify true
  rw [embeddedQueries, isPath, isHeader, isPlainWith, isPlainWith]
  by_cases inlined : m.member.isInline
  · rw [if_pos inlined] at location
    simp [location, inlined]
  · rw [if_neg inlined] at location
    by_cases inPath : (m.tag? Tag.pathKey).isSome
    · simp [inlined, inPath]
    · rw [if_neg inPath, if_pos rfl] at location
      by_cases inHeader : (m.tag? Tag.headerKey).isSome <;>
        simp [location, inlined, inPath, inHeader]

theorem sends_parameter {n : Member} {readOnly : Bool} {location : Location}
    (read : n.tagged = .ok m) (there : (m.classify readOnly).location = location) :
    Parameter.Sends readOnly location n (m.parameter (m.classify readOnly)) :=
  ⟨(m.location_parameter _).trans there, m, read, rfl⟩

end TaggedMember

namespace Spec

variable {spec : Spec} {parent : String} {m : Member} {part : RequestPart}

/-- What the members of an embedded struct send in the query string. -/
theorem forall₂_of_fromEmbedded {name : String} {inner : StructType} {queries : List Parameter}
    (run : spec.fromEmbedded TaggedMember.embeddedQueries name parent = .ok queries)
    (found : spec.findType? name = some inner) :
    List.Forall₂ (Parameter.Sends true .query) inner.embeddedQueryMembers queries := by
  rw [fromEmbedded, findEmbedded_eq_ok_iff.mpr found] at run
  obtain ⟨parts, each, rfl⟩ := map_eq_ok_iff.mp run
  rw [← List.flatMap_id]
  apply forall₂_filter_flatMap
  refine (mapM_eq_ok_iff.mp each).imp fun n part value => ?_
  obtain ⟨tagged, read, rfl⟩ := map_eq_ok_iff.mp value
  rw [Member.hasTag_eq read, Member.hasTag_eq read, ← Member.member_of_tagged read, id_eq,
    TaggedMember.embeddedQueries_eq]
  split
  · next kept =>
      simp only [Bool.and_eq_true, Bool.not_eq_true'] at kept
      obtain ⟨⟨plain, offPath⟩, -⟩ := kept
      refine ⟨_, rfl, TaggedMember.sends_parameter ?_ ?_⟩
      · rw [Member.member_of_tagged read, read]
      · simp [TaggedMember.location_classify, plain, offPath]
  · rfl

/-- A member of a request that only reads adds the query parameters of the members it
stands for, and no header. -/
theorem sends_requestPart_of_reads (run : (spec.requestPart parent true m).outcome = .ok part) :
    List.Forall₂ (Parameter.Sends true .query) (spec.queryMembers m) part.queries ∧
      part.headers = [] := by
  cases embeds : m.embedded? with
  | some name =>
      rw [outcome_requestPart_of_embedded embeds, bind_eq_ok_iff] at run
      rcases run with ⟨tagged, read, run⟩
      obtain ⟨queries, given, rfl⟩ := map_eq_ok_iff.mp run
      obtain ⟨inner, found, -⟩ := exists_fromEmbedded_iff.mp ⟨queries, given⟩
      have members : spec.queryMembers m = inner.embeddedQueryMembers := by
        rw [queryMembers, if_pos (Member.isInline_of_embedded embeds), embeds, Option.bind_some,
          found]
      rw [members]
      exact ⟨forall₂_of_fromEmbedded given found, rfl⟩
  | none =>
      rw [outcome_requestPart_of_own fun _ => embeds, map_eq_ok_iff] at run
      rcases run with ⟨tagged, read, rfl⟩
      have same : tagged.member = m := Member.member_of_tagged read
      rw [TaggedMember.ownPart_true, same, ← Member.hasTag_eq read]
      refine ⟨?_, rfl⟩
      by_cases inlined : m.isInline
      · simp [queryMembers, inlined, embeds]
      · by_cases inPath : m.hasTag Tag.pathKey
        · simp [queryMembers, inlined, inPath]
        · have sends : Parameter.Sends true .query m (tagged.parameter (tagged.classify true)) := by
            apply TaggedMember.sends_parameter read
            rw [Member.hasTag_eq read] at inPath
            simp [TaggedMember.location_classify, same, inlined, inPath]
          simp [queryMembers, inlined, inPath, sends]

/-- A member of a request that does more than read adds its header if it travels as one,
nothing to the query string, and counts towards the body when it belongs there. -/
theorem sends_requestPart_of_writes (run : (spec.requestPart parent false m).outcome = .ok part) :
    (if !m.isInline && m.hasTag Tag.headerKey && !m.hasTag Tag.pathKey then
        ∃ p, part.headers = [p] ∧ Parameter.Sends false .header m p
      else part.headers = []) ∧
      part.queries = [] ∧ (m.isInline || m.hasTag Tag.bodyKey) = part.inBody := by
  have own : false = true → m.embedded? = none := nofun
  rw [outcome_requestPart_of_own own, map_eq_ok_iff] at run
  rcases run with ⟨tagged, read, rfl⟩
  have same : tagged.member = m := Member.member_of_tagged read
  rw [TaggedMember.ownPart_false, same, ← Member.hasTag_eq read, ← Member.hasTag_eq read]
  refine ⟨?_, rfl, ?_⟩
  · split
    · next sent =>
        refine ⟨_, rfl, TaggedMember.sends_parameter read ?_⟩
        simp only [Bool.and_eq_true, Bool.not_eq_true'] at sent
        obtain ⟨⟨plain, inHeader⟩, offPath⟩ := sent
        rw [Member.hasTag_eq read] at inHeader offPath
        simp [TaggedMember.location_classify, same, plain, inHeader, offPath]
    · rfl
  · rw [TaggedMember.isBody, same, Member.hasTag_eq read]

/-! ## A whole request -/

/-- The parameters of a request are laid out for the method of its route. -/
theorem laysOut_requestParameters {request : StructType} {method : Method} {ps : List Parameter}
    (run : (spec.requestParameters request (method == .get)).outcome = .ok ps) :
    spec.LaysOut request method ps := by
  rw [requestParameters, Logged.outcome_bind, Logged.outcome_forEach, bind_eq_ok_iff] at run
  rcases run with ⟨parts, run, gathered⟩
  have each := mapM_eq_ok_iff.mp run
  replace gathered := Except.ok.inj gathered
  by_cases reads : method = .get
  · subst reads
    have noHeaders : parts.flatMap RequestPart.headers = [] := by
      rw [List.flatMap_eq_nil_iff]
      intro part isPart
      obtain ⟨m, -, value⟩ := (mem_results_iff run).mp isPart
      exact (sends_requestPart_of_reads value).2
    have queries : parts.flatMap RequestPart.queries = ps := by
      rw [← gathered, noHeaders]
      simp
    rw [← queries]
    exact List.rel_flatMap each fun m part value => (sends_requestPart_of_reads value).1
  · have writes : (method == .get) = false := by simpa using reads
    rw [writes] at each run gathered
    have noQueries : parts.flatMap RequestPart.queries = [] := by
      rw [List.flatMap_eq_nil_iff]
      intro part isPart
      obtain ⟨m, -, value⟩ := (mem_results_iff run).mp isPart
      exact (sends_requestPart_of_writes value).2.1
    have body : request.hasBody = parts.any RequestPart.inBody :=
      any_eq_of_forall₂ (each.imp fun m part value => (sends_requestPart_of_writes value).2.2)
    rw [laysOut_iff_of_writes reads]
    refine ⟨parts.flatMap RequestPart.headers,
      if request.hasBody then [request.bodyParameter] else [], ?_, ?_, ?_⟩
    · rw [← gathered, noQueries, List.append_nil, body]
      rfl
    · exact forall₂_filter_flatMap
        (each.imp fun m part value => (sends_requestPart_of_writes value).1)
    · split
      · exact ⟨request.bodyParameter, rfl, rfl, rfl, rfl⟩
      · rfl

/-! ## Operations -/

/-- The placeholders of a route become required strings in the path. -/
theorem isPlaceholder_pathParameter (r : Route) (tokens : List String) :
    List.Forall₂ Parameter.IsPlaceholder tokens (tokens.map r.pathParameter) := by
  rw [List.forall₂_map_right_iff, List.forall₂_same]
  exact fun _ _ => ⟨rfl, rfl, rfl, rfl⟩

theorem isReadOnly_of_hasMethod {r : Route} {method : Method} (named : r.hasMethod method) :
    isReadOnly r.method = (method == .get) := by
  rw [isReadOnly, Route.hasMethod_iff.mp named]
  rfl

theorem hasMethod_of_lastRoute? {path : String} {method : Method} {entry : Group × Route}
    (last : spec.lastRoute? path method = some entry) : entry.2.hasMethod method := by
  have here := (List.mem_filter.mp (List.mem_of_getLast? last)).2
  rw [Route.isAt, Bool.and_eq_true] at here
  exact here.2

/-- The parameters of an operation are laid out for the method of its route. -/
theorem laysOutRoute_operationOf {entry : Group × Route} {method : Method} {o : Operation}
    (named : entry.2.hasMethod method) (built : spec.operationOf entry = .ok o) :
    spec.LaysOutRoute entry method o.parameters := by
  have reads := isReadOnly_of_hasMethod named
  rw [operationOf, operation, Logged.outcome_bind, bind_eq_ok_iff] at built
  rcases built with ⟨others, run, assembled⟩
  refine ⟨(pathTokens (entry.2.pathIn entry.1)).map entry.2.pathParameter, others, ?_,
    isPlaceholder_pathParameter entry.2 _, ?_⟩
  · rw [← Except.ok.inj assembled]
  cases request : named? entry.2.requestType with
  | none =>
      simp only [parametersOf, request] at run
      exact (Except.ok.inj run).symm
  | some name =>
      cases found : spec.findType? name with
      | none =>
          simp only [parametersOf, request, found] at run
          cases run
      | some s =>
          simp only [parametersOf, request, found, reads] at run
          exact ⟨s, found, laysOut_requestParameters run⟩

/-- A request that only reads is sent in the query string alone, and every other one in
headers and a body. -/
theorem location_of_laysOut {request : StructType} {method : Method} {ps : List Parameter}
    (laidOut : spec.LaysOut request method ps) {p : Parameter} (listed : p ∈ ps) :
    if method = .get then p.location = .query else p.location = .header ∨ p.location = .body := by
  by_cases reads : method = .get
  · subst reads
    obtain ⟨m, -, location, -⟩ := exists_left_of_forall₂ laidOut listed
    exact location
  · rw [if_neg reads]
    obtain ⟨headers, body, rfl, sent, bodies⟩ := (laysOut_iff_of_writes reads).mp laidOut
    rcases List.mem_append.mp listed with isHeader | isBody
    · obtain ⟨m, -, location, -⟩ := exists_left_of_forall₂ sent isHeader
      exact Or.inl location
    · split at bodies
      · obtain ⟨b, rfl, location, -⟩ := bodies
        obtain rfl := List.mem_singleton.mp isBody
        exact Or.inr location
      · subst bodies
        cases isBody

/-- The placeholders of a path come first among the parameters of a route, and what the
request adds is never in the path: a route that only reads sends it in the query string,
and no other route does. -/
theorem split_of_laysOutRoute {entry : Group × Route} {method : Method} {ps : List Parameter}
    (laidOut : spec.LaysOutRoute entry method ps) :
    ∃ placeholders others, ps = placeholders ++ others ∧
      List.Forall₂ Parameter.IsPlaceholder (pathTokens (entry.2.pathIn entry.1)) placeholders ∧
      ∀ p ∈ others,
        if method = .get then p.location = .query
        else p.location = .header ∨ p.location = .body := by
  obtain ⟨placeholders, others, split, inPath, request⟩ := laidOut
  refine ⟨placeholders, others, split, inPath, fun p listed => ?_⟩
  cases named : named? entry.2.requestType with
  | none =>
      rw [named] at request
      obtain rfl : others = [] := request
      cases listed
  | some name =>
      rw [named] at request
      obtain ⟨s, -, request⟩ := request
      exact location_of_laysOut request listed

/-- Apart from the placeholders of its path, a route that only reads sends everything in
the query string, and every other route sends nothing there. -/
theorem location_of_laysOutRoute {entry : Group × Route} {method : Method} {ps : List Parameter}
    (laidOut : spec.LaysOutRoute entry method ps) {p : Parameter} (listed : p ∈ ps) :
    p.location = .path ∨
      if method = .get then p.location = .query else p.location = .header ∨ p.location = .body := by
  obtain ⟨placeholders, others, rfl, inPath, elsewhere⟩ := split_of_laysOutRoute laidOut
  rcases List.mem_append.mp listed with isPlaceholder | isOther
  · obtain ⟨token, -, -, location, -⟩ := exists_left_of_forall₂ inPath isPlaceholder
    exact Or.inl location
  · exact Or.inr (elsewhere p isOther)

/-- Under every path and method of a finished table stands an operation whose parameters
are laid out for the last route there.  A route that only reads has neither headers nor a
body, and no other route has a query string. -/
theorem operation_laidOut {t : RouteTable} (finished : spec.routeTable.outcome = .ok t)
    {path : String} {method : Method} {o : Operation}
    (emitted : t.operation? path method = some o) :
    ∃ entry, spec.lastRoute? path method = some entry ∧
      spec.LaysOutRoute entry method o.parameters ∧
      (method = .get → ∀ p ∈ o.parameters, p.location = .path ∨ p.location = .query) ∧
      (method ≠ .get → ∀ p ∈ o.parameters, p.location ≠ .query) := by
  obtain ⟨entry, last, built⟩ :=
    (isLastWriterWins_of_routeTable finished).operation?_eq_some_iff.mp emitted
  have laidOut := laysOutRoute_operationOf (hasMethod_of_lastRoute? last) built
  refine ⟨entry, last, laidOut, ?_, ?_⟩
  · intro reads p listed
    have location := location_of_laysOutRoute laidOut listed
    rwa [if_pos reads] at location
  · intro writes p listed inQuery
    have location := location_of_laysOutRoute laidOut listed
    rw [if_neg writes, inQuery] at location
    rcases location with location | location | location <;> cases location

/-- A service that lists and changes items under one path, with members that travel in
every way. -/
def catalogue : Spec :=
  { service :=
      { name := "catalogue"
        groups := [{ routes :=
          [{ method := "get", path := "/items/:id", handler := "read",
             requestType := some "ItemRequest" },
            { method := "POST", path := "items/:id", handler := "write",
              requestType := some " ItemRequest " }] }] }
    types :=
      [{ name := "ItemRequest", members :=
          [{ name := "Id", type := .scalar "int64", tag := "path:\"id\"" },
            { name := "Note", type := .scalar "string", tag := "json:\"note\"" },
            .embedding "Paging",
            { name := "Trace", type := .scalar "string", tag := "header:\"X-Trace\"" }] },
        { name := "Paging", members :=
          [{ name := "Size", type := .scalar "int", tag := "form:\"size\"" },
            { name := "Token", type := .scalar "string", tag := "header:\"Authorization\"" },
            { name := "Scope", type := .scalar "string", tag := "path:\"scope\"" }] }] }

/-- Both operations on the items have their parameters in order. -/
theorem catalogue_operations_laidOut :
    ∃ t reading writing, catalogue.routeTable.outcome = .ok t ∧
      t.operation? "/items/\x7bid\x7d" .get = some reading ∧
      t.operation? "/items/\x7bid\x7d" .post = some writing ∧
      reading.parameters.map (fun p => (p.name, p.location)) =
        [("id", .path), ("Note", .query), ("size", .query), ("Trace", .query)] ∧
      writing.parameters.map (fun p => (p.name, p.location)) =
        [("id", .path), ("X-Trace", .header), ("body", .body)] ∧
      (∃ entry, catalogue.lastRoute? "/items/\x7bid\x7d" .get = some entry ∧
        catalogue.LaysOutRoute entry .get reading.parameters) ∧
      ∃ entry, catalogue.lastRoute? "/items/\x7bid\x7d" .post = some entry ∧
        catalogue.LaysOutRoute entry .post writing.parameters := by
  have run : catalogue.routeTable.outcome.map (fun t =>
      [Method.get, Method.post].map fun method => (t.operation? "/items/\x7bid\x7d" method).map
        fun o => o.parameters.map fun p => (p.name, p.location)) =
      .ok [some [("id", .path), ("Note", .query), ("size", .query), ("Trace", .query)],
        some [("id", .path), ("X-Trace", .header), ("body", .body)]] := by cbv
  obtain ⟨t, finished, operations⟩ := map_eq_ok_iff.mp run
  simp only [List.map_cons, List.map_nil, List.cons.injEq, Option.map_eq_some_iff, and_true]
    at operations
  obtain ⟨⟨reading, isReading, readingLayout⟩, writing, isWriting, writingLayout⟩ := operations
  obtain ⟨first, isFirst, firstLaidOut, -⟩ := operation_laidOut finished isReading
  obtain ⟨second, isSecond, secondLaidOut, -⟩ := operation_laidOut finished isWriting
  exact ⟨t, reading, writing, finished, isReading, isWriting, readingLayout, writingLayout,
    ⟨first, isFirst, firstLaidOut⟩, second, isSecond, secondLaidOut⟩

end Spec

end ApiDoc
