/-
# The parameters that a request sends

A member of a request travels as a parameter of its own, or it gives way to the members of
the struct that it embeds, or it is not sent alone at all.  Besides the members that travel
alone, an operation has the placeholders of its path and at most one body.  So what is to be
said about the parameters of a document comes down to those members.
-/

import ApiDoc.Proofs.Request
import ApiDoc.Proofs.RouteTable

namespace ApiDoc

/-! ## Members that travel alone -/

/-- A member of a request travels as a parameter of its own: in the query string or
as a header, or in the query string because its struct is embedded in a request
that only reads. -/
inductive Spec.SendsAlone (spec : Spec) (readOnly : Bool) (m : Member) : TaggedMember → Prop
  | own {tagged : TaggedMember} (read : m.tagged = .ok tagged)
      (away : (tagged.classify readOnly).location = .query ∨
        (tagged.classify readOnly).location = .header) : SendsAlone spec readOnly m tagged
  | embedded {name : String} {inner : StructType} {n : Member} {tagged : TaggedMember}
      (readsOnly : readOnly = true) (embeds : m.embedded? = some name)
      (found : spec.findType? name = some inner) (listed : n ∈ inner.members)
      (read : n.tagged = .ok tagged) (stays : ¬ (tagged.isPath || tagged.isHeader))
      (away : (tagged.classify true).location = .query) : SendsAlone spec readOnly m tagged

/-- A route sends a member as a parameter of its own. -/
def Spec.Sends (spec : Spec) (r : Route) (tagged : TaggedMember) : Prop :=
  ∃ name request m, named? r.requestType = some name ∧ spec.findType? name = some request ∧
    m ∈ request.members ∧ spec.SendsAlone (isReadOnly r.method) m tagged

/-- The parameter as which a route sends a member. -/
def Route.parameterOf (r : Route) (tagged : TaggedMember) : Parameter :=
  tagged.parameter (tagged.classify (isReadOnly r.method))

namespace TaggedMember

variable {m : TaggedMember} {p : Parameter}

theorem mem_embeddedQueries_iff :
    p ∈ m.embeddedQueries ↔
      ¬ (m.isPath || m.isHeader) ∧ (m.classify true).location = .query ∧
        p = m.parameter (m.classify true) := by
  rw [embeddedQueries]
  by_cases elsewhere : m.isPath || m.isHeader
  · simp [elsewhere]
  · by_cases sent : (m.classify true).location = .query
    · simp [elsewhere, sent]
    · simp [elsewhere, sent]

theorem mem_ownPart_iff {readOnly : Bool} :
    p ∈ (m.ownPart readOnly).headers ++ (m.ownPart readOnly).queries ↔
      ((m.classify readOnly).location = .query ∨ (m.classify readOnly).location = .header) ∧
        p = m.parameter (m.classify readOnly) := by
  cases location : (m.classify readOnly).location <;> simp [ownPart, location]

end TaggedMember

namespace Spec

variable {spec : Spec} {parent : String} {m : Member} {readOnly : Bool}

/-- A parameter of its own is in the query string or a header. -/
theorem SendsAlone.away {tagged : TaggedMember} (alone : spec.SendsAlone readOnly m tagged) :
    (tagged.classify readOnly).location = .query ∨
      (tagged.classify readOnly).location = .header := by
  cases alone with
  | own read away => exact away
  | embedded readsOnly embeds found listed read stays away =>
      rw [readsOnly]
      exact Or.inl away

theorem sendsAlone_iff_of_own (own : readOnly = true → m.embedded? = none)
    {tagged : TaggedMember} (read : m.tagged = .ok tagged) {other : TaggedMember} :
    spec.SendsAlone readOnly m other ↔
      tagged = other ∧ ((tagged.classify readOnly).location = .query ∨
        (tagged.classify readOnly).location = .header) := by
  apply Iff.intro
  · intro alone
    cases alone with
    | own otherRead away =>
        obtain rfl : tagged = other := Except.ok.inj (read.symm.trans otherRead)
        exact ⟨rfl, away⟩
    | embedded readsOnly embeds =>
        rw [own readsOnly] at embeds
        cases embeds
  · intro sent
    rcases sent with ⟨rfl, away⟩
    exact SendsAlone.own read away

/-- An embedded struct is not sent itself; its members are. -/
theorem sendsAlone_iff_of_embedded {name : String} {inner : StructType}
    (embeds : m.embedded? = some name) (found : spec.findType? name = some inner)
    {other : TaggedMember} :
    spec.SendsAlone true m other ↔
      ∃ n ∈ inner.members, n.tagged = .ok other ∧ ¬ (other.isPath || other.isHeader) ∧
        (other.classify true).location = .query := by
  apply Iff.intro
  · intro alone
    cases alone with
    | own read away =>
        have inlined : other.member.isInline = true := by
          rw [Member.member_of_tagged read]
          exact Member.isInline_of_embedded embeds
        rw [TaggedMember.location_of_inline inlined] at away
        exact absurd away nofun
    | @embedded name' inner' n _ _ embeds' found' listed read stays away =>
        obtain rfl : name = name' := Option.some.inj (embeds.symm.trans embeds')
        obtain rfl : inner = inner' := Option.some.inj (found.symm.trans found')
        exact ⟨n, listed, read, stays, away⟩
  · intro sent
    rcases sent with ⟨n, listed, read, stays, away⟩
    exact SendsAlone.embedded rfl embeds found listed read stays away

theorem Sends.away {r : Route} {tagged : TaggedMember} (sends : spec.Sends r tagged) :
    (tagged.classify (isReadOnly r.method)).location = .query ∨
      (tagged.classify (isReadOnly r.method)).location = .header := by
  obtain ⟨_, _, _, _, _, _, alone⟩ := sends
  exact alone.away

theorem Sends.notInPath {r : Route} {tagged : TaggedMember} (sends : spec.Sends r tagged) :
    (tagged.classify (isReadOnly r.method)).location ≠ .path := by
  intro inPath
  have away := sends.away
  rw [inPath] at away
  exact absurd away nofun

theorem Sends.notInBody {r : Route} {tagged : TaggedMember} (sends : spec.Sends r tagged) :
    (r.parameterOf tagged).location ≠ .body := by
  rw [Route.parameterOf, TaggedMember.location_parameter]
  intro inBody
  have away := sends.away
  rw [inBody] at away
  exact absurd away nofun

/-- A member that is sent is declared, in the request or in a struct that it embeds. -/
theorem Sends.declared {r : Route} {tagged : TaggedMember} (sends : spec.Sends r tagged) :
    ∃ s ∈ spec.types, tagged.member ∈ s.members := by
  rcases sends with ⟨name, request, m, -, found, listed, alone⟩
  cases alone with
  | own read away =>
      exact ⟨request, mem_of_findType? found, by rwa [Member.member_of_tagged read]⟩
  | @embedded _ inner n _ _ _ found' listed' read _ _ =>
      exact ⟨inner, mem_of_findType? found', by rwa [Member.member_of_tagged read]⟩

/-! ## The parameters of a request -/

/-- A member adds the parameters of the members that travel alone for it. -/
theorem mem_requestPart_iff {part : RequestPart}
    (run : (spec.requestPart parent readOnly m).outcome = .ok part) {p : Parameter} :
    p ∈ part.headers ++ part.queries ↔
      ∃ tagged, spec.SendsAlone readOnly m tagged ∧
        p = tagged.parameter (tagged.classify readOnly) := by
  -- A member stands for itself unless it embeds a struct on a route that only reads.
  by_cases own : readOnly = true → m.embedded? = none
  · rw [outcome_requestPart_of_own own, map_eq_ok_iff] at run
    rcases run with ⟨tagged, read, rfl⟩
    simp only [TaggedMember.mem_ownPart_iff, sendsAlone_iff_of_own own read, and_assoc,
      exists_eq_left']
  · rw [Classical.not_imp] at own
    rcases own with ⟨rfl, embeds⟩
    obtain ⟨name, embeds⟩ := Option.ne_none_iff_exists'.mp embeds
    rw [outcome_requestPart_of_embedded embeds, bind_eq_ok_iff] at run
    rcases run with ⟨tagged, read, run⟩
    obtain ⟨queries, given, rfl⟩ := map_eq_ok_iff.mp run
    obtain ⟨inner, found, -⟩ := exists_fromEmbedded_iff.mp ⟨queries, given⟩
    rw [List.nil_append, mem_fromEmbedded_iff given found]
    simp only [TaggedMember.mem_embeddedQueries_iff, sendsAlone_iff_of_embedded embeds found]
    apply Iff.intro
    · intro given
      rcases given with ⟨n, listed, other, read, stays, away, shown⟩
      exact ⟨other, ⟨n, listed, read, stays, away⟩, shown⟩
    · intro sent
      rcases sent with ⟨other, ⟨n, listed, read, stays, away⟩, shown⟩
      exact ⟨n, listed, other, read, stays, away, shown⟩

/-- The parameters of a request are those of the members that travel alone, and possibly
one for the body. -/
theorem mem_requestParameters {request : StructType} {parameters : List Parameter}
    (run : (spec.requestParameters request readOnly).outcome = .ok parameters) {p : Parameter} :
    ((∃ m ∈ request.members, ∃ tagged, spec.SendsAlone readOnly m tagged ∧
        p = tagged.parameter (tagged.classify readOnly)) → p ∈ parameters) ∧
    (p ∈ parameters →
      (∃ m ∈ request.members, ∃ tagged, spec.SendsAlone readOnly m tagged ∧
        p = tagged.parameter (tagged.classify readOnly)) ∨ p = request.bodyParameter) := by
  rw [requestParameters, Logged.outcome_bind, Logged.outcome_forEach, bind_eq_ok_iff] at run
  rcases run with ⟨parts, each, gathered⟩
  let body := if !readOnly && parts.any RequestPart.inBody then [request.bodyParameter] else []
  replace gathered : parts.flatMap RequestPart.headers ++ parts.flatMap RequestPart.queries ++
      body = parameters := Except.ok.inj gathered
  have partwise : p ∈ parts.flatMap RequestPart.headers ++ parts.flatMap RequestPart.queries ↔
      ∃ part ∈ parts, p ∈ part.headers ++ part.queries := by
    simp only [List.mem_append, List.mem_flatMap, and_or_left, exists_or]
  rw [← gathered, List.mem_append, partwise]
  apply And.intro
  · intro sent
    rcases sent with ⟨m, listed, alone⟩
    obtain ⟨part, value⟩ := exists_mapM_eq_ok_iff.mp ⟨parts, each⟩ m listed
    have isPart : part ∈ parts := (mem_results_iff each).mpr ⟨m, listed, value⟩
    exact Or.inl ⟨part, isPart, (mem_requestPart_iff value).mpr alone⟩
  · intro given
    rcases given with ⟨part, isPart, given⟩ | inBody
    · obtain ⟨m, listed, value⟩ := (mem_results_iff each).mp isPart
      exact Or.inl ⟨m, listed, (mem_requestPart_iff value).mp given⟩
    · right
      cases needed : (!readOnly && parts.any RequestPart.inBody) with
      | true => simpa [body, needed] using inBody
      | false => simp [body, needed] at inBody

/-- The parameters that a route takes from its request. -/
theorem mem_parametersOf {r : Route} {parameters : List Parameter}
    (run : (spec.parametersOf r).outcome = .ok parameters) {p : Parameter} :
    ((∃ tagged, spec.Sends r tagged ∧ p = r.parameterOf tagged) → p ∈ parameters) ∧
      (p ∈ parameters → (∃ tagged, spec.Sends r tagged ∧ p = r.parameterOf tagged) ∨
        ∃ request : StructType,
          named? r.requestType = some request.name ∧ p = request.bodyParameter) := by
  cases named : named? r.requestType with
  | none =>
      simp only [parametersOf, named] at run
      obtain rfl : [] = parameters := Except.ok.inj run
      apply And.intro
      · intro sent
        rcases sent with ⟨_, ⟨name, _, _, requested, _⟩, _⟩
        rw [named] at requested
        cases requested
      · intro inNothing
        cases inNothing
  | some name =>
      cases found : spec.findType? name with
      | none =>
          simp only [parametersOf, named, found] at run
          cases run
      | some request =>
          simp only [parametersOf, named, found] at run
          obtain ⟨sent, given⟩ := mem_requestParameters run (p := p)
          apply And.intro
          · intro sends
            rcases sends with
              ⟨tagged, ⟨name', request', m, requested, found', listed, alone⟩, shown⟩
            obtain rfl : name = name' := Option.some.inj (named.symm.trans requested)
            obtain rfl : request = request' := Option.some.inj (found.symm.trans found')
            exact sent ⟨m, listed, tagged, alone, shown⟩
          · intro inParameters
            rcases given inParameters with ⟨m, listed, tagged, alone, shown⟩ | itself
            · exact Or.inl ⟨tagged, ⟨name, request, m, named, found, listed, alone⟩, shown⟩
            · exact Or.inr ⟨request, by rw [name_of_findType? found], itself⟩

/-! ## Operations -/

/-- The parameters of an operation are those that its route sends, and besides them the
placeholders of its path and possibly a body. -/
theorem mem_parameters_operationOf {entry : Group × Route} {o : Operation}
    (built : spec.operationOf entry = .ok o) {p : Parameter} :
    ((∃ tagged, spec.Sends entry.2 tagged ∧ p = entry.2.parameterOf tagged) →
      p ∈ o.parameters) ∧
    (p ∈ o.parameters →
      (∃ tagged, spec.Sends entry.2 tagged ∧ p = entry.2.parameterOf tagged) ∨
      (∃ token, p = entry.2.pathParameter token) ∨
      ∃ request : StructType,
        named? entry.2.requestType = some request.name ∧ p = request.bodyParameter) := by
  rw [operationOf, operation, Logged.outcome_bind, bind_eq_ok_iff] at built
  rcases built with ⟨others, run, assembled⟩
  obtain ⟨sent, given⟩ := mem_parametersOf run (p := p)
  have parameters : o.parameters =
      (pathTokens (entry.2.pathIn entry.1)).map entry.2.pathParameter ++ others := by
    rw [← Except.ok.inj assembled]
  rw [parameters, List.mem_append]
  apply And.intro
  · intro sends
    exact Or.inr (sent sends)
  · intro listed
    rcases listed with inPath | inOthers
    · obtain ⟨token, -, rfl⟩ := List.mem_map.mp inPath
      exact Or.inr (Or.inl ⟨token, rfl⟩)
    · exact (given inOthers).imp_right Or.inr

/-- An operation has one response, whose schema points to the struct that the route names
for it, if it names one. -/
theorem responses_operationOf {entry : Group × Route} {o : Operation}
    (built : spec.operationOf entry = .ok o) :
    o.responses.entries = [("200", { description := successDescription
                                     schema := (named? entry.2.responseType).elim {}
                                       Schema.referenceTo })] := by
  rw [operationOf, operation, Logged.outcome_bind, bind_eq_ok_iff] at built
  rcases built with ⟨others, run, assembled⟩
  rw [← Except.ok.inj assembled]
  cases named? entry.2.responseType <;> rfl

end Spec

end ApiDoc
