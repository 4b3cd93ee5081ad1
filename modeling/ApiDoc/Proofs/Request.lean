/-
# The members of a request, one by one

What a member of a request struct adds to an operation depends on its tags alone,
unless it embeds a struct on a route that only reads: then it is the members of
that struct that count.  Either way it can be said without the record that
generation keeps, and it never fails on a struct that has a definition.
-/

import ApiDoc.Generate.RequestParameters
import ApiDoc.Proofs.Definition

namespace ApiDoc

/-! ## What a member adds -/

namespace TaggedMember

/-- The query parameters that a member adds when its struct is embedded. -/
def embeddedQueries (m : TaggedMember) : List Parameter :=
  if m.isPath || m.isHeader then []
  else if (m.classify true).location = .query then [m.parameter (m.classify true)]
  else []

/-- What a member that stands for itself adds. -/
def ownPart (m : TaggedMember) (readOnly : Bool) : RequestPart :=
  match (m.classify readOnly).location with
  | .header => { inBody := m.isBody, headers := [m.parameter (m.classify readOnly)] }
  | .query => { inBody := m.isBody, queries := [m.parameter (m.classify readOnly)] }
  | .path | .body => { inBody := m.isBody }

theorem location_of_inline {m : TaggedMember} (inlined : m.member.isInline = true)
    (readOnly : Bool) : (m.classify readOnly).location = .body := by
  rw [classify, if_pos inlined]

end TaggedMember

theorem Member.outcome_embeddedQuery (m : Member) :
    m.embeddedQuery.outcome = m.tagged.map TaggedMember.embeddedQueries := by
  rw [embeddedQuery, Logged.outcome_bind, Logged.outcome_ofExcept]
  cases m.tagged with
  | error e => rfl
  | ok tagged =>
      show Logged.outcome _ = .ok tagged.embeddedQueries
      by_cases elsewhere : tagged.isPath || tagged.isHeader
      · rw [TaggedMember.embeddedQueries, if_pos elsewhere, if_pos elsewhere]
        rfl
      · by_cases sent : (tagged.classify true).location = .query
        · simp only [TaggedMember.embeddedQueries, if_neg elsewhere, if_pos sent]
          rfl
        · simp only [TaggedMember.embeddedQueries, if_neg elsewhere, if_neg sent]
          rfl

namespace Spec

variable {spec : Spec} {parent name : String} {m : Member}

theorem outcome_embeddedQueries (spec : Spec) (name parent : String) :
    (spec.embeddedQueries name parent).outcome =
      spec.fromEmbedded TaggedMember.embeddedQueries name parent := by
  simp only [embeddedQueries, fromEmbedded, Logged.outcome_bind, Logged.outcome_ofExcept,
    Logged.outcome_forEach, Member.outcome_embeddedQuery]
  rfl

/-- On a route that only reads, the members of an embedded struct count. -/
theorem outcome_requestPart_of_embedded (embeds : m.embedded? = some name) :
    (spec.requestPart parent true m).outcome = m.tagged >>= fun tagged =>
      (spec.fromEmbedded TaggedMember.embeddedQueries name parent).map fun queries =>
        { inBody := tagged.isBody, queries := queries } := by
  have inlined : m.isInline = true := Member.isInline_of_embedded embeds
  rw [requestPart, Logged.outcome_bind, Logged.outcome_ofExcept]
  cases m.tagged with
  | error e => rfl
  | ok tagged =>
      show Logged.outcome (if _ then _ else _) = Except.map _ _
      rw [if_pos inlined, embeds]
      show (spec.embeddedQueries name parent >>= _).outcome = _
      rw [Logged.outcome_bind, outcome_embeddedQueries]
      cases spec.fromEmbedded TaggedMember.embeddedQueries name parent with
      | error e => rfl
      | ok queries => rfl

/-- Everywhere else a member counts for itself. -/
theorem outcome_requestPart_of_own {readOnly : Bool}
    (own : readOnly = true → m.embedded? = none) :
    (spec.requestPart parent readOnly m).outcome =
      m.tagged.map fun tagged => tagged.ownPart readOnly := by
  rw [requestPart, Logged.outcome_bind, Logged.outcome_ofExcept]
  cases read : m.tagged with
  | error e => rfl
  | ok tagged =>
      show Logged.outcome (if _ then _ else _) = .ok (tagged.ownPart readOnly)
      by_cases inlined : m.isInline
      · have body : (tagged.classify readOnly).location = .body := by
          apply TaggedMember.location_of_inline
          rw [Member.member_of_tagged read, inlined]
        rw [if_pos inlined, TaggedMember.ownPart, body]
        cases embeds : m.embedded? with
        | none => rfl
        | some name =>
            cases readOnly with
            | true => exact absurd (own rfl) (by rw [embeds]; exact Option.some_ne_none name)
            | false => rfl
      · rw [if_neg inlined, TaggedMember.ownPart]
        show Logged.outcome (match (tagged.classify readOnly).location with
          | .header => _ | .query => _ | .path | .body => _) = _
        cases (tagged.classify readOnly).location <;> rfl

/-! ## When all members can be added -/

theorem exists_requestPart_of_isDefinable {request : StructType}
    (definable : spec.IsDefinable request) (listed : m ∈ request.members) (readOnly : Bool) :
    ∃ part, (spec.requestPart parent readOnly m).outcome = .ok part := by
  obtain ⟨tagged, read⟩ := Member.exists_tagged_iff.mpr (definable.readable m listed)
  by_cases own : readOnly = true → m.embedded? = none
  · refine ⟨tagged.ownPart readOnly, ?_⟩
    rw [outcome_requestPart_of_own own, map_eq_ok_iff]
    exact ⟨tagged, read, rfl⟩
  · rw [Classical.not_imp] at own
    rcases own with ⟨rfl, embeds⟩
    obtain ⟨name, embeds⟩ := Option.ne_none_iff_exists'.mp embeds
    obtain ⟨queries, run⟩ := exists_fromEmbedded_iff.mpr (definable.embedded m listed name embeds)
    refine ⟨{ inBody := tagged.isBody, queries := queries }, ?_⟩
    rw [outcome_requestPart_of_embedded embeds, bind_eq_ok_iff]
    exact ⟨tagged, read, map_eq_ok_iff.mpr ⟨queries, run, rfl⟩⟩

/-- A struct that has a definition can be the request of any route. -/
theorem exists_requestParameters_of_isDefinable {request : StructType}
    (definable : spec.IsDefinable request) (readOnly : Bool) :
    ∃ parameters, (spec.requestParameters request readOnly).outcome = .ok parameters := by
  have each : ∀ m ∈ request.members,
      ∃ part, (spec.requestPart request.name readOnly m).outcome = .ok part :=
    fun m listed => exists_requestPart_of_isDefinable definable listed readOnly
  obtain ⟨parts, run⟩ := exists_mapM_eq_ok_iff.mpr each
  rw [requestParameters, Logged.outcome_bind, Logged.outcome_forEach, run]
  exact ⟨_, rfl⟩

end Spec

end ApiDoc
