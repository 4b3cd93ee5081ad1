/-
# The paths of a document and their parameters

The paths under which a document lists its operations all have one form: one slash in
front, and every placeholder in braces.  Under such a path the parameters of an operation
begin with the placeholders that the path shows, in the same order, and no other parameter
is in the path.  Which route brought the path into the table makes no difference, and
neither do the members of requests that are part of the path.

Only braces that routes write themselves can spoil this, since nothing tells them from the
braces of a placeholder.
-/

import ApiDoc.Proofs.ParameterLayout
import ApiDoc.Proofs.PathSegments

namespace ApiDoc

/-! ## Paths in the notation of documents -/

/-- A path as documents list it. -/
structure IsDocumentPath (path : String) : Prop where
  /-- Exactly one slash stands in front. -/
  rooted : ∃ rest, path.toList = '/' :: rest ∧ rest.head? ≠ some '/'
  /-- Putting placeholders in braces changes nothing. -/
  settled : documentPath path = path
  /-- No placeholder is left. -/
  placeholders : pathTokens path = []

/-- The names that a path shows in braces, in order. -/
def bracedNames (path : String) : List String :=
  ((pathSegments path).filterMap bracedName?).map String.ofList

/-- The parameters of an operation begin with those in the path, named like the
placeholders that the path shows. -/
def NamesPlaceholders (path : String) (ps : List Parameter) : Prop :=
  ∃ placeholders others, ps = placeholders ++ others ∧
    placeholders.map Parameter.name = bracedNames path ∧
    (∀ p ∈ placeholders, p.location = .path) ∧ ∀ p ∈ others, p.location ≠ .path

/-- No segment of the path of any route stands in braces before placeholders do. -/
def Spec.LeavesBracesFree (spec : Spec) : Prop :=
  ∀ entry ∈ spec.routes, ∀ segment ∈ pathSegments (entry.2.pathIn entry.1),
    bracedName? segment = none

/-- A full path has one slash in front. -/
theorem exists_toList_fullPath (lead : Option String) (path : String) :
    ∃ rest, (fullPath lead path).toList = '/' :: rest ∧ rest.head? ≠ some '/' := by
  refine ⟨_, String.toList_ofList, fun slash => ?_⟩
  simpa using Text.eq_false_of_head?_dropWhile slash

/-- The slash in front of a path stays the only one there when placeholders are put in
braces. -/
theorem isDocumentPath_documentPath {path : String} {rest : List Char}
    (rooted : path.toList = '/' :: rest) (single : rest.head? ≠ some '/') :
    IsDocumentPath (documentPath path) := by
  refine ⟨?_, documentPath_documentPath path, pathTokens_documentPath path⟩
  obtain ⟨others, split, -⟩ := Text.exists_splitOn_eq '/' rest
  have segments : pathSegments path = [] :: rest.takeWhile (· != '/') :: others := by
    rw [pathSegments, rooted, Text.splitOn_cons_self, split]
  have shown : (documentPath path).toList = '/' :: (documentSegment (rest.takeWhile (· != '/')) ++
      others.flatMap fun segment => '/' :: documentSegment segment) :=
    toList_documentPath segments
  refine ⟨_, shown, fun slash => ?_⟩
  rw [List.head?_append, Option.or_eq_some_iff] at slash
  rcases slash with inSegment | ⟨noSegment, slash⟩
  · have whole : '/' ∉ rest.takeWhile (· != '/') := fun inside => by
      simpa using List.mem_takeWhile_imp inside
    exact not_mem_documentSegment whole (List.mem_of_mem_head? inSegment)
  -- A first segment without characters is the only one, since a slash would follow it.
  · have empty := eq_nil_of_documentSegment (List.head?_eq_none_iff.mp noSegment)
    cases rest with
    | nil =>
        obtain ⟨-, rfl⟩ := List.cons.inj split
        cases slash
    | cons c more =>
        have apart : (c != '/') = true := by simpa using single
        rw [List.takeWhile_cons, if_pos apart] at empty
        cases empty

/-- Where no segment stands in braces from the start, the names in the braces of a
document are the placeholders of the route. -/
theorem bracedNames_documentPath {path : String}
    (unbraced : ∀ segment ∈ pathSegments path, bracedName? segment = none) :
    bracedNames (documentPath path) = pathTokens path := by
  rw [bracedNames, pathTokens_eq, pathSegments_documentPath]
  cases segments : pathSegments path with
  | nil => rfl
  | cons first others =>
      rw [segments, List.forall_mem_cons] at unbraced
      obtain ⟨inFirst, inOthers⟩ := unbraced
      rw [documentSegments, List.filterMap_cons, inFirst, List.filterMap_map, List.tail_cons]
      refine congrArg (List.map String.ofList) (List.filterMap_congr fun segment listed => ?_)
      exact bracedName?_documentSegment (inOthers segment listed)

namespace Spec

variable {spec : Spec}

/-- A route puts its path into the notation of documents. -/
theorem isDocumentPath_documentedPath (entry : Group × Route) :
    IsDocumentPath (entry.2.documentedPath entry.1) := by
  obtain ⟨rest, rooted, single⟩ := exists_toList_fullPath (entry.1.annotation? "prefix") entry.2.path
  exact isDocumentPath_documentPath rooted single

/-- The parameters of a route that leaves braces free name the placeholders of its path. -/
theorem namesPlaceholders_of_laysOutRoute {entry : Group × Route} {method : Method}
    {ps : List Parameter} (laidOut : spec.LaysOutRoute entry method ps)
    (unbraced : ∀ segment ∈ pathSegments (entry.2.pathIn entry.1), bracedName? segment = none) :
    NamesPlaceholders (entry.2.documentedPath entry.1) ps := by
  obtain ⟨placeholders, others, split, inPath, elsewhere⟩ := split_of_laysOutRoute laidOut
  refine ⟨placeholders, others, split, ?_, ?_, ?_⟩
  · have sameNames : List.Forall₂ (fun token p => p.name = token)
        (pathTokens (entry.2.pathIn entry.1)) placeholders :=
      inPath.imp fun token p isPlaceholder => isPlaceholder.1
    rw [Route.documentedPath, bracedNames_documentPath unbraced]
    rw [← List.forall₂_eq_eq_eq, List.forall₂_map_left_iff]
    exact sameNames.flip
  · intro p listed
    obtain ⟨token, -, isPlaceholder⟩ := exists_left_of_forall₂ inPath listed
    exact isPlaceholder.2.1
  · intro p listed inPath
    have location := elsewhere p listed
    rw [inPath] at location
    split at location
    · cases location
    · rcases location with location | location <;> cases location

/-- Every path of a finished table is in the notation of documents.  Where no route writes
braces itself, the parameters of every operation begin with the placeholders that its path
shows, in order, and no other parameter is in the path. -/
theorem paths_namePlaceholders {t : RouteTable} (finished : spec.routeTable.outcome = .ok t)
    {path : String} (listed : path ∈ t.paths.keys) :
    IsDocumentPath path ∧ (spec.LeavesBracesFree →
      ∀ method o, t.operation? path method = some o → NamesPlaceholders path o.parameters) := by
  have wins := isLastWriterWins_of_routeTable finished
  apply And.intro
  · rw [wins.paths, List.mem_eraseDups, List.mem_map] at listed
    obtain ⟨entry, -, rfl⟩ := listed
    exact isDocumentPath_documentedPath entry
  -- The operation is that of the last route, whichever route brought the path.
  · intro unbraced method o emitted
    obtain ⟨entry, last, built⟩ := wins.operation?_eq_some_iff.mp emitted
    obtain ⟨isRoute, here⟩ := List.mem_filter.mp (List.mem_of_getLast? last)
    have laidOut := laysOutRoute_operationOf (hasMethod_of_lastRoute? last) built
    rw [Route.isAt, Bool.and_eq_true, beq_iff_eq] at here
    rw [← here.1]
    exact namesPlaceholders_of_laysOutRoute laidOut (unbraced entry isRoute)

/-- A service with two routes on one path, which they spell in two ways.  The path has a
placeholder that occurs twice, one whose name starts with a colon, a segment without
characters and one that is a colon alone. -/
def depot : Spec :=
  { service :=
      { name := "depot"
        groups :=
          [{ annotation := ⟨[("prefix", "\"//bay\"")]⟩
             routes := [{ method := "put", path := "/:row//:/::slot/:row", handler := "fill" }] },
            { routes :=
              [{ method := "Put", path := "bay/:row//:/::slot/:row", handler := "store",
                 requestType := some "Box" }] }] }
    types :=
      [{ name := "Box", members :=
          [{ name := "Row", type := .scalar "int", tag := "path:\"row\"" },
            { name := "Size", type := .scalar "int", tag := "header:\"size\"" },
            { name := "Note", type := .scalar "string", tag := "json:\"note\"" }] }] }

/-- The path of the routes of the depot. -/
def bayPath : String :=
  "/bay/\x7brow\x7d//:/\x7b:slot\x7d/\x7brow\x7d"

/-- The first route brings the path and the last one the parameters, which name the
placeholders that the path shows. -/
theorem depot_namesPlaceholders :
    ∃ t o, depot.routeTable.outcome = .ok t ∧ bayPath ∈ t.paths.keys ∧
      depot.LeavesBracesFree ∧ t.operation? bayPath .put = some o ∧
      o.parameters.map (fun p => (p.name, p.location)) =
        [("row", .path), (":slot", .path), ("row", .path), ("size", .header), ("body", .body)] ∧
      IsDocumentPath bayPath ∧ NamesPlaceholders bayPath o.parameters := by
  have run : depot.routeTable.outcome.map (fun t => (t.paths.keys,
      (t.operation? bayPath .put).map fun o => o.parameters.map fun p => (p.name, p.location))) =
      .ok ([bayPath], some [("row", .path), (":slot", .path), ("row", .path), ("size", .header),
        ("body", .body)]) := by cbv
  obtain ⟨t, finished, values⟩ := map_eq_ok_iff.mp run
  obtain ⟨keys, operation⟩ := Prod.mk.inj values
  obtain ⟨o, emitted, parameters⟩ := Option.map_eq_some_iff.mp operation
  have listed : bayPath ∈ t.paths.keys := by
    rw [keys]
    exact List.mem_singleton_self bayPath
  have segments : (depot.routes.all fun entry => (pathSegments (entry.2.pathIn entry.1)).all
      fun segment => (bracedName? segment).isNone) = true := by cbv
  have unbraced : depot.LeavesBracesFree := by
    simpa only [LeavesBracesFree, List.all_eq_true, Option.isNone_iff_eq_none] using segments
  obtain ⟨documented, names⟩ := paths_namePlaceholders finished listed
  exact ⟨t, o, finished, listed, unbraced, emitted, parameters, documented,
    names unbraced .put o emitted⟩

end Spec

end ApiDoc
