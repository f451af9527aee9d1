import Mathlib.Data.List.Nodup
import Mathlib.Order.Lattice.Nat
import GeoFilter.Request

/-!
Which operations a request is built for, and what the request holds. An operation that a server
cannot answer is refused for the first condition it fails. Every other one has a request whose
keys are those of its version, each at most once, and which asks for no more features than the
query or the server allows.
-/

namespace GeoFilter

/-- The keys that a request of a version can have, in their order. -/
def ServiceVersion.keys (version : ServiceVersion) : List String :=
  ["service", "version", "request", version.typeNamesKey, "outputFormat", "propertyName",
    version.limitKey, "CQL_FILTER"]

theorem ServiceVersion.nodup_keys (version : ServiceVersion) : version.keys.Nodup := by
  cases version <;> decide

/-- No version shares the key for the types or for the limit with another one under which it has
a different meaning. -/
theorem ServiceVersion.eq_of_mem_keys {version other : ServiceVersion} :
    (other.typeNamesKey ∈ version.keys → other.typeNamesKey = version.typeNamesKey) ∧
      (other.limitKey ∈ version.keys → other.limitKey = version.limitKey) := by
  cases version <;> cases other <;> decide

namespace ServiceOperation

/-- An operation that a server can answer. -/
inductive Legal (capabilities : Capabilities) : ServiceOperation → Prop
  | describeFeatureType (typeNames : List String) :
      Legal capabilities (.describeFeatureType typeNames)
  | getFeature {query : FeatureQuery} (htypes : query.typeNames ≠ [])
      (hformat : ∀ format ∈ query.outputFormat, format ∈ capabilities.outputFormats)
      (hfilter : query.filter.isSome = true → capabilities.filters = true) :
      Legal capabilities (.getFeature query)

/-- The first condition that an operation fails, by the fault that it is refused for. -/
inductive FailsFirst (capabilities : Capabilities) : ServiceOperation → RequestFault → Prop
  | missingTypeName {query : FeatureQuery} (htypes : query.typeNames = []) :
      FailsFirst capabilities (.getFeature query) .missingTypeName
  | unsupportedFormat {query : FeatureQuery} {format : String} (htypes : query.typeNames ≠ [])
      (hformat : query.outputFormat = some format) (hlisted : format ∉ capabilities.outputFormats) :
      FailsFirst capabilities (.getFeature query) (.unsupportedFormat format)
  | filterUnsupported {query : FeatureQuery} (htypes : query.typeNames ≠ [])
      (hformat : ∀ format ∈ query.outputFormat, format ∈ capabilities.outputFormats)
      (hfilter : query.filter.isSome = true) (hfilters : capabilities.filters = false) :
      FailsFirst capabilities (.getFeature query) .filterUnsupported

/-- The limits on the number of features that an operation or the server states. -/
def statedLimits (capabilities : Capabilities) : ServiceOperation → Set Nat
  | .describeFeatureType _ => ∅
  | .getFeature query => {n | n ∈ query.maxFeatures ∨ n ∈ capabilities.maxFeatures}

end ServiceOperation

/-- The parameters that every request for an operation begins with. -/
def Request.openingParameters (version : ServiceVersion) (operation : ServiceOperation) :
    List Parameter :=
  [("service", "WFS"), ("version", version.number), ("request", operation.name)]

/-- What the request for an operation holds. -/
structure Request.Serves (version : ServiceVersion) (capabilities : Capabilities)
    (operation : ServiceOperation) (request : Request) : Prop where
  opening : openingParameters version operation <+: request.parameters
  distinct : (request.parameters.map Prod.fst).Nodup
  keys : (request.parameters.map Prod.fst).Sublist version.keys
  /-- Of the keys that differ between versions only its own are used. -/
  own : ∀ other : ServiceVersion,
    (other.typeNamesKey ∈ request.parameters.map Prod.fst →
      other.typeNamesKey = version.typeNamesKey) ∧
    (other.limitKey ∈ request.parameters.map Prod.fst → other.limitKey = version.limitKey)
  limited : version.limitKey ∈ request.parameters.map Prod.fst ↔
    (operation.statedLimits capabilities).Nonempty
  limit : ∀ value, (version.limitKey, value) ∈ request.parameters ↔
    ∃ n, IsLeast (operation.statedLimits capabilities) n ∧ value = toString n

namespace Request

variable {version : ServiceVersion} {capabilities : Capabilities} {query : FeatureQuery}

section Faults

/-- A format that is filtered out as unlisted is the one that the query asks for. -/
theorem filter_outputFormat_eq_some_iff {format : String} :
    query.outputFormat.filter (!capabilities.outputFormats.contains ·) = some format ↔
      query.outputFormat = some format ∧ format ∉ capabilities.outputFormats := by
  simp [Option.filter_eq_some_iff]

theorem filter_outputFormat_eq_none_iff :
    query.outputFormat.filter (!capabilities.outputFormats.contains ·) = none ↔
      ∀ format ∈ query.outputFormat, format ∈ capabilities.outputFormats := by
  simp [Option.filter_eq_none_iff]

/-- The fault of a query is that of the first condition it fails. -/
theorem queryFault?_eq_some_iff {fault : RequestFault} :
    queryFault? capabilities query = some fault ↔
      (ServiceOperation.getFeature query).FailsFirst capabilities fault := by
  unfold queryFault?
  constructor
  · intro h
    split at h
    · rename_i htypes
      cases h
      exact .missingTypeName (List.isEmpty_iff.mp htypes)
    · rename_i htypes
      rw [List.isEmpty_iff] at htypes
      split at h
      · rename_i format hfilter
        cases h
        obtain ⟨hformat, hlisted⟩ := filter_outputFormat_eq_some_iff.mp hfilter
        exact .unsupportedFormat htypes hformat hlisted
      · rename_i hformat
        split at h
        · rename_i hfilter
          cases h
          rw [Bool.and_eq_true, Bool.not_eq_true'] at hfilter
          exact .filterUnsupported htypes (filter_outputFormat_eq_none_iff.mp hformat) hfilter.1
            hfilter.2
        · cases h
  · rintro (htypes | ⟨htypes, hformat, hlisted⟩ | ⟨htypes, hformat, hfilter, hfilters⟩)
    · rw [if_pos (List.isEmpty_iff.mpr htypes)]
    · rw [if_neg (mt List.isEmpty_iff.mp htypes),
        filter_outputFormat_eq_some_iff.mpr ⟨hformat, hlisted⟩]
    · rw [if_neg (mt List.isEmpty_iff.mp htypes), filter_outputFormat_eq_none_iff.mpr hformat,
        hfilter, hfilters]
      rfl

/-- A query without a fault is one that the server can answer. -/
theorem queryFault?_eq_none_iff :
    queryFault? capabilities query = none ↔
      (ServiceOperation.getFeature query).Legal capabilities := by
  constructor
  · intro h
    have hnone : ∀ fault, ¬(ServiceOperation.getFeature query).FailsFirst capabilities fault := by
      intro fault hfault
      rw [queryFault?_eq_some_iff.mpr hfault] at h
      cases h
    have htypes : query.typeNames ≠ [] := fun hnil => hnone _ (.missingTypeName hnil)
    have hformat : ∀ format ∈ query.outputFormat, format ∈ capabilities.outputFormats := by
      intro format hasked
      by_contra hlisted
      exact hnone _ (.unsupportedFormat htypes hasked hlisted)
    refine .getFeature htypes hformat fun hfilter => ?_
    by_contra hfilters
    have hfilters := Bool.eq_false_of_not_eq_true hfilters
    exact hnone _ (.filterUnsupported htypes hformat hfilter hfilters)
  · rintro ⟨⟩
    rename_i htypes hformat hfilter
    rw [Option.eq_none_iff_forall_not_mem]
    intro fault hfault
    cases queryFault?_eq_some_iff.mp hfault with
    | missingTypeName hnil => exact htypes hnil
    | unsupportedFormat _ hasked hlisted => exact hlisted (hformat _ hasked)
    | filterUnsupported _ _ hasked hfilters =>
        rw [hfilter hasked] at hfilters
        cases hfilters

theorem build_eq_error_iff {operation : ServiceOperation} {fault : RequestFault} :
    build version capabilities operation = .error fault ↔
      operation.FailsFirst capabilities fault := by
  cases operation with
  | describeFeatureType typeNames =>
      exact iff_of_false nofun nofun
  | getFeature query =>
      rw [← queryFault?_eq_some_iff]
      simp only [build]
      split <;> simp_all

theorem exists_build_iff {operation : ServiceOperation} :
    (∃ request, build version capabilities operation = .ok request) ↔
      operation.Legal capabilities := by
  cases operation with
  | describeFeatureType typeNames =>
      exact iff_of_true ⟨_, rfl⟩ (.describeFeatureType typeNames)
  | getFeature query =>
      rw [← queryFault?_eq_none_iff]
      simp only [build]
      split <;> simp_all

end Faults

section Parameters

/-- A parameter that is not among the keys of a list. -/
theorem not_mem_of_sublist {parameters : List Parameter} {keys : List String} {key : String}
    (hkey : key ∉ keys) (h : (parameters.map Prod.fst).Sublist keys) (value : String) :
    (key, value) ∉ parameters :=
  fun hmember => hkey (h.subset (List.mem_map_of_mem hmember))

theorem sublist_listParameter (key : String) (values : List String) :
    ((listParameter key values).map Prod.fst).Sublist [key] := by
  unfold listParameter
  split
  · exact List.nil_sublist _
  · exact List.Sublist.refl _

/-- A parameter that may be left out. -/
theorem sublist_optional {α : Type} (key : String) (text : α → String) (value : Option α) :
    (((value.map fun v => (key, text v)).toList).map Prod.fst).Sublist [key] := by
  cases value with
  | none => exact List.nil_sublist _
  | some v => exact List.Sublist.refl _

/-- The smaller of two limits that may be missing is the least of those that are there. -/
theorem isLeast_of_limit? {requested cap : Option Nat} {n : Nat}
    (h : limit? requested cap = some n) : IsLeast {m | m ∈ requested ∨ m ∈ cap} n := by
  cases requested with
  | none =>
      obtain rfl : cap = some n := h
      simp [IsLeast]
  | some requested =>
      cases cap with
      | none =>
          obtain rfl : requested = n := Option.some.inj h
          simp [IsLeast]
      | some cap =>
          obtain rfl : min requested cap = n := Option.some.inj h
          have hpair : {m | m ∈ some requested ∨ m ∈ some cap} = {requested, cap} := by
            ext m
            simp [eq_comm]
          rw [hpair]
          exact isLeast_pair

theorem limit?_eq_some_iff {requested cap : Option Nat} {n : Nat} :
    limit? requested cap = some n ↔ IsLeast {m | m ∈ requested ∨ m ∈ cap} n := by
  refine ⟨isLeast_of_limit?, fun hleast => ?_⟩
  cases hlimit : limit? requested cap with
  | some m => rw [(isLeast_of_limit? hlimit).unique hleast]
  | none =>
      have hmember := hleast.1
      cases requested <;> cases cap <;> simp_all [limit?]

/-- The limit is stated once, between the other parameters of a query. -/
theorem mem_queryParameters_limit {value : String} :
    (version.limitKey, value) ∈ queryParameters version capabilities query ↔
      ∃ n, limit? query.maxFeatures capabilities.maxFeatures = some n ∧ value = toString n := by
  have hkeys : ((listParameter version.typeNamesKey query.typeNames ++
      (query.outputFormat.map (("outputFormat", ·))).toList ++
      listParameter "propertyName" query.propertyNames).map Prod.fst).Sublist
        [version.typeNamesKey, "outputFormat", "propertyName"] := by
    simp only [List.map_append]
    exact ((sublist_listParameter _ _).append (sublist_optional _ id _)).append
      (sublist_listParameter _ _)
  have hfrontKey : version.limitKey ∉ [version.typeNamesKey, "outputFormat", "propertyName"] := by
    cases version <;> decide
  have hbackKey : version.limitKey ∉ ["CQL_FILTER"] := by
    cases version <;> decide
  have hfront := not_mem_of_sublist hfrontKey hkeys value
  have hback := not_mem_of_sublist hbackKey
    (sublist_optional _ (Filter.write .standard) query.filter) value
  rw [queryParameters, List.mem_append, List.mem_append, or_iff_left hback, or_iff_right hfront]
  simp [eq_comm]

theorem sublist_queryParameters :
    ((queryParameters version capabilities query).map Prod.fst).Sublist
      [version.typeNamesKey, "outputFormat", "propertyName", version.limitKey, "CQL_FILTER"] := by
  simp only [queryParameters, List.map_append]
  exact ((((sublist_listParameter _ _).append (sublist_optional _ id _)).append
    (sublist_listParameter _ _)).append (sublist_optional _ _ _)).append (sublist_optional _ _ _)

end Parameters

/-- A request serves an operation if the parameters behind the opening ones do so. -/
theorem serves_of_parameters {operation : ServiceOperation} {further : List Parameter}
    (hkeys : (further.map Prod.fst).Sublist
      [version.typeNamesKey, "outputFormat", "propertyName", version.limitKey, "CQL_FILTER"])
    (hlimit : ∀ value, (version.limitKey, value) ∈ further ↔
      ∃ n, IsLeast (operation.statedLimits capabilities) n ∧ value = toString n) :
    (⟨version, operation.name, openingParameters version operation ++ further⟩ : Request).Serves
      version capabilities operation := by
  have hsublist : ((openingParameters version operation ++ further).map Prod.fst).Sublist
      version.keys :=
    ((hkeys.cons_cons "request").cons_cons "version").cons_cons "service"
  have hmember : ∀ value,
      (version.limitKey, value) ∈ openingParameters version operation ++ further ↔
        ∃ n, IsLeast (operation.statedLimits capabilities) n ∧ value = toString n := by
    intro value
    have hkey : version.limitKey ∉ (openingParameters version operation).map Prod.fst := by
      cases version <;> simp [openingParameters, ServiceVersion.limitKey]
    have hopening := not_mem_of_sublist hkey (List.Sublist.refl _) value
    rw [List.mem_append, or_iff_right hopening]
    exact hlimit value
  constructor
  · exact List.prefix_append _ _
  · exact version.nodup_keys.sublist hsublist
  · exact hsublist
  · exact fun other => ⟨fun h => ServiceVersion.eq_of_mem_keys.1 (hsublist.subset h),
      fun h => ServiceVersion.eq_of_mem_keys.2 (hsublist.subset h)⟩
  · constructor
    · intro hkey
      obtain ⟨⟨_, value⟩, hparameter, rfl⟩ := List.mem_map.mp hkey
      obtain ⟨n, hleast, -⟩ := (hmember value).mp hparameter
      exact hleast.nonempty
    · intro hstated
      have hleast : IsLeast (operation.statedLimits capabilities)
          (sInf (operation.statedLimits capabilities)) :=
        ⟨Nat.sInf_mem hstated, fun _ => Nat.sInf_le⟩
      exact List.mem_map_of_mem ((hmember _).mpr ⟨_, hleast, rfl⟩)
  · exact hmember

theorem serves_of_build {operation : ServiceOperation} {request : Request}
    (h : build version capabilities operation = .ok request) :
    request.Serves version capabilities operation := by
  cases operation with
  | describeFeatureType typeNames =>
      cases h
      apply serves_of_parameters
      · exact (sublist_listParameter _ _).trans (List.singleton_sublist.mpr List.mem_cons_self)
      · intro value
        have hkey : version.limitKey ∉ [version.typeNamesKey] := by
          cases version <;> decide
        have hforeign := not_mem_of_sublist hkey (sublist_listParameter _ typeNames) value
        simp [hforeign, ServiceOperation.statedLimits, IsLeast]
  | getFeature query =>
      simp only [build] at h
      split at h
      · cases h
      · cases h
        apply serves_of_parameters sublist_queryParameters
        intro value
        rw [mem_queryParameters_limit]
        simp only [limit?_eq_some_iff]
        rfl

/-- A request is built for the operations that a server can answer. Any other one is refused
for the first condition it fails. -/
theorem build_serves (version : ServiceVersion) (capabilities : Capabilities)
    (operation : ServiceOperation) :
    ((∃ request, build version capabilities operation = .ok request) ↔
      operation.Legal capabilities) ∧
    (∀ fault, build version capabilities operation = .error fault ↔
      operation.FailsFirst capabilities fault) ∧
    ∀ request, build version capabilities operation = .ok request →
      request.Serves version capabilities operation :=
  ⟨exists_build_iff, fun _ => build_eq_error_iff, fun _ => serves_of_build⟩

def cappedServer : Capabilities :=
  ⟨true, ["application/json"], some 10⟩

/-- A query that asks for more features than the server gives out. -/
def cappedQuery : FeatureQuery :=
  ⟨["topp:states", "topp:roads"], some (.isNull (.property "name")), [], some 50,
    some "application/json"⟩

def cappedRequest : Request :=
  ⟨.v200, "GetFeature", [("service", "WFS"), ("version", "2.0.0"), ("request", "GetFeature"),
    ("typeNames", "topp:states,topp:roads"), ("outputFormat", "application/json"), ("count", "10"),
    ("CQL_FILTER", "name IS NULL")]⟩

theorem build_serves_capped :
    build .v200 cappedServer (.getFeature cappedQuery) = .ok cappedRequest ∧
      cappedRequest.Serves .v200 cappedServer (.getFeature cappedQuery) := by
  have hbuild : build .v200 cappedServer (.getFeature cappedQuery) = .ok cappedRequest := by
    decide +kernel
  exact ⟨hbuild, (build_serves _ _ _).2.2 _ hbuild⟩

end Request

end GeoFilter
