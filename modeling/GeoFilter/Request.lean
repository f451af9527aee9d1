import GeoFilter.Text.Percent
import GeoFilter.Writing

/-!
Requests to a feature service: lists of named parameters, and the query strings that
carry them. The versions of the service differ in how they name two parameters.
-/

namespace GeoFilter

open Text

inductive ServiceVersion where
  | v100
  | v110
  | v200
deriving DecidableEq, Repr

inductive RequestFault where
  | filterUnsupported
  | unsupportedFormat (format : String)
  | missingTypeName
  | unknownVersion (version : String)
deriving DecidableEq, Repr

def RequestFault.message : RequestFault → String
  | .filterUnsupported => "server does not support CQL filters"
  | .unsupportedFormat format => s!"unsupported output format `{format}`"
  | .missingTypeName => "at least one feature type name is required"
  | .unknownVersion version => s!"unknown WFS version `{version}`"

namespace ServiceVersion

def all : List ServiceVersion := [.v100, .v110, .v200]

def number : ServiceVersion → String
  | .v100 => "1.0.0"
  | .v110 => "1.1.0"
  | .v200 => "2.0.0"

def ofNumber (text : String) : Except RequestFault ServiceVersion :=
  match all.find? (·.number == text) with
  | some version => .ok version
  | none => .error (.unknownVersion text)

/-- The parameter that lists the types of the features. -/
def typeNamesKey : ServiceVersion → String
  | .v200 => "typeNames"
  | _ => "typeName"

/-- The parameter that limits the number of features. -/
def limitKey : ServiceVersion → String
  | .v200 => "count"
  | _ => "maxFeatures"

theorem ofNumber_number (version : ServiceVersion) :
    ofNumber version.number = .ok version := by
  cases version <;> rfl

end ServiceVersion

/-- What a server accepts. -/
structure Capabilities where
  /-- Whether a request may hold a filter. -/
  filters : Bool
  outputFormats : List String
  /-- The most features that the server gives out. -/
  maxFeatures : Option Nat
deriving DecidableEq, Repr

def Capabilities.standard : Capabilities :=
  ⟨true, ["application/gml+xml", "application/json"], none⟩

/-- Which features are asked for, and in what form. -/
structure FeatureQuery where
  typeNames : List String
  filter : Option Filter
  propertyNames : List String
  maxFeatures : Option Nat
  outputFormat : Option String

inductive ServiceOperation where
  /-- The schema of the given types, or of every type if none is given. -/
  | describeFeatureType (typeNames : List String)
  | getFeature (query : FeatureQuery)

def ServiceOperation.name : ServiceOperation → String
  | .describeFeatureType _ => "DescribeFeatureType"
  | .getFeature _ => "GetFeature"

abbrev Parameter := String × String

structure Request where
  version : ServiceVersion
  operation : String
  parameters : List Parameter
deriving DecidableEq, Repr

namespace Request

/-- A parameter that holds a list, which is left out if the list is empty. -/
def listParameter (key : String) (values : List String) : List Parameter :=
  if values.isEmpty then [] else [(key, ",".intercalate values)]

/-- The smaller of two limits that may be missing. -/
def limit? : Option Nat → Option Nat → Option Nat
  | some requested, some cap => some (min requested cap)
  | some requested, none => some requested
  | none, cap => cap

/-- The first reason why a server cannot answer a query. -/
def queryFault? (capabilities : Capabilities) (query : FeatureQuery) : Option RequestFault :=
  if query.typeNames.isEmpty then
    some .missingTypeName
  else
    match query.outputFormat.filter (!capabilities.outputFormats.contains ·) with
    | some format => some (.unsupportedFormat format)
    | none =>
        if query.filter.isSome && !capabilities.filters then some .filterUnsupported else none

/-- The parameters of a query. Filters are written in the standard dialect. -/
def queryParameters (version : ServiceVersion) (capabilities : Capabilities)
    (query : FeatureQuery) : List Parameter :=
  listParameter version.typeNamesKey query.typeNames ++
    (query.outputFormat.map (("outputFormat", ·))).toList ++
    listParameter "propertyName" query.propertyNames ++
    ((limit? query.maxFeatures capabilities.maxFeatures).map
      fun limit => (version.limitKey, toString limit)).toList ++
    (query.filter.map fun filter => ("CQL_FILTER", filter.write .standard)).toList

/-- The request for an operation. -/
def build (version : ServiceVersion) (capabilities : Capabilities)
    (operation : ServiceOperation) : Except RequestFault Request :=
  let common : List Parameter :=
    [("service", "WFS"), ("version", version.number), ("request", operation.name)]
  match operation with
  | .describeFeatureType typeNames =>
      .ok ⟨version, operation.name, common ++ listParameter version.typeNamesKey typeNames⟩
  | .getFeature query =>
      match queryFault? capabilities query with
      | some fault => .error fault
      | none =>
          .ok ⟨version, operation.name, common ++ queryParameters version capabilities query⟩

/-- The value of the first parameter with a key. -/
def parameter? (request : Request) (key : String) : Option String :=
  request.parameters.lookup key

def encodeParameter : Parameter → String
  | (key, value) => percentEncode key ++ "=" ++ percentEncode value

/-- The parameters in one text, in order, with an ampersand between two of them. -/
def queryString (request : Request) : String :=
  "&".intercalate (request.parameters.map encodeParameter)

end Request

end GeoFilter
