import GeoFilter.Dialect
import GeoFilter.Toml.Document

/-!
Dialects from TOML documents. Every setting is optional and has its standard value
when it is missing; a setting that no dialect has is an error.
-/

namespace GeoFilter

open Toml

/-- Why a document gives no dialect. -/
inductive LoadFault where
  /-- There is no document to read. -/
  | unreadable
  /-- The document is not TOML, or a setting is unknown or has a value of another type. -/
  | malformed
  | invalid (fault : DialectFault)
deriving DecidableEq, Repr

namespace Loading

def boolean? : Value → Option Bool
  | .boolean value => some value
  | _ => none

def count? : Value → Option Nat
  | .integer value => if 0 ≤ value then some value.toNat else none
  | _ => none

def character? : Value → Option Char
  | .string text =>
      match text.toList with
      | [c] => some c
      | _ => none
  | _ => none

/-- One of several names: a string, or a table with the name as its only key and nothing
under it. -/
def name? : Value → Option String
  | .string text => some text
  | .table [(key, .table [])] => some key
  | .table [(key, .array [])] => some key
  | _ => none

def spatialOp? (value : Value) : Option SpatialOp := do
  let name ← name? value
  SpatialOp.all.find? (·.name == name)

def spatialPredicates? : Value → Option (List SpatialOp)
  | .array items => items.mapM spatialOp?
  | _ => none

def quoteStyle? (value : Value) : Option QuoteStyle := do
  match ← name? value with
  | "identifier" => some .identifier
  | "string" => some .string
  | _ => none

/-- An arity from a table, in which other keys do not matter, or from the two numbers
in a row. -/
def arity? : Value → Option Arity
  | .table entries => do
      let min ← count? (← entries.lookup "min")
      match entries.lookup "max" with
      | none => return ⟨min, none⟩
      | some max => return ⟨min, some (← count? max)⟩
  | .array (min :: max :: _) => do return ⟨← count? min, some (← count? max)⟩
  | _ => none

def functions? : Value → Option (NameTable Arity)
  | .table entries => do
      let arities ← entries.mapM fun (name, value) => (arity? value).map (name, ·)
      return .ofList arities
  | _ => none

def likeSetting (like : LikeCharacters) : String × Value → Option LikeCharacters
  | ("wildcard", value) => do return { like with wildcard := ← character? value }
  | ("single_char", value) => do return { like with single := ← character? value }
  | ("escape", value) => do return { like with escape := ← character? value }
  | _ => none

/-- The special characters from a table, or in a row. -/
def like? : Value → Option LikeCharacters
  | .table entries => entries.foldlM likeSetting .standard
  | .array items =>
      (["wildcard", "single_char", "escape"].zip items).foldlM likeSetting .standard
  | _ => none

def setting (d : Dialect) : String × Value → Option Dialect
  | ("spatial_predicates", value) => do
      return { d with spatialPredicates := ← spatialPredicates? value }
  | ("functions", value) => do return { d with functions := ← functions? value }
  | ("strict_functions", value) => do return { d with strictFunctions := ← boolean? value }
  | ("like", value) => do return { d with like := ← like? value }
  | ("double_quotes", value) => do return { d with doubleQuotes := ← quoteStyle? value }
  | ("max_depth", value) => do return { d with maxDepth := ← count? value }
  | _ => none

end Loading

/-- The dialect that a document describes, with the names of its functions in lower
case. -/
def Dialect.ofToml (text : String) : Except LoadFault Dialect :=
  match (Toml.parse? text).bind (·.foldlM Loading.setting .standard) with
  | none => .error .malformed
  | some raw =>
      let d := raw.withLowercaseFunctions
      match d.fault? with
      | some fault => .error (.invalid fault)
      | none => .ok d

/-- The dialect that a file describes, given what the file holds if it can be read. -/
def Dialect.load (contents : Option String) : Except LoadFault Dialect :=
  match contents with
  | none => .error .unreadable
  | some text => Dialect.ofToml text

def LoadFault.message : LoadFault → String
  | .unreadable => "cannot read dialect file"
  | .malformed => "cannot parse dialect"
  | .invalid fault => "invalid dialect: " ++ fault.message

end GeoFilter
