import GeoFilter.GeometryProcess
import GeoFilter.NameTable

/-!
Registries of geometry processes. A name keeps the process that was registered first
under it until the registry is reset.
-/

namespace GeoFilter

structure ProcessRegistry where
  processes : NameTable GeometryProcess

namespace ProcessRegistry

def empty : ProcessRegistry := ⟨.empty⟩

/-- The registry of the processes that are always at hand. -/
def standard : ProcessRegistry :=
  ⟨.ofList [("geo:bounds", .bounds), ("geo:area", .area), ("geo:length", .length)]⟩

/-- Drops every registration. -/
def reset (_ : ProcessRegistry) : ProcessRegistry := standard

def find? (registry : ProcessRegistry) (name : String) : Option GeometryProcess :=
  registry.processes.find? name

def contains (registry : ProcessRegistry) (name : String) : Bool :=
  registry.processes.contains name

def names (registry : ProcessRegistry) : List String :=
  registry.processes.names

def descriptors (registry : ProcessRegistry) : List ProcessDescriptor :=
  registry.processes.values.map GeometryProcess.descriptor

/-- Puts a process under a name. A name that is taken keeps what it has, and it is an
error unless both processes are described alike. -/
def register (registry : ProcessRegistry) (name : String) (process : GeometryProcess) :
    Except ProcessFault ProcessRegistry :=
  match registry.find? name with
  | some held =>
      if held.descriptor = process.descriptor then .ok registry else .error (.conflict name)
  | none => .ok ⟨registry.processes.insert name process⟩

def execute (registry : ProcessRegistry) (name : String) (inputs : List Literal) :
    Except ProcessFault Literal :=
  match registry.find? name with
  | some process => process.run inputs
  | none => .error (.unknown name)

/-- A process that was just registered under a free name is found there. -/
theorem find?_register {registry next : ProcessRegistry} {name : String}
    {process : GeometryProcess} (free : registry.find? name = none)
    (h : registry.register name process = .ok next) : next.find? name = some process := by
  rw [register, free] at h
  cases h
  exact NameTable.find?_insert_self _ _ _

end ProcessRegistry

end GeoFilter
