import GeoFilter.GeometryProcess.Registry
import GeoFilter.Proofs.NameTable

/-!
What a registry holds after any calls at all. It is settled by the calls behind the last
reset: a name that is not among the processes always at hand keeps what was registered first
under it, and no later call changes that, whether it is accepted or rejected.
-/

namespace GeoFilter.ProcessRegistry

/-- A call that can change a registry. -/
inductive Call where
  | register (name : String) (process : GeometryProcess)
  | reset

def Call.isReset : Call → Bool
  | .register _ _ => false
  | .reset => true

/-- How a registry comes into being. -/
inductive Origin where
  | bare
  | furnished

def Origin.registry : Origin → ProcessRegistry
  | .bare => .empty
  | .furnished => .standard

/-- The registry behind a call. A registration that is rejected leaves it alone. -/
def after (registry : ProcessRegistry) : Call → ProcessRegistry
  | .register name process =>
      match registry.register name process with
      | .ok next => next
      | .error _ => registry
  | .reset => registry.reset

/-- The registry behind a list of calls. -/
def run (origin : Origin) (calls : List Call) : ProcessRegistry :=
  calls.foldl after origin.registry

/-- The processes that are always at hand, by their names. -/
def builtin? (name : String) : Option GeometryProcess :=
  if name = "geo:area" then some .area
  else if name = "geo:bounds" then some .bounds
  else if name = "geo:length" then some .length
  else none

/-- The calls behind the last reset, or all of them if there is none. -/
def sinceReset (calls : List Call) : List Call :=
  (calls.reverse.takeWhile fun call => !call.isReset).reverse

/-- What the first registration of a name gives it. -/
def firstRegistered? (name : String) (calls : List Call) : Option GeometryProcess :=
  calls.findSome? fun
    | .register other process => if other = name then some process else none
    | .reset => none

/-- What a name had when the registry was last reset, or made if it never was. -/
def starting? (origin : Origin) (calls : List Call) (name : String) : Option GeometryProcess :=
  match origin with
  | .bare => if calls.any Call.isReset then builtin? name else none
  | .furnished => builtin? name

/-- What a name has after some calls: what it started with, or what was registered first
under it since then. -/
def settled (origin : Origin) (calls : List Call) (name : String) : Option GeometryProcess :=
  (starting? origin calls name).or (firstRegistered? name (sinceReset calls))

/-- A registry that answers every question as its content says. -/
structure Holds (registry : ProcessRegistry) (content : String → Option GeometryProcess) :
    Prop where
  find? : ∀ name, registry.find? name = content name
  contains : ∀ name, registry.contains name = (content name).isSome
  names : ∀ name, name ∈ registry.names ↔ (content name).isSome = true
  ascending : registry.names.Pairwise (· < ·)
  descriptors : registry.descriptors.map some =
    registry.names.map fun name => (content name).map GeometryProcess.descriptor
  execute : ∀ {name process}, content name = some process →
    ∀ inputs, registry.execute name inputs = process.run inputs
  unknown : ∀ {name}, content name = none →
    ∀ inputs, registry.execute name inputs = .error (.unknown name)
  taken : ∀ {name held}, content name = some held → ∀ process,
    registry.register name process =
      (if held.descriptor = process.descriptor then .ok registry else .error (.conflict name)) ∧
    registry.after (.register name process) = registry
  free : ∀ {name}, content name = none → ∀ process, ∃ next,
    registry.register name process = .ok next ∧
    ∀ other, next.find? other = if other = name then some process else content other

variable {registry : ProcessRegistry} {content : String → Option GeometryProcess}

/-- A name that is taken stays as it is, whether the registration is accepted or rejected. -/
theorem after_register_taken {name : String} {held : GeometryProcess}
    (h : registry.find? name = some held) (process : GeometryProcess) :
    registry.after (.register name process) = registry := by
  by_cases hsame : held.descriptor = process.descriptor
  · simp only [after, register, h, if_pos hsame]
  · simp only [after, register, h, if_neg hsame]

theorem after_register_free {name : String} (h : registry.find? name = none)
    (process : GeometryProcess) :
    registry.after (.register name process) = ⟨registry.processes.insert name process⟩ := by
  simp only [after, register, h]

/-- All answers follow from what the names find and from the order of the names. -/
theorem holds_of_find? (hascending : registry.processes.Ascending)
    (hfind : ∀ name, registry.find? name = content name) : registry.Holds content where
  find? := hfind
  contains name := congrArg Option.isSome (hfind name)
  names name := by
    rw [← hfind]
    exact NameTable.mem_names_iff registry.processes name
  ascending := hascending
  descriptors := by
    have hvalues := congrArg (List.map (Option.map GeometryProcess.descriptor)) hascending.find?_names
    rw [List.map_map, List.map_map] at hvalues
    simp only [← hfind]
    rw [descriptors, List.map_map]
    exact hvalues.symm
  execute h inputs := by
    rw [execute, hfind, h]
  unknown h inputs := by
    rw [execute, hfind, h]
  taken h process := by
    have htaken := (hfind _).trans h
    exact ⟨by rw [register, htaken], after_register_taken htaken process⟩
  free h process := by
    have hfree := (hfind _).trans h
    refine ⟨⟨registry.processes.insert _ process⟩, by rw [register, hfree], fun other => ?_⟩
    rw [← hfind other]
    exact NameTable.find?_insert _ _ _ other

theorem ascending_after (h : registry.processes.Ascending) (call : Call) :
    (registry.after call).processes.Ascending := by
  cases call with
  | reset => exact NameTable.ascending_ofList _
  | register name process =>
      cases hfind : registry.find? name with
      | none =>
          rw [after_register_free hfind]
          exact h.insert name process
      | some held =>
          rw [after_register_taken hfind]
          exact h

theorem find?_standard (name : String) : standard.find? name = builtin? name := by
  change (((NameTable.empty.insert "geo:bounds" GeometryProcess.bounds).insert
    "geo:area" .area).insert "geo:length" .length).find? name = _
  by_cases harea : name = "geo:area"
  · subst harea
    rfl
  by_cases hbounds : name = "geo:bounds"
  · subst hbounds
    rfl
  rw [NameTable.find?_insert, NameTable.find?_insert, NameTable.find?_insert, builtin?,
    if_neg harea, if_neg harea, if_neg hbounds, if_neg hbounds]
  rfl

/-- What a call makes of the content of a registry. -/
def contentAfter (content : String → Option GeometryProcess) (call : Call) (name : String) :
    Option GeometryProcess :=
  match call with
  | .register other process => (content name).or (if other = name then some process else none)
  | .reset => builtin? name

theorem find?_after (hfind : ∀ name, registry.find? name = content name) (call : Call)
    (name : String) : (registry.after call).find? name = contentAfter content call name := by
  cases call with
  | reset => exact find?_standard name
  | register other process =>
      simp only [contentAfter, ← hfind]
      cases hother : registry.find? other with
      | none =>
          rw [after_register_free hother]
          refine (NameTable.find?_insert _ other process name).trans ?_
          by_cases hsame : name = other
          · subst hsame
            rw [if_pos rfl, if_pos rfl, hother]
            rfl
          · rw [if_neg hsame, if_neg (Ne.symm hsame), Option.or_none]
            rfl
      | some held =>
          rw [after_register_taken hother]
          by_cases hsame : other = name
          · subst hsame
            rw [hother]
            rfl
          · rw [if_neg hsame, Option.or_none]

section Histories

variable (origin : Origin) (calls : List Call) (name : String)

theorem sinceReset_snoc_reset : sinceReset (calls ++ [.reset]) = [] := by
  simp [sinceReset, Call.isReset]

theorem sinceReset_snoc_register (process : GeometryProcess) :
    sinceReset (calls ++ [.register name process]) =
      sinceReset calls ++ [.register name process] := by
  simp [sinceReset, Call.isReset]

theorem firstRegistered?_snoc (other : String) (process : GeometryProcess) :
    firstRegistered? name (calls ++ [.register other process]) =
      (firstRegistered? name calls).or (if other = name then some process else none) := by
  rw [firstRegistered?, firstRegistered?, List.findSome?_append, List.findSome?_singleton]

theorem starting?_snoc_register (other : String) (process : GeometryProcess) :
    starting? origin (calls ++ [.register other process]) name = starting? origin calls name := by
  cases origin with
  | bare => simp [starting?, Call.isReset]
  | furnished => rfl

theorem starting?_snoc_reset : starting? origin (calls ++ [.reset]) name = builtin? name := by
  cases origin with
  | bare => simp [starting?, Call.isReset]
  | furnished => rfl

/-- A further call changes the content as it changes any other. -/
theorem settled_snoc (call : Call) :
    settled origin (calls ++ [call]) name = contentAfter (settled origin calls) call name := by
  cases call with
  | reset =>
      rw [settled, starting?_snoc_reset, sinceReset_snoc_reset]
      exact Option.or_none
  | register other process =>
      rw [settled, starting?_snoc_register, sinceReset_snoc_register,
        firstRegistered?_snoc, ← Option.or_assoc]
      rfl

theorem find?_origin : origin.registry.find? name = settled origin [] name := by
  cases origin with
  | bare => rfl
  | furnished =>
      refine (find?_standard name).trans ?_
      exact Option.or_none.symm

theorem ascending_origin : origin.registry.processes.Ascending := by
  cases origin with
  | bare => exact NameTable.ascending_empty
  | furnished => exact NameTable.ascending_ofList _

theorem run_snoc (call : Call) : run origin (calls ++ [call]) = (run origin calls).after call := by
  rw [run, List.foldl_append]
  rfl

-- A history is taken apart from its end, since that is where the last reset is looked for.
theorem ascending_run : (run origin calls).processes.Ascending := by
  induction calls using List.reverseRecOn with
  | nil => exact ascending_origin origin
  | append_singleton calls call ih =>
      rw [run_snoc]
      exact ascending_after ih call

theorem find?_run : (run origin calls).find? name = settled origin calls name := by
  induction calls using List.reverseRecOn generalizing name with
  | nil => exact find?_origin origin name
  | append_singleton calls call ih =>
      rw [run_snoc, settled_snoc]
      exact find?_after ih call name

end Histories

/-- After any calls a registry answers by what each name started with and by what was
registered first under it since. -/
theorem run_holds (origin : Origin) (calls : List Call) :
    (run origin calls).Holds (settled origin calls) :=
  holds_of_find? (ascending_run origin calls) (find?_run origin calls)

end GeoFilter.ProcessRegistry
