import GeoFilter.Dialect.Loading
import GeoFilter.Proofs.NameTable
import GeoFilter.Proofs.Text.Lowercase
import GeoFilter.Proofs.Toml.Keys

/-!
The functions of a loaded dialect. Every name that a document declares is found in any case,
but names that meet in lower case share one arity: the one declared for the last of them.
-/

namespace GeoFilter

open Text Toml

/-- What a document says of each function that it names. -/
def declaredFunctions (document : List (String × Value)) : List (String × Value) :=
  match document.lookup "functions" with
  | some (.table declared) => declared
  | _ => []

/-- The names of the functions in a document. -/
def declaredNames (document : List (String × Value)) : List String :=
  (declaredFunctions document).map Prod.fst

/-- The arity that a document declares for a name. -/
def declaredArity? (document : List (String × Value)) (name : String) : Option Arity :=
  ((declaredFunctions document).lookup name).bind Loading.arity?

section Settings

variable {d raw : Dialect} {document : List (String × Value)} {key : String} {value : Value}

theorem setting_functions (h : Loading.setting d ("functions", value) = some raw) :
    Loading.functions? value = some raw.functions := by
  obtain ⟨functions, hfunctions, heq⟩ := Option.bind_eq_some_iff.mp h
  cases heq
  exact hfunctions

/-- Settings with another name leave the functions as they are. -/
theorem functions_of_setting (hkey : key ≠ "functions")
    (h : Loading.setting d (key, value) = some raw) : raw.functions = d.functions := by
  unfold Loading.setting at h
  split at h
  case h_2 _ heq => exact absurd (Prod.mk.inj heq).1 hkey
  case h_7 => cases h
  all_goals
    obtain ⟨setting, -, heq⟩ := Option.bind_eq_some_iff.mp h
    cases heq
    rfl

theorem functions_of_foldlM (hkey : "functions" ∉ document.map Prod.fst)
    (h : document.foldlM Loading.setting d = some raw) : raw.functions = d.functions := by
  induction document generalizing d with
  | nil =>
      cases h
      rfl
  | cons entry rest ih =>
      obtain ⟨next, hnext, hrest⟩ := Option.bind_eq_some_iff.mp (List.foldlM_cons.symm.trans h)
      rw [List.map_cons, List.mem_cons, not_or] at hkey
      rw [ih hkey.2 hrest, functions_of_setting (Ne.symm hkey.1) hnext]

/-- Where keys differ, the functions are those of the one entry with that name. -/
theorem functions?_of_foldlM (hdistinct : (document.map Prod.fst).Nodup)
    (h : document.foldlM Loading.setting d = some raw)
    (hlookup : document.lookup "functions" = some value) :
    Loading.functions? value = some raw.functions := by
  induction document generalizing d with
  | nil => cases hlookup
  | cons entry rest ih =>
      obtain ⟨key, held⟩ := entry
      obtain ⟨next, hnext, hrest⟩ := Option.bind_eq_some_iff.mp (List.foldlM_cons.symm.trans h)
      obtain ⟨hkey, hdistinct⟩ := List.nodup_cons.mp hdistinct
      rw [List.lookup_cons] at hlookup
      split at hlookup
      · rename_i hsame
        cases hlookup
        cases beq_iff_eq.mp hsame
        rw [functions_of_foldlM hkey hrest]
        exact setting_functions hnext
      · exact ih hdistinct hrest hlookup

/-- The arities of declared functions stand under the declared names, and none is missing. -/
theorem arities_of_mapM {declared : List (String × Value)} {arities : List (String × Arity)}
    (h : declared.mapM (fun (name, value) => (Loading.arity? value).map (name, ·)) =
      some arities) :
    arities.map Prod.fst = declared.map Prod.fst ∧
    (∀ name arity, (name, arity) ∈ arities →
      ∃ value, (name, value) ∈ declared ∧ Loading.arity? value = some arity) ∧
    ∀ name value, (name, value) ∈ declared →
      ∃ arity, (name, arity) ∈ arities ∧ Loading.arity? value = some arity := by
  induction declared generalizing arities with
  | nil =>
      cases h
      exact ⟨rfl, nofun, nofun⟩
  | cons entry rest ih =>
      obtain ⟨first, held⟩ := entry
      rw [List.mapM_cons] at h
      obtain ⟨_, hfirst, h⟩ := Option.bind_eq_some_iff.mp h
      obtain ⟨later, hlater, h⟩ := Option.bind_eq_some_iff.mp h
      obtain ⟨arity, harity, rfl⟩ := Option.map_eq_some_iff.mp hfirst
      cases h
      obtain ⟨hnames, hback, hforth⟩ := ih hlater
      refine ⟨congrArg (first :: ·) hnames, fun name found hmem => ?_, fun name value hmem => ?_⟩
      · rcases List.mem_cons.mp hmem with heq | hmem
        · cases heq
          exact ⟨held, List.mem_cons_self, harity⟩
        · obtain ⟨value, hvalue, hfound⟩ := hback name found hmem
          exact ⟨value, List.mem_cons_of_mem _ hvalue, hfound⟩
      · rcases List.mem_cons.mp hmem with heq | hmem
        · cases heq
          exact ⟨arity, List.mem_cons_self, harity⟩
        · obtain ⟨found, hfound, hvalue⟩ := hforth name value hmem
          exact ⟨found, List.mem_cons_of_mem _ hfound, hvalue⟩

theorem ascending_of_functions? {table : NameTable Arity}
    (h : Loading.functions? value = some table) : table.Ascending := by
  unfold Loading.functions? at h
  split at h
  · obtain ⟨arities, -, htable⟩ := Option.bind_eq_some_iff.mp h
    rw [← Option.some.inj htable]
    exact NameTable.ascending_ofList arities
  · cases h

/-- A table of functions holds the declared names, each with an arity declared for it. -/
theorem mem_entries_of_functions? {declared : List (String × Value)} {table : NameTable Arity}
    (hdistinct : (declared.map Prod.fst).Nodup)
    (h : Loading.functions? (.table declared) = some table) :
    (∀ name ∈ declared.map Prod.fst, ∃ arity, (name, arity) ∈ table.entries) ∧
    ∀ name arity, (name, arity) ∈ table.entries →
      ∃ value, (name, value) ∈ declared ∧ Loading.arity? value = some arity := by
  obtain ⟨arities, harities, htable⟩ := Option.bind_eq_some_iff.mp h
  obtain ⟨hnames, hback, hforth⟩ := arities_of_mapM harities
  have hentries : ∀ {name arity}, (name, arity) ∈ table.entries ↔ (name, arity) ∈ arities := by
    rw [← Option.some.inj htable]
    exact NameTable.mem_ofList_iff (hnames ▸ hdistinct)
  refine ⟨fun name hname => ?_, fun name arity hmem => hback name arity (hentries.mp hmem)⟩
  obtain ⟨⟨_, value⟩, hvalue, rfl⟩ := List.mem_map.mp hname
  obtain ⟨arity, harity, -⟩ := hforth _ value hvalue
  exact ⟨arity, hentries.mpr harity⟩

theorem lookup_functions {entry : String × Value} (h : entry ∈ declaredFunctions document) :
    document.lookup "functions" = some (.table (declaredFunctions document)) := by
  unfold declaredFunctions at h ⊢
  split at h
  · rename_i hlookup
    rw [hlookup]
  · cases h

/-- The names that a document declares are different, and what it says of them is what the
functions are read from. -/
theorem functions?_declaredFunctions {text : String} {entry : String × Value}
    (hdocument : Toml.parse? text = some document)
    (hraw : document.foldlM Loading.setting d = some raw)
    (h : entry ∈ declaredFunctions document) :
    (declaredNames document).Nodup ∧
      Loading.functions? (.table (declaredFunctions document)) = some raw.functions := by
  have hkeys := keysDistinct_of_parse? hdocument
  have hlookup := lookup_functions h
  exact ⟨Value.nodup_of_keysDistinct (Value.distinct_of_lookup hkeys hlookup),
    functions?_of_foldlM (Value.nodup_of_keysDistinct hkeys) hraw hlookup⟩

theorem raw_of_ofToml {text : String} (hdocument : Toml.parse? text = some document)
    (hload : Dialect.ofToml text = .ok d) :
    ∃ raw, document.foldlM Loading.setting .standard = some raw ∧
      d = raw.withLowercaseFunctions := by
  unfold Dialect.ofToml at hload
  split at hload
  · cases hload
  · rename_i raw hraw
    rw [hdocument] at hraw
    dsimp only at hload
    split at hload
    · cases hload
    · cases hload
      exact ⟨raw, hraw, rfl⟩

end Settings

/-- A name that a document declares is found in any case once the document is loaded. The
arity is the one declared for the last of the names with the same lower case, which is the
name's own arity if no other name meets it there. -/
theorem functionArity?_declared {text : String} {document : List (String × Value)} {d : Dialect}
    (hdocument : Toml.parse? text = some document) (hload : Dialect.ofToml text = .ok d)
    {name : String} (hdeclared : name ∈ declaredNames document) :
    ∃ winner arity,
      IsGreatest {other | other ∈ declaredNames document ∧ lowercase other = lowercase name}
        winner ∧
      declaredArity? document winner = some arity ∧
      (∀ asked, sameWord asked name = true → d.functionArity? asked = some arity) ∧
      ((∀ other ∈ declaredNames document, lowercase other = lowercase name → other = name) →
        declaredArity? document name = some arity) := by
  obtain ⟨⟨_, value⟩, hvalue, rfl⟩ := List.mem_map.mp hdeclared
  obtain ⟨raw, hraw, rfl⟩ := raw_of_ofToml hdocument hload
  obtain ⟨hdistinct, hfunctions⟩ := functions?_declaredFunctions hdocument hraw hvalue
  obtain ⟨hforth, hback⟩ := mem_entries_of_functions? hdistinct hfunctions
  -- The table has the names that the document declares, so they are the ones that can meet.
  have hmem : ∀ other, other ∈ raw.functions.entries.map Prod.fst ↔
      other ∈ declaredNames document := by
    refine fun other => ⟨fun hother => ?_, fun hother => ?_⟩
    · obtain ⟨⟨_, arity⟩, harity, rfl⟩ := List.mem_map.mp hother
      obtain ⟨ruling, hruling, -⟩ := hback _ arity harity
      exact List.mem_map_of_mem hruling
    · obtain ⟨arity, harity⟩ := hforth other hother
      exact List.mem_map_of_mem harity
  obtain ⟨own, hown⟩ := hforth _ hdeclared
  obtain ⟨winner, arity, hwinner, hgreatest, hfind⟩ :=
    NameTable.find?_ofList_renamed lowercase (ascending_of_functions? hfunctions) hown
  obtain ⟨ruling, hruling, harity⟩ := hback winner arity hwinner
  simp only [hmem] at hgreatest
  have hfound : declaredArity? document winner = some arity := by
    rw [declaredArity?, Value.lookup_of_mem hdistinct hruling]
    exact harity
  refine ⟨winner, arity, hgreatest, hfound, fun asked hasked => ?_, fun halone => ?_⟩
  · rw [Dialect.functionArity?, lowercase_eq_of_sameWord hasked]
    exact hfind
  · rwa [← halone winner hgreatest.1.1 hgreatest.1.2]

/-- Two functions whose names stay apart in lower case. -/
def separateFunctions : String :=
  "[functions]\nMyFunc.min = 1\nother.min = 2\n"

theorem functionArity?_declared_separate :
    ∃ document d, Toml.parse? separateFunctions = some document ∧
      Dialect.ofToml separateFunctions = .ok d ∧ "MyFunc" ∈ declaredNames document ∧
      sameWord "MYFUNC" "MyFunc" = true ∧ d.functionArity? "MYFUNC" = some (.atLeast 1) := by
  have hparsed : (Toml.parse? separateFunctions).map (fun document =>
      (declaredNames document, declaredArity? document "MyFunc")) =
        some (["MyFunc", "other"], some (.atLeast 1)) := by decide +kernel
  have hloaded : (Dialect.ofToml separateFunctions).isOk = true := by decide +kernel
  obtain ⟨document, hdocument, hdeclared⟩ := Option.map_eq_some_iff.mp hparsed
  obtain ⟨hnames, harity⟩ := Prod.mk.inj hdeclared
  have hname : "MyFunc" ∈ declaredNames document := by
    rw [hnames]
    decide
  have hasked : sameWord "MYFUNC" "MyFunc" = true := by decide
  cases hload : Dialect.ofToml separateFunctions with
  | error fault =>
      rw [hload] at hloaded
      cases hloaded
  | ok d =>
      obtain ⟨winner, arity, -, -, hfound, halone⟩ :=
        functionArity?_declared hdocument hload hname
      have hown : declaredArity? document "MyFunc" = some arity := by
        refine halone ?_
        rw [hnames]
        decide +kernel
      rw [harity] at hown
      exact ⟨document, d, hdocument, rfl, hname, hasked, hown ▸ hfound _ hasked⟩

/-- Two functions whose names meet in lower case. -/
def meetingFunctions : String :=
  "[functions]\nF.min = 1\nf.min = 2\n"

/-- The arity of a name is lost when a later name meets it in lower case. -/
theorem not_forall_functionArity?_declared :
    ¬∀ (text : String) (document : List (String × Value)) (d : Dialect) (name : String),
      Toml.parse? text = some document → Dialect.ofToml text = .ok d →
      name ∈ declaredNames document →
      ∀ asked, sameWord asked name = true →
        d.functionArity? asked = declaredArity? document name := by
  intro h
  have hparsed : (Toml.parse? meetingFunctions).map (fun document =>
      (declaredNames document, declaredArity? document "F")) =
        some (["F", "f"], some (.atLeast 1)) := by decide +kernel
  have hloaded : (Dialect.ofToml meetingFunctions).toOption.map (·.functionArity? "F") =
      some (some (.atLeast 2)) := by decide +kernel
  obtain ⟨document, hdocument, hdeclared⟩ := Option.map_eq_some_iff.mp hparsed
  obtain ⟨hnames, harity⟩ := Prod.mk.inj hdeclared
  have hname : "F" ∈ declaredNames document := by
    rw [hnames]
    decide
  cases hload : Dialect.ofToml meetingFunctions with
  | error fault =>
      rw [hload] at hloaded
      cases hloaded
  | ok d =>
      have hasked := h meetingFunctions document d "F" hdocument hload hname "F" (sameWord_self _)
      rw [hload] at hloaded
      rw [harity] at hasked
      cases (Option.some.inj hloaded).symm.trans hasked

end GeoFilter
