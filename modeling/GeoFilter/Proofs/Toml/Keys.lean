import Mathlib
import GeoFilter.Toml.Document

/-!
No table of a document has a key twice. The tables under construction keep this when a line
adds to them, and a value is read without it ever being broken.
-/

namespace GeoFilter.Toml

mutual

/-- No table in a value has a key twice, at whatever depth it stands. -/
def Value.Distinct : Value → Prop
  | .array items => Value.AllDistinct items
  | .table entries => Value.KeysDistinct entries
  | _ => True

def Value.AllDistinct : List Value → Prop
  | [] => True
  | item :: rest => item.Distinct ∧ Value.AllDistinct rest

/-- Neither the entries of a table nor the tables under them have a key twice. -/
def Value.KeysDistinct : List (String × Value) → Prop
  | [] => True
  | (key, value) :: rest => key ∉ rest.map Prod.fst ∧ value.Distinct ∧ Value.KeysDistinct rest

end

mutual

def Node.Distinct : Node → Prop
  | .value held => held.Distinct
  | .table _ entries => Node.KeysDistinct entries
  | .tables earlier last => Node.AllDistinct earlier ∧ Node.KeysDistinct last

def Node.KeysDistinct : List (String × Node) → Prop
  | [] => True
  | (key, node) :: rest => key ∉ rest.map Prod.fst ∧ node.Distinct ∧ Node.KeysDistinct rest

def Node.AllDistinct : List (List (String × Node)) → Prop
  | [] => True
  | entries :: rest => Node.KeysDistinct entries ∧ Node.AllDistinct rest

end

theorem Node.keysDistinct_nil : Node.KeysDistinct [] := trivial

theorem Node.allDistinct_nil : Node.AllDistinct [] := trivial

section Tables

variable {change : Option Node → Option Node} {key other : String} {entries after : Entries}
  {node : Node} {value : Value}

theorem Value.nodup_of_keysDistinct {entries : List (String × Value)}
    (h : Value.KeysDistinct entries) : (entries.map Prod.fst).Nodup := by
  induction entries with
  | nil => exact List.nodup_nil
  | cons entry rest ih =>
      obtain ⟨hkey, -, hrest⟩ := h
      exact List.nodup_cons.mpr ⟨hkey, ih hrest⟩

theorem Value.distinct_of_lookup {entries : List (String × Value)}
    (h : Value.KeysDistinct entries) (hlookup : entries.lookup key = some value) :
    value.Distinct := by
  induction entries with
  | nil => cases hlookup
  | cons entry rest ih =>
      obtain ⟨-, hvalue, hrest⟩ := h
      rw [List.lookup_cons] at hlookup
      split at hlookup
      · cases hlookup
        exact hvalue
      · exact ih hrest hlookup

/-- Where keys differ, each finds its own value. -/
theorem Value.lookup_of_mem {entries : List (String × Value)} (h : (entries.map Prod.fst).Nodup)
    (hmem : (key, value) ∈ entries) : entries.lookup key = some value := by
  obtain ⟨front, behind, rfl⟩ := List.append_of_mem hmem
  refine List.lookup_eq_some_iff.mpr ⟨front, behind, rfl, fun entry hentry => ?_⟩
  rw [List.map_append, List.nodup_append] at h
  have hdiffers := h.2.2 entry.1 (List.mem_map_of_mem hentry) key List.mem_cons_self
  exact bne_iff_ne.mpr hdiffers.symm

theorem Value.allDistinct_append {items : List Value} (h : Value.AllDistinct items)
    (hvalue : value.Distinct) : Value.AllDistinct (items ++ [value]) := by
  induction items with
  | nil => exact ⟨hvalue, trivial⟩
  | cons item rest ih => exact ⟨h.1, ih h.2⟩

theorem Node.allDistinct_append {earlier : List Entries} (h : Node.AllDistinct earlier)
    (hlast : Node.KeysDistinct entries) : Node.AllDistinct (earlier ++ [entries]) := by
  induction earlier with
  | nil => exact ⟨hlast, trivial⟩
  | cons first rest ih => exact ⟨h.1, ih h.2⟩

/-- Changing the entry of a key brings in no other key. -/
theorem mem_keys_of_alter (h : alter change key entries = some after)
    (hmem : other ∈ after.map Prod.fst) : other = key ∨ other ∈ entries.map Prod.fst := by
  induction entries generalizing after with
  | nil =>
      obtain ⟨node, -, rfl⟩ := Option.map_eq_some_iff.mp h
      exact .inl (List.mem_singleton.mp hmem)
  | cons entry rest ih =>
      rw [alter] at h
      split at h
      · obtain ⟨node, -, rfl⟩ := Option.map_eq_some_iff.mp h
        exact (List.mem_cons.mp hmem).imp_right (List.mem_cons_of_mem _)
      · obtain ⟨later, hlater, rfl⟩ := Option.map_eq_some_iff.mp h
        rcases List.mem_cons.mp hmem with rfl | hmem
        · exact .inr List.mem_cons_self
        · exact (ih hlater hmem).imp_right (List.mem_cons_of_mem _)

/-- A change of what a key holds, or of a key that is new, leaves the keys apart. -/
def KeepsDistinct (change : Option Node → Option Node) : Prop :=
  ∀ held node, (∀ before ∈ held, before.Distinct) → change held = some node → node.Distinct

theorem keysDistinct_of_alter (hchange : KeepsDistinct change)
    (h : alter change key entries = some after) (hentries : Node.KeysDistinct entries) :
    Node.KeysDistinct after := by
  induction entries generalizing after with
  | nil =>
      obtain ⟨node, hnode, rfl⟩ := Option.map_eq_some_iff.mp h
      exact ⟨List.not_mem_nil, hchange none node nofun hnode, trivial⟩
  | cons entry rest ih =>
      obtain ⟨other, held⟩ := entry
      obtain ⟨hother, hheld, hrest⟩ := hentries
      rw [alter] at h
      split at h
      · rename_i hsame
        obtain ⟨node, hnode, rfl⟩ := Option.map_eq_some_iff.mp h
        refine ⟨hsame ▸ hother, hchange (some held) node ?_ hnode, hrest⟩
        rintro _ ⟨⟩
        exact hheld
      · rename_i hdiffers
        obtain ⟨later, hlater, rfl⟩ := Option.map_eq_some_iff.mp h
        refine ⟨fun hmem => ?_, hheld, ih hlater hrest⟩
        exact (mem_keys_of_alter hlater hmem).elim hdiffers hother

theorem distinct_of_map_table {found : Option Entries} {origin : Origin}
    (hfound : ∀ {inner}, found = some inner → Node.KeysDistinct inner)
    (h : found.map (.table origin) = some node) : node.Distinct := by
  obtain ⟨inner, hinner, rfl⟩ := Option.map_eq_some_iff.mp h
  exact hfound hinner

theorem distinct_of_map_tables {found : Option Entries} {earlier : List Entries}
    (hearlier : Node.AllDistinct earlier)
    (hfound : ∀ {inner}, found = some inner → Node.KeysDistinct inner)
    (h : found.map (.tables earlier) = some node) : node.Distinct := by
  obtain ⟨inner, hinner, rfl⟩ := Option.map_eq_some_iff.mp h
  exact ⟨hearlier, hfound hinner⟩

/-- By induction on the dotted key: the tables on its way stay as they are but for the one that
the rest of the key leads into. -/
theorem keysDistinct_of_insertDotted (hvalue : value.Distinct) :
    ∀ {path : List String} {entries after : Entries}, insertDotted value path entries = some after →
      Node.KeysDistinct entries → Node.KeysDistinct after
  | [], _, _, h => nomatch h
  | [key], entries, after, h => by
      refine keysDistinct_of_alter ?_ h
      intro held node _ hnode
      dsimp only at hnode
      split at hnode
      · cases hnode
      · cases hnode
        exact hvalue
  | key :: next :: later, entries, after, h => by
      have hinside : ∀ {inner entries}, insertDotted value (next :: later) entries = some inner →
          Node.KeysDistinct entries → Node.KeysDistinct inner :=
        keysDistinct_of_insertDotted hvalue
      refine keysDistinct_of_alter ?_ h
      intro held node hheld hnode
      dsimp only at hnode
      split at hnode
      · exact distinct_of_map_table (hinside · Node.keysDistinct_nil) hnode
      · exact distinct_of_map_table (hinside · (hheld _ rfl)) hnode
      · split at hnode
        · cases hnode
        · exact distinct_of_map_table (hinside · (hheld _ rfl)) hnode
      · split at hnode
        · cases hnode
        · have hbefore := hheld _ rfl
          exact distinct_of_map_tables hbefore.1 (hinside · hbefore.2) hnode
      · cases hnode

theorem keysDistinct_of_alterAt (hchange : KeepsDistinct change) :
    ∀ {path : List String} {entries after : Entries}, alterAt change path entries = some after →
      Node.KeysDistinct entries → Node.KeysDistinct after
  | [], _, _, h => nomatch h
  | [key], entries, after, h => keysDistinct_of_alter hchange h
  | key :: next :: later, entries, after, h => by
      have hinside : ∀ {inner entries}, alterAt change (next :: later) entries = some inner →
          Node.KeysDistinct entries → Node.KeysDistinct inner :=
        keysDistinct_of_alterAt hchange
      refine keysDistinct_of_alter ?_ h
      intro held node hheld hnode
      dsimp only at hnode
      split at hnode
      · exact distinct_of_map_table (hinside · Node.keysDistinct_nil) hnode
      · exact distinct_of_map_table (hinside · (hheld _ rfl)) hnode
      · have hbefore := hheld _ rfl
        exact distinct_of_map_tables hbefore.1 (hinside · hbefore.2) hnode
      · cases hnode

section Opening

variable {fill : Entries → Option Entries}
  (hfill : ∀ {entries after}, fill entries = some after → Node.KeysDistinct entries →
    Node.KeysDistinct after)

include hfill

theorem keepsDistinct_openTable : KeepsDistinct (openTable fill) := by
  intro held node hheld hnode
  unfold openTable at hnode
  split at hnode
  · exact distinct_of_map_table (hfill · Node.keysDistinct_nil) hnode
  · exact distinct_of_map_table (hfill · (hheld _ rfl)) hnode
  · cases hnode

theorem keepsDistinct_openArrayTable : KeepsDistinct (openArrayTable fill) := by
  intro held node hheld hnode
  unfold openArrayTable at hnode
  split at hnode
  · exact distinct_of_map_tables Node.allDistinct_nil (hfill · Node.keysDistinct_nil) hnode
  · have hbefore := hheld _ rfl
    have hearlier := Node.allDistinct_append hbefore.1 hbefore.2
    exact distinct_of_map_tables hearlier (hfill · Node.keysDistinct_nil) hnode
  · cases hnode

end Opening

theorem keys_finishEntries (entries : Entries) :
    (finishEntries entries).map Prod.fst = entries.map Prod.fst := by
  induction entries with
  | nil => rfl
  | cons entry rest ih => exact congrArg (entry.1 :: ·) ih

mutual

theorem Node.Distinct.finish : ∀ {node : Node}, node.Distinct → node.finish.Distinct
  | .value _, h => h
  | .table _ entries, h => @keysDistinct_finishEntries entries h
  | .tables _ _, ⟨hearlier, hlast⟩ =>
      Value.allDistinct_append (allDistinct_finishTables hearlier) (keysDistinct_finishEntries hlast)

theorem keysDistinct_finishEntries : ∀ {entries : List (String × Node)},
    Node.KeysDistinct entries → Value.KeysDistinct (finishEntries entries)
  | [], _ => trivial
  | (_, _) :: rest, ⟨hkey, hnode, hrest⟩ =>
      ⟨(keys_finishEntries rest).symm ▸ hkey, hnode.finish,
        keysDistinct_finishEntries hrest⟩

theorem allDistinct_finishTables : ∀ {tables : List (List (String × Node))},
    Node.AllDistinct tables → Value.AllDistinct (finishTables tables)
  | [], _ => trivial
  | _ :: _, ⟨hfirst, hrest⟩ =>
      ⟨keysDistinct_finishEntries hfirst, allDistinct_finishTables hrest⟩

end

end Tables

/-- Whatever a scan reads has the property. -/
def Scan.Gives {α : Type} (scan : Scan α) (P : α → Prop) : Prop :=
  ∀ text found rest, scan text = some (found, rest) → P found

section Scanning

variable {α β : Type} {P : α → Prop} {Q : β → Prop} {scan : Scan α} {next : α → Scan β}

theorem Scan.gives_true : scan.Gives fun _ => True :=
  fun _ _ _ _ => trivial

theorem Scan.gives_pure {a : α} (h : P a) : Scan.Gives (pure a : Scan α) P := by
  rintro text found rest ⟨⟩
  exact h

theorem Scan.gives_failure : Scan.Gives (failure : Scan α) P :=
  nofun

theorem Scan.Gives.bind (hscan : scan.Gives P) (hnext : ∀ a, P a → (next a).Gives Q) :
    Scan.Gives (scan >>= next) Q := by
  intro text found rest h
  obtain ⟨⟨a, later⟩, ha, hlater⟩ := Option.bind_eq_some_iff.mp h
  exact hnext a (hscan _ _ _ ha) _ _ _ hlater

/-- Where nothing is asked of what is read first. -/
theorem Scan.gives_bind (hnext : ∀ a, (next a).Gives Q) : Scan.Gives (scan >>= next) Q :=
  Scan.gives_true.bind fun a _ => hnext a

theorem Scan.gives_ite {condition : Prop} [Decidable condition] {yes no : Scan α}
    (hyes : yes.Gives P) (hno : no.Gives P) :
    Scan.Gives (if condition then yes else no) P := by
  split
  · exact hyes
  · exact hno

theorem Scan.gives_lift {found? : Option α} (h : ∀ a, found? = some a → P a) :
    Scan.Gives (liftM found? : Scan α) P := by
  intro text found rest hfound
  obtain ⟨a, ha, hpair⟩ := Option.bind_eq_some_iff.mp hfound
  cases hpair
  exact h _ ha

end Scanning

section Values

variable {item : Scan Value} (hitem : item.Gives Value.Distinct)

/-- A scalar is not a table and holds none. -/
theorem distinct_of_scalar? {text : List Char} {value : Value} (h : scalar? text = some value) :
    value.Distinct := by
  unfold scalar? at h
  split at h
  · cases h
    trivial
  split at h
  · cases h
    trivial
  split at h
  · cases h
    trivial
  split at h
  · cases h
    trivial
  · obtain ⟨number, -, rfl⟩ := Option.map_eq_some_iff.mp h
    trivial

theorem gives_scanScalar : scanScalar.Gives Value.Distinct := by
  intro text value behind h
  unfold scanScalar at h
  extract_lets run rest longer at h
  split at h
  · cases h
    trivial
  · obtain ⟨scalar, hscalar, hpair⟩ := Option.map_eq_some_iff.mp h
    exact (Prod.mk.inj hpair).1 ▸ distinct_of_scalar? hscalar

include hitem

theorem gives_arrayItems (count : Nat) : (arrayItems item count).Gives Value.AllDistinct := by
  induction count with
  | zero => exact Scan.gives_failure
  | succ count ih =>
      refine Scan.gives_bind fun _ => Scan.gives_bind fun _ => Scan.gives_ite ?_ ?_
      · exact Scan.gives_pure trivial
      · refine hitem.bind fun value hvalue => Scan.gives_bind fun _ => Scan.gives_bind fun _ =>
          Scan.gives_ite ?_ ?_
        · exact ih.bind fun rest hrest => Scan.gives_pure ⟨hvalue, hrest⟩
        · exact Scan.gives_bind fun _ => Scan.gives_pure ⟨hvalue, trivial⟩

theorem gives_keyValue : (keyValue item).Gives fun entry => entry.2.Distinct :=
  Scan.gives_bind fun _ => Scan.gives_bind fun _ => Scan.gives_bind fun _ => Scan.gives_bind fun _ =>
    hitem.bind fun _ hvalue => Scan.gives_pure hvalue

theorem gives_inlineEntries (count : Nat) {entries : Entries} (h : Node.KeysDistinct entries) :
    (inlineEntries item count entries).Gives Node.KeysDistinct := by
  induction count generalizing entries with
  | zero => exact Scan.gives_failure
  | succ count ih =>
      refine (gives_keyValue hitem).bind fun ⟨key, value⟩ hvalue => Scan.gives_bind fun _ => ?_
      have hinsert : Scan.Gives (liftM (insertDotted value key entries) : Scan Entries)
          Node.KeysDistinct :=
        Scan.gives_lift fun after hafter => keysDistinct_of_insertDotted hvalue hafter h
      refine hinsert.bind fun after hafter => Scan.gives_bind fun _ => Scan.gives_ite ?_ ?_
      · exact ih hafter
      · exact Scan.gives_bind fun _ => Scan.gives_pure hafter

end Values

theorem gives_value (levels : Nat) : (value levels).Gives Value.Distinct := by
  have hstring : ∀ mark, Scan.Gives (scanQuotation mark >>= fun text => pure (.string text))
      Value.Distinct := fun mark => Scan.gives_bind fun _ => Scan.gives_pure trivial
  induction levels with
  | zero =>
      refine Scan.gives_bind fun _ => Scan.gives_ite (hstring _) ?_
      exact Scan.gives_bind fun _ => Scan.gives_ite (hstring _) gives_scanScalar
  | succ levels ih =>
      refine Scan.gives_bind fun _ => Scan.gives_ite (hstring _) ?_
      refine Scan.gives_bind fun _ => Scan.gives_ite (hstring _) ?_
      refine Scan.gives_bind fun _ => Scan.gives_ite ?_ ?_
      · exact Scan.gives_bind fun count => (gives_arrayItems ih count).bind fun _ hitems =>
          Scan.gives_pure hitems
      · refine Scan.gives_bind fun _ => Scan.gives_ite ?_ gives_scanScalar
        refine Scan.gives_bind fun _ => Scan.gives_bind fun _ => Scan.gives_ite ?_ ?_
        · exact Scan.gives_pure trivial
        · exact Scan.gives_bind fun count => (@gives_inlineEntries _ ih count [] trivial).bind
            fun _ hentries => Scan.gives_pure (keysDistinct_finishEntries hentries)

def Line.Distinct : Line → Prop
  | .entry _ value => value.Distinct
  | _ => True

theorem gives_line : line.Gives Line.Distinct := by
  refine Scan.gives_bind fun _ => Scan.gives_bind fun _ => ?_
  split
  · refine Scan.gives_bind fun _ => Scan.gives_bind fun _ => Scan.gives_ite ?_ ?_
    · exact Scan.gives_bind fun _ => Scan.gives_bind fun _ => Scan.gives_bind fun _ =>
        Scan.gives_bind fun _ => Scan.gives_pure trivial
    · exact Scan.gives_bind fun _ => Scan.gives_bind fun _ => Scan.gives_bind fun _ =>
        Scan.gives_pure trivial
  · exact Scan.gives_pure trivial
  · exact Scan.gives_pure trivial
  · exact Scan.gives_pure trivial
  · exact Scan.gives_pure trivial
  · exact (gives_keyValue (gives_value _)).bind fun ⟨_, _⟩ hvalue => Scan.gives_pure hvalue

theorem gives_documentLines (count : Nat) :
    (documentLines count).Gives fun lines => ∀ line ∈ lines, line.Distinct := by
  induction count with
  | zero => exact Scan.gives_pure nofun
  | succ count ih =>
      refine gives_line.bind fun first hfirst => Scan.gives_bind fun _ => Scan.gives_bind fun _ =>
        Scan.gives_bind fun _ => ?_
      split
      · exact Scan.gives_pure (by simpa using hfirst)
      · refine Scan.gives_bind fun _ => ih.bind fun rest hrest => Scan.gives_pure ?_
        exact List.forall_mem_cons.mpr ⟨hfirst, hrest⟩

section Documents

variable {lines later : List Line} {own : List (List String × Value)} {entries after : Entries}

theorem distinct_leadingEntries (h : ∀ line ∈ lines, line.Distinct) :
    (∀ entry ∈ (leadingEntries lines).1, entry.2.Distinct) ∧
      ∀ line ∈ (leadingEntries lines).2, line.Distinct := by
  induction lines with
  | nil => exact ⟨nofun, nofun⟩
  | cons first rest ih =>
      obtain ⟨hfirst, hrest⟩ := List.forall_mem_cons.mp h
      obtain ⟨hown, hlater⟩ := ih hrest
      cases first with
      | blank => exact ⟨hown, hlater⟩
      | entry key value => exact ⟨List.forall_mem_cons.mpr ⟨hfirst, hown⟩, hlater⟩
      | table key => exact ⟨nofun, h⟩
      | arrayTable key => exact ⟨nofun, h⟩

theorem keysDistinct_of_fill (hown : ∀ entry ∈ own, entry.2.Distinct)
    (h : fill own entries = some after) (hentries : Node.KeysDistinct entries) :
    Node.KeysDistinct after := by
  induction own generalizing entries with
  | nil =>
      cases h
      exact hentries
  | cons entry rest ih =>
      obtain ⟨hentry, hrest⟩ := List.forall_mem_cons.mp hown
      obtain ⟨next, hnext, hafter⟩ := Option.bind_eq_some_iff.mp (List.foldlM_cons.symm.trans h)
      exact ih hrest hafter (keysDistinct_of_insertDotted hentry hnext hentries)

/-- Each header opens a table whose entries follow it, so that the lines are consumed header
by header. -/
theorem keysDistinct_of_addTables (count : Nat) (hlines : ∀ line ∈ lines, line.Distinct)
    (h : addTables count lines entries = some after) (hentries : Node.KeysDistinct entries) :
    Node.KeysDistinct after := by
  induction count generalizing lines entries with
  | zero =>
      cases h
      exact hentries
  | succ count ih =>
      cases lines with
      | nil =>
          cases h
          exact hentries
      | cons first rest =>
          obtain ⟨hown, hlater⟩ := distinct_leadingEntries (List.forall_mem_cons.mp hlines).2
          rw [addTables] at h
          cases first with
          | table key =>
              obtain ⟨next, hnext, hafter⟩ := Option.bind_eq_some_iff.mp h
              refine ih hlater hafter (keysDistinct_of_alterAt ?_ hnext hentries)
              exact keepsDistinct_openTable (keysDistinct_of_fill hown)
          | arrayTable key =>
              obtain ⟨next, hnext, hafter⟩ := Option.bind_eq_some_iff.mp h
              refine ih hlater hafter (keysDistinct_of_alterAt ?_ hnext hentries)
              exact keepsDistinct_openArrayTable (keysDistinct_of_fill hown)
          | blank => cases h
          | entry key value => cases h

end Documents

/-- No table of a document has a key twice. -/
theorem keysDistinct_of_parse? {text : String} {document : List (String × Value)}
    (h : parse? text = some document) : Value.KeysDistinct document := by
  unfold parse? at h
  obtain ⟨⟨lines, _⟩, hlines, h⟩ := Option.bind_eq_some_iff.mp h
  obtain ⟨hown, hlater⟩ := distinct_leadingEntries (gives_documentLines _ _ _ _ hlines)
  obtain ⟨entries, hentries, h⟩ := Option.bind_eq_some_iff.mp h
  obtain ⟨after, hafter, h⟩ := Option.bind_eq_some_iff.mp h
  cases h
  refine keysDistinct_finishEntries (keysDistinct_of_addTables _ hlater hafter ?_)
  exact keysDistinct_of_fill hown hentries trivial

end GeoFilter.Toml
