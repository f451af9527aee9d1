import Mathlib
import GeoFilter.NameTable

/-!
The order of a table. Names ascend strictly however the table was filled, so that no name
stands twice and each value is what its own name finds.
-/

namespace GeoFilter.NameTable

variable {α : Type}

theorem find?_insert (table : NameTable α) (name : String) (value : α) (other : String) :
    (table.insert name value).find? other =
      if other = name then some value else table.find? other := by
  split
  · rename_i hsame
    subst hsame
    exact find?_insert_self table other value
  · rename_i hdiffers
    exact find?_insert_of_ne table value hdiffers

/-- No name stands before a smaller one or before itself. -/
def Ascending (table : NameTable α) : Prop :=
  table.names.Pairwise (· < ·)

theorem ascending_empty : (empty : NameTable α).Ascending :=
  List.Pairwise.nil

theorem mem_names_insertEntry {name other : String} {value : α} {entries : List (String × α)}
    (h : other ∈ (insertEntry name value entries).map Prod.fst) :
    other = name ∨ other ∈ entries.map Prod.fst := by
  induction entries with
  | nil => exact .inl (List.mem_singleton.mp h)
  | cons entry rest ih =>
      rw [insertEntry] at h
      split at h
      · exact List.mem_cons.mp h
      · split at h
        · exact (List.mem_cons.mp h).imp_right (List.mem_cons_of_mem _)
        · rcases List.mem_cons.mp h with rfl | hrest
          · exact .inr List.mem_cons_self
          · exact (ih hrest).imp_right (List.mem_cons_of_mem _)

theorem pairwise_insertEntry (name : String) (value : α) {entries : List (String × α)}
    (h : (entries.map Prod.fst).Pairwise (· < ·)) :
    ((insertEntry name value entries).map Prod.fst).Pairwise (· < ·) := by
  induction entries with
  | nil => exact List.pairwise_singleton _ _
  | cons entry rest ih =>
      obtain ⟨first, held⟩ := entry
      obtain ⟨hfirst, hrest⟩ := List.pairwise_cons.mp h
      rw [insertEntry]
      split
      · rename_i hless
        refine List.pairwise_cons.mpr ⟨fun other hother => ?_, h⟩
        rcases List.mem_cons.mp hother with rfl | hlater
        · exact hless
        · exact hless.trans (hfirst other hlater)
      · rename_i hnotless
        split
        · rename_i hsame
          subst hsame
          exact h
        · rename_i hdiffers
          refine List.pairwise_cons.mpr ⟨fun other hother => ?_, ih hrest⟩
          rcases mem_names_insertEntry hother with rfl | hlater
          · exact lt_of_le_of_ne (not_lt.mp hnotless) (Ne.symm hdiffers)
          · exact hfirst other hlater

/-- Wherever an entry belongs, putting it there keeps the order. -/
theorem Ascending.insert {table : NameTable α} (h : table.Ascending) (name : String) (value : α) :
    (table.insert name value).Ascending :=
  pairwise_insertEntry name value h

theorem ascending_ofList (entries : List (String × α)) : (ofList entries).Ascending := by
  have hfold : ∀ table : NameTable α, table.Ascending →
      (entries.foldl (fun table entry => table.insert entry.1 entry.2) table).Ascending := by
    induction entries with
    | nil => exact fun table h => h
    | cons entry rest ih => exact fun table h => ih _ (h.insert entry.1 entry.2)
  exact hfold empty ascending_empty

theorem find?_cons_self (name : String) (value : α) (rest : List (String × α)) :
    (⟨(name, value) :: rest⟩ : NameTable α).find? name = some value :=
  List.lookup_cons_self

theorem find?_cons_of_ne {name other : String} (h : other ≠ name) (value : α)
    (rest : List (String × α)) :
    (⟨(name, value) :: rest⟩ : NameTable α).find? other = (⟨rest⟩ : NameTable α).find? other := by
  have hdiffers : (other == name) = false := by simpa using h
  rw [find?, List.lookup_cons, hdiffers]
  rfl

/-- The names of a table are those that find something. -/
theorem mem_names_iff (table : NameTable α) (name : String) :
    name ∈ table.names ↔ (table.find? name).isSome = true := by
  obtain ⟨entries⟩ := table
  induction entries with
  | nil => simp [names, find?]
  | cons entry rest ih =>
      obtain ⟨first, held⟩ := entry
      by_cases hsame : name = first
      · subst hsame
        simp [names, find?_cons_self]
      · rw [find?_cons_of_ne hsame, ← ih]
        simp [names, hsame]

/-- In an ascending table the names find the values in turn. -/
theorem Ascending.find?_names {table : NameTable α} (h : table.Ascending) :
    table.names.map table.find? = table.values.map some := by
  obtain ⟨entries⟩ := table
  induction entries with
  | nil => rfl
  | cons entry rest ih =>
      obtain ⟨first, held⟩ := entry
      obtain ⟨hfirst, hrest⟩ := List.pairwise_cons.mp h
      have hlater : ∀ name ∈ rest.map Prod.fst,
          (⟨(first, held) :: rest⟩ : NameTable α).find? name = (⟨rest⟩ : NameTable α).find? name :=
        fun name hname => find?_cons_of_ne (hfirst name hname).ne' held rest
      change find? _ first :: (rest.map Prod.fst).map _ = some held :: _
      rw [find?_cons_self, List.map_congr_left hlater]
      exact congrArg _ (ih hrest)

/-- In an ascending table an entry is what its name finds. -/
theorem Ascending.mem_iff {table : NameTable α} (h : table.Ascending) {name : String} {value : α} :
    (name, value) ∈ table.entries ↔ table.find? name = some value := by
  obtain ⟨entries⟩ := table
  induction entries with
  | nil => simp [find?]
  | cons entry rest ih =>
      obtain ⟨first, held⟩ := entry
      obtain ⟨hfirst, hrest⟩ := List.pairwise_cons.mp h
      by_cases hsame : name = first
      · subst hsame
        have hlater : (name, value) ∉ rest :=
          fun hmem => lt_irrefl _ (hfirst name (List.mem_map_of_mem hmem))
        rw [find?_cons_self, List.mem_cons, or_iff_left hlater]
        simp only [Prod.mk.injEq, true_and, Option.some.injEq, eq_comm]
      · rw [find?_cons_of_ne hsame, ← ih hrest, List.mem_cons, or_iff_right]
        exact fun heq => hsame (Prod.mk.inj heq).1

theorem ofList_append_singleton (entries : List (String × α)) (entry : String × α) :
    ofList (entries ++ [entry]) = (ofList entries).insert entry.1 entry.2 :=
  List.foldl_append

/-- The table of entries with different names has just these entries. -/
theorem mem_ofList_iff {entries : List (String × α)} (h : (entries.map Prod.fst).Nodup)
    {name : String} {value : α} :
    (name, value) ∈ (ofList entries).entries ↔ (name, value) ∈ entries := by
  induction entries using List.reverseRecOn with
  | nil => rfl
  | append_singleton front last ih =>
      obtain ⟨other, held⟩ := last
      rw [List.map_append, List.nodup_append] at h
      obtain ⟨hfront, -, hlast⟩ := h
      rw [(ascending_ofList _).mem_iff, ofList_append_singleton, find?_insert, List.mem_append]
      split
      · rename_i hsame
        subst hsame
        have hother : (name, value) ∉ front :=
          fun hmem => hlast name (List.mem_map_of_mem hmem) name List.mem_cons_self rfl
        rw [or_iff_right hother]
        simp only [Option.some.injEq, List.mem_singleton, Prod.mk.injEq, true_and, eq_comm]
      · rename_i hdiffers
        rw [← (ascending_ofList _).mem_iff, ih hfront, or_iff_left]
        exact fun hmem => hdiffers (Prod.mk.inj (List.mem_singleton.mp hmem)).1

/-- When the names of ascending entries are replaced, the last of the names with one
replacement gives it its value. -/
theorem find?_ofList_renamed (f : String → String) {entries : List (String × α)}
    (h : (entries.map Prod.fst).Pairwise (· < ·)) {name : String} {value : α}
    (hmem : (name, value) ∈ entries) :
    ∃ winner ruling, (winner, ruling) ∈ entries ∧
      IsGreatest {other | other ∈ entries.map Prod.fst ∧ f other = f name} winner ∧
      (ofList (entries.map fun entry => (f entry.1, entry.2))).find? (f name) = some ruling := by
  induction entries using List.reverseRecOn with
  | nil => cases hmem
  | append_singleton front last ih =>
      obtain ⟨other, held⟩ := last
      rw [List.map_append, List.pairwise_append] at h
      obtain ⟨hfront, -, hlast⟩ := h
      simp only [List.map_append, List.map_cons, List.map_nil, ofList_append_singleton,
        find?_insert]
      by_cases hsame : f name = f other
      · refine ⟨other, held, by simp, ⟨by simp [hsame], ?_⟩, if_pos hsame⟩
        rintro next ⟨hnext, -⟩
        rcases List.mem_append.mp hnext with hnext | hnext
        · exact (hlast next hnext other List.mem_cons_self).le
        · exact (List.mem_singleton.mp hnext).le
      · have hmem : (name, value) ∈ front := by
          refine (List.mem_append.mp hmem).resolve_right fun hmem => hsame ?_
          rw [(Prod.mk.inj (List.mem_singleton.mp hmem)).1]
        obtain ⟨winner, ruling, hwinner, hgreatest, hfind⟩ := ih hfront hmem
        refine ⟨winner, ruling, List.mem_append_left _ hwinner, ⟨?_, ?_⟩, ?_⟩
        · exact ⟨List.mem_append_left _ hgreatest.1.1, hgreatest.1.2⟩
        · rintro next ⟨hnext, heq⟩
          rcases List.mem_append.mp hnext with hnext | hnext
          · exact hgreatest.2 ⟨hnext, heq⟩
          · rw [List.mem_singleton.mp hnext] at heq
            exact absurd heq.symm hsame
        · rw [if_neg hsame]
          exact hfind

end GeoFilter.NameTable
