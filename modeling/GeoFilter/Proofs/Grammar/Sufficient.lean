import GeoFilter.Proofs.Grammar.Reading

/-!
Readings with enough levels. Where it is not known what a reading demands, but only a number of
levels that it does with, it succeeds wherever so many levels are left.
-/

namespace GeoFilter.Grammar

variable {d : Dialect} {α β : Type}

/-- A production that succeeds has got through its first step. -/
theorem exists_of_bind {p : Parse α} {q : α → Parse β} {cursor : Cursor} {result : β × Cursor}
    (h : (p >>= q) cursor = .ok result) :
    ∃ value middle, p cursor = .ok (value, middle) ∧ q value middle = .ok result := by
  change (p cursor >>= fun found => q found.1 found.2) = .ok result at h
  cases hp : p cursor with
  | error failure =>
      rw [hp] at h
      cases h
  | ok found =>
      rw [hp] at h
      exact ⟨found.1, found.2, rfl, h⟩

theorem bind_eq {p : Parse α} {q : α → Parse β} {cursor middle : Cursor} {value : α}
    (h : p cursor = .ok (value, middle)) : (p >>= q) cursor = q value middle := by
  change (p cursor >>= fun found => q found.1 found.2) = _
  rw [h]
  rfl

theorem bind_eq_error {p : Parse α} {cursor : Cursor} {failure : Failure}
    (h : p cursor = .error failure) (q : α → Parse β) : (p >>= q) cursor = .error failure := by
  change (p cursor >>= fun found => q found.1 found.2) = _
  rw [h]
  rfl

/-- What is let in one level further in comes back with the counter where it was. -/
theorem nested_eq {p : Parse α} {depth : Depth} {place : Mark} {input rest : List TokenKind}
    {gauge later : Gauge} {value : α} (hroom : gauge.level < d.maxDepth)
    (h : p ⟨input, gauge.rise⟩ = .ok (value, ⟨rest, later⟩)) :
    nested d depth place p ⟨input, gauge⟩ = .ok (value, ⟨rest, later.fall⟩) :=
  (bind_eq (enter_of_lt hroom)).trans (bind_eq h)

theorem nested_eq_error {p : Parse α} {depth : Depth} {place : Mark} {input : List TokenKind}
    {gauge : Gauge} {failure : Failure} (hroom : gauge.level < d.maxDepth)
    (h : p ⟨input, gauge.rise⟩ = .error failure) :
    nested d depth place p ⟨input, gauge⟩ = .error failure :=
  (bind_eq (enter_of_lt hroom)).trans (bind_eq_error h _)

theorem exists_of_nested {p : Parse α} {depth : Depth} {place : Mark} {input : List TokenKind}
    {gauge : Gauge} {value : α} {last : Cursor}
    (h : nested d depth place p ⟨input, gauge⟩ = .ok (value, last)) :
    gauge.level < d.maxDepth ∧ ∃ later, p ⟨input, gauge.rise⟩ = .ok (value, ⟨last.rest, later⟩) ∧
      last.gauge = later.fall := by
  obtain ⟨_, middle, henter, hrest⟩ := exists_of_bind h
  unfold enter at henter
  split at henter
  · rename_i hroom
    cases henter
    obtain ⟨found, later, hfound, hleave⟩ := exists_of_bind hrest
    cases hleave
    exact ⟨hroom, later.gauge, hfound, rfl⟩
  · cases henter

/-- A production reads the value from the input and leaves the rest wherever that many levels
are left. -/
def ReadsWithin (d : Dialect) (p : Level → Parse α) (input : List TokenKind) (value : α)
    (rest : List TokenKind) (depth : Nat) : Prop :=
  ∀ (height : Nat) (gauge : Gauge), d.maxDepth - gauge.level ≤ height →
    depth ≤ d.maxDepth - gauge.level → ∃ later : Gauge,
      p (level d height) ⟨input, gauge⟩ = .ok (value, ⟨rest, later⟩) ∧ later.level = gauge.level

section Combinators

variable {input middle rest : List TokenKind} {a : α} {b : β} {demand : Demand} {depth more : Nat}
  {p : Level → Parse α} {q : α → Level → Parse β}

/-- A reading that comes to its end does with what it demands. -/
theorem Reads.within (h : Reads d p input a rest demand) (hcomplete : demand.complete = true) :
    ReadsWithin d p input a rest demand.depth := by
  intro height gauge hheight hdepth
  have hsettles := h height gauge hheight
  cases hresult : p (level d height) ⟨input, gauge⟩ with
  | error failure =>
      rw [hresult] at hsettles
      rcases hsettles with ⟨hshort, -⟩ | ⟨-, hstops, -⟩
      · omega
      · rw [hcomplete] at hstops
        cases hstops
  | ok found =>
      obtain ⟨found, tokens, later⟩ := found
      rw [hresult] at hsettles
      obtain ⟨-, -, rfl, rfl, hlevel⟩ := hsettles
      exact ⟨later, rfl, hlevel⟩

theorem Reads.freely (h : Reads d p input a rest .free) : ReadsWithin d p input a rest depth :=
  fun height gauge hheight _ => h.within rfl height gauge hheight (Nat.zero_le _)

theorem ReadsWithin.mono (h : ReadsWithin d p input a rest depth) (hle : depth ≤ more) :
    ReadsWithin d p input a rest more :=
  fun height gauge hheight hmore => h height gauge hheight (hle.trans hmore)

theorem ReadsWithin.bind (hp : ReadsWithin d p input a middle depth)
    (hq : ReadsWithin d (q a) middle b rest depth) :
    ReadsWithin d (fun inner => p inner >>= fun found => q found inner) input b rest depth := by
  intro height gauge hheight hdepth
  obtain ⟨later, hresult, hlevel⟩ := hp height gauge hheight hdepth
  obtain ⟨last, hlast, hback⟩ :=
    hq height later (by rw [hlevel]; exact hheight) (by rw [hlevel]; exact hdepth)
  exact ⟨last, (bind_eq hresult).trans hlast, hback.trans hlevel⟩

/-- A first step that asks for nothing. -/
theorem ReadsWithin.step (hp : Reads d p input a middle .free)
    (hq : ReadsWithin d (q a) middle b rest depth) :
    ReadsWithin d (fun inner => p inner >>= fun found => q found inner) input b rest depth :=
  hp.freely.bind hq

/-- A production that counts as one level further in. -/
theorem ReadsWithin.deeper {kind : Depth} {place : Mark}
    (h : ReadsWithin d p input a rest depth) :
    ReadsWithin d (fun inner => Grammar.nested d kind place (p inner)) input a rest
      (depth + 1) := by
  intro height gauge hheight hdepth
  have hrise : gauge.rise.level = gauge.level + 1 := rfl
  obtain ⟨later, hresult, hlevel⟩ := h height gauge.rise (by omega) (by omega)
  refine ⟨later.fall, nested_eq (by omega) hresult, ?_⟩
  change later.level - 1 = gauge.level
  omega

/-- A production of the next level of the tower, entered one level further in. -/
theorem ReadsWithin.nested {kind : Depth} {place : Mark}
    (h : ReadsWithin d (fun inner => p (levelAbove d inner)) input a rest depth) :
    ReadsWithin d (fun inner => Grammar.nested d kind place (p inner)) input a rest
      (depth + 1) := by
  intro height gauge hheight hdepth
  have hrise : gauge.rise.level = gauge.level + 1 := rfl
  cases height with
  | zero => omega
  | succ height =>
      obtain ⟨later, hresult, hlevel⟩ := h height gauge.rise (by omega) (by omega)
      refine ⟨later.fall, nested_eq (by omega) hresult, ?_⟩
      change later.level - 1 = gauge.level
      omega

end Combinators

end GeoFilter.Grammar
