import GeoFilter.Geometry.Measure
import GeoFilter.Grammar.Check
import GeoFilter.Proofs.Number.Order
import GeoFilter.Proofs.Ordinates

/-!
The bounds of a geometry are the least envelope around its coordinates and envelopes, at
whatever depth of its collections they stand. Each of the four bounds is attained, so that
how the members are arranged makes no difference.
-/

namespace GeoFilter

open Check Number

/-- A number of a list that is less than or equal to all of them. -/
def IsMinimum (x : Float) (xs : List Float) : Prop :=
  x ∈ xs ∧ ∀ y ∈ xs, x ≤ y

/-- A number of a list that is greater than or equal to all of them. -/
def IsMaximum (x : Float) (xs : List Float) : Prop :=
  x ∈ xs ∧ ∀ y ∈ xs, y ≤ x

section Extremes

variable {a b : Float} {xs ys zs : List Float}

theorem isMinimum_singleton (ha : a.isNaN = false) : IsMinimum a [a] := by
  refine ⟨List.mem_singleton_self a, fun y hy => ?_⟩
  rw [List.mem_singleton.mp hy]
  exact float_le_refl ha

theorem isMaximum_singleton (ha : a.isNaN = false) : IsMaximum a [a] := by
  refine ⟨List.mem_singleton_self a, fun y hy => ?_⟩
  rw [List.mem_singleton.mp hy]
  exact float_le_refl ha

/-- Between numbers that compare with themselves the lesser one is chosen. -/
theorem lesser_cases (ha : a ≤ a) (hb : b ≤ b) :
    lesser a b = a ∧ a ≤ b ∨ lesser a b = b ∧ b ≤ a := by
  have ha' := (le_iff_rank.mp ha).1
  have hb' := (le_iff_rank.mp hb).1
  unfold lesser
  rw [ha', if_neg Bool.false_ne_true]
  split
  · rename_i hlt
    exact .inr ⟨rfl, float_le_of_lt hlt⟩
  · rename_i hlt
    exact .inl ⟨rfl, float_le_of_not_lt ha' hb' hlt⟩

theorem greater_cases (ha : a ≤ a) (hb : b ≤ b) :
    greater a b = a ∧ b ≤ a ∨ greater a b = b ∧ a ≤ b := by
  have ha' := (le_iff_rank.mp ha).1
  have hb' := (le_iff_rank.mp hb).1
  unfold greater
  rw [ha', if_neg Bool.false_ne_true]
  split
  · rename_i hlt
    exact .inr ⟨rfl, float_le_of_lt hlt⟩
  · rename_i hlt
    exact .inl ⟨rfl, float_le_of_not_lt hb' ha' hlt⟩

theorem IsMinimum.lesser (ha : IsMinimum a xs) (hb : IsMinimum b ys)
    (hzs : ∀ z, z ∈ zs ↔ z ∈ xs ∨ z ∈ ys) : IsMinimum (lesser a b) zs := by
  obtain ⟨hmema, hlea⟩ := ha
  obtain ⟨hmemb, hleb⟩ := hb
  rcases lesser_cases (hlea a hmema) (hleb b hmemb) with ⟨heq, hle⟩ | ⟨heq, hle⟩
  · rw [heq]
    refine ⟨(hzs a).mpr (.inl hmema), fun z hz => ?_⟩
    rcases (hzs z).mp hz with hx | hy
    · exact hlea z hx
    · exact float_le_trans hle (hleb z hy)
  · rw [heq]
    refine ⟨(hzs b).mpr (.inr hmemb), fun z hz => ?_⟩
    rcases (hzs z).mp hz with hx | hy
    · exact float_le_trans hle (hlea z hx)
    · exact hleb z hy

theorem IsMaximum.greater (ha : IsMaximum a xs) (hb : IsMaximum b ys)
    (hzs : ∀ z, z ∈ zs ↔ z ∈ xs ∨ z ∈ ys) : IsMaximum (greater a b) zs := by
  obtain ⟨hmema, hlea⟩ := ha
  obtain ⟨hmemb, hleb⟩ := hb
  rcases greater_cases (hlea a hmema) (hleb b hmemb) with ⟨heq, hle⟩ | ⟨heq, hle⟩
  · rw [heq]
    refine ⟨(hzs a).mpr (.inl hmema), fun z hz => ?_⟩
    rcases (hzs z).mp hz with hx | hy
    · exact hlea z hx
    · exact float_le_trans (hleb z hy) hle
  · rw [heq]
    refine ⟨(hzs b).mpr (.inr hmemb), fun z hz => ?_⟩
    rcases (hzs z).mp hz with hx | hy
    · exact float_le_trans (hlea z hx) hle
    · exact hleb z hy

/-- The minima of two lists with the same numbers are equal. -/
theorem IsMinimum.beq (ha : IsMinimum a xs) (hb : IsMinimum b ys) (h : ∀ z, z ∈ xs ↔ z ∈ ys) :
    (a == b) = true :=
  float_beq_of_le_of_le (ha.2 b ((h b).mpr hb.1)) (hb.2 a ((h a).mp ha.1))

theorem IsMaximum.beq (ha : IsMaximum a xs) (hb : IsMaximum b ys) (h : ∀ z, z ∈ xs ↔ z ∈ ys) :
    (a == b) = true :=
  float_beq_of_le_of_le (hb.2 a ((h a).mp ha.1)) (ha.2 b ((h b).mpr hb.1))

end Extremes

namespace Geometry

mutual

/-- The coordinates in a geometry, at any depth. -/
def coordinates : Geometry → List Coordinate
  | .point position => position.toList
  | .lineString path => path
  | .polygon rings => rings.flatten
  | .multiPoint points => points
  | .multiLineString paths => paths.flatten
  | .multiPolygon polygons => polygons.flatten.flatten
  | .collection members => coordinatesAll members
  | .envelope _ => []

def coordinatesAll : List Geometry → List Coordinate
  | [] => []
  | member :: rest => coordinates member ++ coordinatesAll rest

end

mutual

/-- The envelopes in a geometry, at any depth. -/
def envelopes : Geometry → List Envelope
  | .envelope bounds => [bounds]
  | .collection members => envelopesAll members
  | _ => []

def envelopesAll : List Geometry → List Envelope
  | [] => []
  | member :: rest => envelopes member ++ envelopesAll rest

end

/-- Whether two geometries are made of the same coordinates and envelopes, in whatever order
and however they are nested. -/
structure SameParts (g g' : Geometry) : Prop where
  coordinates : ∀ c, c ∈ g.coordinates ↔ c ∈ g'.coordinates
  envelopes : ∀ e, e ∈ g.envelopes ↔ e ∈ g'.envelopes

end Geometry

/-- The least envelope around coordinates and envelopes. -/
structure Envelope.IsLeast (e : Envelope) (coordinates : List Coordinate)
    (envelopes : List Envelope) : Prop where
  minX : IsMinimum e.minX (coordinates.map Coordinate.x ++ envelopes.map Envelope.minX)
  minY : IsMinimum e.minY (coordinates.map Coordinate.y ++ envelopes.map Envelope.minY)
  maxX : IsMaximum e.maxX (coordinates.map Coordinate.x ++ envelopes.map Envelope.maxX)
  maxY : IsMaximum e.maxY (coordinates.map Coordinate.y ++ envelopes.map Envelope.maxY)

/-- The bounds of coordinates and envelopes, which are missing if there are neither. -/
structure IsBounds (found : Option Envelope) (coordinates : List Coordinate)
    (envelopes : List Envelope) : Prop where
  none_iff : found = none ↔ coordinates = [] ∧ envelopes = []
  least : ∀ e, found = some e → e.IsLeast coordinates envelopes

section Joining

variable {a b : Envelope} {cs cs' : List Coordinate} {es es' : List Envelope}

theorem mem_ordinates (f : Coordinate → Float) (g : Envelope → Float) (z : Float) :
    z ∈ (cs ++ cs').map f ++ (es ++ es').map g ↔
      z ∈ cs.map f ++ es.map g ∨ z ∈ cs'.map f ++ es'.map g := by
  simp only [List.map_append, List.mem_append]
  tauto

theorem Envelope.IsLeast.join (ha : a.IsLeast cs es) (hb : b.IsLeast cs' es') :
    (a.join b).IsLeast (cs ++ cs') (es ++ es') where
  minX := ha.minX.lesser hb.minX (mem_ordinates _ _)
  minY := ha.minY.lesser hb.minY (mem_ordinates _ _)
  maxX := ha.maxX.greater hb.maxX (mem_ordinates _ _)
  maxY := ha.maxY.greater hb.maxY (mem_ordinates _ _)

theorem isLeast_ofCoordinate {c : Coordinate} (h : c.Every (·.isNaN = false)) :
    (Envelope.ofCoordinate c).IsLeast [c] [] where
  minX := isMinimum_singleton h.x
  minY := isMinimum_singleton h.y
  maxX := isMaximum_singleton h.x
  maxY := isMaximum_singleton h.y

theorem isLeast_self {e : Envelope} (h : e.Every (·.isNaN = false)) : e.IsLeast [] [e] where
  minX := isMinimum_singleton h.minX
  minY := isMinimum_singleton h.minY
  maxX := isMaximum_singleton h.maxX
  maxY := isMaximum_singleton h.maxY

theorem isBounds_none : IsBounds none [] [] :=
  ⟨by simp, by simp⟩

theorem Envelope.IsLeast.isBounds (h : a.IsLeast cs es) : IsBounds (some a) cs es where
  none_iff := by
    refine ⟨nofun, ?_⟩
    rintro ⟨rfl, rfl⟩
    cases h.minX.1
  least := by
    rintro e ⟨⟩
    exact h

theorem IsBounds.extend {seen found : Option Envelope} (hseen : IsBounds seen cs es)
    (hfound : IsBounds found cs' es') :
    IsBounds (Envelope.extend seen found) (cs ++ cs') (es ++ es') := by
  cases seen with
  | none =>
      obtain ⟨rfl, rfl⟩ := hseen.none_iff.mp rfl
      cases found <;> exact hfound
  | some a =>
      cases found with
      | none =>
          obtain ⟨rfl, rfl⟩ := hfound.none_iff.mp rfl
          rw [List.append_nil, List.append_nil]
          exact hseen
      | some b => exact ((hseen.least a rfl).join (hfound.least b rfl)).isBounds

theorem isBounds_around (h : ∀ c ∈ cs, c.Every (·.isNaN = false)) :
    IsBounds (Envelope.around cs) cs [] := by
  have hfold : ∀ {seen : Option Envelope} {before : List Coordinate}, IsBounds seen before [] →
      IsBounds (cs.foldl (fun seen c => Envelope.extend seen (some (.ofCoordinate c))) seen)
        (before ++ cs) [] := by
    induction cs with
    | nil =>
        intro seen before hseen
        rwa [List.append_nil]
    | cons c rest ih =>
        intro seen before hseen
        have hc := (isLeast_ofCoordinate (h c List.mem_cons_self)).isBounds
        have hrest := ih (fun c' hc' => h c' (List.mem_cons_of_mem _ hc')) (hseen.extend hc)
        rwa [List.append_assoc] at hrest
  exact hfold isBounds_none

end Joining

mutual

/-- The bounds of a geometry without undefined numbers, by the structure of the geometry. -/
theorem isBounds_bounds : ∀ {g : Geometry}, g.Every (·.isNaN = false) →
    IsBounds g.bounds g.coordinates g.envelopes
  | .point _, h => isBounds_around fun c hc => h c (Option.mem_toList.mp hc)
  | .lineString _, h => isBounds_around h
  | .polygon _, h => isBounds_around fun c hc =>
      have ⟨ring, hring, hc⟩ := List.mem_flatten.mp hc
      h ring hring c hc
  | .multiPoint _, h => isBounds_around h
  | .multiLineString _, h => isBounds_around fun c hc =>
      have ⟨path, hpath, hc⟩ := List.mem_flatten.mp hc
      h path hpath c hc
  | .multiPolygon _, h => isBounds_around fun c hc =>
      have ⟨ring, hring, hc⟩ := List.mem_flatten.mp hc
      have ⟨rings, hrings, hring⟩ := List.mem_flatten.mp hring
      h rings hrings ring hring c hc
  | .collection members, h => @isBounds_boundsFrom members none [] [] h isBounds_none
  | .envelope _, h => (isLeast_self h).isBounds

theorem isBounds_boundsFrom : ∀ {members : List Geometry} {seen : Option Envelope}
    {cs : List Coordinate} {es : List Envelope}, Geometry.EveryAll (·.isNaN = false) members →
      IsBounds seen cs es → IsBounds (Geometry.boundsFrom seen members)
        (cs ++ Geometry.coordinatesAll members) (es ++ Geometry.envelopesAll members)
  | [], seen, cs, es, _, hseen => by
      simpa [Geometry.boundsFrom, Geometry.coordinatesAll, Geometry.envelopesAll] using hseen
  | member :: rest, seen, cs, es, ⟨hmember, hrest⟩, hseen => by
      have hbehind := isBounds_boundsFrom hrest (hseen.extend (isBounds_bounds hmember))
      rw [List.append_assoc, List.append_assoc] at hbehind
      exact hbehind

end

mutual

/-- In a geometry without faults no envelope is inverted, at whatever depth it stands. -/
theorem not_inverted_of_mem : ∀ {g : Geometry}, geometryFault? g = none →
    ∀ e ∈ g.envelopes, e.inverted = false
  | .envelope bounds, h, e, he => by
      rw [List.mem_singleton.mp he]
      by_contra hinverted
      simp [geometryFault?, hinverted] at h
  | .collection members, h, e, he => @not_inverted_of_mem_all members h e he
  | .point _, _, _, he => nomatch he
  | .lineString _, _, _, he => nomatch he
  | .polygon _, _, _, he => nomatch he
  | .multiPoint _, _, _, he => nomatch he
  | .multiLineString _, _, _, he => nomatch he
  | .multiPolygon _, _, _, he => nomatch he

theorem not_inverted_of_mem_all : ∀ {members : List Geometry}, membersFault? members = none →
    ∀ e ∈ Geometry.envelopesAll members, e.inverted = false
  | member :: rest, h, e, he => by
      obtain ⟨hmember, hrest⟩ := Option.or_eq_none_iff.mp h
      rcases List.mem_append.mp he with he | he
      · exact not_inverted_of_mem hmember e he
      · exact not_inverted_of_mem_all hrest e he

end

section Sides

variable {cs : List Coordinate} {es : List Envelope} {e : Envelope}

/-- The least bound is an ordinate of some part, and the greatest bound of that part lies
above it. -/
theorem IsMinimum.le_of_isMaximum {a b : Float} {ordinate : Coordinate → Float}
    {low high : Envelope → Float} (ha : IsMinimum a (cs.map ordinate ++ es.map low))
    (hb : IsMaximum b (cs.map ordinate ++ es.map high)) (h : ∀ e ∈ es, ¬high e < low e) :
    a ≤ b := by
  rcases List.mem_append.mp ha.1 with hmem | hmem
  · exact hb.2 a (List.mem_append_left _ hmem)
  · obtain ⟨e, he, rfl⟩ := List.mem_map.mp hmem
    have hlow := ha.2 (low e) (List.mem_append_right _ hmem)
    have hhigh := hb.2 (high e) (List.mem_append_right _ (List.mem_map_of_mem he))
    have hside : low e ≤ high e :=
      float_le_of_not_lt (le_iff_rank.mp hlow).1 (le_iff_rank.mp hhigh).1 (h e he)
    exact float_le_trans hside hhigh

theorem inverted_eq_false_iff : e.inverted = false ↔ ¬e.maxX < e.minX ∧ ¬e.maxY < e.minY := by
  simp [Envelope.inverted]

/-- The least envelope around envelopes that are not inverted is not inverted. -/
theorem Envelope.IsLeast.not_inverted (h : e.IsLeast cs es)
    (hes : ∀ part ∈ es, part.inverted = false) : e.inverted = false := by
  have hsides := fun part hpart => inverted_eq_false_iff.mp (hes part hpart)
  have hx := h.minX.le_of_isMaximum h.maxX fun part hpart => (hsides part hpart).1
  have hy := h.minY.le_of_isMaximum h.maxY fun part hpart => (hsides part hpart).2
  exact inverted_eq_false_iff.mpr ⟨float_not_lt_of_le hx, float_not_lt_of_le hy⟩

end Sides

section Arrangement

variable {cs cs' : List Coordinate} {es es' : List Envelope}

theorem mem_ordinates_iff (hcs : ∀ c, c ∈ cs ↔ c ∈ cs') (hes : ∀ e, e ∈ es ↔ e ∈ es')
    (f : Coordinate → Float) (g : Envelope → Float) (z : Float) :
    z ∈ cs.map f ++ es.map g ↔ z ∈ cs'.map f ++ es'.map g := by
  simp only [List.mem_append, List.mem_map, hcs, hes]

/-- The least envelopes around the same parts are equal. -/
theorem Envelope.IsLeast.beq {a b : Envelope} (ha : a.IsLeast cs es) (hb : b.IsLeast cs' es')
    (hcs : ∀ c, c ∈ cs ↔ c ∈ cs') (hes : ∀ e, e ∈ es ↔ e ∈ es') : (a == b) = true := by
  have hmem := mem_ordinates_iff hcs hes
  have hminX := ha.minX.beq hb.minX (hmem _ _)
  have hminY := ha.minY.beq hb.minY (hmem _ _)
  have hmaxX := ha.maxX.beq hb.maxX (hmem _ _)
  have hmaxY := ha.maxY.beq hb.maxY (hmem _ _)
  change instBEqEnvelope.beq a b = true
  simp only [instBEqEnvelope.beq, hminX, hminY, hmaxX, hmaxY, Bool.and_self]

theorem IsBounds.beq {found found' : Option Envelope} (h : IsBounds found cs es)
    (h' : IsBounds found' cs' es') (hcs : ∀ c, c ∈ cs ↔ c ∈ cs') (hes : ∀ e, e ∈ es ↔ e ∈ es') :
    (found == found') = true := by
  have hnil : cs = [] ∧ es = [] ↔ cs' = [] ∧ es' = [] := by
    simp only [List.eq_nil_iff_forall_not_mem, hcs, hes]
  cases found with
  | none => rw [h'.none_iff.mpr (hnil.mp (h.none_iff.mp rfl))]; rfl
  | some a =>
      cases found' with
      | none => cases h.none_iff.mpr (hnil.mpr (h'.none_iff.mp rfl))
      | some b => exact (h.least a rfl).beq (h'.least b rfl) hcs hes

end Arrangement

/-- The bounds of a geometry without undefined numbers are missing if it has no coordinate and
no envelope, and are otherwise the least envelope around those. They are the same for every
geometry of the same parts, and they are not inverted if the geometry has no fault. -/
theorem bounds_isLeast (g : Geometry) (hdefined : g.Every (·.isNaN = false)) :
    (g.bounds = none ↔ g.coordinates = [] ∧ g.envelopes = []) ∧
    (∀ e, g.bounds = some e → e.IsLeast g.coordinates g.envelopes) ∧
    (∀ g' : Geometry, g'.Every (·.isNaN = false) → g.SameParts g' →
      (g.bounds == g'.bounds) = true) ∧
    (geometryFault? g = none → ∀ e, g.bounds = some e → e.inverted = false) := by
  have hbounds := isBounds_bounds hdefined
  refine ⟨hbounds.none_iff, hbounds.least, fun g' hdefined' hparts => ?_, fun hfault e he => ?_⟩
  · exact hbounds.beq (isBounds_bounds hdefined') hparts.coordinates hparts.envelopes
  · exact (hbounds.least e he).not_inverted (not_inverted_of_mem hfault)

/-- A point and an envelope among members that hold nothing. -/
def scatteredParts : Geometry :=
  .collection [.point none, .point (some ⟨-5.0, 1.0, none⟩),
    .collection [.polygon [], .envelope ⟨0.0, 0.0, 2.0, 8.0⟩]]

/-- The same point and envelope side by side. -/
def gatheredParts : Geometry :=
  .collection [.envelope ⟨0.0, 0.0, 2.0, 8.0⟩, .point (some ⟨-5.0, 1.0, none⟩)]

theorem every_parts (P : Float → Prop)
    (h : P (-5.0) ∧ P 1.0 ∧ P 0.0 ∧ P 2.0 ∧ P 8.0) :
    scatteredParts.Every P ∧ gatheredParts.Every P := by
  obtain ⟨hleft, hpoint, hlow, hright, hhigh⟩ := h
  have hc : Coordinate.Every P ⟨-5.0, 1.0, none⟩ := ⟨hleft, hpoint, nofun⟩
  have he : Envelope.Every P ⟨0.0, 0.0, 2.0, 8.0⟩ := ⟨hlow, hlow, hright, hhigh⟩
  simp [scatteredParts, gatheredParts, Geometry.Every, Geometry.EveryAll, hc, he]

theorem bounds_isLeast_scatteredParts :
    scatteredParts.Every (·.isNaN = false) ∧ gatheredParts.Every (·.isNaN = false) ∧
    scatteredParts.SameParts gatheredParts ∧ geometryFault? scatteredParts = none ∧
    (scatteredParts.bounds == gatheredParts.bounds) = true ∧
    ∃ e, scatteredParts.bounds = some e ∧ e.inverted = false ∧
      e.IsLeast [⟨-5.0, 1.0, none⟩] [⟨0.0, 0.0, 2.0, 8.0⟩] := by
  obtain ⟨hscattered, hgathered⟩ := every_parts (·.isNaN = false) (by decide +kernel)
  have hparts : scatteredParts.SameParts gatheredParts := ⟨fun _ => Iff.rfl, fun _ => Iff.rfl⟩
  have hfault : geometryFault? scatteredParts = none := by decide +kernel
  have ⟨_, hleast, hsame, hupright⟩ := bounds_isLeast scatteredParts hscattered
  obtain ⟨e, he⟩ := Option.isSome_iff_exists.mp
    (by decide +kernel : scatteredParts.bounds.isSome = true)
  exact ⟨hscattered, hgathered, hparts, hfault, hsame gatheredParts hgathered hparts,
    e, he, hupright hfault e he, hleast e he⟩

end GeoFilter
