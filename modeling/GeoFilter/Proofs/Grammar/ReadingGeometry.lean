import GeoFilter.Proofs.Grammar.Check
import GeoFilter.Proofs.Grammar.Reading

/-!
Reading the tokens of geometries. Finite coordinates are read back as they are; an infinite
one is written as a word, which no production of coordinates expects. Only the members of a
collection stand further in.
-/

namespace GeoFilter

open Grammar

def Coordinate.isFinite (c : Coordinate) : Bool :=
  c.x.isFinite && c.y.isFinite && c.z.all Float.isFinite

/-- A number is read where it stands, but an infinite one stops the reading. -/
def numberDemand (x : Float) : Demand := ⟨0, x.isFinite⟩

def Coordinate.demand (c : Coordinate) : Demand := ⟨0, c.isFinite⟩

def pathDemand (coordinates : List Coordinate) : Demand :=
  .all (coordinates.map Coordinate.demand)

def ringsDemand (rings : List Ring) : Demand :=
  .all (rings.map pathDemand)

namespace Geometry

mutual

/-- What the reading of a geometry demands. -/
def demand : Geometry → Demand
  | .point none => .free
  | .point (some c) => c.demand
  | .lineString path => pathDemand path
  | .polygon rings => ringsDemand rings
  | .multiPoint points => pathDemand points
  | .multiLineString paths => ringsDemand paths
  | .multiPolygon polygons => .all (polygons.map ringsDemand)
  | .collection [] => .free
  | .collection (first :: others) => ((demand first).andThen (.all (demandAll others))).within
  | .envelope bounds =>
      .all [numberDemand bounds.minX, numberDemand bounds.maxX, numberDemand bounds.maxY,
        numberDemand bounds.minY]

def demandAll : List Geometry → List Demand
  | [] => []
  | first :: others => demand first :: demandAll others

end

end Geometry

namespace Grammar

open Number

variable {d : Dialect}

/-- A number without a sign is an ordinate by itself. -/
theorem reads_ordinate {digits : String} {x : Float} (h : Check.ordinate false digits = .ok x)
    (rest : List TokenKind) :
    Reads d (fun _ => signedNumber) (.number digits :: rest) x rest .free := by
  apply Reads.step (reads_acceptNot (by simp))
  apply Reads.step reads_mark
  apply Reads.step reads_next
  exact reads_check h _

/-- A finite number in a coordinate. -/
theorem reads_finite {x : Float} (hfinite : x.isFinite = true) (rest : List TokenKind) :
    Reads d (fun _ => signedNumber) (numberKinds .coordinate x ++ rest) x rest .free := by
  obtain ⟨digits, hkinds, hread, -⟩ := @numberKinds_of_isFinite .coordinate rfl x hfinite
  have hordinate : Check.ordinate (isNegative x) digits = .ok x := by
    unfold Check.ordinate
    rw [hread]
    simp only [ite_neg_abs hfinite]
  rw [hkinds]
  cases hsign : isNegative x with
  | true =>
      rw [hsign] at hordinate
      apply Reads.step reads_accept
      apply Reads.step reads_mark
      apply Reads.step reads_next
      exact reads_check hordinate _
  | false =>
      rw [hsign] at hordinate
      exact reads_ordinate hordinate rest

/-- What is written for any other number is refused. -/
theorem reads_infinite {x : Float} (hfinite : x.isFinite = false) (rest : List TokenKind) :
    Reads d (fun _ => signedNumber) (numberKinds .coordinate x ++ rest) x rest ⟨0, false⟩ := by
  obtain ⟨word, hkinds | hkinds⟩ := @numberKinds_of_not_isFinite .coordinate x hfinite
  · rw [hkinds]
    apply Reads.step (reads_acceptNot (by simp))
    apply Reads.step reads_mark
    apply Reads.step reads_next
    exact reads_unexpected
  · rw [hkinds]
    apply Reads.step reads_accept
    apply Reads.step reads_mark
    apply Reads.step reads_next
    exact reads_unexpected

theorem reads_signedNumber (x : Float) (rest : List TokenKind) :
    Reads d (fun _ => signedNumber) (numberKinds .coordinate x ++ rest) x rest (numberDemand x) := by
  unfold numberDemand
  cases hfinite : x.isFinite with
  | true => exact reads_finite hfinite rest
  | false => exact reads_infinite hfinite rest

section Coordinates

variable {x y z : Float} {tail : List TokenKind}

theorem reads_plane (hx : x.isFinite = true) (hy : y.isFinite = true) (htail : EndsItem tail) :
    Reads d (fun _ => coordinate)
      (numberKinds .coordinate x ++ (numberKinds .coordinate y ++ tail)) ⟨x, y, none⟩ tail
      .free := by
  apply Reads.step (reads_finite hx _)
  apply Reads.step (reads_finite hy tail)
  apply Reads.step reads_peek
  cases tail with
  | nil => rcases htail with h | h <;> cases h
  | cons kind tail => rcases htail with h | h <;> cases h <;> exact reads_pure

theorem reads_height (hx : x.isFinite = true) (hy : y.isFinite = true) (hz : z.isFinite = true) :
    Reads d (fun _ => coordinate)
      (numberKinds .coordinate x ++ (numberKinds .coordinate y ++
        (numberKinds .coordinate z ++ tail))) ⟨x, y, some z⟩ tail .free := by
  have hheight : Reads d _ _ _ _ _ := reads_finite hz tail
  obtain ⟨digits, hkinds, -⟩ := @numberKinds_of_isFinite .coordinate rfl z hz
  apply Reads.step (reads_finite hx _)
  apply Reads.step (reads_finite hy _)
  cases hsign : isNegative z with
  | true =>
      rw [hsign] at hkinds
      rw [hkinds] at hheight ⊢
      apply Reads.step reads_peek
      apply Reads.step hheight
      exact reads_pure
  | false =>
      rw [hsign] at hkinds
      rw [hkinds] at hheight ⊢
      apply Reads.step reads_peek
      apply Reads.step hheight
      exact reads_pure

/-- A third ordinate that is a word is taken for something else. -/
theorem reads_infiniteHeight (hx : x.isFinite = true) (hy : y.isFinite = true)
    (hz : z.isFinite = false) :
    ReadsOrStrays d (fun _ => coordinate)
      (numberKinds .coordinate x ++ (numberKinds .coordinate y ++
        (numberKinds .coordinate z ++ tail))) ⟨x, y, some z⟩ tail ⟨0, false⟩ := by
  have hheight : Reads d _ _ _ _ _ := reads_infinite hz tail
  obtain ⟨word, hkinds | hkinds⟩ := @numberKinds_of_not_isFinite .coordinate z hz
  · refine .inr ⟨rfl, ⟨x, y, none⟩, word, tail, ?_⟩
    rw [hkinds]
    apply Reads.step (reads_finite hx _)
    apply Reads.step (reads_finite hy _)
    apply Reads.step reads_peek
    exact reads_pure
  · refine .inl ?_
    rw [hkinds] at hheight ⊢
    apply Reads.step (reads_finite hx _)
    apply Reads.step (reads_finite hy _)
    apply Reads.step reads_peek
    exact hheight.bind_stops rfl

/-- A coordinate in front of a comma or a parenthesis. -/
theorem reads_coordinate (c : Coordinate) (htail : EndsItem tail) :
    ReadsOrStrays d (fun _ => coordinate) (c.kinds ++ tail) c tail c.demand := by
  obtain ⟨x, y, z⟩ := c
  unfold Coordinate.kinds Coordinate.demand Coordinate.isFinite
  simp only [List.append_assoc]
  cases hx : x.isFinite with
  | false => exact .inl ((reads_infinite hx _).bind_stops rfl)
  | true =>
      cases hy : y.isFinite with
      | false => exact .inl ((reads_finite hx _).step ((reads_infinite hy _).bind_stops rfl))
      | true =>
          cases z with
          | none => exact .inl (reads_plane hx hy htail)
          | some z =>
              cases hz : z.isFinite with
              | true =>
                  rw [Option.all_some, hz]
                  exact .inl (reads_height hx hy hz)
              | false =>
                  rw [Option.all_some, hz]
                  exact reads_infiniteHeight hx hy hz

end Coordinates

theorem append_enclosed (content rest : List TokenKind) :
    enclosed content ++ rest =
      .punctuation .openParen :: (content ++ .punctuation .closeParen :: rest) := by
  simp [enclosed]

/-- Coordinates between parentheses. -/
theorem reads_path {coordinates : List Coordinate} (hnonempty : coordinates ≠ [])
    (rest : List TokenKind) :
    Reads d (fun _ => path) (pathKinds coordinates ++ rest) coordinates rest
      (pathDemand coordinates) := by
  unfold pathKinds
  rw [append_enclosed]
  apply Reads.step reads_expect
  exact reads_list hnonempty (fun c _ _ htail => reads_coordinate c htail) _ rest

theorem reads_rings {rings : List Ring} (hnonempty : rings ≠ [])
    (hrings : ∀ ring ∈ rings, ring ≠ []) (rest : List TokenKind) :
    Reads d (fun _ => Grammar.rings) (ringsKinds rings ++ rest) rings rest (ringsDemand rings) := by
  unfold ringsKinds
  rw [append_enclosed]
  apply Reads.step reads_expect
  exact reads_list hnonempty (fun ring hring tail _ => .inl (reads_path (hrings ring hring) tail))
    _ rest

theorem headD_number (layout : Layout) (x : Float) (tail : List TokenKind) :
    (numberKinds layout x ++ tail).headD .endOfInput ≠ .punctuation .openParen := by
  unfold numberKinds magnitudeKind
  cases x.isNaN with
  | true => simp
  | false => cases isNegative x <;> cases x.isInf <;> simp

/-- The points of a multipoint are written without parentheses of their own. -/
theorem reads_multiPointMember (c : Coordinate) {tail : List TokenKind} (htail : EndsItem tail) :
    ReadsOrStrays d (fun _ => multiPointMember) (c.kinds ++ tail) c tail c.demand := by
  have hhead : (c.kinds ++ tail).headD .endOfInput ≠ .punctuation .openParen := by
    unfold Coordinate.kinds
    rw [List.append_assoc, List.append_assoc]
    exact headD_number _ _ _
  refine ReadsOrStrays.after_step reads_mark ?_
  refine ReadsOrStrays.after_step (reads_acceptNot hhead) ?_
  exact reads_coordinate c htail

theorem reads_envelopeBounds (bounds : Envelope) (opening : Mark) (rest : List TokenKind) :
    Reads d (fun _ => envelopeBounds opening)
      (separated [numberKinds .coordinate bounds.minX, numberKinds .coordinate bounds.maxX,
        numberKinds .coordinate bounds.maxY, numberKinds .coordinate bounds.minY] ++
          .punctuation .closeParen :: rest) bounds rest
      (.all [numberDemand bounds.minX, numberDemand bounds.maxX, numberDemand bounds.maxY,
        numberDemand bounds.minY]) := by
  simp only [separated, List.flatMap_cons, List.flatMap_nil, List.append_nil, List.append_assoc,
    List.cons_append]
  refine (reads_signedNumber bounds.minX _).bind ?_
  refine reads_expect.step ?_
  refine (reads_signedNumber bounds.maxX _).bind ?_
  refine reads_expect.step ?_
  refine (reads_signedNumber bounds.maxY _).bind ?_
  refine reads_expect.step ?_
  refine (reads_signedNumber bounds.minY _).bind ?_
  refine (reads_close opening).step ?_
  exact reads_pure

/-- A geometry with something between its parentheses. -/
theorem reads_geometry_of_body {type : GeometryType} {content rest : List TokenKind}
    {value : Geometry} {demand : Demand} (here : Mark)
    (hfault : Check.geometryFault? value = none)
    (hbody : ∀ opening, Reads d (fun inner => geometryBody d inner here opening type)
      (content ++ .punctuation .closeParen :: rest) value rest demand) :
    Reads d (fun inner => geometry d inner here type) (enclosed content ++ rest) value rest
      demand := by
  rw [append_enclosed]
  refine (reads_acceptNot (by simp)).step ?_
  refine reads_expect.step ?_
  refine (hbody _).andThen_step ?_
  refine (reads_checkNone hfault here).step ?_
  exact reads_pure

theorem reads_geometry_empty {type : GeometryType} {value : Geometry}
    (h : Geometry.empty? type = some value) (here : Mark) (rest : List TokenKind) :
    Reads d (fun inner => geometry d inner here type) (.keyword .empty :: rest) value rest
      .free := by
  refine reads_accept.step ?_
  simp only [if_true, h]
  exact reads_pure

theorem kindsAll_eq_map (members : List Geometry) :
    Geometry.kindsAll members = members.map Geometry.kinds := by
  induction members with
  | nil => rfl
  | cons first others ih => rw [Geometry.kindsAll, ih, List.map_cons]

theorem demandAll_eq_map (members : List Geometry) :
    Geometry.demandAll members = members.map Geometry.demand := by
  induction members with
  | nil => rfl
  | cons first others ih => rw [Geometry.demandAll, ih, List.map_cons]

theorem kinds_eq_cons (g : Geometry) :
    g.kinds = .keyword (.geometry g.type) :: g.kinds.tail := by
  cases g with
  | point position => cases position <;> rfl
  | _ => rfl

theorem reads_point (c : Coordinate) (here opening : Mark) (rest : List TokenKind) :
    Reads d (fun inner => geometryBody d inner here opening .point)
      (c.kinds ++ .punctuation .closeParen :: rest) (.point (some c)) rest c.demand := by
  have hcoordinate := @reads_coordinate d (.punctuation .closeParen :: rest) c (.inr rfl)
  rw [← Demand.andThen_free c.demand]
  refine ReadsOrStrays.bind hcoordinate ?_ ?_
  · refine (reads_close opening).step ?_
    exact reads_pure
  · intro found word more value rest
    exact (refuses_close opening word more () []).bind_stops rfl

theorem reads_lineString {path : List Coordinate} (hnonempty : path ≠ []) (here opening : Mark)
    (rest : List TokenKind) :
    Reads d (fun inner => geometryBody d inner here opening .lineString)
      (separated (path.map Coordinate.kinds) ++ .punctuation .closeParen :: rest)
      (.lineString path) rest (pathDemand path) := by
  refine (reads_list hnonempty (fun c _ _ htail => reads_coordinate c htail) opening
    rest).andThen_step ?_
  exact reads_pure

theorem reads_multiPoint {points : List Coordinate} (hnonempty : points ≠ []) (here opening : Mark)
    (rest : List TokenKind) :
    Reads d (fun inner => geometryBody d inner here opening .multiPoint)
      (separated (points.map Coordinate.kinds) ++ .punctuation .closeParen :: rest)
      (.multiPoint points) rest (pathDemand points) := by
  refine (reads_list hnonempty (fun c _ _ htail => reads_multiPointMember c htail) opening
    rest).andThen_step ?_
  exact reads_pure

theorem reads_paths {paths : List (List Coordinate)} (hnonempty : paths ≠ [])
    (hpaths : ∀ path ∈ paths, path ≠ []) (opening : Mark) (rest : List TokenKind) :
    Reads d (fun _ => list opening path)
      (separated (paths.map pathKinds) ++ .punctuation .closeParen :: rest) paths rest
      (ringsDemand paths) :=
  reads_list hnonempty (fun path hpath tail _ => .inl (reads_path (hpaths path hpath) tail))
    opening rest

/-- A member of a collection begins with the keyword of its type. -/
theorem reads_member {g : Geometry}
    (h : ∀ (here : Mark) (rest : List TokenKind),
      Reads d (fun inner => geometry d inner here g.type) (g.kinds.tail ++ rest) g rest g.demand)
    (rest : List TokenKind) :
    Reads d (fun inner => member d inner) (g.kinds ++ rest) g rest g.demand := by
  rw [kinds_eq_cons, List.cons_append]
  apply Reads.step reads_mark
  apply Reads.step reads_next
  exact h _ rest

theorem ne_nil_of_isRing {ring : Ring} (h : IsRing ring) : ring ≠ [] := by
  rintro rfl
  exact absurd h.1 (by simp)

mutual

/-- A sound geometry is read back behind the keyword of its type. -/
theorem reads_geometry : ∀ {g : Geometry}, g.Sound → ∀ (here : Mark) (rest : List TokenKind),
    Reads d (fun inner => geometry d inner here g.type) (g.kinds.tail ++ rest) g rest g.demand
  | .point none, _, here, rest => reads_geometry_empty rfl here rest
  | .point (some c), _, here, rest =>
      reads_geometry_of_body here rfl fun opening => reads_point c here opening rest
  | .lineString [], _, here, rest => reads_geometry_empty rfl here rest
  | .lineString (first :: others), h, here, rest => by
      have hsolid := h.resolve_left (by simp)
      exact reads_geometry_of_body here (Check.geometryFault?_of_solid hsolid) fun opening =>
        reads_lineString (by simp) here opening rest
  | .polygon [], _, here, rest => reads_geometry_empty rfl here rest
  | .polygon (first :: others), h, here, rest => by
      have hsolid := h.resolve_left (by simp)
      have hpaths : ∀ ring ∈ first :: others, ring ≠ [] :=
        fun ring hring => ne_nil_of_isRing (hsolid ring hring)
      refine reads_geometry_of_body here (Check.geometryFault?_of_solid hsolid) fun opening => ?_
      refine (reads_paths (by simp) hpaths opening rest).andThen_step ?_
      exact reads_pure
  | .multiPoint [], _, here, rest => reads_geometry_empty rfl here rest
  | .multiPoint (first :: others), _, here, rest =>
      reads_geometry_of_body here rfl fun opening =>
        reads_multiPoint (by simp) here opening rest
  | .multiLineString [], _, here, rest => reads_geometry_empty rfl here rest
  | .multiLineString (first :: others), h, here, rest => by
      have hsolid := h.resolve_left (by simp)
      have hpaths : ∀ path ∈ first :: others, path ≠ [] := by
        rintro path hpath rfl
        exact absurd (hsolid [] hpath) (by simp)
      refine reads_geometry_of_body here (Check.geometryFault?_of_solid hsolid) fun opening => ?_
      refine (reads_paths (by simp) hpaths opening rest).andThen_step ?_
      exact reads_pure
  | .multiPolygon [], _, here, rest => reads_geometry_empty rfl here rest
  | .multiPolygon (first :: others), h, here, rest => by
      have hsolid := h.resolve_left (by simp)
      have hpolygons : ∀ polygon ∈ first :: others, ∀ tail, EndsItem tail →
          ReadsOrStrays d (fun _ => Grammar.rings) (ringsKinds polygon ++ tail) polygon tail
            (ringsDemand polygon) := by
        intro polygon hpolygon tail _
        refine .inl (reads_rings (hsolid polygon hpolygon).1 ?_ tail)
        exact fun ring hring => ne_nil_of_isRing ((hsolid polygon hpolygon).2 ring hring)
      refine reads_geometry_of_body here (Check.geometryFault?_of_solid hsolid) fun opening => ?_
      refine (reads_list (by simp) hpolygons opening rest).andThen_step ?_
      exact reads_pure
  | .collection [], _, here, rest => reads_geometry_empty rfl here rest
  | .collection (first :: others), h, here, rest => by
      have hsolid : Geometry.SolidAll (first :: others) := h.resolve_left (by simp)
      have hmembers : ∀ g ∈ first :: others, ∀ tail, EndsItem tail →
          ReadsOrStrays d (fun inner => member d inner) (g.kinds ++ tail) g tail g.demand := by
        intro g hg tail _
        rcases List.mem_cons.mp hg with heq | hmem
        · rw [heq]
          exact .inl (reads_member (fun here rest => reads_geometry (.inr hsolid.1) here rest) tail)
        · exact .inl (reads_members hsolid.2 g hmem tail)
      refine reads_geometry_of_body here (Check.membersFault?_of_solid hsolid) fun opening => ?_
      have hlist := reads_list (by simp) hmembers opening rest
      rw [← kindsAll_eq_map, ← demandAll_eq_map] at hlist
      refine (@Reads.nested d _ _ _ _ _ (fun inner => list opening (inner .member)) _ _ hlist).andThen_step ?_
      exact reads_pure
  | .envelope bounds, h, here, rest => by
      have hsolid := h.resolve_left (by simp)
      refine reads_geometry_of_body here (Check.geometryFault?_of_solid hsolid) fun opening => ?_
      refine (reads_envelopeBounds bounds opening rest).andThen_step ?_
      exact reads_pure

theorem reads_members : ∀ {members : List Geometry}, Geometry.SolidAll members →
    ∀ g ∈ members, ∀ rest,
      Reads d (fun inner => member d inner) (g.kinds ++ rest) g rest g.demand
  | [], _, g, hg, _ => nomatch hg
  | first :: others, ⟨hfirst, hothers⟩, g, hg, rest => by
      rcases List.mem_cons.mp hg with heq | hmem
      · rw [heq]
        exact reads_member (fun here rest => reads_geometry (.inr hfirst) here rest) rest
      · exact reads_members hothers g hmem rest

end

end Grammar

end GeoFilter
