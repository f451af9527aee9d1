import GeoFilter.Proofs.Number.Integer
import GeoFilter.Proofs.Resolved
import GeoFilter.Proofs.Text.Pieces
import GeoFilter.Proofs.Token.Spelling

/-!
The tokens of canonical text. They are given by recursion on the tree, with the parentheses
that the text has, and the text is read as exactly these tokens if its properties and calls
are named and its spatial predicates enabled.
-/

namespace GeoFilter

open Number Text

/-- Items with commas between them. -/
def separated : List (List TokenKind) → List TokenKind
  | [] => []
  | first :: others => first ++ others.flatMap (.punctuation .comma :: ·)

/-- Tokens between parentheses. -/
def enclosed (kinds : List TokenKind) : List TokenKind :=
  .punctuation .openParen :: (kinds ++ [.punctuation .closeParen])

def enclosedIf (condition : Bool) (kinds : List TokenKind) : List TokenKind :=
  if condition then enclosed kinds else kinds

/-- The digits of a number without its sign. An infinite number is a word. -/
def magnitudeKind (layout : Layout) (x : Float) : TokenKind :=
  if x.isInf then .identifier "inf"
  else .number (String.ofList (layout.decimal (shortest layout.tie x)))

def numberKinds (layout : Layout) (x : Float) : List TokenKind :=
  if x.isNaN then [.identifier "NaN"]
  else (if isNegative x then [.operator .minus] else []) ++ [magnitudeKind layout x]

def integerKinds (value : Int64) : List TokenKind :=
  (if value.toInt < 0 then [.operator .minus] else []) ++
    [.number (String.ofList (Numeral.ofNat value.toInt.natAbs).text)]

def Coordinate.kinds (c : Coordinate) : List TokenKind :=
  numberKinds .coordinate c.x ++ numberKinds .coordinate c.y ++
    (c.z.map (numberKinds .coordinate)).getD []

/-- Coordinates between parentheses. -/
def pathKinds (coordinates : List Coordinate) : List TokenKind :=
  enclosed (separated (coordinates.map Coordinate.kinds))

def ringsKinds (rings : List Ring) : List TokenKind :=
  enclosed (separated (rings.map pathKinds))

/-- The keyword of a geometry type, and what stands behind it. -/
def taggedKinds (type : GeometryType) (empty : Bool) (content : List TokenKind) :
    List TokenKind :=
  .keyword (.geometry type) :: (if empty then [.keyword .empty] else enclosed content)

namespace Geometry

mutual

def kinds : Geometry → List TokenKind
  | .point none => taggedKinds .point true []
  | .point (some c) => taggedKinds .point false c.kinds
  | .lineString path =>
      taggedKinds .lineString path.isEmpty (separated (path.map Coordinate.kinds))
  | .polygon rings => taggedKinds .polygon rings.isEmpty (separated (rings.map pathKinds))
  | .multiPoint points =>
      taggedKinds .multiPoint points.isEmpty (separated (points.map Coordinate.kinds))
  | .multiLineString paths =>
      taggedKinds .multiLineString paths.isEmpty (separated (paths.map pathKinds))
  | .multiPolygon polygons =>
      taggedKinds .multiPolygon polygons.isEmpty (separated (polygons.map ringsKinds))
  | .collection members =>
      taggedKinds .collection members.isEmpty (separated (kindsAll members))
  | .envelope bounds =>
      taggedKinds .envelope false (separated
        [numberKinds .coordinate bounds.minX, numberKinds .coordinate bounds.maxX,
          numberKinds .coordinate bounds.maxY, numberKinds .coordinate bounds.minY])

def kindsAll : List Geometry → List (List TokenKind)
  | [] => []
  | first :: others => kinds first :: kindsAll others

end

end Geometry

def Literal.kinds : Literal → List TokenKind
  | .integer value => integerKinds value
  | .float value => numberKinds .literal value
  | .string value => [.string value]
  | .boolean true => [.keyword .truth]
  | .boolean false => [.keyword .falsity]
  | .null => [.keyword .null]
  | .geometry value => value.kinds

/-- Words with a dot in front of each. -/
def dottedKinds : List (List Char) → List TokenKind
  | [] => []
  | first :: others =>
      .punctuation .dot :: .identifier (String.ofList first) :: dottedKinds others

/-- A path of words with dots between them. -/
def segmentsKinds : List (List Char) → List TokenKind
  | [] => []
  | first :: others => .identifier (String.ofList first) :: dottedKinds others

def propertyKinds (d : Dialect) (name : String) : List TokenKind :=
  if Writing.isPlainPath d name then segmentsKinds (pieces '.' name.toList)
  else [.quotedIdentifier name]

namespace Expression

mutual

def kinds (d : Dialect) : Expression → List TokenKind
  | .literal value => value.kinds
  | .property name => propertyKinds d name
  | .arithmetic op left right =>
      enclosedIf (needsParentheses op false left) (kinds d left) ++
        .operator op.operator :: enclosedIf (needsParentheses op true right) (kinds d right)
  | .call name arguments => .identifier name :: enclosed (separated (kindsAll d arguments))

def kindsAll (d : Dialect) : List Expression → List (List TokenKind)
  | [] => []
  | first :: others => kinds d first :: kindsAll d others

end

end Expression

/-- The arguments of the call that a spatial predicate is written as. A unit that is no plain
word is a string. -/
def SpatialPredicate.arguments (d : Dialect) : SpatialPredicate → List Expression
  | .binary _ left right => [left, right]
  | .distance _ left right limit unit =>
      [left, right, .literal (.float limit),
        if isPlainWord d unit then .property unit else .literal (.string unit)]
  | .box operand e crs =>
      [operand, .literal (.float e.minX), .literal (.float e.minY), .literal (.float e.maxX),
        .literal (.float e.maxY)] ++ (crs.map fun name => .literal (.string name)).toList
  | .pattern left right marks => [left, right, .literal (.string marks)]

/-- The numbers among the arguments. -/
def SpatialPredicate.numbers : SpatialPredicate → List Float
  | .binary _ _ _ => []
  | .distance _ _ _ limit _ => [limit]
  | .box _ e _ => [e.minX, e.minY, e.maxX, e.maxY]
  | .pattern _ _ _ => []

def SpatialPredicate.kinds (d : Dialect) (predicate : SpatialPredicate) : List TokenKind :=
  .keyword (.spatial predicate.op) ::
    enclosed (separated (Expression.kindsAll d (predicate.arguments d)))

def Like.kinds (d : Dialect) (test : Like) : List TokenKind :=
  test.operand.kinds d ++
    [.keyword (if test.matchCase then .like else .ilike),
      .string (String.ofList (test.characters.respell d.like test.pattern.toList))]

namespace Filter

mutual

def kinds (d : Dialect) : Filter → List TokenKind
  | .everything => [.keyword .everything]
  | .nothing => [.keyword .nothing]
  | .comparison op left right =>
      left.kinds d ++ .operator (.comparison op) :: right.kinds d
  | .like test => test.kinds d
  | .between operand lower upper =>
      operand.kinds d ++ .keyword .between :: (lower.kinds d ++ .keyword .and :: upper.kinds d)
  | .isNull operand => operand.kinds d ++ [.keyword .is, .keyword .null]
  | .oneOf operand values =>
      operand.kinds d ++ .keyword .oneOf :: enclosed (separated (Expression.kindsAll d values))
  | .ids identifiers =>
      .keyword .oneOf :: enclosed (separated (identifiers.map fun name => [.string name]))
  | .spatial predicate => predicate.kinds d
  | .logical op first second others =>
      enclosedIf first.isLogical (kinds d first) ++ .keyword op.keyword ::
        (enclosedIf second.isLogical (kinds d second) ++ kindsOperands d op others)
  | .not operand => .keyword .not :: enclosedIf operand.isLogical (kinds d operand)

def kindsOperands (d : Dialect) (op : LogicalOp) : List Filter → List TokenKind
  | [] => []
  | first :: others =>
      .keyword op.keyword ::
        (enclosedIf first.isLogical (kinds d first) ++ kindsOperands d op others)

end

end Filter

section Pieces

variable {d : Dialect}

/-- A list of texts that are each read as their tokens. -/
abbrev SpellsAll (d : Dialect) (texts : List String) (kinds : List (List TokenKind)) : Prop :=
  List.Forall₂ (fun text kinds => Spells d text.toList kinds) texts kinds

theorem spellsAll_map {α : Type} {text : α → String} {kinds : α → List TokenKind}
    {items : List α} (h : ∀ item ∈ items, Spells d (text item).toList (kinds item)) :
    SpellsAll d (items.map text) (items.map kinds) := by
  induction items with
  | nil => exact .nil
  | cons first others ih =>
      refine .cons (h first List.mem_cons_self) (ih ?_)
      intro item hitem
      exact h item (List.mem_cons_of_mem _ hitem)

theorem spells_nil : Spells d [] [] :=
  fun _ _ _ hafter => hafter

theorem spells_commas {texts : List String} {kinds : List (List TokenKind)}
    (h : SpellsAll d texts kinds) : Spells d (Writing.commas texts).toList (separated kinds) := by
  induction h with
  | nil => exact spells_nil
  | @cons text first texts kinds hfirst hothers ih =>
      unfold Writing.commas at ih ⊢
      cases hothers with
      | nil =>
          rw [String.intercalate_singleton]
          simpa [separated] using hfirst
      | @cons second k later ks hsecond hlater =>
          have hcomma := opens_comma.append (Spells.blank ih)
          rw [String.intercalate_cons_cons, String.toList_append, String.toList_append,
            List.append_assoc]
          exact hfirst.append rfl hcomma

theorem toList_parenthesised (text : String) :
    (Writing.parenthesised text).toList = '(' :: (text.toList ++ [')']) := by
  simp [Writing.parenthesised]

theorem opens_parenthesised {text : String} {kinds : List TokenKind}
    (h : Spells d text.toList kinds) :
    Opens d (Writing.parenthesised text).toList (enclosed kinds) := by
  rw [toList_parenthesised]
  have hclosed : Opens d (text.toList ++ [')']) (kinds ++ [.punctuation .closeParen]) :=
    h.append_opens rfl opens_closeParen
  intro after ks hafter
  exact opens_openParen _ _ (hclosed after ks hafter)

theorem spells_parenthesisedIf {text : String} {kinds : List TokenKind}
    (h : Spells d text.toList kinds) (condition : Bool) :
    Spells d (Writing.parenthesisedIf condition text).toList (enclosedIf condition kinds) := by
  cases condition with
  | true => exact (opens_parenthesised h).spells
  | false => exact h

/-- A name with something between parentheses behind it. -/
theorem spells_applied {name text : String} {named kinds : List TokenKind}
    (hname : Spells d name.toList named) (h : Spells d text.toList kinds) :
    Spells d (name ++ Writing.parenthesised text).toList (named ++ enclosed kinds) := by
  have hopens := (opens_parenthesised h).spells
  rw [String.toList_append]
  rw [toList_parenthesised] at hopens ⊢
  exact hname.append rfl hopens

/-- Two texts with a space between them. -/
theorem Spells.spaced {a b : String} {ka kb : List TokenKind} (ha : Spells d a.toList ka)
    (hb : Spells d b.toList kb) : Spells d (a ++ " " ++ b).toList (ka ++ kb) := by
  rw [String.toList_append, String.toList_append, List.append_assoc]
  exact ha.append rfl hb.blank

theorem spells_classified {word : String} {kind : TokenKind} (hword : isWord word.toList = true)
    (h : classifyWord d word = kind) : Spells d word.toList [kind] := by
  rw [← h]
  exact spells_word hword

/-- The names of the reserved keywords are words that denote them in every dialect. -/
theorem spells_keyword {keyword : Keyword} (h : Keyword.reserved.contains keyword = true) :
    Spells d keyword.name.toList [.keyword keyword] := by
  have hall : ∀ keyword ∈ Keyword.reserved, isWord keyword.name.toList = true ∧
      Keyword.ofWord? keyword.name = some keyword := by
    decide +kernel
  obtain ⟨hword, hname⟩ := hall keyword (List.contains_iff_mem.mp h)
  have hkind : classifyWord d keyword.name = .keyword keyword := by
    unfold classifyWord
    rw [hname]
  exact spells_classified hword hkind

end Pieces

section Numbers

variable {d : Dialect} {layout : Layout}

theorem isFinite_of_not {x : Float} (hnan : x.isNaN = false) (hinf : x.isInf = false) :
    x.isFinite = true := by
  change x.toModel.unpack.isNaN = false at hnan
  change x.toModel.unpack.isInf = false at hinf
  change x.toModel.unpack.isFinite = true
  generalize x.toModel.unpack = u at *
  cases u with
  | notANumber => cases hnan
  | infinity s => cases hinf
  | zero s => rfl
  | finite s m e h => rfl

theorem isFiniteNumber_of_read {text : List Char} {x : Float} (hread : readFloat text = .ok x)
    (h : x.isFinite = true) : isFiniteNumber text = true := by
  unfold isFiniteNumber
  rw [hread]
  exact h

/-- The words for what is not finite are identifiers in every dialect. -/
theorem spells_notFinite {word : String} (h : word ∈ ["inf", "NaN"]) :
    Spells d word.toList [.identifier word] := by
  have hall : ∀ word ∈ ["inf", "NaN"], isWord word.toList = true ∧
      Keyword.ofWord? word = none ∧ SpatialOp.ofName? word = none ∧
        GeometryType.ofName? word = none := by
    decide +kernel
  obtain ⟨hword, hreserved, hop, htype⟩ := hall word h
  have hkind : classifyWord d word = .identifier word := by
    unfold classifyWord
    rw [hreserved, hop, htype]
    rfl
  exact spells_classified hword hkind

/-- The digits of a number, or the word for infinity. -/
def magnitudeText (layout : Layout) (x : Float) : List Char :=
  if x.isInf then ['i', 'n', 'f'] else layout.decimal (shortest layout.tie x)

theorem toList_layoutText {x : Float} (hnan : x.isNaN = false) :
    (layout.text x).toList = (if isNegative x then ['-'] else []) ++ magnitudeText layout x := by
  unfold Layout.text
  rw [hnan]
  simp only [Bool.false_eq_true, if_false, String.toList_ofList]
  cases isNegative x <;> rfl

theorem spells_magnitude (hsigned : layout.signed = false) {x : Float} (hnan : x.isNaN = false) :
    Spells d (magnitudeText layout x) [magnitudeKind layout x] := by
  unfold magnitudeText magnitudeKind
  cases hinf : x.isInf with
  | true => exact @spells_notFinite d "inf" (by simp)
  | false =>
      have hfinite := isFinite_of_not hnan hinf
      obtain ⟨n, hn, htext, hread, -⟩ := exists_numeral_shortest hsigned hfinite
      simp only [Bool.false_eq_true, if_false, htext]
      exact spells_numeral hn fun _ => isFiniteNumber_of_read hread (isFinite_abs hfinite)

theorem spells_number (hsigned : layout.signed = false) (x : Float) :
    Spells d (layout.text x).toList (numberKinds layout x) := by
  unfold numberKinds
  cases hnan : x.isNaN with
  | true =>
      have htext : layout.text x = "NaN" := by
        unfold Layout.text
        rw [hnan]
        rfl
      rw [htext]
      exact spells_notFinite (by simp)
  | false =>
      have hmagnitude : Spells d _ _ := spells_magnitude hsigned hnan
      rw [toList_layoutText hnan]
      simp only [Bool.false_eq_true, if_false]
      cases isNegative x with
      | true => exact opens_minus.append hmagnitude
      | false => exact hmagnitude

theorem spells_integer (value : Int64) : Spells d (toString value.toInt).toList (integerKinds value) := by
  rw [toList_toString_int]
  have hnumeral : Spells d (Numeral.ofNat value.toInt.natAbs).text
      [.number (String.ofList (Numeral.ofNat value.toInt.natAbs).text)] :=
    spells_numeral (Numeral.wellFormed_ofNat _) fun h => by cases h
  unfold integerKinds
  by_cases hneg : value.toInt < 0
  · rw [if_pos hneg, if_pos hneg]
    exact opens_minus.append hnumeral
  · rw [if_neg hneg, if_neg hneg]
    exact hnumeral

/-- A finite number is written as digits that denote its magnitude, with a sign in front. -/
theorem numberKinds_of_isFinite (hsigned : layout.signed = false) {x : Float}
    (h : x.isFinite = true) :
    ∃ digits : String, numberKinds layout x =
        (if isNegative x then [.operator .minus] else []) ++ [.number digits] ∧
      readFloat digits.toList = .ok x.abs ∧
        (layout.pointed = true → Check.isFloatText digits = true) := by
  obtain ⟨hnan, hinf⟩ := not_isNaN_of_isFinite h
  obtain ⟨n, hn, htext, hread, hpoint⟩ := exists_numeral_shortest hsigned h
  refine ⟨String.ofList n.text, ?_, by rwa [String.toList_ofList], ?_⟩
  · simp only [numberKinds, magnitudeKind, hnan, hinf, htext, Bool.false_eq_true, if_false]
  · intro hpointed
    have hfractional := hpoint hpointed
    unfold Check.isFloatText
    rw [String.toList_ofList, List.any_eq_true]
    unfold Numeral.fractional at hfractional
    cases hfraction : n.fraction with
    | nil =>
        rw [hfraction] at hfractional
        obtain ⟨e, he⟩ := Option.isSome_iff_exists.mp hfractional
        exact ⟨'e', by simp [Numeral.text, Numeral.exponentText, he], rfl⟩
    | cons first rest =>
        exact ⟨'.', by simp [Numeral.text, Numeral.fractionText, hfraction], rfl⟩

theorem numberKinds_of_not_isFinite {x : Float} (h : x.isFinite = false) :
    ∃ word, numberKinds layout x = [.identifier word] ∨
      numberKinds layout x = [.operator .minus, .identifier word] := by
  unfold numberKinds magnitudeKind
  cases hnan : x.isNaN with
  | true => exact ⟨"NaN", .inl rfl⟩
  | false =>
      cases hinf : x.isInf with
      | true =>
          cases isNegative x with
          | true => exact ⟨"inf", .inr rfl⟩
          | false => exact ⟨"inf", .inl rfl⟩
      | false =>
          rw [isFinite_of_not hnan hinf] at h
          cases h

end Numbers

section Geometries

variable {d : Dialect}

theorem spells_coordinate (c : Coordinate) :
    Spells d (Writing.coordinateText c).toList c.kinds := by
  have hplane : Spells d
      (Writing.coordinateNumber c.x ++ " " ++ Writing.coordinateNumber c.y).toList
      (numberKinds .coordinate c.x ++ numberKinds .coordinate c.y) :=
    (spells_number rfl c.x).spaced (spells_number rfl c.y)
  unfold Writing.coordinateText Coordinate.kinds
  cases c.z with
  | none => simpa using hplane
  | some z => exact hplane.spaced (spells_number rfl z)

theorem opens_path (coordinates : List Coordinate) :
    Opens d (Writing.pathText coordinates).toList (pathKinds coordinates) :=
  opens_parenthesised (spells_commas (spellsAll_map fun c _ => spells_coordinate c))

theorem opens_rings (rings : List Ring) :
    Opens d (Writing.pathsText rings).toList (ringsKinds rings) :=
  opens_parenthesised (spells_commas (spellsAll_map fun ring _ => (opens_path ring).spells))

theorem spells_geometryType (type : GeometryType) :
    Spells d type.name.toList [.keyword (.geometry type)] := by
  have hall : ∀ type ∈ GeometryType.all, isWord type.name.toList = true ∧
      Keyword.ofWord? type.name = none ∧ SpatialOp.ofName? type.name = none := by
    decide +kernel
  obtain ⟨hword, hreserved, hop⟩ := hall type (GeometryType.mem_all type)
  have hkind : classifyWord d type.name = .keyword (.geometry type) := by
    unfold classifyWord
    rw [hreserved, hop, GeometryType.ofName?_name]
    rfl
  exact spells_classified hword hkind

theorem spells_empty (type : GeometryType) (content : List TokenKind) :
    Spells d (type.name ++ " " ++ "EMPTY").toList (taggedKinds type true content) :=
  (spells_geometryType type).spaced (@spells_keyword d .empty rfl)

theorem spells_tagged (type : GeometryType) {text : String} {content : List TokenKind}
    (h : Spells d text.toList content) :
    Spells d (type.name ++ Writing.parenthesised text).toList (taggedKinds type false content) :=
  spells_applied (spells_geometryType type) h

theorem spells_paths (paths : List (List Coordinate)) :
    Spells d (Writing.commas (paths.map Writing.pathText)).toList
      (separated (paths.map pathKinds)) :=
  spells_commas (spellsAll_map fun path _ => (opens_path path).spells)

mutual

/-- The text of a geometry is read as its tokens. -/
theorem spells_geometry : ∀ g : Geometry, Spells d g.write.toList g.kinds
  | .point none => spells_empty .point []
  | .point (some c) => spells_tagged .point (spells_coordinate c)
  | .lineString [] => spells_empty .lineString _
  | .lineString (_ :: _) =>
      spells_tagged .lineString (spells_commas (spellsAll_map fun c _ => spells_coordinate c))
  | .polygon [] => spells_empty .polygon _
  | .polygon (first :: others) => spells_tagged .polygon (spells_paths (first :: others))
  | .multiPoint [] => spells_empty .multiPoint _
  | .multiPoint (_ :: _) =>
      spells_tagged .multiPoint (spells_commas (spellsAll_map fun c _ => spells_coordinate c))
  | .multiLineString [] => spells_empty .multiLineString _
  | .multiLineString (first :: others) =>
      spells_tagged .multiLineString (spells_paths (first :: others))
  | .multiPolygon [] => spells_empty .multiPolygon _
  | .multiPolygon (_ :: _) =>
      spells_tagged .multiPolygon
        (spells_commas (spellsAll_map fun rings _ => (opens_rings rings).spells))
  | .collection [] => spells_empty .collection _
  | .collection (first :: others) =>
      spells_tagged .collection
        (spells_commas (.cons (spells_geometry first) (spells_geometries others)))
  | .envelope bounds =>
      spells_tagged .envelope (spells_commas
        (.cons (spells_number rfl bounds.minX) (.cons (spells_number rfl bounds.maxX)
          (.cons (spells_number rfl bounds.maxY) (.cons (spells_number rfl bounds.minY) .nil)))))

theorem spells_geometries : ∀ geometries : List Geometry,
    SpellsAll d (Geometry.writeAll geometries) (Geometry.kindsAll geometries)
  | [] => .nil
  | first :: others => .cons (spells_geometry first) (spells_geometries others)

end

end Geometries

section Expressions

variable {d : Dialect}

theorem spells_literal (value : Literal) : Spells d value.write.toList value.kinds := by
  cases value with
  | integer value => exact spells_integer value
  | float value => exact spells_number rfl value
  | string value => exact spells_stringText value
  | boolean value =>
      cases value with
      | true => exact @spells_keyword d .truth rfl
      | false => exact @spells_keyword d .falsity rfl
  | null => exact @spells_keyword d .null rfl
  | geometry value => exact spells_geometry value

theorem lexeme_dot {c : Char} (h : c.isDigit = false) (rest : List Char) :
    lexeme d '.' (c :: rest) = .ok (.punctuation .dot, ['.']) := by
  have hnumber : startsNumber ('.' :: c :: rest) = false := h
  unfold lexeme
  rw [hnumber]
  rfl

theorem exists_cons_of_isWord {word : List Char} (h : isWord word = true) :
    ∃ c rest, word = c :: rest ∧ c.isDigit = false := by
  cases word with
  | nil => cases h
  | cons c rest =>
      refine ⟨c, rest, rfl, ?_⟩
      simp only [isWord, Bool.and_eq_true] at h
      cases hdigit : c.isDigit with
      | false => rfl
      | true =>
          rw [isWordStart_of_isDigit hdigit] at h
          cases h.1

/-- A dot in front of a path is a token of its own. -/
theorem Lexed.dot {first after : List Char} {others : List (List Char)} {kinds : List TokenKind}
    (hfirst : isWord first = true)
    (h : Lexed d (['.'].intercalate (first :: others) ++ after) kinds) :
    Lexed d ('.' :: (['.'].intercalate (first :: others) ++ after))
      (.punctuation .dot :: kinds) := by
  obtain ⟨c, rest, rfl, hdigit⟩ := exists_cons_of_isWord hfirst
  have hhead : ∃ tail, ['.'].intercalate ((c :: rest) :: others) ++ after = c :: tail := by
    cases others with
    | nil => exact ⟨_, by rw [List.intercalate_singleton, List.cons_append]⟩
    | cons second later =>
        exact ⟨_, by rw [List.intercalate_cons_cons, List.cons_append, List.cons_append,
          List.cons_append]⟩
  obtain ⟨tail, htail⟩ := hhead
  rw [htail] at h ⊢
  exact h.cons (by decide) (lexeme_dot hdigit tail) rfl

/-- Words with dots between them. A dot is no boundary, but no word goes on with it. -/
theorem spells_segments {segments : List (List Char)} (hnonempty : segments ≠ [])
    (h : ∀ segment ∈ segments, isPlainWord d (String.ofList segment) = true) :
    Spells d (['.'].intercalate segments) (segmentsKinds segments) := by
  induction segments with
  | nil => exact absurd rfl hnonempty
  | cons first others ih =>
      have hfirst := isWord_of_isPlainWord (h first List.mem_cons_self)
      cases others with
      | nil =>
          have hspells := spells_classified hfirst.1 hfirst.2
          rw [String.toList_ofList] at hspells
          rw [List.intercalate_singleton]
          exact hspells
      | cons second later =>
          have hrest := ih (by simp) fun segment hsegment =>
            h segment (List.mem_cons_of_mem _ hsegment)
          have hsecond := (isWord_of_isPlainWord (h second (by simp))).1
          rw [String.toList_ofList] at hsecond
          intro after ks hbounded hafter
          have hdot := (hrest after ks hbounded hafter).dot hsecond
          have hword := lexed_word hfirst.1 (by simp; decide +kernel) hdot
          rw [String.toList_ofList, hfirst.2] at hword
          rw [List.intercalate_cons_cons, List.append_assoc, List.append_assoc]
          exact hword

theorem spells_property {name : String}
    (h : d.doubleQuotes = .identifier ∨ Writing.isPlainPath d name = true) :
    Spells d (Writing.propertyText d name).toList (propertyKinds d name) := by
  unfold Writing.propertyText propertyKinds
  cases hpath : Writing.isPlainPath d name with
  | true =>
      have hsegments : ∀ segment ∈ pieces '.' name.toList,
          isPlainWord d (String.ofList segment) = true := List.all_eq_true.mp hpath
      have hspells := spells_segments (pieces_ne_nil name.toList) hsegments
      rw [intercalate_pieces] at hspells
      exact hspells
  | false => exact spells_quotedIdentifier (h.resolve_right (by simp [hpath])) name

mutual

/-- The text of an expression whose properties and calls are named is read as its tokens. -/
theorem spells_expression : ∀ {e : Expression}, e.Every (Expression.NodeNamed d) →
    Spells d (e.write d).toList (e.kinds d)
  | .literal value, _ => spells_literal value
  | .property _, h => spells_property h
  | .arithmetic op left right, ⟨_, hleft, hright⟩ => by
      have hfirst := spells_parenthesisedIf (spells_expression hleft)
        (Expression.needsParentheses op false left)
      have hsecond := spells_parenthesisedIf (spells_expression hright)
        (Expression.needsParentheses op true right)
      have hspells := (hfirst.spaced (opens_arithmetic op).spells).spaced hsecond
      rw [List.append_assoc] at hspells
      exact hspells
  | .call name arguments, ⟨hname, harguments⟩ => by
      obtain ⟨hword, hkind⟩ := isWord_of_isPlainWord hname
      exact spells_applied (spells_classified hword hkind)
        (spells_commas (spells_expressions harguments))

theorem spells_expressions : ∀ {expressions : List Expression},
    Expression.EveryAll (Expression.NodeNamed d) expressions →
    SpellsAll d (Expression.writeAll d expressions) (Expression.kindsAll d expressions)
  | [], _ => .nil
  | _ :: _, ⟨hfirst, hothers⟩ => .cons (spells_expression hfirst) (spells_expressions hothers)

end

theorem spells_call {name : String} {kind : TokenKind} {expressions : List Expression}
    (hname : Spells d name.toList [kind])
    (h : ∀ e ∈ expressions, e.Every (Expression.NodeNamed d)) :
    Spells d (name ++ Writing.parenthesised
        (Writing.commas (Expression.writeAll d expressions))).toList
      (kind :: enclosed (separated (Expression.kindsAll d expressions))) :=
  spells_applied hname (spells_commas (spells_expressions ((Expression.everyAll_iff _).mpr h)))

end Expressions

section Filters

variable {d : Dialect}

theorem spells_spatialOp {op : SpatialOp} (h : d.spatialEnabled op = true) :
    Spells d op.name.toList [.keyword (.spatial op)] := by
  have hall : ∀ op ∈ SpatialOp.all, isWord op.name.toList = true ∧
      Keyword.ofWord? op.name = none := by
    decide +kernel
  obtain ⟨hword, hreserved⟩ := hall op (SpatialOp.mem_all op)
  have hkind : classifyWord d op.name = .keyword (.spatial op) := by
    unfold classifyWord
    rw [hreserved, SpatialOp.ofName?_name, Option.filter_some, if_pos h]
  exact spells_classified hword hkind

/-- The text of a spatial predicate is that of a call with its arguments. -/
theorem write_spatialPredicate (predicate : SpatialPredicate) :
    predicate.write d = predicate.op.name ++ Writing.parenthesised
      (Writing.commas (Expression.writeAll d (predicate.arguments d))) := by
  cases predicate with
  | binary op left right => rfl
  | distance op left right limit unit =>
      have hunit : Writing.unitText d unit = Expression.write d
          (if isPlainWord d unit then .property unit else .literal (.string unit)) := by
        unfold Writing.unitText
        cases hplain : isPlainWord d unit with
        | true => simp [Expression.write, Writing.propertyText, isPlainPath_of_isPlainWord hplain]
        | false => rfl
      simp only [SpatialPredicate.write, SpatialPredicate.arguments, Expression.writeAll, ← hunit]
      rfl
  | box operand e crs => cases crs <;> rfl
  | pattern left right marks => rfl

/-- The arguments are the operands, strings and numbers, and possibly a unit. -/
theorem every_arguments {P : Expression → Prop} {predicate : SpatialPredicate}
    (h : ∀ e ∈ predicate.operands, e.Every P) (hstring : ∀ name, P (.literal (.string name)))
    (hfloat : ∀ x ∈ predicate.numbers, P (.literal (.float x)))
    (hunit : ∀ name, isPlainWord d name = true → P (.property name)) :
    ∀ e ∈ predicate.arguments d, e.Every P := by
  intro e he
  cases predicate with
  | binary op left right => exact h e he
  | distance op left right limit unit =>
      simp only [SpatialPredicate.arguments, List.mem_cons, List.not_mem_nil, or_false] at he
      rcases he with rfl | rfl | rfl | rfl
      · exact h _ (by simp [SpatialPredicate.operands])
      · exact h _ (by simp [SpatialPredicate.operands])
      · exact hfloat limit (by simp [SpatialPredicate.numbers])
      · cases hplain : isPlainWord d unit with
        | true => exact hunit unit hplain
        | false => exact hstring unit
  | box operand bounds crs =>
      simp only [SpatialPredicate.arguments, List.mem_append, List.mem_cons, List.not_mem_nil,
        or_false] at he
      rcases he with (rfl | rfl | rfl | rfl | rfl) | hcrs
      · exact h _ (by simp [SpatialPredicate.operands])
      · exact hfloat _ (by simp [SpatialPredicate.numbers])
      · exact hfloat _ (by simp [SpatialPredicate.numbers])
      · exact hfloat _ (by simp [SpatialPredicate.numbers])
      · exact hfloat _ (by simp [SpatialPredicate.numbers])
      · cases crs with
        | none => cases hcrs
        | some name =>
            rw [List.mem_singleton.mp hcrs]
            exact hstring name
  | pattern left right marks =>
      simp only [SpatialPredicate.arguments, List.mem_cons, List.not_mem_nil, or_false] at he
      rcases he with rfl | rfl | rfl
      · exact h _ (by simp [SpatialPredicate.operands])
      · exact h _ (by simp [SpatialPredicate.operands])
      · exact hstring marks

theorem spells_logicalOp (op : LogicalOp) : Spells d op.name.toList [.keyword op.keyword] := by
  cases op with
  | and => exact @spells_keyword d .and rfl
  | or => exact @spells_keyword d .or rfl

/-- Two texts with a word between them. -/
theorem Spells.joined {a b word separator : String} {ka kb : List TokenKind} {kind : TokenKind}
    (ha : Spells d a.toList ka) (hword : Spells d word.toList [kind])
    (hb : Spells d b.toList kb) (hseparator : separator = " " ++ word ++ " ") :
    Spells d (a ++ separator ++ b).toList (ka ++ kind :: kb) := by
  have hspells := (ha.spaced hword).spaced hb
  rw [List.append_assoc] at hspells
  rw [hseparator]
  simpa [String.append_assoc] using hspells

theorem spells_like {test : Like} (h : test.operand.Every (Expression.NodeNamed d)) :
    Spells d (test.write d).toList (test.kinds d) := by
  have hpattern : Spells d
      (Writing.stringText
        (String.ofList (test.characters.respell d.like test.pattern.toList))).toList
      [.string (String.ofList (test.characters.respell d.like test.pattern.toList))] :=
    spells_stringText _
  unfold Like.write Like.kinds
  cases test.matchCase with
  | true =>
      have hword := @spells_keyword d .like rfl
      exact (spells_expression h).joined hword hpattern rfl
  | false =>
      have hword := @spells_keyword d .ilike rfl
      exact (spells_expression h).joined hword hpattern rfl

theorem spells_betweenTest {operand lower upper : Expression}
    (h : ∀ e ∈ [operand, lower, upper], e.Every (Expression.NodeNamed d)) :
    Spells d ((Filter.between operand lower upper).write d).toList
      ((Filter.between operand lower upper).kinds d) := by
  have hbetween := @spells_keyword d .between rfl
  have hand := @spells_keyword d .and rfl
  have hlower := (spells_expression (h operand (by simp))).joined hbetween
    (spells_expression (h lower (by simp))) rfl
  have hspells := hlower.joined hand (spells_expression (h upper (by simp))) rfl
  rw [List.append_assoc] at hspells
  exact hspells

theorem spells_isNull {operand : Expression} (h : operand.Every (Expression.NodeNamed d)) :
    Spells d ((Filter.isNull operand).write d).toList ((Filter.isNull operand).kinds d) := by
  have his := @spells_keyword d .is rfl
  have hnull := @spells_keyword d .null rfl
  have htext : (Filter.isNull operand).write d = operand.write d ++ " IS " ++ "NULL" := by
    rw [String.append_assoc]
    rfl
  rw [htext]
  exact (spells_expression h).joined his hnull rfl

theorem spells_oneOf {operand : Expression} {values : List Expression}
    (h : ∀ e ∈ operand :: values, e.Every (Expression.NodeNamed d)) :
    Spells d ((Filter.oneOf operand values).write d).toList
      ((Filter.oneOf operand values).kinds d) := by
  have hin := @spells_keyword d .oneOf rfl
  have hvalues : SpellsAll d (Expression.writeAll d values) (Expression.kindsAll d values) :=
    spells_expressions ((Expression.everyAll_iff _).mpr fun e he => h e (List.mem_cons_of_mem _ he))
  exact (spells_expression (h operand List.mem_cons_self)).joined hin
    (opens_parenthesised (spells_commas hvalues)).spells rfl

theorem spells_ids (identifiers : List String) :
    Spells d ((Filter.ids identifiers).write d).toList ((Filter.ids identifiers).kinds d) := by
  have hin := @spells_keyword d .oneOf rfl
  have hnames : SpellsAll d (identifiers.map Writing.stringText)
      (identifiers.map fun name => [.string name]) :=
    spellsAll_map fun name _ => spells_stringText name
  exact hin.spaced (opens_parenthesised (spells_commas hnames)).spells

theorem spells_comparisonTest {op : Comparison} {left right : Expression}
    (h : ∀ e ∈ [left, right], e.Every (Expression.NodeNamed d)) :
    Spells d ((Filter.comparison op left right).write d).toList
      ((Filter.comparison op left right).kinds d) := by
  have hspells := ((spells_expression (h left (by simp))).spaced (spells_comparison op)).spaced
    (spells_expression (h right (by simp)))
  rw [List.append_assoc] at hspells
  exact hspells

theorem spells_spatial {predicate : SpatialPredicate}
    (henabled : d.spatialEnabled predicate.op = true)
    (h : ∀ e ∈ predicate.operands, e.Every (Expression.NodeNamed d)) :
    Spells d (predicate.write d).toList (predicate.kinds d) := by
  have hnamed : ∀ e ∈ predicate.arguments d, e.Every (Expression.NodeNamed d) :=
    every_arguments h (fun _ => trivial) (fun _ _ => trivial)
      fun _ hplain => .inr (isPlainPath_of_isPlainWord hplain)
  rw [write_spatialPredicate]
  exact spells_call (spells_spatialOp henabled) hnamed

mutual

/-- The text of a filter whose properties and calls are named is read as its tokens. -/
theorem spells_filter : ∀ {f : Filter},
    f.Every (Expression.NodeNamed d) (Filter.NodeResolved d) →
    Spells d (f.write d).toList (f.kinds d)
  | .everything, _ => @spells_keyword d .everything rfl
  | .nothing, _ => @spells_keyword d .nothing rfl
  | .comparison _ _ _, ⟨_, h⟩ => spells_comparisonTest h
  | .like _, ⟨_, h⟩ => spells_like (h _ List.mem_cons_self)
  | .between _ _ _, ⟨_, h⟩ => spells_betweenTest h
  | .isNull _, ⟨_, h⟩ => spells_isNull (h _ List.mem_cons_self)
  | .oneOf _ _, ⟨_, h⟩ => spells_oneOf h
  | .ids identifiers, _ => spells_ids identifiers
  | .spatial _, ⟨hresolved, h⟩ => spells_spatial hresolved.1 h
  | .logical op first second others, ⟨_, hfirst, hsecond, hothers⟩ => by
      have hrest := @spells_operands others op _ _ hothers
        (spells_parenthesisedIf (spells_filter hsecond) second.isLogical)
      rw [Filter.write, Filter.kinds, String.intercalate_cons_cons]
      exact (spells_parenthesisedIf (spells_filter hfirst) first.isLogical).joined
        (spells_logicalOp op) hrest rfl
  | .not operand, ⟨_, hoperand⟩ => by
      have hnot := @spells_keyword d .not rfl
      exact hnot.spaced (spells_parenthesisedIf (spells_filter hoperand) operand.isLogical)

/-- The further operands of a conjunction or disjunction, behind the text in front of them. -/
theorem spells_operands : ∀ {others : List Filter} {op : LogicalOp} {text : String}
    {kinds : List TokenKind}, Filter.EveryAll (Expression.NodeNamed d) (Filter.NodeResolved d) others →
    Spells d text.toList kinds →
    Spells d ((" " ++ op.name ++ " ").intercalate (text :: Filter.writeOperands d others)).toList
      (kinds ++ Filter.kindsOperands d op others)
  | [], _, text, kinds, _, h => by
      simpa [Filter.writeOperands, Filter.kindsOperands, String.intercalate_singleton] using h
  | first :: others, op, _, _, ⟨hfirst, hothers⟩, h => by
      have hrest := @spells_operands others op _ _ hothers
        (spells_parenthesisedIf (spells_filter hfirst) first.isLogical)
      rw [Filter.writeOperands, String.intercalate_cons_cons]
      exact h.joined (spells_logicalOp op) hrest rfl

end

end Filters

end GeoFilter
