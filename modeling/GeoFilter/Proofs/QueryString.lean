import GeoFilter.Proofs.Text.Pieces
import GeoFilter.Proofs.Text.Percent
import GeoFilter.Request

/-!
Query strings carry their parameters without loss. The two separators are never among the
characters of an encoded key or value, so a query string can be divided at them again, and
every half is decoded to what it was.
-/

namespace GeoFilter.Request

open Text

/-- The parameter in a piece of a query string: an encoded key and an encoded value with one
equals sign between them. -/
def readParameter? (piece : List Char) : Option Parameter :=
  match pieces '=' piece with
  | [key, value] => do return (← percentDecode? key, ← percentDecode? value)
  | _ => none

/-- The parameters in a query string, which are divided by ampersands. The empty text holds
none. -/
def readQuery? (query : String) : Option (List Parameter) :=
  if query.isEmpty then some [] else (pieces '&' query.toList).mapM readParameter?

variable {parameter : Parameter}

theorem toList_encodeParameter (key value : String) :
    (encodeParameter (key, value)).toList =
      (percentEncode key).toList ++ '=' :: (percentEncode value).toList := by
  rw [encodeParameter, String.toList_append, String.toList_append, List.append_assoc]
  rfl

theorem readParameter?_encodeParameter (parameter : Parameter) :
    readParameter? (encodeParameter parameter).toList = some parameter := by
  obtain ⟨key, value⟩ := parameter
  have hkey : '=' ∉ (percentEncode key).toList := not_mem_percentEncode (by decide) (by decide) key
  have hvalue : '=' ∉ (percentEncode value).toList :=
    not_mem_percentEncode (by decide) (by decide) value
  rw [readParameter?, toList_encodeParameter, pieces_append hkey, pieces_of_not_mem hvalue]
  simp only [percentDecode?_percentEncode]
  rfl

theorem mapM_readParameter? (parameters : List Parameter) :
    (parameters.map fun parameter => (encodeParameter parameter).toList).mapM readParameter? =
      some parameters := by
  induction parameters with
  | nil => rfl
  | cons first others ih =>
      rw [List.map_cons, List.mapM_cons, readParameter?_encodeParameter, ih]
      rfl

theorem mem_encodeParameter {c : Char} (h : c ∈ (encodeParameter parameter).toList) :
    isUnreserved c = true ∨ c = '%' ∨ c = '=' := by
  obtain ⟨key, value⟩ := parameter
  rw [toList_encodeParameter, List.mem_append, List.mem_cons] at h
  rcases h with hkey | rfl | hvalue
  · exact (mem_percentEncode hkey).imp_right .inl
  · exact .inr (.inr rfl)
  · exact (mem_percentEncode hvalue).imp_right .inl

theorem not_mem_encodeParameter (parameter : Parameter) :
    '&' ∉ (encodeParameter parameter).toList := by
  intro h
  rcases mem_encodeParameter h with hunreserved | heq | heq
  · exact absurd hunreserved (by decide)
  · exact absurd heq (by decide)
  · exact absurd heq (by decide)

theorem encodeParameter_ne_nil (parameter : Parameter) : (encodeParameter parameter).toList ≠ [] := by
  obtain ⟨key, value⟩ := parameter
  rw [toList_encodeParameter]
  simp

theorem toList_queryString (request : Request) :
    request.queryString.toList =
      ['&'].intercalate (request.parameters.map fun parameter => (encodeParameter parameter).toList) := by
  rw [queryString, String.toList_intercalate, List.map_map]
  rfl

/-- What can stand in a query string. -/
theorem mem_queryString {request : Request} {c : Char} (h : c ∈ request.queryString.toList) :
    isUnreserved c = true ∨ c = '%' ∨ c = '=' ∨ c = '&' := by
  rw [toList_queryString] at h
  rcases mem_of_mem_intercalate h with hseparator | ⟨_, hpart, hc⟩
  · exact .inr (.inr (.inr hseparator))
  · obtain ⟨parameter, _, rfl⟩ := List.mem_map.mp hpart
    exact (mem_encodeParameter hc).imp_right (Or.imp_right .inl)

/-- Dividing a query string at the ampersands gives back the encoded parameters. -/
theorem pieces_queryString {request : Request} (h : request.parameters ≠ []) :
    pieces '&' request.queryString.toList =
      request.parameters.map fun parameter => (encodeParameter parameter).toList := by
  rw [toList_queryString]
  apply pieces_intercalate
  · rwa [Ne, List.map_eq_nil_iff]
  · intro part hpart
    obtain ⟨parameter, _, rfl⟩ := List.mem_map.mp hpart
    exact not_mem_encodeParameter parameter

/-- Only the empty list has the empty query string: a parameter has an equals sign, even
with an empty key and an empty value. -/
theorem queryString_ne_empty {request : Request} (h : request.parameters ≠ []) :
    request.queryString ≠ "" := by
  intro hempty
  have hpieces := pieces_queryString h
  rw [hempty] at hpieces
  have hpart : [] ∈ request.parameters.map fun parameter => (encodeParameter parameter).toList :=
    hpieces ▸ List.mem_singleton.mpr rfl
  obtain ⟨parameter, _, hnil⟩ := List.mem_map.mp hpart
  exact encodeParameter_ne_nil parameter hnil

theorem readQuery?_of_ne_nil {request : Request} (h : request.parameters ≠ []) :
    readQuery? request.queryString = some request.parameters := by
  have hempty : ¬request.queryString.isEmpty = true := by
    rw [String.isEmpty_iff]
    exact queryString_ne_empty h
  rw [readQuery?, if_neg hempty, pieces_queryString h]
  exact mapM_readParameter? request.parameters

/-- A query string is made of letters, digits and seven marks, and it gives back the
parameters of its request in their order. -/
theorem readQuery?_queryString (request : Request) :
    (∀ c ∈ request.queryString.toList,
      c.isAlphanum = true ∨ c ∈ ['-', '_', '.', '~', '%', '=', '&']) ∧
    readQuery? request.queryString = some request.parameters := by
  constructor
  · intro c hc
    have hmember := mem_queryString hc
    simp only [isUnreserved, Bool.or_eq_true, beq_iff_eq] at hmember
    simp only [List.mem_cons, List.not_mem_nil, or_false]
    tauto
  · by_cases hempty : request.parameters = []
    · rw [queryString, hempty]
      rfl
    · exact readQuery?_of_ne_nil hempty

example : (⟨.v200, "GetFeature", [("CQL_FILTER", "a = 'é&%'"), ("", "")]⟩ : Request).queryString =
    "CQL_FILTER=a%20%3D%20%27%C3%A9%26%25%27&=" := by decide +kernel

end GeoFilter.Request
