import GeoFilter.Proofs.Diagnostic.Fault

/-!
Texts in which no lexeme begins. The fault tells which run of characters is to blame, and
its message holds nothing but characters of that run.
-/

namespace GeoFilter

open Text

/-- Whether a fault of the scanner is about a run of characters, with the given text behind
it. A quotation that is not closed runs to the end. -/
def Fault.Blames (run after : List Char) : Fault → Prop
  | .unrecognized c => run = [c]
  | .unterminated _ => after = []
  | .malformedNumber text => run = text.toList
  | .numberOutOfRange text => run = text.toList
  | _ => False

theorem Fault.Blames.kind {run after : List Char} {fault : Fault} (h : fault.Blames run after) :
    fault.kind = .lexical := by
  cases fault <;> first | rfl | exact h.elim

/-- What is wrong at the front of a text: a run of characters that a nameable fault blames. -/
def Offends (text : List Char) (fault : Fault) : Prop :=
  fault.Nameable ∧ ∃ run after, text = run ++ after ∧ run ≠ [] ∧ fault.Blames run after

theorem isPlainChar_of_mem_digits {text : List Char} {c : Char}
    (h : c ∈ (NumberParts.of text).text) : isPlainChar c = true :=
  isPlainChar_of_isNumberChar ((isNumberPiece_text text).chars c h)

theorem offends_numberLexeme {c : Char} {rest : List Char} {fault : Fault}
    (hstart : startsNumber (c :: rest) = true) (h : numberLexeme (c :: rest) = .error fault) :
    Offends (c :: rest) fault := by
  have hnonempty := numberParts_text_ne_nil hstart
  obtain ⟨behind, hbehind⟩ := (isNumberPiece_text (c :: rest)).front
  have hdigits : ∀ x ∈ (NumberParts.of (c :: rest)).text, isPlainChar x = true :=
    fun x hx => isPlainChar_of_mem_digits hx
  unfold numberLexeme at h
  simp only at h
  generalize (NumberParts.of (c :: rest)).text = digits at *
  have hdrop : (c :: rest).drop digits.length = behind := by
    rw [← hbehind, List.drop_left]
  rw [hdrop] at h
  split at h
  · cases h
    obtain ⟨later, hlater⟩ := List.takeWhile_prefix isWordChar (l := behind)
    refine ⟨?_, digits ++ behind.takeWhile isWordChar, later, ?_, by simp [hnonempty], ?_⟩
    · intro x hx
      rw [String.toList_ofList] at hx
      rcases List.mem_append.mp hx with hdigit | hword
      · exact hdigits x hdigit
      · exact isPlainChar_of_isWordChar (List.all_eq_true.mp List.all_takeWhile x hword)
    · rw [List.append_assoc, hlater, hbehind]
    · exact (String.toList_ofList).symm
  · split at h
    · cases h
      refine ⟨?_, digits, behind, hbehind.symm, hnonempty, (String.toList_ofList).symm⟩
      intro x hx
      rw [String.toList_ofList] at hx
      exact hdigits x hx
    · cases h

theorem offends_quotedLexeme {mark : Char} {quotation : Quotation} {kind : String → TokenKind}
    {rest : List Char} {fault : Fault} (h : quotedLexeme mark quotation kind rest = .error fault) :
    Offends (mark :: rest) fault := by
  unfold quotedLexeme at h
  split at h
  · cases h
  · cases h
    exact ⟨trivial, mark :: rest, [], by simp, by simp, rfl⟩

/-- A text that does not begin with white space and has no lexeme at its front offends. -/
theorem offends_lexeme {d : Dialect} {c : Char} {rest : List Char} {fault : Fault}
    (hblank : isBlank c = false) (h : lexeme d c rest = .error fault) :
    Offends (c :: rest) fault := by
  unfold lexeme at h
  split at h
  · rename_i hnumber
    exact offends_numberLexeme hnumber h
  · split at h
    · exact offends_quotedLexeme h
    · split at h
      · split at h
        · exact offends_quotedLexeme h
        · exact offends_quotedLexeme h
      · split at h
        · cases h
        · split at h
          · cases h
          · cases h
            exact ⟨hblank, [c], rest, rfl, by simp, rfl⟩

end GeoFilter
