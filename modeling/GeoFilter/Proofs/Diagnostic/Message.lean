import Mathlib
import GeoFilter.Diagnostic.Message
import GeoFilter.Token.Word

/-!
Messages that pass the screening. A message put together from plain characters passes if
it neither begins nor ends badly; the characters of words and numbers are plain.
-/

namespace GeoFilter

open Text

/-- Whether a character neither is a control character nor can begin a placeholder. -/
def isPlainChar (c : Char) : Bool :=
  !isControl c && c != '{' && c != '%' && c != '$'

def IsPlain (text : String) : Prop :=
  ∀ c ∈ text.toList, isPlainChar c = true

/-- Whether a message may begin with a text. -/
def BeginsWell (text : String) : Prop :=
  ∃ c, text.toList.head? = some c ∧ isBlank c = false

/-- Whether a message may end with a text. -/
def EndsWell (text : String) : Prop :=
  ∃ c, text.toList.getLast? = some c ∧ isBlank c = false ∧ isStrayPunctuation c = false

@[simp] theorem isPlain_append {a b : String} : IsPlain (a ++ b) ↔ IsPlain a ∧ IsPlain b := by
  unfold IsPlain
  rw [String.toList_append]
  constructor
  · intro h
    exact ⟨fun c hc => h c (List.mem_append_left _ hc), fun c hc => h c (List.mem_append_right _ hc)⟩
  · rintro ⟨ha, hb⟩ c hc
    exact (List.mem_append.mp hc).elim (ha c) (hb c)

theorem BeginsWell.append {a : String} (ha : BeginsWell a) (b : String) : BeginsWell (a ++ b) := by
  obtain ⟨c, hhead, hblank⟩ := ha
  refine ⟨c, ?_, hblank⟩
  rw [String.toList_append, List.head?_append, hhead]
  rfl

theorem EndsWell.append {b : String} (hb : EndsWell b) (a : String) : EndsWell (a ++ b) := by
  obtain ⟨c, hlast, hc⟩ := hb
  refine ⟨c, ?_, hc⟩
  rw [String.toList_append, List.getLast?_append, hlast]
  rfl

theorem dropWhile_of_head {text : List Char} {c : Char} (hhead : text.head? = some c)
    (hblank : isBlank c = false) : text.dropWhile isBlank = text := by
  cases text with
  | nil => rfl
  | cons d rest =>
      cases hhead
      simp [hblank]

theorem startsPlaceholder_of_plain {c : Char} (h : isPlainChar c = true) (rest : List Char) :
    startsPlaceholder (c :: rest) = false := by
  simp only [isPlainChar, Bool.and_eq_true, bne_iff_ne, ne_eq] at h
  unfold startsPlaceholder
  split
  · rename_i heq
    cases heq
    exact absurd rfl h.1.1.2
  · rename_i heq
    cases heq
    exact absurd rfl h.1.2
  · rename_i heq
    cases heq
    exact absurd rfl h.2
  · rfl

theorem hasPlaceholder_append {text : List Char} (h : ∀ c ∈ text, isPlainChar c = true)
    (rest : List Char) : hasPlaceholder (text ++ rest) = hasPlaceholder rest := by
  induction text with
  | nil => rfl
  | cons c later ih =>
      rw [List.cons_append, hasPlaceholder, startsPlaceholder_of_plain (h c List.mem_cons_self)]
      exact ih (fun d hd => h d (List.mem_cons_of_mem c hd))

theorem hasPlaceholder_of_plain {text : List Char} (h : ∀ c ∈ text, isPlainChar c = true) :
    hasPlaceholder text = false := by
  have happend := hasPlaceholder_append h []
  rwa [List.append_nil] at happend

theorem isControl_of_plain {c : Char} (h : isPlainChar c = true) : isControl c = false := by
  simp only [isPlainChar, Bool.and_eq_true, Bool.not_eq_true'] at h
  exact h.1.1.1

/-- A message without control characters and placeholders passes the screening if it
begins and ends well. -/
theorem messageFault?_eq_none {text : String} (hbegins : BeginsWell text) (hends : EndsWell text)
    (hcontrol : text.toList.any isControl = false)
    (hplaceholder : hasPlaceholder text.toList = false) : messageFault? text.toList = none := by
  obtain ⟨c, hhead, hblank⟩ := hbegins
  obtain ⟨last, hlast, hlastblank, hstray⟩ := hends
  have hstart : trimStart text.toList = text.toList := dropWhile_of_head hhead hblank
  have hend : trimEnd text.toList = text.toList := by
    have hreverse : text.toList.reverse.head? = some last := by
      rw [List.head?_reverse, hlast]
    rw [trimEnd, dropWhile_of_head hreverse hlastblank, List.reverse_reverse]
  have htrim : trim text.toList = text.toList := by
    rw [trim, hstart, hend]
  have hnonempty : text.toList.isEmpty = false := by
    cases htext : text.toList with
    | nil =>
        rw [htext] at hhead
        cases hhead
    | cons d rest => rfl
  unfold messageFault?
  simp [htrim, hcontrol, hplaceholder, hlast, hstray]
  simpa using hnonempty

theorem messageFault?_of_plain {text : String} (hplain : IsPlain text) (hbegins : BeginsWell text)
    (hends : EndsWell text) : messageFault? text.toList = none := by
  apply messageFault?_eq_none hbegins hends
  · rw [List.any_eq_false]
    intro c hc
    rw [isControl_of_plain (hplain c hc)]
    simp
  · exact hasPlaceholder_of_plain hplain

section Literals

variable {text : List Char}

theorem isPlain_literal (h : text.all isPlainChar = true) : IsPlain (String.ofList text) := by
  unfold IsPlain
  rw [String.toList_ofList]
  exact List.all_eq_true.mp h

theorem beginsWell_literal (h : text.head?.any (fun c => !isBlank c) = true) :
    BeginsWell (String.ofList text) := by
  obtain ⟨c, hc, hblank⟩ := (Option.any_eq_true _ _).mp h
  exact ⟨c, by rwa [String.toList_ofList], by simpa using hblank⟩

theorem endsWell_literal
    (h : text.getLast?.any (fun c => !isBlank c && !isStrayPunctuation c) = true) :
    EndsWell (String.ofList text) := by
  obtain ⟨c, hc, hgood⟩ := (Option.any_eq_true _ _).mp h
  simp only [Bool.and_eq_true, Bool.not_eq_true'] at hgood
  exact ⟨c, by rwa [String.toList_ofList], hgood⟩

theorem messageFault?_literal (hplain : text.all isPlainChar = true)
    (hbegins : text.head?.any (fun c => !isBlank c) = true)
    (hends : text.getLast?.any (fun c => !isBlank c && !isStrayPunctuation c) = true) :
    messageFault? (String.ofList text).toList = none :=
  messageFault?_of_plain (isPlain_literal hplain) (beginsWell_literal hbegins)
    (endsWell_literal hends)

end Literals

theorem isPlainChar_of_range {c : Char}
    (h : (0x30 ≤ c.toNat ∧ c.toNat < 0x7b) ∨ 0xa0 ≤ c.toNat) : isPlainChar c = true := by
  have hne : c ≠ '{' ∧ c ≠ '%' ∧ c ≠ '$' := by
    refine ⟨?_, ?_, ?_⟩ <;>
    · rintro rfl
      simp at h
  simp [isPlainChar, isControl, hne.1, hne.2.1, hne.2.2]
  omega

theorem range_of_isLetter {c : Char} (h : isLetter c = true) :
    (0x30 ≤ c.toNat ∧ c.toNat < 0x7b) ∨ 0xa0 ≤ c.toNat := by
  unfold isLetter alphabeticBoundaries at h
  by_cases hlow : c.toNat < 0x41
  · rw [inside_of_lt hlow] at h
    cases h
  · by_cases hmid : c.toNat < 0x7b
    · left
      omega
    · right
      by_cases hhigh : c.toNat < 0xaa
      · rw [inside_of_le (by omega), inside_of_le (by omega), inside_of_le (by omega),
          inside_of_le (by omega), inside_of_lt hhigh] at h
        cases h
      · omega

theorem range_of_isNumeral {c : Char} (h : isNumeral c = true) :
    (0x30 ≤ c.toNat ∧ c.toNat < 0x7b) ∨ 0xa0 ≤ c.toNat := by
  unfold isNumeral numericBoundaries at h
  by_cases hlow : c.toNat < 0x30
  · rw [inside_of_lt hlow] at h
    cases h
  · by_cases hmid : c.toNat < 0x7b
    · left
      omega
    · right
      by_cases hhigh : c.toNat < 0xb2
      · rw [inside_of_le (by omega), inside_of_le (by omega), inside_of_lt hhigh] at h
        cases h
      · omega

theorem isPlainChar_of_isWordChar {c : Char} (h : isWordChar c = true) : isPlainChar c = true := by
  simp only [isWordChar, isLetterOrNumeral, Bool.or_eq_true, beq_iff_eq] at h
  rcases h with ((hletter | hnumeral) | rfl) | rfl
  · exact isPlainChar_of_range (range_of_isLetter hletter)
  · exact isPlainChar_of_range (range_of_isNumeral hnumeral)
  · decide
  · decide

theorem isPlainChar_of_isDigit {c : Char} (h : c.isDigit = true) : isPlainChar c = true :=
  isPlainChar_of_range (range_of_isNumeral (isNumeral_of_isDigit h))

theorem isPlain_of_isPlainWord {d : Dialect} {word : String} (h : isPlainWord d word = true) :
    IsPlain word := by
  unfold isPlainWord at h
  intro c hc
  split at h
  · cases h
  · rename_i first rest hlist
    simp only [Bool.and_eq_true] at h
    rw [hlist] at hc
    rcases List.mem_cons.mp hc with rfl | hmem
    · exact isPlainChar_of_isWordChar (isWordChar_of_isWordStart h.1.1)
    · exact isPlainChar_of_isWordChar (List.all_eq_true.mp h.1.2 c hmem)

@[simp] theorem isPlain_toString {text : String} : IsPlain (toString text) ↔ IsPlain text :=
  Iff.rfl

/-- Between the space and the controls of the second block nothing is blank. -/
theorem isBlank_of_range {c : Char} (hlow : 0x21 ≤ c.toNat) (hhigh : c.toNat < 0x85) :
    isBlank c = false := by
  unfold isBlank blankBoundaries
  rw [inside_of_le (by omega), inside_of_le (by omega), inside_of_le (by omega),
    inside_of_le (by omega), inside_of_lt (by omega)]
  rfl

theorem range_of_isAlphanum {c : Char} (h : c.isAlphanum = true) :
    0x30 ≤ c.toNat ∧ c.toNat < 0x7b := by
  simp only [Char.isAlphanum, Char.isAlpha, Char.isUpper, Char.isLower, Char.isDigit,
    Bool.or_eq_true, Bool.and_eq_true, decide_eq_true_eq] at h
  have hlow : ∀ n : UInt32, n ≤ c.val → n.toNat ≤ c.toNat := fun n hn => UInt32.le_iff_toNat_le.mp hn
  have hhigh : ∀ n : UInt32, c.val ≤ n → c.toNat ≤ n.toNat := fun n hn => UInt32.le_iff_toNat_le.mp hn
  rcases h with (h | h) | h <;>
  · have h1 := hlow _ h.1
    have h2 := hhigh _ h.2
    simp at h1 h2
    omega

/-- A text of letters and digits can stand anywhere in a message, also at its end. -/
theorem endsWell_of_isAlphanum {text : String} (hnonempty : text.toList ≠ [])
    (h : ∀ c ∈ text.toList, c.isAlphanum = true) : EndsWell text := by
  have hlast := h _ (List.getLast_mem hnonempty)
  obtain ⟨hlow, hhigh⟩ := range_of_isAlphanum hlast
  refine ⟨_, List.getLast?_eq_some_getLast hnonempty, isBlank_of_range (by omega) (by omega), ?_⟩
  generalize text.toList.getLast hnonempty = c at hlast
  simp only [isStrayPunctuation, Bool.or_eq_false_iff, beq_eq_false_iff_ne, ne_eq]
  refine ⟨⟨⟨?_, ?_⟩, ?_⟩, ?_⟩ <;>
  · rintro rfl
    exact absurd hlast (by decide)

theorem isPlain_of_isAlphanum {text : String} (h : ∀ c ∈ text.toList, c.isAlphanum = true) :
    IsPlain text :=
  fun c hc => isPlainChar_of_range (.inl (range_of_isAlphanum (h c hc)))

theorem isAlphanum_of_isDigit {c : Char} (h : c.isDigit = true) : c.isAlphanum = true := by
  simp [Char.isAlphanum, h]

theorem isAlphanum_repr (n : Nat) : ∀ c ∈ n.repr.toList, c.isAlphanum = true := by
  intro c hc
  rw [Nat.toList_repr] at hc
  exact isAlphanum_of_isDigit (Nat.isDigit_of_mem_toDigits (by decide) (by decide) hc)

@[simp] theorem isPlain_repr (n : Nat) : IsPlain n.repr :=
  isPlain_of_isAlphanum (isAlphanum_repr n)

theorem endsWell_repr (n : Nat) : EndsWell n.repr := by
  apply endsWell_of_isAlphanum _ (isAlphanum_repr n)
  rw [Nat.toList_repr]
  exact Nat.toDigits_ne_nil

end GeoFilter
