import Mathlib.Data.List.TakeWhile
import GeoFilter.Diagnostic.Message
import GeoFilter.Proofs.Text.Run

/-!
What makes a message fit to be shown, apart from how it is screened. The screening accepts
exactly the fit messages, and any other message is rejected for the first reason that applies to
it.
-/

namespace GeoFilter

open Text

/-- A text that is one placeholder from its first character to its last. -/
inductive IsPlaceholder : List Char → Prop
  | braces {name : List Char}
      (hname : ∀ c ∈ name, c ≠ '{' ∧ c ≠ '}' ∧ isBlank c = false) :
      IsPlaceholder ('{' :: (name ++ ['}']))
  | percent {c : Char} (hc : c ∈ ['s', 'd', 'i', 'f', 'x']) : IsPlaceholder ['%', c]
  | dollar : IsPlaceholder ['$', '{']

/-- A message that is fit to be shown. -/
structure IsFit (message : List Char) : Prop where
  nonempty : message ≠ []
  first : ∀ c ∈ message.head?, isBlank c = false
  last : ∀ c ∈ message.getLast?, isBlank c = false
  controls : ∀ c ∈ message, isControl c = false
  placeholders : ∀ piece, IsPlaceholder piece → ¬piece <:+: message
  punctuation : ∀ c ∈ message.getLast?, c ∉ [',', ':', ';', '-']

namespace MessageFault

/-- The faults in the order in which they are looked for. -/
def all : List MessageFault :=
  [.empty, .surroundingBlanks, .controlCharacter, .placeholder, .strayPunctuation]

/-- Whether a message has a fault, whatever other faults it has. -/
def Applies (message : List Char) : MessageFault → Prop
  | .empty => ∀ c ∈ message, isBlank c = true
  | .surroundingBlanks =>
      (∃ c ∈ message.head?, isBlank c = true) ∨ ∃ c ∈ message.getLast?, isBlank c = true
  | .controlCharacter => ∃ c ∈ message, isControl c = true
  | .placeholder => ∃ piece, IsPlaceholder piece ∧ piece <:+: message
  | .strayPunctuation => ∃ c ∈ message.getLast?, c ∈ [',', ':', ';', '-']

/-- Whether a fault of a message is the first that it has. -/
def AppliesFirst (message : List Char) (fault : MessageFault) : Prop :=
  fault.Applies message ∧
    ∃ earlier later, all = earlier ++ fault :: later ∧ ∀ other ∈ earlier, ¬other.Applies message

end MessageFault

section Trimming

variable {text : List Char}

theorem dropWhile_eq_self_iff_head {p : Char → Bool} :
    text.dropWhile p = text ↔ ∀ c ∈ text.head?, p c = false := by
  rw [List.dropWhile_eq_self_iff]
  cases text <;> simp

theorem trim_eq_nil_iff : trim text = [] ↔ ∀ c ∈ text, isBlank c = true := by
  rw [trim, trimEnd, List.reverse_eq_nil_iff, List.dropWhile_eq_nil_iff]
  simp only [List.mem_reverse, trimStart]
  constructor
  · intro h c hc
    rw [← List.takeWhile_append_dropWhile (p := isBlank) (l := text)] at hc
    rcases List.mem_append.mp hc with hfront | hrest
    · exact List.mem_takeWhile_imp hfront
    · exact h c hrest
  · exact fun h c hc => h c ((List.dropWhile_suffix isBlank).subset hc)

theorem trim_eq_self_iff :
    trim text = text ↔
      (∀ c ∈ text.head?, isBlank c = false) ∧ ∀ c ∈ text.getLast?, isBlank c = false := by
  have hend : trimEnd text = text ↔ ∀ c ∈ text.getLast?, isBlank c = false := by
    rw [trimEnd, List.reverse_eq_iff, dropWhile_eq_self_iff_head, List.head?_reverse]
  rw [← dropWhile_eq_self_iff_head, ← hend]
  constructor
  · intro h
    have hshort := (List.dropWhile_sublist (l := (trimStart text).reverse) isBlank).length_le
    have hlength := congrArg List.length h
    rw [trim, trimEnd, List.length_reverse] at hlength
    rw [List.length_reverse, hlength] at hshort
    have hstart : trimStart text = text :=
      (List.dropWhile_suffix isBlank).eq_of_length_le hshort
    rw [trim, hstart] at h
    exact ⟨hstart, h⟩
  · rintro ⟨hstart, hend⟩
    rw [trim, trimStart, hstart, hend]

end Trimming

section Placeholders

variable {text : List Char}

theorem isPlaceholderName_iff {c : Char} :
    isPlaceholderName c = true ↔ c ≠ '{' ∧ c ≠ '}' ∧ isBlank c = false := by
  simp [isPlaceholderName, and_assoc]

/-- A name goes on as long as it can, so the first character behind it decides whether the
braces are closed. -/
theorem head?_dropWhile_name_iff {rest : List Char} :
    (rest.dropWhile isPlaceholderName).head? = some '}' ↔
      ∃ name, (∀ c ∈ name, isPlaceholderName c = true) ∧ name ++ ['}'] <+: rest := by
  constructor
  · intro h
    obtain ⟨later, hlater⟩ := List.head?_eq_some_iff.mp h
    refine ⟨rest.takeWhile isPlaceholderName, fun c hc => List.mem_takeWhile_imp hc, later, ?_⟩
    rw [List.append_assoc, List.singleton_append, ← hlater, List.takeWhile_append_dropWhile]
  · rintro ⟨name, hname, later, rfl⟩
    rw [List.append_assoc, dropWhile_run hname (by simp [isPlaceholderName])]
    rfl

theorem startsPlaceholder_iff :
    startsPlaceholder text = true ↔ ∃ piece, IsPlaceholder piece ∧ piece <+: text := by
  constructor
  · intro h
    unfold startsPlaceholder at h
    split at h
    · rename_i rest
      obtain ⟨name, hname, hprefix⟩ := head?_dropWhile_name_iff.mp (eq_of_beq h)
      exact ⟨_, .braces fun c hc => isPlaceholderName_iff.mp (hname c hc),
        (List.prefix_cons_inj '{').mpr hprefix⟩
    · rename_i c rest
      exact ⟨['%', c], .percent (by simpa [or_assoc] using h), List.prefix_append ['%', c] rest⟩
    · rename_i rest
      exact ⟨['$', '{'], .dollar, List.prefix_append ['$', '{'] rest⟩
    · cases h
  · rintro ⟨piece, hpiece, hprefix⟩
    cases hpiece with
    | @braces name hname =>
        obtain ⟨rest, rfl⟩ : ∃ rest, text = '{' :: rest := by
          obtain ⟨later, rfl⟩ := hprefix
          exact ⟨_, rfl⟩
        rw [List.prefix_cons_inj] at hprefix
        have hclosed := head?_dropWhile_name_iff.mpr
          ⟨name, fun c hc => isPlaceholderName_iff.mpr (hname c hc), hprefix⟩
        exact beq_iff_eq.mpr hclosed
    | percent hc =>
        obtain ⟨later, rfl⟩ := hprefix
        simpa [startsPlaceholder, or_assoc] using hc
    | dollar =>
        obtain ⟨later, rfl⟩ := hprefix
        rfl

/-- The search finds a placeholder wherever in the text one stands. -/
theorem hasPlaceholder_iff :
    hasPlaceholder text = true ↔ ∃ piece, IsPlaceholder piece ∧ piece <:+: text := by
  induction text with
  | nil =>
      refine iff_of_false (by simp [hasPlaceholder]) ?_
      rintro ⟨piece, hpiece, hinfix⟩
      rw [List.infix_nil] at hinfix
      subst hinfix
      cases hpiece
  | cons c rest ih =>
      rw [hasPlaceholder, Bool.or_eq_true, startsPlaceholder_iff, ih, ← exists_or]
      simp only [← and_or_left, List.infix_cons_iff]

end Placeholders

section Screening

variable {message : List Char}

theorem isStrayPunctuation_iff {c : Char} :
    isStrayPunctuation c = true ↔ c ∈ [',', ':', ';', '-'] := by
  simp [isStrayPunctuation, or_assoc]

open Classical in
/-- The screening looks for the first fault that applies. -/
theorem messageFault?_eq_find? :
    messageFault? message = MessageFault.all.find? fun fault => fault.Applies message := by
  have hempty : (trim message).isEmpty = true ↔ MessageFault.empty.Applies message :=
    List.isEmpty_iff.trans trim_eq_nil_iff
  have hblanks : trim message ≠ message ↔ MessageFault.surroundingBlanks.Applies message := by
    rw [Ne, trim_eq_self_iff, not_and_or]
    simp [MessageFault.Applies]
  have hcontrol : message.any isControl = true ↔ MessageFault.controlCharacter.Applies message :=
    List.any_eq_true
  have hplaceholder : hasPlaceholder message = true ↔ MessageFault.placeholder.Applies message :=
    hasPlaceholder_iff
  have hstray : message.getLast?.any isStrayPunctuation = true ↔
      MessageFault.strayPunctuation.Applies message := by
    simp only [Option.any_eq_true, isStrayPunctuation_iff]
    rfl
  unfold messageFault?
  simp only [hempty, hblanks, hcontrol, hplaceholder, hstray, MessageFault.all, List.find?]
  grind

theorem messageFault?_eq_some_iff {fault : MessageFault} :
    messageFault? message = some fault ↔ fault.AppliesFirst message := by
  rw [messageFault?_eq_find?, List.find?_eq_some_iff_append]
  simp [MessageFault.AppliesFirst]

/-- A message is fit if no fault applies to it. White space alone is no message, though only an
empty one has no first character. -/
theorem isFit_iff : IsFit message ↔ ∀ fault : MessageFault, ¬fault.Applies message := by
  constructor
  · intro h fault happlies
    cases fault with
    | empty =>
        obtain ⟨c, rest, rfl⟩ := List.exists_cons_of_ne_nil h.nonempty
        have hblank := happlies c List.mem_cons_self
        rw [h.first c rfl] at hblank
        cases hblank
    | surroundingBlanks =>
        rcases happlies with ⟨c, hc, hblank⟩ | ⟨c, hc, hblank⟩
        · rw [h.first c hc] at hblank
          cases hblank
        · rw [h.last c hc] at hblank
          cases hblank
    | controlCharacter =>
        obtain ⟨c, hc, hcontrol⟩ := happlies
        rw [h.controls c hc] at hcontrol
        cases hcontrol
    | placeholder =>
        obtain ⟨piece, hpiece, hinfix⟩ := happlies
        exact h.placeholders piece hpiece hinfix
    | strayPunctuation =>
        obtain ⟨c, hc, hstray⟩ := happlies
        exact h.punctuation c hc hstray
  · intro h
    constructor
    · rintro rfl
      exact h .empty (by simp [MessageFault.Applies])
    · exact fun c hc => eq_false_of_ne_true fun hblank =>
        h .surroundingBlanks (.inl ⟨c, hc, hblank⟩)
    · exact fun c hc => eq_false_of_ne_true fun hblank =>
        h .surroundingBlanks (.inr ⟨c, hc, hblank⟩)
    · exact fun c hc => eq_false_of_ne_true fun hcontrol =>
        h .controlCharacter ⟨c, hc, hcontrol⟩
    · exact fun piece hpiece hinfix => h .placeholder ⟨piece, hpiece, hinfix⟩
    · exact fun c hc hstray => h .strayPunctuation ⟨c, hc, hstray⟩

theorem messageFault?_eq_none_iff : messageFault? message = none ↔ IsFit message := by
  rw [messageFault?_eq_find?, List.find?_eq_none, isFit_iff]
  constructor
  · intro h fault happlies
    exact h fault (by cases fault <;> decide) (by simpa using happlies)
  · intro h fault _ happlies
    exact h fault (by simpa using happlies)

end Screening

/-- The screening accepts the fit messages, and rejects any other one for its first fault. -/
theorem validateMessage_decides (message : String) :
    (validateMessage message = .ok () ↔ IsFit message.toList) ∧
    ∀ rejected, validateMessage message = .error rejected ↔
      rejected.message = message ∧ rejected.fault.AppliesFirst message.toList := by
  unfold validateMessage
  constructor
  · rw [← messageFault?_eq_none_iff]
    split <;> simp_all
  · intro rejected
    rw [← messageFault?_eq_some_iff]
    split
    · rename_i fault hfault
      rw [hfault]
      constructor
      · rintro ⟨⟩
        exact ⟨rfl, rfl⟩
      · rintro ⟨rfl, ⟨⟩⟩
        rfl
    · rename_i hnone
      simp [hnone]

end GeoFilter
