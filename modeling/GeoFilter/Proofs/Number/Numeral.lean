import GeoFilter.Number.Layout
import GeoFilter.Number.Reading
import GeoFilter.Proofs.Number.Shortest

/-!
Numerals: the form that all layouts without a plus sign share. A numeral is read by
its parts, and the text of every finite number is a numeral that reads back as the
magnitude of the number, with a minus sign in front if the sign bit is set.
-/

namespace GeoFilter.Number

open Text

/-- Digits before the point, digits behind it, and an exponent. Without digits behind it
there is no point. -/
structure Numeral where
  whole : List Char
  fraction : List Char
  exponent : Option Int

namespace Numeral

def fractionText (n : Numeral) : List Char :=
  if n.fraction.isEmpty then [] else '.' :: n.fraction

def exponentText (n : Numeral) : List Char :=
  match n.exponent with
  | none => []
  | some e => 'e' :: ((if e < 0 then ['-'] else []) ++ Nat.toDigits 10 e.natAbs)

def text (n : Numeral) : List Char :=
  n.whole ++ n.fractionText ++ n.exponentText

/-- The decimal number that a numeral stands for. -/
def decimal (n : Numeral) : Decimal :=
  .normal (n.whole ++ n.fraction) (n.exponent.getD 0 - n.fraction.length)

/-- Whether a point or an exponent shows that the number is not an integer. -/
def fractional (n : Numeral) : Bool :=
  !n.fraction.isEmpty || n.exponent.isSome

structure WellFormed (n : Numeral) : Prop where
  nonempty : n.whole ≠ []
  whole : ∀ c ∈ n.whole, c.isDigit = true
  fraction : ∀ c ∈ n.fraction, c.isDigit = true

/-- The numeral of a natural number. -/
def ofNat (value : Nat) : Numeral :=
  ⟨Nat.toDigits 10 value, [], none⟩

theorem text_ofNat (value : Nat) : (ofNat value).text = Nat.toDigits 10 value := by
  simp [ofNat, text, fractionText, exponentText]

end Numeral

theorem isDigit_of_mem_toDigits {value : Nat} {c : Char} (h : c ∈ Nat.toDigits 10 value) :
    c.isDigit = true :=
  Nat.isDigit_of_mem_toDigits (by decide) (by decide) h

theorem toDigits_all (value : Nat) : ∀ c ∈ Nat.toDigits 10 value, c.isDigit = true :=
  fun _ hc => isDigit_of_mem_toDigits hc

theorem Numeral.wellFormed_ofNat (value : Nat) : (Numeral.ofNat value).WellFormed where
  nonempty := Nat.toDigits_ne_nil
  whole := toDigits_all value
  fraction := by simp [Numeral.ofNat]

theorem toLower_of_isDigit {c : Char} (h : c.isDigit = true) : c.toLower = c := by
  simp only [Char.isDigit, Bool.and_eq_true, decide_eq_true_eq] at h
  unfold Char.toLower
  rw [dif_neg]
  intro hupper
  exact absurd (UInt32.le_trans hupper.1 h.2) (by decide)

/-- A text that begins with a digit has no sign. -/
theorem splitSign_digit {c : Char} (h : c.isDigit = true) (rest : List Char) :
    splitSign (c :: rest) = (false, c :: rest) := by
  unfold splitSign
  split
  · rename_i heq
    cases heq
    exact absurd h (by decide)
  · rename_i heq
    cases heq
    exact absurd h (by decide)
  · rfl

theorem readExponent_of_split {mark : Char} {text digits : List Char} {negative : Bool}
    (hmark : (mark == 'e' || mark == 'E') = true) (hsplit : splitSign text = (negative, digits))
    (hnonempty : digits ≠ []) (hdigits : ∀ c ∈ digits, c.isDigit = true) :
    readExponent (mark :: text) =
      some (if negative then -(natOfDigits digits : Int) else natOfDigits digits) := by
  have hempty : digits.isEmpty = false := by
    simpa using hnonempty
  have hall : digits.all Char.isDigit = true := List.all_eq_true.mpr hdigits
  simp only [readExponent, hsplit, hmark, hempty, hall, Bool.not_false, Bool.and_self, if_true]

/-- An exponent begins with its mark. -/
theorem head?_of_readExponent {exponent : List Char} {e : Int} (h : readExponent exponent = some e) :
    ∀ c ∈ exponent.head?, c = 'e' ∨ c = 'E' := by
  intro c hc
  cases exponent with
  | nil => cases hc
  | cons mark rest =>
      cases hc
      simp only [readExponent] at h
      split at h
      · rename_i hexponent
        simp only [Bool.and_eq_true, Bool.or_eq_true, beq_iff_eq] at hexponent
        exact hexponent.1.1
      · cases h

/-- A decimal number is read by its parts. Without digits behind the point there is none. -/
theorem readDecimal_parts {whole point fraction exponent : List Char} {e : Int}
    (hwhole : ∀ c ∈ whole, c.isDigit = true) (hfraction : ∀ c ∈ fraction, c.isDigit = true)
    (hpoint : point = [] ∧ fraction = [] ∨ point = '.' :: fraction)
    (hexponent : readExponent exponent = some e) (hnonempty : whole ≠ [] ∨ fraction ≠ []) :
    readDecimal (whole ++ point ++ exponent) =
      some (.normal (whole ++ fraction) (e - fraction.length)) := by
  have hmark : ∀ c ∈ exponent.head?, c.isDigit = false ∧ c ≠ '.' := by
    intro c hc
    rcases head?_of_readExponent hexponent c hc with rfl | rfl <;> exact ⟨rfl, by decide⟩
  have hempty : (whole.isEmpty && fraction.isEmpty) = false := by
    rw [Bool.and_eq_false_iff, List.isEmpty_eq_false_iff, List.isEmpty_eq_false_iff]
    exact hnonempty
  unfold readDecimal
  rcases hpoint with ⟨rfl, rfl⟩ | rfl
  · rw [List.append_nil, takeWhile_run hwhole fun c hc => (hmark c hc).1,
      dropWhile_run hwhole fun c hc => (hmark c hc).1]
    have hwhole' : whole.isEmpty = false := by
      simpa using hempty
    cases exponent with
    | nil => simp [hexponent, hwhole']
    | cons c rest =>
        rcases head?_of_readExponent hexponent c rfl with rfl | rfl <;> simp [hexponent, hwhole']
  · have hnumber : ∀ c ∈ ('.' :: fraction ++ exponent).head?, c.isDigit = false := by
      intro c hc
      cases hc
      rfl
    rw [List.append_assoc, takeWhile_run hwhole hnumber, dropWhile_run hwhole hnumber]
    simp only [List.cons_append, takeWhile_run hfraction fun c hc => (hmark c hc).1,
      dropWhile_run hfraction fun c hc => (hmark c hc).1, hexponent, Option.bind_eq_bind,
      Option.bind_some, hempty]
    rfl

/-- A decimal number that begins with a digit or a point is neither signed nor one of the
words that denote infinity or no number. -/
theorem readFloat_of_readDecimal {c : Char} {rest : List Char} {d : Decimal}
    (hc : c.isDigit = true ∨ c = '.') (h : readDecimal (c :: rest) = some d) :
    readFloat (c :: rest) = .ok d.toFloat := by
  have hsign : splitSign (c :: rest) = (false, c :: rest) := by
    rcases hc with hdigit | rfl
    · exact splitSign_digit hdigit rest
    · rfl
  have hlower : c.toLower = c := by
    rcases hc with hdigit | rfl
    · exact toLower_of_isDigit hdigit
    · rfl
  have hword : ∀ (first : Char) (word : List Char), first.isDigit = false → first ≠ '.' →
      (c :: rest).map Char.toLower ≠ first :: word := by
    intro first word hdigit hpoint heq
    rw [List.map_cons, hlower] at heq
    rw [← (List.cons.inj heq).1] at hdigit hpoint
    rcases hc with hc | hc
    · rw [hc] at hdigit
      cases hdigit
    · exact hpoint hc
  have hinf : ¬((c :: rest).map Char.toLower = "inf".toList ∨
      (c :: rest).map Char.toLower = "infinity".toList) :=
    not_or.mpr ⟨hword 'i' ['n', 'f'] rfl (by decide),
      hword 'i' ['n', 'f', 'i', 'n', 'i', 't', 'y'] rfl (by decide)⟩
  have hnan : (c :: rest).map Char.toLower ≠ "nan".toList := hword 'n' ['a', 'n'] rfl (by decide)
  unfold readFloat
  rw [if_neg (by simp), hsign]
  simp only [readUnsignedFloat, h]
  rw [if_neg hinf, if_neg hnan]
  rfl

namespace Numeral

variable {n : Numeral}

theorem readExponent_exponentText (n : Numeral) :
    readExponent n.exponentText = some (n.exponent.getD 0) := by
  unfold exponentText
  cases hexponent : n.exponent with
  | none => rfl
  | some e =>
      have hdigits := toDigits_all e.natAbs
      have hnonempty : Nat.toDigits 10 e.natAbs ≠ [] := Nat.toDigits_ne_nil
      by_cases hneg : e < 0
      · have hvalue : -(e.natAbs : Int) = e := by omega
        change readExponent ('e' :: ((if e < 0 then ['-'] else []) ++ _)) = some e
        rw [if_pos hneg]
        have hsplit : splitSign (['-'] ++ Nat.toDigits 10 e.natAbs) =
            (true, Nat.toDigits 10 e.natAbs) := rfl
        refine (readExponent_of_split rfl hsplit hnonempty hdigits).trans ?_
        rw [if_pos rfl, natOfDigits_toDigits, hvalue]
      · have hvalue : (e.natAbs : Int) = e := by omega
        have hsplit : splitSign (Nat.toDigits 10 e.natAbs) = (false, Nat.toDigits 10 e.natAbs) := by
          obtain ⟨c, rest, hcons⟩ := List.exists_cons_of_ne_nil hnonempty
          rw [hcons]
          exact splitSign_digit (hdigits c (by rw [hcons]; exact List.mem_cons_self)) rest
        change readExponent ('e' :: ((if e < 0 then ['-'] else []) ++ _)) = some e
        rw [if_neg hneg]
        refine (readExponent_of_split rfl hsplit hnonempty hdigits).trans ?_
        rw [if_neg (by simp), natOfDigits_toDigits, hvalue]

theorem readDecimal_text (h : n.WellFormed) : readDecimal n.text = some n.decimal := by
  have hpoint : n.fractionText = [] ∧ n.fraction = [] ∨ n.fractionText = '.' :: n.fraction := by
    unfold fractionText
    cases n.fraction with
    | nil => exact .inl ⟨rfl, rfl⟩
    | cons c rest => exact .inr rfl
  exact readDecimal_parts h.whole h.fraction hpoint (readExponent_exponentText n) (.inl h.nonempty)

theorem exists_text_cons (h : n.WellFormed) :
    ∃ (c : Char) (rest : List Char), c.isDigit = true ∧ n.text = c :: rest := by
  obtain ⟨c, rest, hcons⟩ := List.exists_cons_of_ne_nil h.nonempty
  refine ⟨c, rest ++ n.fractionText ++ n.exponentText, ?_, ?_⟩
  · exact h.whole c (by rw [hcons]; exact List.mem_cons_self)
  · simp [text, hcons]

theorem readFloat_text (h : n.WellFormed) : readFloat n.text = .ok n.decimal.toFloat := by
  have hdecimal := readDecimal_text h
  obtain ⟨c, rest, hdigit, htext⟩ := exists_text_cons h
  rw [htext] at hdecimal ⊢
  exact readFloat_of_readDecimal (.inl hdigit) hdecimal

end Numeral

theorem normal_behind_zeros {digits : List Char} (h : Decimal.Trimmed digits) (k : Nat)
    (exponent : Int) :
    Decimal.normal (List.replicate k '0' ++ digits) exponent = ⟨digits, exponent⟩ := by
  have := Decimal.normal_padded h k 0 exponent
  simpa using this

theorem normal_before_zeros {digits : List Char} (h : Decimal.Trimmed digits) (k : Nat)
    (exponent : Int) :
    Decimal.normal (digits ++ List.replicate k '0') exponent = ⟨digits, exponent + k⟩ := by
  have := Decimal.normal_padded h 0 k exponent
  simpa using this

theorem isDigit_of_mem_zeros {k : Nat} {c : Char} (h : c ∈ zeros k) : c.isDigit = true := by
  rw [List.eq_of_mem_replicate h]
  rfl

section Points

variable {digits : List Char} {whole : Int}

/-- All digits stand behind the point. -/
theorem exists_numeral_behindPoint (h : Decimal.Trimmed digits) (hsmall : whole ≤ 0) :
    ∃ n : Numeral, n.WellFormed ∧ '0' :: '.' :: (zeros whole.natAbs ++ digits) = n.text ∧
      n.decimal = ⟨digits, whole - digits.length⟩ ∧ n.fractional = true := by
  have hdigits : ∀ c ∈ zeros whole.natAbs ++ digits, c.isDigit = true := by
    intro c hc
    rcases List.mem_append.mp hc with hzero | hdigit
    · exact isDigit_of_mem_zeros hzero
    · exact h.digits c hdigit
  have hnormal := normal_behind_zeros h (whole.natAbs + 1)
    (0 - ((whole.natAbs + digits.length : Nat) : Int))
  have hexponent : (0 : Int) - ((whole.natAbs + digits.length : Nat) : Int) =
      whole - digits.length := by omega
  rw [hexponent, List.replicate_succ] at hnormal
  refine ⟨⟨['0'], zeros whole.natAbs ++ digits, none⟩, ⟨by simp, by simp, hdigits⟩, ?_, ?_, ?_⟩
  · simp [Numeral.text, Numeral.fractionText, Numeral.exponentText, h.nonempty]
  · unfold Numeral.decimal
    rw [← hnormal, ← hexponent]
    simp [zeros]
  · simp [Numeral.fractional, h.nonempty]

/-- All digits stand before the point, which may be left out. -/
theorem exists_numeral_beforePoint (pointed : Bool) (h : Decimal.Trimmed digits)
    (hlong : digits.length ≤ whole.toNat) (hlarge : ¬whole ≤ 0) :
    ∃ n : Numeral, n.WellFormed ∧
      digits ++ zeros (whole.toNat - digits.length) ++ (if pointed then ['.', '0'] else []) = n.text ∧
      n.decimal = ⟨digits, whole - digits.length⟩ ∧ (pointed = true → n.fractional = true) := by
  have hwhole : ∀ c ∈ digits ++ zeros (whole.toNat - digits.length), c.isDigit = true := by
    intro c hc
    rcases List.mem_append.mp hc with hdigit | hzero
    · exact h.digits c hdigit
    · exact isDigit_of_mem_zeros hzero
  have hnonempty : digits ++ zeros (whole.toNat - digits.length) ≠ [] := by
    simp [h.nonempty]
  cases pointed with
  | true =>
      have hnormal := normal_before_zeros h (whole.toNat - digits.length + 1) (0 - 1)
      have hexponent : (0 : Int) - 1 + ((whole.toNat - digits.length + 1 : Nat) : Int) =
          whole - digits.length := by omega
      rw [hexponent, List.replicate_succ'] at hnormal
      refine ⟨⟨digits ++ zeros (whole.toNat - digits.length), ['0'], none⟩,
        ⟨hnonempty, hwhole, by simp⟩, ?_, ?_, by simp [Numeral.fractional]⟩
      · simp [Numeral.text, Numeral.fractionText, Numeral.exponentText]
      · unfold Numeral.decimal
        rw [← hnormal]
        simp [zeros]
  | false =>
      have hnormal := normal_before_zeros h (whole.toNat - digits.length) 0
      have hexponent : (0 : Int) + ((whole.toNat - digits.length : Nat) : Int) =
          whole - digits.length := by omega
      rw [hexponent] at hnormal
      refine ⟨⟨digits ++ zeros (whole.toNat - digits.length), [], none⟩,
        ⟨hnonempty, hwhole, by simp⟩, ?_, ?_, by simp⟩
      · simp [Numeral.text, Numeral.fractionText, Numeral.exponentText]
      · unfold Numeral.decimal
        rw [← hnormal]
        simp [zeros]

/-- The point stands among the digits. -/
theorem exists_numeral_aroundPoint (h : Decimal.Trimmed digits) (hlarge : ¬whole ≤ 0)
    (hlong : ¬digits.length ≤ whole.toNat) :
    ∃ n : Numeral, n.WellFormed ∧
      digits.take whole.toNat ++ '.' :: digits.drop whole.toNat = n.text ∧
      n.decimal = ⟨digits, whole - digits.length⟩ ∧ n.fractional = true := by
  have hbefore : digits.take whole.toNat ≠ [] := by
    apply List.ne_nil_of_length_pos
    rw [List.length_take]
    omega
  have hbehind : (digits.drop whole.toNat).isEmpty = false := by
    rw [List.isEmpty_eq_false_iff]
    apply List.ne_nil_of_length_pos
    rw [List.length_drop]
    omega
  have hnormal := normal_behind_zeros h 0 (whole - digits.length)
  have hexponent : (0 : Int) - ((digits.length - whole.toNat : Nat) : Int) =
      whole - digits.length := by omega
  refine ⟨⟨digits.take whole.toNat, digits.drop whole.toNat, none⟩,
    ⟨hbefore, fun c hc => h.digits c (List.mem_of_mem_take hc),
      fun c hc => h.digits c (List.mem_of_mem_drop hc)⟩, ?_, ?_, ?_⟩
  · simp [Numeral.text, Numeral.fractionText, Numeral.exponentText, hbehind]
  · unfold Numeral.decimal
    simpa [hexponent] using hnormal
  · simp [Numeral.fractional, hbehind]

/-- Digits with a point placed among them, or behind them, make up a numeral. -/
theorem exists_numeral_placePoint (pointed : Bool) (h : Decimal.Trimmed digits) (whole : Int) :
    ∃ n : Numeral, n.WellFormed ∧ placePoint pointed digits whole = n.text ∧
      n.decimal = ⟨digits, whole - digits.length⟩ ∧ (pointed = true → n.fractional = true) := by
  unfold placePoint
  by_cases hsmall : whole ≤ 0
  · obtain ⟨n, hn, htext, hdecimal, hfractional⟩ := exists_numeral_behindPoint h hsmall
    rw [if_pos hsmall]
    exact ⟨n, hn, htext, hdecimal, fun _ => hfractional⟩
  · rw [if_neg hsmall]
    by_cases hlong : digits.length ≤ whole.toNat
    · rw [if_pos hlong]
      exact exists_numeral_beforePoint pointed h hlong hsmall
    · obtain ⟨n, hn, htext, hdecimal, hfractional⟩ := exists_numeral_aroundPoint h hsmall hlong
      rw [if_neg hlong]
      exact ⟨n, hn, htext, hdecimal, fun _ => hfractional⟩

end Points

/-- Digits with an exponent make up a numeral. -/
theorem exists_numeral_placeExponent {digits : List Char} (h : Decimal.Trimmed digits)
    (leading : Int) :
    ∃ n : Numeral, n.WellFormed ∧ placeExponent false digits leading = n.text ∧
      n.decimal = ⟨digits, leading - digits.length + 1⟩ ∧ n.fractional = true := by
  have hnormal := normal_behind_zeros h 0 (leading - digits.length + 1)
  have hdigits := h.digits
  have hnonempty := h.nonempty
  match digits with
  | [] => exact absurd rfl hnonempty
  | [first] =>
      refine ⟨⟨[first], [], some leading⟩, ⟨by simp, hdigits, by simp⟩, ?_, ?_, rfl⟩
      · simp [placeExponent, Numeral.text, Numeral.fractionText, Numeral.exponentText]
      · rw [← hnormal]
        simp [Numeral.decimal]
  | first :: second :: rest =>
      refine ⟨⟨[first], second :: rest, some leading⟩,
        ⟨by simp, ?_, fun c hc => hdigits c (List.mem_cons_of_mem _ hc)⟩, ?_, ?_, rfl⟩
      · intro c hc
        exact hdigits c (by rw [List.mem_singleton.mp hc]; exact List.mem_cons_self)
      · simp [placeExponent, Numeral.text, Numeral.fractionText, Numeral.exponentText]
      · have hexponent : leading - ((second :: rest).length : Int) =
            leading - ((first :: second :: rest).length : Int) + 1 := by
          push_cast [List.length_cons]
          omega
        rw [← hnormal, ← hexponent]
        simp [Numeral.decimal]

/-- A layout without plus signs writes a decimal number in normal form as a numeral of
the same decimal number. -/
theorem exists_numeral {layout : Layout} (hsigned : layout.signed = false) {d : Decimal}
    (h : d.IsNormal) :
    ∃ n : Numeral, n.WellFormed ∧ layout.decimal d = n.text ∧ n.decimal = d ∧
      (layout.pointed = true → n.fractional = true) := by
  unfold Layout.decimal
  rcases h with hzero | htrimmed
  · rw [hzero]
    cases hpointed : layout.pointed with
    | true => exact ⟨⟨['0'], ['0'], none⟩, ⟨by simp, by simp, by simp⟩, rfl, rfl, fun _ => rfl⟩
    | false => exact ⟨⟨['0'], [], none⟩, ⟨by simp, by simp, by simp⟩, rfl, rfl, by simp⟩
  · have hdigits : d.digits.isEmpty = false := by
      simpa using htrimmed.nonempty
    rw [hdigits, if_neg (by simp)]
    by_cases hpositional : layout.positional d.leading = true
    · rw [if_pos hpositional]
      obtain ⟨n, hn, htext, hdecimal, hpoint⟩ :=
        exists_numeral_placePoint layout.pointed htrimmed (d.leading + 1)
      have hexponent : d.leading + 1 - d.digits.length = d.exponent := by
        unfold Decimal.leading
        omega
      rw [hexponent] at hdecimal
      exact ⟨n, hn, htext, hdecimal, hpoint⟩
    · rw [if_neg hpositional, hsigned]
      obtain ⟨n, hn, htext, hdecimal, hpoint⟩ := exists_numeral_placeExponent htrimmed d.leading
      have hexponent : d.leading - d.digits.length + 1 = d.exponent := by
        unfold Decimal.leading
        omega
      rw [hexponent] at hdecimal
      exact ⟨n, hn, htext, hdecimal, fun _ => hpoint⟩

/-- The digits of a finite number, laid out without a sign, make up a numeral that reads back
as the magnitude of the number. -/
theorem exists_numeral_shortest {layout : Layout} (hsigned : layout.signed = false) {x : Float}
    (h : x.isFinite = true) :
    ∃ n : Numeral, n.WellFormed ∧ layout.decimal (shortest layout.tie x) = n.text ∧
      readFloat n.text = .ok x.abs ∧ (layout.pointed = true → n.fractional = true) := by
  obtain ⟨n, hn, htext, hdecimal, hpoint⟩ :=
    exists_numeral hsigned (isNormal_shortest layout.tie x)
  refine ⟨n, hn, htext, ?_, hpoint⟩
  rw [Numeral.readFloat_text hn, hdecimal, toFloat_shortest layout.tie h]

theorem not_isNaN_of_isFinite {x : Float} (h : x.isFinite = true) :
    x.isNaN = false ∧ x.isInf = false := by
  have hparts := finiteParts_unpack h
  change x.toModel.unpack.isNaN = false ∧ x.toModel.unpack.isInf = false
  generalize x.toModel.unpack = u at hparts
  cases hparts with
  | zero s => exact ⟨rfl, rfl⟩
  | finite s h => exact ⟨rfl, rfl⟩

end GeoFilter.Number
