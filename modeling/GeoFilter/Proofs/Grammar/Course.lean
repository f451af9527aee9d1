import GeoFilter.Grammar

/-!
The course of a production on any tokens at all. It consumes tokens from the front and leaves
the depth counter where it was, or it fails at a token of the list: at the one that its fault
names, or at the number that does not convert. Whether it succeeds or fails, the counter is never
below where it started. It can only run out of levels where it was given no more levels than
tokens: whatever goes one level further in has consumed a token before.
-/

namespace GeoFilter

open Grammar

/-- The token that a fault names. -/
def Fault.found? : Fault → Option TokenKind
  | .unexpected found _ => some found
  | .trailing found => some found
  | .chainedComparison found => some found
  | _ => none

/-- A fault that names no token and lies neither in a number nor in the depth nor in a
parenthesis. -/
def Fault.Bare : Fault → Prop
  | .unexpected _ _ => False
  | .trailing _ => False
  | .chainedComparison _ => False
  | .invalidNumber _ _ => False
  | .integerOutOfRange _ _ => False
  | .invalidCoordinate _ _ => False
  | .tooDeep _ _ => False
  | .unclosed => False
  | _ => True

theorem Fault.Bare.found? {fault : Fault} (h : fault.Bare) : fault.found? = none := by
  cases fault <;> first | rfl | exact h.elim

theorem Fault.Bare.cause? {fault : Fault} (h : fault.Bare) : fault.cause? = none := by
  cases fault <;> first | rfl | exact h.elim

theorem Fault.Bare.ne_tooDeep {fault : Fault} (h : fault.Bare) (depth : Depth) (limit : Nat) :
    fault ≠ .tooDeep depth limit := by
  rintro rfl
  exact h

theorem Fault.Bare.ne_unclosed {fault : Fault} (h : fault.Bare) : fault ≠ .unclosed := by
  rintro rfl
  exact h

/-- A fault that the conversion of a number finds, to a literal or to an ordinate. -/
def Fault.InNumber (digits : String) (fault : Fault) : Prop :=
  ∃ negative, Check.numberLiteral negative digits = .error fault ∨
    Check.ordinate negative digits = .error fault

/-- A conversion that fails has its own fault behind that of the number. -/
theorem Fault.InNumber.cause {digits : String} {fault : Fault} (h : fault.InNumber digits) :
    ∃ cause, fault.cause? = some cause := by
  obtain ⟨negative, hliteral | hordinate⟩ := h
  · unfold Check.numberLiteral at hliteral
    simp only at hliteral
    split at hliteral <;> split at hliteral <;> cases hliteral <;> exact ⟨_, rfl⟩
  · unfold Check.ordinate at hordinate
    split at hordinate <;> cases hordinate
    exact ⟨_, rfl⟩

section Causes

variable {fault : Fault} {cause : Number.NumberFault}

theorem found?_of_cause? (h : fault.cause? = some cause) : fault.found? = none := by
  cases fault <;> first | rfl | cases h

theorem ne_tooDeep_of_cause? (h : fault.cause? = some cause) (depth : Depth) (limit : Nat) :
    fault ≠ .tooDeep depth limit := by
  rintro rfl
  cases h

theorem ne_unclosed_of_cause? (h : fault.cause? = some cause) : fault ≠ .unclosed := by
  rintro rfl
  cases h

end Causes

end GeoFilter

namespace GeoFilter.Grammar

variable {d : Dialect} {α β : Type}

/-- A token that is seen in front is the first. -/
theorem exists_of_headD {kind : TokenKind} {rest : List TokenKind}
    (hkind : kind ≠ .endOfInput) (h : rest.headD .endOfInput = kind) :
    ∃ more, rest = kind :: more := by
  cases rest with
  | nil => exact absurd h.symm hkind
  | cons first more =>
      obtain rfl : first = kind := h
      exact ⟨more, rfl⟩

/-- A counter that is back where it was. In between it was never below that value, and not
above the limit. -/
structure Gauge.Restored (limit : Nat) (before after : Gauge) : Prop where
  level : after.level = before.level
  lowest : min before.lowest before.level ≤ after.lowest
  highest : after.highest ≤ max before.highest limit

/-- A counter that was never below where it stood before, and above the limit by one at most. It
is left where it stands, as by a reading that failed. -/
structure Gauge.Abandoned (limit : Nat) (before after : Gauge) : Prop where
  lowest : min before.lowest before.level ≤ after.lowest
  highest : after.highest ≤ max before.highest (limit + 1)

theorem Gauge.Restored.refl (limit : Nat) (gauge : Gauge) : gauge.Restored limit gauge :=
  ⟨rfl, Int.min_le_left _ _, Nat.le_max_left _ _⟩

theorem Gauge.Restored.trans {limit : Nat} {first second third : Gauge}
    (h : first.Restored limit second) (h' : second.Restored limit third) :
    first.Restored limit third := by
  obtain ⟨hlevel, hlowest, hhighest⟩ := h
  obtain ⟨hlevel', hlowest', hhighest'⟩ := h'
  exact ⟨by omega, by omega, by omega⟩

theorem Gauge.Abandoned.refl (limit : Nat) (gauge : Gauge) : gauge.Abandoned limit gauge :=
  ⟨Int.min_le_left _ _, Nat.le_max_left _ _⟩

/-- A reading that fails behind one that succeeded. -/
theorem Gauge.Restored.abandoned {limit : Nat} {first second third : Gauge}
    (h : first.Restored limit second) (h' : second.Abandoned limit third) :
    first.Abandoned limit third := by
  obtain ⟨hlevel, hlowest, hhighest⟩ := h
  obtain ⟨hlowest', hhighest'⟩ := h'
  exact ⟨by omega, by omega⟩

/-- A reading that fails one level further in. -/
theorem Gauge.Abandoned.nested {limit : Nat} {before after : Gauge} (hlevel : before.level ≤ limit)
    (h : before.rise.Abandoned limit after) : before.Abandoned limit after := by
  obtain ⟨hlowest, hhighest⟩ := h
  simp only [Gauge.rise] at hlowest hhighest
  exact ⟨by omega, by omega⟩

theorem Gauge.Restored.nested {limit : Nat} {before after : Gauge} (hroom : before.level < limit)
    (h : before.rise.Restored limit after) : before.Restored limit after.fall := by
  obtain ⟨hlevel, hlowest, hhighest⟩ := h
  simp only [Gauge.rise] at hlevel hlowest hhighest
  refine ⟨?_, ?_, ?_⟩ <;> simp only [Gauge.fall] <;> omega

/-- A failure that has its place among the tokens. A token that its fault names stands there,
and so does a number that does not convert; a fault for want of depth needs as many tokens as
there were levels. -/
structure Failure.Founded (tokens : List TokenKind) (room bound : Nat) (failure : Failure) :
    Prop where
  place : failure.place <:+ tokens
  found : ∀ found, failure.fault.found? = some found → found = failure.place.headD .endOfInput
  number : ∀ cause, failure.fault.cause? = some cause → ∃ digits,
    failure.place.headD .endOfInput = .number digits ∧ failure.fault.InNumber digits
  depth : ∀ depth limit, failure.fault = .tooDeep depth limit → room < bound

/-- What a production comes to that started on the rest of some tokens with a number of levels
left. The bound is no less than the number of tokens in the rest. -/
def Arrives (d : Dialect) (tokens : List TokenKind) (room bound : Nat) (rest : List TokenKind)
    (gauge : Gauge) (Q : α → Prop) : Except Failure (α × Cursor) → Prop
  | .ok (value, later) =>
      Q value ∧ later.rest <:+ rest ∧ gauge.Restored d.maxDepth later.gauge
  | .error failure =>
      failure.Founded tokens room bound ∧ gauge.Abandoned d.maxDepth failure.gauge

/-- A production whose values have the property `Q` keeps its course on the rest of the tokens. -/
def Proceeds (d : Dialect) (tokens : List TokenKind) (room bound : Nat) (p : Parse α)
    (rest : List TokenKind) (Q : α → Prop) : Prop :=
  rest <:+ tokens → rest.length ≤ bound →
    ∀ gauge : Gauge, gauge.level + room = d.maxDepth →
      Arrives d tokens room bound rest gauge Q (p ⟨rest, gauge⟩)

variable {tokens rest : List TokenKind} {room bound : Nat} {Q R : α → Prop} {S : β → Prop}

section Combinators

theorem Arrives.imp {gauge : Gauge} {result : Except Failure (α × Cursor)}
    (h : Arrives d tokens room bound rest gauge Q result) (himp : ∀ value, Q value → R value) :
    Arrives d tokens room bound rest gauge R result := by
  cases result with
  | ok found => exact ⟨himp _ h.1, h.2⟩
  | error failure => exact h

/-- Arriving from a rest that was left behind on the way. -/
theorem Arrives.trans {later : List TokenKind} {first second : Gauge}
    {result : Except Failure (α × Cursor)}
    (h : Arrives d tokens room bound later second Q result) (hlater : later <:+ rest)
    (hgauge : first.Restored d.maxDepth second) :
    Arrives d tokens room bound rest first Q result := by
  cases result with
  | ok found =>
      obtain ⟨hvalue, hrest, hrestored⟩ := h
      exact ⟨hvalue, hrest.trans hlater, hgauge.trans hrestored⟩
  | error failure => exact ⟨h.1, hgauge.abandoned h.2⟩

theorem Proceeds.imp {p : Parse α} (h : Proceeds d tokens room bound p rest Q)
    (himp : ∀ value, Q value → R value) : Proceeds d tokens room bound p rest R :=
  fun hsuffix hlength gauge hroom => (h hsuffix hlength gauge hroom).imp himp

theorem Proceeds.forget {p : Parse α} (h : Proceeds d tokens room bound p rest Q) :
    Proceeds d tokens room bound p rest (fun _ => True) :=
  h.imp fun _ _ => trivial

theorem proceeds_pure {value : α} (h : Q value) :
    Proceeds d tokens room bound (pure value) rest Q :=
  fun _ _ gauge _ => ⟨h, List.suffix_rfl, .refl _ gauge⟩

theorem proceeds_fail {fault : Fault} {place : Mark} (hplace : place <:+ tokens)
    (hfound : ∀ found, fault.found? = some found → found = place.headD .endOfInput)
    (hnumber : ∀ cause, fault.cause? = some cause → ∃ digits,
      place.headD .endOfInput = .number digits ∧ fault.InNumber digits)
    (hdepth : ∀ depth limit, fault ≠ .tooDeep depth limit) :
    Proceeds d tokens room bound (fail fault place : Parse α) rest Q :=
  fun _ _ gauge _ =>
    ⟨⟨hplace, hfound, hnumber, fun depth limit h => absurd h (hdepth depth limit)⟩, .refl _ gauge⟩

theorem proceeds_failBare {fault : Fault} {place : Mark} (h : fault.Bare)
    (hplace : place <:+ tokens) :
    Proceeds d tokens room bound (fail fault place : Parse α) rest Q :=
  proceeds_fail hplace (by simp [h.found?]) (by simp [h.cause?]) h.ne_tooDeep

theorem proceeds_unclosed {opening : Mark} (hopening : opening <:+ tokens) :
    Proceeds d tokens room bound (fail .unclosed opening : Parse α) rest Q :=
  proceeds_fail hopening (by simp [Fault.found?]) (by simp [Fault.cause?]) (by simp)

/-- A fault in the token at a place. -/
theorem proceeds_unexpected {found : TokenKind} {place : Mark}
    (hfound : found = place.headD .endOfInput) (hplace : place <:+ tokens)
    (expected : Expectation) :
    Proceeds d tokens room bound (unexpected found expected place : Parse α) rest Q := by
  apply proceeds_fail hplace
  · rintro other ⟨⟩
    exact hfound
  · rintro cause ⟨⟩
  · rintro depth limit ⟨⟩

/-- What comes behind a production starts on the tokens that it has left. -/
theorem Proceeds.bind {p : Parse α} {q : α → Parse β} (hp : Proceeds d tokens room bound p rest Q)
    (hq : ∀ value later, Q value → Proceeds d tokens room bound (q value) later S) :
    Proceeds d tokens room bound (p >>= q) rest S := by
  intro hsuffix hlength gauge hroom
  have hfirst := hp hsuffix hlength gauge hroom
  change Arrives d tokens room bound rest gauge S
    (p ⟨rest, gauge⟩ >>= fun found => q found.1 found.2)
  cases hresult : p ⟨rest, gauge⟩ with
  | error failure =>
      rw [hresult] at hfirst
      exact hfirst
  | ok found =>
      obtain ⟨value, later, middle⟩ := found
      rw [hresult] at hfirst
      obtain ⟨hvalue, hlater, hmiddle⟩ := hfirst
      have hlevel : middle.level + room = d.maxDepth := by rw [hmiddle.level]; exact hroom
      have hshort := Nat.le_trans hlater.length_le hlength
      have hsecond := hq value later hvalue (hlater.trans hsuffix) hshort middle hlevel
      exact hsecond.trans hlater hmiddle

theorem Proceeds.bind_fails {p : Parse α} {q : α → Parse β}
    (hp : Proceeds d tokens room bound p rest (fun _ => False)) :
    Proceeds d tokens room bound (p >>= q) rest S :=
  hp.bind fun _ _ h => h.elim

/-- The place of the next token is where the rest begins. -/
theorem Proceeds.after_mark {q : Mark → Parse β}
    (h : rest <:+ tokens → Proceeds d tokens room bound (q rest) rest S) :
    Proceeds d tokens room bound (mark >>= q) rest S :=
  fun hsuffix => h hsuffix hsuffix

theorem Proceeds.after_peek {q : TokenKind → Parse β}
    (h : Proceeds d tokens room bound (q (rest.headD .endOfInput)) rest S) :
    Proceeds d tokens room bound (peek >>= q) rest S :=
  h

theorem Proceeds.after_tokensLeft {q : Nat → Parse β}
    (h : Proceeds d tokens room bound (q rest.length) rest S) :
    Proceeds d tokens room bound (tokensLeft >>= q) rest S :=
  h

/-- A token that is not the end of input is consumed, so that there are fewer behind it. -/
theorem Proceeds.after_next {q : TokenKind → Parse β}
    (h : ∀ found later, found = rest.headD .endOfInput →
      (found ≠ .endOfInput → later.length < bound) →
      Proceeds d tokens room bound (q found) later S) :
    Proceeds d tokens room bound (next >>= q) rest S := by
  intro hsuffix hlength gauge hroom
  have hconsumed : rest.headD .endOfInput ≠ .endOfInput → rest.tail.length < bound := by
    cases rest with
    | nil => exact fun hend => absurd rfl hend
    | cons first others => exact fun _ => hlength
  have htail : rest.tail <:+ rest := List.tail_suffix rest
  exact (h _ _ rfl hconsumed (htail.trans hsuffix) (Nat.le_trans htail.length_le hlength) gauge
    hroom).trans htail (.refl _ gauge)

theorem Proceeds.after_accept {kind : TokenKind} {q : Bool → Parse β} (hkind : kind ≠ .endOfInput)
    (htrue : ∀ later, later.length < bound → Proceeds d tokens room bound (q true) later S)
    (hfalse : Proceeds d tokens room bound (q false) rest S) :
    Proceeds d tokens room bound (accept kind >>= q) rest S := by
  unfold accept
  rw [bind_assoc]
  apply Proceeds.after_peek
  split
  · rename_i hfound
    rw [bind_assoc]
    apply Proceeds.after_next
    intro found later heq hconsumed
    exact htrue later (hconsumed (by rw [heq, hfound]; exact hkind))
  · exact hfalse

theorem Proceeds.after_expect {kind : TokenKind} {expected : Expectation} {q : Mark → Parse β}
    (hkind : kind ≠ .endOfInput)
    (h : ∀ later, rest <:+ tokens → later.length < bound →
      Proceeds d tokens room bound (q rest) later S) :
    Proceeds d tokens room bound (expect kind expected >>= q) rest S := by
  unfold expect
  rw [bind_assoc]
  apply Proceeds.after_mark
  intro hrest
  rw [bind_assoc]
  apply Proceeds.after_next
  intro found later hfound hconsumed
  split
  · rename_i heq
    exact h later hrest (hconsumed (heq ▸ hkind))
  · exact (proceeds_unexpected hfound hrest expected).bind_fails

theorem proceeds_close {opening : Mark} (hopening : opening <:+ tokens) :
    Proceeds d tokens room bound (close opening) rest (fun _ => True) := by
  apply Proceeds.after_mark
  intro hrest
  apply Proceeds.after_next
  intro found later hfound _
  split
  · exact proceeds_pure trivial
  · exact proceeds_unclosed hopening
  · exact proceeds_unexpected hfound hrest _

theorem proceeds_finish : Proceeds d tokens room bound finish rest (fun _ => True) := by
  apply Proceeds.after_mark
  intro hrest
  apply Proceeds.after_next
  intro found later hfound _
  split
  · exact proceeds_pure trivial
  · apply proceeds_fail hrest
    · rintro other ⟨⟩
      exact hfound
    · rintro cause ⟨⟩
    · rintro depth limit ⟨⟩

/-- One level further in there is one level less, and one token less as well: whoever enters
it has consumed one. -/
theorem proceeds_nested {p : Parse α} {depth : Depth} {place : Mark} (hlength : rest.length < bound)
    (hplace : place <:+ tokens)
    (h : 0 < room → Proceeds d tokens (room - 1) (bound - 1) p rest Q) :
    Proceeds d tokens room bound (nested d depth place p) rest Q := by
  intro hsuffix _ gauge hroom
  change Arrives d tokens room bound rest gauge Q
    (enter d depth place ⟨rest, gauge⟩ >>= fun entered => p entered.2 >>= fun found =>
      .ok (found.1, { found.2 with gauge := found.2.gauge.fall }))
  by_cases hlevel : gauge.level < d.maxDepth
  · have hrisen : gauge.rise.level + (room - 1) = d.maxDepth := by
      simp only [Gauge.rise]
      omega
    have hp := h (by omega) hsuffix (by omega) gauge.rise hrisen
    rw [enter_of_lt hlevel]
    change Arrives d tokens room bound rest gauge Q (p ⟨rest, gauge.rise⟩ >>= fun found =>
      .ok (found.1, { found.2 with gauge := found.2.gauge.fall }))
    cases hresult : p ⟨rest, gauge.rise⟩ with
    | error failure =>
        rw [hresult] at hp
        obtain ⟨hfounded, habandoned⟩ := hp
        refine ⟨⟨hfounded.place, hfounded.found, hfounded.number, fun depth limit hdepth => ?_⟩,
          habandoned.nested (Nat.le_of_lt hlevel)⟩
        have hfew := hfounded.depth depth limit hdepth
        omega
    | ok found =>
        rw [hresult] at hp
        obtain ⟨hvalue, hrest, hrestored⟩ := hp
        exact ⟨hvalue, hrest, hrestored.nested hlevel⟩
  · rw [enter_of_not_lt hlevel]
    refine ⟨⟨hplace, ?_, ?_, fun _ _ _ => by omega⟩,
      Gauge.Abandoned.nested (by omega) (.refl _ _)⟩
    · rintro found ⟨⟩
    · rintro cause ⟨⟩

/-- The value that passes a check has the property, or the fault is a bare one. -/
def Check.Clears (Q : α → Prop) : Except Fault α → Prop
  | .ok value => Q value
  | .error fault => fault.Bare

theorem Check.Clears.bind {first : Except Fault α} {second : α → Except Fault β}
    (hfirst : Check.Clears Q first) (hsecond : ∀ value, Q value → Check.Clears S (second value)) :
    Check.Clears S (first >>= second) := by
  cases first with
  | ok value => exact hsecond value hfirst
  | error fault => exact hfirst

theorem proceeds_check {checked : Except Fault α} (h : Check.Clears Q checked) {place : Mark}
    (hplace : place <:+ tokens) : Proceeds d tokens room bound (check place checked) rest Q := by
  cases checked with
  | ok value => exact proceeds_pure h
  | error fault => exact proceeds_failBare h hplace

/-- The conversion of the number at a place can fail in that number only. -/
theorem proceeds_checkNumber {checked : Except Fault α} {digits : String} {place : Mark}
    (h : ∀ fault, checked = .error fault → fault.InNumber digits) (hplace : place <:+ tokens)
    (hdigits : place.headD .endOfInput = .number digits) :
    Proceeds d tokens room bound (check place checked) rest (fun _ => True) := by
  cases checked with
  | ok value => exact proceeds_pure trivial
  | error fault =>
      have hfault := h fault rfl
      obtain ⟨cause, hcause⟩ := hfault.cause
      exact proceeds_fail hplace (by simp [found?_of_cause? hcause])
        (fun _ _ => ⟨digits, hdigits, hfault⟩) (ne_tooDeep_of_cause? hcause)

theorem proceeds_checkNone {checked : Option Fault} (h : ∀ fault ∈ checked, fault.Bare)
    {place : Mark} (hplace : place <:+ tokens) :
    Proceeds d tokens room bound (checkNone place checked) rest (fun _ => True) := by
  cases checked with
  | none => exact proceeds_pure trivial
  | some fault => exact proceeds_failBare (h fault rfl) hplace

theorem proceeds_listRest {item : Parse α} {opening : Mark} (hopening : opening <:+ tokens)
    (h : ∀ later, Proceeds d tokens room bound item later Q) (count : Nat) :
    Proceeds d tokens room bound (listRest opening item count) rest
      (fun values => ∀ value ∈ values, Q value) := by
  induction count generalizing rest with
  | zero => exact proceeds_unclosed hopening
  | succ count ih =>
      apply Proceeds.after_mark
      intro hrest
      apply Proceeds.after_next
      intro found later hfound _
      split
      · apply (h later).bind
        intro value _ hvalue
        apply ih.bind
        intro values _ hvalues
        exact proceeds_pure (List.forall_mem_cons.mpr ⟨hvalue, hvalues⟩)
      · exact proceeds_pure (by simp)
      · exact proceeds_unclosed hopening
      · exact proceeds_unexpected hfound hrest _

/-- All items of a list have the property. -/
theorem proceeds_list {item : Parse α} {opening : Mark} (hopening : opening <:+ tokens)
    (h : ∀ later, Proceeds d tokens room bound item later Q) :
    Proceeds d tokens room bound (list opening item) rest
      (fun values => ∀ value ∈ values, Q value) := by
  apply (h rest).bind
  intro first _ hfirst
  apply Proceeds.after_tokensLeft
  apply (proceeds_listRest hopening h _).bind
  intro values _ hvalues
  exact proceeds_pure (List.forall_mem_cons.mpr ⟨hfirst, hvalues⟩)

end Combinators

section Runs

/-- A production keeps its course on a whole list of tokens, in front of which no level is
entered yet. -/
abbrev ProceedsOn (d : Dialect) (kinds : List TokenKind) (p : Parse α) (Q : α → Prop) : Prop :=
  Proceeds d kinds d.maxDepth (kinds.length + 1) p kinds Q

theorem ProceedsOn.arrives {kinds : List TokenKind} {p : Parse α} (h : ProceedsOn d kinds p Q) :
    Arrives d kinds d.maxDepth (kinds.length + 1) kinds (.resting 0) Q (p ⟨kinds, .resting 0⟩) :=
  h List.suffix_rfl (Nat.le_succ _) (.resting 0) (Nat.zero_add _)

theorem ProceedsOn.property {p : Parse α} {list : List Token}
    (h : ProceedsOn d (meaningfulKinds list) p Q) {value : α} (hvalue : runOn p list = .ok value) :
    Q value := by
  have hp := h.arrives
  obtain ⟨last, hresult⟩ := exists_of_runOn hvalue
  rw [hresult] at hp
  exact hp.1

/-- A run that fails reports a failure that is founded in the tokens. -/
theorem ProceedsOn.report {p : Parse α} {list : List Token}
    (h : ProceedsOn d (meaningfulKinds list) p Q) {error : CompileError}
    (herror : runOn p list = .error error) :
    ∃ (failure : Failure) (position : Option Position),
      failure.Founded (meaningfulKinds list) d.maxDepth ((meaningfulKinds list).length + 1) ∧
        error = .report failure.fault position := by
  have hp := h.arrives
  obtain ⟨failure, hresult, hreport⟩ := exists_failure_of_runOn herror
  rw [hresult] at hp
  exact ⟨failure, _, hp.1, hreport⟩

end Runs

end GeoFilter.Grammar
