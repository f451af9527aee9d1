import GeoFilter.Grammar.Cursor
import GeoFilter.Proofs.Grammar.Check

/-!
What productions promise on tokens that a text can contain: their values have a property,
the tokens behind what they consumed can still occur, and their faults can be named. Each
way to put productions together hands the promise on.
-/

namespace GeoFilter.Grammar

/-- Some of the tokens that a text can contain. -/
structure Vocabulary (d : Dialect) where
  holds : TokenKind → Prop
  occurs : ∀ kind, holds kind → kind.Occurs d

/-- All of them. -/
def Vocabulary.all (d : Dialect) : Vocabulary d where
  holds := TokenKind.Occurs d
  occurs := fun _ h => h

variable {d : Dialect} {K : Vocabulary d} {α β : Type}

/-- Tokens of a vocabulary. -/
def Occurring (K : Vocabulary d) (tokens : List TokenKind) : Prop :=
  ∀ kind ∈ tokens, K.holds kind

/-- A token that can be looked at: one of the text, or the end of input behind it. -/
def Visible (K : Vocabulary d) (kind : TokenKind) : Prop :=
  K.holds kind ∨ kind = .endOfInput

theorem Visible.holds {kind : TokenKind} (h : Visible K kind) (hkind : kind ≠ .endOfInput) :
    K.holds kind :=
  h.resolve_right hkind

theorem Visible.occurs {kind : TokenKind} (h : Visible K kind) (hkind : kind ≠ .endOfInput) :
    kind.Occurs d :=
  K.occurs kind (h.holds hkind)

theorem Visible.nameable {kind : TokenKind} (h : Visible K kind) : kind.Nameable := by
  rcases h with h | rfl
  · exact (K.occurs kind h).nameable
  · trivial

/-- A production whose values have the property `Q`. -/
def Yields (K : Vocabulary d) (p : Parse α) (Q : α → Prop) : Prop :=
  ∀ cursor : Cursor, Occurring K cursor.rest →
    match p cursor with
    | .ok (value, later) => Q value ∧ Occurring K later.rest
    | .error failure => failure.fault.Nameable

section Combinators

variable {Q R : α → Prop} {S : β → Prop}

theorem Yields.imp {p : Parse α} (h : Yields K p Q) (himp : ∀ value, Q value → R value) :
    Yields K p R := by
  intro cursor hcursor
  have hp := h cursor hcursor
  cases hresult : p cursor with
  | ok found =>
      rw [hresult] at hp
      exact ⟨himp _ hp.1, hp.2⟩
  | error failure =>
      rw [hresult] at hp
      exact hp

theorem yields_pure {value : α} (h : Q value) : Yields K (pure value) Q :=
  fun _ hcursor => ⟨h, hcursor⟩

theorem yields_fail {fault : Fault} {place : Mark} (h : fault.Nameable) :
    Yields K (fail fault place : Parse α) Q :=
  fun _ _ => h

theorem Yields.bind {p : Parse α} {q : α → Parse β} (hp : Yields K p Q)
    (hq : ∀ value, Q value → Yields K (q value) S) : Yields K (p >>= q) S := by
  intro cursor hcursor
  have hfirst := hp cursor hcursor
  change match (p cursor >>= fun found => q found.1 found.2) with
    | .ok (value, later) => S value ∧ Occurring K later.rest
    | .error failure => failure.fault.Nameable
  cases hresult : p cursor with
  | ok found =>
      rw [hresult] at hfirst
      exact hq found.1 hfirst.1 found.2 hfirst.2
  | error failure =>
      rw [hresult] at hfirst
      exact hfirst

theorem yields_mark : Yields K mark (fun _ => True) :=
  fun _ hcursor => ⟨trivial, hcursor⟩

theorem yields_tokensLeft : Yields K tokensLeft (fun _ => True) :=
  fun _ hcursor => ⟨trivial, hcursor⟩

theorem visible_head {tokens : List TokenKind} (h : Occurring K tokens) :
    Visible K (tokens.headD .endOfInput) := by
  cases tokens with
  | nil => exact .inr rfl
  | cons first rest => exact .inl (h first List.mem_cons_self)

theorem occurring_tail {tokens : List TokenKind} (h : Occurring K tokens) :
    Occurring K tokens.tail :=
  fun kind hkind => h kind (List.mem_of_mem_tail hkind)

theorem yields_peek : Yields K peek (Visible K) :=
  fun _ hcursor => ⟨visible_head hcursor, hcursor⟩

theorem yields_next : Yields K next (Visible K) :=
  fun _ hcursor => ⟨visible_head hcursor, occurring_tail hcursor⟩

theorem yields_accept (kind : TokenKind) : Yields K (accept kind) (fun _ => True) := by
  apply yields_peek.bind
  intro found _
  split
  · apply yields_next.bind
    intro _ _
    exact yields_pure trivial
  · exact yields_pure trivial

theorem yields_unexpected {found : TokenKind} (h : Visible K found) (expected : Expectation)
    (place : Mark) : Yields K (unexpected found expected place : Parse α) Q :=
  yields_fail h.nameable

theorem yields_expect (kind : TokenKind) (expected : Expectation) :
    Yields K (expect kind expected) (fun _ => True) := by
  apply yields_mark.bind
  intro here _
  apply yields_next.bind
  intro found hfound
  split
  · exact yields_pure trivial
  · exact yields_unexpected hfound expected here

theorem yields_close (opening : Mark) : Yields K (close opening) (fun _ => True) := by
  apply yields_mark.bind
  intro here _
  apply yields_next.bind
  intro found hfound
  split
  · exact yields_pure trivial
  · exact yields_fail trivial
  · exact yields_unexpected hfound _ here

theorem yields_finish : Yields K finish (fun _ => True) := by
  apply yields_mark.bind
  intro here _
  apply yields_next.bind
  intro found hfound
  split
  · exact yields_pure trivial
  · exact yields_fail hfound.nameable

theorem yields_nested {p : Parse α} (h : Yields K p Q) (depth : Depth) (place : Mark) :
    Yields K (nested d depth place p) Q := by
  have henter : Yields K (enter d depth place) (fun _ => True) := by
    intro cursor hcursor
    by_cases hroom : cursor.gauge.level < d.maxDepth
    · rw [enter_of_lt hroom]
      exact ⟨trivial, hcursor⟩
    · rw [enter_of_not_lt hroom]
      trivial
  have hleave : Yields K leave (fun _ => True) := fun _ hcursor => ⟨trivial, hcursor⟩
  apply henter.bind
  intro _ _
  apply h.bind
  intro value hvalue
  apply hleave.bind
  intro _ _
  exact yields_pure hvalue

theorem yields_check {checked : Except Fault α} (h : Check.Establishes Q checked)
    (place : Mark) : Yields K (check place checked) Q := by
  cases checked with
  | ok value => exact yields_pure h
  | error fault => exact yields_fail h

theorem yields_checkNone {checked : Option Fault} (place : Mark)
    (h : ∀ fault, checked = some fault → fault.Nameable) :
    Yields K (checkNone place checked) (fun _ => checked = none) := by
  cases hchecked : checked with
  | none => exact yields_pure rfl
  | some fault => exact yields_fail (h fault hchecked)

theorem yields_listRest {item : Parse α} (h : Yields K item Q) (opening : Mark) (count : Nat) :
    Yields K (listRest opening item count) (fun values => ∀ value ∈ values, Q value) := by
  induction count with
  | zero => exact yields_fail trivial
  | succ count ih =>
      apply yields_mark.bind
      intro here _
      apply yields_next.bind
      intro found hfound
      split
      · apply h.bind
        intro value hvalue
        apply ih.bind
        intro rest hrest
        apply yields_pure
        intro other hother
        rcases List.mem_cons.mp hother with rfl | hmem
        · exact hvalue
        · exact hrest other hmem
      · exact yields_pure (by simp)
      · exact yields_fail trivial
      · exact yields_unexpected hfound _ here

/-- A list has at least one item, and all of its items have the property. -/
theorem yields_list {item : Parse α} (h : Yields K item Q) (opening : Mark) :
    Yields K (list opening item) (fun values => values ≠ [] ∧ ∀ value ∈ values, Q value) := by
  apply h.bind
  intro first hfirst
  apply yields_tokensLeft.bind
  intro count _
  apply (yields_listRest h opening count).bind
  intro rest hrest
  apply yields_pure
  refine ⟨by simp, ?_⟩
  intro value hvalue
  rcases List.mem_cons.mp hvalue with rfl | hmem
  · exact hfirst
  · exact hrest value hmem

end Combinators

end GeoFilter.Grammar
