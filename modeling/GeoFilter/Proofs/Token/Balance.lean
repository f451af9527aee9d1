import GeoFilter.Proofs.Writing

/-!
Balance of parentheses among tokens. Each parenthesis of balanced tokens has its partner, and an
opening one with nothing but balanced tokens behind it is the last that has none.
-/

namespace GeoFilter

def openings (kinds : List TokenKind) : Nat :=
  kinds.count (.punctuation .openParen)

def closings (kinds : List TokenKind) : Nat :=
  kinds.count (.punctuation .closeParen)

/-- Tokens of which no front closes more parentheses than it has opened, and that close all that
they open. -/
structure Balanced (kinds : List TokenKind) : Prop where
  within : ∀ front, front <+: kinds → closings front ≤ openings front
  closed : closings kinds = openings kinds

/-- The opening parenthesis at one index is closed by the parenthesis at another. -/
def ClosedAt (kinds : List TokenKind) (index closing : Nat) : Prop :=
  ∃ front inside behind,
    kinds = front ++ .punctuation .openParen :: (inside ++ .punctuation .closeParen :: behind) ∧
      Balanced inside ∧ index = front.length ∧ closing = index + 1 + inside.length

/-- The last opening parenthesis that is not closed. -/
structure LastUnclosed (kinds : List TokenKind) (index : Nat) : Prop where
  opening : kinds[index]? = some (.punctuation .openParen)
  unclosed : ∀ closing, ¬ClosedAt kinds index closing
  later : ∀ other, index < other → kinds[other]? = some (.punctuation .openParen) →
    ∃ closing, ClosedAt kinds other closing

def TokenKind.isParenthesis (kind : TokenKind) : Bool :=
  kind == .punctuation .openParen || kind == .punctuation .closeParen

variable {kinds a b : List TokenKind} {kind : TokenKind}

section Counts

theorem openings_append (a b : List TokenKind) : openings (a ++ b) = openings a + openings b :=
  List.count_append

theorem closings_append (a b : List TokenKind) : closings (a ++ b) = closings a + closings b :=
  List.count_append

theorem openings_cons (kind : TokenKind) (kinds : List TokenKind) :
    openings (kind :: kinds) = openings [kind] + openings kinds :=
  openings_append [kind] kinds

theorem closings_cons (kind : TokenKind) (kinds : List TokenKind) :
    closings (kind :: kinds) = closings [kind] + closings kinds :=
  closings_append [kind] kinds

theorem openings_of_not (h : kind.isParenthesis = false) : openings [kind] = 0 := by
  simp only [TokenKind.isParenthesis, Bool.or_eq_false_iff] at h
  simp [openings, List.count_cons, h.1]

theorem closings_of_not (h : kind.isParenthesis = false) : closings [kind] = 0 := by
  simp only [TokenKind.isParenthesis, Bool.or_eq_false_iff] at h
  simp [closings, List.count_cons, h.2]

/-- No front of the tokens closes more parentheses than it has opened and some further ones. -/
def Covered (depth : Nat) (kinds : List TokenKind) : Prop :=
  ∀ front, front <+: kinds → closings front ≤ openings front + depth

theorem covered_nil (depth : Nat) : Covered depth [] := by
  intro front hfront
  rw [List.prefix_nil.mp hfront]
  exact Nat.zero_le _

theorem Covered.cons {depth after : Nat} (h : Covered after kinds)
    (hkind : closings [kind] + after ≤ openings [kind] + depth) :
    Covered depth (kind :: kinds) := by
  intro front hfront
  rcases List.prefix_cons_iff.mp hfront with rfl | ⟨more, rfl, hmore⟩
  · exact Nat.zero_le _
  · have hcovered := h more hmore
    rw [closings_cons, openings_cons]
    omega

theorem Covered.append {depth after : Nat} (ha : Covered depth a) (hb : Covered after b)
    (hbetween : closings a + after ≤ openings a + depth) : Covered depth (a ++ b) := by
  induction a generalizing depth with
  | nil =>
      intro front hfront
      have hcovered := hb front hfront
      simp only [closings, openings, List.count_nil] at hbetween
      omega
  | cons kind a ih =>
      have hkind := ha [kind] ⟨a, rfl⟩
      rw [closings_cons, openings_cons] at hbetween
      have hrest : Covered (openings [kind] + depth - closings [kind]) a := by
        intro front hfront
        have hcovered := ha (kind :: front) ((List.prefix_cons_inj kind).mpr hfront)
        rw [closings_cons, openings_cons] at hcovered
        omega
      exact (ih hrest (by omega)).cons (by omega)

end Counts

section Balance

theorem balanced_of_covered (h : Covered 0 kinds) (hclosed : closings kinds = openings kinds) :
    Balanced kinds :=
  ⟨h, hclosed⟩

theorem Balanced.covered (h : Balanced kinds) : Covered 0 kinds :=
  h.within

theorem balanced_nil : Balanced [] :=
  balanced_of_covered (covered_nil 0) rfl

theorem Balanced.append (ha : Balanced a) (hb : Balanced b) : Balanced (a ++ b) := by
  refine balanced_of_covered (ha.covered.append hb.covered ha.closed.le) ?_
  rw [closings_append, openings_append, ha.closed, hb.closed]

theorem balanced_singleton (h : kind.isParenthesis = false) : Balanced [kind] := by
  have hcloses := closings_of_not h
  have hopens := openings_of_not h
  exact balanced_of_covered ((covered_nil 0).cons (by omega)) (by omega)

theorem Balanced.enclosed (h : Balanced kinds) : Balanced (enclosed kinds) := by
  have hclosed : closings kinds + 1 = openings kinds + 1 := by rw [h.closed]
  have hinside : Covered 1 (kinds ++ [.punctuation .closeParen]) := by
    refine Covered.append (fun front hfront => ?_) (covered_nil 0 |>.cons le_rfl) hclosed.le
    exact (h.within front hfront).trans (Nat.le_succ _)
  refine balanced_of_covered (hinside.cons le_rfl) ?_
  rw [GeoFilter.enclosed, closings_cons, openings_cons, closings_append, openings_append]
  change 0 + (closings kinds + 1) = 1 + (openings kinds + 0)
  omega

/-- Tokens that close more than they open close a parenthesis in front of them at some place. The
depth is how many more they may close before. -/
theorem exists_closing (depth : Nat) (h : openings kinds + depth < closings kinds) :
    ∃ inside behind, kinds = inside ++ .punctuation .closeParen :: behind ∧
      Covered depth inside ∧ closings inside = openings inside + depth := by
  induction kinds generalizing depth with
  | nil => cases h
  | cons kind kinds ih =>
      rw [openings_cons, closings_cons] at h
      by_cases hcloses : closings [kind] ≤ openings [kind] + depth
      · obtain ⟨inside, behind, rfl, hcovered, hclosed⟩ :=
          ih (openings [kind] + depth - closings [kind]) (by omega)
        refine ⟨kind :: inside, behind, rfl, hcovered.cons (by omega), ?_⟩
        rw [closings_cons, openings_cons]
        omega
      · obtain rfl : kind = .punctuation .closeParen := by
          by_contra hkind
          have hnone : closings [kind] = 0 := by simp [closings, hkind]
          omega
        obtain rfl : depth = 0 := by
          change ¬1 ≤ 0 + depth at hcloses
          omega
        exact ⟨[], kinds, rfl, covered_nil 0, rfl⟩

/-- Every opening parenthesis of balanced tokens is closed. -/
theorem Balanced.exists_closed (h : Balanced (a ++ .punctuation .openParen :: b)) :
    ∃ inside behind, b = inside ++ .punctuation .closeParen :: behind ∧ Balanced inside := by
  have hfront := h.within a (List.prefix_append _ _)
  have hclosed := h.closed
  have hopens : openings [.punctuation .openParen] = 1 := rfl
  have hcloses : closings [.punctuation .openParen] = 0 := rfl
  rw [closings_append, openings_append, closings_cons, openings_cons, hopens, hcloses] at hclosed
  have hmore : openings b + 0 < closings b := by omega
  obtain ⟨inside, behind, hb, hcovered, hinside⟩ := exists_closing 0 hmore
  exact ⟨inside, behind, hb, balanced_of_covered hcovered hinside⟩

/-- In front of balanced tokens an opening parenthesis is not closed, but all others behind it
are. -/
theorem lastUnclosed_of_balanced {front inside : List TokenKind} (h : Balanced inside) :
    LastUnclosed (front ++ .punctuation .openParen :: inside) front.length where
  opening := by simp
  unclosed := by
    rintro closing ⟨front', before, behind, hsplit, hbefore, hlength, -⟩
    obtain ⟨rfl, hrest⟩ := List.append_inj hsplit hlength
    obtain rfl := (List.cons.inj hrest).2
    have hmore := h.within (before ++ [.punctuation .closeParen]) ⟨behind, by simp⟩
    have hcloses : closings [.punctuation .closeParen] = 1 := rfl
    have hopens : openings [.punctuation .closeParen] = 0 := rfl
    rw [closings_append, openings_append, hbefore.closed] at hmore
    omega
  later := by
    intro other hlater hother
    obtain ⟨offset, rfl⟩ := Nat.exists_eq_add_of_lt hlater
    rw [List.getElem?_append_right (by omega), Nat.add_assoc, Nat.add_sub_cancel_left,
      List.getElem?_cons_succ] at hother
    obtain ⟨hoffset, hfound⟩ := List.getElem?_eq_some_iff.mp hother
    have hsplit : inside =
        inside.take offset ++ .punctuation .openParen :: inside.drop (offset + 1) := by
      rw [← hfound, ← List.drop_eq_getElem_cons, List.take_append_drop]
    have hopening := h
    rw [hsplit] at hopening
    obtain ⟨within, behind, hdrop, hwithin⟩ := hopening.exists_closed
    refine ⟨_, front ++ .punctuation .openParen :: inside.take offset, within, behind, ?_,
      hwithin, ?_, rfl⟩
    · rw [← hdrop, List.append_assoc, List.cons_append, ← hsplit]
    · simp only [List.length_append, List.length_cons, List.length_take]
      omega

end Balance

end GeoFilter
