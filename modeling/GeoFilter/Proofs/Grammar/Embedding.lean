import GeoFilter.Proofs.Grammar.Cutoff
import GeoFilter.Proofs.Grammar.ReadingExpression
import GeoFilter.Proofs.Grammar.Sufficient

/-!
Productions on the front of a longer list. What a production reads from some tokens it reads
from them as well when others come behind, and under any limit that leaves it as many levels.
Only where it has used up its own tokens does the first of the others matter: it has to be one
that the production does not go on with.
-/

namespace GeoFilter.Grammar

variable {d : Dialect} {limit : Nat} {tail rest : List TokenKind} {stops first : Prop}
  {α β : Type}

/-- A production that is never content with the end of input. -/
def Stuck (p : Parse α) : Prop :=
  ∀ gauge value later, p ⟨[], gauge⟩ ≠ .ok (value, later)

/-- Where one production succeeds on the rest of some tokens, the other one does the same in
front of the tail and with no fewer levels, provided that the condition holds if the rest is
used up. -/
def Carries (d : Dialect) (limit : Nat) (tail : List TokenKind) (stops : Prop)
    (rest : List TokenKind) (p p' : Parse α) : Prop :=
  ∀ (gauge gauge' : Gauge) (value : α) (later : Cursor),
    d.maxDepth - gauge.level ≤ limit - gauge'.level → p ⟨rest, gauge⟩ = .ok (value, later) →
      later.rest.length ≤ rest.length ∧ later.gauge.level = gauge.level ∧
        ((later.rest = [] → stops) → ∃ after : Gauge,
          p' ⟨rest ++ tail, gauge'⟩ = .ok (value, ⟨later.rest ++ tail, after⟩) ∧
            after.level = gauge'.level)

section Stuck

theorem stuck_fail (fault : Fault) (place : Mark) : Stuck (fail fault place : Parse α) :=
  fun _ _ _ h => nomatch h

theorem stuck_unexpected (found : TokenKind) (expected : Expectation) (place : Mark) :
    Stuck (unexpected found expected place : Parse α) :=
  fun _ _ _ h => nomatch h

/-- What is stuck at its first step is stuck. -/
theorem Stuck.bind {p : Parse α} (h : Stuck p) (q : α → Parse β) : Stuck (p >>= q) := by
  intro gauge value later hresult
  obtain ⟨found, middle, hfound, -⟩ := exists_of_bind hresult
  exact h gauge found middle hfound

theorem Stuck.after_mark {q : Mark → Parse β} (h : Stuck (q [])) : Stuck (mark >>= q) :=
  h

theorem Stuck.after_tokensLeft {q : Nat → Parse β} (h : Stuck (q 0)) : Stuck (tokensLeft >>= q) :=
  h

theorem Stuck.after_peek {q : TokenKind → Parse β} (h : Stuck (q .endOfInput)) :
    Stuck (peek >>= q) :=
  h

theorem Stuck.after_next {q : TokenKind → Parse β} (h : Stuck (q .endOfInput)) :
    Stuck (next >>= q) :=
  h

theorem Stuck.after_accept {kind : TokenKind} (hkind : kind ≠ .endOfInput) {q : Bool → Parse β}
    (h : Stuck (q false)) : Stuck (accept kind >>= q) := by
  intro gauge value later hresult
  have haccept : accept kind ⟨[], gauge⟩ = .ok (false, ⟨[], gauge⟩) := by
    change (if TokenKind.endOfInput = kind then _ else _ : Parse Bool) ⟨[], gauge⟩ = _
    rw [if_neg hkind.symm]
    rfl
  rw [bind_eq haccept] at hresult
  exact h gauge value later hresult

theorem stuck_expect {kind : TokenKind} (hkind : kind ≠ .endOfInput) (expected : Expectation) :
    Stuck (expect kind expected) := by
  apply Stuck.after_mark
  apply Stuck.after_next
  rw [if_neg hkind.symm]
  exact stuck_unexpected _ _ _

theorem stuck_expectKeyword (word : Keyword) : Stuck (expectKeyword word) :=
  stuck_expect (by simp) _

theorem stuck_expectPunctuation (symbol : Punctuation) : Stuck (expectPunctuation symbol) :=
  stuck_expect (by simp) _

theorem stuck_close (opening : Mark) : Stuck (close opening) :=
  Stuck.after_mark (Stuck.after_next (stuck_fail _ _))

theorem stuck_listRest (opening : Mark) (item : Parse α) (count : Nat) :
    Stuck (listRest opening item count) := by
  cases count with
  | zero => exact stuck_fail _ _
  | succ count => exact Stuck.after_mark (Stuck.after_next (stuck_fail _ _))

theorem stuck_list {item : Parse α} (h : Stuck item) (opening : Mark) : Stuck (list opening item) :=
  h.bind _

theorem stuck_nested {p : Parse α} (h : Stuck p) (depth : Depth) (place : Mark) :
    Stuck (nested d depth place p) := by
  intro gauge value last hresult
  obtain ⟨-, later, hinner, -⟩ := exists_of_nested hresult
  exact h _ value _ hinner

end Stuck

section Combinators

variable {p p' : Parse α} {q q' : α → Parse β}

theorem Carries.weaken (h : Carries d limit tail first rest p p') (himp : stops → first) :
    Carries d limit tail stops rest p p' := by
  intro gauge gauge' value later hroom hresult
  obtain ⟨hlength, hlevel, hcarries⟩ := h gauge gauge' value later hroom hresult
  exact ⟨hlength, hlevel, fun hstops => hcarries fun hnil => himp (hstops hnil)⟩

theorem Stuck.carries (h : Stuck p) : Carries d limit tail stops [] p p' :=
  fun gauge _ value later _ hresult => absurd hresult (h gauge value later)

/-- Two productions one after the other. What the first asks of the tail is either granted or
of no account, since the second one needs more tokens. -/
theorem Carries.bind_of (hp : Carries d limit tail first rest p p')
    (hq : ∀ value more, more.length ≤ rest.length →
      Carries d limit tail stops more (q value) (q' value))
    (hfirst : ∀ value, Stuck (q value) ∨ (stops → first)) :
    Carries d limit tail stops rest (p >>= q) (p' >>= q') := by
  intro gauge gauge' value later hroom hresult
  obtain ⟨found, ⟨more, middle⟩, hfound, hvalue⟩ := exists_of_bind hresult
  obtain ⟨hlength, hlevel, hcarries⟩ := hp gauge gauge' found _ hroom hfound
  simp only at hlength hlevel hcarries
  have hmiddle : ∀ gauge'' : Gauge, gauge''.level = gauge'.level →
      d.maxDepth - middle.level ≤ limit - gauge''.level := by
    intro gauge'' hgauge
    rw [hgauge, hlevel]
    exact hroom
  have hsecond := hq found more hlength middle
  obtain ⟨hshorter, hback, -⟩ := hsecond gauge' value later (hmiddle gauge' rfl) hvalue
  refine ⟨hshorter.trans hlength, hback.trans hlevel, fun hstops => ?_⟩
  have hgranted : more = [] → first := by
    rintro rfl
    rcases hfirst found with hstuck | himp
    · exact absurd hvalue (hstuck middle value later)
    · exact himp (hstops (List.eq_nil_of_length_eq_zero (Nat.le_zero.mp hshorter)))
  obtain ⟨after, hafter, hsame⟩ := hcarries hgranted
  obtain ⟨last, hlast, hend⟩ := (hsecond after value later (hmiddle after hsame) hvalue).2.2 hstops
  exact ⟨last, (bind_eq hafter).trans hlast, hend.trans hsame⟩

theorem Carries.bind (hp : Carries d limit tail stops rest p p')
    (hq : ∀ value more, more.length ≤ rest.length →
      Carries d limit tail stops more (q value) (q' value)) :
    Carries d limit tail stops rest (p >>= q) (p' >>= q') :=
  hp.bind_of hq fun _ => .inr id

/-- A production with one behind it that needs more tokens. -/
theorem Carries.bind_stuck (hp : Carries d limit tail False rest p p')
    (hq : ∀ value more, Carries d limit tail stops more (q value) (q' value))
    (hstuck : ∀ value, Stuck (q value)) :
    Carries d limit tail stops rest (p >>= q) (p' >>= q') :=
  hp.bind_of (fun value more _ => hq value more) fun value => .inl (hstuck value)

theorem carries_pure (value : α) : Carries d limit tail stops rest (pure value) (pure value) := by
  rintro gauge gauge' _ _ _ ⟨⟩
  exact ⟨le_rfl, rfl, fun _ => ⟨gauge', rfl, rfl⟩⟩

/-- A production that is content with the end of input, beside one that is so with the tail. -/
theorem carries_ended {value : α} (hp : Reads d (fun _ => p) [] value [] .free)
    (hp' : stops → Reads (d.withDepth limit) (fun _ => p') tail value tail .free) :
    Carries d limit tail stops [] p p' := by
  intro gauge gauge' found later hroom hresult
  obtain ⟨back, hended, hlevel⟩ := hp.freely d.maxDepth gauge (Nat.sub_le _ _) (Nat.zero_le _)
  obtain ⟨rfl, rfl⟩ := Prod.mk.inj (Except.ok.inj (hresult.symm.trans hended))
  exact ⟨le_rfl, hlevel, fun hstops =>
    (hp' (hstops rfl)).freely limit gauge' (Nat.sub_le _ _) (Nat.zero_le _)⟩

/-- Where no token is left, the tail is known to be one to stop at. -/
theorem Carries.replace {p'' : Parse α} (h : Carries d limit tail stops [] p p')
    (hsame : stops → p'' = p') : Carries d limit tail stops [] p p'' := by
  intro gauge gauge' value later hroom hresult
  obtain ⟨hlength, hlevel, hcarries⟩ := h gauge gauge' value later hroom hresult
  refine ⟨hlength, hlevel, fun hstops => ?_⟩
  rw [hsame (hstops (List.eq_nil_of_length_eq_zero (Nat.le_zero.mp hlength)))]
  exact hcarries hstops

theorem carries_fail (fault : Fault) (place : Mark) :
    Carries d limit tail stops rest (fail fault place) p' :=
  fun _ _ _ _ _ hresult => nomatch hresult

theorem carries_unexpected (found : TokenKind) (expected : Expectation) (place : Mark) :
    Carries d limit tail stops rest (unexpected found expected place) p' :=
  carries_fail _ _

theorem carries_check (checked : Except Fault α) (place place' : Mark) :
    Carries d limit tail stops rest (check place checked) (check place' checked) := by
  cases checked with
  | ok value => exact carries_pure value
  | error fault => exact carries_fail _ _

theorem carries_checkNone (checked : Option Fault) (place place' : Mark) :
    Carries d limit tail stops rest (checkNone place checked) (checkNone place' checked) := by
  cases checked with
  | none => exact carries_pure ()
  | some fault => exact carries_fail _ _

/-- A mark is only looked at for the place of a fault. -/
theorem Carries.after_mark {q q' : Mark → Parse β}
    (h : ∀ here here', Carries d limit tail stops rest (q here) (q' here')) :
    Carries d limit tail stops rest (mark >>= q) (mark >>= q') :=
  h rest (rest ++ tail)

theorem Carries.after_tokensLeft {q q' : Nat → Parse β}
    (h : ∀ count, rest.length ≤ count →
      Carries d limit tail stops rest (q rest.length) (q' count)) :
    Carries d limit tail stops rest (tokensLeft >>= q) (tokensLeft >>= q') :=
  h (rest ++ tail).length (by simp)

theorem Carries.after_peek {q q' : TokenKind → Parse β}
    (hnil : rest = [] →
      Carries d limit tail stops [] (q .endOfInput) (q' (tail.headD .endOfInput)))
    (hcons : ∀ kind more, rest = kind :: more →
      Carries d limit tail stops (kind :: more) (q kind) (q' kind)) :
    Carries d limit tail stops rest (peek >>= q) (peek >>= q') := by
  cases rest with
  | nil => exact hnil rfl
  | cons kind more => exact hcons kind more rfl

theorem Carries.after_next_cons {q q' : TokenKind → Parse β} {kind : TokenKind}
    (h : Carries d limit tail stops rest (q kind) (q' kind)) :
    Carries d limit tail stops (kind :: rest) (next >>= q) (next >>= q') := by
  intro gauge gauge' value later hroom hresult
  obtain ⟨hlength, hlevel, hcarries⟩ := h gauge gauge' value later hroom hresult
  exact ⟨hlength.trans (Nat.le_succ _), hlevel, hcarries⟩

theorem Carries.after_next {q q' : TokenKind → Parse β} (hnil : Stuck (q .endOfInput))
    (hcons : ∀ kind more, rest = kind :: more →
      Carries d limit tail stops more (q kind) (q' kind)) :
    Carries d limit tail stops rest (next >>= q) (next >>= q') := by
  cases rest with
  | nil => exact hnil.after_next.carries
  | cons kind more => exact (hcons kind more rfl).after_next_cons

/-- At the end of input nothing is accepted. That the tail does not begin with the token either
matters unless more tokens are needed anyway. -/
theorem Carries.after_accept {kind : TokenKind} (hkind : kind ≠ .endOfInput)
    {q q' : Bool → Parse β} (hnil : Stuck (q false) ∨ (stops → tail.headD .endOfInput ≠ kind))
    (hfalse : Carries d limit tail stops rest (q false) (q' false))
    (htrue : ∀ more, more.length < rest.length →
      Carries d limit tail stops more (q true) (q' true)) :
    Carries d limit tail stops rest (accept kind >>= q) (accept kind >>= q') := by
  have hrefused : ∀ (tokens : List TokenKind) (gauge : Gauge), tokens.headD .endOfInput ≠ kind →
      accept kind ⟨tokens, gauge⟩ = .ok (false, ⟨tokens, gauge⟩) := by
    intro tokens gauge hhead
    change (if tokens.headD .endOfInput = kind then _ else _ : Parse Bool) ⟨tokens, gauge⟩ = _
    rw [if_neg hhead]
    rfl
  have haccepted : ∀ (tokens : List TokenKind) (gauge : Gauge),
      accept kind ⟨kind :: tokens, gauge⟩ = .ok (true, ⟨tokens, gauge⟩) := by
    intro tokens gauge
    change (if kind = kind then _ else _ : Parse Bool) ⟨kind :: tokens, gauge⟩ = _
    rw [if_pos rfl]
    rfl
  intro gauge gauge' value later hroom hresult
  cases rest with
  | nil =>
      rw [bind_eq (hrefused [] gauge hkind.symm)] at hresult
      obtain ⟨hlength, hlevel, hcarries⟩ := hfalse gauge gauge' value later hroom hresult
      refine ⟨hlength, hlevel, fun hstops => ?_⟩
      have hended := List.eq_nil_of_length_eq_zero (Nat.le_zero.mp hlength)
      rcases hnil with hstuck | hhead
      · exact absurd hresult (hstuck gauge value later)
      · rw [bind_eq (hrefused ([] ++ tail) gauge' (hhead (hstops hended)))]
        exact hcarries hstops
  | cons first more =>
      by_cases hfirst : first = kind
      · subst hfirst
        rw [bind_eq (haccepted more gauge)] at hresult
        obtain ⟨hlength, hlevel, hcarries⟩ :=
          htrue more (Nat.lt_succ_self _) gauge gauge' value later hroom hresult
        refine ⟨hlength.trans (Nat.le_succ _), hlevel, fun hstops => ?_⟩
        rw [List.cons_append, bind_eq (haccepted (more ++ tail) gauge')]
        exact hcarries hstops
      · rw [bind_eq (hrefused (first :: more) gauge hfirst)] at hresult
        rw [bind_eq (hrefused (first :: more ++ tail) gauge' hfirst)]
        exact hfalse gauge gauge' value later hroom hresult

theorem Carries.after_expect {kind : TokenKind} (hkind : kind ≠ .endOfInput)
    {expected : Expectation} {q q' : Mark → Parse β}
    (h : ∀ here here' more, Carries d limit tail stops more (q here) (q' here')) :
    Carries d limit tail stops rest (expect kind expected >>= q) (expect kind expected >>= q') := by
  cases rest with
  | nil => exact ((stuck_expect hkind expected).bind q).carries
  | cons first more =>
      intro gauge gauge' value later hroom hresult
      have hexpect : ∀ (tokens : List TokenKind) (gauge : Gauge),
          expect first expected ⟨first :: tokens, gauge⟩ =
            .ok (first :: tokens, ⟨tokens, gauge⟩) := by
        intro tokens gauge
        change (if first = first then _ else _ : Parse Mark) ⟨tokens, gauge⟩ = _
        rw [if_pos rfl]
        rfl
      by_cases hfirst : first = kind
      · subst hfirst
        rw [bind_eq (hexpect more gauge)] at hresult
        rw [List.cons_append, bind_eq (hexpect (more ++ tail) gauge')]
        obtain ⟨hlength, hlevel, hcarries⟩ := h _ _ more gauge gauge' value later hroom hresult
        exact ⟨hlength.trans (Nat.le_succ _), hlevel, hcarries⟩
      · obtain ⟨_, _, hfound, -⟩ := exists_of_bind hresult
        change (if first = kind then _ else _ : Parse Mark) ⟨more, gauge⟩ = _ at hfound
        rw [if_neg hfirst] at hfound
        cases hfound

/-- Whoever is let in is let in with no fewer levels as well. -/
theorem carries_nested (h : Carries d limit tail stops rest p p') (depth : Depth)
    (place place' : Mark) :
    Carries d limit tail stops rest (nested d depth place p)
      (nested (d.withDepth limit) depth place' p') := by
  intro gauge gauge' value later hroom hresult
  obtain ⟨hgauge, last, hinner, hlast⟩ := exists_of_nested hresult
  have hrise : gauge.rise.level = gauge.level + 1 := rfl
  have hrise' : gauge'.rise.level = gauge'.level + 1 := rfl
  obtain ⟨hlength, hlevel, hcarries⟩ := h gauge.rise gauge'.rise value _ (by omega) hinner
  simp only at hlevel
  refine ⟨hlength, ?_, fun hstops => ?_⟩
  · rw [hlast]
    change last.level - 1 = gauge.level
    omega
  · obtain ⟨after, hafter, hback⟩ := hcarries hstops
    refine ⟨after.fall, nested_eq (d := d.withDepth limit) ?_ hafter, ?_⟩
    · change gauge'.level < limit
      omega
    · change after.level - 1 = gauge'.level
      omega

theorem carries_requireFilter (place place' : Mark) (parsed : Parsed) :
    Carries d limit tail stops rest (requireFilter place parsed) (requireFilter place' parsed) := by
  cases parsed with
  | filter value => exact carries_pure value
  | expression value => exact carries_fail _ _

theorem carries_requireExpression (place place' : Mark) (parsed : Parsed) :
    Carries d limit tail stops rest (requireExpression place parsed)
      (requireExpression place' parsed) := by
  cases parsed with
  | filter value => exact carries_fail _ _
  | expression value => exact carries_pure value

end Combinators

section Lists

theorem carries_close (opening opening' : Mark) :
    Carries d limit tail stops rest (close opening) (close opening') := by
  apply Carries.after_mark
  intro here here'
  apply Carries.after_next (stuck_fail _ _)
  intro kind more _
  cases kind with
  | punctuation symbol =>
      cases symbol with
      | closeParen => exact carries_pure ()
      | _ => exact carries_unexpected _ _ _
  | endOfInput => exact carries_fail _ _
  | _ => exact carries_unexpected _ _ _

variable {item item' : Parse α}

theorem carries_listRest (h : ∀ more, Carries d limit tail False more item item')
    (opening opening' : Mark) {count count' : Nat} (hcount : rest.length ≤ count') :
    Carries d limit tail stops rest (listRest opening item count)
      (listRest opening' item' count') := by
  induction count generalizing rest count' with
  | zero => exact carries_fail _ _
  | succ count ih =>
      cases rest with
      | nil => exact (stuck_listRest opening item (count + 1)).carries
      | cons first more =>
          cases count' with
          | zero => cases hcount
          | succ count' =>
              have hshort := Nat.le_of_succ_le_succ hcount
              apply Carries.after_mark
              intro here here'
              apply Carries.after_next_cons
              cases first with
              | punctuation symbol =>
                  cases symbol with
                  | comma =>
                      refine Carries.bind_of (h more) ?_ fun value =>
                        .inl ((stuck_listRest opening item count).bind _)
                      intro value further hfurther
                      apply Carries.bind (ih (hfurther.trans hshort))
                      intro others _ _
                      exact carries_pure _
                  | closeParen => exact carries_pure _
                  | _ => exact carries_unexpected _ _ _
              | endOfInput => exact carries_fail _ _
              | _ => exact carries_unexpected _ _ _

/-- A list ends with its parenthesis, and so do its items in front of a comma or of that. -/
theorem carries_list (h : ∀ more, Carries d limit tail False more item item')
    (opening opening' : Mark) :
    Carries d limit tail stops rest (list opening item) (list opening' item') := by
  apply Carries.bind_stuck (h rest)
  · intro value more
    apply Carries.after_tokensLeft
    intro count hcount
    apply Carries.bind (carries_listRest h opening opening' hcount)
    intro others _ _
    exact carries_pure _
  · intro value
    apply Stuck.after_tokensLeft
    exact (stuck_listRest opening item 0).bind _

end Lists

end GeoFilter.Grammar
