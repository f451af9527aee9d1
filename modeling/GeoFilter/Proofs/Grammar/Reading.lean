import GeoFilter.Grammar.Filter
import GeoFilter.Proofs.Writing

/-!
Reading tokens that are known, at any depth. What a reading asks of the depth counter is its
demand: it succeeds if the dialect leaves that many levels, and finds the nesting too deep
otherwise. A reading can also stop short at a token that no production expects there; it then
demands only the levels up to that token.
-/

namespace GeoFilter.Grammar

/-- The levels that a reading goes further in, and whether it comes to its end. -/
structure Demand where
  depth : Nat
  complete : Bool

namespace Demand

def free : Demand := ⟨0, true⟩

/-- One reading and then another, unless the first stops short. -/
def andThen (a b : Demand) : Demand :=
  if a.complete then ⟨max a.depth b.depth, b.complete⟩ else a

/-- A reading a number of levels further in. -/
def raise (count : Nat) (a : Demand) : Demand :=
  ⟨a.depth + count, a.complete⟩

/-- A reading that is entered one level further in. -/
def within (a : Demand) : Demand := a.raise 1

def withinIf (condition : Bool) (a : Demand) : Demand :=
  if condition then a.within else a

/-- Readings one after another. -/
def all : List Demand → Demand
  | [] => free
  | first :: others => first.andThen (all others)

@[simp] theorem free_andThen (a : Demand) : free.andThen a = a := by
  simp [free, andThen]

@[simp] theorem andThen_free (a : Demand) : a.andThen free = a := by
  obtain ⟨depth, complete⟩ := a
  cases complete <;> simp [free, andThen]

theorem andThen_assoc (a b c : Demand) : (a.andThen b).andThen c = a.andThen (b.andThen c) := by
  obtain ⟨depth, complete⟩ := a
  cases complete with
  | false => simp [andThen]
  | true =>
      obtain ⟨second, complete⟩ := b
      cases complete with
      | false => simp [andThen]
      | true => simp [andThen, Nat.max_assoc]

@[simp] theorem raise_zero (a : Demand) : a.raise 0 = a := rfl

theorem raise_raise (a : Demand) (i j : Nat) : (a.raise i).raise j = a.raise (i + j) := by
  simp [raise, Nat.add_assoc]

theorem raise_andThen (a b : Demand) (count : Nat) :
    (a.andThen b).raise count = (a.raise count).andThen (b.raise count) := by
  obtain ⟨depth, complete⟩ := a
  cases complete with
  | false => simp [raise, andThen]
  | true => simp [raise, andThen, Nat.add_max_add_right]

theorem complete_andThen (a b : Demand) :
    (a.andThen b).complete = true ↔ a.complete = true ∧ b.complete = true := by
  obtain ⟨depth, complete⟩ := a
  cases complete <;> simp [andThen]

theorem complete_withinIf (condition : Bool) (a : Demand) :
    (withinIf condition a).complete = a.complete := by
  cases condition <;> rfl

theorem complete_all (demands : List Demand) :
    (all demands).complete = true ↔ ∀ a ∈ demands, a.complete = true := by
  induction demands with
  | nil => simp [all, free]
  | cons first others ih => simp [all, complete_andThen, ih]

end Demand

variable {d : Dialect} {α β : Type}

/-- A fault for want of depth in the dialect. -/
def IsDepthFault (d : Dialect) (fault : Fault) : Prop :=
  ∃ depth, fault = .tooDeep depth d.maxDepth

def IsUnexpectedToken (fault : Fault) : Prop :=
  ∃ found expected, fault = .unexpected found expected

/-- What a reading with a demand comes to at a level. -/
def Settles (d : Dialect) (level : Nat) (demand : Demand) (value : α) (rest : List TokenKind) :
    Except Failure (α × Cursor) → Prop
  | .ok (found, later) =>
      demand.complete = true ∧ demand.depth ≤ d.maxDepth - level ∧ found = value ∧
        later.rest = rest ∧ later.gauge.level = level
  | .error failure =>
      d.maxDepth - level < demand.depth ∧ IsDepthFault d failure.fault ∨
        demand.depth ≤ d.maxDepth - level ∧ demand.complete = false ∧
          IsUnexpectedToken failure.fault

/-- A production reads the value from the input and leaves the rest, at any level and in any
tower that is at least as high as the levels that are left. -/
def Reads (d : Dialect) (p : Level → Parse α) (input : List TokenKind) (value : α)
    (rest : List TokenKind) (demand : Demand) : Prop :=
  ∀ (height : Nat) (gauge : Gauge), d.maxDepth - gauge.level ≤ height →
    Settles d gauge.level demand value rest (p (level d height) ⟨input, gauge⟩)

section Combinators

variable {input middle rest : List TokenKind} {a : α} {b : β} {first second demand : Demand}
  {p : Level → Parse α} {q : α → Level → Parse β}

theorem Reads.bind (hp : Reads d p input a middle first)
    (hq : Reads d (q a) middle b rest second) :
    Reads d (fun inner => p inner >>= fun found => q found inner) input b rest
      (first.andThen second) := by
  intro height gauge hheight
  have hfirst := hp height gauge hheight
  change Settles d gauge.level _ b rest
    (p (level d height) ⟨input, gauge⟩ >>= fun found => q found.1 (level d height) found.2)
  cases hresult : p (level d height) ⟨input, gauge⟩ with
  | error failure =>
      rw [hresult] at hfirst
      rcases hfirst with ⟨hdepth, hfault⟩ | ⟨hdepth, hcomplete, hfault⟩
      · refine .inl ⟨?_, hfault⟩
        unfold Demand.andThen
        split
        · simp only
          omega
        · exact hdepth
      · have hstops : first.andThen second = first := by simp [Demand.andThen, hcomplete]
        rw [hstops]
        exact .inr ⟨hdepth, hcomplete, hfault⟩
  | ok found =>
      obtain ⟨found, tokens, later⟩ := found
      rw [hresult] at hfirst
      obtain ⟨hcomplete, hdepth, rfl, rfl, hlevel⟩ := hfirst
      have hgoes : first.andThen second = ⟨max first.depth second.depth, second.complete⟩ := by
        simp [Demand.andThen, hcomplete]
      have hsecond := hq height later (by rw [hlevel]; exact hheight)
      rw [hlevel] at hsecond
      rw [hgoes]
      change Settles d gauge.level _ b rest (q found (level d height) ⟨tokens, later⟩)
      cases hlater : q found (level d height) ⟨tokens, later⟩ with
      | error failure =>
          rw [hlater] at hsecond
          rcases hsecond with ⟨hmore, hfault⟩ | ⟨hmore, hstops, hfault⟩
          · exact .inl ⟨by simp only; omega, hfault⟩
          · exact .inr ⟨by simp only; omega, hstops, hfault⟩
      | ok result =>
          rw [hlater] at hsecond
          obtain ⟨hends, hmore, hrest⟩ := hsecond
          exact ⟨hends, by simp only; omega, hrest⟩

/-- What would come behind a reading that stops short does not matter. -/
theorem Reads.bind_stops (hp : Reads d p input a middle demand)
    (hstops : demand.complete = false) :
    Reads d (fun inner => p inner >>= fun found => q found inner) input b rest demand := by
  intro height gauge hheight
  have hfirst := hp height gauge hheight
  change Settles d gauge.level _ b rest
    (p (level d height) ⟨input, gauge⟩ >>= fun found => q found.1 (level d height) found.2)
  cases hresult : p (level d height) ⟨input, gauge⟩ with
  | error failure =>
      rw [hresult] at hfirst
      exact hfirst
  | ok found =>
      rw [hresult] at hfirst
      rw [hfirst.1] at hstops
      cases hstops

/-- A first step that asks for nothing. -/
theorem Reads.step (hp : Reads d p input a middle .free)
    (hq : Reads d (q a) middle b rest demand) :
    Reads d (fun inner => p inner >>= fun found => q found inner) input b rest demand := by
  have hboth := hp.bind hq
  rwa [Demand.free_andThen] at hboth

/-- A last step that asks for nothing. -/
theorem Reads.andThen_step (hp : Reads d p input a middle demand)
    (hq : Reads d (q a) middle b rest .free) :
    Reads d (fun inner => p inner >>= fun found => q found inner) input b rest demand := by
  have hboth := hp.bind hq
  rwa [Demand.andThen_free] at hboth

theorem reads_of_eq {p : Parse α} (h : ∀ gauge, p ⟨input, gauge⟩ = .ok (a, ⟨rest, gauge⟩)) :
    Reads d (fun _ => p) input a rest .free := by
  intro height gauge _
  simp only [h gauge]
  exact ⟨rfl, Nat.zero_le _, rfl, rfl, rfl⟩

theorem reads_pure : Reads d (fun _ => pure a) input a input .free :=
  reads_of_eq fun _ => rfl

theorem reads_mark : Reads d (fun _ => mark) input input input .free :=
  reads_of_eq fun _ => rfl

theorem reads_tokensLeft : Reads d (fun _ => tokensLeft) input input.length input .free :=
  reads_of_eq fun _ => rfl

theorem reads_peek : Reads d (fun _ => peek) input (input.headD .endOfInput) input .free :=
  reads_of_eq fun _ => rfl

theorem reads_next {kind : TokenKind} : Reads d (fun _ => next) (kind :: rest) kind rest .free :=
  reads_of_eq fun _ => rfl

theorem reads_accept {kind : TokenKind} :
    Reads d (fun _ => accept kind) (kind :: rest) true rest .free := by
  apply Reads.step reads_peek
  simp only [List.headD_cons, if_true]
  apply Reads.step reads_next
  exact reads_pure

theorem reads_acceptNot {kind : TokenKind} (h : input.headD .endOfInput ≠ kind) :
    Reads d (fun _ => accept kind) input false input .free := by
  apply Reads.step reads_peek
  simp only [h, if_false]
  exact reads_pure

theorem reads_expect {kind : TokenKind} {expected : Expectation} :
    Reads d (fun _ => expect kind expected) (kind :: rest) (kind :: rest) rest .free := by
  apply Reads.step reads_mark
  apply Reads.step reads_next
  simp only [if_true]
  exact reads_pure

theorem reads_close (opening : Mark) :
    Reads d (fun _ => close opening) (.punctuation .closeParen :: rest) () rest .free := by
  apply Reads.step reads_mark
  apply Reads.step reads_next
  exact reads_pure

theorem reads_finish : Reads d (fun _ => finish) [] () [] .free :=
  reads_of_eq fun _ => rfl

theorem reads_check {checked : Except Fault α} (h : checked = .ok a) (place : Mark) :
    Reads d (fun _ => check place checked) input a input .free := by
  rw [h]
  exact reads_pure

theorem reads_checkNone {checked : Option Fault} (h : checked = none) (place : Mark) :
    Reads d (fun _ => checkNone place checked) input () input .free := by
  rw [h]
  exact reads_pure

theorem reads_unexpected {found : TokenKind} {expected : Expectation} {place : Mark} :
    Reads d (fun _ => unexpected found expected place) input a rest ⟨0, false⟩ :=
  fun _ _ _ => .inr ⟨Nat.zero_le _, rfl, found, expected, rfl⟩

/-- Entering one level: what stands in it is read if a level is left. -/
theorem settles_nested {p : Parse α} {gauge : Gauge} {depth : Depth} {place : Mark}
    (h : gauge.level < d.maxDepth →
      Settles d (gauge.level + 1) demand a rest (p ⟨input, gauge.rise⟩)) :
    Settles d gauge.level demand.within a rest (nested d depth place p ⟨input, gauge⟩) := by
  by_cases hroom : gauge.level < d.maxDepth
  · have hinner := h hroom
    have hnested : nested d depth place p ⟨input, gauge⟩ =
        (p ⟨input, gauge.rise⟩ >>= fun found =>
          .ok (found.1, { found.2 with gauge := found.2.gauge.fall })) := by
      change (enter d depth place ⟨input, gauge⟩ >>= fun entered =>
        (p entered.2 >>= fun found => .ok (found.1, { found.2 with gauge := found.2.gauge.fall }))) = _
      simp only [enter, hroom, if_true]
      rfl
    rw [hnested]
    cases hresult : p ⟨input, gauge.rise⟩ with
    | ok found =>
        obtain ⟨found, tokens, later⟩ := found
        rw [hresult] at hinner
        obtain ⟨hcomplete, hdepth, rfl, rfl, hlevel⟩ := hinner
        refine ⟨hcomplete, ?_, rfl, rfl, ?_⟩
        · simp only [Demand.within, Demand.raise]
          omega
        · have hrisen : later.level = gauge.level + 1 := hlevel
          change later.level - 1 = gauge.level
          omega
    | error failure =>
        rw [hresult] at hinner
        rcases hinner with ⟨hdepth, hfault⟩ | ⟨hdepth, hcomplete, hfault⟩
        · refine .inl ⟨?_, hfault⟩
          simp only [Demand.within, Demand.raise]
          omega
        · refine .inr ⟨?_, hcomplete, hfault⟩
          simp only [Demand.within, Demand.raise]
          omega
  · have hnested : nested d depth place p ⟨input, gauge⟩ =
        .error ⟨.tooDeep depth d.maxDepth, place, gauge.rise⟩ := by
      change (enter d depth place ⟨input, gauge⟩ >>= fun entered =>
        (p entered.2 >>= fun found => .ok (found.1, { found.2 with gauge := found.2.gauge.fall }))) = _
      simp only [enter, hroom, if_false]
      rfl
    rw [hnested]
    refine .inl ⟨?_, depth, rfl⟩
    simp only [Demand.within, Demand.raise]
    omega

/-- A production of the next level of the tower, entered one level further in. -/
theorem Reads.nested {depth : Depth} {place : Mark}
    (h : Reads d (fun inner => p (levelAbove d inner)) input a rest demand) :
    Reads d (fun inner => nested d depth place (p inner)) input a rest demand.within := by
  intro height gauge hheight
  apply settles_nested
  intro hroom
  cases height with
  | zero => omega
  | succ height =>
      refine h height gauge.rise ?_
      simp only [Gauge.rise]
      omega

/-- A production that stays at its level of the tower, but counts as one level further in. -/
theorem Reads.deeper {depth : Depth} {place : Mark} (h : Reads d p input a rest demand) :
    Reads d (fun inner => Grammar.nested d depth place (p inner)) input a rest demand.within := by
  intro height gauge hheight
  apply settles_nested
  intro _
  refine h height gauge.rise ?_
  simp only [Gauge.rise]
  omega

end Combinators

section Lists

/-- A production that stops short may also come back with another value, but then in front of
a word that cannot stand there. -/
def ReadsOrStrays (d : Dialect) (p : Level → Parse α) (input : List TokenKind) (value : α)
    (rest : List TokenKind) (demand : Demand) : Prop :=
  Reads d p input value rest demand ∨
    demand = ⟨0, false⟩ ∧ ∃ found word more, Reads d p input found (.identifier word :: more) .free

/-- A production that does not expect a word. -/
def Refuses (d : Dialect) (q : Level → Parse β) : Prop :=
  ∀ word more value rest, Reads d q (.identifier word :: more) value rest ⟨0, false⟩

variable {input middle rest : List TokenKind} {a : α} {b : β} {first second : Demand}
  {p : Level → Parse α} {q : α → Level → Parse β}

theorem ReadsOrStrays.bind (hp : ReadsOrStrays d p input a middle first)
    (hq : Reads d (q a) middle b rest second) (hrefuses : ∀ found, Refuses d (q found)) :
    Reads d (fun inner => p inner >>= fun found => q found inner) input b rest
      (first.andThen second) := by
  rcases hp with hp | ⟨rfl, found, word, more, hstrays⟩
  · exact hp.bind hq
  · exact hstrays.step (hrefuses found word more b rest)

theorem ReadsOrStrays.after_step (hp : Reads d p input a middle .free)
    (hq : ReadsOrStrays d (q a) middle b rest second) :
    ReadsOrStrays d (fun inner => p inner >>= fun found => q found inner) input b rest second := by
  rcases hq with hq | ⟨rfl, found, word, more, hstrays⟩
  · exact .inl (hp.step hq)
  · exact .inr ⟨rfl, found, word, more, hp.step hstrays⟩

theorem refuses_close (opening : Mark) : Refuses d (fun _ => close opening) := by
  intro word more value rest
  apply Reads.step reads_mark
  apply Reads.step reads_next
  exact reads_unexpected

theorem refuses_listRest {item : Level → Parse α} (opening : Mark) (count : Nat) :
    Refuses d (fun inner => listRest opening (item inner) (count + 1)) := by
  intro word more value rest
  apply Reads.step reads_mark
  apply Reads.step reads_next
  exact reads_unexpected

/-- What can stand behind an item of a list. -/
def EndsItem (tail : List TokenKind) : Prop :=
  tail.head? = some (.punctuation .comma) ∨ tail.head? = some (.punctuation .closeParen)

variable {item : Level → Parse α} {kinds : α → List TokenKind} {demand : α → Demand}

theorem endsItem_listRest (others : List α) (rest : List TokenKind) :
    EndsItem ((others.map kinds).flatMap (.punctuation .comma :: ·) ++
      .punctuation .closeParen :: rest) := by
  cases others with
  | nil => exact .inr rfl
  | cons first others => exact .inl rfl

/-- The rest of a list, whose items are read one by one. -/
theorem reads_listRest {others : List α}
    (h : ∀ i ∈ others, ∀ tail, EndsItem tail →
      ReadsOrStrays d item (kinds i ++ tail) i tail (demand i))
    (opening : Mark) (rest : List TokenKind) {count : Nat} (hcount : others.length < count) :
    Reads d (fun inner => listRest opening (item inner) count)
      ((others.map kinds).flatMap (.punctuation .comma :: ·) ++ .punctuation .closeParen :: rest)
      others rest (.all (others.map demand)) := by
  induction others generalizing count with
  | nil =>
      obtain ⟨count, rfl⟩ := Nat.exists_eq_add_of_lt hcount
      apply Reads.step reads_mark
      apply Reads.step reads_next
      exact reads_pure
  | cons first others ih =>
      obtain ⟨count, rfl⟩ : ∃ more, count = more + 1 + 1 := by
        simp only [List.length_cons] at hcount
        exact ⟨count - 2, by omega⟩
      have hshorter : others.length < count + 1 := by
        simp only [List.length_cons] at hcount
        omega
      have hrest := ih (fun i hi => h i (List.mem_cons_of_mem _ hi)) hshorter
      rw [List.map_cons, List.flatMap_cons, List.append_assoc, List.cons_append]
      apply Reads.step reads_mark
      apply Reads.step reads_next
      refine ReadsOrStrays.bind (h first List.mem_cons_self _ (endsItem_listRest others rest)) ?_ ?_
      · apply Reads.andThen_step hrest
        exact reads_pure
      · intro found word more value rest
        exact (refuses_listRest opening count word more [] []).bind_stops rfl

/-- Each item behind the first brings at least its comma. -/
theorem length_le_flatMap (parts : List (List TokenKind)) :
    parts.length ≤ (parts.flatMap (.punctuation .comma :: ·)).length := by
  induction parts with
  | nil => simp
  | cons first others ih =>
      rw [List.flatMap_cons, List.length_append, List.length_cons, List.length_cons]
      omega

/-- A list that is not empty, whose items are read one by one. -/
theorem reads_list {items : List α} (hnonempty : items ≠ [])
    (h : ∀ i ∈ items, ∀ tail, EndsItem tail →
      ReadsOrStrays d item (kinds i ++ tail) i tail (demand i))
    (opening : Mark) (rest : List TokenKind) :
    Reads d (fun inner => list opening (item inner))
      (separated (items.map kinds) ++ .punctuation .closeParen :: rest) items rest
      (.all (items.map demand)) := by
  cases items with
  | nil => exact absurd rfl hnonempty
  | cons first others =>
      rw [List.map_cons, separated, List.append_assoc]
      have hlength : others.length < ((others.map kinds).flatMap (.punctuation .comma :: ·) ++
          .punctuation .closeParen :: rest).length := by
        have hitems := length_le_flatMap (others.map kinds)
        rw [List.length_map] at hitems
        rw [List.length_append, List.length_cons]
        omega
      refine ReadsOrStrays.bind (h first List.mem_cons_self _ (endsItem_listRest others rest)) ?_ ?_
      · apply Reads.step reads_tokensLeft
        apply Reads.andThen_step (reads_listRest
          (fun i hi => h i (List.mem_cons_of_mem _ hi)) opening rest hlength)
        exact reads_pure
      · intro found word more value rest
        apply Reads.step reads_tokensLeft
        exact (refuses_listRest opening more.length word more [] []).bind_stops rfl

end Lists

end GeoFilter.Grammar
