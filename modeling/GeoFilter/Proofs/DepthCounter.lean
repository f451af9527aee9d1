import GeoFilter.Proofs.Grammar.Height

/-!
The depth counter over a whole production. From any depth within the limit a production that
succeeds leaves the counter where it was and has never lifted it above the limit. Whether it
succeeds or fails, it never lets the counter fall below the depth it started at, so that no
step down is taken at zero. For a chain of operators this holds whether its levels are given
back one by one or all at once.
-/

namespace GeoFilter.Grammar

variable {d : Dialect} {α : Type} {tokens rest : List TokenKind} {inner : Level}
  {room bound depth count : Nat}

section Loops

/-- The counter falls by several levels at once. If it has fewer levels than that it stops at zero,
but its least value goes below. -/
def Gauge.fallBy (gauge : Gauge) : Nat → Gauge
  | 0 => gauge
  | levels + 1 =>
      { gauge with
        level := gauge.level - (levels + 1)
        lowest := min gauge.lowest (max ((gauge.level : Int) - (levels + 1)) (-1)) }

theorem Gauge.fallBy_fall (gauge : Gauge) (levels : Nat) :
    gauge.fall.fallBy levels = gauge.fallBy (levels + 1) := by
  cases levels with
  | zero =>
      simp only [fall, fallBy]
      congr 1
      omega
  | succ levels =>
      simp only [fall, fallBy]
      congr 1 <;> omega

def leaveAll (levels : Nat) : Parse Unit := fun cursor =>
  .ok ((), { cursor with gauge := cursor.gauge.fallBy levels })

theorem leave_leaveAll (levels : Nat) :
    (do leave; leaveAll levels) = leaveAll (levels + 1) := by
  funext cursor
  change Except.ok ((), ({ cursor with gauge := cursor.gauge.fall.fallBy levels } : Cursor)) = _
  rw [Gauge.fallBy_fall]
  rfl

/-- The rest of a chain as a loop that counts its operators and gives all their levels back at
once, behind the last of them. -/
def chainLoop (d : Dialect) (operator? : TokenKind → Option ArithmeticOp)
    (operand : Parse Parsed) (start : Mark) : Nat → Nat → Parsed → Parse Parsed
  | 0, levels, left => do
      leaveAll levels
      return left
  | count + 1, levels, left => do
      match operator? (← peek) with
      | none =>
          leaveAll levels
          return left
      | some op =>
          let here ← mark
          let _ ← next
          enter d .chain here
          let first ← requireExpression start left
          let place ← mark
          let second ← requireExpression place (← operand)
          chainLoop d operator? operand start count (levels + 1)
            (.expression (.arithmetic op first second))

/-- Each level that the loop gives back in the end is one that the nested reading leaves. -/
theorem chainLoop_eq (operator? : TokenKind → Option ArithmeticOp) (operand : Parse Parsed)
    (start : Mark) (count levels : Nat) (left : Parsed) :
    chainLoop d operator? operand start count levels left = (do
      let value ← chainRest d operator? operand start count left
      leaveAll levels
      return value) := by
  induction count generalizing levels left with
  | zero => simp only [chainLoop, chainRest, pure_bind]
  | succ count ih =>
      simp only [chainLoop, chainRest, bind_assoc]
      congr 1
      funext kind
      cases operator? kind with
      | none => simp only [pure_bind]
      | some op =>
          simp only [nested, bind_assoc, pure_bind, ih, ← leave_leaveAll]

/-- A chain that spends a level for each operator until its loop is over. -/
def loopedChain (d : Dialect) (operator? : TokenKind → Option ArithmeticOp)
    (operand : Parse Parsed) : Parse Parsed := do
  let start ← mark
  let first ← operand
  chainLoop d operator? operand start (← tokensLeft) 0 first

/-- It makes no difference whether the levels of a chain are given back one by one or at once. -/
theorem loopedChain_eq (operator? : TokenKind → Option ArithmeticOp) (operand : Parse Parsed) :
    loopedChain d operator? operand = chain d operator? operand := by
  have hnone : leaveAll 0 = pure () := rfl
  simp only [loopedChain, chain, chainLoop_eq, hnone, pure_bind, bind_pure]

end Loops

/-- The productions over those of the next level. The places that some of them are given are
places among the tokens. -/
inductive IsProduction (d : Dialect) (tokens : List TokenKind) (inner : Level) :
    {α : Type} → Parse α → Prop where
  | group {start : Mark} (hstart : start <:+ tokens) :
      IsProduction d tokens inner (nested d .nesting start (inner .group))
  | disjunction : IsProduction d tokens inner (disjunction d inner)
  | conjunction : IsProduction d tokens inner (conjunction d inner)
  | negation : IsProduction d tokens inner (negation d inner)
  | predicate : IsProduction d tokens inner (predicate d inner)
  | operand : IsProduction d tokens inner (operand d inner)
  | additive : IsProduction d tokens inner (additive d inner)
  | multiplicative : IsProduction d tokens inner (multiplicative d inner)
  | loopedAdditive :
      IsProduction d tokens inner (loopedChain d additive? (multiplicative d inner))
  | loopedMultiplicative :
      IsProduction d tokens inner (loopedChain d multiplicative? (unary d inner))
  | unary : IsProduction d tokens inner (unary d inner)
  | primary : IsProduction d tokens inner (primary d inner)
  | callArguments : IsProduction d tokens inner (callArguments d inner)
  | arguments {opening : Mark} (hopening : opening <:+ tokens) :
      IsProduction d tokens inner (arguments d inner opening)
  | geometry {here : Mark} (hhere : here <:+ tokens) (type : GeometryType) :
      IsProduction d tokens inner (geometry d inner here type)
  | member : IsProduction d tokens inner (member d inner)

/-- What a production that started at a depth does to the counter. A failed one leaves it where it
stands, which is above the limit by one if the failure is for want of depth. -/
def KeepsDepth (d : Dialect) (depth : Nat) : Except Failure (α × Cursor) → Prop
  | .ok (_, later) =>
      later.gauge.level = depth ∧ (depth : Int) ≤ later.gauge.lowest ∧
        later.gauge.highest ≤ d.maxDepth
  | .error failure =>
      (depth : Int) ≤ failure.gauge.lowest ∧ failure.gauge.highest ≤ d.maxDepth + 1

theorem IsProduction.proceeds {p : Parse α} (h : IsProduction d tokens inner p)
    (hinner : inner.Low d tokens room) (hlength : rest.length < bound) :
    Proceeds d tokens room bound p rest (fun _ => True) := by
  cases h with
  | group hstart =>
      apply proceeds_nested hlength hstart
      intro hroom
      exact (hinner (room - 1) (by omega) (bound - 1) .group rest).forget
  | disjunction =>
      exact (proceeds_logical fun _ => proceeds_logical fun _ => proceeds_negation hinner).forget
  | conjunction =>
      exact (proceeds_logical fun _ => proceeds_negation hinner).forget
  | negation => exact (proceeds_negation hinner).forget
  | predicate => exact (proceeds_predicate hinner).forget
  | operand => exact (proceeds_operand hinner).forget
  | additive => exact (proceeds_additive hinner).forget
  | multiplicative => exact (proceeds_multiplicative hinner).forget
  | loopedAdditive =>
      rw [loopedChain_eq]
      exact (proceeds_additive hinner).forget
  | loopedMultiplicative =>
      rw [loopedChain_eq]
      exact (proceeds_multiplicative hinner).forget
  | unary => exact (proceeds_unary hinner).forget
  | primary => exact (proceeds_primary hinner).forget
  | callArguments => exact (proceeds_callArguments hinner).forget
  | arguments hopening => exact (proceeds_arguments hinner hopening hlength).forget
  | geometry hhere type => exact proceeds_geometry hinner hhere type
  | member => exact proceeds_member hinner

theorem Arrives.keepsDepth {Q : α → Prop} {result : Except Failure (α × Cursor)}
    (h : Arrives d tokens room bound rest (.resting depth) Q result) (hdepth : depth ≤ d.maxDepth) :
    KeepsDepth d depth result := by
  cases result with
  | ok found =>
      obtain ⟨-, -, hlevel, hlowest, hhighest⟩ := h
      simp only [Gauge.resting] at hlevel hlowest hhighest
      exact ⟨hlevel, by omega, by omega⟩
  | error failure =>
      obtain ⟨-, hlowest, hhighest⟩ := h
      simp only [Gauge.resting] at hlowest hhighest
      exact ⟨by omega, by omega⟩

/-- The counter is balanced over every production of the tower, wherever in the tokens and at
whatever depth it starts. The tower has at least the levels that are left above that depth. -/
theorem keepsDepth_of_isProduction {p : Parse α} (hp : IsProduction d tokens (level d count) p)
    (hrest : rest <:+ tokens) (hdepth : depth ≤ d.maxDepth) (hcount : d.maxDepth ≤ depth + count) :
    KeepsDepth d depth (p ⟨rest, .resting depth⟩) := by
  have hlow : (level d count).Low d tokens (d.maxDepth - depth) :=
    (low_level count).mono (by omega)
  have hproceeds := hp.proceeds hlow (Nat.lt_succ_self rest.length)
  have harrives := hproceeds hrest (Nat.le_succ _) (.resting depth) (Nat.add_sub_of_le hdepth)
  exact harrives.keepsDepth hdepth

/-- A chain of two operators around a call, at a depth of two of five: the counter is back at two
behind it. -/
theorem keepsDepth_chain_in_call :
    let d : Dialect := { Dialect.standard with maxDepth := 5 }
    let tokens : List TokenKind := [.number "1", .operator .plus, .identifier "f",
      .punctuation .openParen, .operator .minus, .identifier "a", .punctuation .closeParen,
      .operator .minus, .number "2"]
    tokens <:+ tokens ∧ 2 ≤ d.maxDepth ∧ d.maxDepth ≤ 2 + 3 ∧
      IsProduction d tokens (level d 3) (additive d (level d 3)) ∧
      KeepsDepth d 2 (additive d (level d 3) ⟨tokens, .resting 2⟩) :=
  ⟨List.suffix_rfl, by decide, by decide, .additive,
    keepsDepth_of_isProduction .additive List.suffix_rfl (by decide) (by decide)⟩

/-- The sign in the call in the chain lifts the counter to the limit, and all three levels are given
back behind the chain. -/
example :
    let d : Dialect := { Dialect.standard with maxDepth := 5 }
    let tokens : List TokenKind := [.number "1", .operator .plus, .identifier "f",
      .punctuation .openParen, .operator .minus, .identifier "a", .punctuation .closeParen]
    (additive d (level d 3) ⟨tokens, .resting 2⟩).map (fun found => found.2.gauge) =
      .ok ⟨2, 2, 5⟩ := by
  rfl

end GeoFilter.Grammar
