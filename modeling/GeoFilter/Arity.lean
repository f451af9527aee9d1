/-!
How many arguments a function or a spatial predicate takes.
-/

namespace GeoFilter

structure Arity where
  min : Nat
  /-- The greatest number of arguments, if there is one. -/
  max : Option Nat
deriving DecidableEq, Repr

namespace Arity

def exactly (count : Nat) : Arity := ⟨count, some count⟩

def between (min max : Nat) : Arity := ⟨min, some max⟩

def atLeast (min : Nat) : Arity := ⟨min, none⟩

def accepts (arity : Arity) (count : Nat) : Bool :=
  arity.min ≤ count && arity.max.all (count ≤ ·)

/-- Whether the greatest number lies below the least, so that no count is accepted. -/
def reversed (arity : Arity) : Bool :=
  arity.max.any (· < arity.min)

/-- A reversed arity accepts nothing. -/
theorem not_accepts_of_reversed {arity : Arity} (h : arity.reversed = true) (count : Nat) :
    arity.accepts count = false := by
  obtain ⟨least, _ | greatest⟩ := arity
  · simp [reversed] at h
  · simp only [reversed, Option.any_some, decide_eq_true_eq] at h
    simp [accepts]
    omega

def plural (count : Nat) : String :=
  if count = 1 then "argument" else "arguments"

/-- The arity in words. -/
def describe (arity : Arity) : String :=
  match arity.max with
  | none => s!"at least {arity.min} {plural arity.min}"
  | some max =>
      if arity.min = max then
        s!"{max} {plural max}"
      else if max = arity.min + 1 then
        s!"{arity.min} or {max} arguments"
      else
        s!"{arity.min} to {max} arguments"

/-- A count of arguments in words. -/
def describeGiven (given : Nat) : String :=
  if given = 1 then "1 was given" else s!"{given} were given"

end Arity

end GeoFilter
