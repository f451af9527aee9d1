import GeoFilter.Proofs.Grammar.Composition

/-!
Parentheses around a whole text. They cost one level of the depth and are gone once they are
read: a group is not told whether it holds a filter or an expression, and everything between it
and the whole text hands on what it held.
-/

namespace GeoFilter

open Grammar

variable {d : Dialect} {text : String}

/-- A whole between parentheses is read as a whole again, with one level more. -/
theorem Grammar.Consumes.enclosed {kinds : List TokenKind} {parsed : Parsed}
    (h : Consumes d (disjunction d) kinds parsed) (limit : Nat) :
    ReadsWithin (d.withDepth limit) (disjunction (d.withDepth limit)) (enclosed kinds) parsed []
      d.maxDepth := by
  have hinner : ReadsWithin (d.withDepth limit) (disjunction (d.withDepth limit))
      (kinds ++ [.punctuation .closeParen]) parsed [.punctuation .closeParen] (d.maxDepth - 1) :=
    h.readsWithin (stops_of_closes (.inr rfl)) fun _ _ hlevel => carries_disjunction hlevel
  have hgroup := (ReadsWithin.group hinner).mono (Nat.sub_add_cancel h.maxDepth_pos).le
  have hstops : Stops [] .group := stops_of_closes (.inl rfl)
  rw [List.append_nil] at hgroup
  exact ((hgroup.additive hstops.1.follows).negation hstops.1).disjunction hstops

/-- A text between parentheses denotes what it denotes without them, in the dialect that has one
level more. -/
theorem parse_enclosed (d : Dialect) (text : String) :
    (∀ f, Filter.parse d text = .ok f →
      Filter.parse { d with maxDepth := d.maxDepth + 1 } ("(" ++ text ++ ")") = .ok f) ∧
    ∀ e, Expression.parse d text = .ok e →
      Expression.parse { d with maxDepth := d.maxDepth + 1 } ("(" ++ text ++ ")") = .ok e := by
  constructor
  · intro f h
    obtain ⟨kinds, hlexed, hconsumes⟩ := consumes_of_parseFilter h
    have hparenthesised := (lexed_parenthesised hlexed).withDepth (d.maxDepth + 1)
    exact parseFilter_of_readsWithin hparenthesised (hconsumes.enclosed _) le_rfl
  · intro e h
    obtain ⟨kinds, hlexed, hconsumes⟩ := consumes_of_parseExpression h
    have hparenthesised := (lexed_parenthesised hlexed).withDepth (d.maxDepth + 1)
    exact parseExpression_of_readsWithin hparenthesised (hconsumes.enclosed _) le_rfl

/-- A negation and a sum that just fit, and the same between parentheses under the next limit. -/
theorem parse_enclosed_shallow :
    (∃ f, Filter.parse (shallow 2) "NOT a IS NULL" = .ok f ∧
      Filter.parse (shallow 3) "(NOT a IS NULL)" = .ok f) ∧
    ∃ e, Expression.parse (shallow 2) "a + b" = .ok e ∧
      Expression.parse (shallow 3) "(a + b)" = .ok e := by
  obtain ⟨f, hf⟩ := exists_ok
    (show (Filter.parse (shallow 2) "NOT a IS NULL").toOption.isSome = true by decide +kernel)
  obtain ⟨e, he⟩ := exists_ok
    (show (Expression.parse (shallow 2) "a + b").toOption.isSome = true by decide +kernel)
  exact ⟨⟨f, hf, (parse_enclosed _ _).1 f hf⟩, e, he, (parse_enclosed _ _).2 e he⟩

end GeoFilter
