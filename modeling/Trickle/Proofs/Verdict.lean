/-
This file proves how it is shown what is accepted and what is refused, and why. It is
enough to say when a value is accepted and when an error is reported, to show that this is
what happens then, and that one of the two always is the case. As there is only one result,
nothing else is accepted, and nothing is refused for another reason.
-/

namespace Trickle

/-- Whether a result is known: what is accepted is the result, what is refused is refused for the
reason given, and one or the other is the case. -/
structure Verdict {Error Value : Type} (result : Except Error Value) (accepted : Value → Prop)
    (refused : Error → Prop) : Prop where
  ok : ∀ value, accepted value → result = .ok value
  error : ∀ error, refused error → result = .error error
  decided : (∃ value, accepted value) ∨ ∃ error, refused error

namespace Verdict

variable {Error Value : Type} {result : Except Error Value} {accepted : Value → Prop}
  {refused : Error → Prop}

theorem eq_ok_iff (verdict : Verdict result accepted refused) (value : Value) :
    result = .ok value ↔ accepted value := by
  refine ⟨fun given => ?_, verdict.ok value⟩
  rcases verdict.decided with ⟨other, known⟩ | ⟨error, known⟩
  · obtain rfl := Except.ok.inj ((verdict.ok other known).symm.trans given)
    exact known
  · exact nomatch (verdict.error error known).symm.trans given

theorem eq_error_iff (verdict : Verdict result accepted refused) (error : Error) :
    result = .error error ↔ refused error := by
  refine ⟨fun given => ?_, verdict.error error⟩
  rcases verdict.decided with ⟨value, known⟩ | ⟨other, known⟩
  · exact nomatch (verdict.ok value known).symm.trans given
  · obtain rfl := Except.error.inj ((verdict.error other known).symm.trans given)
    exact known

end Verdict

end Trickle
