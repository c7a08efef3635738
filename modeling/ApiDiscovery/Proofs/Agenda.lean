import ApiDiscovery.Failure

/-!
Steps that are taken in the order of an agenda, up to the first one that fails. What a step is, what it
was taken for and when it has failed is left open.
-/

namespace ApiDiscovery

def failure? {α : Type} : Except Failure α → Option Failure
  | .ok _ => none
  | .error failure => some failure

theorem failure?_eq_none {α : Type} {outcome : Except Failure α} :
    failure? outcome = none ↔ ∃ value, outcome = .ok value := by
  cases outcome <;> simp [failure?]

theorem failure?_map {α β : Type} (change : α → β) (outcome : Except Failure α) :
    failure? (change <$> outcome) = failure? outcome := by
  cases outcome <;> rfl

/-- The steps follow the agenda up to the first step that fails, and the failure is that of this step;
without a failure they follow the agenda to its end. -/
inductive Follows {α β : Type} (aim : β → α) (fails? : β → Option Failure) :
    List α → List β → Option Failure → Prop
  | done : Follows aim fails? [] [] none
  | stop {step : β} {failure : Failure} (failed : fails? step = some failure) (rest : List α) :
      Follows aim fails? (aim step :: rest) [step] (some failure)
  | next {step : β} {agenda : List α} {steps : List β} {outcome : Option Failure}
      (fine : fails? step = none) (rest : Follows aim fails? agenda steps outcome) :
      Follows aim fails? (aim step :: agenda) (step :: steps) outcome

namespace Follows

variable {α β : Type} {aim : β → α} {fails? : β → Option Failure} {agenda : List α} {steps : List β}
  {outcome : Option Failure}

theorem append {more : List α} {others : List β} (earlier : Follows aim fails? agenda steps none)
    (later : Follows aim fails? more others outcome) :
    Follows aim fails? (agenda ++ more) (steps ++ others) outcome := by
  generalize ended : (none : Option Failure) = fine at earlier
  induction earlier with
  | done => exact later
  | stop _ _ => cases ended
  | next fine _ ih => exact .next fine (ih ended)

theorem extend {failure : Failure} (follows : Follows aim fails? agenda steps (some failure))
    (more : List α) : Follows aim fails? (agenda ++ more) steps (some failure) := by
  generalize ended : some failure = outcome at follows
  induction follows with
  | done => cases ended
  | stop failed rest =>
      cases ended
      exact .stop failed (rest ++ more)
  | next fine _ ih => exact .next fine (ih ended)

theorem map_eq_of_done (follows : Follows aim fails? agenda steps none) : steps.map aim = agenda := by
  generalize ended : (none : Option Failure) = outcome at follows
  induction follows with
  | done => rfl
  | stop _ _ => cases ended
  | next _ _ ih => rw [List.map_cons, ih ended]

end Follows

end ApiDiscovery
