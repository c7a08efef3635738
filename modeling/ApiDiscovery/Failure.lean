import ApiDiscovery.Http
import ApiDiscovery.Manifest

/-!
Why an operation on a cluster fails, and computations that may fail and change a state as they go on.
-/

namespace ApiDiscovery

inductive Failure where
  | api (status : ApiStatus)
  | service (message : String)
  | notUtf8 (fault : Text.Utf8Fault)
  | request (error : RequestError)
  | format (fault : Fault)
  | invalidGroupVersion (text : String)
  | missingKind (kind : String)
  | unableToFetch (groupVersion : String) (source : Failure)
  | untyped (error : TypeError)
  deriving DecidableEq, Repr, Inhabited

namespace Failure

def ofRefusal : Refusal → Failure
  | .notUtf8 fault => .notUtf8 fault
  | .status status => .api status

def isNotFound : Failure → Bool
  | .api status => status.code == 404
  | _ => false

def isForbidden : Failure → Bool
  | .api status => status.code == 403
  | _ => false

/-- The wording of a failure. A document that could not be read is told by its fault alone, so it has
no wording, and neither has a failure that it caused. -/
def message : Failure → Option String
  | .api status => some ("ApiError: " ++ status.describe ++ " (" ++ status.detail ++ ")")
  | .service message => some ("ServiceError: " ++ message)
  | .notUtf8 fault => some ("UTF-8 Error: " ++ fault.message)
  | .request error => some ("HttpError: " ++ error.message)
  | .format _ => none
  | .invalidGroupVersion text => some ("Error from discovery: Invalid GroupVersion: " ++ text)
  | .missingKind kind => some ("Error from discovery: server is unable to handle " ++ kind)
  | .unableToFetch groupVersion source =>
      source.message.map fun cause =>
        "Error from discovery: unable to fetch resource description for " ++ groupVersion ++ ": " ++
          cause
  | .untyped error => some ("Unable to read object type: " ++ error.message)

end Failure

/-- A computation on a state that gives a value or fails. The state it leaves counts either way. -/
def Exchange (σ α : Type) : Type := σ → Except Failure α × σ

namespace Exchange

variable {ρ σ α β : Type}

instance : Monad (Exchange σ) where
  pure value := fun state => (.ok value, state)
  bind first next := fun state =>
    match first state with
    | (.ok value, state) => next value state
    | (.error failure, state) => (.error failure, state)

theorem pure_apply (value : α) (state : σ) : (pure value : Exchange σ α) state = (.ok value, state) :=
  rfl

theorem bind_apply (first : Exchange σ α) (next : α → Exchange σ β) (state : σ) :
    (first >>= next) state =
      match first state with
      | (.ok value, state) => next value state
      | (.error failure, state) => (.error failure, state) :=
  rfl

theorem bind_eq_ok {first : Exchange σ α} {next : α → Exchange σ β} {state later : σ} {value : β} :
    (first >>= next) state = (.ok value, later) ↔
      ∃ found middle, first state = (.ok found, middle) ∧ next found middle = (.ok value, later) := by
  rw [bind_apply]
  rcases first state with ⟨failure | found, middle⟩
  · simp
  · constructor
    · intro continued
      exact ⟨found, middle, rfl, continued⟩
    · rintro ⟨_, _, same, continued⟩
      cases same
      exact continued

theorem id_map_apply (first : Exchange σ α) : id <$> first = first := by
  funext state
  show (match first state with
    | (.ok value, state) => (Except.ok value, state)
    | (.error failure, state) => (.error failure, state)) = first state
  rcases first state with ⟨outcome | outcome, state⟩ <;> rfl

theorem bind_assoc_apply {γ : Type} (first : Exchange σ α) (next : α → Exchange σ β)
    (last : β → Exchange σ γ) :
    (first >>= next >>= last) = first >>= fun value => next value >>= last := by
  funext state
  simp only [bind_apply]
  rcases first state with ⟨outcome | outcome, state⟩ <;> rfl

instance : LawfulMonad (Exchange σ) :=
  LawfulMonad.mk' (Exchange σ) id_map_apply (fun _ _ => rfl) bind_assoc_apply

def fail (failure : Failure) : Exchange σ α := fun state => (.error failure, state)

def lift {ε : Type} (describe : ε → Failure) : Except ε α → Exchange σ α
  | .ok value => pure value
  | .error error => fail (describe error)

def mapFailure (describe : Failure → Failure) (exchange : Exchange σ α) : Exchange σ α := fun state =>
  match exchange state with
  | (.ok value, state) => (.ok value, state)
  | (.error failure, state) => (.error (describe failure), state)

def within (part : ρ → σ) (replace : ρ → σ → ρ) (exchange : Exchange σ α) : Exchange ρ α := fun state =>
  let (outcome, changed) := exchange (part state)
  (outcome, replace state changed)

theorem map_apply (change : α → β) (exchange : Exchange σ α) (state : σ) :
    (change <$> exchange) state =
      match exchange state with
      | (.ok value, state) => (.ok (change value), state)
      | (.error failure, state) => (.error failure, state) :=
  rfl

theorem map_state (change : α → β) (exchange : Exchange σ α) (state : σ) :
    ((change <$> exchange) state).2 = (exchange state).2 := by
  rw [map_apply]
  rcases exchange state with ⟨failure | value, later⟩ <;> rfl

theorem map_outcome (change : α → β) (exchange : Exchange σ α) (state : σ) :
    ((change <$> exchange) state).1 = change <$> (exchange state).1 := by
  rw [map_apply]
  rcases exchange state with ⟨failure | value, later⟩ <;> rfl

theorem map_eq_ok {change : α → β} {exchange : Exchange σ α} {state later : σ} {value : β} :
    (change <$> exchange) state = (.ok value, later) ↔
      ∃ found, exchange state = (.ok found, later) ∧ change found = value := by
  rw [map_apply]
  rcases exchange state with ⟨failure | found, middle⟩
  · simp
  · constructor
    · intro same
      cases same
      exact ⟨found, rfl, rfl⟩
    · rintro ⟨_, same, rfl⟩
      cases same
      rfl

theorem lift_eq_ok {ε : Type} {describe : ε → Failure} {outcome : Except ε α} {state later : σ}
    {value : α} :
    (lift describe outcome : Exchange σ α) state = (.ok value, later) ↔
      outcome = .ok value ∧ state = later := by
  cases outcome with
  | ok found => simp [lift, pure_apply]
  | error error => simp [lift, fail]

theorem bind_lift_state {ε : Type} (first : Exchange σ α) (describe : ε → Failure)
    (next : α → Except ε β) (state : σ) :
    ((first >>= fun value => lift describe (next value)) state).2 = (first state).2 := by
  rw [bind_apply]
  rcases first state with ⟨failure | value, later⟩
  · rfl
  · show (lift describe (next value) later).2 = later
    cases next value <;> rfl

theorem mapFailure_eq_ok {describe : Failure → Failure} {exchange : Exchange σ α} {state later : σ}
    {value : α} :
    exchange.mapFailure describe state = (.ok value, later) ↔ exchange state = (.ok value, later) := by
  unfold mapFailure
  rcases exchange state with ⟨failure | found, middle⟩ <;> simp

theorem fail_bind (failure : Failure) (next : α → Exchange σ β) :
    (fail failure >>= next : Exchange σ β) = fail failure :=
  rfl

theorem lift_ok {ε : Type} (describe : ε → Failure) (value : α) :
    (lift describe (.ok value) : Exchange σ α) = pure value :=
  rfl

theorem lift_error {ε : Type} (describe : ε → Failure) (error : ε) :
    (lift describe (.error error) : Exchange σ α) = fail (describe error) :=
  rfl

theorem lift_apply {ε : Type} (describe : ε → Failure) (outcome : Except ε α) (state : σ) :
    (lift describe outcome : Exchange σ α) state = (outcome.mapError describe, state) := by
  cases outcome <;> rfl

end Exchange

end ApiDiscovery
