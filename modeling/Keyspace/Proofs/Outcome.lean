import Keyspace.Outcome

/-!
# The shapes of outcomes

An outcome has one of four shapes, told apart by its status and its error. `HasShape.views` states
what each view of an outcome shows for each shape: whether it is good, the error that a strict
caller meets, and the flat map. The views are computed apart from each other, and agree.
-/

namespace Keyspace

namespace Outcome

variable {α : Type}

/-- What an exchange came to. -/
inductive Shape where
  /-- There was no answer, for a cause that an error tells. -/
  | unanswered (cause : Fault) (error : AccessError)
  /-- The answer had no status of success. -/
  | refused (status : Int)
  /-- The answer had a status of success, and a body that was not usable. -/
  | unusable (status : Int) (error : AccessError)
  /-- The answer had a status of success, and was understood. -/
  | understood (status : Int)
deriving DecidableEq

/-- An outcome has a shape. -/
def HasShape (outcome : Outcome α) : Shape → Prop
  | .unanswered cause error =>
    outcome.status = none ∧ outcome.entries = Entries.empty ∧ outcome.error = some error ∧
      error.kind = .network ∧ error.cause = some cause
  | .refused status =>
    outcome.status = some status ∧ status ∉ successStatuses ∧ outcome.entries = Entries.empty ∧
      outcome.error = none
  | .unusable status error =>
    outcome.status = some status ∧ status ∈ successStatuses ∧ outcome.entries = Entries.empty ∧
      outcome.error = some error ∧ error.kind = .parse
  | .understood status =>
    outcome.status = some status ∧ status ∈ successStatuses ∧ outcome.error = none

/-- No outcome has two shapes. -/
theorem HasShape.unique {outcome : Outcome α} {shape other : Shape}
    (hasShape : outcome.HasShape shape) (hasOther : outcome.HasShape other) : shape = other := by
  cases shape <;> cases other <;> simp_all [HasShape]

@[simp] theorem isSuccess_some (status : Int) :
    isSuccess (some status) = decide (status ∈ successStatuses) := by
  simp [isSuccess]

theorem error_of_ok {outcome : Outcome α} (good : outcome.ok = true) : outcome.error = none := by
  simp only [ok, Bool.and_eq_true, Option.isNone_iff_eq_none] at good
  exact good.1

/-- What the views of an outcome show for a shape. -/
structure ViewsShow (outcome : Outcome String) (shape : Shape) : Prop where
  /-- Only an answer that was understood is good. -/
  ok : outcome.ok = match shape with
    | .understood _ => true
    | _ => false
  /-- A strict caller meets the error of the outcome, or one about the status; only an answer that
  was understood is no error. -/
  strict : match shape with
    | .unanswered _ error | .unusable _ error => outcome.strictError? = some error
    | .refused status => ∃ error, outcome.strictError? = some error ∧ error.kind = .network ∧
        error.key = some outcome.key ∧ error.status = some status
    | .understood _ => outcome.strictError? = none
  /-- The flat map tells its source, and the error if there is one; only an answer that was
  understood adds more. -/
  map : match shape with
    | .unanswered _ error | .unusable _ error => outcome.toMap.pairs =
        [(outcome.sourceKey, outcome.source), (outcome.errorKey, error.describe)]
    | .refused _ => outcome.toMap.pairs = [(outcome.sourceKey, outcome.source)]
    | .understood _ => outcome.toMap.contains outcome.sourceKey = true

theorem sourceKey_ne_errorKey (outcome : Outcome α) : outcome.sourceKey ≠ outcome.errorKey := by
  rw [sourceKey, errorKey, ne_eq, Companion.key_inj]
  decide

/-- The flat map of an outcome with an error. -/
theorem pairs_toMap_of_error {outcome : Outcome String} {error : AccessError}
    (hasError : outcome.error = some error) :
    outcome.toMap.pairs =
      [(outcome.sourceKey, outcome.source), (outcome.errorKey, error.describe)] := by
  simp [toMap, toMapBy, hasError, Entries.insert, Entries.empty, Pairs.insert,
    outcome.sourceKey_ne_errorKey]

/-- The flat map of an outcome with an error has nothing but its markers. -/
theorem find?_toMap_of_error {outcome : Outcome String} {error : AccessError}
    (hasError : outcome.error = some error) {target : String}
    (notError : outcome.errorKey ≠ target) :
    outcome.toMap.find? target =
      if outcome.sourceKey = target then some outcome.source else none := by
  simp [Entries.find?, pairs_toMap_of_error hasError, Pairs.find?, notError]

/-- The flat map of an outcome without an error has its entries, and tells its source unless they
do. -/
theorem find?_toMap_of_noError {outcome : Outcome String} (noError : outcome.error = none)
    (key : String) :
    outcome.toMap.find? key = (outcome.entries.find? key).or
      (if outcome.sourceKey = key then some outcome.source else none) := by
  simp only [toMap, toMapBy, noError, Entries.find?_merge, Entries.find?_insert, id_eq]
  rfl

/-- The markers of an outcome are genuine when its flat map tells its source at the one, and at the
other its error, if it has one, and nothing else. -/
structure MarkersGenuine (outcome : Outcome String) : Prop where
  source : outcome.toMap.find? outcome.sourceKey = some outcome.source
  error : outcome.toMap.find? outcome.errorKey = outcome.error.map AccessError.describe

/-- The markers of an outcome with an error are genuine. -/
theorem markersGenuine_of_error {outcome : Outcome String} {error : AccessError}
    (hasError : outcome.error = some error) : outcome.MarkersGenuine := by
  have pairs := pairs_toMap_of_error hasError
  refine ⟨?_, ?_⟩
  · simp [Entries.find?, pairs, Pairs.find?]
  · simp [Entries.find?, pairs, Pairs.find?, outcome.sourceKey_ne_errorKey, hasError]

/-- The markers of an outcome without an error are genuine exactly when its entries have nothing at
the marker of the error, and nothing but the source at the marker of the source. -/
theorem markersGenuine_iff_of_noError {outcome : Outcome String} (noError : outcome.error = none) :
    outcome.MarkersGenuine ↔
      (∀ value, outcome.entries.find? outcome.sourceKey = some value → value = outcome.source) ∧
        outcome.entries.find? outcome.errorKey = none := by
  have atSource := find?_toMap_of_noError noError outcome.sourceKey
  have atError := find?_toMap_of_noError noError outcome.errorKey
  rw [if_pos rfl] at atSource
  rw [if_neg outcome.sourceKey_ne_errorKey, Option.or_none] at atError
  constructor
  · rintro ⟨source, error⟩
    rw [atSource] at source
    rw [atError, noError] at error
    refine ⟨?_, error⟩
    intro value isValue
    rw [isValue] at source
    simpa using source
  · rintro ⟨source, error⟩
    refine ⟨?_, ?_⟩
    · rw [atSource]
      cases isValue : outcome.entries.find? outcome.sourceKey with
      | none => rfl
      | some value => simp [source value isValue]
    · rw [atError, error, noError]
      rfl

/-- The views of an outcome show what its shape says. -/
theorem HasShape.views {outcome : Outcome String} {shape : Shape}
    (hasShape : outcome.HasShape shape) : outcome.ViewsShow shape := by
  cases shape with
  | unanswered cause error =>
    obtain ⟨noStatus, -, hasError, -, -⟩ := hasShape
    exact ⟨by simp [Outcome.ok, hasError], by simp [strictError?, hasError],
      pairs_toMap_of_error hasError⟩
  | refused status =>
    obtain ⟨isStatus, noSuccess, noEntries, noError⟩ := hasShape
    refine ⟨by simp [Outcome.ok, isStatus, noSuccess], ?_, ?_⟩
    · simp [strictError?, noError, isStatus, noSuccess]
    · simp [toMap, toMapBy, noError, noEntries, Entries.insert, Entries.empty, Pairs.insert,
        Entries.merge, Pairs.insertAll]
  | unusable status error =>
    obtain ⟨isStatus, -, -, hasError, -⟩ := hasShape
    exact ⟨by simp [Outcome.ok, hasError], by simp [strictError?, hasError],
      pairs_toMap_of_error hasError⟩
  | understood status =>
    obtain ⟨isStatus, isSuccess, noError⟩ := hasShape
    refine ⟨by simp [Outcome.ok, isStatus, isSuccess, noError], ?_, ?_⟩
    · simp [strictError?, noError, isStatus, isSuccess]
    · simp only [Entries.contains, find?_toMap_of_noError noError, if_true]
      cases outcome.entries.find? outcome.sourceKey <;> rfl

end Outcome

end Keyspace
