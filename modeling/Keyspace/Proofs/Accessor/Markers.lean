import Keyspace.Proofs.Accessor.Address
import Keyspace.Proofs.Accessor.Performing
import Keyspace.Proofs.Answer

/-!
# The markers of the key that was asked for

A flat map tells at two markers where it comes from and what went wrong. Entries of an answer are
written over them. Answers about one key never reach the markers, but the leaves of a listing have
keys of their own, and one of these can be a marker. `perform_markersGenuine_iff` says which
listings keep the markers of the directory as they are.
-/

namespace Keyspace

namespace Leaf

/-- What a leaf puts at the marker of the source of a key: a leaf at the key tells its own source
there, and a leaf at the marker has its value there. -/
def atSourceMarker (key source : String) (leaf : Leaf) : Option String :=
  if leaf.key = key then some source
  else if leaf.key = Companion.key key Companion.sourceName then leaf.data.value
  else none

/-- What a leaf puts at the marker of the error of a key. -/
def atErrorMarker (key : String) (leaf : Leaf) : Option String :=
  if leaf.key = Companion.key key Companion.errorName then leaf.data.value else none

private theorem fields_apart {name : String} (isMarker : Answer.IsMarker name)
    (owner key : String) :
    ∀ field ∈ NodeData.fieldNames, Companion.key owner ("" ++ field) ≠ Companion.key key name := by
  intro field isField
  have plain : '.' ∉ name.toList := by rcases isMarker with rfl | rfl <;> decide +kernel
  rw [String.empty_append, ne_eq,
    Companion.key_eq_key_iff (NodeData.not_mem_fieldNames field isField) plain]
  exact fun same => Answer.ne_of_isMarker isMarker field isField same.2

/-- The entries of a leaf at the marker of a source. -/
theorem valuesAt_source {leaf : Leaf} (isFromNode : leaf.data.IsFromNode) (key source : String) :
    Pairs.valuesAt (Companion.key key Companion.sourceName) (leaf.entries source) =
      (leaf.atSourceMarker key source).toList := by
  have noField := NodeData.valuesAt_fieldEntries "" isFromNode
    (fields_apart (.inl rfl) leaf.key key)
  have sameMarker : Companion.key leaf.key Companion.sourceName =
      Companion.key key Companion.sourceName ↔ leaf.key = key := by
    rw [Companion.key_eq_key_iff (by decide) (by decide), and_iff_left rfl]
  simp only [entries, Pairs.valuesAt_append, NodeData.valuesAt_valueEntry, noField,
    Pairs.valuesAt_singleton, sameMarker, atSourceMarker, List.append_nil]
  by_cases atKey : leaf.key = key
  · have apart : leaf.key ≠ Companion.key key Companion.sourceName := fun same =>
      Companion.key_ne_owner key Companion.sourceName (same.symm.trans atKey)
    simp only [if_neg apart, if_pos atKey]
    rfl
  · simp only [if_neg atKey, List.append_nil]
    split <;> rfl

/-- The entries of a leaf at the marker of an error. -/
theorem valuesAt_error {leaf : Leaf} (isFromNode : leaf.data.IsFromNode) (key source : String) :
    Pairs.valuesAt (Companion.key key Companion.errorName) (leaf.entries source) =
      (leaf.atErrorMarker key).toList := by
  have noField := NodeData.valuesAt_fieldEntries "" isFromNode
    (fields_apart (.inr rfl) leaf.key key)
  have otherMarker : Companion.key leaf.key Companion.sourceName ≠
      Companion.key key Companion.errorName := by
    rw [ne_eq, Companion.key_eq_key_iff (by decide) (by decide)]
    exact fun same => absurd same.2 (by decide)
  simp only [entries, Pairs.valuesAt_append, NodeData.valuesAt_valueEntry, noField,
    Pairs.valuesAt_singleton, if_neg otherMarker, atErrorMarker, List.append_nil]
  split <;> rfl

/-- The entries of several leaves at a place, from those of each. -/
theorem valuesAt_flatMap {leaves : List Leaf} {target source : String} {put : Leaf → Option String}
    (each : ∀ leaf ∈ leaves, Pairs.valuesAt target (leaf.entries source) = (put leaf).toList) :
    Pairs.valuesAt target (leaves.flatMap (entries source)) = leaves.filterMap put := by
  induction leaves with
  | nil => rfl
  | cons leaf later inductionHypothesis =>
    rw [List.flatMap_cons, Pairs.valuesAt_append, each leaf (by simp),
      inductionHypothesis fun other isOther => each other (by simp [isOther]), List.filterMap_cons]
    cases put leaf <;> rfl

/-- Leaves keep the markers of a key when none of them has a value at the marker of the error, and
the last of those that reach the marker of the source puts the source there. -/
structure KeepMarkers (key source : String) (leaves : List Leaf) : Prop where
  source : ∀ value, (leaves.filterMap (atSourceMarker key source)).getLast? = some value →
    value = source
  error : ∀ leaf ∈ leaves, leaf.atErrorMarker key = none

theorem keepMarkers_nil (key source : String) : KeepMarkers key source [] :=
  ⟨by simp, by simp⟩

end Leaf

namespace Accessor

variable {accessor : Accessor} {attempt : Attempt} {key : String}

/-- The leaves that an operation lists from the members of an answer: only a directory has any. -/
def leavesOf (operation : Operation) (members : List (String × Document)) : List Leaf :=
  match operation with
  | .readTree _ => (Answer.listing members).toOption.getD []
  | _ => []

/-- The leaves that an operation lists from a reply; an answer that is not usable lists none. -/
def listed (operation : Operation) : Reply → List Leaf
  | .ok response =>
    if response.status ∈ successStatuses then
      match Answer.members response.text with
      | .ok members => leavesOf operation members
      | .error _ => []
    else []
  | .error _ => []

/-- The entries of an answer at a marker are those of the leaves that the operation lists. -/
theorem valuesAt_entries {operation : Operation} {name source : String}
    {members : List (String × Document)} {pairs : List (String × String)}
    {put : Leaf → Option String} (isMarker : Answer.IsMarker name)
    (each : ∀ leaf : Leaf, leaf.data.IsFromNode →
      Pairs.valuesAt (Companion.key key name) (leaf.entries source) = (put leaf).toList)
    (isRead : operation.entries key source members = .ok pairs) :
    Pairs.valuesAt (Companion.key key name) pairs = (leavesOf operation members).filterMap put := by
  have spares := Answer.spares_marker key isMarker
  have apart : key ≠ Companion.key key name := (Companion.key_ne_owner key name).symm
  cases operation with
  | read =>
    obtain ⟨data, -, values⟩ := Answer.valuesAt_ofRead spares isRead
    rw [values, if_neg apart]
    rfl
  | write value lifetime =>
    obtain ⟨data, -, values⟩ := Answer.valuesAt_ofWrite spares isRead
    rw [values, if_neg apart]
    rfl
  | remove => exact Answer.valuesAt_ofRemove spares isRead
  | readTree _ =>
    cases isListing : Answer.listing members with
    | error fault => simp [Operation.entries, Answer.ofListing, isListing, Except.map] at isRead
    | ok leaves =>
      simp only [Operation.entries, Answer.ofListing, isListing, Except.map,
        Except.ok.injEq] at isRead
      subst isRead
      rw [Leaf.valuesAt_flatMap fun leaf isLeaf =>
        each leaf (Answer.isFromNode_of_listing isListing leaf isLeaf)]
      simp [leavesOf, isListing, Except.toOption]

/-- An answer whose entries cannot be read lists no leaves. -/
theorem leavesOf_of_error {operation : Operation} {source : String}
    {members : List (String × Document)} {fault : AnswerFault}
    (failed : operation.entries key source members = .error fault) :
    leavesOf operation members = [] := by
  cases operation with
  | readTree recursive =>
    cases isListing : Answer.listing members with
    | error fault => simp [leavesOf, isListing, Except.toOption]
    | ok leaves => simp [Operation.entries, Answer.ofListing, isListing, Except.map] at failed
  | _ => rfl

/-- An answer that is not usable lists no leaves. -/
theorem listed_of_unusable {response : Response} {fault : AnswerFault}
    (notRead : accessor.readAnswer attempt response.decoded = .error fault) :
    listed attempt.operation (.ok response) = [] := by
  simp only [listed]
  split
  · split
    · next members isMembers =>
      cases isPairs : attempt.operation.entries attempt.key accessor.source members with
      | error failed => exact leavesOf_of_error isPairs
      | ok pairs =>
        have isRead : accessor.readAnswer attempt response.decoded = .ok (Entries.ofList pairs) :=
          readAnswer_eq_ok_iff.2 ⟨members, pairs, Answer.members_eq_ok_iff.1 isMembers, isPairs, rfl⟩
        rw [isRead] at notRead
        cases notRead
    · rfl
  · rfl

/-- An answer that was understood has the entries of its members. -/
theorem exists_pairs_of_readAnswer {response : Response} {entries : Entries String}
    (success : response.status ∈ successStatuses)
    (isRead : accessor.readAnswer attempt response.decoded = .ok entries) :
    ∃ members pairs, attempt.operation.entries attempt.key accessor.source members = .ok pairs ∧
      entries = Entries.ofList pairs ∧
      listed attempt.operation (.ok response) = leavesOf attempt.operation members := by
  obtain ⟨members, pairs, isMembers, isPairs, rfl⟩ := readAnswer_eq_ok_iff.1 isRead
  exact ⟨members, pairs, isPairs, rfl, by
    simp [listed, success, Answer.members_eq_ok_iff.2 isMembers]⟩

/-- The markers of what an attempt is concluded with are genuine exactly when the listed leaves
keep them. -/
theorem Concludes.markersGenuine_iff {reply : Reply} {outcome : Outcome String} {event : Event}
    (concludes : Concludes accessor attempt reply outcome event) :
    outcome.MarkersGenuine ↔
      Leaf.KeepMarkers attempt.key accessor.source (listed attempt.operation reply) := by
  cases concludes with
  | unanswered _ =>
    exact iff_of_true (Outcome.markersGenuine_of_error rfl) (Leaf.keepMarkers_nil _ _)
  | refused noSuccess =>
    refine iff_of_true ((Outcome.markersGenuine_iff_of_noError rfl).2 ⟨?_, rfl⟩) ?_
    · simp
    · rw [listed, if_neg noSuccess]
      exact Leaf.keepMarkers_nil _ _
  | unusable _ isRead =>
    rw [listed_of_unusable isRead]
    exact iff_of_true (Outcome.markersGenuine_of_error rfl) (Leaf.keepMarkers_nil _ _)
  | understood success isRead =>
    obtain ⟨members, pairs, isPairs, rfl, isListed⟩ := exists_pairs_of_readAnswer success isRead
    have atSource := valuesAt_entries (.inl rfl)
      (fun leaf isFromNode => Leaf.valuesAt_source isFromNode attempt.key accessor.source) isPairs
    have atError := valuesAt_entries (.inr rfl)
      (fun leaf isFromNode => Leaf.valuesAt_error isFromNode attempt.key accessor.source) isPairs
    rw [Outcome.markersGenuine_iff_of_noError rfl, isListed]
    simp only [Outcome.sourceKey, Outcome.errorKey, Entries.find?_ofList, atSource, atError,
      List.getLast?_eq_none_iff, List.filterMap_eq_nil_iff]
    exact ⟨fun kept => ⟨kept.1, kept.2⟩, fun kept => ⟨kept.source, kept.error⟩⟩

/-- The markers are genuine whatever is concluded about one key: only directories list leaves. -/
theorem Concludes.markersGenuine {reply : Reply} {outcome : Outcome String} {event : Event}
    (concludes : Concludes accessor attempt reply outcome event)
    (single : ∀ recursive, attempt.operation ≠ .readTree recursive) : outcome.MarkersGenuine := by
  have none : listed attempt.operation reply = [] := by
    unfold listed
    split
    · split
      · split
        · unfold leavesOf
          split
          · next isDirectory => exact absurd isDirectory (single _)
          · rfl
        · rfl
      · rfl
    · rfl
  exact concludes.markersGenuine_iff.2 (none ▸ Leaf.keepMarkers_nil _ _)

/-- The markers of the outcome of an operation are genuine exactly when the leaves that it lists, if
it lists any, keep them. -/
theorem perform_markersGenuine_iff {State : Type} (serve : Server State) (accessor : Accessor)
    (isOpen : Bool) (operation : Operation) (key : String) (timeout : Option TimeoutSetting)
    (transcript : Transcript State) {outcome : Outcome String}
    (performed : (accessor.perform serve isOpen ⟨operation, .text key, timeout⟩ transcript).1 =
      .ok outcome) :
    outcome.key = key ∧ outcome.source = accessor.source ∧
      ∃ reply, Meets serve accessor isOpen operation key timeout transcript reply ∧
        (outcome.MarkersGenuine ↔
          Leaf.KeepMarkers key accessor.source (listed operation reply)) := by
  obtain ⟨attempt, event, prepared, concluded, -⟩ := exists_attempt_of_perform performed
  have isAttempt := isAttempt_of_prepare prepared
  obtain rfl : key = attempt.key := by simpa using isAttempt.key
  obtain rfl : attempt.operation = operation := isAttempt.operation
  have concludes := concludes_of_conclude concluded
  exact ⟨concludes.about.1, concludes.about.2, _, meets_dispatch isAttempt,
    concludes.markersGenuine_iff⟩

/-- The listing of a directory that holds one leaf. -/
def listingOf (directory leaf value : String) : Document :=
  .object [("node", .object [("key", .text directory), ("dir", .bool true),
    ("nodes", .array [.object [("key", .text leaf), ("value", .text value)]])])]

/-- A transcript whose server will answer once, with a document. -/
def answering (document : Document) : Transcript Script :=
  { server := [.ok (.ofDocument 200 document)] }

/-- The law at a listing with an ordinary leaf. -/
theorem perform_markersGenuine_iff_ordinary :
    ∃ outcome reply, (standard.perform Script.serve true ⟨.readTree true, .text "dir", none⟩
        (answering (listingOf "/dir" "/dir/a" "1"))).1 = .ok outcome ∧
      outcome.value = none ∧ outcome.toMap.find? "dir/a" = some "1" ∧
      (outcome.MarkersGenuine ↔
        Leaf.KeepMarkers "dir" standard.source (listed (.readTree true) reply)) := by
  have evaluated : (standard.perform Script.serve true ⟨.readTree true, .text "dir", none⟩
      (answering (listingOf "/dir" "/dir/a" "1"))).1.toOption.map (fun outcome =>
        (outcome.value, outcome.toMap.find? "dir/a")) = some (none, some "1") := by
    decide +kernel
  obtain ⟨outcome, performed, shown⟩ := exists_ok_of_toOption evaluated
  simp only [Prod.mk.injEq] at shown
  obtain ⟨-, -, reply, -, law⟩ := perform_markersGenuine_iff Script.serve standard true
    (.readTree true) "dir" none (answering (listingOf "/dir" "/dir/a" "1")) performed
  exact ⟨outcome, reply, performed, shown.1, shown.2, law⟩

/-- A leaf at the marker of the error of the root makes the listing of the root look like a
failure. -/
theorem exists_forged_error :
    ∃ outcome, (standard.perform Script.serve true ⟨.readTree true, .text "", none⟩
        (answering (listingOf "/" "/_.error" "forged"))).1 = .ok outcome ∧
      outcome.error = none ∧ outcome.toMap.find? outcome.errorKey = some "forged" := by
  have evaluated : (standard.perform Script.serve true ⟨.readTree true, .text "", none⟩
      (answering (listingOf "/" "/_.error" "forged"))).1.toOption.map (fun outcome =>
        (outcome.error, outcome.toMap.find? outcome.errorKey)) = some (none, some "forged") := by
    decide +kernel
  obtain ⟨outcome, performed, shown⟩ := exists_ok_of_toOption evaluated
  simp only [Prod.mk.injEq] at shown
  exact ⟨outcome, performed, shown.1, shown.2⟩

end Accessor

end Keyspace
