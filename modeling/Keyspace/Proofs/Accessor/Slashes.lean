import Keyspace.Proofs.Accessor.Replay
import Keyspace.Proofs.Accessor.SingleKey
import Mathlib.Data.List.Nodup

/-!
# Slashes in front of keys

The address of a key leaves out the slashes in front of it, while flat maps use the key as it is
written. `perform_slashed` says that nothing else depends on these slashes: with any number of them
the same request is sent, the result is of the same kind, and a map has the same values at the same
places, which are the key itself and its companions.
-/

namespace Keyspace

namespace Companion

/-- A place that a key has: the key itself, or its companion with a name. -/
def place (owner : String) : Option String → String
  | none => owner
  | some name => key owner name

/-- The places of a key differ. -/
theorem place_inj {owner : String} {label other : Option String} :
    place owner label = place owner other ↔ label = other := by
  constructor
  · intro same
    cases label with
    | none =>
      cases other with
      | none => rfl
      | some name => exact absurd same.symm (key_ne_owner owner name)
    | some name =>
      cases other with
      | none => exact absurd same (key_ne_owner owner name)
      | some otherName => rw [key_inj.1 same]
  · rintro rfl
    rfl

/-- Values at places of a key. -/
def placeAll (owner : String) (placed : List (Option String × String)) : List (String × String) :=
  placed.map fun (label, value) => (place owner label, value)

/-- What makes pairs for a key puts the same values at the same places of every key, and these have
some of the given labels, in their order. -/
def ArePlaced (labels : List (Option String)) (pairsOf : String → List (String × String)) : Prop :=
  ∃ placed : List (Option String × String), (placed.map Prod.fst).Sublist labels ∧
    ∀ owner, pairsOf owner = placeAll owner placed

namespace ArePlaced

variable {labels others : List (Option String)}
  {pairsOf otherPairsOf : String → List (String × String)}

theorem nil : ArePlaced labels fun _ => [] :=
  ⟨[], List.nil_sublist labels, fun _ => rfl⟩

/-- Pairs behind pairs are placed at the labels of both. -/
theorem append (first : ArePlaced labels pairsOf) (second : ArePlaced others otherPairsOf) :
    ArePlaced (labels ++ others) fun owner => pairsOf owner ++ otherPairsOf owner := by
  obtain ⟨placed, within, isPlaced⟩ := first
  obtain ⟨otherPlaced, otherWithin, isOtherPlaced⟩ := second
  refine ⟨placed ++ otherPlaced, ?_, fun owner => ?_⟩
  · rw [List.map_append]
    exact within.append otherWithin
  · show pairsOf owner ++ otherPairsOf owner = placeAll owner (placed ++ otherPlaced)
    rw [isPlaced, isOtherPlaced, placeAll, placeAll, placeAll, List.map_append]

theorem mono (isPlaced : ArePlaced labels pairsOf) (fewer : labels.Sublist others) :
    ArePlaced others pairsOf := by
  obtain ⟨placed, within, placedAt⟩ := isPlaced
  exact ⟨placed, within.trans fewer, placedAt⟩

end ArePlaced

end Companion

open Companion (place placeAll ArePlaced)

/-- Pairs with keys that differ from each other and from those written before go to the end. -/
theorem Pairs.insertAll_of_nodup {α : Type} {added pairs : List (String × α)}
    (distinct : (keys (pairs ++ added)).Nodup) : insertAll added pairs = pairs ++ added := by
  induction added generalizing pairs with
  | nil => simp [insertAll]
  | cons pair later inductionHypothesis =>
    have absent : pair.1 ∉ keys pairs := by
      rw [keys_append, List.nodup_append] at distinct
      exact fun present => distinct.2.2 _ present pair.1 (by simp [keys]) rfl
    have onward : insertAll later (pairs ++ [pair]) = pairs ++ [pair] ++ later :=
      inductionHypothesis (by simpa using distinct)
    rw [insertAll, List.foldl_cons, insert_of_not_mem pair.2 absent]
    simpa [insertAll] using onward

/-- Values at places that differ are all kept. -/
theorem Entries.pairs_ofList_placeAll (owner : String) {placed : List (Option String × String)}
    (distinct : (placed.map Prod.fst).Nodup) :
    (Entries.ofList (placeAll owner placed)).pairs = placeAll owner placed := by
  have keysDistinct : (Pairs.keys (placeAll owner placed)).Nodup := by
    have areKeys : Pairs.keys (placeAll owner placed) =
        (placed.map Prod.fst).map (place owner) := by
      simp [Pairs.keys, placeAll, Function.comp_def]
    rw [areKeys]
    exact distinct.map fun _ _ same => Companion.place_inj.1 same
  exact Pairs.insertAll_of_nodup (by simpa using keysDistinct)

namespace NodeData

/-- The labels of the fields of a node. -/
def fieldLabels (label : String) : List (Option String) :=
  fieldNames.map fun name => some (label ++ name)

/-- The value of a node is placed where it is put. -/
theorem arePlaced_valueEntry (data : NodeData) (label : Option String) :
    ArePlaced [label] fun owner => data.valueEntry (place owner label) := by
  cases isValue : data.value with
  | none => exact ⟨[], by simp, fun owner => by simp [valueEntry, isValue, placeAll]⟩
  | some value =>
    exact ⟨[(label, value)], by simp, fun owner => by simp [valueEntry, isValue, placeAll]⟩

/-- The fields of a node are placed at companions, in their fixed order. -/
theorem arePlaced_fieldEntries (members : List (String × Document)) (label : String) :
    ArePlaced (fieldLabels label) fun owner => (ofMembers members).fieldEntries owner label := by
  refine ⟨(ofMembers members).fields.map fun field => (some (label ++ field.1), field.2), ?_,
    fun owner => by simp [fieldEntries, placeAll, place, Function.comp_def]⟩
  have areLabels : ((ofMembers members).fields.map fun field =>
      (some (label ++ field.1), field.2)).map Prod.fst =
        (Pairs.keys (ofMembers members).fields).map fun name => some (label ++ name) := by
    simp [Pairs.keys, Function.comp_def]
  rw [areLabels]
  exact (keys_fields_sublist members).map _

end NodeData

namespace Answer

variable {members : List (String × Document)}

/-- The labels at which an answer about a key is placed, in the order in which they are filled. -/
def labels : List (Option String) :=
  (none :: NodeData.fieldLabels "") ++
    (NodeData.fieldLabels previousLabel ++ [some (previousLabel ++ "value")])

theorem nodup_labels : labels.Nodup := by decide +kernel

theorem arePlaced_readEntries (node : List (String × Document)) :
    ArePlaced (none :: NodeData.fieldLabels "") fun owner =>
      readEntries owner (NodeData.ofMembers node) :=
  ((NodeData.ofMembers node).arePlaced_valueEntry none).append
    (NodeData.arePlaced_fieldEntries node "")

/-- The node as it was before is placed with its fields and its value, if the answer tells of it. -/
theorem arePlaced_previous {before : Option NodeData}
    (isPrevious : previous members = .ok before) :
    ArePlaced (NodeData.fieldLabels previousLabel ++ [some (previousLabel ++ "value")]) fun owner =>
      before.toList.flatMap (previousEntries owner) := by
  rw [eq_of_previous isPrevious]
  cases previousNode? members with
  | none => exact .nil
  | some node =>
    have isPlaced := (NodeData.arePlaced_fieldEntries node previousLabel).append
      ((NodeData.ofMembers node).arePlaced_valueEntry (some (previousLabel ++ "value")))
    simpa [previousEntries, place] using isPlaced

end Answer

namespace Operation

variable {operation : Operation}

/-- The operation lists a directory. -/
def Lists : Operation → Prop
  | .readTree _ => True
  | _ => False

/-- An answer about one key is refused for all keys alike, or else placed for all of them. -/
theorem entries_placed (noListing : ¬ operation.Lists) (members : List (String × Document)) :
    (∃ fault, ∀ key source, operation.entries key source members = .error fault) ∨
      ∃ pairsOf, ArePlaced Answer.labels pairsOf ∧
        ∀ key source, operation.entries key source members = .ok (pairsOf key) := by
  cases isNode : Answer.node members with
  | error fault =>
    refine .inl ⟨fault, fun key source => ?_⟩
    cases operation with
    | read => simp [entries, Answer.ofRead, isNode, Except.map]
    | write => simp [entries, Answer.ofWrite, isNode, bind, Except.bind]
    | remove => simp [entries, Answer.ofRemove, isNode, bind, Except.bind]
    | readTree => exact absurd trivial noListing
  | ok data =>
    obtain ⟨node, -, rfl⟩ := Answer.exists_node isNode
    have own := Answer.arePlaced_readEntries node
    cases operation with
    | read =>
      refine .inr ⟨_, own.mono (List.sublist_append_left _ _), fun key source => ?_⟩
      simp [entries, Answer.ofRead, isNode, Except.map]
    | write =>
      cases isPrevious : Answer.previous members with
      | error fault =>
        refine .inl ⟨fault, fun key source => ?_⟩
        simp [entries, Answer.ofWrite, isNode, isPrevious, bind, Except.bind]
      | ok before =>
        refine .inr ⟨_, own.append (Answer.arePlaced_previous isPrevious), fun key source => ?_⟩
        simp [entries, Answer.ofWrite, isNode, isPrevious, bind, Except.bind, pure, Except.pure]
    | remove =>
      cases isPrevious : Answer.previous members with
      | error fault =>
        refine .inl ⟨fault, fun key source => ?_⟩
        simp [entries, Answer.ofRemove, isNode, isPrevious, bind, Except.bind]
      | ok before =>
        have isPlaced := (NodeData.arePlaced_fieldEntries node "").append
          (Answer.arePlaced_previous isPrevious)
        refine .inr ⟨_, isPlaced.mono (List.sublist_cons_self _ _), fun key source => ?_⟩
        simp [entries, Answer.ofRemove, isNode, isPrevious, bind, Except.bind, pure, Except.pure]
    | readTree => exact absurd trivial noListing

end Operation

/-- Outcomes of one operation that are the same up to the key that was asked for. -/
structure Outcome.IsRenamed (operation : Operation) (outcome renamed : Outcome String) : Prop where
  source : renamed.source = outcome.source
  status : renamed.status = outcome.status
  ok : renamed.ok = outcome.ok
  errorKind : renamed.error.map AccessError.kind = outcome.error.map AccessError.kind
  errorCause : renamed.error.map AccessError.cause = outcome.error.map AccessError.cause
  /-- A listing has the keys of its leaves, whatever the key of the directory. -/
  listed : operation.Lists → renamed.entries = outcome.entries
  /-- Any other operation has the same values, in the same order and at the same places. -/
  placed : ¬ operation.Lists → ∃ placed : List (Option String × String),
    outcome.entries.pairs = placeAll outcome.key placed ∧
      renamed.entries.pairs = placeAll renamed.key placed

/-- Results of one operation about two keys that are the same up to these. -/
inductive Outcome.AreAlike (operation : Operation) (key other : String) :
    Except Failure (Outcome String) → Except Failure (Outcome String) → Prop where
  | raised (failure : Failure) : AreAlike operation key other (.error failure) (.error failure)
  | came {outcome renamed : Outcome String} (isKey : outcome.key = key)
      (isOther : renamed.key = other) (isRenamed : outcome.IsRenamed operation renamed) :
      AreAlike operation key other (.ok outcome) (.ok renamed)

/-- The cause of a fault does not depend on the key. -/
theorem AnswerFault.cause_error (fault : AnswerFault) (key other : String) :
    (fault.error other).cause = (fault.error key).cause := by
  rcases fault with ⟨_, _⟩ | ⟨_, _⟩ | _ | _ | _ | _ | (_ | _ | _ | _)
  case undecodable =>
    simp only [error]
    split <;> rfl
  all_goals rfl

namespace Accessor

variable {State : Type} {serve : Server State} {accessor : Accessor} {isOpen : Bool}
  {transcript : Transcript State} {attempt : Attempt}

/-- A key with slashes in front of it. -/
def slashed (count : Nat) (key : String) : String :=
  String.ofList (List.replicate count '/' ++ key.toList)

/-- Slashes in front of a key are no part of its address. -/
theorem keyAddress_slashed (accessor : Accessor) (count : Nat) (key : String) :
    accessor.keyAddress (slashed count key) = accessor.keyAddress key := by
  have stripped : (slashed count key).toList.dropWhile (· = '/') =
      key.toList.dropWhile (· = '/') := by simp [slashed]
  rw [keyAddress, keyAddress, keyPath, keyPath, stripped]

/-- The attempt at an operation about another key with the same address. -/
theorem prepare_slashed (operation : Operation) (key : String) (timeout : Option TimeoutSetting)
    (count : Nat) :
    accessor.prepare ⟨operation, .text (slashed count key), timeout⟩ =
      (accessor.prepare ⟨operation, .text key, timeout⟩).map fun attempt =>
        { attempt with key := slashed count key } := by
  simp only [prepare, Argument.key_text, keyAddress_slashed, bind, Except.bind]
  split
  · rfl
  split
  · rfl
  split
  · rfl
  split <;> rfl

/-- A body is refused for two keys alike, or else it has the same values for both. -/
theorem readAnswer_alike (accessor : Accessor) (attempt : Attempt) (other : String)
    (body : Except Content.DecodingFault String) :
    (∃ fault, accessor.readAnswer attempt body = .error fault ∧
        accessor.readAnswer { attempt with key := other } body = .error fault) ∨
      ∃ entries renamed, accessor.readAnswer attempt body = .ok entries ∧
        accessor.readAnswer { attempt with key := other } body = .ok renamed ∧
        (attempt.operation.Lists → renamed = entries) ∧
        (¬ attempt.operation.Lists → ∃ placed : List (Option String × String),
          entries.pairs = placeAll attempt.key placed ∧ renamed.pairs = placeAll other placed) := by
  rcases body with fault | body
  · exact .inl ⟨.undecodable fault, rfl, rfl⟩
  simp only [readAnswer, Except.mapError, bind, Except.bind]
  cases Answer.members body with
  | error fault => exact .inl ⟨fault, rfl, rfl⟩
  | ok members =>
    simp only
    by_cases lists : attempt.operation.Lists
    · -- The key of the directory is no part of a listing.
      cases isOperation : attempt.operation with
      | readTree recursive =>
        simp only [Operation.entries]
        cases Answer.ofListing accessor.source members with
        | error fault => exact .inl ⟨fault, rfl, rfl⟩
        | ok pairs =>
          exact .inr ⟨_, _, rfl, rfl, fun _ => rfl, fun noListing => absurd trivial noListing⟩
      | _ => simp [isOperation, Operation.Lists] at lists
    · rcases Operation.entries_placed lists members with
        ⟨fault, refused⟩ | ⟨pairsOf, ⟨placed, within, placedAt⟩, made⟩
      · exact .inl ⟨fault, by rw [refused], by rw [refused]⟩
      · have kept : ∀ owner, (Entries.ofList (pairsOf owner)).pairs = placeAll owner placed := by
          intro owner
          rw [placedAt, Entries.pairs_ofList_placeAll owner (Answer.nodup_labels.sublist within)]
        simp only [made]
        exact .inr ⟨_, _, rfl, rfl, fun isListing => absurd isListing lists,
          fun _ => ⟨placed, kept attempt.key, kept other⟩⟩

/-- A reply is concluded for two keys alike. -/
theorem conclude_alike (accessor : Accessor) (attempt : Attempt) (other : String) (reply : Reply) :
    Outcome.AreAlike attempt.operation attempt.key other
      ((accessor.conclude attempt reply).map Prod.fst)
      ((accessor.conclude { attempt with key := other } reply).map Prod.fst) := by
  have noEntries : ∀ owner, (Entries.empty : Entries String).pairs = placeAll owner [] :=
    fun _ => rfl
  cases reply with
  | error fault =>
    simp only [conclude]
    split
    · exact .came rfl rfl ⟨rfl, rfl, rfl, rfl, rfl, fun _ => rfl,
        fun _ => ⟨[], noEntries _, noEntries _⟩⟩
    · exact .raised _
  | ok response =>
    simp only [conclude]
    split
    · exact .raised _
    simp only [concludeResponse_eq]
    split
    · rcases accessor.readAnswer_alike attempt other response.decoded with
        ⟨fault, refused, refusedOther⟩ | ⟨entries, renamed, made, madeOther, listed, placed⟩
      · simp only [refused, refusedOther]
        refine .came rfl rfl ⟨rfl, rfl, rfl, ?_, ?_, fun _ => rfl,
          fun _ => ⟨[], noEntries _, noEntries _⟩⟩
        · simp
        · simp [fault.cause_error attempt.key other]
      · simp only [made, madeOther]
        exact .came rfl rfl ⟨rfl, rfl, rfl, rfl, rfl, listed, placed⟩
    · exact .came rfl rfl ⟨rfl, rfl, rfl, rfl, rfl, fun _ => rfl,
        fun _ => ⟨[], noEntries _, noEntries _⟩⟩

/-- What an attempt comes to is concluded from the reply to it. -/
theorem result_perform {call : Call} (prepared : accessor.prepare call = .ok attempt) :
    (accessor.perform serve isOpen call transcript).1 =
      (accessor.conclude attempt (dispatch serve isOpen attempt.request transcript).1).map
        Prod.fst := by
  simp only [perform, prepared]
  split
  · next failed => rw [failed]; rfl
  · next concluded => rw [concluded]; rfl

/-- Slashes in front of a key do not change what is sent. -/
theorem requestsOf_slashed (operation : Operation) (key : String) (timeout : Option TimeoutSetting)
    (count : Nat) :
    accessor.requestsOf isOpen ⟨operation, .text (slashed count key), timeout⟩ =
      accessor.requestsOf isOpen ⟨operation, .text key, timeout⟩ := by
  simp only [requestsOf, prepare_slashed]
  cases accessor.prepare ⟨operation, .text key, timeout⟩ <;> rfl

/-- Slashes in front of a key only rename what an operation comes to. -/
theorem perform_slashed (serve : Server State) (accessor : Accessor) (isOpen : Bool)
    (operation : Operation) (key : String) (timeout : Option TimeoutSetting) (count : Nat)
    (transcript : Transcript State) :
    let plain := accessor.perform serve isOpen ⟨operation, .text key, timeout⟩ transcript
    let renamed :=
      accessor.perform serve isOpen ⟨operation, .text (slashed count key), timeout⟩ transcript
    renamed.2.requests = plain.2.requests ∧ renamed.2.server = plain.2.server ∧
      Outcome.AreAlike operation key (slashed count key) plain.1 renamed.1 := by
  intro plain renamed
  refine ⟨?_, ?_, ?_⟩
  · simp only [plain, renamed, requests_perform, prepare_slashed]
    cases accessor.prepare ⟨operation, .text key, timeout⟩ <;> rfl
  · rw [server_perform, server_perform, requestsOf_slashed]
  · have preparedSlashed : accessor.prepare ⟨operation, .text (slashed count key), timeout⟩ = _ :=
      prepare_slashed operation key timeout count
    cases prepared : accessor.prepare ⟨operation, .text key, timeout⟩ with
    | error failure =>
      rw [prepared] at preparedSlashed
      simp only [plain, renamed, perform, prepared, preparedSlashed, Except.map]
      exact .raised failure
    | ok attempt =>
      rw [prepared] at preparedSlashed
      have isAttempt := isAttempt_of_prepare prepared
      obtain rfl : key = attempt.key := by simpa using isAttempt.key
      obtain rfl : attempt.operation = operation := isAttempt.operation
      simp only [plain, renamed, result_perform prepared, result_perform preparedSlashed]
      exact accessor.conclude_alike attempt (slashed count attempt.key) _

end Accessor

end Keyspace
