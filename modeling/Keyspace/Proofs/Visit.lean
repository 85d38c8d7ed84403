import Keyspace.Proofs.Accessor.Listing
import Keyspace.Proofs.Accessor.Markers
import Keyspace.Proofs.PropertySource

/-!
# Visits to property sources

A source has been visited when its listing came to a flat map, of whatever kind. What the map shows
is told by the leaves in the answer: `find?_toMap` says this for every key but that of an error, and
the lemmas after it for the keys of properties, of fields and of markers.
-/

namespace Keyspace

namespace Leaf

variable {leaf : Leaf} {key name : String}

/-- The value of a leaf, if the key is its own. -/
def valueAt (key : String) (leaf : Leaf) : Option String :=
  if leaf.key = key then leaf.data.value else none

/-- A field of a leaf, if the key is its own. -/
def fieldAt (key name : String) (leaf : Leaf) : Option String :=
  if leaf.key = key then Pairs.find? name leaf.data.fields else none

/-- A leaf is made from the members of a node. -/
def IsMade (leaf : Leaf) : Prop := ∃ members, ofMembers members = .ok leaf

/-- What is made from a node has the fields of a node, each once at most. -/
theorem IsMade.fields (isMade : leaf.IsMade) :
    leaf.data.IsFromNode ∧ (Pairs.keys leaf.data.fields).Nodup := by
  obtain ⟨members, isMade⟩ := isMade
  obtain ⟨key, -, rfl⟩ := exists_key_of_ofMembers isMade
  exact ⟨NodeData.isFromNode_ofMembers members, NodeData.nodup_keys_fields members⟩

/-- At a key that is not set aside, a leaf has nothing but its value. -/
theorem valuesAt_of_not_isReserved (isMade : leaf.IsMade) (source : String)
    (plain : Companion.isReserved key = false) :
    Pairs.valuesAt key (leaf.entries source) = (leaf.valueAt key).toList := by
  have noField := NodeData.valuesAt_fieldEntries "" isMade.fields.1 fun field _ =>
    Companion.ne_of_not_isReserved plain leaf.key ("" ++ field)
  have noMarker := Companion.ne_of_not_isReserved plain leaf.key Companion.sourceName
  simp only [entries, Pairs.valuesAt_append, NodeData.valuesAt_valueEntry, noField,
    Pairs.valuesAt_singleton, if_neg noMarker, valueAt, List.append_nil]
  split <;> rfl

/-- At the companion of a key for a field, a leaf whose own key is not set aside has nothing but
this field. -/
theorem valuesAt_field (isMade : leaf.IsMade) (source key : String)
    (plain : Companion.isReserved leaf.key = false) (isField : name ∈ NodeData.fieldNames) :
    Pairs.valuesAt (Companion.key key name) (leaf.entries source) =
      (leaf.fieldAt key name).toList := by
  have noPoint := NodeData.not_mem_fieldNames name isField
  have noValue := (Companion.ne_of_not_isReserved plain key name).symm
  have noMarker : Companion.key leaf.key Companion.sourceName ≠ Companion.key key name := by
    rw [ne_eq, Companion.key_eq_key_iff (by decide) noPoint]
    exact fun same => Answer.ne_of_isMarker (.inl rfl) name isField same.2.symm
  simp only [entries, Pairs.valuesAt_append, NodeData.valuesAt_valueEntry, if_neg noValue,
    NodeData.valuesAt_fieldEntries_key isMade.fields.1 noPoint, Pairs.valuesAt_singleton,
    if_neg noMarker, fieldAt, List.append_nil, List.nil_append]
  split
  · exact Pairs.valuesAt_of_distinct isMade.fields.2 name
  · rfl

/-- At the companion of a key for the source, a leaf whose own key is not set aside has its source,
if the key is its own. -/
theorem atSourceMarker_of_not_isReserved (source key : String)
    (plain : Companion.isReserved leaf.key = false) :
    leaf.atSourceMarker key source = if leaf.key = key then some source else none := by
  have apart := (Companion.ne_of_not_isReserved plain key Companion.sourceName).symm
  rw [atSourceMarker, if_neg apart]

end Leaf

/-- A source that was listed: the accessor that it worked with, the reply, and what that came to. -/
structure Visit where
  source : PropertySource
  accessor : Accessor
  reply : Reply
  outcome : Outcome String

namespace Visit

variable {State : Type} {serve : Server State} {default : DefaultAccessor}
  {visit : Visit} {before after : Transcript State} {target key name : String}

/-- A visit takes place after a transcript and leads to another one. -/
structure Leads (serve : Server State) (default : DefaultAccessor) (visit : Visit)
    (before after : Transcript State) : Prop where
  resolved : visit.source.resolve default = .ok visit.accessor
  meets : Accessor.Meets serve visit.accessor visit.source.isOpen (.readTree true)
    visit.source.directory none before visit.reply
  performed : (visit.accessor.perform serve visit.source.isOpen visit.source.listing before).1 =
    .ok visit.outcome
  listed : visit.source.properties serve default before = (.ok visit.outcome.toMap, after)

/-- The leaves that a document lists, made from its nodes. -/
def leavesOf (document : Document) : List Leaf :=
  document.listedNodes.filterMap fun node => (Leaf.ofMembers node).toOption

/-- The leaves of a listing that succeeded, in the order of the document. -/
def leaves (visit : Visit) : List Leaf :=
  match visit.reply with
  | .error _ => []
  | .ok response =>
    if visit.outcome.ok then ((Json.read response.text).toOption.map leavesOf).getD [] else []

/-- The key at which a visit tells its source. -/
def sourceKey (visit : Visit) : String :=
  Companion.key visit.source.directory Companion.sourceName

/-- The source that a visit tells for a key: it lists a leaf there, or the key is its directory. -/
def sourceAt (key : String) (visit : Visit) : Option String :=
  if (∃ leaf ∈ visit.leaves, leaf.key = key) ∨ visit.source.directory = key then
    some visit.accessor.source
  else none

/-- A source that was listed without a failure has been visited. -/
theorem exists_leads {source : PropertySource} {listed : Entries String}
    (isListed : source.properties serve default before = (.ok listed, after)) :
    ∃ visit : Visit, visit.source = source ∧ visit.outcome.toMap = listed ∧
      visit.Leads serve default before after := by
  have properties := isListed
  unfold PropertySource.properties at properties
  split at properties
  · simp at properties
  next accessor resolved =>
  split at properties
  · simp at properties
  next outcome between isPerformed =>
  have isMap : outcome.toMap = listed := by
    split at properties <;> exact Except.ok.inj (congrArg Prod.fst properties)
  have performed : (accessor.perform serve source.isOpen source.listing before).1 = .ok outcome := by
    rw [isPerformed]
  obtain ⟨reply, meets⟩ := Accessor.exists_meets_of_perform performed
  subst isMap
  exact ⟨⟨source, accessor, reply, outcome⟩, rfl, rfl, resolved, meets, performed, isListed⟩

/-- A source that can be asked is visited with every reply but one that ends an operation, and sends
one request for it. -/
theorem exists_leads_of_goesOn {source : PropertySource} (addressed : source.IsAddressed default)
    (goesOn : ∀ request, Accessor.endingFault? (serve before.server request).1 = none) :
    ∃ (visit : Visit) (request : Request) (after : Transcript State),
      source.requests default = [request] ∧ visit.source = source ∧
      visit.reply = (serve before.server request).1 ∧ visit.Leads serve default before after := by
  obtain ⟨opened, accessor, url, resolved, isUrl⟩ := addressed
  let request : Request :=
    { method := .get, url, form := none, timeout := accessor.timeout }
  have prepared : accessor.prepare source.listing = .ok
      { operation := .readTree true, key := source.directory
        address := accessor.keyAddress source.directory, request := .ok request } :=
    Accessor.prepare_eq_ok rfl rfl isUrl rfl
  have meets : Accessor.Meets serve accessor source.isOpen (.readTree true) source.directory none
      before (serve before.server request).1 := .served request opened isUrl rfl rfl rfl
  have isReply := meets.unique (Accessor.meets_dispatch (Accessor.isAttempt_of_prepare prepared))
  obtain ⟨outcome, performed⟩ :=
    Accessor.exists_outcome_of_goesOn prepared (isReply ▸ goesOn request)
  obtain ⟨after, isListed⟩ : ∃ after,
      source.properties serve default before = (.ok outcome.toMap, after) := by
    rcases isPerformed : accessor.perform serve source.isOpen source.listing before with
      ⟨result, between⟩
    rw [isPerformed] at performed
    obtain rfl : result = .ok outcome := performed
    simp only [PropertySource.properties, resolved, isPerformed]
    split <;> exact ⟨_, rfl⟩
  obtain ⟨visit, rfl, -, leads⟩ := exists_leads isListed
  obtain rfl : visit.accessor = accessor := by simpa [leads.resolved] using resolved
  exact ⟨visit, request, after, by simp [PropertySource.requests, resolved, Accessor.requestsOf,
    prepared, Accessor.sent, opened], rfl, leads.meets.unique meets, leads⟩

theorem Leads.yields (leads : visit.Leads serve default before after) :
    Accessor.Yields visit.accessor (.readTree true) visit.source.directory visit.reply
      visit.outcome :=
  .run serve visit.source.isOpen none before leads.meets leads.performed

/-- A visit with leaves was answered with success, and the answer was understood. -/
theorem exists_response_of_leaves_ne_nil (listsLeaves : visit.leaves ≠ []) :
    ∃ response, visit.reply = .ok response ∧ visit.outcome.ok = true := by
  unfold leaves at listsLeaves
  split at listsLeaves
  · simp at listsLeaves
  · next response isReply =>
    split at listsLeaves
    · next good => exact ⟨response, isReply, good⟩
    · simp at listsLeaves

/-- The leaves of a visit are those of the document in its answer. -/
theorem leaves_eq {response : Response} {document : Document} (isReply : visit.reply = .ok response)
    (isDocument : Json.read response.text = .ok document) (good : visit.outcome.ok = true) :
    visit.leaves = leavesOf document := by
  unfold leaves
  split
  · next isFault => simp [isReply] at isFault
  · next same isSame =>
    obtain rfl : response = same := by simpa [isReply] using isSame
    simp [good, isDocument, Except.toOption]

/-- Every leaf of a visit is made from a node. -/
theorem isMade_of_mem_leaves {leaf : Leaf} (isLeaf : leaf ∈ visit.leaves) : leaf.IsMade := by
  unfold leaves at isLeaf
  split at isLeaf
  · simp at isLeaf
  next response isReply =>
  split at isLeaf
  · cases isDocument : Json.read response.text with
    | error fault => simp [isDocument, Except.toOption] at isLeaf
    | ok document =>
      simp only [isDocument, Except.toOption, Option.map_some, Option.getD_some, leavesOf] at isLeaf
      obtain ⟨node, -, isSome⟩ := List.mem_filterMap.1 isLeaf
      cases isMade : Leaf.ofMembers node with
      | error fault => simp [isMade] at isSome
      | ok made => exact ⟨node, by simpa [isMade] using isSome⟩
  · simp at isLeaf

/-- Leaves that are made from the nodes of a document are those that it lists. -/
theorem leavesOf_eq_of_made {document : Document} {leaves : List Leaf}
    (made : Node.Made document.listedNodes leaves) : leavesOf document = leaves := by
  have same : ((document.listedNodes.map Leaf.ofMembers).filterMap Except.toOption) =
      (leaves.map Except.ok).filterMap Except.toOption := congrArg _ made
  simpa [leavesOf, List.filterMap_map, Function.comp_def, Except.toOption] using same

/-- An answer with success whose document has a listing gives the leaves of that listing. -/
theorem Leads.leaves_of_listing (leads : visit.Leads serve default before after)
    {response : Response} {members : List (String × Document)} {leaves : List Leaf}
    (isReply : visit.reply = .ok response) (success : response.status ∈ successStatuses)
    (isDocument : Json.read response.text = .ok (.object members))
    (isListing : Answer.listing members = .ok leaves) :
    visit.outcome.ok = true ∧ visit.leaves = leaves := by
  have yields := leads.yields
  rw [isReply] at yields
  have isEntries : (Operation.readTree true).entries visit.source.directory visit.accessor.source
      members = .ok (leaves.flatMap (Leaf.entries visit.accessor.source)) := by
    rw [Operation.entries, Answer.ofListing, isListing]
    rfl
  have good := yields.ok_of_entries success isDocument isEntries
  refine ⟨good, ?_⟩
  rw [leaves_eq isReply isDocument good]
  exact leavesOf_eq_of_made (Answer.made_listing isListing)

/-- The flat map of a visit shows its leaves, and tells its source at a marker. What it shows at the
marker of an error is left out here. -/
theorem find?_toMap (leads : visit.Leads serve default before after)
    (notError : visit.source.errorKey ≠ target) :
    visit.outcome.toMap.find? target =
      ((Entries.ofList (visit.leaves.flatMap (Leaf.entries visit.accessor.source))).find? target).or
        (if visit.sourceKey = target then some visit.accessor.source else none) := by
  cases good : visit.outcome.ok with
  | false =>
    have noLeaves : visit.leaves = [] := by
      by_contra listsLeaves
      obtain ⟨_, _, isGood⟩ := exists_response_of_leaves_ne_nil listsLeaves
      simp [good] at isGood
    rw [leads.yields.find?_toMap_of_not_ok good notError, noLeaves]
    rfl
  | true =>
    obtain ⟨response, document, leaves, isReply, isDocument, made, -, shows⟩ :=
      leads.yields.exists_leaves good
    rw [shows target, leaves_eq isReply isDocument good, leavesOf_eq_of_made made]
    rfl

/-- At a key that is not set aside, a visit shows the value of the last leaf that has one there. -/
theorem find?_toMap_of_not_isReserved (leads : visit.Leads serve default before after)
    (plain : Companion.isReserved target = false) :
    visit.outcome.toMap.find? target = (visit.leaves.filterMap (Leaf.valueAt target)).getLast? := by
  have notError := Companion.ne_of_not_isReserved plain visit.source.directory Companion.errorName
  have notSource := Companion.ne_of_not_isReserved plain visit.source.directory Companion.sourceName
  rw [find?_toMap leads notError, sourceKey, if_neg notSource, Option.or_none,
    Entries.find?_ofList, Leaf.valuesAt_flatMap fun leaf isLeaf =>
      Leaf.valuesAt_of_not_isReserved (isMade_of_mem_leaves isLeaf) visit.accessor.source plain]

/-- At the companion of a key for a field, a visit shows the field of the last leaf that has it
there, when it lists no leaf that is set aside. -/
theorem find?_toMap_field (leads : visit.Leads serve default before after)
    (plain : ∀ leaf ∈ visit.leaves, Companion.isReserved leaf.key = false) (key : String)
    (isField : name ∈ NodeData.fieldNames) :
    visit.outcome.toMap.find? (Companion.key key name) =
      (visit.leaves.filterMap (Leaf.fieldAt key name)).getLast? := by
  have noPoint := NodeData.not_mem_fieldNames name isField
  have apart : ∀ marker, Answer.IsMarker marker → Companion.key visit.source.directory marker ≠
      Companion.key key name := by
    intro marker isMarker
    have markerPlain : '.' ∉ marker.toList := by rcases isMarker with rfl | rfl <;> decide +kernel
    rw [ne_eq, Companion.key_eq_key_iff markerPlain noPoint]
    exact fun same => Answer.ne_of_isMarker isMarker name isField same.2.symm
  rw [find?_toMap leads (apart _ (.inr rfl)), sourceKey, if_neg (apart _ (.inl rfl)),
    Option.or_none, Entries.find?_ofList, Leaf.valuesAt_flatMap fun leaf isLeaf =>
      Leaf.valuesAt_field (isMade_of_mem_leaves isLeaf) visit.accessor.source key
        (plain leaf isLeaf) isField]

private theorem getLast?_filterMap_const {α β : Type} (items : List α) (value : β)
    (holds : α → Prop) [DecidablePred holds] :
    (items.filterMap fun item => if holds item then some value else none).getLast? =
      if ∃ item ∈ items, holds item then some value else none := by
  induction items with
  | nil => simp
  | cons item later inductionHypothesis =>
    by_cases here : holds item
    · simp only [List.filterMap_cons, if_pos here, List.getLast?_cons, inductionHypothesis]
      split <;> simp [here]
    · simp only [List.filterMap_cons, if_neg here, inductionHypothesis]
      simp [here]

/-- At the companion of a key for the source, a visit shows its source if it lists a leaf there or
the key is its directory, when it lists no leaf that is set aside. -/
theorem find?_toMap_source (leads : visit.Leads serve default before after)
    (plain : ∀ leaf ∈ visit.leaves, Companion.isReserved leaf.key = false) (key : String) :
    visit.outcome.toMap.find? (Companion.key key Companion.sourceName) = visit.sourceAt key := by
  have notError : visit.source.errorKey ≠ Companion.key key Companion.sourceName := by
    rw [PropertySource.errorKey, ne_eq, Companion.key_eq_key_iff (by decide) (by decide)]
    exact fun same => absurd same.2 (by decide)
  have isMarker : visit.sourceKey = Companion.key key Companion.sourceName ↔
      visit.source.directory = key := by
    rw [sourceKey, Companion.key_eq_key_iff (by decide) (by decide), and_iff_left rfl]
  rw [find?_toMap leads notError, Entries.find?_ofList, Leaf.valuesAt_flatMap fun leaf isLeaf =>
    Leaf.valuesAt_source (isMade_of_mem_leaves isLeaf).fields.1 key visit.accessor.source,
    List.filterMap_congr fun leaf isLeaf =>
      Leaf.atSourceMarker_of_not_isReserved visit.accessor.source key (plain leaf isLeaf),
    getLast?_filterMap_const, sourceAt]
  by_cases listed : ∃ leaf ∈ visit.leaves, leaf.key = key
  · simp [listed]
  · simp [listed, isMarker]

end Visit

end Keyspace
