import Keyspace.Event
import Keyspace.Journal.Routing
import Keyspace.Proofs.Journal.Fields

/-!
# Events are told in full

Whatever loggers a notice passes, a line that is written of it is the line of its record in some contexts,
`exists_contexts_of_log`, and so the line keeps of it what an object keeps of a record. Events have extra
fields of free names, apart from the error, and where one has a fault as well as an error, the error tells
nothing but what is told of the fault anyway. So no line loses anything of an event, `keeps_event`.
-/

namespace Keyspace.Journal

namespace Routing

/-- Each line that handlers write of a record is the line of the record in some contexts. -/
theorem exists_contexts_of_mem_deliver {handlers : List Handler} {record : Record} {line : String}
    (isWritten : line ∈ deliver handlers record) :
    ∃ contexts, Line.write Line.standardSchema (Context.addAll contexts record) = .ok line := by
  induction handlers generalizing record with
  | nil => simp [deliver] at isWritten
  | cons handler later inductionHypothesis =>
    cases handler with
    | silent => exact inductionHypothesis isWritten
    | lines context =>
      rcases List.mem_append.1 isWritten with isHere | isLater
      · cases isLine : Line.write Line.standardSchema (context.add record) with
        | error fault => simp [isLine, Except.toOption] at isHere
        | ok written =>
          have same : line = written := by simpa [isLine, Except.toOption] using isHere
          exact ⟨[context], same ▸ isLine⟩
      · obtain ⟨contexts, isLine⟩ := inductionHypothesis isLater
        exact ⟨context :: contexts, isLine⟩

/-- Each line that is written of a notice is the line of its record in some contexts. -/
theorem exists_contexts_of_log {routing : Routing} {created : Document} {notice : Notice}
    {lines : List String} (isLogged : routing.log created notice = .ok lines) {line : String}
    (isWritten : line ∈ lines) :
    ∃ record contexts, Record.ofNotice created notice = .ok record ∧
      Line.write Line.standardSchema (Context.addAll contexts record) = .ok line := by
  unfold log at isLogged
  split at isLogged
  · cases isRecord : Record.ofNotice created notice with
    | error fault => simp [isRecord, bind, Except.bind] at isLogged
    | ok record =>
      simp only [isRecord, bind, Except.bind, pure, Except.pure, Except.ok.injEq] at isLogged
      subst isLogged
      obtain ⟨contexts, isLine⟩ := exists_contexts_of_mem_deliver isWritten
      refine ⟨record, (routing.logger notice.logger).filters ++ contexts, rfl, ?_⟩
      rw [Context.addAll, List.foldl_append]
      exact isLine
  · obtain rfl : [] = lines := Except.ok.inj isLogged
    simp at isWritten

end Routing

end Keyspace.Journal

namespace Keyspace.Event

open Journal

variable {event : Event}

/-- An event makes a record, with its extra fields as the further attributes. -/
theorem exists_record (event : Event) (created : Document) :
    ∃ record, Record.ofNotice created event.notice = .ok record ∧
      record.fault = event.notice.fault.map some ∧
      ∀ name, record.extras.find? name = Pairs.find? name event.notice.extras := by
  cases event <;> exact ⟨_, rfl, rfl, fun _ => rfl⟩

/-- The names of the extra fields of events. -/
def extraNames : List String := ["event", "etcd", "error", "config"]

theorem keys_extras_subset (event : Event) : Pairs.keys event.notice.extras ⊆ extraNames := by
  cases event <;> simp [notice, action, field, extraNames, Pairs.keys]

/-- Apart from the error, the names of extra fields are free in a line. -/
theorem isFree_of_isExtra {name : String} {value : Document}
    (isExtra : Pairs.find? name event.notice.extras = some value) (notError : name ≠ "error") :
    name ∉ Record.attributes ∧ name ∉ Line.ownNames := by
  have isKey : name ∈ extraNames := by
    refine keys_extras_subset event (Decidable.byContradiction fun notKey => ?_)
    simp [Pairs.find?_eq_none_iff.2 notKey] at isExtra
  have areFree : ∀ name ∈ extraNames, name ≠ "error" →
      name ∉ Record.attributes ∧ name ∉ Line.ownNames := by
    decide
  exact areFree name isKey notError

/-- An error in the extra fields of an event with a fault tells of this fault. -/
theorem error_of_fault {fault : Fault} (isFault : event.notice.fault = some fault) {error : Document}
    (isError : Pairs.find? "error" event.notice.extras = some error) :
    error = .object [("message", .text fault.message), ("type", .text fault.kind.name)] := by
  cases event <;> simp_all [notice, action, field, Pairs.find?]

/-- What it tells of the fault is what an object says of it that describes it. -/
theorem errorMember?_of_describes {fault : Fault} {message : String} {document : Entries Document}
    (describes : Line.Describes message document (some fault)) {name : String} {value : Document}
    (isMember : Document.member? name
      (.object [("message", .text fault.message), ("type", .text fault.kind.name)]) = some value) :
    Line.errorMember? document name = some value := by
  cases describes with
  | fault kind detail _ =>
    simp only [Document.member?, Pairs.find?] at isMember
    split at isMember
    · next isMessage => exact (isMessage ▸ detail).trans isMember
    · obtain ⟨isType, isValue⟩ := Option.ite_none_right_eq_some.1 isMember
      exact (isType ▸ kind).trans isValue

/-- What an event tells is in the object: its extra fields are members with their own values, and if one
of them is an error, its members are members of the error. -/
structure IsTold (event : Event) (document : Entries Document) : Prop where
  extras : ∀ name value, Pairs.find? name event.notice.extras = some value → name ≠ "error" →
    document.find? name = some value
  error : ∀ error, Pairs.find? "error" event.notice.extras = some error →
    ∀ name value, error.member? name = some value →
      Line.errorMember? document name = some value

/-- An object that keeps what it can of the record of an event tells all of the event. -/
theorem isTold_of_keeps {record : Record} {document : Entries Document}
    (isFault : record.fault = event.notice.fault.map some)
    (areExtras : ∀ name, record.extras.find? name = Pairs.find? name event.notice.extras)
    (keeps : Line.Keeps record document) : event.IsTold document where
  extras name value isExtra notError := by
    obtain ⟨notStandard, notOwn⟩ := isFree_of_isExtra isExtra notError
    exact keeps.extras name value ((areExtras name).trans isExtra) notStandard notOwn
  error error isError name value isMember := by
    cases isEventFault : event.notice.fault with
    | none =>
      have noFault : record.fault = none := by rw [isFault, isEventFault]; rfl
      have isWhole := keeps.wholeError noFault error ((areExtras "error").trans isError)
      exact Option.bind_eq_some_iff.2 ⟨error, isWhole, isMember⟩
    | some fault =>
      have isTold : record.fault = some (some fault) := by rw [isFault, isEventFault]; rfl
      obtain ⟨message, -, describes⟩ := keeps.fault _ isTold
      obtain rfl := error_of_fault isEventFault isError
      exact errorMember?_of_describes describes isMember

/-- However loggers are set up, each line that is written of an event is the text of an object that tells
all of the event. -/
theorem keeps_event {routing : Routing} {created : Document} {lines : List String}
    (isLogged : routing.log created event.notice = .ok lines) :
    ∀ line ∈ lines, ∃ document : Entries Document,
      line = Json.write (.object document.pairs) ∧ event.IsTold document := by
  intro line isWritten
  obtain ⟨record, contexts, isRecord, isLine⟩ := Routing.exists_contexts_of_log isLogged isWritten
  obtain ⟨made, isMade, isFault, areExtras⟩ := event.exists_record created
  obtain rfl : made = record := Except.ok.inj (isMade.symm.trans isRecord)
  obtain ⟨document, isBuilt, rfl⟩ := Line.exists_members_of_write isLine
  exact ⟨document, rfl, isTold_of_keeps isFault areExtras
    ((Line.keeps_of_members isBuilt).of_extends (Context.extends_addAll contexts made))⟩

end Keyspace.Event
