import Keyspace.Proofs.Journal.Line

/-!
# Fields on their way into a line

What is told of a record comes from the record itself, from its fault and from its further attributes, and
the first of them that has a name decides, `find?_members`. So a further attribute is in the object under
its name unless the line has a member of that name itself, and no context takes an attribute away,
`extends_addAll`. The fault comes before the further attributes, though, and what is told of it is an
error of its own. An error among the further attributes is left out as a whole then, and its members are
lost with it; `exists_field_lost` is such a record.
-/

namespace Keyspace.Journal

/-- A record with more further attributes, of which none takes the place of the text, and otherwise the
same. -/
structure Record.Extends (record further : Record) : Prop where
  same : further = { record with extras := further.extras }
  kept : ∀ name value, record.extras.find? name = some value → further.extras.find? name = some value
  textFree : further.extras.find? textName = none ↔ record.extras.find? textName = none

namespace Record.Extends

variable {record further last : Record}

theorem refl (record : Record) : record.Extends record :=
  ⟨rfl, fun _ _ isThere => isThere, .rfl⟩

theorem trans (first : record.Extends further) (second : further.Extends last) :
    record.Extends last where
  same := by rw [second.same, first.same]
  kept name value isThere := second.kept name value (first.kept name value isThere)
  textFree := second.textFree.trans first.textFree

/-- Setting a further attribute, unless there is one of that name, extends the record. -/
theorem unlessThere (record : Record) {name : String} {value : Document}
    (isFurther : record.set name value =
      { record with extras := record.extras.insert name value }) (notText : name ≠ textName) :
    record.Extends (if record.extras.contains name then record else record.set name value) := by
  split
  · exact .refl record
  · next isNew =>
    rw [isFurther]
    refine ⟨rfl, fun other found isThere => ?_, by rw [Entries.find?_insert, if_neg notText]⟩
    have apart : name ≠ other := by
      rintro rfl
      simp [Entries.contains, isThere] at isNew
    rw [Entries.find?_insert, if_neg apart, isThere]

/-- An extended record can be told exactly if the record can. -/
theorem isTellable_iff (isExtended : record.Extends further) :
    further.IsTellable ↔ record.IsTellable := by
  have textFree := isExtended.textFree
  rw [isExtended.same]
  exact ⟨fun ⟨time, levelName, isFree, message⟩ => ⟨time, levelName, textFree.1 isFree, message⟩,
    fun ⟨time, levelName, isFree, message⟩ => ⟨time, levelName, textFree.2 isFree, message⟩⟩

theorem text_eq_ok_iff (isExtended : record.Extends further) {message : String} :
    further.text = .ok message ↔ record.text = .ok message := by
  rw [Record.text_eq_ok_iff, Record.text_eq_ok_iff, isExtended.textFree]
  rw [isExtended.same]
  rfl

end Record.Extends

namespace Context

theorem extends_add (context : Context) (record : Record) : record.Extends (context.add record) :=
  (Record.Extends.unlessThere record rfl (by decide)).trans
    (Record.Extends.unlessThere _ rfl (by decide))

/-- Add several contexts, one after the other, as filters and handlers do. -/
def addAll (contexts : List Context) (record : Record) : Record :=
  contexts.foldl (fun changed context => context.add changed) record

/-- Adding several contexts extends the record. -/
theorem extends_addAll (contexts : List Context) (record : Record) :
    record.Extends (addAll contexts record) := by
  induction contexts generalizing record with
  | nil => exact .refl record
  | cons context later inductionHypothesis =>
    exact (context.extends_add record).trans (inductionHypothesis (context.add record))

end Context

namespace Line

variable {schema : Document} {record : Record} {document : Entries Document}

/-- The names that members of a line have of their own. -/
def ownNames : List String := shownNames ++ ["exception", "error", schemaName]

theorem keys_opening_subset (time level message : String) (record : Record) :
    Pairs.keys (opening time level message record) ⊆ ownNames := by
  unfold opening
  cases record.fault <;> simp [Pairs.keys, faultMembers, ownNames, shownNames]

/-- Of what is told of a record, the start of the line comes first and the further attributes come after
it. -/
theorem find?_members (isBuilt : members schema record = .ok document) :
    ∃ time level message, record.text = .ok message ∧ ∀ name, name ≠ schemaName →
      document.find? name = (Pairs.find? name (opening time level message record)).or
        (if name ∈ Record.attributes then none else record.extras.find? name) := by
  obtain ⟨start, isStart, rfl⟩ := members_eq_ok_iff.1 isBuilt
  obtain ⟨time, level, message, -, -, isMessage, rfl⟩ := leading_eq_ok_iff.1 isStart
  refine ⟨time, level, message, isMessage, fun name apart => ?_⟩
  rw [find?_withSchema apart, find?_addExtras, find?_opening]

/-- A further attribute is a member of the object, unless it is a standard one or the line has a member of
that name itself. -/
theorem find?_of_not_mem_ownNames (isBuilt : members schema record = .ok document) {name : String}
    (notStandard : name ∉ Record.attributes) (notOwn : name ∉ ownNames) :
    document.find? name = record.extras.find? name := by
  obtain ⟨time, level, message, -, isFound⟩ := find?_members isBuilt
  have apart : name ≠ schemaName := fun same => notOwn (by simp [ownNames, same])
  have notStart : Pairs.find? name (opening time level message record) = none :=
    Pairs.find?_eq_none_iff.2 fun isKey => notOwn (keys_opening_subset _ _ _ _ isKey)
  rw [isFound name apart, notStart, Option.none_or, if_neg notStandard]

/-- Where there is no fault to be told, the error is the one among the further attributes. -/
theorem find?_error_of_noFault (isBuilt : members schema record = .ok document)
    (noFault : record.fault = none) : document.find? "error" = record.extras.find? "error" := by
  obtain ⟨time, level, message, -, isFound⟩ := find?_members isBuilt
  have notStart : Pairs.find? "error" (opening time level message record) = none := by
    simp [opening, noFault, Pairs.find?]
  rw [isFound "error" (by decide), notStart, Option.none_or, if_neg (by decide)]

/-- The names of the members by which an error tells of a fault. -/
def faultNames : List String := ["type", "message", "stack_trace"]

/-- The member of a name in the error among some entries. -/
def errorMember? (entries : Entries Document) (name : String) : Option Document :=
  (entries.find? "error").bind (Document.member? name)

/-- Where there is a fault, the error is what is told of it. -/
theorem errorMember?_of_fault (isBuilt : members schema record = .ok document)
    {fault : Option Fault} (isFault : record.fault = some fault) :
    ∃ message, record.text = .ok message ∧ ∀ name, errorMember? document name =
      (Pairs.find? "error" (faultMembers message fault)).bind (Document.member? name) := by
  obtain ⟨time, level, message, isMessage, isFound⟩ := find?_members isBuilt
  refine ⟨message, isMessage, fun name => ?_⟩
  rw [errorMember?, isFound "error" (by decide), opening, isFault]
  rfl

/-- The error of an object describes a fault: its kind, its message, and its text. Where there is none, the
message of the record stands for it. -/
inductive Describes (message : String) (document : Entries Document) : Option Fault → Prop where
  | fault {fault : Fault} (kind : errorMember? document "type" = some (.text fault.kind.name))
      (detail : errorMember? document "message" = some (.text fault.message))
      (trace : errorMember? document "stack_trace" = some (.text fault.trace)) :
      Describes message document (some fault)
  | absent (kind : errorMember? document "type" = some (.text "Exception"))
      (detail : errorMember? document "message" = some (.text message))
      (trace : errorMember? document "stack_trace" = some (.text "NoneType: None")) :
      Describes message document none

/-- What an object keeps of a record. -/
structure Keeps (record : Record) (document : Entries Document) : Prop where
  /-- A further attribute is a member, unless it is a standard one or its name is one of the line's own. -/
  extras : ∀ name value, record.extras.find? name = some value → name ∉ Record.attributes →
    name ∉ ownNames → document.find? name = some value
  /-- Where there is no fault to be told, an error among the further attributes is the error. -/
  wholeError : record.fault = none → ∀ error, record.extras.find? "error" = some error →
    document.find? "error" = some error
  /-- A member of an error among the further attributes, with a name that does not tell of a fault, is a
  member of the error exactly if there is no fault to be told. -/
  error : ∀ name value, errorMember? record.extras name = some value → name ∉ faultNames →
    (errorMember? document name = some value ↔ record.fault = none)
  /-- A fault is described in the error. -/
  fault : ∀ fault, record.fault = some fault →
    ∃ message, record.text = .ok message ∧ Describes message document fault

/-- Where there is a fault, the error describes it. -/
theorem describes_of_fault (isBuilt : members schema record = .ok document)
    {fault : Option Fault} (isFault : record.fault = some fault) :
    ∃ message, record.text = .ok message ∧ Describes message document fault := by
  obtain ⟨message, isMessage, isTold⟩ := errorMember?_of_fault isBuilt isFault
  refine ⟨message, isMessage, ?_⟩
  cases fault with
  | none => exact .absent (isTold "type") (isTold "message") (isTold "stack_trace")
  | some fault => exact .fault (isTold "type") (isTold "message") (isTold "stack_trace")

/-- Where there is a fault, the error has members of no other names than those that tell of it. -/
theorem errorMember?_eq_none (isBuilt : members schema record = .ok document)
    {fault : Option Fault} (isFault : record.fault = some fault) {name : String}
    (notOfFault : name ∉ faultNames) : errorMember? document name = none := by
  obtain ⟨message, -, isTold⟩ := errorMember?_of_fault isBuilt isFault
  rw [isTold name]
  refine Pairs.find?_eq_none_iff.2 fun isKey => notOfFault ?_
  simpa [faultNames, Pairs.keys] using isKey

/-- What is built for a record keeps of it what it can. -/
theorem keeps_of_members (isBuilt : members schema record = .ok document) : Keeps record document where
  extras name value isThere notStandard notOwn := by
    rw [find?_of_not_mem_ownNames isBuilt notStandard notOwn, isThere]
  wholeError noFault error isError := by rw [find?_error_of_noFault isBuilt noFault, isError]
  error name value isThere notOfFault := by
    cases isFault : record.fault with
    | none => simpa [errorMember?, find?_error_of_noFault isBuilt isFault] using isThere
    | some fault => simp [errorMember?_eq_none isBuilt isFault notOfFault]
  fault _ isFault := describes_of_fault isBuilt isFault

/-- What is kept of a record is kept of each one that it extends. -/
theorem Keeps.of_extends {further : Record} (keeps : Keeps further document)
    (isExtended : record.Extends further) : Keeps record document := by
  have sameFault : further.fault = record.fault := by rw [isExtended.same]
  constructor
  case extras =>
    exact fun name value isThere => keeps.extras name value (isExtended.kept name value isThere)
  case wholeError =>
    exact fun noFault error isError =>
      keeps.wholeError (sameFault.trans noFault) error (isExtended.kept _ error isError)
  case error =>
    intro name value isThere
    obtain ⟨error, isError, isMember⟩ := Option.bind_eq_some_iff.1 isThere
    have isThereToo : errorMember? further.extras name = some value :=
      Option.bind_eq_some_iff.2 ⟨error, isExtended.kept _ _ isError, isMember⟩
    exact sameFault ▸ keeps.error name value isThereToo
  case fault =>
    intro fault isFault
    obtain ⟨message, isMessage, describes⟩ := keeps.fault fault (sameFault.trans isFault)
    exact ⟨message, isExtended.text_eq_ok_iff.1 isMessage, describes⟩

/-- A line is the text of the object that is built for its record. -/
theorem exists_members_of_write {line : String} (isWritten : write schema record = .ok line) :
    ∃ document, members schema record = .ok document ∧
      line = Json.write (.object document.pairs) := by
  cases isBuilt : members schema record with
  | error fault => simp [write, isBuilt, bind, Except.bind] at isWritten
  | ok document =>
    rw [write_of_members isBuilt] at isWritten
    split at isWritten
    · cases isWritten
    · exact ⟨document, rfl, (Except.ok.inj isWritten).symm⟩

/-- The fields of records, which may have passed filters and handlers of any contexts. There is an object
for a record when its time is in the calendar, its level has a name, no further attribute takes the place
of its text, and its message can be filled. The object keeps of the record each further attribute of a
name that is free, and it describes the fault; of an error among the further attributes it keeps the
members that do not tell of a fault if there is none to be told, and loses them otherwise. The line is the text of that object, unless an integer in it has too
many digits, and it reads back as the object where this is plain. -/
theorem write_keeps_fields (schema : Document) (contexts : List Context) (record : Record) :
    ((∃ document, members schema (Context.addAll contexts record) = .ok document) ↔
      record.IsTellable) ∧
    ∀ document, members schema (Context.addAll contexts record) = .ok document →
      Keeps record document ∧
      write schema (Context.addAll contexts record) =
        (if (Document.object document.pairs).isOversized then .error .oversizedInteger
          else .ok (Json.write (.object document.pairs))) ∧
      (Json.isPlain (.object document.pairs) = true →
        ∃ line, write schema (Context.addAll contexts record) = .ok line ∧
          Json.read line = .ok (.object document.pairs)) := by
  have isExtended := Context.extends_addAll contexts record
  constructor
  · rw [exists_members_iff_isTellable, isExtended.isTellable_iff]
  · intro document isBuilt
    have isLine := write_of_members isBuilt
    refine ⟨(keeps_of_members isBuilt).of_extends isExtended, isLine, fun plain => ?_⟩
    rw [Json.isOversized_of_isPlain _ plain, if_neg (by simp)] at isLine
    exact ⟨_, isLine, Json.read_write plain⟩

/-- A record with a fault, and with an error of its own among its further attributes. -/
def coded : Record where
  logger := .text "app"
  levelName := .text "ERROR"
  message := .text "failed"
  arguments := .row []
  created := .int 0
  fault := some (some ⟨.value, "bad body"⟩)
  extras := Entries.ofList [("event", .object [("action", .text "load")]),
    ("error", .object [("code", .int 7), ("message", .text "mine")]), ("level", .int 1),
    ("lineno", .int 2)]

/-- A context for it. -/
def testContext : Context := ⟨.text "svc", .text "1", .text "test"⟩

theorem isPlain_coded : (Context.addAll [testContext] coded).IsPlain :=
  ⟨⟨_, rfl⟩, ⟨_, rfl⟩, by decide +kernel⟩

/-- The law for that record in a context: its line reads back as an object in which the event is kept, the
code of its own error is not, and the error describes the fault. -/
theorem write_keeps_fields_coded :
    ∃ document, members standardSchema (Context.addAll [testContext] coded) = .ok document ∧
      (coded.extras.find? "event" = some (.object [("action", .text "load")]) ∧
        document.find? "event" = some (.object [("action", .text "load")])) ∧
      (errorMember? coded.extras "code" = some (.int 7) ∧
        errorMember? document "code" ≠ some (.int 7)) ∧
      errorMember? document "message" = some (.text "bad body") ∧
      Json.isPlain (.object document.pairs) = true ∧
      ∃ line, write standardSchema (Context.addAll [testContext] coded) = .ok line ∧
        Json.read line = .ok (.object document.pairs) := by
  obtain ⟨exists_iff, isKept⟩ := write_keeps_fields standardSchema [testContext] coded
  obtain ⟨document, isBuilt⟩ := exists_iff.2 ⟨⟨0, rfl, by decide, by decide⟩, ⟨_, rfl⟩, rfl, _, rfl⟩
  obtain ⟨keeps, -, readsBack⟩ := isKept document isBuilt
  obtain ⟨message, -, describes⟩ := keeps.fault _ rfl
  have plain := isPlain_of_members rfl isPlain_coded isBuilt
  refine ⟨document, isBuilt, ⟨rfl, keeps.extras _ _ rfl (by decide) (by decide)⟩,
    ⟨rfl, fun isCode => ?_⟩, ?_, plain, readsBack plain⟩
  · have noFault := (keeps.error "code" (.int 7) rfl (by decide)).1 isCode
    simp [coded] at noFault
  · cases describes with
    | fault _ detail _ => exact detail

/-- That record loses a member of its error that does not tell of the fault, and its line reads back
without it. -/
theorem exists_field_lost :
    ∃ (line : String) (document : Entries Document),
      coded.extras.find? "error" = some (.object [("code", .int 7), ("message", .text "mine")]) ∧
      "code" ∉ faultNames ∧ write standardSchema coded = .ok line ∧
      Json.read line = .ok (.object document.pairs) ∧
      document.find? "error" = some (.object [("type", .text "ValueError"),
        ("message", .text "bad body"), ("stack_trace", .text "ValueError: bad body")]) ∧
      errorMember? document "code" = none := by
  have isBuilt : ∃ document, members standardSchema coded = .ok document ∧
      Json.isPlain (.object document.pairs) = true ∧
      document.find? "error" = some (.object [("type", .text "ValueError"),
        ("message", .text "bad body"), ("stack_trace", .text "ValueError: bad body")]) :=
    ⟨_, rfl, by decide +kernel, by decide +kernel⟩
  obtain ⟨document, isBuilt, plain, isError⟩ := isBuilt
  have isLine := write_of_members isBuilt
  rw [Json.isOversized_of_isPlain _ plain, if_neg (by simp)] at isLine
  have isLost : errorMember? document "code" = none := by
    rw [errorMember?, isError]
    rfl
  exact ⟨_, document, rfl, by decide, isLine, Json.read_write plain, isError, isLost⟩

end Line

end Keyspace.Journal
