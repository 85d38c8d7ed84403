import Keyspace.Journal.Line
import Keyspace.Proofs.Journal.Timestamp
import Keyspace.Proofs.Json.Plain

/-!
# Lines cannot be forged

A line is one line of text, and it reads back as the object that was built for the record. In that
object time, level, logger and message are those of the record, whatever the further attributes are
named and hold: they come first, further attributes leave alone what is there, `find?_addExtras`, and
the version of the schema has another name. All this is said by `write_faithful`. Not every record can
be written, though, `exists_record_refused`: a time in the year 10000 is refused, and so is a message
that does not fit its arguments, or a further attribute that takes the place of the message.
-/

namespace Keyspace.Journal

/-- Logger and level of a record are texts, and in its further attributes there is no real number and
no integer of too many digits. -/
structure Record.IsPlain (record : Record) : Prop where
  logger : ∃ name, record.logger = .text name
  levelName : ∃ name, record.levelName = .text name
  extras : ∀ extra ∈ record.extras.pairs, Json.isPlain extra.2 = true

/-- A record can be told in an object: its time is in the calendar, the name of its level is a text, no
further attribute takes the place of its text, and its message can be filled. -/
structure Record.IsTellable (record : Record) : Prop where
  time : Timestamp.IsInCalendar record.created
  levelName : ∃ name, record.levelName = .text name
  textFree : record.extras.find? textName = none
  message : ∃ message, record.filled = .ok message

/-- A record has a text when no further attribute takes its place and the message can be filled. -/
theorem Record.text_eq_ok_iff {record : Record} {message : String} :
    record.text = .ok message ↔
      record.extras.find? textName = none ∧ record.filled = .ok message := by
  unfold text
  cases record.extras.find? textName <;> simp

namespace Line

variable {record : Record} {document : Entries Document}

/-- The members that a line starts with. -/
def opening (time level message : String) (record : Record) : List (String × Document) :=
  [("@timestamp", .text time), ("level", .text level), ("logger", record.logger),
    ("message", .text message)] ++
  match record.fault with
  | none => []
  | some fault => faultMembers message fault

/-- A line is started when the time can be written, the level has a word, and the message can be
filled. -/
theorem leading_eq_ok_iff :
    leading record = .ok document ↔
      ∃ time level message, Timestamp.write record.created = .ok time ∧
        levelWord record.levelName = .ok level ∧ record.text = .ok message ∧
        document = Entries.ofList (opening time level message record) := by
  unfold leading
  cases Timestamp.write record.created with
  | error fault => simp [bind, Except.bind]
  | ok time =>
    cases levelWord record.levelName with
    | error fault => simp [bind, Except.bind]
    | ok level =>
      cases record.text with
      | error fault => simp [bind, Except.bind]
      | ok message =>
        simp only [bind, Except.bind, pure, Except.pure, Except.ok.injEq, exists_and_left,
          exists_eq_left']
        exact eq_comm

/-- Add further attributes, one after the other. -/
def addExtras (extras : Entries Document) (document : Entries Document) : Entries Document :=
  extras.pairs.foldl addExtra document

/-- Name the version of the schema, if there is one. -/
def withSchema (schema : Document) (document : Entries Document) : Entries Document :=
  if schema.isTruthy then document.insert schemaName schema else document

/-- What is built for a record: its start, the further attributes, and the version of the schema. -/
theorem members_eq_ok_iff {schema : Document} :
    members schema record = .ok document ↔
      ∃ start, leading record = .ok start ∧
        document = withSchema schema (addExtras record.extras start) := by
  unfold members
  cases leading record with
  | error fault => simp [bind, Except.bind]
  | ok start =>
    simp only [bind, Except.bind, pure, Except.pure, Except.ok.injEq, exists_eq_left']
    exact eq_comm

/-- A further attribute is found under its name, unless it is a standard one or something is there. -/
theorem find?_addExtra (document : Entries Document) (extra : String × Document) (name : String) :
    (addExtra document extra).find? name =
      (document.find? name).or
        (if name ∈ Record.attributes then none else Pairs.find? name [extra]) := by
  unfold addExtra
  by_cases same : extra.1 = name
  · subst same
    by_cases isStandard : extra.1 ∈ Record.attributes
    · simp [isStandard]
    · cases isThere : document.find? extra.1 with
      | some value => simp [isStandard, Entries.contains, isThere]
      | none => simp [isStandard, Entries.contains, isThere, Entries.find?_insert, Pairs.find?]
  · have apart : (document.insert extra.1 extra.2).find? name = document.find? name := by
      rw [Entries.find?_insert, if_neg same]
    split <;> simp [Pairs.find?, same, apart]

/-- Of all of them that are not standard, those are found whose names are not there before. -/
theorem find?_addExtras (extras document : Entries Document) (name : String) :
    (addExtras extras document).find? name =
      (document.find? name).or
        (if name ∈ Record.attributes then none else extras.find? name) := by
  unfold addExtras Entries.find?
  generalize extras.pairs = pairs
  induction pairs generalizing document with
  | nil => simp [Pairs.find?]
  | cons extra later inductionHypothesis =>
    have added := find?_addExtra document extra name
    have first : Pairs.find? name (extra :: later) =
        (Pairs.find? name [extra]).or (Pairs.find? name later) :=
      Pairs.find?_append name [extra] later
    unfold Entries.find? at added
    rw [List.foldl_cons, inductionHypothesis, added, Option.or_assoc, first]
    split <;> simp

/-- The version of the schema leaves members of other names alone. -/
theorem find?_withSchema {name : String} (apart : name ≠ schemaName) (schema : Document) :
    (withSchema schema document).find? name = document.find? name := by
  unfold withSchema
  split
  · rw [Entries.find?_insert, if_neg apart.symm]
  · rfl

/-- Members stay plain when plain further attributes are added. -/
theorem holdsPlain_addExtras {extras : Entries Document} (plain : Json.HoldsPlain document)
    (extrasPlain : ∀ extra ∈ extras.pairs, Json.isPlain extra.2 = true) :
    Json.HoldsPlain (addExtras extras document) := by
  unfold addExtras
  generalize extras.pairs = pairs at extrasPlain ⊢
  induction pairs generalizing document with
  | nil => exact plain
  | cons extra later inductionHypothesis =>
    obtain ⟨extraPlain, laterPlain⟩ := List.forall_mem_cons.1 extrasPlain
    refine inductionHypothesis ?_ laterPlain
    unfold addExtra
    split
    · exact plain
    · exact plain.insert _ extraPlain

/-- Members stay plain when a plain version of the schema is named. -/
theorem holdsPlain_withSchema {schema : Document} (plain : Json.HoldsPlain document)
    (schemaPlain : Json.isPlain schema = true) : Json.HoldsPlain (withSchema schema document) := by
  unfold withSchema
  split
  · exact plain.insert _ schemaPlain
  · exact plain

theorem isPlain_of_mem_faultMembers {message : String} {fault : Option Fault} :
    ∀ member ∈ faultMembers message fault, Json.isPlain member.2 = true := by
  simp [faultMembers, Json.isPlain, Json.allMembersPlain, Pairs.keys]

/-- A line starts with plain members. -/
theorem holdsPlain_opening {name : String} (isText : record.logger = .text name)
    (time level message : String) :
    Json.HoldsPlain (Entries.ofList (opening time level message record)) := by
  refine Json.holdsPlain_ofList ?_
  rw [opening, List.forall_mem_append, isText]
  refine ⟨by simp [Json.isPlain], ?_⟩
  cases record.fault with
  | none => simp
  | some fault => exact isPlain_of_mem_faultMembers

/-- An object shows its record: time, level, logger and message are those of the record. -/
structure ShowsRecord (record : Record) (document : Entries Document) : Prop where
  time : ∃ time, Timestamp.write record.created = .ok time ∧
    document.find? "@timestamp" = some (.text time)
  level : ∃ level, levelWord record.levelName = .ok level ∧
    document.find? "level" = some (.text level)
  logger : document.find? "logger" = some record.logger
  message : ∃ message, record.text = .ok message ∧
    document.find? "message" = some (.text message)

theorem distinct_opening (time level message : String) (record : Record) :
    (Pairs.keys (opening time level message record)).Nodup := by
  unfold opening
  cases record.fault <;> simp [Pairs.keys, faultMembers]

theorem find?_opening (time level message : String) (record : Record) (name : String) :
    (Entries.ofList (opening time level message record)).find? name =
      Pairs.find? name (opening time level message record) := by
  rw [Entries.find?_ofList, Pairs.valuesAt_of_distinct (distinct_opening time level message record)]
  cases Pairs.find? name (opening time level message record) <;> rfl

/-- What is built for a record shows it. -/
theorem showsRecord_of_members {schema : Document} (isBuilt : members schema record = .ok document) :
    ShowsRecord record document := by
  obtain ⟨start, isStart, rfl⟩ := members_eq_ok_iff.1 isBuilt
  obtain ⟨time, level, message, isTime, isLevel, isMessage, rfl⟩ := leading_eq_ok_iff.1 isStart
  -- What the line starts with is there when the further attributes come, so none of them replaces it.
  have kept : ∀ name value, name ≠ schemaName →
      Pairs.find? name (opening time level message record) = some value →
      (withSchema schema (addExtras record.extras
        (Entries.ofList (opening time level message record)))).find? name = some value := by
    intro name value apart isOpening
    rw [find?_withSchema apart, find?_addExtras, find?_opening, isOpening, Option.some_or]
  exact ⟨⟨time, isTime, kept _ _ (by decide) rfl⟩, ⟨level, isLevel, kept _ _ (by decide) rfl⟩,
    kept _ _ (by decide) rfl, ⟨message, isMessage, kept _ _ (by decide) rfl⟩⟩

/-- The names of the members by which an object shows its record. -/
def shownNames : List String := ["@timestamp", "level", "logger", "message"]

/-- Objects that show records agree on these members when the records differ in their further
attributes only. -/
theorem ShowsRecord.agree {extras other : Entries Document} (shows : ShowsRecord record document)
    (showsOther : ShowsRecord { record with extras } other) :
    ∀ name ∈ shownNames, other.find? name = document.find? name := by
  obtain ⟨⟨time, isTime, hasTime⟩, ⟨level, isLevel, hasLevel⟩, hasLogger,
    ⟨message, isMessage, hasMessage⟩⟩ := shows
  obtain ⟨⟨time', isTime', hasTime'⟩, ⟨level', isLevel', hasLevel'⟩, hasLogger',
    ⟨message', isMessage', hasMessage'⟩⟩ := showsOther
  have sameTime := isTime.symm.trans isTime'
  have sameLevel := isLevel.symm.trans isLevel'
  have isFilled := (Record.text_eq_ok_iff.1 isMessage).2
  have sameMessage := isFilled.symm.trans (Record.text_eq_ok_iff.1 isMessage').2
  cases sameTime
  cases sameLevel
  cases sameMessage
  simp only [shownNames, List.forall_mem_cons]
  exact ⟨by rw [hasTime, hasTime'], by rw [hasLevel, hasLevel'], by rw [hasLogger, hasLogger'],
    by rw [hasMessage, hasMessage'], by simp⟩

theorem exists_levelWord_iff {levelName : Document} :
    (∃ level, levelWord levelName = .ok level) ↔ ∃ name, levelName = .text name := by
  cases levelName <;> simp [levelWord]

/-- For which records an object is built. -/
theorem exists_members_iff_isTellable (record : Record) (schema : Document) :
    (∃ document, members schema record = .ok document) ↔ record.IsTellable := by
  constructor
  · rintro ⟨document, isBuilt⟩
    obtain ⟨⟨time, isTime, -⟩, ⟨level, isLevel, -⟩, -, ⟨message, isMessage, -⟩⟩ :=
      showsRecord_of_members isBuilt
    obtain ⟨textFree, isFilled⟩ := Record.text_eq_ok_iff.1 isMessage
    exact ⟨(Timestamp.exists_write_iff _).1 ⟨time, isTime⟩, exists_levelWord_iff.1 ⟨level, isLevel⟩,
      textFree, message, isFilled⟩
  · rintro ⟨inCalendar, isText, textFree, message, isFilled⟩
    obtain ⟨time, isTime⟩ := (Timestamp.exists_write_iff _).2 inCalendar
    obtain ⟨level, isLevel⟩ := exists_levelWord_iff.2 isText
    exact ⟨_, members_eq_ok_iff.2 ⟨_, leading_eq_ok_iff.2
      ⟨time, level, message, isTime, isLevel, Record.text_eq_ok_iff.2 ⟨textFree, isFilled⟩, rfl⟩,
      rfl⟩⟩

/-- For which plain records an object is built. -/
theorem exists_members_iff (plain : record.IsPlain) (schema : Document) :
    (∃ document, members schema record = .ok document) ↔
      Timestamp.IsInCalendar record.created ∧ record.extras.find? Record.textName = none ∧
        ∃ message, record.filled = .ok message := by
  rw [exists_members_iff_isTellable]
  exact ⟨fun isTellable => ⟨isTellable.time, isTellable.textFree, isTellable.message⟩,
    fun ⟨inCalendar, textFree, isFilled⟩ => ⟨inCalendar, plain.levelName, textFree, isFilled⟩⟩

/-- The object of a plain record is plain. -/
theorem isPlain_of_members {schema : Document} (schemaPlain : Json.isPlain schema = true)
    (plain : record.IsPlain) (isBuilt : members schema record = .ok document) :
    Json.isPlain (.object document.pairs) = true := by
  obtain ⟨start, isStart, rfl⟩ := members_eq_ok_iff.1 isBuilt
  obtain ⟨time, level, message, -, -, -, rfl⟩ := leading_eq_ok_iff.1 isStart
  obtain ⟨name, isText⟩ := plain.logger
  exact Json.isPlain_object_iff.2 (holdsPlain_withSchema
    (holdsPlain_addExtras (holdsPlain_opening isText time level message) plain.extras) schemaPlain)

/-- The line of a record is the text of its object, unless an integer in it has too many digits. -/
theorem write_of_members {schema : Document} (isBuilt : members schema record = .ok document) :
    write schema record =
      if (Document.object document.pairs).isOversized then .error .oversizedInteger
      else .ok (Json.write (.object document.pairs)) := by
  unfold write
  rw [isBuilt]
  rfl

/-- A record has a line when it can be told in an object and no integer in this has too many digits. -/
theorem exists_write_iff (record : Record) (schema : Document) :
    (∃ line, write schema record = .ok line) ↔
      record.IsTellable ∧ ∀ document, members schema record = .ok document →
        (Document.object document.pairs).isOversized = false := by
  rw [← exists_members_iff_isTellable record schema]
  cases isBuilt : members schema record with
  | error fault => simp [write, isBuilt, bind, Except.bind]
  | ok document =>
    cases isLarge : (Document.object document.pairs).isOversized <;>
      simp [write_of_members isBuilt, isLarge]

/-- The line of a plain record is the text of its object. -/
theorem write_eq_ok_iff {schema : Document} (schemaPlain : Json.isPlain schema = true)
    (plain : record.IsPlain) {line : String} :
    write schema record = .ok line ↔
      ∃ document, members schema record = .ok document ∧
        line = Json.write (.object document.pairs) := by
  cases isBuilt : members schema record with
  | error fault => simp [write, isBuilt, bind, Except.bind]
  | ok document =>
    have small := Json.isOversized_of_isPlain _ (isPlain_of_members schemaPlain plain isBuilt)
    simp [write_of_members isBuilt, small, eq_comm]

/-- The lines of plain records. A record has a line when its time is in the years from 1 to 9999, no
further attribute takes the place of its text, and its message can be filled with its arguments. No
character of the line is below the blank, the line reads back as the object that was built, and this
shows the record; and so does the line of every record that differs only in its further attributes, and
has none in the place of its text, so that both agree on time, level, logger and message. -/
theorem write_faithful {schema : Document} (schemaPlain : Json.isPlain schema = true)
    (plain : record.IsPlain) :
    ((∃ line, write schema record = .ok line) ↔
      Timestamp.IsInCalendar record.created ∧ record.extras.find? Record.textName = none ∧
        ∃ message, record.filled = .ok message) ∧
    ∀ line, write schema record = .ok line →
      (∀ character ∈ line.toList, 0x20 ≤ character.toNat) ∧
      ∃ document, members schema record = .ok document ∧
        Json.read line = .ok (.object document.pairs) ∧ ShowsRecord record document ∧
        ∀ extras, Record.IsPlain { record with extras } →
          extras.find? Record.textName = none →
          ∃ (lineToo : String) (other : Entries Document),
            write schema { record with extras } = .ok lineToo ∧
            Json.read lineToo = .ok (.object other.pairs) ∧
            ∀ name ∈ shownNames, other.find? name = document.find? name := by
  constructor
  · rw [← exists_members_iff plain schema]
    simp only [write_eq_ok_iff schemaPlain plain]
    rw [exists_comm]
    simp
  · intro line isWritten
    obtain ⟨document, isBuilt, rfl⟩ := (write_eq_ok_iff schemaPlain plain).1 isWritten
    have documentPlain := isPlain_of_members schemaPlain plain isBuilt
    have shows := showsRecord_of_members isBuilt
    refine ⟨Json.keepsLine_write documentPlain, document, isBuilt, Json.read_write documentPlain,
      shows, fun extras plainToo textFree => ?_⟩
    obtain ⟨inCalendar, -, isFilled⟩ := (exists_members_iff plain schema).1 ⟨_, isBuilt⟩
    obtain ⟨other, isBuiltToo⟩ :=
      (exists_members_iff plainToo schema).2 ⟨inCalendar, textFree, isFilled⟩
    exact ⟨_, other, (write_eq_ok_iff schemaPlain plainToo).2 ⟨other, isBuiltToo, rfl⟩,
      Json.read_write (isPlain_of_members schemaPlain plainToo isBuiltToo),
      shows.agree (showsRecord_of_members isBuiltToo)⟩

/-- A record whose further attributes are named like members of its line, with an end of line and a quote
in its message and in one of them. -/
def forged : Record where
  logger := .text "app"
  levelName := .text "notice"
  message := .text "in\n\"it %s"
  arguments := .row [.text "1"]
  created := .int 0
  fault := some none
  extras := Entries.ofList [("level", .text "Fatal"), ("@timestamp", .null),
    ("message", .array [.text "\r\n", .bool true]), ("ecs.version", .text "0"),
    ("a", .object [("logger", .int (-7))])]

theorem isPlain_forged : forged.IsPlain :=
  ⟨⟨_, rfl⟩, ⟨_, rfl⟩, by decide +kernel⟩

/-- The law for that record: it has a line. -/
theorem write_faithful_forged :
    Json.isPlain standardSchema = true ∧ forged.IsPlain ∧
      ∃ (line : String) (document : Entries Document), write standardSchema forged = .ok line ∧
        Json.read line = .ok (.object document.pairs) ∧
        document.find? "message" = some (.text "in\n\"it 1") := by
  have schemaPlain : Json.isPlain standardSchema = true := rfl
  obtain ⟨exists_iff, isFaithful⟩ := write_faithful schemaPlain isPlain_forged
  obtain ⟨line, isWritten⟩ := exists_iff.2
    ⟨⟨0, rfl, by decide, by decide⟩, rfl, "in\n\"it 1", rfl⟩
  obtain ⟨-, document, -, isRead, shows, -⟩ := isFaithful line isWritten
  obtain ⟨message, isMessage, hasMessage⟩ := shows.message
  have sameMessage : forged.text = .ok "in\n\"it 1" := by rfl
  rw [sameMessage] at isMessage
  cases isMessage
  exact ⟨schemaPlain, isPlain_forged, line, document, isWritten, isRead, hasMessage⟩

/-- A record of the first second of the year 10000 is refused, and so is one with a message that does not
fit its argument, or with a further attribute in the place of its text, although all are plain. -/
theorem exists_record_refused :
    ∃ late unfit named : Record, late.IsPlain ∧ unfit.IsPlain ∧ named.IsPlain ∧
      late.text = .ok "m" ∧
      write standardSchema late = .error ⟨.value, "year 10000 is out of range"⟩ ∧
      write standardSchema unfit =
        .error ⟨.type, "%d format: a real number is required, not str"⟩ ∧
      write standardSchema named = .error ⟨.type, "'str' object is not callable"⟩ := by
  refine ⟨{ forged with created := .int 253402300800, message := .text "m", arguments := .row [] },
    { forged with message := .text "%d", arguments := .row [.text "x"] },
    { forged with extras := Entries.ofList [("getMessage", .text "x")] },
    ⟨⟨_, rfl⟩, ⟨_, rfl⟩, isPlain_forged.extras⟩, ⟨⟨_, rfl⟩, ⟨_, rfl⟩, isPlain_forged.extras⟩,
    ⟨⟨_, rfl⟩, ⟨_, rfl⟩, by decide +kernel⟩, rfl, rfl, rfl, rfl⟩

end Line

end Keyspace.Journal
