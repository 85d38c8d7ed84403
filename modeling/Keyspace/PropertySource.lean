import Keyspace.Settings

/-!
# Property sources

A property source gives the flat listing of one directory, metadata and a failed listing's error
included. It works with an accessor of its own or else with the default one, which may be
unusable. Among several sources those of higher ordinal come later and win.
-/

namespace Keyspace

/-- The accessor that is used where none is given, if the settings allow for one. -/
abbrev DefaultAccessor := Except Failure Accessor

/-- A directory whose listing gives properties. -/
structure PropertySource where
  accessor : Option Accessor := none
  /-- The client of the accessor that the source works with, whichever it is, has not been closed. -/
  isOpen : Bool := true
  directory : String := ""
  name : Option String := none
  ordinal : Number := .int 1000
deriving DecidableEq

namespace PropertySource

variable {State : Type}

/-- The accessor that a source works with. -/
def resolve (default : DefaultAccessor) (source : PropertySource) : Except Failure Accessor :=
  match source.accessor with
  | some accessor => .ok accessor
  | none => default

/-- The name of a source: the given one, or else one made of the base URL and the directory. -/
def displayName (default : DefaultAccessor) (source : PropertySource) : Except Failure String :=
  match source.name with
  | some name => .ok name
  | none => (source.resolve default).map fun accessor =>
    "etcd:" ++ accessor.serverUrl ++ "/" ++
      String.ofList (source.directory.toList.dropWhile (· = '/'))

/-- The source in one line. -/
def summary (default : DefaultAccessor) (source : PropertySource) : Except Failure String :=
  (source.displayName default).map fun name =>
    "EtcdPropertySource(name=" ++ Text.quoted name ++ ", ordinal=" ++ source.ordinal.text ++ ")"

/-- The key under which the listing of a source tells its error. -/
def errorKey (source : PropertySource) : String :=
  Companion.key source.directory Companion.errorName

/-- The operation that lists a source. -/
def listing (source : PropertySource) : Call :=
  { operation := .readTree true, key := .text source.directory }

/-- The event of a listing with an error. -/
def failure? (default : DefaultAccessor) (source : PropertySource) (listed : Entries String) :
    Option Event := do
  let description ← listed.find? source.errorKey
  let name ← (source.displayName default).toOption
  return .sourceFailed name source.directory description

/-- The flat listing of a source. -/
def properties (serve : Server State) (default : DefaultAccessor) (source : PropertySource)
    (transcript : Transcript State) : Except Failure (Entries String) × Transcript State :=
  match source.resolve default with
  | .error failure => (.error failure, transcript)
  | .ok accessor =>
    match accessor.perform serve source.isOpen source.listing transcript with
    | (.error failure, after) => (.error failure, after)
    | (.ok outcome, after) =>
      match source.failure? default outcome.toMap with
      | none => (.ok outcome.toMap, after)
      | some event => (.ok outcome.toMap, after.note event)

/-- The present value of a single key, if it can be read. -/
def get (serve : Server State) (default : DefaultAccessor) (source : PropertySource)
    (key : Argument) (transcript : Transcript State) :
    Except Failure (Option String) × Transcript State :=
  match source.resolve default with
  | .error failure => (.error failure, transcript)
  | .ok accessor =>
    let (result, after) := accessor.perform serve source.isOpen { operation := .read, key } transcript
    (result.map Outcome.value, after)

/-- Put a source in front of the first one whose ordinal is not lower. -/
def insertByOrdinal (source : PropertySource) : List PropertySource → List PropertySource
  | [] => [source]
  | other :: later =>
    if source.ordinal.le other.ordinal then source :: other :: later
    else other :: insertByOrdinal source later

/-- Putting a source in its place keeps all others. -/
theorem insertByOrdinal_perm (source : PropertySource) (sources : List PropertySource) :
    (insertByOrdinal source sources).Perm (source :: sources) := by
  induction sources with
  | nil => exact List.Perm.refl _
  | cons other later inductionHypothesis =>
    simp only [insertByOrdinal]
    split
    · exact List.Perm.refl _
    · exact (List.Perm.cons other inductionHypothesis).trans (List.Perm.swap source other later)

/-- Sources by ascending ordinal; sources of one ordinal keep their order. -/
def byOrdinal (sources : List PropertySource) : List PropertySource :=
  sources.foldr insertByOrdinal []

/-- Ordering sources neither loses nor adds any. -/
theorem byOrdinal_perm (sources : List PropertySource) : (byOrdinal sources).Perm sources := by
  induction sources with
  | nil => exact List.Perm.refl _
  | cons source later inductionHypothesis =>
    exact (insertByOrdinal_perm source (byOrdinal later)).trans
      (List.Perm.cons source inductionHypothesis)

end PropertySource

end Keyspace
