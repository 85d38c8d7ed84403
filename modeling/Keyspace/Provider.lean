import Keyspace.Configuration.Basic
import Keyspace.PropertySource

/-!
# Configuration providers

A provider builds configurations from its sources, by ascending ordinal, and holds one of them. It
builds its first configuration when it is asked for one; a build that fails changes nothing.
Configurations are told apart by the serial number under which they were issued, since two of them
may well be equal.
-/

namespace Keyspace

/-- A configuration with its serial number. -/
structure Issued where
  serial : Nat
  configuration : Configuration
deriving DecidableEq

/-- Sources, the configuration that is held, and how many have been issued. -/
structure Provider where
  sources : List PropertySource
  held : Option Issued := none
  issued : Nat := 0
deriving DecidableEq

/-- What a provider is asked to hold: a configuration, or something else by mistake. -/
inductive Candidate where
  | configuration (issued : Issued)
  | other (document : Document)
deriving DecidableEq

namespace Provider

variable {State : Type}

/-- The provider with the default source, which serves the directory that the settings name. -/
def standard (environment : Environment) : Provider where
  sources := [{ directory := (Settings.rootKey environment).getD "" }]

/-- Give a configuration a serial number. -/
def issue (configuration : Configuration) (provider : Provider) : Issued × Provider :=
  (⟨provider.issued, configuration⟩, { provider with issued := provider.issued + 1 })

/-- Hold a configuration. -/
def hold (issued : Issued) (provider : Provider) : Provider := { provider with held := some issued }

/-- Merge the listings of sources, one after the other. -/
def gather (serve : Server State) (default : DefaultAccessor) :
    List PropertySource → Entries String → Transcript State →
      Except Failure (Entries String) × Transcript State
  | [], gathered, transcript => (.ok gathered, transcript)
  | source :: later, gathered, transcript =>
    match source.properties serve default transcript with
    | (.error failure, after) => (.error failure, after)
    | (.ok listed, after) => gather serve default later (gathered.merge listed) after

/-- Build a configuration from the sources. -/
def build (serve : Server State) (default : DefaultAccessor) (provider : Provider)
    (transcript : Transcript State) : Except Failure Configuration × Transcript State :=
  let ordered := PropertySource.byOrdinal provider.sources
  match gather serve default ordered Entries.empty transcript with
  | (.error failure, after) => (.error failure, after)
  | (.ok gathered, after) =>
    match ordered.mapM (PropertySource.displayName default) with
    | .error failure => (.error failure, after)
    | .ok names =>
      let configuration := Configuration.ofTexts gathered names
      (.ok configuration, after.note (.built names configuration.properties.size))

/-- Build a configuration and hold it. -/
def reload (serve : Server State) (default : DefaultAccessor) (provider : Provider)
    (transcript : Transcript State) :
    Except Failure Issued × Provider × Transcript State :=
  match provider.build serve default transcript with
  | (.error failure, after) => (.error failure, provider, after)
  | (.ok configuration, after) =>
    let (issued, provider) := provider.issue configuration
    (.ok issued, provider.hold issued, after)

/-- The configuration that is held, or a first one. -/
def current (serve : Server State) (default : DefaultAccessor) (provider : Provider)
    (transcript : Transcript State) :
    Except Failure Issued × Provider × Transcript State :=
  match provider.held with
  | some issued => (.ok issued, provider, transcript)
  | none => provider.reload serve default transcript

/-- The properties of the configuration that is held, or of a first one. -/
def allProperties (serve : Server State) (default : DefaultAccessor) (provider : Provider)
    (transcript : Transcript State) :
    Except Failure (Entries Document) × Provider × Transcript State :=
  let (result, provider, after) := provider.current serve default transcript
  (result.map fun issued => issued.configuration.properties, provider, after)

/-- Hold a configuration in place of the present one. -/
def replace (candidate : Candidate) (provider : Provider) (transcript : Transcript State) :
    Except Failure Unit × Provider × Transcript State :=
  match candidate with
  | .configuration issued => (.ok (), provider.hold issued, transcript.note .replaced)
  | .other .null =>
    (.error (.fault ⟨.value, "config must not be None"⟩), provider, transcript)
  | .other document =>
    (.error (.fault ⟨.type, "expected Configuration, got " ++ document.kindName⟩), provider,
      transcript)

/-- The names of the sources whose error a configuration tells, in the order of the provider. -/
def failedSources (default : DefaultAccessor) (provider : Provider)
    (configuration : Configuration) : List String :=
  (provider.sources.filter fun source => configuration.entries.contains source.errorKey).filterMap
    fun source => (source.displayName default).toOption

/-- Load the configuration; whether no source reported an error. -/
def start (serve : Server State) (default : DefaultAccessor) (provider : Provider)
    (transcript : Transcript State) : Bool × Provider × Transcript State :=
  match provider.reload serve default transcript with
  | (.error failure, provider, after) =>
    (false, provider, after.note (.loadFailed failure.toFault))
  | (.ok issued, provider, after) =>
    let failed := provider.failedSources default issued.configuration
    if failed.isEmpty then (true, provider, after)
    else (false, provider, after.note (.partiallyLoaded failed))

end Provider

end Keyspace
