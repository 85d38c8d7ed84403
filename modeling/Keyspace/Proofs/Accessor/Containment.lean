import Keyspace.Proofs.Accessor.Address
import Keyspace.Proofs.Accessor.Performing

/-!
# Which keys stay in the keyspace

The path of a request for a key is what is left of the written path when its dot segments are
resolved. Escaping does not touch dot segments, so a key with two dots can lead out of the keyspace.
`requests_below_keyspace_iff` is the exact law: a request is for something in the keyspace when the
segments of the key lead to a place below its names, and otherwise it is for something else.
-/

namespace Keyspace.Accessor

/-- A key stays inside when its segments lead to a place below the names of the keyspace. -/
def staysInside (key : String) : Bool :=
  keyspaceNames.isPrefixOf (keyPlace key) && keyspaceNames.length < (keyPlace key).length

/-- A key stays inside exactly when something follows the names of the keyspace. -/
theorem staysInside_iff {key : String} :
    staysInside key = true ↔ ∃ name rest, keyPlace key = keyspaceNames ++ name :: rest := by
  simp only [staysInside, Bool.and_eq_true, List.isPrefixOf_iff_prefix, decide_eq_true_eq]
  constructor
  · rintro ⟨⟨below, isPlace⟩, longer⟩
    cases below with
    | nil => simp [← isPlace] at longer
    | cons name rest => exact ⟨name, rest, isPlace.symm⟩
  · rintro ⟨name, rest, isPlace⟩
    rw [isPlace]
    exact ⟨List.prefix_append _ _, by simp⟩

/-- A key without dot segments stays inside. -/
theorem staysInside_of_names {key : String}
    (names : ∀ segment ∈ keySegments key, Url.isDotSegment segment = false) :
    staysInside key = true := by
  obtain ⟨first, later, parted⟩ := List.exists_cons_of_ne_nil (keySegments_ne_nil key)
  refine staysInside_iff.2 ⟨first, later, ?_⟩
  rw [keyPlace, Url.walk_of_names names, parted]

private theorem fields_keyspacePath (rest : List Char) :
    Text.fields '/' (keyspacePath ++ rest) = [] :: keyspaceNames ++ Text.fields '/' rest := by
  have marked : keyspacePath ++ rest =
      ['/', 'v', '2', '/', 'k', 'e', 'y', 's'] ++ '/' :: rest := rfl
  rw [marked, Text.fields_append_separator]
  rfl

/-- The path to a place begins like the paths of the keyspace exactly when the place is below its
names. -/
theorem keyspacePath_prefix_iff {place : List (List Char)} :
    keyspacePath <+: pathTo place ↔ ∃ name rest, place = keyspaceNames ++ name :: rest := by
  have spelled : keyspaceNames.map spell = keyspaceNames := by decide
  constructor
  · rintro ⟨rest, isPath⟩
    have parted := fields_pathTo place
    rw [← isPath, fields_keyspacePath, List.cons_append, List.cons.injEq, ← spelled] at parted
    obtain ⟨names, below, rfl, isNames, isBelow⟩ := List.map_eq_append_iff.1 parted.2.symm
    have sameNames : names = keyspaceNames :=
      (List.map_inj_right fun _ _ => spell_inj.1).1 isNames
    cases below with
    | nil => exact absurd isBelow.symm (Text.fields_ne_nil '/' rest)
    | cons name others => exact ⟨name, others, by rw [sameNames]⟩
  · rintro ⟨name, others, rfl⟩
    refine ⟨Text.unfields '/' ((name :: others).map spell), ?_⟩
    rw [pathTo, List.map_append, spelled]
    simp [keyspaceNames, Text.unfields_cons_cons, keyspacePath]

/-- A request for a key goes below the keyspace exactly when the key stays inside. -/
theorem requests_below_keyspace_iff {serverUrl : Document} {setting : Option TimeoutSetting}
    {accessor : Accessor} (created : create serverUrl setting = .ok accessor)
    (origin : Url.IsOrigin accessor.serverUrl.toList) {State : Type} (serve : Server State)
    (isOpen : Bool) (operation : Operation) (key : String) (timeout : Option TimeoutSetting)
    (transcript : Transcript State) :
    ∃ added : List Request,
      (accessor.perform serve isOpen ⟨operation, .text key, timeout⟩ transcript).2.requests =
        transcript.requests ++ added ∧
      added.length ≤ 1 ∧
      ∀ request ∈ added, keyspacePath <+: request.url.path ↔ staysInside key = true := by
  obtain ⟨base, isBase⟩ := exists_isBase_of_create created
  rw [requests_perform]
  cases prepared : accessor.prepare ⟨operation, .text key, timeout⟩ with
  | error failure => exact ⟨[], by simp, by simp, by simp⟩
  | ok attempt =>
    obtain ⟨isKey, -, isAddress, request⟩ := isAttempt_of_prepare prepared
    obtain rfl : key = attempt.key := by simpa using isKey
    cases isRequest : attempt.request with
    | error fault => exact ⟨[], by simp [isRequest, sent], by simp, by simp⟩
    | ok ready =>
      rw [isRequest, isAddress] at request
      have path := path_of_urlOf isBase origin request.1
      refine ⟨sent isOpen (.ok ready), by simp only [isRequest], ?_, ?_⟩
      · cases isOpen <;> simp [sent]
      · intro added isAdded
        cases isOpen with
        | false => simp [sent] at isAdded
        | true =>
          obtain rfl : added = ready := by simpa [sent] using isAdded
          rw [path, keyspacePath_prefix_iff, staysInside_iff]

/-- The law at a key that leads out of the keyspace and in again. -/
theorem requests_below_keyspace_iff_standard :
    ∃ added : List Request,
      (standard.perform Script.serve true ⟨.read, .text "../keys/a", none⟩
          ⟨[], [], []⟩).2.requests = [] ++ added ∧
      added.length ≤ 1 ∧
      ∀ request ∈ added, keyspacePath <+: request.url.path ↔ staysInside "../keys/a" = true :=
  requests_below_keyspace_iff create_standard.1 create_standard.2 Script.serve true .read
    "../keys/a" none ⟨[], [], []⟩

/-- A key with two dots asks for the version of the server, which is not in the keyspace. -/
theorem exists_request_outside_keyspace :
    create (.text standardUrl) none = .ok standard ∧ Url.IsOrigin standard.serverUrl.toList ∧
      ∃ request ∈ (standard.perform Script.serve true ⟨.read, .text "../../version", none⟩
          ⟨[.ok { status := 200, body := [] }], [], []⟩).2.requests,
        request.target = "/version" ∧ ¬ keyspacePath <+: request.url.path := by
  refine ⟨create_standard.1, create_standard.2, ?_⟩
  decide +kernel

end Keyspace.Accessor
