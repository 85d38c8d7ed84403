import Keyspace.Accessor
import Keyspace.Proofs.Text.Percent
import Keyspace.Proofs.Url.Appending
import Keyspace.Proofs.Url.DotSegments

/-!
# Addresses of keys

The path to a key is a walk from the root over the segments of the key, below the two names that
every such path begins with. Escaping keeps segments apart and tells names from dot segments, so
that the path of the URL is the place that the walk leads to, each name escaped.
-/

namespace Keyspace.Accessor

/-- The segments of a key, without slashes in front. -/
def keySegments (key : String) : List (List Char) :=
  Text.fields '/' (key.toList.dropWhile (· = '/'))

/-- The names that lead to the keyspace. -/
def keyspaceNames : List (List Char) := [['v', '2'], ['k', 'e', 'y', 's']]

/-- What the paths of the keyspace begin with. -/
def keyspacePath : List Char := ['/', 'v', '2', '/', 'k', 'e', 'y', 's', '/']

/-- The place that the path of a key leads to. -/
def keyPlace (key : String) : List (List Char) := Url.walk keyspaceNames (keySegments key)

/-- A name or segment as it is written in a path. -/
def spell (segment : List Char) : List Char :=
  Text.Percent.encode Text.Percent.isUnreserved segment

/-- The path to a place. -/
def pathTo (place : List (List Char)) : List Char :=
  Text.unfields '/' ([] :: place.map spell)

/-- The path that an address has for a key, before it is resolved. -/
def writtenPath (key : String) : List Char := pathTo (keyspaceNames ++ keySegments key)

theorem keySegments_ne_nil (key : String) : keySegments key ≠ [] := Text.fields_ne_nil _ _

/-- The written path of a key is that of the keyspace with the escaped key behind it. -/
theorem writtenPath_eq (key : String) : writtenPath key = keyspacePath ++ keyPath key := by
  obtain ⟨first, later, parted⟩ := List.exists_cons_of_ne_nil (keySegments_ne_nil key)
  have inside : keyPath key = Text.unfields '/' ((keySegments key).map spell) := rfl
  have spelled : keyspaceNames.map spell = keyspaceNames := by decide
  rw [inside, writtenPath, pathTo, List.map_append, spelled, parted]
  simp [keyspaceNames, keyspacePath, Text.unfields_cons_cons]

theorem toList_keyAddress (accessor : Accessor) (key : String) :
    (accessor.keyAddress key).toList = accessor.serverUrl.toList ++ writtenPath key := by
  have start : keyspacePath = "/v2/keys/".toList := by decide
  rw [writtenPath_eq, start]
  simp [keyAddress]

/-- A character that stands for itself inside a segment of a path. -/
def isSegmentCharacter (character : Char) : Bool :=
  character ≠ '/' && Url.isPathSafe character && Url.isPathCharacter character &&
    !Url.isControl character

/-- Unreserved characters stand for themselves inside a segment. -/
theorem isSegmentCharacter_of_isUnreserved {character : Char}
    (unreserved : Text.Percent.isUnreserved character = true) :
    isSegmentCharacter character = true := by
  have ascii : ∀ character : Char, character.toNat < 128 →
      Text.Percent.isUnreserved character = true → isSegmentCharacter character = true :=
    Text.Percent.forall_ascii (by decide)
  exact ascii character (Text.Percent.toNat_lt_of_isUnreserved unreserved) unreserved

/-- A spelled segment stands for itself. -/
theorem isSegmentCharacter_of_mem_spell {segment : List Char} :
    ∀ character ∈ spell segment, isSegmentCharacter character = true :=
  Text.Percent.forall_mem_encode segment (fun _ => isSegmentCharacter_of_isUnreserved) (by decide)
    (by decide)

theorem not_mem_spell (segment : List Char) : '/' ∉ spell segment := by
  intro isSpelled
  have inside := isSegmentCharacter_of_mem_spell '/' isSpelled
  simp [isSegmentCharacter] at inside

/-- Different segments are spelled differently. -/
theorem spell_inj {segment other : List Char} : spell segment = spell other ↔ segment = other :=
  Text.Percent.encode_inj (by decide)

/-- Reading the escapes of spelled segments undoes spelling them. -/
theorem map_decode_spell (segments : List (List Char)) :
    (segments.map spell).map Text.Percent.decode = segments := by
  have each : ∀ segment ∈ segments, (Text.Percent.decode ∘ spell) segment = id segment :=
    fun segment _ => Text.Percent.decode_encode (by decide) segment
  rw [List.map_map, List.map_congr_left each, List.map_id]

/-- Parting the escaped key gives its segments, spelled. -/
theorem fields_keyPath (key : String) :
    Text.fields '/' (keyPath key) = (keySegments key).map spell := by
  have nonempty : (keySegments key).map spell ≠ [] := by simpa using keySegments_ne_nil key
  refine Text.fields_unfields nonempty ?_
  intro segment isSpelled
  obtain ⟨name, -, rfl⟩ := List.mem_map.1 isSpelled
  exact not_mem_spell name

/-- A path stands for itself: no character of it is escaped, ends it or is refused. -/
theorem isPlain_of_mem_pathTo {place : List (List Char)} {character : Char}
    (isPath : character ∈ pathTo place) :
    Url.isPathSafe character = true ∧ Url.isPathCharacter character = true ∧
      Url.isControl character = false := by
  rcases Text.mem_unfields isPath with rfl | ⟨segment, isSegment, inSegment⟩
  · decide
  rcases List.mem_cons.1 isSegment with rfl | isSpelled
  · simp at inSegment
  · obtain ⟨name, -, rfl⟩ := List.mem_map.1 isSpelled
    have inside := isSegmentCharacter_of_mem_spell character inSegment
    simp only [isSegmentCharacter, Bool.and_eq_true, Bool.not_eq_true'] at inside
    exact ⟨inside.1.1.2, inside.1.2, inside.2⟩

theorem encode_pathTo (place : List (List Char)) :
    Text.Percent.encode Url.isPathSafe (pathTo place) = pathTo place :=
  Text.Percent.encode_of_safe fun _ isPath => (isPlain_of_mem_pathTo isPath).1

theorem head?_pathTo {place : List (List Char)} (below : place ≠ []) :
    (pathTo place).head? = some '/' := by
  obtain ⟨first, later, rfl⟩ := List.exists_cons_of_ne_nil below
  rw [pathTo, List.map_cons, Text.unfields_cons_cons]
  rfl

/-- The written path of a key is rooted. -/
theorem head?_writtenPath (key : String) : (writtenPath key).head? = some '/' :=
  head?_pathTo (by simp [keyspaceNames])

/-- Parting a path gives the spelled names on the way. -/
theorem fields_pathTo (place : List (List Char)) :
    Text.fields '/' (pathTo place) = [] :: place.map spell := by
  refine Text.fields_unfields (by simp) ?_
  intro segment isSegment
  rcases List.mem_cons.1 isSegment with rfl | isSpelled
  · simp
  · obtain ⟨name, -, rfl⟩ := List.mem_map.1 isSpelled
    exact not_mem_spell name

/-- Resolving a path leads to where its segments lead. -/
theorem resolvePath_pathTo (segments : List (List Char)) :
    Url.resolvePath (pathTo segments) = pathTo (Url.walk [] segments) := by
  have apart : ∀ segment ∈ segments.map spell, '/' ∉ segment := by
    intro segment isSpelled
    obtain ⟨name, -, rfl⟩ := List.mem_map.1 isSpelled
    exact not_mem_spell name
  have spelled := Url.walk_map (by decide) (by decide) (fun _ _ => spell_inj.1) [] segments
  rw [pathTo, Url.resolvePath_rooted apart, pathTo, ← spelled]
  rfl

/-- The written path of a key leads to the place of the key. -/
theorem resolvePath_writtenPath (key : String) :
    Url.resolvePath (writtenPath key) = pathTo (keyPlace key) := by
  have below : Url.walk [] (keyspaceNames ++ keySegments key) = keyPlace key := by
    rw [keyPlace, Url.walk, List.foldl_append]
    rfl
  rw [writtenPath, resolvePath_pathTo, below]

theorem isDotSegment_of_mem_keyPlace {key : String} :
    ∀ name ∈ keyPlace key, Url.isDotSegment name = false :=
  Url.forall_mem_walk (by decide) fun _ _ isName => isName

/-- The path to the place of a key is resolved. -/
theorem resolvePath_keyPlace (key : String) :
    Url.resolvePath (pathTo (keyPlace key)) = pathTo (keyPlace key) := by
  rw [resolvePath_pathTo, Url.walk_of_names isDotSegment_of_mem_keyPlace, List.nil_append]

/-- A URL is the base of an accessor: its base URL reads as it, and keys can be appended to it. -/
structure IsBase (accessor : Accessor) (base : Url) : Prop where
  read : Url.read accessor.serverUrl.toList = .ok base
  usable : isUsable base = true

/-- A base has a scheme and a host. -/
theorem IsBase.ne_nil {accessor : Accessor} {base : Url} (isBase : accessor.IsBase base) :
    base.scheme ≠ [] ∧ base.host ≠ [] := by
  have usable := isBase.usable
  simp only [isUsable, Bool.and_eq_true, Bool.or_eq_true, decide_eq_true_eq, Bool.not_eq_true',
    List.isEmpty_eq_false_iff] at usable
  obtain ⟨scheme, host⟩ := usable
  refine ⟨?_, host⟩
  rcases scheme with plain | encrypted
  · simp [plain]
  · simp [encrypted]

/-- An accessor that was made has a base. -/
theorem exists_isBase_of_create {serverUrl : Document} {timeout : Option TimeoutSetting}
    {accessor : Accessor} (created : create serverUrl timeout = .ok accessor) :
    ∃ base, accessor.IsBase base := by
  simp only [create, bind, Except.bind] at created
  split at created
  · simp at created
  next checked passed =>
  split at created
  · simp at created
  simp only [pure, Except.pure, Except.ok.injEq] at created
  subst created
  unfold checkUrl at passed
  split at passed
  · next text =>
    split at passed
    · simp at passed
    simp only at passed
    split at passed
    · simp at passed
    next base isRead =>
    split at passed
    · next usable =>
      simp only [Except.ok.injEq] at passed
      subst passed
      exact ⟨base, isRead, usable⟩
    · simp at passed
  · split at passed <;> simp at passed

/-- The accessor that is made where nothing else is asked for. -/
def standard : Accessor := { serverUrl := standardUrl, timeout := .standard }

/-- The base URL of the standard accessor is accepted, and it is an origin. -/
theorem create_standard :
    create (.text standardUrl) none = .ok standard ∧ Url.IsOrigin standard.serverUrl.toList := by
  decide +kernel

/-- Without a query, the URL of an address is read from it. -/
theorem urlOf_none (address : String) : urlOf address none = Url.read address.toList := by
  simp only [urlOf, bind, Except.bind]
  cases Url.read address.toList <;> rfl

/-- A query is put into the URL that is read from an address. -/
theorem urlOf_some_eq_ok_iff {address : String} {query : List Char} {url : Url} :
    urlOf address (some query) = .ok url ↔
      ∃ unqueried, urlOf address none = .ok unqueried ∧ unqueried.withQuery query = .ok url := by
  have puts : urlOf address (some query) = (urlOf address none).bind (Url.withQuery query) := by
    rw [urlOf_none]
    rfl
  rw [puts]
  cases urlOf address none with
  | error fault => simp [Except.bind]
  | ok unqueried => simp [Except.bind]

/-- The URL of a key: nothing but its length can be wrong with its address, and its path leads to
the place of the key. -/
theorem urlOf_keyAddress {accessor : Accessor} {base : Url} (isBase : accessor.IsBase base)
    (origin : Url.IsOrigin accessor.serverUrl.toList) (key : String) :
    urlOf (accessor.keyAddress key) none =
      if (accessor.keyAddress key).length ≤ Url.lengthLimit then
        .ok { base with path := pathTo (keyPlace key) }
      else .error .tooLong := by
  obtain ⟨scheme, host⟩ := isBase.ne_nil
  have read := Url.read_append_path isBase.read scheme host origin (head?_writtenPath key)
    fun _ isPath => (isPlain_of_mem_pathTo isPath).2
  rw [resolvePath_writtenPath, encode_pathTo] at read
  have length : (accessor.keyAddress key).length =
      accessor.serverUrl.toList.length + (writtenPath key).length := by
    rw [← String.length_toList, toList_keyAddress, List.length_append]
  rw [urlOf_none, toList_keyAddress, read, length]

/-- A URL with another query is put together from what was written. -/
theorem exists_assemble_of_withQuery {query : List Char} {url changed : Url}
    (made : url.withQuery query = .ok changed) :
    ∃ host port, changed = (Url.writtenWith query url).assemble host port := by
  unfold Url.withQuery at made
  simp only at made
  split at made
  · simp at made
  obtain ⟨host, port, -, -, same, -⟩ := Url.ofWritten_eq_ok_iff.1 made
  exact ⟨host, port, same⟩

theorem path_of_withQuery {query : List Char} {url changed : Url}
    (made : url.withQuery query = .ok changed) (scheme : url.scheme ≠ []) :
    changed.path = Text.Percent.encode Url.isPathSafe (Url.resolvePath url.path) := by
  obtain ⟨host, port, rfl⟩ := exists_assemble_of_withQuery made
  simp [Url.Written.assemble, Url.writtenWith, scheme]

theorem query_of_withQuery {query : List Char} {url changed : Url}
    (made : url.withQuery query = .ok changed) :
    changed.query = some (Text.Percent.encode Url.isQuerySafe query) := by
  obtain ⟨host, port, rfl⟩ := exists_assemble_of_withQuery made
  rfl

/-- Whatever the query, the path of the URL of a key leads to the place of the key. -/
theorem path_of_urlOf {accessor : Accessor} {base : Url} (isBase : accessor.IsBase base)
    (origin : Url.IsOrigin accessor.serverUrl.toList) {key : String} {query : Option (List Char)}
    {url : Url} (made : urlOf (accessor.keyAddress key) query = .ok url) :
    url.path = pathTo (keyPlace key) := by
  have unqueried : ∀ {plain}, urlOf (accessor.keyAddress key) none = .ok plain →
      plain = { base with path := pathTo (keyPlace key) } := by
    intro plain isUrl
    rw [urlOf_keyAddress isBase origin] at isUrl
    split at isUrl <;> cases isUrl
    rfl
  cases query with
  | none => rw [unqueried made]
  | some query =>
    obtain ⟨plain, isUrl, changed⟩ := urlOf_some_eq_ok_iff.1 made
    obtain rfl := unqueried isUrl
    rw [path_of_withQuery changed isBase.ne_nil.1, resolvePath_keyPlace, encode_pathTo]

end Keyspace.Accessor
