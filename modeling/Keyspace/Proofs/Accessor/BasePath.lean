import Keyspace.Proofs.Accessor.Address
import Keyspace.Proofs.Url.Resolved

/-!
# Paths behind the path of a base

The path of a key is put behind the base URL of an accessor as text. `path_of_urlOf_behind` says what
becomes of it for keys without dot segments and for every base: it stands behind the path of the
base, and stays there however often the URL is read, unless the base has a query or a fragment, which
the text belongs to then.
-/

namespace Keyspace

namespace Url

variable {text : List Char}

instance (text : List Char) : Decidable (IsBare text) := by
  unfold IsBare
  infer_instance

/-- More text behind a URL that is not bare changes nothing of its scheme and its path. -/
theorem extend_of_not_isBare (notBare : ¬ IsBare text) (rest : List Char) :
    ((split text).extend rest).scheme = (split text).scheme ∧
      ((split text).extend rest).path = (split text).path := by
  unfold Written.extend
  split
  · exact ⟨rfl, rfl⟩
  · exact ⟨rfl, rfl⟩
  · next noFragment noQuery => exact absurd ⟨noQuery, noFragment⟩ notBare

end Url

namespace Accessor

variable {accessor : Accessor} {base url : Url} {key : String}

theorem IsBase.isRooted (isBase : accessor.IsBase base) :
    Url.IsRooted (Url.split accessor.serverUrl.toList).path := by
  by_cases noPath : (Url.split accessor.serverUrl.toList).path = []
  · exact .inl noPath
  · exact .inr (Url.rooted_of_ofWritten (Url.read_eq_ok_iff.1 isBase.read).2 isBase.ne_nil.2 noPath)

theorem IsBase.path_written (isBase : accessor.IsBase base) :
    base.path = Text.Percent.encode Url.isPathSafe
      (Url.resolvePath (Url.split accessor.serverUrl.toList).path) :=
  Url.path_of_ofWritten (Url.read_eq_ok_iff.1 isBase.read).2 isBase.ne_nil.1

theorem IsBase.isSettled (isBase : accessor.IsBase base) : Url.IsSettled base.path := by
  rw [isBase.path_written]
  exact Url.isSettled_encode isBase.isRooted

/-- The written path of a key without dot segments is resolved. -/
theorem isResolved_writtenPath
    (names : ∀ segment ∈ keySegments key, Url.isDotSegment segment = false) :
    Url.IsResolved (writtenPath key) := by
  intro segment isSegment
  rw [writtenPath, fields_pathTo] at isSegment
  rcases List.mem_cons.1 isSegment with rfl | isSpelled
  · rfl
  obtain ⟨name, isName, rfl⟩ := List.mem_map.1 isSpelled
  refine Url.isDotSegment_encode _ ?_
  rcases List.mem_append.1 isName with isFirst | isLater
  · have notDots : ∀ name ∈ keyspaceNames, Url.isDotSegment name = false := by decide
    exact notDots name isFirst
  · exact names name isLater

theorem isSettled_writtenPath
    (names : ∀ segment ∈ keySegments key, Url.isDotSegment segment = false) :
    Url.IsSettled (writtenPath key) where
  resolved := isResolved_writtenPath names
  escaped := encode_pathTo _

/-- The path of a request for a key, behind the path of a base. -/
def pathBehind (accessor : Accessor) (base : Url) (key : String) : List Char :=
  if Url.IsBare accessor.serverUrl.toList then base.path ++ writtenPath key else base.path

/-- The URL of a key behind a bare base: nothing but its length can be wrong with its address, and the
written path is put behind that of the base. -/
theorem urlOf_keyAddress_of_isBare (isBase : accessor.IsBase base)
    (bare : Url.IsBare accessor.serverUrl.toList)
    (names : ∀ segment ∈ keySegments key, Url.isDotSegment segment = false) :
    urlOf (accessor.keyAddress key) none =
      if (accessor.keyAddress key).length ≤ Url.lengthLimit then
        .ok { base with path := base.path ++ writtenPath key }
      else .error .tooLong := by
  obtain ⟨scheme, host⟩ := isBase.ne_nil
  have read := Url.read_append isBase.read scheme host bare (head?_writtenPath key) fun _ isPath =>
    (isPlain_of_mem_pathTo isPath).2
  rw [Url.resolvePath_append isBase.isRooted (head?_writtenPath key) (isResolved_writtenPath names),
    Text.Percent.encode_append, (isSettled_writtenPath names).escaped, ← isBase.path_written] at read
  have length : (accessor.keyAddress key).length =
      accessor.serverUrl.toList.length + (writtenPath key).length := by
    rw [← String.length_toList, toList_keyAddress, List.length_append]
  rw [urlOf_none, toList_keyAddress, read, length]

/-- The URL of a key behind a base that is not bare has the path of the base. -/
theorem path_of_urlOf_of_not_isBare (isBase : accessor.IsBase base)
    (notBare : ¬ Url.IsBare accessor.serverUrl.toList)
    (made : urlOf (accessor.keyAddress key) none = .ok url) :
    url.scheme = base.scheme ∧ url.path = base.path := by
  obtain ⟨scheme, host⟩ := isBase.ne_nil
  have composed := (Url.read_eq_ok_iff.1 isBase.read).2
  have isScheme := Url.scheme_of_ofWritten composed
  have writtenScheme : (Url.split accessor.serverUrl.toList).scheme ≠ [] := by
    rintro none
    exact scheme (by rw [isScheme, none, List.map_nil])
  have parted := Url.split_append writtenScheme (Url.authority_ne_nil_of_ofWritten composed host)
    (head?_writtenPath key) fun _ isPath => (isPlain_of_mem_pathTo isPath).2.1
  obtain ⟨sameScheme, samePath⟩ := Url.extend_of_not_isBare notBare (writtenPath key)
  rw [urlOf_none, toList_keyAddress, Url.read_eq_ok_iff, parted] at made
  have isSameScheme : url.scheme = base.scheme := by
    rw [Url.scheme_of_ofWritten made.2, sameScheme, isScheme]
  refine ⟨isSameScheme, ?_⟩
  rw [Url.path_of_ofWritten made.2 (isSameScheme ▸ scheme), samePath, isBase.path_written]

/-- Without another query, the URL of a key has the scheme of the base and the path behind it. -/
theorem path_of_urlOf_none (isBase : accessor.IsBase base)
    (names : ∀ segment ∈ keySegments key, Url.isDotSegment segment = false)
    (made : urlOf (accessor.keyAddress key) none = .ok url) :
    url.scheme = base.scheme ∧ url.path = accessor.pathBehind base key := by
  unfold pathBehind
  split
  · next bare =>
    rw [urlOf_keyAddress_of_isBare isBase bare names] at made
    split at made <;> cases made
    exact ⟨rfl, rfl⟩
  · next notBare => exact path_of_urlOf_of_not_isBare isBase notBare made

/-- The path behind a base is settled. -/
theorem isSettled_pathBehind (isBase : accessor.IsBase base)
    (names : ∀ segment ∈ keySegments key, Url.isDotSegment segment = false) :
    Url.IsSettled (accessor.pathBehind base key) := by
  unfold pathBehind
  split
  · exact isBase.isSettled.append (head?_writtenPath key) (isSettled_writtenPath names)
  · exact isBase.isSettled

/-- Whatever the query, the URL of a key has the path behind the base. -/
theorem path_of_urlOf_behind (isBase : accessor.IsBase base)
    (names : ∀ segment ∈ keySegments key, Url.isDotSegment segment = false)
    {query : Option (List Char)} (made : urlOf (accessor.keyAddress key) query = .ok url) :
    url.path = accessor.pathBehind base key := by
  cases query with
  | none => exact (path_of_urlOf_none isBase names made).2
  | some query =>
    obtain ⟨unqueried, isUrl, changed⟩ := urlOf_some_eq_ok_iff.1 made
    obtain ⟨sameScheme, behind⟩ := path_of_urlOf_none isBase names isUrl
    -- The path is resolved and escaped a second time, which leaves it as it is.
    have settled : Url.IsSettled (accessor.pathBehind base key) := isSettled_pathBehind isBase names
    rw [path_of_withQuery changed (sameScheme ▸ isBase.ne_nil.1), behind,
      settled.resolved.resolvePath_eq, settled.escaped]

end Accessor

end Keyspace
