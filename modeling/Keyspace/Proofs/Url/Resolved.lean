import Keyspace.Proofs.Text.Percent
import Keyspace.Proofs.Url.Appending
import Keyspace.Proofs.Url.DotSegments

/-!
# Resolved paths

A path without dot segments is left alone by a reader of URLs, but for the characters that are
escaped in it; and what is escaped is still without dot segments. So a path can be put behind a base
that has a path of its own, and a URL can be read a second time from its components.
-/

namespace Keyspace

namespace Text.Percent

variable {safe : Char → Bool} {text : List Char}

theorem encode_append (safe : Char → Bool) (text other : List Char) :
    encode safe (text ++ other) = encode safe text ++ encode safe other := List.flatMap_append

/-- What is escaped is written with a percent sign. -/
theorem encode_eq_self_of_not_mem (noSign : '%' ∉ encode safe text) : encode safe text = text := by
  refine encode_of_safe fun character isText => ?_
  by_contra notSafe
  refine noSign (List.mem_flatMap.2 ⟨character, isText, ?_⟩)
  rw [if_neg notSafe]
  have octets : String.utf8EncodeChar character ≠ [] := by
    rw [← List.length_pos_iff, String.length_utf8EncodeChar]
    exact Char.utf8Size_pos character
  obtain ⟨octet, later, areOctets⟩ := List.exists_cons_of_ne_nil octets
  simp [escape, areOctets, escapeOctet]

end Text.Percent

namespace Url

open Text.Percent (encode)

/-- A path is resolved when it has no dot segments. -/
def IsResolved (path : List Char) : Prop :=
  ∀ segment ∈ Text.fields '/' path, isDotSegment segment = false

instance (path : List Char) : Decidable (IsResolved path) :=
  inferInstanceAs (Decidable (∀ segment ∈ Text.fields '/' path, isDotSegment segment = false))

/-- There is nothing to resolve in a resolved path. -/
theorem IsResolved.resolvePath_eq {path : List Char} (resolved : IsResolved path) :
    resolvePath path = path := by
  refine if_neg ?_
  simp only [Bool.or_eq_true, List.contains_iff_mem, not_or]
  have isName : ∀ segment ∈ Text.fields '/' path,
      segment ≠ currentSegment ∧ segment ≠ parentSegment := by
    intro segment isSegment
    simpa [isDotSegment] using resolved segment isSegment
  exact ⟨fun isCurrent => (isName _ isCurrent).1 rfl, fun isParent => (isName _ isParent).2 rfl⟩

/-- A resolved rooted path behind a resolved path is resolved. -/
theorem IsResolved.append {path rest : List Char} (resolved : IsResolved path)
    (rooted : rest.head? = some '/') (below : IsResolved rest) : IsResolved (path ++ rest) := by
  obtain ⟨tail, rfl⟩ : ∃ tail, rest = '/' :: tail := by
    cases rest with
    | nil => simp at rooted
    | cons first tail => exact ⟨tail, by simpa using rooted⟩
  intro segment isSegment
  rw [Text.fields_append_separator, List.mem_append] at isSegment
  rcases isSegment with isBefore | isBelow
  · exact resolved segment isBefore
  · have parted : Text.fields '/' ('/' :: tail) = [] :: Text.fields '/' tail :=
      Text.fields_append_separator '/' [] tail
    exact below segment (parted ▸ List.mem_cons_of_mem _ isBelow)

/-- An encoded dot segment is one that was not encoded. -/
theorem isDotSegment_encode (safe : Char → Bool) {segment : List Char}
    (isName : isDotSegment segment = false) : isDotSegment (encode safe segment) = false := by
  by_contra isDots
  have noSign : '%' ∉ encode safe segment := by
    simp only [isDotSegment, Bool.not_eq_false, Bool.or_eq_true, decide_eq_true_eq] at isDots
    rcases isDots with isCurrent | isParent
    · rw [isCurrent]
      decide
    · rw [isParent]
      decide
  rw [Text.Percent.encode_eq_self_of_not_mem noSign] at isDots
  exact isDots isName

/-- Text without a slash in front of a path belongs to its first segment. -/
theorem fields_append_of_not_mem {piece : List Char} (noSlash : '/' ∉ piece) (path : List Char) :
    ∃ field later, Text.fields '/' path = field :: later ∧
      Text.fields '/' (piece ++ path) = (piece ++ field) :: later := by
  induction piece with
  | nil =>
    obtain ⟨field, later, parted⟩ := List.exists_cons_of_ne_nil (Text.fields_ne_nil '/' path)
    exact ⟨field, later, parted, parted⟩
  | cons character rest inductionHypothesis =>
    obtain ⟨apart, noSlash⟩ := List.ne_and_not_mem_of_not_mem_cons noSlash
    obtain ⟨field, later, parted, longer⟩ := inductionHypothesis noSlash
    obtain ⟨_, _, same, longest⟩ := Text.fields_cons_of_ne (Ne.symm apart) (rest ++ path)
    rw [longer, List.cons.injEq] at same
    obtain ⟨rfl, rfl⟩ := same
    exact ⟨field, later, parted, longest⟩

/-- Encoding a path keeps its segments apart. -/
theorem fields_encode {safe : Char → Bool} (keeps : safe '/' = true) (path : List Char) :
    Text.fields '/' (encode safe path) = (Text.fields '/' path).map (encode safe) := by
  induction path with
  | nil => rfl
  | cons character rest inductionHypothesis =>
    by_cases isSlash : character = '/'
    · subst isSlash
      have parted : encode safe ('/' :: rest) = [] ++ '/' :: encode safe rest := by
        simp [encode, keeps]
      rw [parted, Text.fields_append_separator, inductionHypothesis, Text.fields_cons]
      rfl
    · have noSlash : '/' ∉ encode safe [character] := by
        have written : encode safe [character] =
            if safe character then [character] else Text.Percent.escape character := by
          simp [encode]
        rw [written]
        split
        · simpa using Ne.symm isSlash
        · have apart : ∀ written ∈ Text.Percent.escape character, written ≠ '/' :=
            Text.Percent.forall_mem_escape character (by decide) (by decide)
          exact fun isWritten => apart '/' isWritten rfl
      have whole : encode safe (character :: rest) = encode safe [character] ++ encode safe rest :=
        Text.Percent.encode_append safe [character] rest
      obtain ⟨field, later, parted, longer⟩ := Text.fields_cons_of_ne isSlash rest
      obtain ⟨_, _, same, encoded⟩ := fields_append_of_not_mem noSlash (encode safe rest)
      rw [inductionHypothesis, parted, List.map_cons, List.cons.injEq] at same
      obtain ⟨rfl, rfl⟩ := same
      rw [whole, encoded, longer, List.map_cons]
      congr 1
      exact (Text.Percent.encode_append safe [character] field).symm

/-- Encoding keeps a path resolved. -/
theorem IsResolved.encode {safe : Char → Bool} (keeps : safe '/' = true) {path : List Char}
    (resolved : IsResolved path) : IsResolved (encode safe path) := by
  intro segment isSegment
  rw [fields_encode keeps] at isSegment
  obtain ⟨original, isOriginal, rfl⟩ := List.mem_map.1 isSegment
  exact isDotSegment_encode safe (resolved original isOriginal)

theorem encode_encode_isPathSafe (path : List Char) :
    Text.Percent.encode isPathSafe (Text.Percent.encode isPathSafe path) =
      Text.Percent.encode isPathSafe path :=
  Text.Percent.encode_of_safe
    (Text.Percent.forall_mem_encode path (fun _ isSafe => isSafe) (by decide) (by decide))

/-- A path is rooted, or there is none. -/
def IsRooted (path : List Char) : Prop := path = [] ∨ path.head? = some '/'

/-- Parting a resolved path gives the names that its segments lead to. -/
theorem fields_resolvePath (tail : List Char) :
    Text.fields '/' (resolvePath ('/' :: tail)) = [] :: walk [] (Text.fields '/' tail) := by
  have parted : Text.fields '/' ('/' :: tail) = [] :: Text.fields '/' tail :=
    Text.fields_append_separator '/' [] tail
  have whole : '/' :: tail = Text.unfields '/' ([] :: Text.fields '/' tail) := by
    rw [← parted, Text.unfields_fields]
  have apart : ∀ segment ∈ Text.fields '/' tail, '/' ∉ segment := fun _ =>
    Text.not_mem_of_mem_fields
  have apartWalked : ∀ name ∈ walk [] (Text.fields '/' tail), '/' ∉ name :=
    forall_mem_walk (by simp) fun segment isSegment _ => apart segment isSegment
  rw [whole, resolvePath_rooted apart]
  exact Text.fields_unfields (by simp) (by simpa using apartWalked)

/-- Resolving a rooted path leaves no dot segments. -/
theorem isResolved_resolvePath {path : List Char} (rooted : IsRooted path) :
    IsResolved (resolvePath path) := by
  rcases rooted with rfl | rooted
  · decide
  obtain ⟨tail, rfl⟩ : ∃ tail, path = '/' :: tail := List.head?_eq_some_iff.1 rooted
  intro name isName
  rw [fields_resolvePath] at isName
  rcases List.mem_cons.1 isName with rfl | isWalked
  · rfl
  · exact forall_mem_walk (by simp) (fun _ _ isName => isName) name isWalked

/-- A resolved path behind a rooted one stays as it is when the whole is resolved. -/
theorem resolvePath_append {path rest : List Char} (rooted : IsRooted path)
    (below : rest.head? = some '/') (resolved : IsResolved rest) :
    resolvePath (path ++ rest) = resolvePath path ++ rest := by
  rcases rooted with rfl | rooted
  · exact resolved.resolvePath_eq
  obtain ⟨tail, rfl⟩ : ∃ tail, path = '/' :: tail := List.head?_eq_some_iff.1 rooted
  obtain ⟨way, rfl⟩ : ∃ way, rest = '/' :: way := List.head?_eq_some_iff.1 below
  have names : ∀ segment ∈ Text.fields '/' way, isDotSegment segment = false := by
    intro segment isSegment
    have parted : Text.fields '/' ('/' :: way) = [] :: Text.fields '/' way :=
      Text.fields_append_separator '/' [] way
    exact resolved segment (parted ▸ List.mem_cons_of_mem _ isSegment)
  have walked : walk [] (Text.fields '/' (tail ++ '/' :: way)) =
      walk [] (Text.fields '/' tail) ++ Text.fields '/' way := by
    rw [Text.fields_append_separator, walk, List.foldl_append]
    exact walk_of_names names _
  -- Both sides have the same fields, and a path is made of its fields.
  have sameFields : Text.fields '/' (resolvePath ('/' :: tail ++ '/' :: way)) =
      Text.fields '/' (resolvePath ('/' :: tail) ++ '/' :: way) := by
    rw [Text.fields_append_separator, fields_resolvePath, List.cons_append, fields_resolvePath,
      walked]
    rfl
  rw [← Text.unfields_fields '/' (resolvePath ('/' :: tail ++ '/' :: way)), sameFields,
    Text.unfields_fields]

/-- A path is settled when reading it once more changes nothing: it is resolved, and what has to be
escaped in it is escaped. -/
structure IsSettled (path : List Char) : Prop where
  resolved : IsResolved path
  escaped : encode isPathSafe path = path

/-- A settled rooted path behind a settled path is settled. -/
theorem IsSettled.append {path rest : List Char} (settled : IsSettled path)
    (rooted : rest.head? = some '/') (below : IsSettled rest) : IsSettled (path ++ rest) where
  resolved := settled.resolved.append rooted below.resolved
  escaped := by rw [Text.Percent.encode_append, settled.escaped, below.escaped]

theorem isSettled_encode {path : List Char} (rooted : IsRooted path) :
    IsSettled (encode isPathSafe (resolvePath path)) where
  resolved := (isResolved_resolvePath rooted).encode (by decide)
  escaped := encode_encode_isPathSafe _

end Url

end Keyspace
