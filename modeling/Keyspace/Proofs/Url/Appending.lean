import Keyspace.Url.Parser
import Mathlib.Data.List.TakeWhile

/-!
# Appending a path to a URL

An address is a base URL with a path put behind it as text. `split_append` says where the path
goes: behind the last component that the base has, and nowhere else. `ofWritten_eq_ok_iff` opens the
reading of components once, so that `read_append_path` can carry the reading of the base over to the
reading of the address.
-/

namespace Keyspace.Url

/-- A character outside a class ends what stands in the class at the front. -/
theorem takeWhile_append_cons {inside : Char → Bool} {mark : Char} (stops : inside mark = false)
    (before after : List Char) :
    (before ++ mark :: after).takeWhile inside = before.takeWhile inside := by
  induction before with
  | nil => simp [stops]
  | cons character rest inductionHypothesis =>
    simp only [List.cons_append, List.takeWhile_cons, inductionHypothesis]

/-- A character outside a class stays behind what stands in the class at the front. -/
theorem dropWhile_append_cons {inside : Char → Bool} {mark : Char} (stops : inside mark = false)
    (before after : List Char) :
    (before ++ mark :: after).dropWhile inside = before.dropWhile inside ++ mark :: after := by
  induction before with
  | nil => simp [stops]
  | cons character rest inductionHypothesis =>
    simp only [List.cons_append, List.dropWhile_cons, inductionHypothesis]
    split <;> rfl

/-- A class that has ended does not depend on what follows. -/
theorem span_append_of_ended {inside : Char → Bool} {text : List Char}
    (ended : text.dropWhile inside ≠ []) (rest : List Char) :
    (text ++ rest).takeWhile inside = text.takeWhile inside ∧
      (text ++ rest).dropWhile inside = text.dropWhile inside ++ rest := by
  induction text with
  | nil => simp at ended
  | cons character later inductionHypothesis =>
    by_cases within : inside character = true
    · simp only [List.dropWhile_cons, within, if_true] at ended
      simpa [within] using inductionHypothesis ended
    · simp [within]

/-- A scheme that was found does not depend on what follows. -/
theorem takeScheme_append {text : List Char} (found : (takeScheme text).1 ≠ []) (rest : List Char) :
    takeScheme (text ++ rest) = ((takeScheme text).1, (takeScheme text).2 ++ rest) := by
  unfold takeScheme at found ⊢
  cases ending : text.dropWhile isSchemeCharacter with
  | nil => simp [ending] at found
  | cons mark after =>
    have ended : text.dropWhile isSchemeCharacter ≠ [] := by simp [ending]
    obtain ⟨name, longer⟩ := span_append_of_ended ended rest
    simp only [name, longer, ending, List.cons_append] at found ⊢
    by_cases colon : mark = ':'
    · subst colon
      simp only at found ⊢
      split at found
      · next letter => simp [letter]
      · simp at found
    · split at found <;> simp_all

/-- An authority that was found ends where a path begins. -/
theorem takeAuthority_append {text : List Char} (found : (takeAuthority text).1 ≠ [])
    (rest : List Char) :
    takeAuthority (text ++ '/' :: rest) =
      ((takeAuthority text).1, (takeAuthority text).2 ++ '/' :: rest) := by
  unfold takeAuthority at found ⊢
  split at found
  · next after =>
    simp only [List.cons_append]
    rw [takeWhile_append_cons (by decide), dropWhile_append_cons (by decide)]
  · simp at found

/-- Written components with more text behind the last one that is there. -/
def Written.extend (rest : List Char) (written : Written) : Written :=
  match written.fragment, written.query with
  | some fragment, _ => { written with fragment := some (fragment ++ rest) }
  | none, some query => { written with query := some (query ++ rest) }
  | none, none => { written with path := written.path ++ rest }

/-- Text of a class goes on with what stands in the class at the front, or stays behind it. -/
theorem span_append {inside : Char → Bool} (text : List Char) {rest : List Char}
    (within : ∀ character ∈ rest, inside character = true) :
    (text.dropWhile inside = [] ∧ text.takeWhile inside = text ∧
      (text ++ rest).takeWhile inside = text ++ rest ∧ (text ++ rest).dropWhile inside = []) ∨
    (text.dropWhile inside ≠ [] ∧ (text ++ rest).takeWhile inside = text.takeWhile inside ∧
      (text ++ rest).dropWhile inside = text.dropWhile inside ++ rest) := by
  by_cases ended : text.dropWhile inside = []
  · have allText := List.dropWhile_eq_nil_iff.1 ended
    have allBoth : ∀ character ∈ text ++ rest, inside character = true := by
      intro character isBoth
      rcases List.mem_append.1 isBoth with isText | isRest
      · exact allText character isText
      · exact within character isRest
    exact .inl ⟨ended, List.takeWhile_eq_self_iff.2 allText, List.takeWhile_eq_self_iff.2 allBoth,
      List.dropWhile_eq_nil_iff.2 allBoth⟩
  · exact .inr ⟨ended, span_append_of_ended ended rest⟩

/-- A character of a path. -/
def isPathCharacter (character : Char) : Bool := character ≠ '?' && character ≠ '#'

/-- A character of a query. -/
def isQueryCharacter (character : Char) : Bool := character ≠ '#'

/-- The fragment of what follows a query. -/
def splitFragment (text : List Char) : Option (List Char) :=
  (takeMarked '#' (fun _ => true) text).1

/-- The path, the query and the fragment of what follows an authority. -/
def splitTail (text : List Char) : List Char × Option (List Char) × Option (List Char) :=
  let (query, afterQuery) := takeMarked '?' isQueryCharacter (text.dropWhile isPathCharacter)
  (text.takeWhile isPathCharacter, query, splitFragment afterQuery)

/-- Splitting a text takes its scheme, its authority and its tail. -/
theorem split_eq (text : List Char) :
    split text =
      let (scheme, afterScheme) := takeScheme text
      let (authority, afterAuthority) := takeAuthority afterScheme
      let (path, query, fragment) := splitTail afterAuthority
      { scheme, authority, path, query, fragment } := rfl

/-- Behind the mark of a fragment everything belongs to the fragment. -/
theorem splitFragment_mark (inside : List Char) : splitFragment ('#' :: inside) = some inside := by
  have everything : inside.takeWhile (fun _ => true) = inside :=
    List.takeWhile_eq_self_iff.2 fun _ _ => rfl
  simp [splitFragment, takeMarked, everything]

/-- Text without marks is put behind the last component of a tail. -/
theorem splitTail_append (text : List Char) {rest : List Char}
    (plain : ∀ character ∈ rest, isPathCharacter character = true) :
    splitTail (text ++ rest) =
      match splitTail text with
      | (path, query, some fragment) => (path, query, some (fragment ++ rest))
      | (path, some query, none) => (path, some (query ++ rest), none)
      | (path, none, none) => (path ++ rest, none, none) := by
  have inQuery : ∀ character ∈ rest, isQueryCharacter character = true := by
    intro character isRest
    have both := plain character isRest
    simp only [isPathCharacter, isQueryCharacter, Bool.and_eq_true] at both ⊢
    exact both.2
  rcases span_append text plain with ⟨ended, whole, path, after⟩ | ⟨ended, path, after⟩
  · simp [splitTail, ended, whole, path, after, takeMarked, splitFragment]
  obtain ⟨mark, tail, marked⟩ := List.exists_cons_of_ne_nil ended
  have isMark : mark = '?' ∨ mark = '#' := by
    have outside := List.head?_dropWhile_not isPathCharacter text
    simpa [marked, isPathCharacter, Decidable.or_iff_not_imp_left] using outside
  rcases isMark with rfl | rfl
  · simp only [splitTail, path, after, marked, List.cons_append, takeMarked, if_true]
    rcases span_append tail inQuery with ⟨ended, whole, query, after⟩ | ⟨ended, query, after⟩
    · simp [ended, whole, query, after, takeMarked, splitFragment]
    obtain ⟨mark, fragment, marked⟩ := List.exists_cons_of_ne_nil ended
    have isMark : mark = '#' := by
      have outside := List.head?_dropWhile_not isQueryCharacter tail
      simpa [marked, isQueryCharacter] using outside
    subst isMark
    simp [query, after, marked, splitFragment_mark]
  · simp [splitTail, path, after, marked, takeMarked, splitFragment_mark]

/-- A path is put behind the last component that a text has. -/
theorem split_append {text rest : List Char} (scheme : (split text).scheme ≠ [])
    (authority : (split text).authority ≠ []) (rooted : rest.head? = some '/')
    (plain : ∀ character ∈ rest, isPathCharacter character = true) :
    split (text ++ rest) = (split text).extend rest := by
  obtain ⟨tail, rfl⟩ : ∃ tail, rest = '/' :: tail := by
    cases rest with
    | nil => simp at rooted
    | cons first tail => exact ⟨tail, by simpa using rooted⟩
  simp only [split_eq] at scheme authority ⊢
  rw [takeScheme_append scheme]
  simp only
  rw [takeAuthority_append authority]
  simp only [splitTail_append _ plain]
  rcases splitTail (takeAuthority (takeScheme text).2).2 with
    ⟨path, _ | query, _ | fragment⟩ <;> rfl

/-- The URL that components make when nothing is wrong with them. -/
def Written.assemble (written : Written) (host : List Char) (port : Option Int) : Url :=
  let scheme := written.scheme.map Char.toLower
  let userinfo := Text.Percent.encode isUserinfoSafe (splitAuthority written.authority).userinfo
  let hasAuthority := !userinfo.isEmpty || !host.isEmpty || port.isSome
  let path := if !scheme.isEmpty || hasAuthority then resolvePath written.path else written.path
  { scheme, userinfo, host, port
    path := Text.Percent.encode isPathSafe path
    query := written.query.map (Text.Percent.encode isQuerySafe)
    fragment := written.fragment.map (Text.Percent.encode isFragmentSafe) }

/-- Components make a URL exactly when host, port and path are as they should be. -/
theorem ofWritten_eq_ok_iff {written : Written} {url : Url} :
    ofWritten written = .ok url ↔
      ∃ host port, normalizeHost (splitAuthority written.authority).host = .ok host ∧
        normalizePort written.scheme (splitAuthority written.authority).port = .ok port ∧
        url = written.assemble host port ∧
        checkPath (!url.scheme.isEmpty) (!url.userinfo.isEmpty || !host.isEmpty || port.isSome)
          written.path = .ok () := by
  constructor
  · intro made
    simp only [ofWritten, bind, Except.bind] at made
    split at made
    · simp at made
    next host normalHost =>
    split at made
    · simp at made
    next port normalPort =>
    split at made
    · simp at made
    next checked =>
    simp only [pure, Except.pure, Except.ok.injEq] at made
    subst made
    refine ⟨host, port, ?_, normalPort, rfl, checked⟩
    cases normal : normalizeHost (splitAuthority written.authority).host with
    | error fault => simp [normal, Except.mapError] at normalHost
    | ok normalized => simpa [normal, Except.mapError] using normalHost
  · rintro ⟨host, port, normalHost, normalPort, rfl, checked⟩
    simp only [Written.assemble] at checked
    simp only [ofWritten, bind, Except.bind, normalHost, normalPort, Except.mapError, checked, pure,
      Except.pure]
    rfl

/-- A text is checked for its length and for control characters. -/
theorem checkText_eq_ok_iff {text : List Char} :
    checkText text = .ok () ↔
      text.length ≤ lengthLimit ∧ ∀ character ∈ text, isControl character = false := by
  unfold checkText
  split
  · next tooLong => simp; omega
  next short =>
  split
  · next character found =>
    have isControl := List.find?_some found
    have isText := List.mem_of_find?_eq_some found
    simp only [reduceCtorEq, false_iff, not_and]
    intro _ none
    simp [none character isText] at isControl
  · next none =>
    have noControl := List.find?_eq_none.1 none
    simp only [true_iff]
    exact ⟨Nat.not_lt.1 short, fun character isText => by simpa using noControl character isText⟩

/-- A text is a URL when it passes the check of texts and its components make one. -/
theorem read_eq_ok_iff {text : List Char} {url : Url} :
    read text = .ok url ↔ checkText text = .ok () ∧ ofWritten (split text) = .ok url := by
  simp only [read, bind, Except.bind]
  split
  · next fault failed => simp [failed]
  · next passed => simp [passed]

/-- Any rooted path makes a URL in the place of another one, as long as there is a scheme. -/
theorem ofWritten_withPath {written : Written} {url : Url} (made : ofWritten written = .ok url)
    (scheme : written.scheme ≠ []) {path : List Char} (rooted : path.head? = some '/') :
    ofWritten { written with path } =
      .ok { url with path := Text.Percent.encode isPathSafe (resolvePath path) } := by
  obtain ⟨host, port, normalHost, normalPort, rfl, -⟩ := ofWritten_eq_ok_iff.1 made
  have hasScheme : (written.scheme.map Char.toLower).isEmpty = false := by simpa using scheme
  refine ofWritten_eq_ok_iff.2 ⟨host, port, normalHost, normalPort, ?_, ?_⟩
  · simp [Written.assemble, hasScheme]
  · simp [Written.assemble, hasScheme, checkPath, rooted]

/-- The scheme of a URL is the written one in lower case. -/
theorem scheme_of_ofWritten {written : Written} {url : Url} (made : ofWritten written = .ok url) :
    url.scheme = written.scheme.map Char.toLower := by
  obtain ⟨host, port, -, -, rfl, -⟩ := ofWritten_eq_ok_iff.1 made
  rfl

/-- The path of a URL with a scheme is the written one, resolved and escaped. -/
theorem path_of_ofWritten {written : Written} {url : Url} (made : ofWritten written = .ok url)
    (scheme : url.scheme ≠ []) :
    url.path = Text.Percent.encode isPathSafe (resolvePath written.path) := by
  obtain ⟨host, port, -, -, rfl, -⟩ := ofWritten_eq_ok_iff.1 made
  have hasScheme : (written.scheme.map Char.toLower).isEmpty = false := by
    simpa [Written.assemble] using scheme
  simp [Written.assemble, hasScheme]

/-- Without an authority there is no host. -/
theorem authority_ne_nil_of_ofWritten {written : Written} {url : Url}
    (made : ofWritten written = .ok url) (host : url.host ≠ []) : written.authority ≠ [] := by
  obtain ⟨normal, port, normalHost, -, rfl, -⟩ := ofWritten_eq_ok_iff.1 made
  intro none
  rw [none] at normalHost
  have empty : normalizeHost (splitAuthority []).host = .ok [] := rfl
  rw [empty] at normalHost
  cases normalHost
  exact host rfl

/-- Behind the authority there is nothing. -/
def IsOrigin (text : List Char) : Prop :=
  (split text).path = [] ∧ (split text).query = none ∧ (split text).fragment = none

instance (text : List Char) : Decidable (IsOrigin text) := by
  unfold IsOrigin
  infer_instance

/-- A path behind an authority is rooted, if there is one. -/
theorem rooted_of_ofWritten {written : Written} {url : Url} (made : ofWritten written = .ok url)
    (host : url.host ≠ []) (hasPath : written.path ≠ []) : written.path.head? = some '/' := by
  obtain ⟨normal, port, -, -, rfl, checked⟩ := ofWritten_eq_ok_iff.1 made
  have hasHost : normal.isEmpty = false := by simpa [Written.assemble] using host
  by_contra notRooted
  simp [checkPath, hasHost, hasPath, notRooted] at checked

/-- Behind the path there is nothing. -/
def IsBare (text : List Char) : Prop := (split text).query = none ∧ (split text).fragment = none

/-- Reading a bare URL with a rooted path behind it fails for its length or not at all. -/
theorem read_append {base rest : List Char} {url : Url} (made : read base = .ok url)
    (scheme : url.scheme ≠ []) (host : url.host ≠ []) (bare : IsBare base)
    (rooted : rest.head? = some '/')
    (plain : ∀ character ∈ rest, isPathCharacter character = true ∧ isControl character = false) :
    read (base ++ rest) =
      if base.length + rest.length ≤ lengthLimit then
        .ok { url with
          path := Text.Percent.encode isPathSafe (resolvePath ((split base).path ++ rest)) }
      else .error .tooLong := by
  obtain ⟨passed, composed⟩ := read_eq_ok_iff.1 made
  have writtenScheme : (split base).scheme ≠ [] := by
    rw [scheme_of_ofWritten composed] at scheme
    simpa using scheme
  have authority := authority_ne_nil_of_ofWritten composed host
  have parted := split_append writtenScheme authority rooted fun character isRest =>
    (plain character isRest).1
  obtain ⟨noQuery, noFragment⟩ := bare
  simp only [Written.extend, noQuery, noFragment] at parted
  have rootedWhole : ((split base).path ++ rest).head? = some '/' := by
    by_cases noPath : (split base).path = []
    · rwa [noPath, List.nil_append]
    · simp [rooted_of_ofWritten composed host noPath]
  by_cases short : base.length + rest.length ≤ lengthLimit
  · rw [if_pos short]
    refine read_eq_ok_iff.2 ⟨checkText_eq_ok_iff.2 ⟨by simpa using short, ?_⟩, ?_⟩
    · intro character isText
      rcases List.mem_append.1 isText with isBase | isRest
      · exact (checkText_eq_ok_iff.1 passed).2 character isBase
      · exact (plain character isRest).2
    · rw [parted]
      have onPath := ofWritten_withPath composed writtenScheme rootedWhole
      simpa [noQuery, noFragment] using onPath
  · rw [if_neg short]
    simp only [read, checkText, List.length_append]
    rw [if_pos (by omega)]
    rfl

/-- Reading an origin with a rooted path behind it fails for its length or not at all. -/
theorem read_append_path {base rest : List Char} {url : Url} (made : read base = .ok url)
    (scheme : url.scheme ≠ []) (host : url.host ≠ []) (origin : IsOrigin base)
    (rooted : rest.head? = some '/')
    (plain : ∀ character ∈ rest, isPathCharacter character = true ∧ isControl character = false) :
    read (base ++ rest) =
      if base.length + rest.length ≤ lengthLimit then
        .ok { url with path := Text.Percent.encode isPathSafe (resolvePath rest) }
      else .error .tooLong := by
  have appended := read_append made scheme host origin.2 rooted plain
  rwa [origin.1, List.nil_append] at appended

/-- The text behind a scheme has characters of the whole text. -/
theorem mem_of_mem_takeScheme {text : List Char} {character : Char}
    (isRest : character ∈ (takeScheme text).2) : character ∈ text := by
  unfold takeScheme at isRest
  split at isRest
  · next rest ended =>
    dsimp only at isRest
    split at isRest
    · have isEnd : character ∈ text.dropWhile isSchemeCharacter :=
        ended ▸ List.mem_cons_of_mem _ isRest
      exact (List.dropWhile_suffix _).subset isEnd
    · exact isRest
  · exact isRest

/-- The text behind an authority has characters of the whole text. -/
theorem mem_of_mem_takeAuthority {text : List Char} {character : Char}
    (isRest : character ∈ (takeAuthority text).2) : character ∈ text := by
  unfold takeAuthority at isRest
  split at isRest
  · next rest =>
    have isAfter := (List.dropWhile_suffix _).subset isRest
    exact List.mem_cons_of_mem _ (List.mem_cons_of_mem _ isAfter)
  · exact isRest

/-- Without the marks of a query and of a fragment there is neither. -/
theorem isBare_of_not_mem {text : List Char} (noQuery : '?' ∉ text) (noFragment : '#' ∉ text) :
    IsBare text := by
  have inPath : ∀ character ∈ (takeAuthority (takeScheme text).2).2,
      isPathCharacter character = true := by
    intro character isTail
    have isText := mem_of_mem_takeScheme (mem_of_mem_takeAuthority isTail)
    simp only [isPathCharacter, Bool.and_eq_true, decide_eq_true_eq]
    exact ⟨fun same => noQuery (same ▸ isText), fun same => noFragment (same ▸ isText)⟩
  have ended := List.dropWhile_eq_nil_iff.2 inPath
  simp [IsBare, split_eq, splitTail, ended, takeMarked, splitFragment]

end Keyspace.Url
