import Keyspace.Proofs.Number.Integer
import Keyspace.Proofs.Url.Resolved

/-!
# Reading a URL a second time

A URL that gets another query is read a second time, from its components as they are written then.
`exists_ofWritten_writtenWith` says what comes of this for a URL with a scheme and a host: nothing is
wrong with it the second time either. A name that is escaped does not look like an IPv4 address
afterwards, unless it is one.
-/

namespace Keyspace

namespace Text

/-- Without a character there is no last one. -/
theorem splitLast?_of_not_mem {character : Char} {text : List Char} (absent : character ∉ text) :
    splitLast? character text = none := by
  have none : text.reverse.dropWhile (· ≠ character) = [] := by
    rw [List.dropWhile_eq_nil_iff]
    intro other isOther
    have apart : other ≠ character := fun same => absent (same ▸ List.mem_reverse.1 isOther)
    simpa using apart
  rw [splitLast?, none]

/-- The last occurrence of a character parts a text, if there is one. -/
theorem splitLast?_cases (character : Char) (text : List Char) :
    (character ∉ text ∧ splitLast? character text = none) ∨
      ∃ before after, text = before ++ character :: after ∧ character ∉ after ∧
        splitLast? character text = some (before, after) := by
  by_cases isText : character ∈ text
  · obtain ⟨first, last, reversed, absent⟩ := List.eq_append_cons_of_mem (List.mem_reverse.2 isText)
    have whole : text = last.reverse ++ character :: first.reverse := by
      simpa using congrArg List.reverse reversed
    have absent : character ∉ first.reverse := by simpa using absent
    exact .inr ⟨_, _, whole, absent, whole ▸ splitLast?_append _ absent⟩
  · exact .inl ⟨isText, splitLast?_of_not_mem isText⟩

/-- Before a character stands what precedes its first occurrence. -/
theorem takeWhile_append_of_not_mem {character : Char} {before : List Char}
    (absent : character ∉ before) (after : List Char) (rest : after.head?.all (· = character)) :
    (before ++ after).takeWhile (· ≠ character) = before ∧
      (before ++ after).dropWhile (· ≠ character) = after := by
  have other : ∀ present ∈ before, decide (present ≠ character) = true := by
    intro present isBefore
    have apart : present ≠ character := fun same => absent (same ▸ isBefore)
    simpa using apart
  rw [List.takeWhile_append_of_pos other, List.dropWhile_append_of_pos other]
  cases after with
  | nil => simp
  | cons first later =>
    obtain rfl : first = character := by simpa using rest
    simp

end Text

namespace Url

open Text.Percent (encode)

/-- How a host stands in a URL: as a name, each character of which may be shown and which looks like
an IPv4 address only if it is one, or as an IPv6 address, which is told apart by the brackets around
it. -/
inductive IsShown : List Char → Prop where
  | name {host : List Char} (safe : ∀ character ∈ host, isNameSafe character = true)
      (faithful : resemblesIPv4 host = true → isIPv4 host = true) : IsShown host
  | address {host : List Char} (isAddress : isIPv6 host = true) (noSign : '@' ∉ host) : IsShown host

/-- What looks like an IPv4 address consists of digits and points. -/
theorem forall_mem_of_resemblesIPv4 {host : List Char} (resembles : resemblesIPv4 host = true) :
    ∀ character ∈ host, character.isDigit = true ∨ character = '.' := by
  intro character isHost
  simp only [resemblesIPv4, Bool.and_eq_true, List.all_eq_true] at resembles
  rw [← Text.unfields_fields '.' host] at isHost
  rcases Text.mem_unfields isHost with isPoint | ⟨run, isField, isRun⟩
  · exact .inr isPoint
  · exact .inl ((resembles.2 run isField).2 character isRun)

/-- What is a digit or a point in lower case is so as it is. -/
theorem toLower_eq_self {character : Char}
    (isWritten : character.toLower.isDigit = true ∨ character.toLower = '.') :
    character.toLower = character := by
  by_cases isUpper : character.isUpper = true
  · have noLetter : ∀ character : Char, character.toNat < 128 → character.isUpper = true →
        ¬ (character.toLower.isDigit = true ∨ character.toLower = '.') :=
      Text.Percent.forall_ascii (by decide +kernel)
    refine absurd isWritten (noLetter character ?_ isUpper)
    exact Nat.lt_of_le_of_lt (of_decide_eq_true isUpper).2 (by decide)
  · exact dif_neg fun inRange => isUpper (decide_eq_true inRange)

/-- A name looks like an IPv4 address once it is escaped only if it looks like one before. -/
theorem resemblesIPv4_of_encode {host : List Char}
    (resembles : resemblesIPv4 (encode isNameSafe (host.map Char.toLower)) = true) :
    resemblesIPv4 host = true := by
  have areWritten := forall_mem_of_resemblesIPv4 resembles
  have lowered : ∀ character ∈ host.map Char.toLower,
      isNameSafe character = true ∧ (character.isDigit = true ∨ character = '.') := by
    intro character isHost
    have within : ∀ written ∈ (if isNameSafe character then [character] else
        Text.Percent.escape character), written.isDigit = true ∨ written = '.' :=
      fun written isWritten => areWritten written (List.mem_flatMap.2 ⟨character, isHost, isWritten⟩)
    split at within
    · next safe => exact ⟨safe, within character (by simp)⟩
    · have sign := within '%' (Text.Percent.sign_mem_escape character)
      simp at sign
  have plain : host.map Char.toLower = host.map id := List.map_congr_left fun character isHost =>
    toLower_eq_self (lowered _ (List.mem_map_of_mem isHost)).2
  rw [List.map_id] at plain
  rw [Text.Percent.encode_of_safe fun character isHost => (lowered character isHost).1, plain]
    at resembles
  exact resembles

/-- Digits and points may be shown in a name. -/
theorem isNameSafe_of_isDigit {character : Char}
    (isWritten : character.isDigit = true ∨ character = '.') : isNameSafe character = true := by
  rcases isWritten with isDigit | rfl
  · have ascii : ∀ character : Char, character.toNat < 128 → character.isDigit = true →
        isNameSafe character = true := Text.Percent.forall_ascii (by decide +kernel)
    refine ascii character ?_ isDigit
    simp only [Char.isDigit, Bool.and_eq_true, decide_eq_true_eq] at isDigit
    exact Nat.lt_of_le_of_lt isDigit.2 (by decide)
  · decide

/-- A host in brackets is an opening one, what stands in them, and a closing one. -/
theorem bracketed?_eq_some_iff {text address : List Char} :
    bracketed? text = some address ↔ text = '[' :: address ++ [']'] := by
  constructor
  · intro isBracketed
    unfold bracketed? at isBracketed
    split at isBracketed
    · next rest =>
      simp only [Option.ite_none_right_eq_some, Option.some.injEq] at isBracketed
      obtain ⟨isLast, rfl⟩ := isBracketed
      obtain ⟨address, rfl⟩ := List.getLast?_eq_some_iff.1 isLast
      simp
    · cases isBracketed
  · rintro rfl
    simp [bracketed?]

/-- An IPv6 address has a colon, by which it is told apart from a name. -/
theorem mem_of_isIPv6 {host : List Char} (isAddress : isIPv6 host = true) : ':' ∈ host := by
  simp only [isIPv6, Bool.and_eq_true] at isAddress
  obtain ⟨-, isAddress⟩ := isAddress
  split at isAddress
  · next address isUnzoned =>
    have within : ∀ character ∈ address, character ∈ host := by
      unfold withoutZone? at isUnzoned
      split at isUnzoned
      · cases isUnzoned
        exact fun _ isHost => isHost
      · simp only [Option.ite_none_left_eq_some, Option.some.injEq] at isUnzoned
        rw [← isUnzoned.2]
        exact fun _ isBefore => (List.takeWhile_prefix _).subset isBefore
    by_contra noColon
    have noColon : ':' ∉ address := fun isColon => noColon (within ':' isColon)
    simp [groups?, Text.fields_of_not_mem noColon] at isAddress
  · cases isAddress

/-- A host that has been normalized stands in a URL in one of the two ways. -/
theorem isShown_of_normalizeHost {written host : List Char}
    (normal : normalizeHost written = .ok host) (noSign : '@' ∉ written) : IsShown host := by
  unfold normalizeHost at normal
  split at normal
  · cases normal
    exact .name (by simp) (by decide)
  split at normal
  · next resembles =>
    split at normal
    · next isAddress =>
      cases normal
      have areWritten := forall_mem_of_resemblesIPv4 resembles
      exact .name (fun character isHost => isNameSafe_of_isDigit (areWritten character isHost))
        fun _ => isAddress
    · cases normal
  next noResemblance =>
  split at normal
  · next address isBracketed =>
    split at normal
    · next isAddress =>
      cases normal
      rw [bracketed?_eq_some_iff.1 isBracketed] at noSign
      exact .address isAddress fun isSign => noSign (by simp [isSign])
    · cases normal
  · split at normal
    · cases normal
      exact .name
        (Text.Percent.forall_mem_encode _ (fun _ isSafe => isSafe) (by decide) (by decide))
        fun resembles => absurd (resemblesIPv4_of_encode resembles) noResemblance
    · cases normal

/-- The port as it is written behind the host. -/
def portText (url : Url) : List Char :=
  (url.port.map fun port => (Number.integerText port).toList).getD []

/-- What is written behind the host. -/
def portSuffix (url : Url) : List Char :=
  marked ':' (url.port.map fun port => (Number.integerText port).toList)

theorem portSuffix_cases (url : Url) :
    (url.portSuffix = [] ∧ url.portText = []) ∨ url.portSuffix = ':' :: url.portText := by
  cases isPort : url.port with
  | none => exact .inl ⟨by simp [portSuffix, isPort, marked], by simp [portText, isPort]⟩
  | some port => exact .inr (by simp [portSuffix, portText, isPort, marked])

/-- Behind the host stand only a colon, digits and a minus sign. -/
theorem not_mem_portSuffix (url : Url) {character : Char} (notColon : character ≠ ':')
    (isOther : Number.isIntegerCharacter character = false) : character ∉ url.portSuffix := by
  intro isWritten
  cases isPort : url.port with
  | none => simp [portSuffix, isPort, marked] at isWritten
  | some port =>
    simp only [portSuffix, isPort, Option.map_some, marked] at isWritten
    have isText := List.mem_of_ne_of_mem notColon isWritten
    rw [Number.isIntegerCharacter_of_mem_integerText port character isText] at isOther
    cases isOther

/-- A shown host as it is written: a name as it is, and an IPv6 address in brackets. -/
theorem hostText_cases {url : Url} (shown : IsShown url.host) :
    (url.hostText = url.host ∧ (∀ character ∈ url.host, isNameSafe character = true) ∧
        (resemblesIPv4 url.host = true → isIPv4 url.host = true)) ∨
      (url.hostText = '[' :: url.host ++ [']'] ∧ isIPv6 url.host = true ∧ '@' ∉ url.host) := by
  cases shown with
  | name safe faithful =>
    have noColon : ¬ ':' ∈ url.host := fun isColon => absurd (safe ':' isColon) (by decide)
    exact .inl ⟨by simp [hostText, noColon], safe, faithful⟩
  | address isAddress noSign =>
    exact .inr ⟨by simp [hostText, mem_of_isIPv6 isAddress], isAddress, noSign⟩

/-- A host that does not begin with a bracket ends at a colon. -/
theorem splitHost_of_name {host : List Char} (noColon : ':' ∉ host) (noBracket : '[' ∉ host)
    (url : Url) : splitHost (host ++ url.portSuffix) = (host, url.portText) := by
  have isMark : url.portSuffix.head?.all (· = ':') := by
    rcases url.portSuffix_cases with ⟨isNone, -⟩ | isSome
    · simp [isNone]
    · simp [isSome]
  obtain ⟨before, behind⟩ := Text.takeWhile_append_of_not_mem noColon url.portSuffix isMark
  have plain : ∀ rest, host ++ url.portSuffix ≠ '[' :: rest := by
    intro rest same
    have isBracket : '[' ∈ host ++ url.portSuffix := by simp [same]
    rcases List.mem_append.1 isBracket with inHost | inSuffix
    · exact noBracket inHost
    · exact url.not_mem_portSuffix (by decide) (by decide) inSuffix
  simp only [splitHost, before, behind]
  rcases url.portSuffix_cases with ⟨isNone, noText⟩ | isSome
  · simp [isNone, noText]
  · simp [isSome]

/-- A host in brackets ends at the last closing one. -/
theorem splitHost_of_brackets (host : List Char) (url : Url) :
    splitHost ('[' :: host ++ [']'] ++ url.portSuffix) = ('[' :: host ++ [']'], url.portText) := by
  have noBracket : ']' ∉ url.portSuffix := url.not_mem_portSuffix (by decide) (by decide)
  have parted := Text.splitLast?_append ('[' :: host) noBracket
  have whole : '[' :: host ++ [']'] ++ url.portSuffix = '[' :: (host ++ ']' :: url.portSuffix) := by
    simp
  rw [whole]
  simp only [splitHost, ← List.cons_append, parted]
  rcases url.portSuffix_cases with ⟨isNone, noText⟩ | isSome
  · simp [isNone, noText]
  · simp [isSome]

/-- An authority is split into what it was put together from. -/
theorem splitAuthority_authority {url : Url} (shown : IsShown url.host) :
    splitAuthority url.authority = ⟨url.userinfo, url.hostText, url.portText⟩ := by
  have parted : splitHost (url.hostText ++ url.portSuffix) = (url.hostText, url.portText) := by
    rcases hostText_cases shown with ⟨isText, safe, -⟩ | ⟨isText, -, -⟩
    · rw [isText]
      exact splitHost_of_name (fun isColon => absurd (safe _ isColon) (by decide))
        (fun isBracket => absurd (safe _ isBracket) (by decide)) url
    · rw [isText]
      exact splitHost_of_brackets url.host url
  have noSign : '@' ∉ url.hostText ++ url.portSuffix := by
    rw [List.mem_append, not_or]
    refine ⟨?_, url.not_mem_portSuffix (by decide) (by decide)⟩
    rcases hostText_cases shown with ⟨isText, safe, -⟩ | ⟨isText, -, noSign⟩
    · rw [isText]
      exact fun isSign => absurd (safe _ isSign) (by decide)
    · simp [isText, noSign]
  have whole : url.authority = (if url.userinfo.isEmpty then [] else url.userinfo ++ ['@']) ++
      (url.hostText ++ url.portSuffix) := List.append_assoc _ _ _
  rw [whole]
  cases isUserinfo : url.userinfo with
  | nil => simp [splitAuthority, Text.splitLast?_of_not_mem noSign, parted]
  | cons first later =>
    have split : Text.splitLast? '@' ((first :: later) ++ '@' :: (url.hostText ++ url.portSuffix)) =
        some (first :: later, url.hostText ++ url.portSuffix) := Text.splitLast?_append _ noSign
    simp only [List.cons_append] at split
    simp [splitAuthority, split, parted]

/-- What begins with a bracket does not look like an IPv4 address. -/
theorem resemblesIPv4_bracket (rest : List Char) : resemblesIPv4 ('[' :: rest) = false := by
  rw [Bool.eq_false_iff]
  intro resembles
  have isWritten := forall_mem_of_resemblesIPv4 resembles '[' (by simp)
  simp at isWritten

theorem toNat_lt_of_isNameSafe {character : Char} (safe : isNameSafe character = true) :
    character.toNat < 0x80 := by
  simp only [isNameSafe, Text.Percent.isVisibleExcept, Bool.and_eq_true, decide_eq_true_eq] at safe
  omega

/-- A host that has been read once is not refused the second time. -/
theorem exists_normalizeHost_hostText {url : Url} (shown : IsShown url.host)
    (notEmpty : url.host ≠ []) : ∃ host, normalizeHost url.hostText = .ok host := by
  rcases hostText_cases shown with ⟨isText, safe, faithful⟩ | ⟨isText, isAddress, -⟩
  · rw [isText]
    have nonempty : url.host.isEmpty = false := by simpa using notEmpty
    have unbracketed : bracketed? url.host = none := by
      rw [Option.eq_none_iff_forall_ne_some]
      intro address isBracketed
      have isBracket : '[' ∈ url.host := by simp [bracketed?_eq_some_iff.1 isBracketed]
      exact absurd (safe _ isBracket) (by decide)
    have ascii : (url.host.all fun character => character.toNat < 0x80) = true := by
      simpa using fun character isHost => toNat_lt_of_isNameSafe (safe character isHost)
    cases resembles : resemblesIPv4 url.host with
    | true => exact ⟨_, by simp [normalizeHost, nonempty, resembles, faithful resembles]; rfl⟩
    | false => exact ⟨_, by simp [normalizeHost, nonempty, resembles, unbracketed, ascii]; rfl⟩
  · have isBracketed : bracketed? ('[' :: url.host ++ [']']) = some url.host :=
      bracketed?_eq_some_iff.2 rfl
    have noResemblance := resemblesIPv4_bracket (url.host ++ [']'])
    rw [isText]
    simp only [List.cons_append] at isBracketed ⊢
    exact ⟨url.host, by simp [normalizeHost, noResemblance, isBracketed, isAddress]⟩

/-- A URL with a scheme and a host is normal when its components are as reading leaves them. -/
structure IsNormal (url : Url) : Prop where
  scheme : url.scheme ≠ []
  host : url.host ≠ []
  shown : IsShown url.host
  port : ∀ port ∈ url.port, Number.isOversized port = false
  path : IsRooted url.path

/-- A port that has been read is not oversized. -/
theorem isOversized_of_normalizePort {scheme written : List Char} {port : Int}
    (normal : normalizePort scheme written = .ok (some port)) :
    Number.isOversized port = false := by
  unfold normalizePort at normal
  split at normal
  · cases normal
  split at normal
  · cases normal
  · next number isRead =>
    split at normal <;> cases normal
    exact Number.isOversized_of_readInteger? isRead

/-- A port reads back from its text, whatever the scheme. -/
theorem exists_normalizePort_portText {url : Url}
    (small : ∀ port ∈ url.port, Number.isOversized port = false) (scheme : List Char) :
    ∃ port, normalizePort scheme url.portText = .ok port := by
  cases isPort : url.port with
  | none => exact ⟨none, by simp [portText, isPort, normalizePort]⟩
  | some port =>
    have isRead := Number.readInteger?_integerText (small port isPort)
    unfold normalizePort
    split
    · exact ⟨none, rfl⟩
    · simp only [portText, isPort, Option.map_some, Option.getD_some, String.ofList_toList, isRead]
      exact ⟨_, rfl⟩

/-- The path of a URL with a host is written rooted, if there is one. -/
theorem isRooted_of_ofWritten {written : Written} {url : Url} (made : ofWritten written = .ok url)
    (host : url.host ≠ []) : IsRooted written.path := by
  by_cases noPath : written.path = []
  · exact .inl noPath
  · exact .inr (rooted_of_ofWritten made host noPath)

/-- Resolving and escaping keep a path rooted. -/
theorem isRooted_encode_resolvePath {path : List Char} (rooted : IsRooted path) :
    IsRooted (encode isPathSafe (resolvePath path)) := by
  have isRooted : IsRooted (resolvePath path) := by
    rcases rooted with rfl | rooted
    · exact .inl rfl
    · obtain ⟨tail, rfl⟩ : ∃ tail, path = '/' :: tail := List.head?_eq_some_iff.1 rooted
      have whole := Text.unfields_fields '/' (resolvePath ('/' :: tail))
      rw [fields_resolvePath] at whole
      cases isWalk : walk [] (Text.fields '/' tail) with
      | nil => exact .inl (by rw [← whole, isWalk]; rfl)
      | cons name others =>
        rw [isWalk, Text.unfields_cons_cons] at whole
        exact .inr (by rw [← whole]; rfl)
  rcases isRooted with isEmpty | isRooted
  · exact .inl (by rw [isEmpty]; rfl)
  · obtain ⟨tail, isPath⟩ := List.head?_eq_some_iff.1 isRooted
    have slash : encode isPathSafe ('/' :: tail) = '/' :: encode isPathSafe tail := rfl
    exact .inr (by rw [isPath, slash]; rfl)

/-- A host consists of characters of the authority, and perhaps a closing bracket. -/
theorem mem_of_mem_splitHost {text : List Char} {character : Char}
    (isHost : character ∈ (splitHost text).1) : character ∈ text ∨ character = ']' := by
  have beforeColon : character ∈ text.takeWhile (· ≠ ':') → character ∈ text := fun isBefore =>
    (List.takeWhile_prefix _).subset isBefore
  by_cases isBracketed : ∃ rest, text = '[' :: rest
  · obtain ⟨rest, rfl⟩ := isBracketed
    rcases Text.splitLast?_cases ']' ('[' :: rest) with
      ⟨-, parted⟩ | ⟨inside, after, whole, -, parted⟩ <;>
    simp only [splitHost, parted] at isHost
    · split at isHost <;> exact .inl (beforeColon isHost)
    · have isInside : character ∈ inside ++ [']'] := by
        split at isHost <;> exact isHost
      rw [whole]
      rcases List.mem_append.1 isInside with isInside | isLast
      · exact .inl (by simp [isInside])
      · exact .inr (List.mem_singleton.1 isLast)
  · have plain : ∀ rest, text ≠ '[' :: rest := not_exists.1 isBracketed
    simp only [splitHost] at isHost
    split at isHost <;> exact .inl (beforeColon isHost)

/-- A host has no sign that ends user information. -/
theorem not_mem_host_splitAuthority (authority : List Char) :
    '@' ∉ (splitAuthority authority).host := by
  intro isSign
  rcases mem_of_mem_splitHost isSign with isRest | isBracket
  · rcases Text.splitLast?_cases '@' authority with
      ⟨absent, parted⟩ | ⟨_, after, _, absent, parted⟩ <;>
    simp only [parted] at isRest <;>
    exact absent isRest
  · simp at isBracket

/-- A URL with a scheme and a host that has been read is normal. -/
theorem isNormal_of_ofWritten {written : Written} {url : Url} (made : ofWritten written = .ok url)
    (scheme : url.scheme ≠ []) (host : url.host ≠ []) : IsNormal url := by
  have rooted := isRooted_of_ofWritten made host
  have isPath := path_of_ofWritten made scheme
  obtain ⟨normal, port, normalHost, normalPort, rfl, -⟩ := ofWritten_eq_ok_iff.1 made
  refine ⟨scheme, host, isShown_of_normalizeHost normalHost (not_mem_host_splitAuthority _), ?_, ?_⟩
  · rintro number isPort
    obtain rfl : port = some number := isPort
    exact isOversized_of_normalizePort normalPort
  · rw [isPath]
    exact isRooted_encode_resolvePath rooted

/-- Components with a scheme and a rooted path make a URL if their host and their port do. -/
theorem ofWritten_eq_assemble {written : Written} {host : List Char} {port : Option Int}
    (scheme : written.scheme ≠ []) (rooted : IsRooted written.path)
    (normalHost : normalizeHost (splitAuthority written.authority).host = .ok host)
    (normalPort : normalizePort written.scheme (splitAuthority written.authority).port = .ok port) :
    ofWritten written = .ok (written.assemble host port) := by
  have hasScheme : (!(written.assemble host port).scheme.isEmpty) = true := by
    simpa [Written.assemble] using scheme
  refine ofWritten_eq_ok_iff.2 ⟨host, port, normalHost, normalPort, rfl, ?_⟩
  rw [hasScheme]
  rcases rooted with isEmpty | isRooted
  · simp [checkPath, isEmpty]
  · simp [checkPath, isRooted]

/-- A normal URL can be read again with another query, and shows its scheme and its host as they are
read again. -/
theorem exists_ofWritten_writtenWith {url : Url} (normal : IsNormal url) (query : List Char) :
    ∃ again, ofWritten (writtenWith query url) = .ok again ∧
      again.scheme = url.scheme.map Char.toLower ∧ normalizeHost url.hostText = .ok again.host := by
  have parted := splitAuthority_authority normal.shown
  obtain ⟨host, normalHost⟩ := exists_normalizeHost_hostText normal.shown normal.host
  obtain ⟨port, normalPort⟩ := exists_normalizePort_portText normal.port url.scheme
  refine ⟨(writtenWith query url).assemble host port, ofWritten_eq_assemble normal.scheme
    normal.path ?_ ?_, rfl, normalHost⟩
  · rw [writtenWith, parted]
    exact normalHost
  · rw [writtenWith, parted]
    exact normalPort

/-- A URL with a scheme is made as well from components with another path, another query and another
fragment, and it has the same scheme and the same host. -/
theorem exists_ofWritten_of_sameAuthority {written other : Written} {url : Url}
    (made : ofWritten written = .ok url) (scheme : url.scheme ≠ [])
    (sameScheme : other.scheme = written.scheme)
    (sameAuthority : other.authority = written.authority) (rooted : IsRooted other.path) :
    ∃ changed, ofWritten other = .ok changed ∧ changed.scheme = url.scheme ∧
      changed.host = url.host := by
  obtain ⟨host, port, normalHost, normalPort, rfl, -⟩ := ofWritten_eq_ok_iff.1 made
  have hasScheme : other.scheme ≠ [] := by simpa [Written.assemble, sameScheme] using scheme
  refine ⟨other.assemble host port, ofWritten_eq_assemble hasScheme rooted
    (sameAuthority ▸ normalHost) ?_, ?_, rfl⟩
  · rw [sameScheme, sameAuthority]
    exact normalPort
  · simp [Written.assemble, sameScheme]

/-- A rooted path behind a text leaves the path of the text rooted, wherever it belongs to. -/
theorem isRooted_extend {written : Written} {rest : List Char} (rooted : IsRooted written.path)
    (below : rest.head? = some '/') : IsRooted (written.extend rest).path := by
  unfold Written.extend
  split
  · exact rooted
  · exact rooted
  · rcases rooted with isEmpty | isRooted
    · exact .inr (by simp [isEmpty, below])
    · exact .inr (by simp [List.head?_append, isRooted])

/-- More text behind a URL changes neither its scheme nor its authority as they are written. -/
theorem authority_extend (written : Written) (rest : List Char) :
    (written.extend rest).scheme = written.scheme ∧
      (written.extend rest).authority = written.authority := by
  unfold Written.extend
  split <;> exact ⟨rfl, rfl⟩

/-- A URL with a rooted path behind it is read as one with the same scheme and the same host, unless
it is too long. -/
theorem exists_read_append {base rest : List Char} {url : Url} (made : read base = .ok url)
    (scheme : url.scheme ≠ []) (host : url.host ≠ []) (below : rest.head? = some '/')
    (plain : ∀ character ∈ rest, isPathCharacter character = true ∧ isControl character = false)
    (short : (base ++ rest).length ≤ lengthLimit) :
    ∃ longer, read (base ++ rest) = .ok longer ∧ longer.scheme = url.scheme ∧
      longer.host = url.host := by
  obtain ⟨passed, composed⟩ := read_eq_ok_iff.1 made
  have writtenScheme : (split base).scheme ≠ [] := by
    rw [scheme_of_ofWritten composed] at scheme
    simpa using scheme
  have parted := split_append writtenScheme (authority_ne_nil_of_ofWritten composed host) below
    fun character isRest => (plain character isRest).1
  have rooted := isRooted_of_ofWritten composed host
  obtain ⟨sameScheme, sameAuthority⟩ := authority_extend (split base) rest
  obtain ⟨longer, isLonger, likewise⟩ := exists_ofWritten_of_sameAuthority composed scheme
    sameScheme sameAuthority (isRooted_extend rooted below)
  refine ⟨longer, read_eq_ok_iff.2 ⟨checkText_eq_ok_iff.2 ⟨short, ?_⟩, parted ▸ isLonger⟩, likewise⟩
  intro character isText
  rcases List.mem_append.1 isText with isBase | isRest
  · exact (checkText_eq_ok_iff.1 passed).2 character isBase
  · exact (plain character isRest).2

/-- The components of a URL that are kept with another query are within the limit. -/
structure IsShort (url : Url) : Prop where
  scheme : url.scheme.length ≤ lengthLimit
  authority : url.authority.length ≤ lengthLimit
  path : url.path.length ≤ lengthLimit
  fragment : (url.fragment.getD []).length ≤ lengthLimit

/-- The components of a URL that is within the limit as a whole are within it. -/
theorem isShort_of_length {url : Url} (short : url.characters.length ≤ lengthLimit) :
    IsShort url := by
  have scheme : url.scheme.length ≤
      (if url.scheme.isEmpty then [] else url.scheme ++ [':']).length := by
    split <;> simp_all
  have authority : url.authority.length ≤
      (if url.authority.isEmpty then [] else '/' :: '/' :: url.authority).length := by
    split
    · simp_all
    · simp only [List.length_cons]
      omega
  have fragment : (url.fragment.getD []).length ≤ (marked '#' url.fragment).length := by
    cases url.fragment <;> simp [marked]
  simp only [characters, List.length_append] at short
  constructor <;> omega

/-- A short URL is read again when it gets another query. -/
theorem withQuery_of_isShort {url : Url} (short : IsShort url) {query : List Char}
    (few : query.length ≤ lengthLimit) :
    url.withQuery query = ofWritten (writtenWith query url) := by
  have within : ∀ part ∈ (writtenWith query url).components, part.2.length ≤ lengthLimit := by
    simp [Written.components, writtenWith, short.scheme, short.authority, short.path,
      short.fragment, few]
  simp only [withQuery]
  split
  · next found =>
    have long := List.find?_some found
    exact absurd (within _ (List.mem_of_find?_eq_some found)) (by simpa using long)
  · rfl

end Url

end Keyspace
