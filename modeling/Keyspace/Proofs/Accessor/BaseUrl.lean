import Keyspace.Proofs.Accessor.BasePath
import Keyspace.Proofs.Accessor.Replay

/-!
# Behind which base URLs a key is found

A request is for the base URL with the path of the key behind it as text. That is a path below the
one of the base only when nothing stands behind the path of the base: behind a query or a fragment,
the key becomes part of it. An accessor is made for both, and `requests_behind_base` says for each
what the path of a request is.
-/

namespace Keyspace.Accessor

variable {accessor : Accessor} {key : String}

/-- A key of letters has no dot segments, and is its own path. -/
theorem keyPath_of_letters (letters : ∀ character ∈ key.toList, character.isAlpha = true) :
    (∀ segment ∈ keySegments key, Url.isDotSegment segment = false) ∧
      writtenPath key = keyspacePath ++ key.toList := by
  have notLetter : ∀ mark, mark.isAlpha = false → mark ∉ key.toList := by
    intro mark noLetter isMark
    simp [letters mark isMark] at noLetter
  have noSlash : '/' ∉ key.toList := notLetter '/' (by decide)
  have noFront : key.toList.dropWhile (· = '/') = key.toList := by
    refine List.dropWhile_eq_self_iff.2 fun nonempty isSlash => noSlash ?_
    rw [← of_decide_eq_true isSlash]
    exact List.getElem_mem nonempty
  have onlySegment : keySegments key = [key.toList] := by
    rw [keySegments, noFront, Text.fields_of_not_mem noSlash]
  have plain : spell key.toList = key.toList := by
    refine Text.Percent.encode_of_safe fun character isLetter => ?_
    simp [Text.Percent.isUnreserved, Char.isAlphanum, letters character isLetter]
  constructor
  · intro segment isSegment
    rw [onlySegment, List.mem_singleton] at isSegment
    subst isSegment
    have noDot : '.' ∉ key.toList := notLetter '.' (by decide)
    simp only [Url.isDotSegment, Bool.or_eq_false_iff, decide_eq_false_iff_not]
    constructor <;> intro isDots <;> simp [isDots, Url.currentSegment, Url.parentSegment] at noDot
  · have inside : keyPath key = Text.unfields '/' ((keySegments key).map spell) := rfl
    rw [writtenPath_eq, inside, onlySegment, List.map_singleton, plain]
    simp [Text.unfields, List.intercalate]

/-- Where the requests for a key of letters go, for every base URL that is accepted. When nothing
stands behind the path of the base, their path is that of the base with the keyspace and the key
behind it. Otherwise the key is no part of their path, which is that of the base, so that it ends in
the keyspace and the key only if the base itself does. -/
theorem requests_behind_base {serverUrl : Document} {setting : Option TimeoutSetting}
    {accessor : Accessor} (created : create serverUrl setting = .ok accessor) {key : String}
    (letters : ∀ character ∈ key.toList, character.isAlpha = true) {State : Type}
    (serve : Server State) (isOpen : Bool) (operation : Operation)
    (timeout : Option TimeoutSetting) (transcript : Transcript State) :
    ∃ (base : Url) (added : List Request), Url.read accessor.serverUrl.toList = .ok base ∧
      (accessor.perform serve isOpen ⟨operation, .text key, timeout⟩ transcript).2.requests =
        transcript.requests ++ added ∧
      added.length ≤ 1 ∧
      ∀ request ∈ added,
        request.url.path = (if Url.IsBare accessor.serverUrl.toList then
          base.path ++ (keyspacePath ++ key.toList) else base.path) ∧
        (keyspacePath ++ key.toList <:+ request.url.path ↔
          Url.IsBare accessor.serverUrl.toList ∨ keyspacePath ++ key.toList <:+ base.path) := by
  obtain ⟨base, isBase⟩ := exists_isBase_of_create created
  obtain ⟨names, written⟩ := keyPath_of_letters letters
  obtain ⟨atMostOne, each⟩ := accessor.requestsOf_spec isOpen ⟨operation, .text key, timeout⟩
  refine ⟨base, accessor.requestsOf isOpen ⟨operation, .text key, timeout⟩, isBase.read,
    requests_perform, atMostOne, fun request isRequest => ?_⟩
  obtain ⟨-, same, isKey, isUrl⟩ := each request isRequest
  obtain rfl : key = same := by simpa using isKey
  have path : request.url.path = accessor.pathBehind base key :=
    path_of_urlOf_behind isBase names isUrl
  rw [pathBehind, written] at path
  refine ⟨path, ?_⟩
  rw [path]
  split
  · next bare => simp only [List.suffix_append, bare, true_or]
  · next notBare => simp only [notBare, false_or]

/-- An accessor whose base URL has a path with dot segments. -/
def nested : Accessor := { serverUrl := "https://host/a/../etcd/.", timeout := .standard }

/-- The law behind a path with dot segments. -/
theorem requests_behind_base_nested :
    ∃ (base : Url) (added : List Request), Url.read nested.serverUrl.toList = .ok base ∧
      (nested.perform Script.serve true ⟨.readTree true, .text "app", none⟩
          ⟨[], [], []⟩).2.requests = [] ++ added ∧
      added.length ≤ 1 ∧
      ∀ request ∈ added,
        request.url.path = (if Url.IsBare nested.serverUrl.toList then
          base.path ++ (keyspacePath ++ "app".toList) else base.path) ∧
        (keyspacePath ++ "app".toList <:+ request.url.path ↔
          Url.IsBare nested.serverUrl.toList ∨ keyspacePath ++ "app".toList <:+ base.path) := by
  have created : create (.text "https://host/a/../etcd/./") none = .ok nested := by decide +kernel
  have letters : ∀ character ∈ "app".toList, character.isAlpha = true :=
    List.all_eq_true.1 (by decide +kernel)
  exact requests_behind_base created letters Script.serve true (.readTree true) none ⟨[], [], []⟩

/-- An accessor whose base URL has a query. -/
def queried : Accessor := { serverUrl := "http://127.0.0.1:4001?x=1", timeout := .standard }

/-- A base URL with a query is accepted, and a key is read as a part of the query. -/
theorem exists_request_beside_base :
    create (.text "http://127.0.0.1:4001?x=1") none = .ok queried ∧
      ∃ request ∈ (queried.perform Script.serve true ⟨.read, .text "k", none⟩
          ⟨[.ok { status := 200, body := [] }], [], []⟩).2.requests,
        request.target = "/?x=1/v2/keys/k" ∧
          ¬ keyspacePath ++ "k".toList <:+ request.url.path := by
  decide +kernel

end Keyspace.Accessor
