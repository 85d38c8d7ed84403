import Keyspace.Url.Path

/-!
# Resolved paths as walks

Resolving the dot segments of a rooted path is a walk from the root: a name leads one level down,
two dots lead one level up, and above the root there is nothing. `resolvePath_rooted` states the
two as equal, so that what a path can reach is a question about walks alone.
-/

namespace Keyspace.Url

/-- One step of a walk, from a place that is given by the names that lead to it. -/
def walkSegment (place : List (List Char)) (segment : List Char) : List (List Char) :=
  if segment = currentSegment then place
  else if segment = parentSegment then place.dropLast
  else place ++ [segment]

/-- The place that segments lead to. -/
def walk (place segments : List (List Char)) : List (List Char) :=
  segments.foldl walkSegment place

/-- A segment is a dot segment when it is one dot or two. -/
def isDotSegment (segment : List Char) : Bool :=
  segment = currentSegment || segment = parentSegment

/-- Keeping segments behind the empty one in front of a path is walking. -/
theorem resolveSegment_rooted (place : List (List Char)) (segment : List Char) :
    resolveSegment (place.reverse ++ [[]]) segment =
      (walkSegment place segment).reverse ++ [[]] := by
  unfold resolveSegment walkSegment
  split
  · rfl
  split
  · rcases List.eq_nil_or_concat place with rfl | ⟨above, name, rfl⟩
    · simp
    · simp
  · simp

/-- Keeping all segments behind the empty one in front of a path is walking over them. -/
theorem foldl_resolveSegment_rooted (place segments : List (List Char)) :
    segments.foldl resolveSegment (place.reverse ++ [[]]) =
      (walk place segments).reverse ++ [[]] := by
  unfold walk
  induction segments generalizing place with
  | nil => rfl
  | cons segment later inductionHypothesis =>
    simp only [List.foldl_cons, resolveSegment_rooted]
    exact inductionHypothesis (walkSegment place segment)

/-- Names lead straight down. -/
theorem walk_of_names {segments : List (List Char)}
    (names : ∀ segment ∈ segments, isDotSegment segment = false) (place : List (List Char)) :
    walk place segments = place ++ segments := by
  unfold walk
  induction segments generalizing place with
  | nil => simp
  | cons segment later inductionHypothesis =>
    have isName := names segment (by simp)
    simp only [isDotSegment, Bool.or_eq_false_iff, decide_eq_false_iff_not] at isName
    have step : walkSegment place segment = place ++ [segment] := by
      rw [walkSegment, if_neg isName.1, if_neg isName.2]
    have below := inductionHypothesis fun other isOther => names other (by simp [isOther])
    rw [List.foldl_cons, step, below]
    simp

/-- A place is made of names from where the walk began and of names on the way. -/
theorem forall_mem_walk {property : List Char → Prop} {place segments : List (List Char)}
    (start : ∀ name ∈ place, property name)
    (way : ∀ segment ∈ segments, isDotSegment segment = false → property segment) :
    ∀ name ∈ walk place segments, property name := by
  unfold walk
  induction segments generalizing place with
  | nil => exact start
  | cons segment later inductionHypothesis =>
    rw [List.foldl_cons]
    refine inductionHypothesis ?_ fun other isOther => way other (by simp [isOther])
    intro name isName
    unfold walkSegment at isName
    split at isName
    · exact start name isName
    split at isName
    · exact start name ((List.dropLast_sublist _).subset isName)
    · next notCurrent notParent =>
      rcases List.mem_append.1 isName with before | here
      · exact start name before
      · obtain rfl := List.mem_singleton.1 here
        exact way name (by simp) (by simp [isDotSegment, notCurrent, notParent])

/-- Spelling that keeps dot segments apart from names carries walks over. -/
theorem walk_map {spell : List Char → List Char}
    (current : spell currentSegment = currentSegment) (parent : spell parentSegment = parentSegment)
    (injective : ∀ segment other, spell segment = spell other → segment = other)
    (place segments : List (List Char)) :
    walk (place.map spell) (segments.map spell) = (walk place segments).map spell := by
  have isCurrent : ∀ segment, spell segment = currentSegment ↔ segment = currentSegment :=
    fun segment => ⟨fun same => injective _ _ (same.trans current.symm), fun same => same ▸ current⟩
  have isParent : ∀ segment, spell segment = parentSegment ↔ segment = parentSegment :=
    fun segment => ⟨fun same => injective _ _ (same.trans parent.symm), fun same => same ▸ parent⟩
  unfold walk
  induction segments generalizing place with
  | nil => rfl
  | cons segment later inductionHypothesis =>
    have step : walkSegment (place.map spell) (spell segment) =
        (walkSegment place segment).map spell := by
      simp only [walkSegment, isCurrent, isParent]
      split
      · rfl
      split <;> simp
    rw [List.map_cons, List.foldl_cons, step, inductionHypothesis, List.foldl_cons]

/-- Resolving a rooted path is walking from the root. -/
theorem resolvePath_rooted {segments : List (List Char)}
    (apart : ∀ segment ∈ segments, '/' ∉ segment) :
    resolvePath (Text.unfields '/' ([] :: segments)) =
      Text.unfields '/' ([] :: walk [] segments) := by
  have parted : Text.fields '/' (Text.unfields '/' ([] :: segments)) = [] :: segments :=
    Text.fields_unfields (by simp) (by simpa using apart)
  unfold resolvePath
  simp only [parted]
  split
  · have walked := foldl_resolveSegment_rooted [] segments
    simp only [List.reverse_nil, List.nil_append] at walked
    have first : resolveSegment [] [] = [[]] := rfl
    rw [List.foldl_cons, first, walked]
    simp
  · next noDots =>
    have names : ∀ segment ∈ segments, isDotSegment segment = false := by
      intro segment isSegment
      simp only [Bool.or_eq_true, List.contains_iff_mem, not_or, List.mem_cons] at noDots
      simp only [isDotSegment, Bool.or_eq_false_iff, decide_eq_false_iff_not]
      constructor
      · rintro rfl
        exact noDots.1.2 isSegment
      · rintro rfl
        exact noDots.2.2 isSegment
    rw [walk_of_names names]
    rfl

end Keyspace.Url
