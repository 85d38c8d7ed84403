import Keyspace.Proofs.Number.Range
import Keyspace.Proofs.Session
import Keyspace.Settings

/-!
# Timeouts in effect

A timeout that is asked for is refused as a configuration, or it comes into effect: phases as they
are, and numbers when they are positive. `timeouts_settle_iff` says for which settings this holds, in
arguments and in the environment, and that it is this timeout that every request has. It fails for
what is not a number and yet taken for one, and for integers that meet a fault of their own.
-/

namespace Keyspace

/-- A timeout that is asked for is mishandled when it is not a number and yet taken for one, and when
it has an integer that is out of range, or too long to be written into a message. -/
inductive TimeoutSetting.IsMishandled : TimeoutSetting → Prop where
  | notANumber : IsMishandled (.value (.real .nan))
  | outOfRange {number : Int} (isOutOfRange : (Binary64.rangeEnd : Int) ≤ number) :
      IsMishandled (.value (.int number))
  | oversized {document : Document} (isOversized : document.isOversized = true) :
      IsMishandled (.value document)

/-- An integer that is asked for is mishandled when it is out of range or has too many digits. -/
theorem TimeoutSetting.isMishandled_int_iff {number : Int} :
    IsMishandled (.value (.int number)) ↔
      (Binary64.rangeEnd : Int) ≤ number ∨ Number.isOversized number = true := by
  constructor
  · rintro (_ | isOutOfRange | isOversized)
    · exact .inl isOutOfRange
    · exact .inr isOversized
  · rintro (isOutOfRange | isOversized)
    · exact .outOfRange isOutOfRange
    · exact .oversized isOversized

namespace Timeout

/-- What asking for a timeout should come to: the default where none is asked for, phases as they are,
a positive number of seconds, or a refusal as a configuration. -/
inductive Settles (default : Timeout) : Option TimeoutSetting → Except Failure Timeout → Prop where
  | default : Settles default none (.ok default)
  | phases {connect read write pool : Document} :
      Settles default (some (.phases connect read write pool))
        (.ok (.phases connect read write pool))
  | positive {document : Document} {value : Binary64} (isPositive : (Number.real value).IsPositive) :
      Settles default (some (.value document)) (.ok (.seconds value))
  | refused {setting : TimeoutSetting} {error : AccessError}
      (isConfiguration : error.kind = .configuration) :
      Settles default (some setting) (.error (.access error))

variable {default : Timeout} {asked : Option TimeoutSetting} {document : Document}

theorem settles_invalidConfiguration {setting : TimeoutSetting} (message : String) :
    Settles default (some setting) (.error (.invalidConfiguration message)) := .refused rfl

theorem not_settles_fault {fault : Fault} : ¬ Settles default asked (.error (.fault fault)) := nofun

/-- Seconds are what asking for a value should come to exactly when they are positive. -/
theorem settles_seconds_iff {value : Binary64} :
    Settles default (some (.value document)) (.ok (.seconds value)) ↔
      (Number.real value).IsPositive := by
  constructor
  · rintro ⟨⟩
    assumption
  · exact .positive

/-- An integer of too many digits is out of range. -/
theorem rangeEnd_le_of_isOversized {number : Int} (isOversized : Number.isOversized number = true) :
    Binary64.rangeEnd ≤ number.natAbs := by
  have bits : 2 ^ 1024 ≤ 10 ^ Number.digitLimit :=
    calc 2 ^ 1024 ≤ 10 ^ 1024 := pow_le_pow_left₀ (by decide) (by decide) _
      _ ≤ 10 ^ Number.digitLimit := pow_le_pow_right₀ (by decide) (by decide)
  have digits : 10 ^ Number.digitLimit ≤ number.natAbs := of_decide_eq_true isOversized
  exact (Nat.sub_le _ _).trans (bits.trans digits)

/-- An integer that is asked for comes to what it should exactly when it is not mishandled. -/
theorem settles_check_int_iff {number : Int} :
    Settles default (some (.value (.int number))) (check (.value (.int number))) ↔
      ¬ TimeoutSetting.IsMishandled (.value (.int number)) := by
  rw [TimeoutSetting.isMishandled_int_iff, check]
  split
  · next notPositive =>
    have some := Binary64.rangeEnd_pos
    have inRange : ¬ (Binary64.rangeEnd : Int) ≤ number := by omega
    split
    · next isOversized =>
      exact iff_of_false not_settles_fault fun handled => handled (.inr isOversized)
    · next small =>
      refine iff_of_true (settles_invalidConfiguration _) ?_
      rintro (isOutOfRange | isOversized)
      · exact inRange isOutOfRange
      · exact small isOversized
  · next positive =>
    have isPositive : 0 < number := by omega
    rcases Binary64.ofInt?_cases (show number ≠ 0 by omega) with
      ⟨isOutOfRange, noValue⟩ | ⟨inRange, significand, exponent, notZero, isValue⟩
    · have outOfRange : (Binary64.rangeEnd : Int) ≤ number := by omega
      rw [noValue]
      exact iff_of_false not_settles_fault fun handled => handled (.inl outOfRange)
    · have isPositive : (Number.real
          (.finite (decide (number < 0)) significand exponent)).IsPositive := by
        refine Number.isPositive_real_iff.2 ⟨nofun, ?_⟩
        simp [Binary64.isNonpositive, notZero, isPositive.le]
      rw [isValue]
      refine iff_of_true (.positive isPositive) ?_
      rintro (isOutOfRange | isOversized)
      · omega
      · have beyond := rangeEnd_le_of_isOversized isOversized
        omega

/-- A binary value that is asked for comes to what it should exactly when it is a number. -/
theorem settles_check_real_iff {value : Binary64} :
    Settles default (some (.value (.real value))) (check (.value (.real value))) ↔
      ¬ TimeoutSetting.IsMishandled (.value (.real value)) := by
  have mishandled : TimeoutSetting.IsMishandled (.value (.real value)) ↔ value = .nan := by
    constructor
    · rintro (_ | _ | isOversized)
      · rfl
      · simp [Document.isOversized] at isOversized
    · rintro rfl
      exact .notANumber
  rw [mishandled, check]
  split
  · next notPositive =>
    refine iff_of_true (settles_invalidConfiguration _) ?_
    rintro rfl
    cases notPositive
  · next positive => simp [settles_seconds_iff, Number.isPositive_real_iff, positive]

/-- What is asked for and is no number comes to what it should exactly when it can be written into a
message. -/
theorem settles_check_other_iff (notInt : ∀ number, document ≠ .int number)
    (notReal : ∀ value, document ≠ .real value) :
    Settles default (some (.value document)) (check (.value document)) ↔
      ¬ TimeoutSetting.IsMishandled (.value document) := by
  have mishandled : TimeoutSetting.IsMishandled (.value document) ↔ document.isOversized = true := by
    constructor
    · rintro (_ | _ | isOversized)
      · exact absurd rfl (notReal _)
      · exact absurd rfl (notInt _)
      · exact isOversized
    · exact .oversized
  rw [mishandled, check.eq_def]
  split
  · next same => cases same
  · next number same => exact absurd (TimeoutSetting.value.inj same) (notInt number)
  · next value same => exact absurd (TimeoutSetting.value.inj same) (notReal value)
  · next same =>
    cases same
    split
    · next isOversized => simp [not_settles_fault, isOversized]
    · next small => simp [settles_invalidConfiguration, small]

/-- A timeout that is asked for comes to what it should exactly when it is not mishandled. -/
theorem settles_effective_iff :
    Settles default asked (effective default asked) ↔
      ∀ setting ∈ asked, ¬ setting.IsMishandled := by
  rcases asked with _ | document | phases
  · exact iff_of_true .default (by simp)
  · have checked : effective default (some (.value document)) = check (.value document) := rfl
    rw [checked]
    simp only [Option.mem_some_iff, forall_eq']
    cases document with
    | int number => exact settles_check_int_iff
    | real value => exact settles_check_real_iff
    | _ => exact settles_check_other_iff nofun nofun
  · exact iff_of_true .phases (by rintro _ ⟨⟩ ⟨⟩)

end Timeout

/-- Where a base URL is accepted, an accessor is made for it with the timeout that is in effect. -/
theorem Accessor.create_of_checkUrl {serverUrl : Document} {base : String}
    {timeout : Option TimeoutSetting}
    (isBase : Accessor.checkUrl serverUrl = .ok base) :
    Accessor.create serverUrl timeout = (Timeout.effective .standard timeout).map (Accessor.mk base) := by
  simp only [Accessor.create, bind, Except.bind, isBase]
  cases Timeout.effective .standard timeout <;> rfl

namespace Settings

variable {environment : Environment} {text : String}

/-- A setting with a timeout is taken for a number that it is not. -/
def IsNotANumber (text : String) : Prop :=
  text.toList.all Text.isBlank = false ∧ Number.readReal? text = some .nan

/-- What a setting with a timeout should come to: the standard where it is absent or blank, a positive
number of seconds, or a refusal as a configuration. -/
inductive SettlesTimeout : Option String → Except Failure Timeout → Prop where
  | absent : SettlesTimeout none (.ok .standard)
  | blank {text : String} (isBlank : text.toList.all Text.isBlank = true) :
      SettlesTimeout (some text) (.ok .standard)
  | positive {text : String} {value : Binary64} (isPositive : (Number.real value).IsPositive) :
      SettlesTimeout (some text) (.ok (.seconds value))
  | refused {text : String} {error : AccessError} (isConfiguration : error.kind = .configuration) :
      SettlesTimeout (some text) (.error (.access error))

/-- The seconds of the default accessor are never zero or less. -/
theorem isNonpositive_of_timeoutSeconds {seconds : Binary64}
    (isSeconds : timeoutSeconds environment = .ok seconds) : seconds.isNonpositive = false := by
  have standard : Timeout.standardSeconds.isNonpositive = false := by decide +kernel
  unfold timeoutSeconds at isSeconds
  split at isSeconds
  · cases isSeconds
    exact standard
  · split at isSeconds
    · cases isSeconds
      exact standard
    · unfold readSeconds at isSeconds
      split at isSeconds
      · cases isSeconds
      · split at isSeconds
        · cases isSeconds
        · next positive =>
          cases isSeconds
          simpa using positive

/-- Where its base URL is accepted, the default accessor has the timeout of its setting. -/
theorem timeout_defaultAccessor {base : String}
    (isBase : Accessor.checkUrl (.text (serverUrl environment)) = .ok base) :
    (defaultAccessor environment).map Accessor.timeout =
      (timeoutSeconds environment).map Timeout.seconds := by
  simp only [defaultAccessor, bind, Except.bind]
  cases isSeconds : timeoutSeconds environment with
  | error failure => rfl
  | ok seconds =>
    have positive := isNonpositive_of_timeoutSeconds isSeconds
    simp [Accessor.create_of_checkUrl isBase, Timeout.effective, Timeout.check, positive, Except.map]

/-- A setting with a timeout comes to what it should exactly when it is not taken for a number that it
is not. -/
theorem settlesTimeout_iff :
    SettlesTimeout (text? environment timeoutName)
        ((timeoutSeconds environment).map Timeout.seconds) ↔
      ∀ text ∈ text? environment timeoutName, ¬ IsNotANumber text := by
  unfold timeoutSeconds
  cases text? environment timeoutName with
  | none => exact iff_of_true .absent (by simp)
  | some text =>
    simp only [Option.mem_some_iff, forall_eq']
    split
    · next isBlank => exact iff_of_true (.blank isBlank) (by simp [IsNotANumber, isBlank])
    · next notBlank =>
      unfold readSeconds
      split
      · next notReal => exact iff_of_true (.refused rfl) (by simp [IsNotANumber, notReal])
      · next value isReal =>
        split
        · next notPositive =>
          refine iff_of_true (.refused rfl) ?_
          rintro ⟨-, isNaN⟩
          obtain rfl : value = .nan := by simpa [isReal] using isNaN
          cases notPositive
        · next positive =>
          have isNaN : IsNotANumber text ↔ value = .nan := by simp [IsNotANumber, notBlank, isReal]
          rw [isNaN]
          constructor
          · rintro (_ | isBlank | isPositive)
            · exact absurd isBlank notBlank
            · exact (Number.isPositive_real_iff.1 isPositive).1
          · exact fun isNumber => .positive
              (Number.isPositive_real_iff.2 ⟨isNumber, by simpa using positive⟩)

end Settings

/-- The key of a call is a whole text, and no number in the call has too many digits. -/
def Call.IsOrderly (call : Call) : Prop := (∃ key, call.key = .text key) ∧ call.operation.IsSmall

namespace Accessor

variable {State : Type} {serve : Server State} {accessor : Accessor} {isOpen : Bool} {call : Call}
  {before : Transcript State} {timeout : Option TimeoutSetting}

/-- A run keeps to a timeout in effect: all that it sends has this timeout. If there is none, the run
fails and nothing is done for it; what it fails with is the refusal of the timeout, unless its other
arguments are at fault. -/
inductive KeepsTo {α : Type} (orderly : Prop) (before : Transcript State)
    (ran : Except Failure α × Transcript State) : Except Failure Timeout → Prop where
  | refused {failure met : Failure} (fails : ran = (.error met, before))
      (same : orderly → met = failure) : KeepsTo orderly before ran (.error failure)
  | used {timeout : Timeout} {sent : List Request}
      (isSent : ran.2.requests = before.requests ++ sent)
      (haveTimeout : ∀ request ∈ sent, request.timeout = timeout) :
      KeepsTo orderly before ran (.ok timeout)

/-- An operation keeps to the timeout that is in effect for it. -/
theorem keepsTo_perform :
    KeepsTo call.IsOrderly before (accessor.perform serve isOpen call before)
      (Timeout.effective accessor.timeout call.timeout) := by
  cases isEffective : Timeout.effective accessor.timeout call.timeout with
  | ok effective =>
    refine .used requests_perform fun request isRequest => ?_
    obtain ⟨-, isFor⟩ := timeout_of_mem_requestsOf isRequest
    exact Except.ok.inj ((Timeout.effective_eq_ok_iff.2 isFor).symm.trans isEffective)
  | error failure =>
    obtain ⟨met, fails⟩ : ∃ met, accessor.perform serve isOpen call before = (.error met, before) :=
      perform_of_refused (.inr (Timeout.effective_eq_error_iff.1 ⟨failure, isEffective⟩))
    refine .refused fails ?_
    rintro ⟨⟨key, isKey⟩, isSmall⟩
    have prepared : accessor.prepare call = .error failure := by
      simp only [prepare, bind, Except.bind, Operation.checkLifetime_of_isSmall isSmall, isKey,
        Argument.key_text, isEffective]
    simp only [perform, prepared, Prod.mk.injEq, Except.error.injEq, and_true] at fails
    exact fails.symm

/-- Asking for the version keeps to the timeout that is in effect for it. -/
theorem keepsTo_version :
    KeepsTo True before (accessor.version serve isOpen timeout before)
      (Timeout.effective accessor.timeout timeout) := by
  cases isEffective : Timeout.effective accessor.timeout timeout with
  | error failure => exact .refused (by simp only [version, isEffective]) fun _ => rfl
  | ok effective =>
    refine .used sent_version.1 fun request isRequest => ?_
    obtain ⟨-, isFor⟩ := (versionRequests_spec _ _ _).2 request isRequest
    exact Except.ok.inj ((Timeout.effective_eq_ok_iff.2 isFor).symm.trans isEffective)

/-- When timeouts are settled as they should be. The timeout in effect is what asking for one should
come to exactly when no mishandled one is asked for; an accessor is made with it, and operations and
versions keep to it. The same holds for the setting with the timeout of the default accessor, exactly
when it is not taken for a number that it is not. -/
theorem timeouts_settle_iff (default : Timeout) (asked : Option TimeoutSetting)
    (environment : Environment) :
    (Timeout.Settles default asked (Timeout.effective default asked) ↔
      ∀ setting ∈ asked, ¬ setting.IsMishandled) ∧
    (∀ serverUrl base, checkUrl serverUrl = .ok base →
      create serverUrl asked = (Timeout.effective .standard asked).map (Accessor.mk base)) ∧
    (∀ {State : Type} (serve : Server State) accessor isOpen operation key
      (before : Transcript State), accessor.timeout = default →
        KeepsTo (Call.IsOrderly ⟨operation, key, asked⟩) before
          (perform serve accessor isOpen ⟨operation, key, asked⟩ before)
          (Timeout.effective default asked)) ∧
    (∀ {State : Type} (serve : Server State) accessor isOpen (before : Transcript State),
      accessor.timeout = default →
        KeepsTo True before (version serve accessor isOpen asked before)
          (Timeout.effective default asked)) ∧
    ∀ base, checkUrl (.text (Settings.serverUrl environment)) = .ok base →
      (Settings.SettlesTimeout (Settings.text? environment Settings.timeoutName)
          ((Settings.defaultAccessor environment).map Accessor.timeout) ↔
        ∀ text ∈ Settings.text? environment Settings.timeoutName,
          ¬ Settings.IsNotANumber text) := by
  refine ⟨Timeout.settles_effective_iff, fun _ _ => create_of_checkUrl, ?_, ?_, ?_⟩
  · rintro State serve accessor isOpen operation key before rfl
    exact keepsTo_perform
  · rintro State serve accessor isOpen before rfl
    exact keepsTo_version
  · intro base isBase
    rw [Settings.timeout_defaultAccessor isBase]
    exact Settings.settlesTimeout_iff

/-- The law at a timeout that is refused, and at a setting that is infinite. -/
theorem timeouts_settle_iff_infinite :
    checkUrl (.text standardUrl) = .ok standardUrl ∧
      Timeout.Settles .standard (some (.value (.int 0)))
        (Timeout.effective .standard (some (.value (.int 0)))) ∧
      Settings.SettlesTimeout (some "inf")
        ((Settings.defaultAccessor [(Settings.timeoutName, "inf")]).map Accessor.timeout) := by
  have isBase : checkUrl (.text standardUrl) = .ok standardUrl := by decide +kernel
  have inRange : ¬ TimeoutSetting.IsMishandled (.value (.int 0)) := by
    have some := Binary64.rangeEnd_pos
    have short : Number.isOversized 0 = false := by decide +kernel
    rw [TimeoutSetting.isMishandled_int_iff, short]
    rintro (isOutOfRange | ⟨⟨⟩⟩)
    omega
  have isNumber : ¬ Settings.IsNotANumber "inf" := by
    rintro ⟨-, isNaN⟩
    revert isNaN
    decide +kernel
  obtain ⟨settles, -, -, -, settlesSetting⟩ := timeouts_settle_iff .standard
    (some (.value (.int 0))) [(Settings.timeoutName, "inf")]
  exact ⟨isBase, settles.2 (by simpa using inRange), (settlesSetting standardUrl isBase).2
    (by rintro _ ⟨⟩; exact isNumber)⟩

/-- What is not a number is taken for a timeout, as an argument and in a setting; and an integer that is
out of range meets a fault that is no refusal. -/
theorem exists_timeout_not_settled :
    (create (.text standardUrl) (some (.value (.real .nan))) =
        .ok { serverUrl := standardUrl, timeout := .seconds .nan } ∧
      ¬ Timeout.Settles .standard (some (.value (.real .nan))) (.ok (.seconds .nan))) ∧
    ((Settings.defaultAccessor [(Settings.timeoutName, "nan")]).map Accessor.timeout =
        .ok (.seconds .nan) ∧
      ¬ Settings.SettlesTimeout (some "nan") (.ok (.seconds .nan))) ∧
    create (.text standardUrl) (some (.value (.int Binary64.rangeEnd))) =
        .error (.fault .integerTooLarge) ∧
      ¬ Timeout.Settles .standard (some (.value (.int Binary64.rangeEnd)))
        (.error (.fault .integerTooLarge)) := by
  have notPositive : ¬ (Number.real .nan).IsPositive := by simp [Number.isPositive_real_iff]
  refine ⟨⟨by decide +kernel, notPositive ∘ Timeout.settles_seconds_iff.1⟩,
    ⟨by decide +kernel, ?_⟩, by decide +kernel, Timeout.not_settles_fault⟩
  intro settles
  cases settles with
  | positive isPositive => exact notPositive isPositive

end Accessor

end Keyspace
