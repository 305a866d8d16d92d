import PlainEnglish.Compile.Event
import PlainEnglish.Proofs.Journal.Registry

/-!
# Any order of log calls

The log is configured, loggers are asked for and events are told in any order. What the log is
configured to depends on the level that was named last only, and the loggers stay in their
places.

Main statement: `Registry.start_after`.
-/

namespace PlainEnglish

/-! ### Calls -/

/-- What the log can be asked for. -/
inductive Registry.Call where
  | configure (level : Text)
  | logger (name : Text)
  | event (e : Event) (message : Text) (level : Level := .info) (source : Text := pipelineLogger)

/-- The records that a call keeps, and the log after it. -/
def Registry.Call.run (r : Registry) : Registry.Call → List Record × Registry
  | .configure level => ([], r.configure level)
  | .logger name => ([], (r.logger name).2)
  | .event e message level source => r.log ⟨source, level, message, some e⟩

/-- The level that a call names to configure the log. -/
def Registry.Call.level? : Registry.Call → Option Text
  | .configure level => some level
  | .logger _ => none
  | .event _ _ _ _ => none

/-- The log after some calls. -/
def Registry.after (r : Registry) (calls : List Registry.Call) : Registry :=
  calls.foldl (fun r call => (call.run r).2) r

/-- The level that was named last to configure the log. -/
def Registry.lastLevel? (calls : List Registry.Call) : Option Text :=
  (calls.filterMap Registry.Call.level?).getLast?

/-- The level from which on the records of the main logger count, by the level that was named
last. -/
def Registry.levelInForce (last : Option Text) : Level :=
  (last.map Level.ofAnyName).getD .warning

/-! ### Single calls -/

/-- What the log is configured to, by the level that was named last. -/
structure Registry.IsConfigured (last : Option Text) (r : Registry) : Prop where
  level_eq : r.level = last.map Level.ofAnyName
  handlers_eq : r.handlers = if last.isSome then 1 else 0
  propagates_eq : r.propagates = last.isNone

section

variable {r : Registry} {last : Option Text}

lemma Registry.configure_eq (r : Registry) (level : Text) :
    r.configure level =
      { loggers := (r.logger mainLogger).2.loggers
        level := some (Level.ofAnyName level)
        handlers := if r.handlers = 0 then 1 else r.handlers
        propagates := if r.handlers = 0 then false else r.propagates } := by
  simp only [Registry.configure]
  rw [Registry.logger_snd]
  by_cases h : r.handlers = 0 <;> simp [h]

lemma Registry.IsConfigured.logger (h : r.IsConfigured last) (name : Text) :
    (r.logger name).2.IsConfigured last := by
  rw [Registry.logger_snd]
  exact ⟨h.level_eq, h.handlers_eq, h.propagates_eq⟩

/-- Only the first time a handler is added, since from then on there is one. -/
lemma Registry.IsConfigured.configure (h : r.IsConfigured last) (level : Text) :
    (r.configure level).IsConfigured (some level) := by
  rw [Registry.configure_eq]
  cases last with
  | none =>
    have hnone : r.handlers = 0 := h.handlers_eq
    exact ⟨rfl, if_pos hnone, if_pos hnone⟩
  | some earlier =>
    have hone : r.handlers = 1 := h.handlers_eq
    have hsome : r.handlers ≠ 0 := by rw [hone]; exact one_ne_zero
    exact ⟨rfl, (if_neg hsome).trans hone, (if_neg hsome).trans h.propagates_eq⟩

lemma Registry.IsConfigured.run (h : r.IsConfigured last) (call : Registry.Call) :
    (call.run r).2.IsConfigured (call.level?.or last) := by
  cases call with
  | configure level => exact h.configure level
  | logger name => exact h.logger name
  | event e message level source => exact h.logger source.loggerName

lemma Registry.Call.prefix_run (r : Registry) (call : Registry.Call) :
    r.loggers <+: (call.run r).2.loggers := by
  cases call with
  | configure level =>
    simp only [Registry.Call.run, Registry.configure_eq]
    exact r.prefix_logger mainLogger
  | logger name => exact r.prefix_logger name
  | event e message level source => exact r.prefix_logger source.loggerName

end

/-! ### Any number of calls -/

section

variable {r : Registry} {last : Option Text}

lemma Registry.after_concat (r : Registry) (calls : List Registry.Call) (call : Registry.Call) :
    r.after (calls ++ [call]) = (call.run (r.after calls)).2 := List.foldl_concat _ _ _ _

lemma Registry.lastLevel?_concat (calls : List Registry.Call) (call : Registry.Call) :
    Registry.lastLevel? (calls ++ [call]) = call.level?.or (Registry.lastLevel? calls) := by
  rw [Registry.lastLevel?, List.filterMap_append, List.getLast?_append]
  congr 1
  cases hlevel : call.level? <;> simp [hlevel]

lemma Registry.isConfigured_after (calls : List Registry.Call) :
    (Registry.start.after calls).IsConfigured (Registry.lastLevel? calls) := by
  induction calls using List.reverseRecOn with
  | nil => exact ⟨rfl, rfl, rfl⟩
  | append_singleton calls call ih =>
    rw [Registry.after_concat, Registry.lastLevel?_concat]
    exact ih.run call

lemma Registry.prefix_after (r : Registry) (calls : List Registry.Call) :
    r.loggers <+: (r.after calls).loggers := by
  induction calls using List.reverseRecOn with
  | nil => exact List.prefix_rfl
  | append_singleton calls call ih =>
    rw [Registry.after_concat]
    exact ih.trans (call.prefix_run _)

/-- The level from which on a logger counts is the one in force for the main logger and all below
it, and that of warnings for the others. -/
lemma Registry.IsConfigured.threshold_eq (h : r.IsConfigured last) (logger : Text) :
    r.threshold logger = if r.isMain logger then Registry.levelInForce last else .warning := by
  rw [Registry.threshold, h.level_eq, Registry.levelInForce]

/-- After any calls the log has one handler and keeps its records to itself if it was configured,
and its level is the one that was named last, or that of normal work if this is the name of no
level; before, it has neither a handler nor a level. Whatever is called in between, two names
lead to the same place if and only if they are names of the same logger. An event is kept as it
was told, under the name of its logger. For the main logger and all below it this takes the level
that was named last, and that of warnings for others, or as long as none was named. A logger
whose name goes on behind the main one with a dot is below it, unless a second dot follows: then
that depends on the loggers that were asked for. No other logger is. -/
theorem Registry.start_after (calls : List Registry.Call) :
    ∃ r, Registry.start.after calls = r ∧
      (∀ level, Registry.lastLevel? calls = some level →
        r.handlers = 1 ∧ r.propagates = false ∧
          r.level = some ((Level.names.lookup level.lowercase).getD .info)) ∧
      (Registry.lastLevel? calls = none →
        r.handlers = 0 ∧ r.propagates = true ∧ r.level = none) ∧
      (∀ name other later,
        (((r.logger name).2.after later).logger other).1 = (r.logger name).1 ↔
          other.loggerName = name.loggerName) ∧
      ∀ e message level logger, ∃ r' threshold,
        (Registry.Call.event e message level logger).run r =
          (if threshold ≤ level then [⟨logger.loggerName, level, message, some e⟩] else [], r') ∧
        threshold = (if r'.isMain logger.loggerName
          then Registry.levelInForce (Registry.lastLevel? calls) else .warning) ∧
        (logger.IsMainName → r'.isMain logger.loggerName = true) ∧
        (logger.IsForeign → r'.isMain logger.loggerName = false) := by
  have hconfigured := Registry.isConfigured_after calls
  generalize Registry.start.after calls = r at hconfigured
  refine ⟨r, rfl, fun level hlast => ?_, fun hlast => ?_, fun name other later =>
    Registry.logger_eq_iff (Registry.prefix_after _ later), fun e message level logger => ?_⟩
  · rw [hlast] at hconfigured
    exact ⟨hconfigured.handlers_eq, hconfigured.propagates_eq, hconfigured.level_eq⟩
  · rw [hlast] at hconfigured
    exact ⟨hconfigured.handlers_eq, hconfigured.propagates_eq, hconfigured.level_eq⟩
  · have hthreshold := (hconfigured.logger logger.loggerName).threshold_eq logger.loggerName
    refine ⟨_, _, rfl, hthreshold, fun hmain => ?_, fun hforeign => ?_⟩
    · rw [Text.loggerName_of_isMainName hmain]
      exact Registry.isMain_of_isMainName _ hmain
    · exact Registry.isMain_of_isForeign _ (Text.isForeign_loggerName hforeign)

end

/-- A log that is configured twice after something has been told already. -/
def reconfiguringCalls : List Registry.Call :=
  [.event ⟨"started", []⟩ "Started", .configure "WARN", .logger "ebpl.parser",
    .configure "Debug"]

theorem Registry.start_after_reconfiguringCalls :
    (∃ r, Registry.start.after [.logger "shop"] = r ∧
      r.handlers = 0 ∧ r.propagates = true ∧ r.level = none) ∧
    ∃ r, Registry.start.after reconfiguringCalls = r ∧
      r.handlers = 1 ∧ r.propagates = false ∧ r.level = some .debug ∧
      (∀ e message, ((Registry.Call.event e message .debug "ebpl.parser").run r).1 =
        [⟨"ebpl.parser", .debug, message, some e⟩]) ∧
      ∀ e message, ((Registry.Call.event e message .info "shop").run r).1 = [] := by
  constructor
  · obtain ⟨r, hr, -, hnone, -⟩ := Registry.start_after [.logger "shop"]
    exact ⟨r, hr, hnone rfl⟩
  · obtain ⟨r, hr, hsome, -, -, hevent⟩ := Registry.start_after reconfiguringCalls
    obtain ⟨hhandlers, hpropagates, hlevel⟩ := hsome "Debug" rfl
    have hdebug : (Level.names.lookup (Text.lowercase "Debug")).getD .info = .debug := by
      decide +kernel
    have hforce : Registry.levelInForce (Registry.lastLevel? reconfiguringCalls) = .debug := by
      decide +kernel
    refine ⟨r, hr, hhandlers, hpropagates, hdebug ▸ hlevel, fun e message => ?_,
      fun e message => ?_⟩
    · obtain ⟨r', threshold, hkept, hthreshold, hmain, -⟩ :=
        hevent e message .debug "ebpl.parser"
      rw [hmain (.below "parser" (by decide)), if_pos rfl, hforce] at hthreshold
      rw [hkept, if_pos hthreshold.le]
      rfl
    · obtain ⟨r', threshold, hkept, hthreshold, -, hforeign⟩ := hevent e message .info "shop"
      rw [hforeign ⟨by decide, by decide⟩, if_neg Bool.false_ne_true] at hthreshold
      have hbelow : ¬threshold ≤ .info := hthreshold ▸ by decide
      rw [hkept, if_neg hbelow]

end PlainEnglish
