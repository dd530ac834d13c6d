import ArrivalRamp.Config.Basic

/-!
The fields of a configuration, with every name that they may be written under.
-/

namespace ArrivalRamp

open Document

variable {Reader : Type → Type} [Format Reader]

/-- A stage has a duration and a target. -/
def ScheduleStep.shape : Shape Reader ScheduleStep where
  title := "struct ScheduleStep"
  start := ⟨"", 0⟩
  fields :=
    [.mandatory "duration" Format.text fun step duration => { step with duration },
      .mandatory "target" (Format.count "u64") fun step target => { step with target }]

/-- Entries of which the last of one name counts. -/
def readEntries {Value : Type} (read : Reader Value) : Reader (List (String × Value)) := do
  return Ledger.ofList (← Format.dictionary read)

/-- A configuration leaves out what it does not set. -/
def Config.shape : Shape Reader Config where
  title := "struct Config"
  start := .empty
  fields :=
    [.optional "name" [] Format.text fun config name => { config with name },
      .optional "base_url" ["baseUrl"] Format.text fun config baseUrl => { config with baseUrl },
      .optional "path" [] Format.text fun config path => { config with path },
      .optional "method" [] Format.text fun config method => { config with method },
      .optional "headers" [] (readEntries Format.text) fun config headers =>
        { config with headers },
      .optional "auth_token" ["authToken"] Format.text fun config authToken =>
        { config with authToken },
      .optional "app_name" ["appName"] Format.text fun config appName =>
        { config with appName },
      .optional "env" [] Format.text fun config env => { config with env },
      .optional "stages" ["schedule"] (Format.list (Format.record ScheduleStep.shape))
        fun config stages => { config with stages },
      .optional "start_rate" ["startRate"] (Format.count "u64") fun config startRate =>
        { config with startRate },
      .optional "time_unit" ["timeUnit"] Format.text fun config timeUnit =>
        { config with timeUnit },
      .optional "pre_allocated_vus" ["preAllocatedVUs", "preAllocatedVus"]
        (Format.count "usize") fun config preAllocatedUsers => { config with preAllocatedUsers },
      .optional "max_vus" ["maxVUs", "maxVus"] (Format.count "usize") fun config maxUsers =>
        { config with maxUsers },
      .optional "stop" ["gracefulStop"] Format.text fun config stop => { config with stop },
      .optional "timeout" [] Format.text fun config timeout => { config with timeout },
      .optional "criteria" ["thresholds"] (readEntries (Format.list Format.text))
        fun config criteria => { config with criteria },
      .optional "tags" [] (readEntries Format.text) fun config tags => { config with tags },
      .optional "payload" [] Format.json fun config payload => { config with payload },
      .optional "strict" [] Format.flag fun config strict => { config with strict }]

/-- The configuration that a document holds. -/
def Config.read : Reader Config :=
  Format.record Config.shape

end ArrivalRamp
