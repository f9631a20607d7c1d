import ThreatWatch.Number.Amount
import ThreatWatch.Value

/-! Settings of the correlation: how close in time, how many and from how many
addresses threats must be to make a campaign, and how far back a scan looks. -/

namespace ThreatWatch

structure CorrelationSettings where
  windowMinutes : Amount := .whole 60
  leastEvents : Amount := .whole 3
  leastAddresses : Amount := .whole 5
  scanHours : Amount := .whole 24
  deriving DecidableEq, Repr

def Value.amount? : Value → Option Amount
  | .int number => some (.whole number)
  | .float number => some (.real number)
  | _ => none

namespace CorrelationSettings

/-- The amount of a setting: the fallback where it is missing, and otherwise a
number that is neither zero nor below. -/
def readAmount (entries : List (Value × Value)) (setting : String) (fallback : Amount) :
    Except Fault Amount :=
  match Value.entry entries setting with
  | .null => .ok fallback
  | value =>
      match value.amount? with
      | some amount =>
          if amount.atMostZero then do .error (.settingNotPositive setting (← value.quoted))
          else .ok amount
      | none => do .error (.settingNotPositive setting (← value.quoted))

/-- The settings of a mapping; entries of other names are passed over. -/
def ofEntries (entries : List (Value × Value)) : Except Fault CorrelationSettings := do
  return {
    windowMinutes := ← readAmount entries "time_window_minutes" (.whole 60)
    leastEvents := ← readAmount entries "min_events_for_campaign" (.whole 3)
    leastAddresses := ← readAmount entries "min_ips_for_pattern_campaign" (.whole 5)
    scanHours := ← readAmount entries "scan_window_hours" (.whole 24) }

/-- What does not count as present leaves all settings as they are by
themselves. -/
def ofValue (value : Value) : Except Fault CorrelationSettings :=
  if value.isPresent then
    match value with
    | .map entries => ofEntries entries
    | _ => .error .noSuchOperation
  else .ok {}

end CorrelationSettings

end ThreatWatch
