import Groupwise.Error
import Groupwise.Query.Listing
import Groupwise.Time.Timestamp

/-!
# Resolving points in time

Absolute times are read by the clock of the query. Relative ones count back from now in seconds,
minutes and hours, and from the start of today in longer units.
-/
namespace Groupwise.Query

/-- Why a point in time is not resolved: it is reported, or what is being done breaks off. -/
inductive TimeError where
  | invalid (t : TimePoint)
  | spanTooLong
  deriving Repr, DecidableEq, Inhabited

namespace TimePoint

/-- A number of months that can be counted back. -/
def months? (amount : Int) : Option Nat :=
  if 0 ≤ amount && amount ≤ Int32.maxValue.toInt then some amount.toNat else none

/-- The greatest number of seconds in a span of time, whose milliseconds must fit into 64 bits. -/
def longestSpan : Nat := 9223372036854775

/-- The seconds in some units of time; a span that is too long breaks off. -/
def span (amount unitSeconds : Int) : Except TimeError Int :=
  if (amount * unitSeconds).natAbs ≤ longestSpan then .ok (amount * unitSeconds)
  else .error .spanTooLong

def spanBefore (t : Timestamp) (amount unitSeconds : Int) : Except TimeError (Option Timestamp) := do
  pure (t.before? (← span amount unitSeconds))

/-- The start of the local day, if it is on the calendar; a moment whose local day has no date
breaks off. -/
def startOfDay (now : Timestamp) : Except TimeError (Option Timestamp) :=
  if now.hasLocalDate then .ok now.startOfDay? else .error .spanTooLong

/-- The time a day before another one; where this is not on the calendar, it breaks off. -/
def dayBefore (t : Timestamp) : Except TimeError Timestamp :=
  match t.before? 86400 with
  | some earlier => .ok earlier
  | none => .error .spanTooLong

def before (now today : Timestamp) (amount : Int) (unit : Char) :
    Except TimeError (Option Timestamp) :=
  match unit with
  | 's' => spanBefore now amount 1
  | 'm' => spanBefore now amount 60
  | 'h' => spanBefore now amount 3600
  -- From the day on, units are counted back from the start of today.
  | 'd' => spanBefore today amount 86400
  | 'w' => spanBefore today amount 604800
  | 'M' => .ok (do today.beforeMonths? (← months? amount))
  | 'y' => .ok (do today.beforeMonths? (← months? (amount * 12)))
  | _ => .ok none

def find (now : Timestamp) : TimePoint → Except TimeError (Option Timestamp)
  | .now => .ok (some now)
  | .today => startOfDay now
  | .yesterday => do
    match ← startOfDay now with
    | none => pure none
    | some day => some <$> dayBefore day
  | .ago amount unit => do
    match ← startOfDay now with
    | none => pure none
    | some day => before now day amount.toInt unit
  | .absolute text => .ok (Timestamp.readLoosely? text now.offset)

def invalid : TimePoint → String
  | .absolute text => "Invalid time: \"" ++ text ++ "\""
  | t => "Invalid time: " ++ t.outline.compact

def resolve (now : Timestamp) (t : TimePoint) : Except TimeError Timestamp := do
  match ← t.find now with
  | some time => pure time
  | none => .error (.invalid t)

/-- Whether resolving a point in time does not break off. -/
def isCountable (now : Timestamp) (t : TimePoint) : Bool :=
  match t.resolve now with
  | .error .spanTooLong => false
  | _ => true

end TimePoint

def TimeError.message : TimeError → String
  | .invalid t => t.invalid
  | .spanTooLong => CompileError.spanTooLong.message

end Groupwise.Query
