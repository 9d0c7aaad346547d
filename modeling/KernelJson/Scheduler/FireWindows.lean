import KernelJson.Contracts.Digest
import KernelJson.Scheduler.Spec

/-!
# Fire windows and fire identity

Deterministic enumeration of the windows due in a half-open interval, and the
identity under which admission recognises a fire.  The idempotency key joins
schedule, version and window by bars; it is injective although a version may
itself contain bars, because the window keys have a recognisable shape.
-/

namespace KernelJson.Scheduler.FireWindows

open Contracts.Common
open Contracts.Digest
open Foundation.CivilCalendar
open Foundation.JsText
open Scheduler.CivilTime
open Scheduler.Spec

inductive WindowNote where
  | utcInterval
  | unique
  | foldFirst
  | gapShifted
deriving DecidableEq

/-- A due window.  `fireAtUtcIso` is the ISO text of `fireAtUtcMs` and is not kept apart. -/
structure FireWindow where
  fireWindowKey : JsString
  fireAtUtcMs : Int
  civilSlot : JsString
  note : WindowNote
deriving DecidableEq

def pad (number : Nat) : JsString :=
  padStartZero 2 (decimal number)

/-- What names one logical fire. -/
structure FireName where
  scheduleId : Id
  version : JsString
  fireWindowKey : JsString
deriving DecidableEq

/-- `scheduleId|version|fireWindowKey`. -/
def FireName.key (name : FireName) : JsString :=
  name.scheduleId.text ++ bar :: (name.version ++ bar :: name.fireWindowKey)

/-- Content-derived, cross-process-stable identity of a logical fire. -/
def FireName.identity (sha256 : JsString → HexDigest) (name : FireName) : Id :=
  stableId sha256 (.arr [.str (js "kj-schedule-fire/v1"), .str name.scheduleId.text,
    .str name.version, .str name.fireWindowKey])

def fireName {intl : Intl} (spec : ScheduleSpec intl) (fireWindowKey : JsString) : FireName :=
  ⟨spec.scheduleId, spec.version, fireWindowKey⟩

def idempotencyKey {intl : Intl} (spec : ScheduleSpec intl) (fireWindowKey : JsString) : JsString :=
  (fireName spec fireWindowKey).key

/-- The admission-request identity of a window. -/
def fireIdentity {intl : Intl} (sha256 : JsString → HexDigest) (spec : ScheduleSpec intl)
    (fireWindowKey : JsString) : Id :=
  (fireName spec fireWindowKey).identity sha256

/-! ## Interval schedules -/

def minuteMs : Int := 60000

def everyNMinutesWindow (n : Nat) (instant : Int) : FireWindow :=
  { fireWindowKey := js "everyNMinutes/" ++ decimal n ++ js "@" ++ signedDecimal instant
    fireAtUtcMs := instant
    civilSlot := toISOString instant
    note := .utcInterval }

/-- The first multiple of the step at or after an instant. -/
def firstTick (step fromUtcMs : Int) : Int :=
  -((-fromUtcMs) / step) * step

/-- `for (t = first; t < to; t += step)`. -/
def everyNMinutesWindows (n : Nat) (fromUtcMs toUtcMs : Int) : List FireWindow :=
  let step := n * minuteMs
  let first := firstTick step fromUtcMs
  let count := ((toUtcMs - first + step - 1) / step).toNat
  (List.range count).map fun index : Nat => everyNMinutesWindow n (first + index * step)

/-! ## Calendar schedules -/

/-- What `dailyAt` and `weeklyAt` fire on: a time of day, and the weekday if there is one. -/
structure CalendarTime where
  kind : JsString
  weekday : Option Nat
  hour : Nat
  minute : Nat
deriving DecidableEq

def considers (calendar : CalendarTime) (date : CivilDate) : Bool :=
  match calendar.weekday with
  | none => true
  | some weekday => civilWeekday date = weekday

def dateText (date : CivilDate) : JsString :=
  signedDecimal date.year ++ js "-" ++ padZero 2 date.month ++ js "-" ++ padZero 2 date.day

def timeText (calendar : CalendarTime) : JsString :=
  pad calendar.hour ++ js ":" ++ pad calendar.minute

def civilSlotText (calendar : CalendarTime) (zone : JsString) (date : CivilDate) : JsString :=
  zone ++ bar :: (dateText date ++ js "T" ++ timeText calendar)

def calendarWindowKey (calendar : CalendarTime) (zone : JsString) (date : CivilDate) : JsString :=
  calendar.kind ++ js "/" ++ timeText calendar ++ bar :: (zone ++ bar :: dateText date)

/-- The instant at which the slot of a civil date fires, unless a gap swallows it. -/
def slotInstant (intl : Intl) (calendar : CalendarTime) (zone : JsString)
    (policy : NonexistentTimePolicy) (date : CivilDate) : Option (Int × WindowNote) :=
  match resolveCivil intl ⟨date, calendar.hour, calendar.minute⟩ zone with
  | .unique instant => some (instant, .unique)
  | .fold first _ => some (first, .foldFirst)
  | .gap shifted =>
      match policy with
      | .shiftForward => some (shifted, .gapShifted)
      | .skip => none

/-- The window of a civil date, if the calendar considers the date and its slot fires. -/
def slotWindow (intl : Intl) (calendar : CalendarTime) (zone : JsString)
    (policy : NonexistentTimePolicy) (date : CivilDate) : Option FireWindow :=
  if considers calendar date then
    (slotInstant intl calendar zone policy date).map fun fire =>
      { fireWindowKey := calendarWindowKey calendar zone date
        fireAtUtcMs := fire.1
        civilSlot := civilSlotText calendar zone date
        note := fire.2 }
  else none

/-- The walk over `days` civil dates from `date`; no civil slot is taken twice. -/
def walkDates (slot : CivilDate → Option FireWindow) (fromUtcMs toUtcMs : Int) :
    Nat → CivilDate → List JsString → List FireWindow
  | 0, _, _ => []
  | days + 1, date, seenSlots =>
      match slot date with
      | none => walkDates slot fromUtcMs toUtcMs days (nextCivilDate date) seenSlots
      | some window =>
          if fromUtcMs ≤ window.fireAtUtcMs ∧ window.fireAtUtcMs < toUtcMs ∧
              window.civilSlot ∉ seenSlots then
            window :: walkDates slot fromUtcMs toUtcMs days (nextCivilDate date)
              (window.civilSlot :: seenSlots)
          else walkDates slot fromUtcMs toUtcMs days (nextCivilDate date) seenSlots

/-- The first civil date walked for an interval. -/
def walkStart (intl : Intl) (zone : JsString) (fromUtcMs : Int) : CivilDate :=
  civilDateInTz intl (fromUtcMs - 2 * dayMs) zone

/-- How many civil dates are walked for an interval. -/
def walkDays (fromUtcMs toUtcMs : Int) : Nat :=
  ((toUtcMs - fromUtcMs) / dayMs + 4).toNat

def calendarWindows (intl : Intl) (calendar : CalendarTime) (zone : JsString)
    (policy : NonexistentTimePolicy) (fromUtcMs toUtcMs : Int) : List FireWindow :=
  (walkDates (slotWindow intl calendar zone policy) fromUtcMs toUtcMs (walkDays fromUtcMs toUtcMs)
    (walkStart intl zone fromUtcMs) []).insertionSort (·.fireAtUtcMs ≤ ·.fireAtUtcMs)

def CalendarTime.dailyAt (hour minute : Nat) : CalendarTime :=
  ⟨js "dailyAt", none, hour, minute⟩

def CalendarTime.weeklyAt (weekday hour minute : Nat) : CalendarTime :=
  ⟨js "weeklyAt", some weekday, hour, minute⟩

/-- The fire windows due in `[fromUtcMs, toUtcMs)`. -/
def dueFireWindows {intl : Intl} (spec : ScheduleSpec intl) (fromUtcMs toUtcMs : Int) :
    List FireWindow :=
  if toUtcMs > fromUtcMs then
    match spec.calendar with
    | .everyNMinutes n _ => everyNMinutesWindows n fromUtcMs toUtcMs
    | .dailyAt hour minute _ =>
        calendarWindows intl (.dailyAt hour minute) spec.timezone
          spec.nonexistentTimePolicy fromUtcMs toUtcMs
    | .weeklyAt weekday hour minute _ =>
        calendarWindows intl (.weeklyAt weekday hour minute) spec.timezone
          spec.nonexistentTimePolicy fromUtcMs toUtcMs
  else []

/-! ## The shape of window keys -/

/-- A window key is an interval key, without bars, or a calendar key, with exactly two. -/
inductive WindowKeyShape : JsString → Prop
  | interval {rest : JsString} (barFree : bar ∉ js "everyNMinutes/" ++ rest) :
      WindowKeyShape (js "everyNMinutes/" ++ rest)
  | calendar {time zone date : JsString} (timeFree : bar ∉ time) (zoneFree : bar ∉ zone)
      (dateFree : ∀ unit ∈ date, unit = 45 ∨ IsDigitUnit unit) (dated : date ≠ []) :
      WindowKeyShape (time ++ bar :: (zone ++ bar :: date))

theorem not_digit_bar : ¬ IsDigitUnit bar := by
  unfold IsDigitUnit
  decide

theorem bar_not_mem_of_dateUnits {text : JsString} (units : ∀ unit ∈ text, unit = 45 ∨ IsDigitUnit unit) :
    bar ∉ text := by
  intro found
  rcases units bar found with minus | digit
  · exact absurd minus (by decide)
  · exact not_digit_bar digit

theorem bar_not_mem_pad (number : Nat) : bar ∉ pad number := fun found =>
  not_digit_bar (isDigit_of_mem_padStartZero found)

theorem padZero_units {width : Nat} {number : Int} {unit : UInt16} (found : unit ∈ padZero width number) :
    unit = 45 ∨ IsDigitUnit unit := by
  rcases List.mem_append.mp found with padding | digit
  · rw [(List.mem_replicate.mp padding).2]
    exact Or.inr (digitUnit_isDigit (by decide))
  · exact mem_signedDecimal digit

theorem dateText_units (date : CivilDate) : ∀ unit ∈ dateText date, unit = 45 ∨ IsDigitUnit unit := by
  intro unit found
  have hyphen : js "-" = [45] := by decide
  simp only [dateText, hyphen, List.mem_append, List.mem_singleton] at found
  rcases found with (((year | minus) | month) | minus) | day
  · exact mem_signedDecimal year
  · exact Or.inl minus
  · exact padZero_units month
  · exact Or.inl minus
  · exact padZero_units day

theorem dateText_ne_nil (date : CivilDate) : dateText date ≠ [] := by
  unfold dateText
  simp [signedDecimal_ne_nil]

theorem everyNMinutesWindow_shape (n : Nat) (instant : Int) :
    WindowKeyShape (everyNMinutesWindow n instant).fireWindowKey := by
  have shape : (everyNMinutesWindow n instant).fireWindowKey =
      js "everyNMinutes/" ++ (decimal n ++ (js "@" ++ signedDecimal instant)) := by
    simp [everyNMinutesWindow]
  rw [shape]
  refine .interval fun found => ?_
  rcases List.mem_append.mp found with label | found
  · exact absurd label (by decide)
  rcases List.mem_append.mp found with step | found
  · exact not_digit_bar (isDigit_of_mem_decimal step)
  rcases List.mem_append.mp found with mark | number
  · exact absurd mark (by decide)
  · exact bar_not_mem_of_dateUnits (fun _ member => mem_signedDecimal member) number

theorem slotWindow_shape {intl : Intl} {calendar : CalendarTime} {zone : JsString}
    {policy : NonexistentTimePolicy} {date : CivilDate} {window : FireWindow}
    (kindFree : bar ∉ calendar.kind) (zoneFree : bar ∉ zone)
    (found : slotWindow intl calendar zone policy date = some window) :
    WindowKeyShape window.fireWindowKey := by
  unfold slotWindow at found
  split at found
  · obtain ⟨fire, -, rfl⟩ := Option.map_eq_some_iff.mp found
    refine .calendar ?_ zoneFree (dateText_units date) (dateText_ne_nil date)
    have slash : bar ∉ js "/" := by decide
    have colon : bar ∉ js ":" := by decide
    simp [timeText, kindFree, slash, colon, bar_not_mem_pad]
  · cases found

theorem mem_walkDates {slot : CivilDate → Option FireWindow} {fromUtcMs toUtcMs : Int} {days : Nat}
    {date : CivilDate} {seenSlots : List JsString} {window : FireWindow}
    (found : window ∈ walkDates slot fromUtcMs toUtcMs days date seenSlots) :
    ∃ other, slot other = some window := by
  induction days generalizing date seenSlots with
  | zero => cases found
  | succ days ih =>
      unfold walkDates at found
      cases here : slot date with
      | none =>
          rw [here] at found
          exact ih found
      | some current =>
          simp only [here] at found
          split at found
          · rcases List.mem_cons.mp found with head | tail
            · exact ⟨date, head ▸ here⟩
            · exact ih tail
          · exact ih found

theorem mem_calendarWindows {intl : Intl} {calendar : CalendarTime} {zone : JsString}
    {policy : NonexistentTimePolicy} {fromUtcMs toUtcMs : Int} {window : FireWindow}
    (found : window ∈ calendarWindows intl calendar zone policy fromUtcMs toUtcMs) :
    ∃ date, slotWindow intl calendar zone policy date = some window :=
  mem_walkDates ((List.mem_insertionSort _).mp found)

/-- Every key that the enumeration produces has the shape of a window key. -/
theorem dueFireWindows_shape {intl : Intl} {spec : ScheduleSpec intl} {fromUtcMs toUtcMs : Int}
    {window : FireWindow} (found : window ∈ dueFireWindows spec fromUtcMs toUtcMs) :
    WindowKeyShape window.fireWindowKey := by
  have zoneFree : bar ∉ spec.timezone := by
    have valid := spec.timezoneValid
    simp only [isValidTimeZone, Bool.and_eq_true] at valid
    exact intl.barFree _ valid.2
  have dailyFree : bar ∉ js "dailyAt" := by decide
  have weeklyFree : bar ∉ js "weeklyAt" := by decide
  unfold dueFireWindows at found
  split at found
  · split at found
    · obtain ⟨index, -, rfl⟩ := List.mem_map.mp found
      exact everyNMinutesWindow_shape _ _
    · obtain ⟨date, slot⟩ := mem_calendarWindows found
      exact slotWindow_shape dailyFree zoneFree slot
    · obtain ⟨date, slot⟩ := mem_calendarWindows found
      exact slotWindow_shape weeklyFree zoneFree slot
  · cases found

/-- Two window keys behind arbitrary versions agree only if versions and keys do. -/
theorem windowKey_split {version version' key key' : JsString} (shape : WindowKeyShape key)
    (shape' : WindowKeyShape key') (same : version ++ bar :: key = version' ++ bar :: key') :
    version = version' ∧ key = key' := by
  -- a date never starts like an interval key
  have apart : ∀ {rest date : JsString}, (∀ unit ∈ date, unit = 45 ∨ IsDigitUnit unit) →
      js "everyNMinutes/" ++ rest ≠ date := by
    intro rest date units equal
    have first : (101 : UInt16) ∈ date := by
      rw [← equal]
      exact List.mem_append_left _ (by decide)
    rcases units 101 first with minus | digit
    · exact absurd minus (by decide)
    · exact absurd digit.2 (by decide)
  cases shape with
  | @interval rest barFree =>
      cases shape' with
      | @interval rest' barFree' => exact split_at_last barFree barFree' same
      | @calendar time' zone' date' timeFree' zoneFree' dateFree' dated' =>
          have regrouped : version ++ bar :: (js "everyNMinutes/" ++ rest) =
              (version' ++ bar :: (time' ++ bar :: zone')) ++ bar :: date' := by
            simpa using same
          exact absurd (split_at_last barFree (bar_not_mem_of_dateUnits dateFree') regrouped).2
            (apart dateFree')
  | @calendar time zone date timeFree zoneFree dateFree dated =>
      cases shape' with
      | @interval rest' barFree' =>
          have regrouped : version' ++ bar :: (js "everyNMinutes/" ++ rest') =
              (version ++ bar :: (time ++ bar :: zone)) ++ bar :: date := by
            simpa using same.symm
          exact absurd (split_at_last barFree' (bar_not_mem_of_dateUnits dateFree) regrouped).2
            (apart dateFree)
      | @calendar time' zone' date' timeFree' zoneFree' dateFree' dated' =>
          have regrouped : ((version ++ bar :: time) ++ bar :: zone) ++ bar :: date =
              ((version' ++ bar :: time') ++ bar :: zone') ++ bar :: date' := by
            simpa using same
          obtain ⟨front, dates⟩ := split_at_last (bar_not_mem_of_dateUnits dateFree)
            (bar_not_mem_of_dateUnits dateFree') regrouped
          obtain ⟨front, zones⟩ := split_at_last zoneFree zoneFree' front
          obtain ⟨versions, times⟩ := split_at_last timeFree timeFree' front
          exact ⟨versions, by rw [times, zones, dates]⟩

/-- The idempotency key determines the logical fire. -/
theorem FireName.key_inj {name name' : FireName} (shape : WindowKeyShape name.fireWindowKey)
    (shape' : WindowKeyShape name'.fireWindowKey) (same : name.key = name'.key) : name = name' := by
  obtain ⟨scheduleId, version, key⟩ := name
  obtain ⟨scheduleId', version', key'⟩ := name'
  obtain ⟨ids, rest⟩ := split_at_first scheduleId.bar_not_mem scheduleId'.bar_not_mem same
  obtain ⟨versions, keys⟩ := windowKey_split shape shape' rest
  simp only [FireName.mk.injEq]
  exact ⟨Contracts.Common.Id.ext ids, versions, keys⟩

theorem FireName.key_ne_nil (name : FireName) : name.key ≠ [] := by
  simp [FireName.key]

end KernelJson.Scheduler.FireWindows
