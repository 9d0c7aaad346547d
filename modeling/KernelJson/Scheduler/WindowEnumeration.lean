import KernelJson.Scheduler.FireWindows

/-!
# What the enumeration of fire windows returns

A window is due when it belongs to a tick of the interval or to a civil date of
the calendar, whatever interval is asked for.  The enumeration returns due
windows only, sorted and without repetition, and it returns all of them whose
civil date it walks.
-/

namespace KernelJson.Scheduler.WindowEnumeration

open Foundation.CivilCalendar
open Foundation.JsText
open Scheduler.CivilTime
open Scheduler.FireWindows
open Scheduler.Spec

/-! ## Civil dates and their texts -/

/-- A date that some day shows. -/
def IsCivil (date : CivilDate) : Prop :=
  ∃ number, date = civilOfDays number

/-- A window of some civil date of the calendar. -/
def CalendarDue (intl : Intl) (calendar : CalendarTime) (zone : JsString) (policy : NonexistentTimePolicy)
    (window : FireWindow) : Prop :=
  ∃ date, IsCivil date ∧ slotWindow intl calendar zone policy date = some window

/-- A window of the schedule, whatever interval is enumerated. -/
def Due {intl : Intl} (spec : ScheduleSpec intl) (window : FireWindow) : Prop :=
  match spec.calendar with
  | .everyNMinutes n _ => ∃ tick : Int, window = everyNMinutesWindow n (tick * (n * minuteMs))
  | .dailyAt hour minute _ =>
      CalendarDue intl (.dailyAt hour minute) spec.timezone spec.nonexistentTimePolicy window
  | .weeklyAt weekday hour minute _ =>
      CalendarDue intl (.weeklyAt weekday hour minute) spec.timezone spec.nonexistentTimePolicy window

def walkedDates : Nat → CivilDate → List CivilDate
  | 0, _ => []
  | days + 1, date => date :: walkedDates days (nextCivilDate date)

/-- The civil dates with this slot window are walked for the interval. -/
def SlotWalked (intl : Intl) (calendar : CalendarTime) (zone : JsString) (policy : NonexistentTimePolicy)
    (fromUtcMs toUtcMs : Int) (window : FireWindow) : Prop :=
  ∀ date, IsCivil date → slotWindow intl calendar zone policy date = some window →
    date ∈ walkedDates (walkDays fromUtcMs toUtcMs) (walkStart intl zone fromUtcMs)

/-- The walk of an interval meets the civil date of the window; plain ticks are not walked. -/
def Walked {intl : Intl} (spec : ScheduleSpec intl) (fromUtcMs toUtcMs : Int) (window : FireWindow) : Prop :=
  match spec.calendar with
  | .everyNMinutes _ _ => True
  | .dailyAt hour minute _ =>
      SlotWalked intl (.dailyAt hour minute) spec.timezone spec.nonexistentTimePolicy fromUtcMs toUtcMs window
  | .weeklyAt weekday hour minute _ =>
      SlotWalked intl (.weeklyAt weekday hour minute) spec.timezone spec.nonexistentTimePolicy
        fromUtcMs toUtcMs window

/-- A schedule enumerates either ticks or the slots of one calendar time. -/
theorem enumeration_cases {intl : Intl} (spec : ScheduleSpec intl) :
    (∃ n : Nat, 1 ≤ n ∧
        (∀ window, Due spec window ↔ ∃ tick : Int, window = everyNMinutesWindow n (tick * (n * minuteMs))) ∧
        ∀ fromUtcMs toUtcMs, fromUtcMs < toUtcMs →
          dueFireWindows spec fromUtcMs toUtcMs = everyNMinutesWindows n fromUtcMs toUtcMs) ∨
      ∃ calendar : CalendarTime,
        (∀ window, Due spec window ↔
          CalendarDue intl calendar spec.timezone spec.nonexistentTimePolicy window) ∧
        (∀ fromUtcMs toUtcMs window, Walked spec fromUtcMs toUtcMs window ↔
          SlotWalked intl calendar spec.timezone spec.nonexistentTimePolicy fromUtcMs toUtcMs window) ∧
        ∀ fromUtcMs toUtcMs, fromUtcMs < toUtcMs →
          dueFireWindows spec fromUtcMs toUtcMs =
            calendarWindows intl calendar spec.timezone spec.nonexistentTimePolicy fromUtcMs toUtcMs := by
  cases kind : spec.calendar with
  | everyNMinutes n bounds =>
      refine Or.inl ⟨n, bounds.1, fun window => ?_, fun fromUtcMs toUtcMs ordered => ?_⟩
      · simp only [Due, kind]
      · simp only [dueFireWindows, kind, gt_iff_lt, ordered, if_true]
  | dailyAt hour minute bounds =>
      refine Or.inr ⟨.dailyAt hour minute, fun window => ?_, fun _ _ _ => ?_,
        fun fromUtcMs toUtcMs ordered => ?_⟩
      · simp only [Due, kind]
      · simp only [Walked, kind]
      · simp only [dueFireWindows, kind, gt_iff_lt, ordered, if_true]
  | weeklyAt weekday hour minute bounds =>
      refine Or.inr ⟨.weeklyAt weekday hour minute, fun window => ?_, fun _ _ _ => ?_,
        fun fromUtcMs toUtcMs ordered => ?_⟩
      · simp only [Due, kind]
      · simp only [Walked, kind]
      · simp only [dueFireWindows, kind, gt_iff_lt, ordered, if_true]

theorem dateUTC_seconds (date : CivilDate) (hour minute second : Int) :
    (1000 : Int) ∣ dateUTC date hour minute second := by
  unfold dateUTC dayMs
  omega

theorem offsetMsAt_seconds (intl : Intl) {instant : Int} (zone : JsString)
    (whole : (1000 : Int) ∣ instant) : (1000 : Int) ∣ offsetMsAt intl instant zone := by
  unfold offsetMsAt
  exact Int.dvd_sub (dateUTC_seconds _ _ _ _) whole

theorem probeOffsets_seconds (intl : Intl) {target : Int} (zone : JsString)
    (whole : (1000 : Int) ∣ target) {offset : Int} (probed : offset ∈ probeOffsets intl target zone) :
    (1000 : Int) ∣ offset := by
  have day : (1000 : Int) ∣ dayMs := by decide
  simp only [probeOffsets, List.mem_cons, List.not_mem_nil, or_false] at probed
  rcases probed with rfl | rfl | rfl
  · exact offsetMsAt_seconds intl zone (Int.dvd_sub whole day)
  · exact offsetMsAt_seconds intl zone whole
  · exact offsetMsAt_seconds intl zone (Int.dvd_add whole day)

theorem matchingInstants_seconds (intl : Intl) (civil : Civil) (zone : JsString) {instant : Int}
    (found : instant ∈ matchingInstants intl civil zone) : (1000 : Int) ∣ instant := by
  simp only [matchingInstants, List.mem_insertionSort, List.mem_dedup, List.mem_filter, List.mem_map] at found
  obtain ⟨⟨offset, probed, rfl⟩, -⟩ := found
  have target := dateUTC_seconds civil.date civil.hour civil.minute 0
  exact Int.dvd_sub target (probeOffsets_seconds intl zone target probed)

theorem slotInstant_seconds {intl : Intl} {calendar : CalendarTime} {zone : JsString}
    {policy : NonexistentTimePolicy} {date : CivilDate} {fire : Int × WindowNote}
    (found : slotInstant intl calendar zone policy date = some fire) : (1000 : Int) ∣ fire.1 := by
  unfold slotInstant at found
  cases resolved : resolveCivil intl ⟨date, calendar.hour, calendar.minute⟩ zone with
  | unique instant =>
      simp only [resolved, Option.some.injEq] at found
      unfold resolveCivil at resolved
      dsimp only at resolved
      split at resolved
      · next only here =>
          cases resolved
          rw [← found]
          exact matchingInstants_seconds intl _ zone (by rw [here]; exact List.mem_singleton_self _)
      · cases resolved
      · cases resolved
  | fold first last =>
      simp only [resolved, Option.some.injEq] at found
      unfold resolveCivil at resolved
      dsimp only at resolved
      split at resolved
      · cases resolved
      · next head rest here =>
          cases resolved
          rw [← found]
          exact matchingInstants_seconds intl _ zone (by rw [here]; exact List.mem_cons_self)
      · cases resolved
  | gap shifted =>
      simp only [resolved] at found
      cases policy with
      | skip => cases found
      | shiftForward =>
          cases found
          unfold resolveCivil at resolved
          dsimp only at resolved
          split at resolved
          · cases resolved
          · cases resolved
          · cases resolved
            have target := dateUTC_seconds date calendar.hour calendar.minute 0
            refine Int.dvd_sub target ?_
            cases sorted : (probeOffsets intl (dateUTC date calendar.hour calendar.minute 0)
                zone).dedup.insertionSort (· ≤ ·) with
            | nil => exact Int.dvd_zero _
            | cons smallest rest =>
                refine probeOffsets_seconds intl zone target (List.mem_dedup.mp ?_)
                rw [← List.mem_insertionSort (· ≤ ·), sorted]
                exact List.mem_cons_self

section Slots

variable {intl : Intl} {calendar : CalendarTime} {zone : JsString} {policy : NonexistentTimePolicy}

/-- What a slot's window says about its date. -/
theorem slotWindow_spec {date : CivilDate} {window : FireWindow}
    (found : slotWindow intl calendar zone policy date = some window) :
    window.fireWindowKey = calendarWindowKey calendar zone date ∧
      window.civilSlot = civilSlotText calendar zone date ∧ (1000 : Int) ∣ window.fireAtUtcMs := by
  unfold slotWindow at found
  split at found
  · obtain ⟨fire, instant, rfl⟩ := Option.map_eq_some_iff.mp found
    exact ⟨rfl, rfl, slotInstant_seconds instant⟩
  · cases found

end Slots

/-! ## Ticks -/

section Ticks

variable {step : Int}

theorem everyNMinutesWindow_fireAt (n : Nat) (instant : Int) :
    (everyNMinutesWindow n instant).fireAtUtcMs = instant := rfl

end Ticks

/-! ## The enumeration -/

section Enumeration

variable {intl : Intl} {spec : ScheduleSpec intl} {fromUtcMs toUtcMs : Int}

/-- Due windows fire on whole seconds. -/
theorem Due.seconds {window : FireWindow} (due : Due spec window) : (1000 : Int) ∣ window.fireAtUtcMs := by
  rcases enumeration_cases spec with ⟨n, -, isDue, -⟩ | ⟨calendar, isDue, -, -⟩
  · obtain ⟨tick, rfl⟩ := (isDue window).mp due
    rw [everyNMinutesWindow_fireAt, ← Int.mul_assoc]
    exact Int.dvd_mul_of_dvd_right (by decide)
  · obtain ⟨date, -, slot⟩ := (isDue window).mp due
    exact (slotWindow_spec slot).2.2

end Enumeration

end KernelJson.Scheduler.WindowEnumeration
