import KernelJson.Mission.Brief
import KernelJson.Scheduler.CivilTime

/-!
# The message of a brief

What the owner receives once a brief is accepted.  Items are dropped from the
end until the escaped text fits, and the foot of the message says how many.
A message without any item always fits, so the loop always finds one.
-/

namespace KernelJson.Mission.BriefMessage

open Contracts.Brief
open Contracts.Common
open Contracts.Github
open Contracts.Platform
open Foundation
open Foundation.CivilCalendar
open Foundation.JsText
open Mission.Brief
open Scheduler.CivilTime

/-! ## MarkdownV2 -/

/-- `TELEGRAM_MARKDOWN_V2_SPECIAL`. -/
def markdownV2Special : JsString :=
  js "_*[]()~`>#+-=|\x7b\x7d.!\\"

def escapeTelegramMarkdownV2 (text : JsString) : JsString :=
  text.flatMap fun unit => if unit ∈ markdownV2Special then [92, unit] else [unit]

theorem escape_cons (unit : UInt16) (text : JsString) :
    escapeTelegramMarkdownV2 (unit :: text) =
      (if unit ∈ markdownV2Special then [92, unit] else [unit]) ++ escapeTelegramMarkdownV2 text :=
  rfl

/-- Escaping at most doubles a text. -/
theorem length_escape_le (text : JsString) : (escapeTelegramMarkdownV2 text).length ≤ 2 * text.length := by
  induction text with
  | nil => exact Nat.le_refl _
  | cons unit rest ih =>
      rw [escape_cons, List.length_append, List.length_cons]
      split
      · rw [List.length_cons, List.length_singleton]
        omega
      · rw [List.length_singleton]
        omega

/-! ## The date -/

def shortWeekday (weekday : Int) : JsString :=
  match weekday.toNat with
  | 0 => js "Sun"
  | 1 => js "Mon"
  | 2 => js "Tue"
  | 3 => js "Wed"
  | 4 => js "Thu"
  | 5 => js "Fri"
  | _ => js "Sat"

/-- The year of its era; the year before the year 1 is again a year 1. -/
def eraYear (year : Int) : Nat :=
  if 0 < year then year.toNat else (1 - year).toNat

/-- `UK_DATE.format(date).replace(",", "")`. -/
def ukDate (intl : Intl) (instant : Int) : JsString :=
  let date := (wallParts intl instant (js "Europe/London")).date
  (shortWeekday (weekdayOfDays (daysOfCivil date)) ++ js ", " ++ padZero 2 date.day ++ js "/" ++
    padZero 2 date.month ++ js "/" ++ decimal (eraYear date.year)).erase 44

/-! ## The text -/

/-- `BRIEF_MESSAGE_LIMIT`. -/
def briefMessageLimit : Nat := 3800

/-- The identifier of the task, the repositories of the facts, and who reviewed the brief. -/
structure BriefMessageArgs where
  taskId : Id
  activeRepos : { count : Nat // count ≤ 25 }
  reviewerModel : BoundedText 0 256
  withheldItems : WithheldItems

/-- The items that are not withheld, in their order. -/
def keptItems (brief : BriefAnalysis) (withheldItems : WithheldItems) : List BriefItem :=
  (brief.items.val.zipIdx.filter fun entry => decide ((entry.2 : Int) ∉ withheldItems.val.map Subtype.val)).map
    Prod.fst

def pluralS (count : Nat) : JsString :=
  if count = 1 then [] else js "s"

def moreLine (taskId : Id) (dropped : Nat) : JsString :=
  js "(" ++ decimal dropped ++ js " more item" ++ pluralS dropped ++ js ": /task " ++ taskId.text ++ js ")"

def withheldLine (withheld : Nat) : JsString :=
  decimal withheld ++ js " item" ++ pluralS withheld ++ js " withheld: the reviewer found " ++
    (if withheld = 1 then js "it" else js "them") ++ js " unsupported."

def reviewLine (args : BriefMessageArgs) : JsString :=
  decimal args.activeRepos.val ++ js " active repo" ++ pluralS args.activeRepos.val ++ js "; reviewed by " ++
    args.reviewerModel.val ++ js ". Task " ++ args.taskId.text.take 8

/-- `foot(dropped)`: how many items were dropped and withheld, and who reviewed the rest. -/
def foot (args : BriefMessageArgs) (dropped : Nat) : JsString :=
  let withheld := args.withheldItems.val.dedup.length
  [10].intercalate
    ((if 0 < dropped then [moreLine args.taskId dropped] else []) ++
      (if 0 < withheld then [withheldLine withheld] else []) ++ [reviewLine args])

def numbered (items : List BriefItem) : List JsString :=
  items.mapIdx fun index item =>
    decimal (index + 1) ++ js ". " ++ item.title.text ++ [10] ++ item.detail.text

def dateLine (intl : Intl) (instant : Int) : JsString :=
  js "Morning brief, " ++ ukDate intl instant

/-- The message with the first `shown` of the kept items. -/
def messageText (intl : Intl) (brief : BriefAnalysis) (args : BriefMessageArgs) (instant : Int) (shown : Nat) :
    JsString :=
  let kept := keptItems brief args.withheldItems
  [10, 10].intercalate
    ([dateLine intl instant, briefHeadline brief args.withheldItems] ++ numbered (kept.take shown) ++
      [foot args (kept.length - shown)])

def Fits (text : JsString) : Prop :=
  (escapeTelegramMarkdownV2 text).length ≤ briefMessageLimit

instance (text : JsString) : Decidable (Fits text) :=
  inferInstanceAs (Decidable (_ ≤ _))

/-- The loop over the number of items, downwards. -/
def longestFitting (text : Nat → JsString) (fallback : JsString) : Nat → JsString
  | 0 => if Fits (text 0) then text 0 else fallback
  | shown + 1 => if Fits (text (shown + 1)) then text (shown + 1) else longestFitting text fallback shown

/-- `briefMessage(brief, args)`, or `none` where the date is not one. -/
def briefMessage (intl : Intl) (brief : BriefAnalysis) (args : BriefMessageArgs) : Option JsString := do
  let instant ← dateParse brief.windowEnd.val
  let kept := keptItems brief args.withheldItems
  some (longestFitting (messageText intl brief args instant)
    ([10, 10].intercalate [dateLine intl instant, foot args kept.length]) kept.length)

/-! ## The end of the window -/

theorem foldDigits_lt {digits : JsString} (all : digits.all isDigitUnit = true) (total : Nat) :
    digits.foldl (fun total unit => total * 10 + (unit.toNat - 48)) total < (total + 1) * 10 ^ digits.length := by
  induction digits generalizing total with
  | nil =>
      rw [List.foldl_nil, List.length_nil]
      omega
  | cons unit rest ih =>
      rw [List.all_cons, Bool.and_eq_true] at all
      have digit : unit.toNat - 48 < 10 := by
        have bounds := all.1
        simp only [isDigitUnit, Bool.and_eq_true, decide_eq_true_eq] at bounds
        omega
      rw [List.foldl_cons, List.length_cons]
      calc _ < (total * 10 + (unit.toNat - 48) + 1) * 10 ^ rest.length := ih all.2 _
        _ ≤ ((total + 1) * 10) * 10 ^ rest.length := Nat.mul_le_mul_right _ (by omega)
        _ = (total + 1) * 10 ^ (rest.length + 1) := by ring

theorem fixedDigits_lt {count number : Nat} {text rest : JsString}
    (read : fixedDigits count text = some (number, rest)) :
    number < 10 ^ count := by
  unfold fixedDigits at read
  dsimp only at read
  split at read
  · next digits =>
      obtain ⟨length, all⟩ := digits
      cases read
      have bound := foldDigits_lt all 0
      rw [length] at bound
      omega
  · cases read

/-- A fraction with any digit gives three digits once it is padded. -/
theorem fixedDigits_fraction {digits : JsString} (some_ : digits ≠ []) (all : digits.all isDigitUnit = true) :
    ∃ number rest, fixedDigits 3 ((digits ++ js "00").take 3) = some (number, rest) := by
  have long : 3 ≤ (digits ++ js "00").length := by
    rw [List.length_append]
    have one := List.length_pos_iff.mpr some_
    have two : (js "00").length = 2 := by decide
    omega
  have length : (((digits ++ js "00").take 3).take 3).length = 3 := by
    rw [List.take_take, List.length_take]
    omega
  have every : (((digits ++ js "00").take 3).take 3).all isDigitUnit = true := by
    rw [List.all_eq_true]
    intro unit member
    have inside := List.mem_of_mem_take (List.mem_of_mem_take member)
    rw [List.mem_append] at inside
    rcases inside with given | padded
    · exact List.all_eq_true.mp all unit given
    · exact List.all_eq_true.mp (by decide : (js "00").all isDigitUnit = true) unit padded
  exact ⟨_, _, if_pos ⟨length, every⟩⟩

theorem readSeconds_of_dropSeconds {text rest : JsString} (dropped : dropSeconds text = some rest) :
    ∃ second millisecond, readSeconds text = some (second, millisecond, rest) ∧ second ≤ 59 ∧
      millisecond < 1000 := by
  unfold dropSeconds at dropped
  unfold readSeconds
  cases colon : dropUnit 58 text with
  | none =>
      rw [colon] at dropped
      cases dropped
      exact ⟨0, 0, rfl, by decide, by decide⟩
  | some seconds =>
      simp only [colon, Option.bind_eq_bind, Option.bind_eq_some_iff] at dropped
      obtain ⟨⟨second, after⟩, read, dropped⟩ := dropped
      dsimp only at dropped
      split at dropped
      · cases dropped
      · next small =>
          simp only [read, Option.bind_eq_bind, Option.bind_some]
          cases point : dropUnit 46 after with
          | none =>
              rw [point] at dropped
              cases dropped
              exact ⟨second, 0, rfl, by omega, by decide⟩
          | some fraction =>
              rw [point] at dropped
              dsimp only at dropped
              split at dropped
              · cases dropped
              · next digits =>
                  cases dropped
                  have all : (fraction.takeWhile isDigitUnit).all isDigitUnit = true :=
                    List.all_eq_true.mpr fun unit member => List.mem_takeWhile_imp member
                  obtain ⟨number, left, three⟩ := fixedDigits_fraction digits all
                  refine ⟨second, number, ?_, by omega, fixedDigits_lt three⟩
                  dsimp only
                  rw [three]
                  rfl

theorem clock_of_dropClock {text rest : JsString} (dropped : dropClock text = some rest) :
    ∃ hour after minutes minute, fixedDigits 2 text = some (hour, after) ∧ dropUnit 58 after = some minutes ∧
      fixedDigits 2 minutes = some (minute, rest) ∧ hour ≤ 23 ∧ minute ≤ 59 := by
  simp only [dropClock, Option.bind_eq_bind, Option.bind_eq_some_iff] at dropped
  obtain ⟨⟨hour, after⟩, hours, minutes, colon, ⟨minute, left⟩, read, dropped⟩ := dropped
  dsimp only at dropped
  split at dropped
  · next bounds =>
      cases dropped
      exact ⟨hour, after, minutes, minute, hours, colon, read, bounds⟩
  · cases dropped

theorem readZone_of_isZone {text : JsString} (zone : isZone text = true) :
    ∃ offset, readZone text = some offset ∧ -1440 < offset ∧ offset < 1440 := by
  unfold readZone
  by_cases utc : text = js "Z"
  · exact ⟨0, if_pos utc, by decide, by decide⟩
  · simp only [isZone, Bool.or_eq_true, Bool.and_eq_true, beq_iff_eq, utc, false_or] at zone
    obtain ⟨hour, after, minutes, minute, hours, colon, read, hourBound, minuteBound⟩ :=
      clock_of_dropClock zone.2
    rw [if_neg utc]
    simp only [hours, colon, read, Option.bind_eq_bind, Option.bind_some]
    refine ⟨_, rfl, ?_⟩
    split <;> omega

/-- The days of the years that four digits can write. -/
theorem daysOfCivil_bounds {year month day : Nat} (years : year < 10000) (months : 1 ≤ month ∧ month ≤ 12)
    (days : 1 ≤ day ∧ day ≤ 31) :
    -1000000 < daysOfCivil ⟨year, month, day⟩ ∧ daysOfCivil ⟨year, month, day⟩ < 4000000 := by
  simp only [daysOfCivil, daysBeforeMarch, daysBeforeYear, daysBeforeMonth, shiftMonth, daysPerEra, epochShift]
  split <;> split <;> omega

theorem daysInMonth_le (year month : Nat) : daysInMonth year month ≤ 31 := by
  unfold daysInMonth
  split
  · split <;> decide
  · split <;> decide

/-- Every timestamp has an instant, and it lies within fifteen digits of the epoch. -/
theorem dateParse_of_isTimestampText {text : JsString} (timestamp : isTimestampText text = true) :
    ∃ instant, dateParse text = some instant ∧ -1000000000000000 < instant ∧ instant < 1000000000000000 := by
  simp only [isTimestampText, Option.any_eq_true, Option.bind_eq_some_iff] at timestamp
  obtain ⟨zoneText, ⟨afterDate, date, clock, separator, seconds, clocked, secondsDropped⟩, zone⟩ := timestamp
  simp only [dropDate, Option.bind_eq_bind, Option.bind_eq_some_iff] at date
  obtain ⟨⟨year, afterYear⟩, yearRead, monthText, firstDash, ⟨month, afterMonth⟩, monthRead, dayText, secondDash,
    ⟨day, afterDay⟩, dayRead, bounded⟩ := date
  dsimp only at bounded
  split at bounded
  · next bounds =>
      cases bounded
      obtain ⟨hour, afterHour, minuteText, minute, hourRead, colon, minuteRead, hourBound, minuteBound⟩ :=
        clock_of_dropClock clocked
      obtain ⟨second, millisecond, secondsRead, secondBound, millisecondBound⟩ :=
        readSeconds_of_dropSeconds secondsDropped
      obtain ⟨offset, zoneRead, lower, upper⟩ := readZone_of_isZone zone
      have days := daysOfCivil_bounds (fixedDigits_lt yearRead) ⟨bounds.1, bounds.2.1⟩
        ⟨bounds.2.2.1, bounds.2.2.2.trans (daysInMonth_le year month)⟩
      refine ⟨(((daysOfCivil ⟨year, month, day⟩ * 24 + hour) * 60 + minute - offset) * 60 + second) * 1000 +
        millisecond, ?_, by omega, by omega⟩
      simp only [dateParse, yearRead, firstDash, monthRead, secondDash, dayRead, separator, hourRead, colon,
        minuteRead, secondsRead, zoneRead, Option.bind_eq_bind, Option.bind_some]
  · cases bounded

/-- The year of an instant that fifteen digits can write. -/
theorem year_bounds {number : Int} (lower : -20000000 < number) (upper : number < 20000000) :
    -100000 < (civilOfDays number).year ∧ (civilOfDays number).year < 100000 := by
  have back := daysOfCivil_civilOfDays number
  obtain ⟨⟨monthLower, monthUpper⟩, dayLower, dayUpper⟩ := civilOfDays_bounds number
  simp only [daysOfCivil, daysBeforeMarch, daysBeforeYear, daysBeforeMonth, shiftMonth, daysPerEra,
    epochShift] at back
  split at back <;> split at back <;> omega

/-! ## Lengths -/

theorem length_intercalate_le (separator : JsString) (lines : List JsString) :
    (separator.intercalate lines).length ≤ (lines.map fun line => line.length + separator.length).sum := by
  induction lines with
  | nil => exact Nat.zero_le _
  | cons line rest ih =>
      cases rest with
      | nil =>
          rw [List.intercalate_singleton]
          exact (Nat.le_add_right _ _).trans (Nat.le_add_right _ _)
      | cons next rest =>
          rw [List.intercalate_cons_cons, List.length_append, List.length_append, List.map_cons, List.sum_cons]
          omega

theorem infix_intercalate {separator line : JsString} {lines : List JsString} (member : line ∈ lines) :
    line <:+: separator.intercalate lines := by
  induction lines with
  | nil => cases member
  | cons first rest ih =>
      cases rest with
      | nil =>
          rw [List.mem_singleton.mp member, List.intercalate_singleton]
      | cons next rest =>
          rw [List.intercalate_cons_cons]
          rcases List.mem_cons.mp member with rfl | later
          · exact ((List.prefix_append _ _).trans (List.prefix_append _ _)).isInfix
          · exact (ih later).trans (List.suffix_append _ _).isInfix

theorem length_signedDecimal_le {number : Int} (lower : -100 < number) (upper : number < 100) :
    (signedDecimal number).length ≤ 3 := by
  cases number with
  | ofNat magnitude =>
      rw [Int.ofNat_eq_natCast] at upper
      have small := @length_decimal_le magnitude 2 (by decide) (by omega)
      exact small.trans (by decide)
  | negSucc magnitude =>
      have small := @length_decimal_le (magnitude + 1) 2 (by decide) (by omega)
      exact Nat.succ_le_succ small

theorem length_padZero_le {number : Int} (lower : 0 ≤ number) (upper : number < 100) :
    (padZero 2 number).length ≤ 2 := by
  obtain ⟨number, rfl⟩ := Int.eq_ofNat_of_zero_le lower
  have small := @length_decimal_le number 2 (by decide) (by omega)
  rw [padZero_natCast, padStartZero, List.length_append, List.length_replicate]
  omega

theorem length_shortWeekday_le (weekday : Int) : (shortWeekday weekday).length ≤ 6 := by
  unfold shortWeekday
  split
  all_goals exact length_js_ofList_le _ (by decide)

theorem length_ukDate_le (intl : Intl) {instant : Int} (lower : -1000000000000000 < instant)
    (upper : instant < 1000000000000000) : (ukDate intl instant).length ≤ 30 := by
  unfold ukDate
  refine List.length_erase_le.trans ?_
  have offset := intl.bounded (js "Europe/London") instant
  unfold maxOffsetMs at offset
  have wall : (wallParts intl instant (js "Europe/London")).date =
      civilOfDays ((instant + intl.offsetMs (js "Europe/London") instant) / 1000 / 86400) := rfl
  rw [wall]
  obtain ⟨yearLower, yearUpper⟩ := @year_bounds
    ((instant + intl.offsetMs (js "Europe/London") instant) / 1000 / 86400) (by omega) (by omega)
  generalize (instant + intl.offsetMs (js "Europe/London") instant) / 1000 / 86400 = number at *
  obtain ⟨⟨monthLower, monthUpper⟩, dayLower, dayUpper⟩ := civilOfDays_bounds number
  have year : (decimal (eraYear (civilOfDays number).year)).length ≤ 6 := by
    refine length_decimal_le (by decide) ?_
    unfold eraYear
    split <;> omega
  have weekday := length_shortWeekday_le (weekdayOfDays (daysOfCivil (civilOfDays number)))
  have day := @length_padZero_le (civilOfDays number).day (by omega) (by omega)
  have month := @length_padZero_le (civilOfDays number).month (by omega) (by omega)
  have comma : (js ", ").length ≤ 4 := length_js_ofList_le _ (by decide)
  have slash : (js "/").length ≤ 2 := length_js_ofList_le _ (by decide)
  simp only [List.length_append]
  omega

theorem length_dateLine_le (intl : Intl) {instant : Int} (lower : -1000000000000000 < instant)
    (upper : instant < 1000000000000000) : (dateLine intl instant).length ≤ 60 := by
  have lead : (js "Morning brief, ").length ≤ 30 := length_js_ofList_le _ (by decide)
  have date := length_ukDate_le intl lower upper
  rw [dateLine, List.length_append]
  omega

theorem length_briefHeadline_le (brief : BriefAnalysis) (withheldItems : WithheldItems) :
    (briefHeadline brief withheldItems).length ≤ 300 := by
  unfold briefHeadline
  dsimp only
  split
  · have bounded := brief.headline.bounded
    simp only [lengthWithin, Bool.and_eq_true, decide_eq_true_eq] at bounded
    exact bounded.2
  · have most : withheldItems.val.dedup.length ≤ 12 :=
      (List.dedup_sublist _).length_le.trans withheldItems.property
    have items := brief.items.property.2
    have kept := @length_signedDecimal_le ((brief.items.val.length : Int) - withheldItems.val.dedup.length)
      (by omega) (by omega)
    have all := @length_decimal_le brief.items.val.length 2 (by decide) (by omega)
    have of : (js " of ").length ≤ 8 := length_js_ofList_le _ (by decide)
    have passed : (js " items passed review; the model's headline is not shown because ").length ≤ 140 :=
      length_js_ofList_le _ (by decide)
    have subject : (if withheldItems.val.dedup.length = 1 then js "an item was" else js "items were").length ≤ 24 := by
      split
      all_goals exact length_js_ofList_le _ (by decide)
    have withheld : (js " withheld.").length ≤ 20 := length_js_ofList_le _ (by decide)
    simp only [List.length_append]
    omega

theorem length_pluralS_le (count : Nat) : (pluralS count).length ≤ 2 := by
  unfold pluralS
  split
  · exact Nat.zero_le _
  · exact length_js_ofList_le _ (by decide)

theorem length_moreLine_le (taskId : Id) {dropped : Nat} (few : dropped ≤ 12) :
    (moreLine taskId dropped).length ≤ 100 := by
  have number := @length_decimal_le dropped 2 (by decide) (by omega)
  have plural := length_pluralS_le dropped
  have identifier := taskId.length
  have opening : (js "(").length ≤ 2 := length_js_ofList_le _ (by decide)
  have more : (js " more item").length ≤ 20 := length_js_ofList_le _ (by decide)
  have task : (js ": /task ").length ≤ 16 := length_js_ofList_le _ (by decide)
  have closing : (js ")").length ≤ 2 := length_js_ofList_le _ (by decide)
  unfold moreLine
  simp only [List.length_append]
  omega

theorem length_withheldLine_le {withheld : Nat} (few : withheld ≤ 12) :
    (withheldLine withheld).length ≤ 140 := by
  have number := @length_decimal_le withheld 2 (by decide) (by omega)
  have plural := length_pluralS_le withheld
  have item : (js " item").length ≤ 10 := length_js_ofList_le _ (by decide)
  have found : (js " withheld: the reviewer found ").length ≤ 60 := length_js_ofList_le _ (by decide)
  have subject : (if withheld = 1 then js "it" else js "them").length ≤ 8 := by
    split
    all_goals exact length_js_ofList_le _ (by decide)
  have unsupported : (js " unsupported.").length ≤ 26 := length_js_ofList_le _ (by decide)
  unfold withheldLine
  simp only [List.length_append]
  omega

theorem length_reviewLine_le (args : BriefMessageArgs) : (reviewLine args).length ≤ 350 := by
  have few := args.activeRepos.property
  have number := @length_decimal_le args.activeRepos.val 2 (by decide) (by omega)
  have plural := length_pluralS_le args.activeRepos.val
  have model := args.reviewerModel.property
  simp only [lengthWithin, Bool.and_eq_true, decide_eq_true_eq] at model
  have repos : (js " active repo").length ≤ 24 := length_js_ofList_le _ (by decide)
  have reviewed : (js "; reviewed by ").length ≤ 28 := length_js_ofList_le _ (by decide)
  have task : (js ". Task ").length ≤ 14 := length_js_ofList_le _ (by decide)
  have identifier : (args.taskId.text.take 8).length ≤ 8 := List.length_take_le _ _
  unfold reviewLine
  simp only [List.length_append]
  omega

theorem length_foot_le (args : BriefMessageArgs) {dropped : Nat} (few : dropped ≤ 12) :
    (foot args dropped).length ≤ 600 := by
  have most : args.withheldItems.val.dedup.length ≤ 12 :=
    (List.dedup_sublist _).length_le.trans args.withheldItems.property
  have more := length_moreLine_le args.taskId few
  have withheld := length_withheldLine_le most
  have review := length_reviewLine_le args
  unfold foot
  refine (length_intercalate_le _ _).trans ?_
  rw [List.map_append, List.map_append, List.sum_append, List.sum_append]
  split <;> split
  all_goals
    simp only [List.map_cons, List.map_nil, List.sum_cons, List.sum_nil, List.length_cons, List.length_nil]
    omega

/-! ## What is shown -/

variable (intl : Intl) (brief : BriefAnalysis) (args : BriefMessageArgs)

theorem length_keptItems_le (withheldItems : WithheldItems) :
    (keptItems brief withheldItems).length ≤ 12 := by
  rw [keptItems, List.length_map]
  have filtered := (List.filter_sublist (p := fun entry : BriefItem × Nat =>
    decide ((entry.2 : Int) ∉ withheldItems.val.map Subtype.val)) (l := brief.items.val.zipIdx)).length_le
  rw [List.length_zipIdx] at filtered
  exact filtered.trans brief.items.property.2

/-- Without any item the message fits. -/
theorem fits_none {instant : Int} (lower : -1000000000000000 < instant) (upper : instant < 1000000000000000) :
    Fits (messageText intl brief args instant 0) := by
  have date := length_dateLine_le intl lower upper
  have headline := length_briefHeadline_le brief args.withheldItems
  have last := @length_foot_le args ((keptItems brief args.withheldItems).length - 0)
    (length_keptItems_le brief args.withheldItems)
  have length := length_intercalate_le [10, 10] ([dateLine intl instant,
    briefHeadline brief args.withheldItems] ++
    numbered ((keptItems brief args.withheldItems).take 0) ++ [foot args ((keptItems brief args.withheldItems).length - 0)])
  have none : numbered ((keptItems brief args.withheldItems).take 0) = [] := rfl
  rw [none] at length
  simp only [List.cons_append, List.nil_append, List.append_nil, List.map_cons, List.map_nil, List.sum_cons,
    List.sum_nil, List.length_cons, List.length_nil] at length
  unfold Fits briefMessageLimit
  refine (length_escape_le _).trans ?_
  unfold messageText
  dsimp only
  rw [none]
  simp only [List.cons_append, List.nil_append, List.append_nil]
  omega

/-- The loop stops at the largest number of items that fits. -/
theorem longestFitting_spec {text : Nat → JsString} (fallback : JsString) (base : Fits (text 0)) (most : Nat) :
    ∃ shown, shown ≤ most ∧ longestFitting text fallback most = text shown ∧ Fits (text shown) ∧
      ∀ more, shown < more → more ≤ most → ¬ Fits (text more) := by
  induction most with
  | zero => exact ⟨0, Nat.le_refl _, if_pos base, base, fun more above below => absurd above (by omega)⟩
  | succ most ih =>
      by_cases fits : Fits (text (most + 1))
      · exact ⟨most + 1, Nat.le_refl _, if_pos fits, fits, fun more above below => absurd above (by omega)⟩
      · obtain ⟨shown, within, same, found, largest⟩ := ih
        refine ⟨shown, within.trans (Nat.le_succ _), (if_neg fits).trans same, found, ?_⟩
        intro more above below
        rcases Nat.lt_or_eq_of_le below with less | rfl
        · exact largest more above (by omega)
        · exact fits

/-- What is withheld and what is kept are all the items. -/
theorem length_keptItems {withheldItems : WithheldItems}
    (inRange : ∀ position ∈ withheldItems.val, position.val < brief.items.val.length) :
    (keptItems brief withheldItems).length + withheldItems.val.dedup.length = brief.items.val.length := by
  have kept : (keptItems brief withheldItems).length =
      ((List.range brief.items.val.length).filter fun index : Nat =>
        decide ((index : Int) ∉ withheldItems.val.map Subtype.val)).length := by
    rw [keptItems, List.length_map, List.range_eq_range', ← List.zipIdx_map_snd, List.filter_map,
      List.length_map]
    rfl
  have withheld : withheldItems.val.dedup.length =
      ((List.range brief.items.val.length).filter fun index : Nat =>
        !decide ((index : Int) ∉ withheldItems.val.map Subtype.val)).length := by
    have same : (withheldItems.val.dedup.map Subtype.val).Perm
        (((List.range brief.items.val.length).filter fun index : Nat =>
          !decide ((index : Int) ∉ withheldItems.val.map Subtype.val)).map Nat.cast) := by
      refine (List.perm_ext_iff_of_nodup ?_ ?_).mpr fun position => ?_
      · exact (List.nodup_dedup _).map Subtype.val_injective
      · exact (List.nodup_range.filter _).map Nat.cast_injective
      · simp only [List.mem_map, List.mem_dedup, List.mem_filter, List.mem_range, Bool.not_eq_true',
          decide_eq_false_iff_not, not_not]
        constructor
        · rintro ⟨given, member, rfl⟩
          have below := inRange given member
          have above := given.property.1
          exact ⟨given.val.toNat, ⟨by omega, given, member, by omega⟩, by omega⟩
        · rintro ⟨index, ⟨-, given, member, same⟩, rfl⟩
          exact ⟨given, member, same⟩
    have lengths := same.length_eq
    rw [List.length_map, List.length_map] at lengths
    exact lengths
  rw [kept, withheld, ← List.length_eq_length_filter_add, List.length_range]

/-- An accepted judgement withholds items that the brief has. -/
theorem withheld_in_range {platform : Platform} {input : BriefReconcileInput} {record : BriefReconciliation}
    (reconciled : reconcileBrief platform input = some record) (accepted : record.decision = .accepted)
    (parsed : parseBrief platform input.analysisText = some brief) :
    ∀ position ∈ record.withheldItems.val, position.val < brief.items.val.length := by
  intro position member
  obtain ⟨-, -, same⟩ := reconcileBrief_fields platform reconciled
  have items : input.items platform = brief.items.val := by
    rw [BriefReconcileInput.items, BriefReconcileInput.brief, parsed]
    rfl
  have flagged : position ∈ input.flagged platform := by
    rw [same, BriefReconcileInput.withheldItems, List.mem_insertionSort, List.mem_dedup] at member
    exact member
  have passed := passed_of_accepted platform reconciled accepted .reviewLeavesSupportedItems
  simp only [BriefReconcileInput.passed, Bool.and_eq_true, List.all_eq_true, decide_eq_true_eq, items] at passed
  exact passed.1.2 position flagged

/-- The message of a brief fits and accounts for every item: some are shown in their order, the others are
counted. -/
theorem briefMessage_accounts (inRange : ∀ position ∈ args.withheldItems.val,
    position.val < brief.items.val.length) :
    ∃ text instant shown dropped, briefMessage intl brief args = some text ∧
      (escapeTelegramMarkdownV2 text).length ≤ briefMessageLimit ∧
      shown ++ dropped = keptItems brief args.withheldItems ∧
      shown.length + dropped.length + args.withheldItems.val.dedup.length = brief.items.val.length ∧
      text = [10, 10].intercalate ([dateLine intl instant, briefHeadline brief args.withheldItems] ++
        numbered shown ++ [foot args dropped.length]) ∧
      (dropped ≠ [] → moreLine args.taskId dropped.length <:+: text) := by
  obtain ⟨instant, parsed, lower, upper⟩ := dateParse_of_isTimestampText brief.windowEnd.property
  obtain ⟨count, within, stops, fits, -⟩ := longestFitting_spec
    ([10, 10].intercalate [dateLine intl instant, foot args (keptItems brief args.withheldItems).length])
    (fits_none intl brief args lower upper) (keptItems brief args.withheldItems).length
  have whole := length_keptItems brief inRange
  have lengths := congrArg List.length (List.take_append_drop count (keptItems brief args.withheldItems))
  rw [List.length_append] at lengths
  have text : messageText intl brief args instant count =
      [10, 10].intercalate ([dateLine intl instant, briefHeadline brief args.withheldItems] ++
        numbered ((keptItems brief args.withheldItems).take count) ++
        [foot args ((keptItems brief args.withheldItems).drop count).length]) := by
    rw [List.length_drop]
    rfl
  refine ⟨messageText intl brief args instant count, instant, (keptItems brief args.withheldItems).take count,
    (keptItems brief args.withheldItems).drop count, ?_, fits, List.take_append_drop _ _, by omega, text, ?_⟩
  · simp only [briefMessage, parsed, Option.bind_eq_bind, Option.bind_some, stops]
  · intro some_
    rw [text]
    have positive := List.length_pos_iff.mpr some_
    refine List.IsInfix.trans ?_ (infix_intercalate (List.mem_append_right _ (List.mem_singleton_self _)))
    refine infix_intercalate ?_
    rw [if_pos positive]
    exact List.mem_append_left _ (List.mem_append_left _ (List.mem_singleton_self _))

/-- A brief of two items. -/
def quietBrief : BriefAnalysis where
  windowEnd := ⟨js "2026-01-05T07:00:00Z", by decide +kernel⟩
  headline := ⟨js "A quiet night", by decide +kernel, by decide +kernel⟩
  items :=
    ⟨[⟨⟨js "Checks", by decide +kernel, by decide +kernel⟩, ⟨js "All are green", by decide +kernel,
      by decide +kernel⟩,
        ⟨[], by decide⟩⟩,
      ⟨⟨js "Pulls", by decide +kernel, by decide +kernel⟩, ⟨js "None are open", by decide +kernel,
        by decide +kernel⟩,
        ⟨[], by decide⟩⟩], by decide, by decide⟩

/-- The first of the two is withheld. -/
def quietArgs : BriefMessageArgs where
  taskId := ⟨js "50000000-0000-4000-8000-000000000001", by decide +kernel⟩
  activeRepos := ⟨1, by decide⟩
  reviewerModel := ⟨js "reviewer", by decide +kernel⟩
  withheldItems := ⟨[⟨0, by decide, by decide⟩], by decide⟩

theorem quiet_message_accounts : ∃ text instant shown dropped,
    briefMessage Intl.utcOnly quietBrief quietArgs = some text ∧
      (escapeTelegramMarkdownV2 text).length ≤ briefMessageLimit ∧
      shown ++ dropped = keptItems quietBrief quietArgs.withheldItems ∧
      shown.length + dropped.length + quietArgs.withheldItems.val.dedup.length = quietBrief.items.val.length ∧
      text = [10, 10].intercalate ([dateLine Intl.utcOnly instant,
        briefHeadline quietBrief quietArgs.withheldItems] ++
        numbered shown ++ [foot quietArgs dropped.length]) ∧
      (dropped ≠ [] → moreLine quietArgs.taskId dropped.length <:+: text) :=
  briefMessage_accounts Intl.utcOnly quietBrief quietArgs fun position member => by
    rw [List.mem_singleton.mp member]
    decide

end KernelJson.Mission.BriefMessage
