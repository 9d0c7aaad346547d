import KernelJson.Alerting.Reducer

/-!
# The episodes of one check

A check is evaluated again and again, each time against the row that the
evaluation before left.  What its decisions say about its episodes, and what the
row keeps of them, are stated over the whole history of evaluations.
-/

namespace KernelJson.Alerting.Episodes

open Alerting.Outbox
open Alerting.Policy
open Alerting.Reducer
open Contracts.Platform
open Foundation.JsText

/-! ## Histories -/

/-- A result of the check, and when and under which canonical schedule it is evaluated. -/
structure Reading where
  status : HealthStatus
  message : JsString
  canonicalScheduleId : JsString
  now : Int

/-- An evaluation, with the row and the decision that it left. -/
structure Moment where
  reading : Reading
  row : Option AlertStateRow
  decision : Option AlertDecision

def Reading.check (checkId : JsString) (reading : Reading) : CheckResult :=
  ⟨checkId, reading.status, reading.message⟩

def storedRow : List Moment → Option AlertStateRow
  | [] => none
  | latest :: _ => latest.row

section Histories

variable (platform : Platform) (policy : AlertPolicyEntry) (checkId : JsString)

def evaluate (past : List Moment) (reading : Reading) : Moment :=
  let next := reduceUnder platform policy (reading.check checkId) reading.canonicalScheduleId reading.now
    (storedRow past)
  ⟨reading, next.1, next.2⟩

/-- The history of a sequence of readings, both latest first. -/
def record : List Reading → List Moment
  | [] => []
  | reading :: earlier => evaluate platform policy checkId (record earlier) reading :: record earlier

end Histories

/-! ## Episodes, as the decisions delimit them -/

def Moment.Emits (moment : Moment) (kind : AlertEventKind) : Prop :=
  moment.decision.map AlertDecision.kind = some kind

instance (moment : Moment) (kind : AlertEventKind) : Decidable (moment.Emits kind) :=
  inferInstanceAs (Decidable (_ = _))

/-- The moment's decision was announced. -/
def Moment.Notified (moment : Moment) : Prop :=
  ∃ decision, moment.decision = some decision ∧ decision.notify = true

/-- The moments since an episode was opened last, latest first. -/
def latestEpisode : List Moment → Option (List Moment)
  | [] => none
  | moment :: older =>
      if moment.Emits .new then some [moment] else (latestEpisode older).map (moment :: ·)

/-- The latest episode, if no recovery has closed it. -/
def OpenEpisode (past episode : List Moment) : Prop :=
  latestEpisode past = some episode ∧ ∀ moment ∈ episode, ¬ moment.Emits .recovered

theorem latestEpisode_new {moment : Moment} {past : List Moment} (new : moment.Emits .new) :
    latestEpisode (moment :: past) = some [moment] :=
  if_pos new

theorem latestEpisode_older {moment : Moment} {past : List Moment} (older : ¬ moment.Emits .new) :
    latestEpisode (moment :: past) = (latestEpisode past).map (moment :: ·) :=
  if_neg older

section Severities

variable (policy : AlertPolicyEntry)

def severityOf (moment : Moment) : Option AlertSeverity :=
  policy.severityFor moment.reading.status

def lastSeverity (past : List Moment) : Option AlertSeverity :=
  past.findSome? (severityOf policy)

def unhealthyCount (episode : List Moment) : Nat :=
  episode.countP fun moment => (severityOf policy moment).isSome

/-! ## The law -/

/-- The row keeps the last severity, the count and the opening instant of the latest episode. -/
structure Keeps (past episode : List Moment) (row : AlertStateRow) : Prop where
  severity : lastSeverity policy past = some row.severity
  occurrences : row.occurrenceCount = unhealthyCount policy episode
  opening : (episode.getLast?).map (fun moment => moment.reading.now) = some row.firstSeenAt
  state : row.currentState = .opened ↔ ∀ moment ∈ episode, ¬ moment.Emits .recovered

/-- What an evaluation may do to a history. -/
structure Lawful (past : List Moment) (moment : Moment) : Prop where
  opens : moment.Emits .new ↔ (severityOf policy moment).isSome = true ∧ ¬ ∃ episode, OpenEpisode past episode
  closes : moment.Emits .recovered ↔ severityOf policy moment = none ∧ ∃ episode, OpenEpisode past episode
  escalates : moment.Emits .escalated ↔ ∃ episode before after, OpenEpisode past episode ∧
    lastSeverity policy past = some before ∧ severityOf policy moment = some after ∧ isWorse after before = true
  deescalates : moment.Emits .deescalated ↔ ∃ episode before after, OpenEpisode past episode ∧
    lastSeverity policy past = some before ∧ severityOf policy moment = some after ∧ isWorse before after = true
  silent : ¬ moment.Emits .ongoing
  unopened : latestEpisode (moment :: past) = none → moment.row = none
  keeps : ∀ episode, latestEpisode (moment :: past) = some episode →
    ∃ row, moment.row = some row ∧ Keeps policy (moment :: past) episode row
  announces : moment.Emits .recovered →
    (moment.Notified ↔ ∃ episode, latestEpisode past = some episode ∧ ∃ earlier ∈ episode, earlier.Notified)

/-! ## What a history leaves in its row -/

/-- The row of an open episode also knows whether anything of the episode was announced. -/
structure Follows (past episode : List Moment) (row : AlertStateRow) : Prop extends
    Keeps policy past episode row where
  announced : row.currentState = .opened →
    (notifiesRecovery policy row = true ↔ ∃ moment ∈ episode, moment.Notified)

/-- The stored row follows the latest episode, if there was one. -/
def Tracks (past : List Moment) : Prop :=
  (storedRow past = none ∧ latestEpisode past = none) ∨
    ∃ row episode, storedRow past = some row ∧ latestEpisode past = some episode ∧ Follows policy past episode row

variable {policy}

/-- A closed row means that no episode is open. -/
theorem Tracks.closed {past : List Moment} (tracks : Tracks policy past) (closed : Closed (storedRow past)) :
    ¬ ∃ episode, OpenEpisode past episode := by
  rintro ⟨episode, latest, running⟩
  rcases tracks with ⟨-, unopened⟩ | ⟨row, other, stored, found, follows⟩
  · cases unopened.symm.trans latest
  · cases found.symm.trans latest
    have opened := follows.state.mpr running
    rw [closed row stored] at opened
    cases opened

/-- An open row means that the latest episode is open. -/
theorem Tracks.opened {past : List Moment} (tracks : Tracks policy past) {row : AlertStateRow}
    (stored : storedRow past = some row) (opened : row.currentState = .opened) :
    ∃ episode, OpenEpisode past episode ∧ Follows policy past episode row := by
  rcases tracks with ⟨absent, -⟩ | ⟨other, episode, here, found, follows⟩
  · cases absent.symm.trans stored
  · cases here.symm.trans stored
    exact ⟨episode, ⟨found, follows.state.mp opened⟩, follows⟩

theorem Tracks.unopened {past : List Moment} (tracks : Tracks policy past) (none : latestEpisode past = none) :
    storedRow past = .none := by
  rcases tracks with ⟨absent, -⟩ | ⟨_, _, _, found, -⟩
  · exact absent
  · cases none.symm.trans found

theorem Tracks.keeps {past : List Moment} (tracks : Tracks policy past) (episode : List Moment)
    (found : latestEpisode past = some episode) :
    ∃ row, storedRow past = some row ∧ Keeps policy past episode row := by
  rcases tracks with ⟨-, none⟩ | ⟨row, other, stored, here, follows⟩
  · cases none.symm.trans found
  · cases here.symm.trans found
    exact ⟨row, stored, follows.toKeeps⟩

/-! ## One evaluation -/

theorem emits_iff {moment : Moment} {decision : AlertDecision} (made : moment.decision = some decision)
    (kind : AlertEventKind) : moment.Emits kind ↔ decision.kind = kind := by
  rw [Moment.Emits, made, Option.map_some, Option.some.injEq]

theorem not_emits {moment : Moment} (quiet : moment.decision = none) (kind : AlertEventKind) :
    ¬ moment.Emits kind := by
  rw [Moment.Emits, quiet]
  exact fun impossible => by cases impossible

theorem notified_iff {moment : Moment} {decision : AlertDecision} (made : moment.decision = some decision) :
    moment.Notified ↔ decision.notify = true := by
  constructor
  · rintro ⟨other, here, notified⟩
    cases made.symm.trans here
    exact notified
  · exact fun notified => ⟨decision, made, notified⟩

theorem not_notified {moment : Moment} (quiet : moment.decision = none) : ¬ moment.Notified := by
  rintro ⟨decision, made, -⟩
  cases quiet.symm.trans made

theorem lastSeverity_unhealthy {moment : Moment} {past : List Moment} {severity : AlertSeverity}
    (unhealthy : severityOf policy moment = some severity) :
    lastSeverity policy (moment :: past) = some severity := by
  rw [lastSeverity, List.findSome?_cons, unhealthy]

theorem lastSeverity_healthy {moment : Moment} {past : List Moment} (healthy : severityOf policy moment = none) :
    lastSeverity policy (moment :: past) = lastSeverity policy past := by
  rw [lastSeverity, List.findSome?_cons, healthy]
  rfl

/-- The row follows an episode through a moment that opens no other. -/
theorem Follows.later {past episode : List Moment} {row next : AlertStateRow} {moment : Moment}
    (follows : Follows policy past episode row)
    (severity : lastSeverity policy (moment :: past) = some next.severity)
    (occurrences : next.occurrenceCount = row.occurrenceCount + if (severityOf policy moment).isSome then 1 else 0)
    (opening : next.firstSeenAt = row.firstSeenAt)
    (state : next.currentState = .opened ↔ row.currentState = .opened ∧ ¬ moment.Emits .recovered)
    (announced : next.currentState = .opened →
      (notifiesRecovery policy next = true ↔ moment.Notified ∨ notifiesRecovery policy row = true)) :
    Follows policy (moment :: past) (moment :: episode) next := by
  have started := follows.opening
  refine ⟨⟨severity, ?_, ?_, ?_⟩, ?_⟩
  · rw [occurrences, follows.occurrences, unhealthyCount, unhealthyCount, List.countP_cons]
  · cases episode with
    | nil => cases started
    | cons first rest => rw [List.getLast?_cons_cons, opening, started]
  · rw [state, follows.state, List.forall_mem_cons]
    exact and_comm
  · intro running
    have before := (state.mp running).1
    rw [announced running, follows.announced before, List.exists_mem_cons_iff]

/-- A moment that leaves its check closed, or closes it, changes nothing else. -/
theorem lawful_quiet {past : List Moment} {reading : Reading} (tracks : Tracks policy past)
    (healthy : policy.severityFor reading.status = none) (closed : Closed (storedRow past)) :
    Lawful policy past ⟨reading, storedRow past, none⟩ ∧
      Tracks policy (⟨reading, storedRow past, none⟩ :: past) := by
  have severity : severityOf policy ⟨reading, storedRow past, none⟩ = none := healthy
  have ended := tracks.closed closed
  have emitsNone : ∀ kind, ¬ Moment.Emits ⟨reading, storedRow past, none⟩ kind := fun kind => not_emits rfl kind
  have latest := @latestEpisode_older _ past (emitsNone .new)
  have kept : Tracks policy (⟨reading, storedRow past, none⟩ :: past) := by
    rcases tracks with ⟨absent, unopened⟩ | ⟨row, episode, stored, found, follows⟩
    · refine Or.inl ⟨absent, ?_⟩
      rw [latest, unopened]
      rfl
    · refine Or.inr ⟨row, ⟨reading, storedRow past, none⟩ :: episode, stored, ?_, ?_⟩
      · rw [latest, found]
        rfl
      · refine follows.later ((lastSeverity_healthy severity).trans follows.severity) ?_ rfl ?_ ?_
        · rw [severity]
          rfl
        · exact (and_iff_left (emitsNone .recovered)).symm
        · intro
          exact (or_iff_right (not_notified rfl)).symm
  refine ⟨?_, kept⟩
  exact
    { opens := iff_of_false (emitsNone .new) fun unhealthy => by
        rw [severity] at unhealthy
        cases unhealthy.1
      closes := iff_of_false (emitsNone .recovered) fun both => ended both.2
      escalates := iff_of_false (emitsNone .escalated) fun ⟨episode, _, _, running, _⟩ => ended ⟨episode, running⟩
      deescalates := iff_of_false (emitsNone .deescalated) fun ⟨episode, _, _, running, _⟩ =>
        ended ⟨episode, running⟩
      silent := emitsNone .ongoing
      unopened := kept.unopened
      keeps := kept.keeps
      announces := fun emits => absurd emits (emitsNone .recovered) }

/-- An open episode is closed once, and announced if anything of it was. -/
theorem lawful_recovered {platform : Platform} {checkId : JsString} {past : List Moment} {reading : Reading}
    {row : AlertStateRow} (tracks : Tracks policy past) (healthy : policy.severityFor reading.status = none)
    (stored : storedRow past = some row) (opened : row.currentState = .opened) :
    let ended := recover platform policy (reading.check checkId) reading.canonicalScheduleId reading.now row
    Lawful policy past ⟨reading, some ended.1, some ended.2⟩ ∧
      Tracks policy (⟨reading, some ended.1, some ended.2⟩ :: past) := by
  intro ended
  have severity : severityOf policy ⟨reading, some ended.1, some ended.2⟩ = none := healthy
  have emits := emits_iff (rfl : Moment.decision ⟨reading, some ended.1, some ended.2⟩ = some ended.2)
  have emitsRecovered := (emits .recovered).mpr rfl
  have others : ∀ kind, kind ≠ .recovered → ¬ Moment.Emits ⟨reading, some ended.1, some ended.2⟩ kind :=
    fun kind different made => different ((emits kind).mp made).symm
  obtain ⟨episode, running, follows⟩ := tracks.opened stored opened
  have latest : latestEpisode (⟨reading, some ended.1, some ended.2⟩ :: past) =
      some (⟨reading, some ended.1, some ended.2⟩ :: episode) := by
    rw [latestEpisode_older (others .new (by decide)), running.1]
    rfl
  have kept : Tracks policy (⟨reading, some ended.1, some ended.2⟩ :: past) := by
    refine Or.inr ⟨ended.1, _, rfl, latest, ?_⟩
    refine follows.later ((lastSeverity_healthy severity).trans follows.severity) ?_ rfl ?_ ?_
    · rw [severity]
      rfl
    · exact iff_of_false (fun impossible => by cases impossible) fun both => both.2 emitsRecovered
    · exact fun impossible => by cases impossible
  refine ⟨?_, kept⟩
  exact
    { opens := iff_of_false (others .new (by decide)) fun unhealthy => unhealthy.2 ⟨episode, running⟩
      closes := iff_of_true emitsRecovered ⟨severity, episode, running⟩
      escalates := iff_of_false (others .escalated (by decide)) fun ⟨_, _, _, _, _, unhealthy, _⟩ => by
        cases severity.symm.trans unhealthy
      deescalates := iff_of_false (others .deescalated (by decide)) fun ⟨_, _, _, _, _, unhealthy, _⟩ => by
        cases severity.symm.trans unhealthy
      silent := others .ongoing (by decide)
      unopened := kept.unopened
      keeps := kept.keeps
      announces := by
        intro
        rw [notified_iff rfl]
        refine (follows.announced opened).trans ?_
        constructor
        · exact fun some => ⟨episode, running.1, some⟩
        · rintro ⟨other, found, some⟩
          cases running.1.symm.trans found
          exact some }

/-- An unhealthy result of a closed check opens an episode. -/
theorem lawful_started {platform : Platform} {checkId : JsString} {past : List Moment} {reading : Reading}
    {severity : AlertSeverity} (tracks : Tracks policy past)
    (alerts : policy.severityFor reading.status = some severity) (closed : Closed (storedRow past)) :
    let started := openEpisode platform policy (reading.check checkId) reading.canonicalScheduleId reading.now severity
    Lawful policy past ⟨reading, some started.1, some started.2⟩ ∧
      Tracks policy (⟨reading, some started.1, some started.2⟩ :: past) := by
  intro started
  have unhealthy : severityOf policy ⟨reading, some started.1, some started.2⟩ = some severity := alerts
  have emits := emits_iff (rfl : Moment.decision ⟨reading, some started.1, some started.2⟩ = some started.2)
  have emitsNew := (emits .new).mpr rfl
  have others : ∀ kind, kind ≠ .new → ¬ Moment.Emits ⟨reading, some started.1, some started.2⟩ kind :=
    fun kind different made => different ((emits kind).mp made).symm
  have ended := tracks.closed closed
  have kept : Tracks policy (⟨reading, some started.1, some started.2⟩ :: past) := by
    refine Or.inr ⟨started.1, _, rfl, latestEpisode_new emitsNew, ⟨lastSeverity_unhealthy unhealthy, ?_, rfl, ?_⟩, ?_⟩
    · rw [unhealthyCount, List.countP_singleton, unhealthy]
      rfl
    · refine iff_of_true rfl fun moment member => ?_
      rw [List.mem_singleton.mp member]
      exact others .recovered (by decide)
    · intro
      have only : (∃ moment ∈ [(⟨reading, some started.1, some started.2⟩ : Moment)], moment.Notified) ↔
          started.2.notify = true := by
        simp only [List.mem_singleton, exists_eq_left]
        exact notified_iff rfl
      rw [only]
      exact notifiesRecovery_openEpisode platform policy (reading.check checkId) reading.canonicalScheduleId
        reading.now severity
  refine ⟨?_, kept⟩
  exact
    { opens := iff_of_true emitsNew ⟨by rw [unhealthy]; rfl, ended⟩
      closes := iff_of_false (others .recovered (by decide)) fun both => ended both.2
      escalates := iff_of_false (others .escalated (by decide)) fun ⟨episode, _, _, running, _⟩ => ended ⟨episode, running⟩
      deescalates := iff_of_false (others .deescalated (by decide)) fun ⟨episode, _, _, running, _⟩ =>
        ended ⟨episode, running⟩
      silent := others .ongoing (by decide)
      unopened := kept.unopened
      keeps := kept.keeps
      announces := fun recovered => absurd recovered (others .recovered (by decide)) }

/-- An unhealthy result of an open episode says whether the severity rose or fell. -/
theorem lawful_continued {platform : Platform} {checkId : JsString} {past : List Moment} {reading : Reading}
    {row : AlertStateRow} {severity : AlertSeverity} (tracks : Tracks policy past)
    (alerts : policy.severityFor reading.status = some severity) (stored : storedRow past = some row)
    (opened : row.currentState = .opened) :
    let continued := continueEpisode platform policy (reading.check checkId) reading.canonicalScheduleId reading.now
      row severity
    Lawful policy past ⟨reading, some continued.1, continued.2⟩ ∧
      Tracks policy (⟨reading, some continued.1, continued.2⟩ :: past) := by
  intro continued
  have unhealthy : severityOf policy ⟨reading, some continued.1, continued.2⟩ = some severity := alerts
  obtain ⟨episode, running, follows⟩ := tracks.opened stored opened
  have changed : ∀ kind, Moment.Emits ⟨reading, some continued.1, continued.2⟩ kind ↔
      (kind = .escalated ∧ isWorse severity row.severity = true) ∨
        (kind = .deescalated ∧ isWorse row.severity severity = true) := by
    intro kind
    rcases continueEpisode_decision platform policy (reading.check checkId) reading.canonicalScheduleId reading.now
      row severity with ⟨quiet, same⟩ | ⟨made, ⟨isEscalated, worse⟩ | ⟨isDeescalated, better⟩⟩
    · refine iff_of_false (not_emits quiet kind) ?_
      rw [same, isWorse_irrefl]
      rintro (⟨-, impossible⟩ | ⟨-, impossible⟩) <;> cases impossible
    · rw [emits_iff made]
      simp only [continuedDecision, isEscalated, worse, isWorse_asymm worse, Bool.false_eq_true, and_true, and_false,
        or_false, eq_comm]
    · rw [emits_iff made]
      simp only [continuedDecision, isDeescalated, better, isWorse_asymm better, Bool.false_eq_true, and_true,
        and_false, false_or, eq_comm]
  have notified : Moment.Notified ⟨reading, some continued.1, continued.2⟩ ↔
      notifiesChange policy (reading.check checkId) row severity = true := by
    rcases continueEpisode_decision platform policy (reading.check checkId) reading.canonicalScheduleId reading.now
      row severity with ⟨quiet, same⟩ | ⟨made, -⟩
    · refine iff_of_false (not_notified quiet) ?_
      simp [notifiesChange, continuedKind, same]
    · exact @notified_iff ⟨reading, some continued.1, continued.2⟩ _ made
  have notNew : ¬ Moment.Emits ⟨reading, some continued.1, continued.2⟩ .new := by
    rw [changed]
    simp
  have notRecovered : ¬ Moment.Emits ⟨reading, some continued.1, continued.2⟩ .recovered := by
    rw [changed]
    simp
  have latest : latestEpisode (⟨reading, some continued.1, continued.2⟩ :: past) =
      some (⟨reading, some continued.1, continued.2⟩ :: episode) := by
    rw [latestEpisode_older notNew, running.1]
    rfl
  have kept : Tracks policy (⟨reading, some continued.1, continued.2⟩ :: past) := by
    refine Or.inr ⟨continued.1, _, rfl, latest, ?_⟩
    refine follows.later (lastSeverity_unhealthy unhealthy) ?_ rfl ?_ ?_
    · rw [unhealthy]
      rfl
    · exact (and_iff_left notRecovered).symm
    · intro
      rw [notified]
      exact notifiesRecovery_continuedRow policy (reading.check checkId) reading.now row severity
  have turned : ∀ worse : AlertSeverity → AlertSeverity → Prop,
      (∃ open_ before after, OpenEpisode past open_ ∧ lastSeverity policy past = some before ∧
        severityOf policy ⟨reading, some continued.1, continued.2⟩ = some after ∧ worse after before) ↔
          worse severity row.severity := by
    intro worse
    constructor
    · rintro ⟨_, before, after, -, last, now, holds⟩
      cases last.symm.trans follows.severity
      cases now.symm.trans unhealthy
      exact holds
    · exact fun holds => ⟨episode, row.severity, severity, running, follows.severity, unhealthy, holds⟩
  refine ⟨?_, kept⟩
  exact
    { opens := iff_of_false notNew fun both => both.2 ⟨episode, running⟩
      closes := iff_of_false notRecovered fun both => by cases both.1.symm.trans unhealthy
      escalates := by
        rw [turned fun after before => isWorse after before = true, changed]
        simp
      deescalates := by
        rw [turned fun after before => isWorse before after = true, changed]
        simp
      silent := by
        rw [changed]
        simp
      unopened := kept.unopened
      keeps := kept.keeps
      announces := fun recovered => absurd recovered notRecovered }

variable (platform : Platform) (checkId : JsString)

/-- Every evaluation obeys the law, and leaves a row that follows the history. -/
theorem lawful_evaluate {past : List Moment} (reading : Reading) (tracks : Tracks policy past) :
    Lawful policy past (evaluate platform policy checkId past reading) ∧
      Tracks policy (evaluate platform policy checkId past reading :: past) := by
  have step := reduced platform policy (reading.check checkId) reading.canonicalScheduleId reading.now
    (storedRow past)
  unfold evaluate
  generalize reduceUnder platform policy (reading.check checkId) reading.canonicalScheduleId reading.now
    (storedRow past) = next at step
  cases step with
  | quiet healthy closed => exact lawful_quiet tracks healthy closed
  | recovered row healthy stored opened => exact lawful_recovered tracks healthy stored opened
  | started severity alerts closed => exact lawful_started tracks alerts closed
  | continued row severity alerts stored opened => exact lawful_continued tracks alerts stored opened

theorem tracks_record (readings : List Reading) : Tracks policy (record platform policy checkId readings) := by
  induction readings with
  | nil => exact Or.inl ⟨rfl, rfl⟩
  | cons reading earlier ih => exact (lawful_evaluate platform checkId reading ih).2

/-- Every evaluation of a history obeys the law towards those before it. -/
theorem lawful_split {readings : List Reading} {later earlier : List Moment} {moment : Moment}
    (split : record platform policy checkId readings = later ++ moment :: earlier) : Lawful policy earlier moment := by
  induction readings generalizing later with
  | nil => exact absurd split.symm (by simp [record])
  | cons reading rest ih =>
      rw [record] at split
      cases later with
      | nil =>
          obtain ⟨rfl, rfl⟩ := List.cons.inj split
          exact (lawful_evaluate platform checkId reading (tracks_record platform checkId rest)).1
      | cons latest others => exact ih (List.cons.inj split).2

end Severities

/-! ## Openings between recoveries -/

def openings (stretch : List Moment) : Nat :=
  stretch.countP fun moment => moment.Emits .new

theorem openings_cons (moment : Moment) (rest : List Moment) :
    openings (moment :: rest) = openings rest + if moment.Emits .new then 1 else 0 := by
  simp only [openings, List.countP_cons, decide_eq_true_eq]

/-- No stretch of a history without a recovery opens two episodes. -/
def OnceOpened (moments : List Moment) : Prop :=
  ∀ later stretch earlier, moments = later ++ (stretch ++ earlier) →
    (∀ moment ∈ stretch, ¬ moment.Emits .recovered) → openings stretch ≤ 1

/-- A stretch that opened an episode and closed none leaves one open. -/
theorem opened_stretch {platform : Platform} {policy : AlertPolicyEntry} {checkId : JsString}
    {readings : List Reading} {later stretch earlier : List Moment}
    (split : record platform policy checkId readings = later ++ (stretch ++ earlier))
    (running : ∀ moment ∈ stretch, ¬ moment.Emits .recovered) :
    openings stretch ≤ 1 ∧ (openings stretch ≠ 0 → ∃ episode, OpenEpisode (stretch ++ earlier) episode) := by
  induction stretch generalizing later with
  | nil => exact ⟨Nat.zero_le _, fun impossible => absurd rfl impossible⟩
  | cons moment rest ih =>
      have shifted : record platform policy checkId readings = (later ++ [moment]) ++ (rest ++ earlier) := by
        rw [split]
        simp
      obtain ⟨bound, left⟩ := ih shifted fun other member => running other (List.mem_cons_of_mem _ member)
      have law := lawful_split platform checkId (split.trans (by rw [List.cons_append]))
      have unrecovered := running moment List.mem_cons_self
      by_cases new : moment.Emits .new
      · have ended := (law.opens.mp new).2
        have none : openings rest = 0 := by
          by_contra some
          exact ended (left some)
        have one : openings (moment :: rest) = 1 := by
          rw [openings_cons, if_pos new, none]
        refine ⟨one.le, fun _ => ⟨[moment], latestEpisode_new new, ?_⟩⟩
        intro other member
        rw [List.mem_singleton.mp member]
        exact unrecovered
      · have same : openings (moment :: rest) = openings rest := by
          rw [openings_cons, if_neg new, Nat.add_zero]
        rw [same]
        refine ⟨bound, fun some => ?_⟩
        obtain ⟨episode, latest, unclosed⟩ := left some
        refine ⟨moment :: episode, ?_, List.forall_mem_cons.mpr ⟨unrecovered, unclosed⟩⟩
        rw [List.cons_append, latestEpisode_older new, latest]
        rfl

/-- Histories open one episode at a time. -/
theorem onceOpened_record (platform : Platform) (policy : AlertPolicyEntry) (checkId : JsString)
    (readings : List Reading) : OnceOpened (record platform policy checkId readings) :=
  fun _ _ _ split running => (opened_stretch split running).1

/-! ## Every history of a fingerprint -/

/-- The evaluations of one check under one canonical schedule, as `reduceCheck` computes them. -/
def checked (platform : Platform) (checkId canonicalScheduleId : JsString) :
    List (HealthStatus × JsString × Int) → List Moment
  | [] => []
  | (status, message, now) :: earlier =>
      let past := checked platform checkId canonicalScheduleId earlier
      let next := reduceCheck platform (storedRow past) ⟨checkId, status, message⟩ canonicalScheduleId now
      ⟨⟨status, message, canonicalScheduleId, now⟩, next.1, next.2⟩ :: past

theorem checked_eq (platform : Platform) (checkId canonicalScheduleId : JsString)
    (inputs : List (HealthStatus × JsString × Int)) :
    checked platform checkId canonicalScheduleId inputs =
      record platform (resolvePolicy checkId) checkId
        (inputs.map fun input => ⟨input.1, input.2.1, canonicalScheduleId, input.2.2⟩) := by
  induction inputs with
  | nil => rfl
  | cons input earlier ih =>
      rw [checked, ih]
      rfl

/-- Whatever statuses a check shows, and whenever it is evaluated, its decisions delimit episodes, its row
keeps the latest of them, and the end of an episode is announced exactly if something of it was. -/
theorem episode_law (platform : Platform) (checkId canonicalScheduleId : JsString)
    (earlier : List (HealthStatus × JsString × Int)) (input : HealthStatus × JsString × Int) :
    ∃ moment,
      checked platform checkId canonicalScheduleId (input :: earlier) =
        moment :: checked platform checkId canonicalScheduleId earlier ∧
      Lawful (resolvePolicy checkId) (checked platform checkId canonicalScheduleId earlier) moment := by
  rw [checked_eq, checked_eq]
  exact ⟨_, rfl, (lawful_evaluate platform checkId _ (tracks_record platform checkId _)).1⟩

end KernelJson.Alerting.Episodes
