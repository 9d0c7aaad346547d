import KernelJson.Contracts.Reports
import KernelJson.Contracts.Task
import KernelJson.Telegram.Commands
import Mathlib.Data.List.ReduceOption

/-!
# Objectives of the channels

A mission starts from a Telegram command or from the analysis tool of the chat
model's server.  Each of them writes an objective, and the kernel reads its
repository, its count and its question back from that text alone.
-/

namespace KernelJson.Mcp.Analysis

open Contracts.Objective
open Contracts.Platform
open Contracts.Reports
open Foundation
open Foundation.JsText
open Telegram.Commands

/-! ## The analysis tool -/

/-- `/^[A-Za-z0-9._:-]{8,124}$/`. -/
def isRequestId (text : JsString) : Bool :=
  lengthWithin 8 124 text && text.all fun unit =>
    isAlphanumericUnit unit || unit == 46 || unit == 95 || unit == 58 || unit == 45

/-- `/^(findings|max-findings)=/i`. -/
def startsWithDirective (text : JsString) : Bool :=
  (js "findings=").isPrefixOf (text.map asciiLower) || (js "max-findings=").isPrefixOf (text.map asciiLower)

/-- A question that cannot be taken for a directive. -/
structure AnalysisQuestion extends TrimmedText 1 2000 where
  undirected : startsWithDirective text = false

/-- The arguments of `kj_run_analysis`. -/
structure AnalysisArgs where
  requestId : Matching isRequestId
  repo : RepoSlug
  findings : Option FindingBound
  question : Option AnalysisQuestion

def analysisObjective (args : AnalysisArgs) : JsString :=
  [32].intercalate
    [some args.repo.val, args.findings.map fun count => js "findings=" ++ signedDecimal count.val,
      args.question.map fun question => question.text].reduceOption

def AnalysisQuestion.parse (text : JsString) : Option AnalysisQuestion := do
  let question ← TrimmedText.parse 1 2000 text
  if undirected : startsWithDirective question.text = false then some { question with undirected } else none

def analysisNames : List JsString :=
  [js "request_id", js "repo", js "findings", js "question"]

/-- A field that may be absent. -/
def readOptional {α : Type} (read : Json → Option α) : Option Json → Option (Option α)
  | none => some none
  | some json => (read json).map some

/-- The input schema of the tool, whose last check is that the objective parses. -/
def AnalysisArgs.parse (input : Json) : Option AnalysisArgs := do
  let requestId ← (input.field? (js "request_id")).bind (Codec.matching isRequestId).read
  let repo ← (input.field? (js "repo")).bind (Codec.matching isRepoSlug).read
  let findings ← readOptional MissionContract.boundCodec.read (input.field? (js "findings"))
  let question ← readOptional (fun json => json.asString?.bind AnalysisQuestion.parse) (input.field? (js "question"))
  let args : AnalysisArgs := ⟨requestId, repo, findings, question⟩
  if input.hasOnly analysisNames ∧ (parseMissionObjective (analysisObjective args)).isOk then some args else none

/-! ## White space -/

theorem isSpace_visible {unit : UInt16} (lower : 33 ≤ unit.toNat) (upper : unit.toNat ≤ 126) :
    isSpace unit = false := by
  simp [isSpace]
  omega

theorem isSpace_alphanumeric {unit : UInt16} (alphanumeric : isAlphanumericUnit unit = true) :
    isSpace unit = false := by
  simp only [isAlphanumericUnit, isUpperUnit, isLowerUnit, isDigitUnit, Bool.or_eq_true, Bool.and_eq_true,
    decide_eq_true_eq] at alphanumeric
  apply isSpace_visible <;> omega

/-- Every unit of a text is visible. -/
def Solid (text : JsString) : Prop :=
  ∀ unit ∈ text, isSpace unit = false

theorem Solid.append {first second : JsString} (left : Solid first) (right : Solid second) :
    Solid (first ++ second) := by
  intro unit member
  rcases List.mem_append.mp member with inside | inside
  · exact left unit inside
  · exact right unit inside

theorem solid_decimal (number : Nat) : Solid (decimal number) := by
  intro unit member
  obtain ⟨lower, upper⟩ := isDigit_of_mem_decimal member
  apply isSpace_visible <;> omega

theorem solid_findings : Solid (js "findings=") := by
  have all : (js "findings=").all (fun unit => !isSpace unit) = true := by decide
  intro unit member
  exact Bool.not_eq_true' _ |>.mp (List.all_eq_true.mp all unit member)

theorem solid_slug (repo : RepoSlug) : Solid repo.val ∧ repo.val ≠ [] := by
  obtain ⟨text, slug⟩ := repo
  unfold isRepoSlug at slug
  dsimp only at slug
  split at slug
  · next separator name cut =>
      have whole : text = beforeUnit 47 text ++ separator :: name := by
        rw [← cut]
        exact List.prefix_append_drop (List.takeWhile_prefix _)
      have slash : separator = 47 := by
        have after : text.dropWhile (fun other => other != 47) = separator :: name := by
          have both := @List.takeWhile_append_dropWhile _ (fun other : UInt16 => other != 47) text
          exact List.append_cancel_left (both.trans whole)
        have stopped := List.head?_dropWhile_not (fun other : UInt16 => other != 47) text
        rw [after] at stopped
        simpa using stopped
      simp only [isOwner, isRepositoryName, Bool.and_eq_true] at slug
      obtain ⟨⟨⟨-, -⟩, owner⟩, ⟨⟨-, named⟩, -⟩, -⟩ := slug
      have left : Solid (beforeUnit 47 text) := by
        intro unit member
        have shape := List.all_eq_true.mp owner unit member
        rw [Bool.or_eq_true, beq_iff_eq] at shape
        rcases shape with alphanumeric | rfl
        · exact isSpace_alphanumeric alphanumeric
        · decide
      have right : Solid name := by
        intro unit member
        have shape := List.all_eq_true.mp named unit member
        simp only [Bool.or_eq_true, beq_iff_eq] at shape
        rcases shape with ((alphanumeric | rfl) | rfl) | rfl
        · exact isSpace_alphanumeric alphanumeric
        · decide
        · decide
        · decide
      have middle : Solid [separator] := by
        intro unit member
        rw [List.mem_singleton.mp member, slash]
        decide
      have solid := left.append (middle.append right)
      show Solid text ∧ text ≠ []
      rw [whole]
      exact ⟨solid, List.append_ne_nil_of_right_ne_nil _ (List.cons_ne_nil _ _)⟩
  · cases slug

/-- Its ends are visible. -/
structure Ends (text : JsString) : Prop where
  first : ∀ unit ∈ text.head?, isSpace unit = false
  last : ∀ unit ∈ text.getLast?, isSpace unit = false

theorem trim_of_ends {text : JsString} (ends : Ends text) : trim text = text := by
  cases text with
  | nil => rfl
  | cons unit rest =>
      rw [trim_eq_self_iff (ends.first unit rfl)]
      exact ends.last _ (List.getLast?_eq_some_getLast _)

theorem ends_of_trimmed {text : JsString} (trimmed : trim text = text) : Ends text := by
  constructor
  · intro unit found
    cases text with
    | nil => cases found
    | cons first rest =>
        cases found
        have start := List.head?_dropWhile_not isSpace (unit :: rest)
        by_contra visible
        rw [Bool.not_eq_false] at visible
        have shorter := List.length_dropWhile_le isSpace rest
        have longest := (List.rdropWhile_prefix isSpace ((unit :: rest).dropWhile isSpace)).length_le
        rw [← trim, trimmed, List.dropWhile_cons_of_pos visible, List.length_cons] at longest
        omega
  · intro unit found
    rw [← trimmed] at found
    exact trim_last found

theorem Solid.ends {text : JsString} (solid : Solid text) : Ends text :=
  ⟨fun unit found => solid unit (List.mem_of_head? found), fun unit found => solid unit (List.mem_of_getLast? found)⟩

/-- What is between two texts does not matter. -/
theorem Ends.append {first second : JsString} (middle : JsString) (left : Ends first) (right : Ends second)
    (someLeft : first ≠ []) (someRight : second ≠ []) : Ends (first ++ middle ++ second) := by
  constructor
  · intro unit found
    obtain ⟨head, rest, rfl⟩ := List.exists_cons_of_ne_nil someLeft
    exact left.first unit found
  · intro unit found
    rw [List.getLast?_append_of_ne_nil _ someRight] at found
    exact right.last unit found

/-! ## Words and directives -/

theorem splitWord_append {word rest : JsString} (solid : Solid word) (stops : ∀ unit ∈ rest.head?, isSpace unit = true) :
    splitWord (word ++ rest) = (word, rest.dropWhile isSpace) := by
  have taken : (word ++ rest).takeWhile (fun unit => !isSpace unit) = word := by
    rw [List.takeWhile_append_of_pos fun unit member => by rw [solid unit member]; rfl]
    cases rest with
    | nil => rw [List.takeWhile_nil, List.append_nil]
    | cons unit rest =>
        rw [List.takeWhile_cons_of_neg (by rw [stops unit rfl]; decide), List.append_nil]
  unfold splitWord
  dsimp only
  rw [taken, List.drop_left]

theorem splitWord_solid {word : JsString} (solid : Solid word) : splitWord word = (word, []) := by
  have whole := @splitWord_append word [] solid fun unit found => by cases found
  rw [List.append_nil] at whole
  exact whole

/-- A single space is dropped with the word before it. -/
theorem splitWord_space {word rest : JsString} (solid : Solid word) (ends : Ends rest) :
    splitWord (word ++ 32 :: rest) = (word, rest) := by
  rw [splitWord_append solid fun unit found => by cases found; decide, List.dropWhile_cons_of_pos (by decide)]
  cases rest with
  | nil => rfl
  | cons unit rest => rw [List.dropWhile_cons_of_neg (by rw [ends.first unit rfl]; decide)]

theorem directive_findings (digits : JsString) :
    directive (js "findings=" ++ digits) = some (.findings, digits) := by
  have lower : (js "findings=").map asciiLower = js "findings=" := by decide
  have length : (js "findings=").length = 9 := by decide
  unfold directive
  dsimp only
  rw [List.map_append, lower, if_pos (List.isPrefixOf_iff_prefix.mpr (List.prefix_append _ _)), ← length, List.drop_left]

/-- The first word of a question that does not start with a directive is not one. -/
theorem directive_of_undirected {text : JsString} (undirected : startsWithDirective text = false) :
    directive (splitWord text).1 = none := by
  have longer : ∀ key : JsString, key.isPrefixOf (text.map asciiLower) = false →
      key.isPrefixOf ((splitWord text).1.map asciiLower) = false := by
    intro key apart
    rw [Bool.eq_false_iff] at apart ⊢
    intro found
    refine apart (List.isPrefixOf_iff_prefix.mpr ((List.isPrefixOf_iff_prefix.mp found).trans ?_))
    exact (List.takeWhile_prefix _).map asciiLower
  rw [startsWithDirective, Bool.or_eq_false_iff] at undirected
  unfold directive
  dsimp only
  rw [longer _ undirected.1, longer _ undirected.2]
  rfl

theorem findingCount_decimal (count : FindingBound) : findingCount (signedDecimal count.val) = some count := by
  obtain ⟨number, lower, upper⟩ := count
  have cases_ : number = 1 ∨ number = 2 ∨ number = 3 ∨ number = 4 ∨ number = 5 ∨ number = 6 ∨ number = 7 ∨
      number = 8 ∨ number = 9 ∨ number = 10 ∨ number = 11 ∨ number = 12 := by omega
  rcases cases_ with rfl | rfl | rfl | rfl | rfl | rfl | rfl | rfl | rfl | rfl | rfl | rfl <;> rfl

theorem solid_count (count : FindingBound) : Solid (signedDecimal count.val) := by
  obtain ⟨number, lower, upper⟩ := count
  obtain ⟨number, rfl⟩ := Int.eq_ofNat_of_zero_le (Int.le_trans (by decide) lower)
  exact solid_decimal number

/-! ## Reading an objective back -/

/-- A question as a channel may write it. -/
structure PlainQuestion (text : JsString) : Prop where
  trimmed : trim text = text
  nonempty : text ≠ []
  short : text.length ≤ 2000
  undirected : startsWithDirective text = false

/-- Nothing is read from a question. -/
theorem readDirectives_question {question : JsString} (undirected : startsWithDirective question = false)
    (exact : Option FindingBound) (fuel : Nat) :
    readDirectives fuel ⟨exact, none, question⟩ = .ok ⟨exact, none, question⟩ := by
  cases fuel with
  | zero => rfl
  | succ fuel =>
      have none := directive_of_undirected undirected
      unfold readDirectives
      dsimp only
      rw [none]

/-- One count is read, and then the question as it stands. -/
theorem readDirectives_count (count : FindingBound) {text question : JsString}
    (word : splitWord text = (js "findings=" ++ signedDecimal count.val, question)) (trimmed : trim question = question)
    (undirected : startsWithDirective question = false) (fuel : Nat) :
    readDirectives (fuel + 1) ⟨none, none, text⟩ = .ok ⟨some count, none, question⟩ := by
  have key := directive_findings (signedDecimal count.val)
  unfold readDirectives
  dsimp only
  rw [word]
  dsimp only
  rw [key]
  dsimp only
  rw [findingCount_decimal]
  dsimp only
  rw [if_neg (fun missing => missing rfl), trimmed]
  exact readDirectives_question undirected (some count) fuel

/-- The kernel reads an objective that starts with a repository from the directives and the question after it. -/
theorem parse_of_directives {repo : RepoSlug} {objective rest : JsString} {read : Directives}
    (trimmed : trim objective = objective) (word : splitWord objective = (repo.val, rest)) (ends : trim rest = rest)
    (directives : readDirectives (rest.length + 1) ⟨none, none, rest⟩ = .ok read) (one : read.atMost = none)
    (short : read.rest.length ≤ 2000) :
    parseMissionObjective objective =
      .ok ⟨repo, if read.rest = [] then defaultMissionQuestion else read.rest, .ofDirectives read.exact none⟩ := by
  have default_ : defaultMissionQuestion.length ≤ 2000 := length_js_ofList_le _ (by decide)
  have within : ¬ 2000 < (if read.rest = [] then defaultMissionQuestion else read.rest).length := by
    split <;> omega
  unfold parseMissionObjective
  rw [trimmed, word]
  dsimp only
  rw [if_neg (solid_slug repo).2, Matching.parse_val]
  dsimp only
  rw [ends, directives]
  show (if read.exact ≠ none ∧ read.atMost ≠ none then _ else _) = _
  rw [if_neg (fun both => both.2 one), if_neg within, one]

theorem parse_bare (repo : RepoSlug) :
    parseMissionObjective repo.val = .ok ⟨repo, defaultMissionQuestion, .ofDirectives none none⟩ := by
  have solid := (solid_slug repo).1
  exact parse_of_directives (trim_of_ends solid.ends) (splitWord_solid solid) rfl
    (readDirectives_question (by decide) none _) rfl (Nat.zero_le _)

theorem parse_question (repo : RepoSlug) {question : JsString} (plain : PlainQuestion question) :
    parseMissionObjective (repo.val ++ 32 :: question) = .ok ⟨repo, question, .ofDirectives none none⟩ := by
  obtain ⟨solid, some_⟩ := solid_slug repo
  have asked := ends_of_trimmed plain.trimmed
  have whole : Ends (repo.val ++ 32 :: question) := by
    have joined := solid.ends.append [32] asked some_ plain.nonempty
    rw [List.append_assoc] at joined
    exact joined
  have parsed := parse_of_directives (trim_of_ends whole) (splitWord_space solid asked) plain.trimmed
    (readDirectives_question plain.undirected none _) rfl plain.short
  rw [if_neg plain.nonempty] at parsed
  exact parsed

theorem parse_count (repo : RepoSlug) (count : FindingBound) :
    parseMissionObjective (repo.val ++ 32 :: (js "findings=" ++ signedDecimal count.val)) =
      .ok ⟨repo, defaultMissionQuestion, .ofDirectives (some count) none⟩ := by
  obtain ⟨solid, some_⟩ := solid_slug repo
  have directive_ : Solid (js "findings=" ++ signedDecimal count.val) :=
    solid_findings.append (solid_count count)
  have visible : js "findings=" ++ signedDecimal count.val ≠ [] :=
    List.append_ne_nil_of_right_ne_nil _ (signedDecimal_ne_nil _)
  have whole : Ends (repo.val ++ 32 :: (js "findings=" ++ signedDecimal count.val)) := by
    have joined := solid.ends.append [32] directive_.ends some_ visible
    rw [List.append_assoc] at joined
    exact joined
  exact parse_of_directives (trim_of_ends whole) (splitWord_space solid directive_.ends)
    (trim_of_ends directive_.ends) (readDirectives_count count (splitWord_solid directive_) rfl (by decide) _) rfl
    (Nat.zero_le _)

theorem parse_count_question (repo : RepoSlug) (count : FindingBound) {question : JsString}
    (plain : PlainQuestion question) :
    parseMissionObjective (repo.val ++ 32 :: (js "findings=" ++ signedDecimal count.val ++ 32 :: question)) =
      .ok ⟨repo, question, .ofDirectives (some count) none⟩ := by
  obtain ⟨solid, some_⟩ := solid_slug repo
  have asked := ends_of_trimmed plain.trimmed
  have directive_ : Solid (js "findings=" ++ signedDecimal count.val) :=
    solid_findings.append (solid_count count)
  have visible : js "findings=" ++ signedDecimal count.val ≠ [] :=
    List.append_ne_nil_of_right_ne_nil _ (signedDecimal_ne_nil _)
  have later : Ends (js "findings=" ++ signedDecimal count.val ++ 32 :: question) := by
    have joined := directive_.ends.append [32] asked visible plain.nonempty
    rw [List.append_assoc] at joined
    exact joined
  have whole : Ends (repo.val ++ 32 :: (js "findings=" ++ signedDecimal count.val ++ 32 :: question)) := by
    have joined := solid.ends.append [32] later some_ (List.append_ne_nil_of_right_ne_nil _ (List.cons_ne_nil _ _))
    rw [List.append_assoc] at joined
    exact joined
  have parsed := parse_of_directives (trim_of_ends whole) (splitWord_space solid later) (trim_of_ends later)
    (readDirectives_count count (splitWord_space directive_ asked) plain.trimmed plain.undirected _) rfl plain.short
  rw [if_neg plain.nonempty] at parsed
  exact parsed

/-! ## What was asked for -/

def reviewClose : JsString :=
  js "improvements to reliability or operational usefulness. Every finding must cite exact repository evidence."

/-- The question of a review. -/
def reviewQuestion (count : Nat) : JsString :=
  js "Review the repository and identify the " ++ decimal count ++ js " highest-value concrete "
    ++ reviewClose

def askedQuestion (command : MissionKind) (findings : Option Nat) : JsString :=
  match command with
  | .brief => defaultMissionQuestion
  | .review => reviewQuestion (findings.getD defaultReviewFindings)

def askedFindings (command : MissionKind) (findings : Option Nat) : Option Nat :=
  match command with
  | .brief => findings
  | .review => some (findings.getD defaultReviewFindings)

theorem reviewQuestion_head (count : Nat) : ∃ rest, reviewQuestion count = 82 :: rest := by
  have lead : js "Review the repository and identify the " =
      82 :: js "eview the repository and identify the " := by
    rw [js_ofList, js_ofList]
    rfl
  exact ⟨_, by rw [reviewQuestion, lead, List.cons_append, List.cons_append, List.cons_append]⟩

theorem reviewQuestion_plain {count : Nat} (small : count ≤ 12) : PlainQuestion (reviewQuestion count) where
  trimmed := by
    have tail : reviewClose.getLast? = some 46 := by
      rw [reviewClose, js_ofList]
      rfl
    have some_ : reviewClose ≠ [] := by
      intro empty
      rw [empty] at tail
      cases tail
    refine trim_of_ends ⟨?_, ?_⟩
    · intro unit found
      obtain ⟨rest, head⟩ := reviewQuestion_head count
      rw [head] at found
      cases found
      decide
    · intro unit found
      rw [reviewQuestion, List.getLast?_append_of_ne_nil _ some_, tail] at found
      cases found
      decide
  nonempty := by
    obtain ⟨rest, head⟩ := reviewQuestion_head count
    rw [head]
    exact List.cons_ne_nil _ _
  short := by
    have lead : (js "Review the repository and identify the ").length ≤ 200 := length_js_ofList_le _ (by decide)
    have value : (js " highest-value concrete ").length ≤ 200 := length_js_ofList_le _ (by decide)
    have close : reviewClose.length ≤ 400 :=
      length_js_ofList_le _ (by decide)
    have number := @length_decimal_le count 2 (by decide) (by omega)
    unfold reviewQuestion
    simp only [List.length_append]
    omega
  undirected := by
    obtain ⟨rest, head⟩ := reviewQuestion_head count
    have findings : js "findings=" = 102 :: js "indings=" := by decide
    have most : js "max-findings=" = 109 :: js "ax-findings=" := by decide
    rw [head, startsWithDirective, findings, most, List.map_cons]
    rfl

/-! ## Commands -/

theorem parseFindings_bounds {token : JsString} {count : Nat} (parsed : parseFindings token = some count) :
    1 ≤ count ∧ count ≤ 12 := by
  unfold parseFindings at parsed
  dsimp only at parsed
  split at parsed
  · next accepted =>
      cases parsed
      exact accepted.2.2.2
  · cases parsed

/-- The count of a mission command is within the bounds of a contract. -/
theorem missionTokens_bounds {args : List JsString} {repo : Option RepoSlug} {found : RepoSlug}
    {findings read : Option Nat} (bounded : ∀ count ∈ findings, 1 ≤ count ∧ count ≤ 12)
    (tokens : missionTokens args repo findings = some (found, read)) : ∀ count ∈ read, 1 ≤ count ∧ count ≤ 12 := by
  induction args generalizing repo findings with
  | nil =>
      rw [missionTokens, Option.map_eq_some_iff] at tokens
      obtain ⟨_, -, same⟩ := tokens
      cases same
      exact bounded
  | cons token rest ih =>
      unfold missionTokens at tokens
      split at tokens
      · split at tokens
        · next count parsed =>
            refine ih (fun other member => ?_) tokens
            cases member
            exact parseFindings_bounds parsed
        · cases tokens
      · split at tokens
        · exact ih bounded tokens
        · cases tokens

theorem bounds_of_missionCommand {kind command : MissionKind} {args : List JsString} {repo : RepoSlug}
    {findings : Option Nat} (parsed : missionCommand kind args = .mission command repo findings) :
    ∀ count ∈ findings, 1 ≤ count ∧ count ≤ 12 := by
  unfold missionCommand at parsed
  split at parsed
  · cases parsed
  · split at parsed
    · cases parsed
    · next found read tokens =>
        split at parsed
        · cases parsed
          exact missionTokens_bounds (fun count member => by cases member) tokens
        · cases parsed

/-- A mission comes from a command with that name and its arguments. -/
theorem missionCommand_of_parseCommand {platform : Platform} {text : JsString} {command : MissionKind} {repo : RepoSlug}
    {findings : Option Nat} (parsed : parseCommand platform text = .mission command repo findings) :
    ∃ kind args, missionCommand kind args = .mission command repo findings := by
  unfold parseCommand at parsed
  dsimp only at parsed
  repeat' split at parsed
  all_goals first
    | exact ⟨_, _, parsed⟩
    | cases parsed

/-- The count of a command as a bound of the contract. -/
theorem exists_bound {count : Nat} (bounds : 1 ≤ count ∧ count ≤ 12) : ∃ bound : FindingBound, bound.val = count :=
  ⟨⟨count, by omega, by omega⟩, rfl⟩

theorem parse_missionObjective {command : MissionKind} {repo : RepoSlug} {findings : Option Nat}
    (bounds : ∀ count ∈ findings, 1 ≤ count ∧ count ≤ 12) :
    ∃ objective, parseMissionObjective (missionObjective command repo findings) = .ok objective ∧
      objective.repo = repo ∧
      objective.contract.requestedFindings.map Subtype.val = (askedFindings command findings).map Nat.cast ∧
      objective.question = askedQuestion command findings := by
  have spaced : js " findings=" = 32 :: js "findings=" := by decide
  cases command with
  | brief =>
      cases findings with
      | none => exact ⟨_, parse_bare repo, rfl, rfl, rfl⟩
      | some count =>
          obtain ⟨bound, value⟩ := exists_bound (bounds count rfl)
          have parsed := parse_count repo bound
          rw [value] at parsed
          have whole : missionObjective .brief repo (some count) =
              repo.val ++ 32 :: (js "findings=" ++ decimal count) := by
            rw [missionObjective, spaced, List.append_assoc, List.cons_append]
          rw [whole]
          exact ⟨_, parsed, rfl, congrArg some value, rfl⟩
  | review =>
      have small : 1 ≤ findings.getD defaultReviewFindings ∧ findings.getD defaultReviewFindings ≤ 12 := by
        cases findings with
        | none => exact ⟨by decide, by decide⟩
        | some count => exact bounds count rfl
      obtain ⟨bound, value⟩ := exists_bound small
      have parsed := parse_count_question repo bound (reviewQuestion_plain small.2)
      rw [value] at parsed
      have lead : js " Review the repository and identify the " =
          32 :: js "Review the repository and identify the " := by
        rw [js_ofList, js_ofList]
        rfl
      have whole : missionObjective .review repo findings = repo.val ++ 32 :: (js "findings=" ++
          decimal (findings.getD defaultReviewFindings) ++ 32 :: reviewQuestion (findings.getD defaultReviewFindings)) := by
        rw [missionObjective, spaced, lead, reviewQuestion, reviewClose]
        simp only [List.append_assoc, List.cons_append]
      rw [whole]
      exact ⟨_, parsed, rfl, congrArg some value, rfl⟩

/-! ## Round trips -/

theorem AnalysisQuestion.plain (question : AnalysisQuestion) : PlainQuestion question.text := by
  have bounded := question.bounded
  simp only [lengthWithin, Bool.and_eq_true, decide_eq_true_eq] at bounded
  exact ⟨question.trimmed, List.ne_nil_of_length_pos bounded.1, bounded.2, question.undirected⟩

/-- The parts of the objective, each after a space. -/
theorem analysisObjective_eq (args : AnalysisArgs) : analysisObjective args =
    args.repo.val ++ (args.findings.elim [] fun count => 32 :: (js "findings=" ++ signedDecimal count.val)) ++
      args.question.elim [] fun question => 32 :: question.text := by
  obtain ⟨requestId, repo, findings, question⟩ := args
  cases findings <;> cases question <;>
    simp [analysisObjective, List.intercalate_cons_cons, List.intercalate_singleton]

theorem parse_analysisObjective (args : AnalysisArgs) :
    parseMissionObjective (analysisObjective args) =
      .ok ⟨args.repo, (args.question.map fun question => question.text).getD defaultMissionQuestion,
        .ofDirectives args.findings none⟩ := by
  rw [analysisObjective_eq]
  obtain ⟨requestId, repo, findings, question⟩ := args
  cases findings with
  | none =>
      dsimp only [Option.elim]
      rw [List.append_nil]
      cases question with
      | none =>
          rw [List.append_nil]
          exact parse_bare repo
      | some question => exact parse_question repo question.plain
  | some count =>
      dsimp only [Option.elim]
      cases question with
      | none =>
          rw [List.append_nil]
          exact parse_count repo count
      | some question =>
          rw [List.append_assoc]
          exact parse_count_question repo count question.plain

/-- What a mission command or the analysis tool asks for is what the kernel reads from the objective. -/
theorem objectives_round_trip (platform : Platform) :
    (∀ text command repo findings, parseCommand platform text = .mission command repo findings →
      ∃ objective, parseMissionObjective (missionObjective command repo findings) = .ok objective ∧
        objective.repo = repo ∧
        objective.contract.requestedFindings.map Subtype.val = (askedFindings command findings).map Nat.cast ∧
        objective.question = askedQuestion command findings) ∧
    ∀ input args, AnalysisArgs.parse input = some args →
      ∃ objective, parseMissionObjective (analysisObjective args) = .ok objective ∧
        objective.repo = args.repo ∧ objective.contract.requestedFindings = args.findings ∧
        objective.question = (args.question.map fun question => question.text).getD defaultMissionQuestion := by
  refine ⟨?_, ?_⟩
  · intro text command repo findings parsed
    obtain ⟨kind, args, mission⟩ := missionCommand_of_parseCommand parsed
    exact parse_missionObjective (bounds_of_missionCommand mission)
  · intro input args _
    refine ⟨_, parse_analysisObjective args, rfl, ?_, rfl⟩
    cases args.findings with
    | none => rfl
    | some count => rfl

def sampleRepo : RepoSlug := ⟨js "orbit/lander", by decide +kernel⟩

/-- A call of the tool with a question. -/
def sampleCall : Json :=
  .obj [(js "request_id", .str (js "request-1")), (js "repo", .str (js "orbit/lander")),
    (js "question", .str (js " What next? "))]

/-- A command for four findings, and the call. -/
theorem sample_objectives_round_trip :
    (∃ objective, parseMissionObjective (missionObjective .review sampleRepo (some 4)) = .ok objective ∧
        objective.contract.requestedFindings.map Subtype.val = some 4 ∧
        objective.question = reviewQuestion 4) ∧
      ∃ args objective, AnalysisArgs.parse sampleCall = some args ∧
        parseMissionObjective (analysisObjective args) = .ok objective ∧
        objective.contract.requestedFindings = none ∧ objective.question = js "What next?" := by
  obtain ⟨commands, calls⟩ := objectives_round_trip Platform.ascii
  refine ⟨?_, ?_⟩
  · obtain ⟨objective, parsed, -, count, question⟩ :=
      commands (js " /Review findings=4 orbit/lander ") .review sampleRepo (some 4) (by decide +kernel)
    exact ⟨objective, parsed, count, question⟩
  · have read : (AnalysisArgs.parse sampleCall).map (fun args => (args.findings, args.question.map fun question => question.text)) =
        some (none, some (js "What next?")) := by
      decide +kernel
    obtain ⟨args, accepted, same⟩ := Option.map_eq_some_iff.mp read
    obtain ⟨objective, parsed, -, count, question⟩ := calls sampleCall args accepted
    obtain ⟨findings, asked⟩ := Prod.mk.inj same
    rw [findings] at count
    rw [asked] at question
    exact ⟨args, objective, accepted, parsed, count, question⟩

end KernelJson.Mcp.Analysis
