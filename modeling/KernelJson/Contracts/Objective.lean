import KernelJson.Contracts.Platform
import KernelJson.Foundation.JsonCodec

/-!
# Mission objectives

The objective of a repository-analysis mission names a repository, then gives
directives, then a question.  The directives alone set the contract that the
analysis has to meet.  Also here: the families and slugs by which models are
told apart.
-/

namespace KernelJson.Contracts.Objective

open Contracts.Platform
open Foundation
open Foundation.JsText

/-! ## Models -/

/-- `model.indexOf("/")` and the text before it. -/
def beforeUnit (unit : UInt16) (text : JsString) : JsString :=
  text.takeWhile fun other => other != unit

/-- `text.slice(text.lastIndexOf(unit) + 1)`. -/
def afterLastUnit (unit : UInt16) (text : JsString) : JsString :=
  (text.reverse.takeWhile fun other => other != unit).reverse

section Models

variable (platform : Platform)

/-- `modelFamily(model)`: what stands before the slash, or before the first hyphen if no slash
follows a nonempty text. -/
def modelFamily (model : JsString) : JsString :=
  let vendor := beforeUnit 47 model
  platform.toLowerCase
    (if vendor ≠ [] ∧ vendor ≠ model then vendor else beforeUnit 45 model)

def modelSlug (model : JsString) : JsString :=
  platform.toLowerCase (afterLastUnit 47 model)

def sameModel (first second : JsString) : Bool :=
  modelSlug platform first == modelSlug platform second

def missionRuntimeFamilies : List JsString :=
  [js "anthropic", js "x-ai", js "deepseek"]

/-- One model by two routes, and the family of a bare model name. -/
example : sameModel .ascii (js "deepseek/DeepSeek-v4") (js "deepseek-v4") = true ∧
    modelFamily .ascii (js "deepseek-v4") = js "deepseek" ∧
    modelFamily .ascii (js "X-AI/grok") = js "x-ai" := by
  decide +kernel

end Models

/-! ## Repository names -/

def isOwner (text : JsString) : Bool :=
  lengthWithin 1 39 text && text.head?.all isAlphanumericUnit
    && text.all fun unit => isAlphanumericUnit unit || unit == 45

/-- A repository name: letters, digits, `.`, `_` and `-`, but not `.` or `..`. -/
def isRepositoryName (text : JsString) : Bool :=
  lengthWithin 1 100 text
    && (text.all fun unit => isAlphanumericUnit unit || unit == 46 || unit == 95 || unit == 45)
    && text != js "." && text != js ".."

/-- The pattern of `RepoSlug`. -/
def isRepoSlug (text : JsString) : Bool :=
  let owner := beforeUnit 47 text
  match text.drop owner.length with
  | _ :: name => isOwner owner && isRepositoryName name
  | [] => false

abbrev RepoSlug : Type := Matching isRepoSlug

/-! ## Output contracts -/

def missionHardMaxFindings : Int := 12

abbrev FindingBound : Type := Between 1 12

def missionDefaultMaxFindings : FindingBound := ⟨8, by decide⟩

/-- What the kernel requires of an analysis. -/
structure MissionContract where
  requestedFindings : Option FindingBound
  minFindings : FindingBound
  maxFindings : FindingBound
  ordered : minFindings.val ≤ maxFindings.val
  exact : ∀ count ∈ requestedFindings, minFindings = count ∧ maxFindings = count

def missionOutputSchema : JsString := js "repo-analysis-findings/v2"

namespace MissionContract

def boundCodec : Codec FindingBound := .between 1 12

def fields : FieldsCodec (Unit × Option FindingBound × FindingBound × FindingBound) :=
  .cons (js "outputSchema") (.literal missionOutputSchema)
    (.cons (js "requestedFindings") (.nullable boundCodec fun _ => Json.noConfusion)
      (.cons (js "minFindings") boundCodec
        (.field (js "maxFindings") boundCodec)
        (by decide +kernel))
      (by decide +kernel))
    (by decide +kernel)

/-- The refinements of the contract schema. -/
def Refined (raw : Unit × Option FindingBound × FindingBound × FindingBound) : Prop :=
  raw.2.2.1.val ≤ raw.2.2.2.val ∧ ∀ count ∈ raw.2.1, raw.2.2.1 = count ∧ raw.2.2.2 = count

instance : DecidablePred Refined := fun _ => inferInstanceAs (Decidable (_ ∧ _))

def codec : Codec MissionContract :=
  (fields.strict.refine Refined).transport
    (fun raw => ⟨raw.val.2.1, raw.val.2.2.1, raw.val.2.2.2, raw.property.1, raw.property.2⟩)
    (fun contract => ⟨((), contract.requestedFindings, contract.minFindings, contract.maxFindings),
      contract.ordered, contract.exact⟩)
    fun _ => rfl

/-- The contract that the directives of an objective set. -/
def ofDirectives : Option FindingBound → Option FindingBound → MissionContract
  | some count, _ => ⟨some count, count, count, le_refl _, fun _ found => by cases found; exact ⟨rfl, rfl⟩⟩
  | none, atMost =>
      ⟨none, ⟨1, by decide⟩, atMost.getD missionDefaultMaxFindings, (atMost.getD _).property.1,
        fun _ found => by cases found⟩

end MissionContract

/-! ## Objectives -/

inductive DirectiveKey where
  | findings
  | maxFindings
deriving DecidableEq

def DirectiveKey.text : DirectiveKey → String
  | .findings => "findings"
  | .maxFindings => "max-findings"

inductive ObjectiveError where
  | noRepository
  | invalidRepository
  | outOfRange (key : DirectiveKey)
  | setTwice (key : DirectiveKey)
  | bothSet
  | questionTooLong
deriving DecidableEq

/-- The messages that `parseMissionObjective` throws; an invalid name is reported by its schema. -/
def ObjectiveError.message : ObjectiveError → String
  | .noRepository => "Mission objective must start with owner/repo"
  | .invalidRepository => "Invalid repository name"
  | .outOfRange key => "Mission " ++ key.text ++ " must be a whole number from 1 to 12"
  | .setTwice key => "Mission " ++ key.text ++ " is set twice"
  | .bothSet => "Mission findings= and max-findings= cannot both be set"
  | .questionTooLong => "Mission question is too long"

/-- The first word of a text and what follows the white space after it. -/
def splitWord (text : JsString) : JsString × JsString :=
  let word := text.takeWhile fun unit => !isSpace unit
  (word, (text.drop word.length).dropWhile isSpace)

/-- A directive and its value, if the word is one; letters match in either case. -/
def directive (word : JsString) : Option (DirectiveKey × JsString) :=
  let lower := word.map asciiLower
  if (js "findings=").isPrefixOf lower then some (.findings, word.drop 9)
  else if (js "max-findings=").isPrefixOf lower then some (.maxFindings, word.drop 13)
  else none

/-- The number of one or two digits, if it is in range. -/
def findingCount (text : JsString) : Option FindingBound :=
  if lengthWithin 1 2 text && text.all isDigitUnit then
    let number : Int := text.foldl (fun total unit => total * 10 + (unit.toNat - 48 : Nat)) 0
    if inRange : 1 ≤ number ∧ number ≤ 12 then some ⟨number, inRange⟩ else none
  else none

/-- The directives read so far, and the text after them. -/
structure Directives where
  exact : Option FindingBound
  atMost : Option FindingBound
  rest : JsString

def Directives.get (state : Directives) : DirectiveKey → Option FindingBound
  | .findings => state.exact
  | .maxFindings => state.atMost

def Directives.set (state : Directives) (count : FindingBound) : DirectiveKey → Directives
  | .findings => { state with exact := some count }
  | .maxFindings => { state with atMost := some count }

/-- Directives straight after the repository; every one of them shortens the text. -/
def readDirectives : Nat → Directives → Except ObjectiveError Directives
  | 0, state => .ok state
  | fuel + 1, state =>
      let (word, rest) := splitWord state.rest
      match directive word with
      | none => .ok state
      | some (key, value) =>
          match findingCount value with
          | none => .error (.outOfRange key)
          | some count =>
              if state.get key ≠ none then .error (.setTwice key)
              else readDirectives fuel { state.set count key with rest := trim rest }

def defaultMissionQuestion : JsString :=
  js "Summarise the architecture, the main components, the biggest risks and the most important gaps."

structure MissionObjective where
  repo : RepoSlug
  question : JsString
  contract : MissionContract

def parseMissionObjective (objective : JsString) : Except ObjectiveError MissionObjective :=
  let (word, rest) := splitWord (trim objective)
  if word = [] then .error .noRepository
  else
    match Matching.parse isRepoSlug word with
    | none => .error .invalidRepository
    | some repo => do
        let start : Directives := ⟨none, none, trim rest⟩
        let read ← readDirectives (start.rest.length + 1) start
        if read.exact ≠ none ∧ read.atMost ≠ none then .error .bothSet
        else
          let question := if read.rest = [] then defaultMissionQuestion else read.rest
          if 2000 < question.length then .error .questionTooLong
          else .ok ⟨repo, question, .ofDirectives read.exact read.atMost⟩

/-! ## The fuel of the directive reader -/

theorem length_trim_le (text : JsString) : (trim text).length ≤ text.length :=
  le_trans (List.rdropWhile_prefix isSpace _).length_le (List.dropWhile_suffix isSpace).length_le

theorem directive_nil : directive [] = none := by
  decide +kernel

theorem splitWord_shorter {text : JsString} (nonempty : (splitWord text).1 ≠ []) :
    (splitWord text).2.length < text.length := by
  have pos : 0 < (text.takeWhile fun unit => !isSpace unit).length := List.length_pos_of_ne_nil nonempty
  have kept := (List.takeWhile_prefix (l := text) fun unit => !isSpace unit).length_le
  have tail := (List.dropWhile_suffix (l := text.drop (text.takeWhile fun unit => !isSpace unit).length)
    isSpace).length_le
  rw [List.length_drop] at tail
  show (List.dropWhile isSpace _).length < text.length
  omega

/-- Fuel above the length of the text is always enough: more of it changes nothing. -/
theorem readDirectives_fuel {fuel : Nat} {state : Directives} (enough : state.rest.length < fuel) (more : Nat) :
    readDirectives (fuel + more) state = readDirectives fuel state := by
  induction fuel generalizing state with
  | zero => exact absurd enough (Nat.not_lt_zero _)
  | succ fuel ih =>
      rw [Nat.add_right_comm]
      simp only [readDirectives]
      cases found : directive (splitWord state.rest).1 with
      | none => rfl
      | some entry =>
          obtain ⟨key, value⟩ := entry
          have nonempty : (splitWord state.rest).1 ≠ [] := by
            intro empty
            rw [empty, directive_nil] at found
            cases found
          have shorter := splitWord_shorter nonempty
          have trimmed := length_trim_le (splitWord state.rest).2
          simp only
          cases findingCount value with
          | none => rfl
          | some count =>
              simp only
              split
              · rfl
              · apply ih
                show (trim _).length < fuel
                omega

/-- An exact count, in either case, before the question. -/
example : (parseMissionObjective (js " acme/Rockets  FINDINGS=3\n What next? ")).toOption.map
    (fun found => (found.repo.val, found.question, found.contract.maxFindings.val)) =
      some (js "acme/Rockets", js "What next?", 3) := by
  decide +kernel

end KernelJson.Contracts.Objective
