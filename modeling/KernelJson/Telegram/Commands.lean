import KernelJson.Contracts.Objective
import KernelJson.Contracts.Platform

/-!
# Commands and replies of the Telegram channel

The grammar of commands, which maps a text to one of a few requests and never
interprets anything else, and the fixed templates of the replies.  The templates
of the read-only views are applied by their readers: a view is a list of lines.
-/

namespace KernelJson.Telegram.Commands

open Contracts.Common
open Contracts.Objective
open Contracts.Platform
open Foundation
open Foundation.JsText

/-! ## Commands -/

inductive MissionKind where
  | brief
  | review
deriving DecidableEq

inductive Command where
  | status
  | mission (command : MissionKind) (repo : RepoSlug) (findings : Option Nat)
  | task (taskId : Id)
  | remember (text : JsString)
  | memories
  | memory (ref : JsString)
  | forget (ref : JsString)
  | malformed
deriving DecidableEq

inductive CommandKind where
  | status
  | mission
  | task
  | malformed
  | remember
  | memories
  | memory
  | forget
deriving DecidableEq

/-- `kindOf(command)`. -/
def Command.kind : Command → CommandKind
  | .status => .status
  | .mission _ _ _ => .mission
  | .task _ => .task
  | .remember _ => .remember
  | .memories => .memories
  | .memory _ => .memory
  | .forget _ => .forget
  | .malformed => .malformed

def defaultReviewFindings : Nat := 3

def maxCommandChars : Nat := 200

def maxRememberChars : Nat := 1000

/-- `text.split(/\s+/)` of a trimmed text. -/
def words (text : JsString) : List JsString :=
  (text.splitOnP isSpace).filter fun word => word ≠ []

/-- `/^findings=(\d{1,2})$/` with a count between 1 and the hard maximum. -/
def parseFindings (token : JsString) : Option Nat :=
  let digits := token.drop (js "findings=").length
  if js "findings=" <+: token ∧ lengthWithin 1 2 digits = true ∧ digits.all isDigitUnit = true ∧
      1 ≤ readDigits digits ∧ readDigits digits ≤ 12 then some (readDigits digits)
  else none

/-- `/^[0-9a-f-]{6,36}$/i`. -/
def isMemoryRef (text : JsString) : Bool :=
  lengthWithin 6 36 text && text.all fun unit => isHexUnit unit || isHyphen unit

/-- The mission objective of a command, in the grammar of the door. -/
def missionObjective (command : MissionKind) (repo : RepoSlug) (findings : Option Nat) : JsString :=
  match command, findings with
  | .brief, none => repo.val
  | .brief, some count => repo.val ++ js " findings=" ++ decimal count
  | .review, findings =>
      let count := findings.getD defaultReviewFindings
      repo.val ++ js " findings=" ++ decimal count ++ js " Review the repository and identify the "
        ++ decimal count ++ js " highest-value concrete "
        ++ js "improvements to reliability or operational usefulness. Every finding must cite exact repository evidence."

/-- The repository and the count of a mission command, each given at most once. -/
def missionTokens : List JsString → Option RepoSlug → Option Nat → Option (RepoSlug × Option Nat)
  | [], repo, findings => repo.map fun found => (found, findings)
  | token :: rest, repo, findings =>
      if js "findings=" <+: token then
        match findings, parseFindings token with
        | none, some count => missionTokens rest repo (some count)
        | _, _ => none
      else
        match repo, Matching.parse isRepoSlug token with
        | none, some slug => missionTokens rest (some slug) findings
        | _, _ => none

def missionCommand (command : MissionKind) (args : List JsString) : Command :=
  if args.length < 1 ∨ 2 < args.length then .malformed
  else
    match missionTokens args none none with
    | none => .malformed
    | some (repo, findings) =>
        if (parseMissionObjective (missionObjective command repo findings)).isOk then .mission command repo findings
        else .malformed

variable (platform : Platform)

/-- `parseCommand(text)`. -/
def parseCommand (text : JsString) : Command :=
  let trimmed := trim text
  match words trimmed with
  | [] => .malformed
  | head :: args =>
      if maxCommandChars + maxRememberChars < trimmed.length ∨ ¬ js "/" <+: trimmed then .malformed
      else
        let name := platform.toLowerCase (beforeUnit 64 (head.drop 1))
        if name = js "remember" then
          let body := trim (trimmed.drop head.length)
          if lengthWithin 1 maxRememberChars body then .remember body else .malformed
        else if maxCommandChars < trimmed.length then .malformed
        else if name = js "memories" then if args = [] then .memories else .malformed
        else if name = js "memory" ∨ name = js "forget" then
          match args with
          | [ref] =>
              if isMemoryRef ref = false then .malformed
              else if name = js "memory" then .memory (platform.toLowerCase ref)
              else .forget (platform.toLowerCase ref)
          | _ => .malformed
        else if name = js "status" then if args = [] then .status else .malformed
        else if name = js "task" then
          match args with
          | [ref] => if wellFormed : isUuid ref = true then .task (Id.column ⟨ref, wellFormed⟩) else .malformed
          | _ => .malformed
        else if name = js "brief" then missionCommand .brief args
        else if name = js "review" then missionCommand .review args
        else .malformed

/-! ## Replies -/

inductive AdmitFailure where
  | unavailable
  | rejected
  | conflict
deriving DecidableEq

/-- What a reply says; a view is what a read-only query shows. -/
inductive ReplyInput where
  | usage
  | rateLimited (perMinute : Nat)
  | capExceeded (used cap : Nat)
  | admitted (command : MissionKind) (repo : RepoSlug) (findings : Option Nat) (taskId : Id) (used cap : Nat)
  | admissionFailed (reason : AdmitFailure)
  | view (lines : List JsString)
  | taskNotFound (taskId : Id)
  | taskUnavailable
  | memoryOff
  | memoryUnavailable
deriving DecidableEq

def maxReplyChars : Nat := 3000

/-- Newlines and printable characters. -/
def isShown (unit : UInt16) : Bool :=
  unit == 10 || (32 ≤ unit.toNat && unit != 127)

/-- `stripControls(text)`. -/
def stripControls (text : JsString) : JsString := text.filter isShown

def joinLines : List JsString → JsString
  | [] => []
  | [line] => line
  | line :: next :: rest => line ++ 10 :: joinLines (next :: rest)

/-- `mint(lines)`. -/
def mint (lines : List JsString) : JsString := (stripControls (joinLines lines)).take maxReplyChars

/-- A field that fails its guard prints as a question mark. -/
def guarded (accepts : JsString → Bool) (text : JsString) : JsString :=
  if accepts text then text else js "?"

/-- `n(value)`. -/
def count (value : Nat) : JsString :=
  if value ≤ 9007199254740991 then decimal value else js "?"

/-- `/^[A-Za-z0-9][A-Za-z0-9-]{0,38}\/[A-Za-z0-9._-]{1,100}$/`. -/
def isShownRepo (text : JsString) : Bool :=
  let owner := beforeUnit 47 text
  match text.drop owner.length with
  | _ :: name =>
      isOwner owner && lengthWithin 1 100 name
        && name.all fun unit => isAlphanumericUnit unit || unit == 46 || unit == 95 || unit == 45
  | [] => false

def isLowerHexUnit (unit : UInt16) : Bool := isHexUnit unit && !isUpperUnit unit

/-- `/^[0-9a-f]{8}-[0-9a-f]{4}-[0-9a-f]{4}-[0-9a-f]{4}-[0-9a-f]{12}$/`. -/
def isShownUuid (text : JsString) : Bool :=
  fitsShape (List.replicate 8 isLowerHexUnit ++ isHyphen :: List.replicate 4 isLowerHexUnit
    ++ isHyphen :: List.replicate 4 isLowerHexUnit ++ isHyphen :: List.replicate 4 isLowerHexUnit
    ++ isHyphen :: List.replicate 12 isLowerHexUnit) text

def usageLines : List JsString :=
  [js "KernelJSON commands:", js "/status", js "/brief owner/repo [findings=N]",
    js "/review owner/repo [findings=N]", js "/task <task id>", js "/remember <text>", js "/memories",
    js "/memory <id>", js "/forget <id>"]

def findingsText (command : MissionKind) : Option Nat → JsString
  | none =>
      match command with
      | .review => js "3 findings (default)"
      | .brief => js "default contract"
  | some number => js "exactly " ++ count number ++ js " findings"

def admitFailureText : AdmitFailure → JsString
  | .unavailable =>
      js "The admission door did not answer. Nothing was started. Send the command again in a moment."
  | .conflict => js "The door refused that request as a conflict. Nothing was started."
  | .rejected => js "The door refused that request. Nothing was started."

/-- The lines that a reply is minted from. -/
def replyLines : ReplyInput → List JsString
  | .usage => js "That is not a command I act on." :: usageLines
  | .rateLimited perMinute =>
      [js "Too many commands: the limit is " ++ count perMinute ++ js " a minute. Try again shortly."]
  | .capExceeded used cap =>
      [js "Daily mission cap reached (" ++ count used ++ js " of " ++ count cap ++ js " today, UTC).",
        js "Nothing was started. /status and /task still work."]
  | .admitted command repo findings taskId used cap =>
      [js "Started a " ++ (match command with | .review => js "review" | .brief => js "brief") ++ js " of "
          ++ guarded isShownRepo repo.val ++ js ": " ++ findingsText command findings ++ js ".",
        js "Task " ++ guarded isShownUuid taskId.text,
        js "Missions today: " ++ count used ++ js " of " ++ count cap ++ js ".",
        js "Check progress with /task <id>. A notice arrives when it finishes."]
  | .admissionFailed reason => [admitFailureText reason]
  | .view lines => lines
  | .taskNotFound taskId => [js "No task " ++ guarded isShownUuid taskId.text ++ js " that I can see."]
  | .taskUnavailable => [js "I could not read that task just now. Try again in a moment."]
  | .memoryOff => [js "Memory is not switched on for this deployment."]
  | .memoryUnavailable =>
      [js "I could not reach memory just now. Nothing was changed. Try again in a moment."]

def renderReply (reply : ReplyInput) : JsString := mint (replyLines reply)

/-- The replies to an admission all begin with the same letter. -/
theorem renderReply_admitted (command : MissionKind) (repo : RepoSlug) (findings : Option Nat) (taskId : Id)
    (used cap : Nat) : (renderReply (.admitted command repo findings taskId used cap)).head? = some 83 := by
  have shown : isShown 83 = true := by decide
  have first : js "Started a " = 83 :: js "tarted a " := by decide
  simp [renderReply, replyLines, mint, stripControls, joinLines, maxReplyChars, first, List.filter_cons, shown]

/-- A command may name the bot, and gives its count before or after the repository. -/
example : parseCommand .ascii (js " /Review@KernelJsonBot findings=4 acme/rockets ") =
    .mission .review ⟨js "acme/rockets", by decide +kernel⟩ (some 4) := by
  decide +kernel

end KernelJson.Telegram.Commands
