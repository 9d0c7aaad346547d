import KernelJson.Contracts.Common
import KernelJson.Contracts.Platform
import KernelJson.Contracts.Task
import KernelJson.Foundation.Patterns

/-!
# The promotion policy of canonical memory

What a source may submit, the shapes of credentials, and the table that decides
what a candidate may become.  The origin comes from the entry point that was
called and never from the candidate.
-/

namespace KernelJson.Memory.Policy

open Contracts.Common
open Contracts.Platform
open Foundation.JsText
open Foundation.Patterns

/-! ## Submissions -/

inductive MemoryClass where
  | fact
  | preference
  | decision
  | commitment
  | lesson
  | episode
  | relationship
  | projectKnowledge
deriving DecidableEq

def MemoryClass.text : MemoryClass → JsString
  | .fact => js "FACT"
  | .preference => js "PREFERENCE"
  | .decision => js "DECISION"
  | .commitment => js "COMMITMENT"
  | .lesson => js "LESSON"
  | .episode => js "EPISODE"
  | .relationship => js "RELATIONSHIP"
  | .projectKnowledge => js "PROJECT_KNOWLEDGE"

inductive MemoryOrigin where
  | operatorInstruction
  | verifiedOutcome
  | modelProposal
  | sharedBrain
deriving DecidableEq

inductive TrustClass where
  | userAuthored
  | internalDerived
  | modelDerived
  | untrustedExternal

/-- `TRUST_FOR_ORIGIN`. -/
def trustForOrigin : MemoryOrigin → TrustClass
  | .operatorInstruction => .userAuthored
  | .verifiedOutcome => .internalDerived
  | .modelProposal => .modelDerived
  | .sharedBrain => .untrustedExternal

inductive MemoryIntent where
  | new
  | correct
  | supersede
  | retract
deriving DecidableEq

def MemoryIntent.text : MemoryIntent → JsString
  | .new => js "NEW"
  | .correct => js "CORRECT"
  | .supersede => js "SUPERSEDE"
  | .retract => js "RETRACT"

inductive EvidenceRefType where
  | telegramUpdate
  | taskEvidence
  | memoryVersion
  | externalDocument
  | modelCall
deriving DecidableEq

def EvidenceRefType.text : EvidenceRefType → JsString
  | .telegramUpdate => js "TELEGRAM_UPDATE"
  | .taskEvidence => js "TASK_EVIDENCE"
  | .memoryVersion => js "MEMORY_VERSION"
  | .externalDocument => js "EXTERNAL_DOCUMENT"
  | .modelCall => js "MODEL_CALL"

structure MemoryEvidenceRef where
  type : EvidenceRefType
  ref : JsString
  digest : Option JsString

inductive SubjectKind where
  | principal
  | project
  | tenant
deriving DecidableEq

def SubjectKind.text : SubjectKind → JsString
  | .principal => js "PRINCIPAL"
  | .project => js "PROJECT"
  | .tenant => js "TENANT"

structure MemorySubject where
  kind : SubjectKind
  ref : JsString
deriving DecidableEq

/-- A submission as it arrives, with its texts as they were typed. -/
structure RawSubmission where
  idempotencyKey : JsString
  class_ : MemoryClass
  content : JsString
  subject : MemorySubject
  evidence : List MemoryEvidenceRef
  reason : JsString
  intent : Option MemoryIntent
  targetMemoryId : Option JsString

structure CandidateSubmission where
  idempotencyKey : JsString
  class_ : MemoryClass
  content : JsString
  subject : MemorySubject
  evidence : List MemoryEvidenceRef
  reason : JsString
  intent : MemoryIntent
  targetMemoryId : Option Id

def maxMemoryContentChars : Nat := 2000

/-- `z.string().trim().min(least).max(most)`. -/
def parseBounded (least most : Nat) (text : JsString) : Option JsString :=
  if least ≤ (trim text).length ∧ (trim text).length ≤ most then some (trim text) else none

def MemoryEvidenceRef.parse (evidence : MemoryEvidenceRef) : Option MemoryEvidenceRef := do
  let ref ← parseBounded 1 200 evidence.ref
  if evidence.digest.all isSha256Text = true then some { evidence with ref := ref } else none

def MemorySubject.parse (subject : MemorySubject) : Option MemorySubject := do
  let ref ← parseBounded 1 200 subject.ref
  some { subject with ref := ref }

def parseTarget : Option JsString → Option (Option Id)
  | none => some none
  | some text => if shape : isUuid text = true then some (some ⟨text, shape⟩) else none

/-- `CandidateSubmission.parse`; a value that is not a record of this shape fails as well. -/
def CandidateSubmission.parse (raw : Option RawSubmission) : Option CandidateSubmission := do
  let raw ← raw
  let idempotencyKey ← parseBounded 8 200 raw.idempotencyKey
  let subject ← raw.subject.parse
  let evidence ← raw.evidence.mapM MemoryEvidenceRef.parse
  let reason ← parseBounded 1 500 raw.reason
  let target ← parseTarget raw.targetMemoryId
  let intent := raw.intent.getD .new
  if raw.content.length ≤ maxMemoryContentChars ∧ 1 ≤ evidence.length ∧ evidence.length ≤ 8 ∧
      (intent = .new ↔ target = none) ∧ (intent = .retract ∨ trim raw.content ≠ []) then
    some ⟨idempotencyKey, raw.class_, raw.content, subject, evidence, reason, intent, target⟩
  else none

/-! ## Shapes of credentials -/

def oneOf (units : String) (unit : UInt16) : Bool := (js units).contains unit

def isTokenUnit (unit : UInt16) : Bool := isAlphanumericUnit unit || oneOf "_-" unit

def exactly (text : String) : Pattern := .text (· == ·) (js text)

/-- A text whose units are compared without regard to their case, as under the flag `i`. -/
def anyCase (text : String) : Pattern := .text (fun wanted unit => asciiLower unit == wanted) (js text)

def githubToken : Pattern :=
  .alt (.sequence [exactly "gh", .unit (oneOf "pousr"), exactly "_", .atLeast 30 isAlphanumericUnit])
    (.sequence [exactly "github_pat_", .atLeast 30 fun unit => isAlphanumericUnit unit || oneOf "_" unit])

def urlWithPassword : Pattern :=
  .sequence [.unit isLowerUnit, .atLeast 0 fun unit => isLowerUnit unit || isDigitUnit unit || oneOf "+.-" unit,
    exactly "://", .atLeast 1 fun unit => !oneOf " /:@" unit, exactly ":", .atLeast 1 fun unit => !oneOf " /@" unit,
    exactly "@"]

def assignedName : Pattern :=
  .alt (anyCase "password") (.alt (anyCase "passwd") (.alt (anyCase "secret")
    (.alt (.sequence [anyCase "api", .run (oneOf "_-") 0 (some 1), anyCase "key"]) (anyCase "token"))))

/-- `SECRET_SHAPES`. -/
def secretShapes : List (JsString × Pattern) :=
  [(js "api-key", .sequence [exactly "sk-", .atLeast 20 isTokenUnit]),
    (js "github-token", githubToken),
    (js "aws-access-key",
      .sequence [exactly "AKIA", .run (fun unit => isDigitUnit unit || isUpperUnit unit) 16 (some 16)]),
    (js "slack-token", .sequence [exactly "xox", .unit (oneOf "baprs"), exactly "-",
      .atLeast 10 fun unit => isAlphanumericUnit unit || oneOf "-" unit]),
    (js "telegram-bot-token",
      .sequence [.run isDigitUnit 6 (some 12), exactly ":", .run isTokenUnit 35 (some 35)]),
    (js "private-key", .sequence [exactly "-----BEGIN ",
      .atLeast 0 fun unit => isUpperUnit unit || oneOf " " unit, exactly "PRIVATE KEY-----"]),
    (js "jwt", .sequence [exactly "eyJ", .atLeast 10 isTokenUnit, exactly ".", exactly "eyJ",
      .atLeast 10 isTokenUnit, exactly ".", .atLeast 10 isTokenUnit]),
    (js "bearer-credential", .sequence [.unit (oneOf "Bb"), exactly "earer ",
      .atLeast 20 fun unit => isAlphanumericUnit unit || oneOf "._~+/-" unit]),
    (js "url-with-password", urlWithPassword),
    (js "assigned-secret", .sequence [assignedName, .atLeast 0 (oneOf " "), .unit (oneOf ":="),
      .atLeast 0 (oneOf " "), .atLeast 12 fun unit => isAlphanumericUnit unit || oneOf "_+/=-" unit])]

/-- `looksLikeSecret(text)`: the name of the first shape that the text shows. -/
def looksLikeSecret (text : JsString) : Option JsString :=
  (secretShapes.find? fun shape => shape.2.test text).map Prod.fst

/-! ## The policy -/

inductive PolicyOutcome where
  | allow
  | requireApproval
  | hold
  | refuse
deriving DecidableEq

structure PolicyDecisionResult where
  decision : PolicyOutcome
  ruleId : JsString
  reason : JsString
  protected_ : Bool

def noSecrets : JsString := js "no-secrets"

def secretReason (shape : JsString) : JsString :=
  js "content looks like a credential (" ++ shape ++ js "); a memory is never a place for one"

def decideOutcome (candidate : CandidateSubmission) : PolicyDecisionResult :=
  if candidate.evidence.any (fun evidence => evidence.type = .taskEvidence) = false then
    ⟨.refuse, js "outcome-needs-task-evidence", js "a verified-outcome candidate must cite task evidence", false⟩
  else if candidate.intent ≠ .new then
    ⟨.refuse, js "outcome-new-only", js "a verified outcome can only propose a new memory", false⟩
  else if candidate.class_ = .episode then
    ⟨.allow, js "outcome-episode", js "a verified task outcome may be recorded as an episode", false⟩
  else if candidate.class_ = .lesson ∨ candidate.class_ = .decision then
    ⟨.requireApproval, js "outcome-lesson-approval",
      js "a lesson or decision drawn from an outcome needs a human to approve it", false⟩
  else
    ⟨.refuse, js "outcome-class", js "a verified outcome can only propose an EPISODE, LESSON or DECISION", false⟩

def relationshipDisabled : JsString :=
  js "RELATIONSHIP-class memory promotion is disabled: it would use a known-broken no-admission approval flow " ++
    js "(ADR-0021 P5 fence). Submit identity-adjacent changes through identity-change/v1 instead."

/-- `decidePromotion({ origin, candidate, targetClass })`. -/
def decidePromotion (origin : MemoryOrigin) (candidate : CandidateSubmission) (targetClass : Option MemoryClass) :
    PolicyDecisionResult :=
  let isProtected := candidate.class_ == .relationship || targetClass == some .relationship
  match looksLikeSecret candidate.content with
  | some shape => ⟨.refuse, noSecrets, secretReason shape, false⟩
  | none =>
      match origin with
      | .modelProposal =>
          ⟨.hold, js "model-candidate-only", js "model output can only ever be a candidate", isProtected⟩
      | .sharedBrain =>
          ⟨.hold, js "shared-brain-candidate-only", js "external knowledge can only ever be a candidate", isProtected⟩
      | .verifiedOutcome => decideOutcome candidate
      | .operatorInstruction =>
          if isProtected then ⟨.refuse, js "relationship-promotion-disabled", relationshipDisabled, true⟩
          else ⟨.allow, js "operator-instruction",
            js "an explicit instruction from the authenticated operator", false⟩

theorem decidePromotion_of_secret {origin : MemoryOrigin} {candidate : CandidateSubmission}
    {targetClass : Option MemoryClass} {shape : JsString} (secret : looksLikeSecret candidate.content = some shape) :
    decidePromotion origin candidate targetClass = ⟨.refuse, noSecrets, secretReason shape, false⟩ := by
  simp only [decidePromotion, secret]

/-- What the policy allows, or sends to an approver, does not look like a secret. -/
theorem not_secret_of_decidePromotion {origin : MemoryOrigin} {candidate : CandidateSubmission}
    {targetClass : Option MemoryClass}
    (open_ : (decidePromotion origin candidate targetClass).decision ≠ .refuse) :
    looksLikeSecret candidate.content = none := by
  cases secret : looksLikeSecret candidate.content with
  | none => rfl
  | some shape =>
      rw [decidePromotion_of_secret secret] at open_
      exact absurd rfl open_

/-- A source that is not trusted never gets more than a held candidate. -/
theorem decision_of_untrusted {origin : MemoryOrigin} {candidate : CandidateSubmission}
    {targetClass : Option MemoryClass} (untrusted : origin = .modelProposal ∨ origin = .sharedBrain) :
    (decidePromotion origin candidate targetClass).decision = .hold ∨
      (decidePromotion origin candidate targetClass).decision = .refuse := by
  unfold decidePromotion
  cases looksLikeSecret candidate.content with
  | some shape => exact .inr rfl
  | none =>
      rcases untrusted with rfl | rfl
      · exact .inl rfl
      · exact .inl rfl

end KernelJson.Memory.Policy
