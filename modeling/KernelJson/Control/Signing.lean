import KernelJson.Contracts.PolicyGate
import KernelJson.Foundation.Base64Url
import KernelJson.Foundation.JsonCodec
import KernelJson.Foundation.JsonRoundTrip

/-!
# Signed control requests

The door signs each request to a workflow, and the worker rebuilds the signed
text from what it received.  The body is read twice, once on each side: by the
signer from the text or the bytes that it sends, and by the verifier from the
bytes that arrive.
-/

namespace KernelJson.Control.Signing

open Contracts.Common
open Contracts.Digest
open Contracts.Platform
open Contracts.PolicyGate
open Foundation
open Foundation.JsText

/-! ## The platform -/

/-- What the platform supplies: the hash of bytes, of which that of a text is a case, and HMAC-SHA256. -/
structure ControlPlatform extends Platform where
  sha256Bytes : List UInt8 → HexDigest
  hmac : JsString → JsString → HexDigest
  sha256_text : ∀ text, sha256 text = sha256Bytes (Utf8.encode text)

/-- A byte order mark. -/
def byteOrderMark : UInt16 := 0xFEFF

/-- `new TextDecoder("utf-8", { fatal: true }).decode(bytes)`, or `none` when it throws: the bytes are those of
their text, and one byte order mark at the start is dropped. -/
def decodeFatal (bytes : List UInt8) : Option JsString :=
  if Utf8.encode (Utf8.decode bytes) = bytes then
    match Utf8.decode bytes with
    | unit :: rest => if unit = byteOrderMark then some rest else some (unit :: rest)
    | [] => some []
  else none

/-! ## Requests -/

def controlVersion : JsString := js "1"

def controlDomain : JsString := js "kj-control/v1"

def minSigningKeyLength : Nat := 32

/-- `/^[A-Za-z0-9._-]{1,16}$/`. -/
def isKeyId (text : JsString) : Bool :=
  lengthWithin 1 16 text &&
    text.all fun unit => isAlphanumericUnit unit || unit == 46 || unit == 95 || unit == 45

/-- `/^[A-Za-z0-9_-]{22,64}$/`. -/
def isNonce (text : JsString) : Bool :=
  lengthWithin 22 64 text && text.all fun unit => isAlphanumericUnit unit || unit == 95 || unit == 45

/-- `/^[0-9]{1,12}$/`. -/
def isSeconds (text : JsString) : Bool :=
  lengthWithin 1 12 text && text.all isDigitUnit

inductive Body where
  | text (text : JsString)
  | bytes (bytes : List UInt8)

/-- The bytes that are sent. -/
def Body.sent : Body → List UInt8
  | .text given => Utf8.encode given
  | .bytes given => given

structure ControlRequest where
  service : JsString
  handler : JsString
  key : JsString
  body : Body

/-- The fields of the canonical payload but its version and method, which are fixed. -/
structure CanonicalFields where
  keyId : JsString
  service : JsString
  handler : JsString
  key : JsString
  tenantId : JsString
  principalId : JsString
  scopeDigest : JsString
  decision : JsString
  bodySha256 : JsString
  issuedAt : JsString
  nonce : JsString
deriving DecidableEq

def CanonicalFields.json (fields : CanonicalFields) : Json :=
  .arr ([controlVersion, fields.keyId, js "POST", fields.service, fields.handler, fields.key, fields.tenantId,
    fields.principalId, fields.scopeDigest, fields.decision, fields.bodySha256, fields.issuedAt,
    fields.nonce].map .str)

/-- `canonicalPayload(f)`. -/
def canonicalPayload (fields : CanonicalFields) : JsString :=
  controlDomain ++ js "\n" ++ fields.json.stringify

/-- No two tuples of fields have the same payload. -/
theorem canonicalPayload_injective : Function.Injective canonicalPayload := by
  intro first second same
  have texts : first.json.stringify = second.json.stringify := List.append_cancel_left same
  have readable : ∀ fields : CanonicalFields, JsonRoundTrip.Readable (fun _ => none) fields.json := by
    intro fields
    exact ⟨trivial, trivial, trivial, trivial, trivial, trivial, trivial, trivial, trivial, trivial, trivial, trivial,
      trivial, trivial⟩
  have values : some first.json = some second.json := by
    rw [← JsonRoundTrip.parse_stringify (readable first), texts, JsonRoundTrip.parse_stringify (readable second)]
  have fields := Json.arr.inj (Option.some.inj values)
  obtain ⟨_, _, _, _, _, _, _, _, _, _, _⟩ := first
  obtain ⟨_, _, _, _, _, _, _, _, _, _, _⟩ := second
  simpa using fields

def Answered.text : Answered → JsString
  | .granted => js "GRANTED"
  | .denied => js "DENIED"

def answered : Codec Answered :=
  .enum Answered.text [.granted, .denied] (fun decision => by cases decision <;> decide) (by decide +kernel)

theorem answer_names : js "scopeDigest" ∉ [js "decision"] := by
  decide +kernel

/-- `ApprovalAnswer`. -/
def approvalAnswer : Codec (Matching isSha256Text × Answered) :=
  (FieldsCodec.cons (js "scopeDigest") (.matching isSha256Text) (.field (js "decision") answered) answer_names).strict

section Signing

variable (platform : ControlPlatform)

/-- The text of a body that `approvalFields` parses. -/
def bodyText : Body → Option JsString
  | .text given => some given
  | .bytes given => decodeFatal given

/-- The answer that a body gives, if it is one. -/
def answerOf (body : Body) : Option (Matching isSha256Text × Answered) :=
  ((bodyText body).bind (JsonParse.parse platform.numeral)).bind approvalAnswer.read

/-- `approvalFields(handler, body)`: the scope digest and the decision. -/
def approvalFields (handler : JsString) (body : Body) : JsString × JsString :=
  if handler ≠ js "approve" then ([], [])
  else
    match answerOf platform body with
    | some (scopeDigest, decision) => (scopeDigest.val, Answered.text decision)
    | none => ([], [])

/-- `sha256Hex(body)`. -/
def bodyDigest : Body → JsString
  | .text given => hexText (platform.sha256 given)
  | .bytes given => hexText (platform.sha256Bytes given)

theorem hexText_injective : Function.Injective hexText := by
  have units : ∀ first second : Fin 16, Json.hexUnit first = Json.hexUnit second → first = second := by
    decide
  intro first second same
  funext position
  exact units _ _ (congrFun (List.ofFn_injective same) position)

/-- `mac(key, canonical)`. -/
def mac (key canonical : JsString) : JsString :=
  hexText (platform.hmac key canonical)

/-- `sameHex(a, b)`. -/
def sameHex (first second : JsString) : Bool :=
  isSha256Text first && isSha256Text second && first == second

/-! ## The signer -/

namespace Header

def version : JsString := js "x-kj-control-version"

def keyId : JsString := js "x-kj-control-key-id"

def timestamp : JsString := js "x-kj-control-timestamp"

def nonce : JsString := js "x-kj-control-nonce"

def bodySha256 : JsString := js "x-kj-control-body-sha256"

def signature : JsString := js "x-kj-control-signature"

end Header

/-- The options that `createControlSigner` accepts. -/
structure SignerOptions where
  keyId : JsString
  key : JsString
  keyIdValid : isKeyId keyId = true
  keyLong : minSigningKeyLength ≤ key.length

/-- The clock of the signer, in milliseconds, and the bytes behind its nonce. -/
structure SigningMoment where
  now : Between (-8640000000000000) 8640000000000000
  random : List UInt8
  sixteen : random.length = 16

/-- `Math.floor(now() / 1000)`. -/
def SigningMoment.seconds (moment : SigningMoment) : Int := moment.now.val / 1000

/-- The fields that the signer signs. -/
def signedFields (options : SignerOptions) (moment : SigningMoment) (request : ControlRequest)
    (tenantId principalId : JsString) : CanonicalFields where
  keyId := options.keyId
  service := request.service
  handler := request.handler
  key := request.key
  tenantId := tenantId
  principalId := principalId
  scopeDigest := (approvalFields platform request.handler request.body).1
  decision := (approvalFields platform request.handler request.body).2
  bodySha256 := bodyDigest platform request.body
  issuedAt := signedDecimal moment.seconds
  nonce := Base64Url.encode moment.random

/-- The headers that carry these fields, signed with this key. -/
def headersOf (key : JsString) (fields : CanonicalFields) : JsMap JsString JsString :=
  ((((((JsMap.empty.set Header.version controlVersion).set Header.keyId fields.keyId).set Header.timestamp
    fields.issuedAt).set Header.nonce fields.nonce).set Header.bodySha256 fields.bodySha256).set Header.signature
      (mac platform key (canonicalPayload fields)))

/-- `createControlSigner(options)(request)`. -/
def signRequest (options : SignerOptions) (moment : SigningMoment) (request : ControlRequest)
    (tenantId principalId : JsString) : JsMap JsString JsString :=
  headersOf platform options.key (signedFields platform options moment request tenantId principalId)

/-! ## The verifier -/

/-- What the nonce store is asked to admit. -/
structure ReplayRecord where
  nonce : JsString
  keyId : JsString
  digest : JsString
  issuedAt : Nat
  service : JsString
  handler : JsString
  key : JsString
  freshnessSeconds : Nat
deriving DecidableEq

inductive ReplayVerdict where
  | firstSeen
  | replay
  | stale
  | conflict
deriving DecidableEq

/-- The codes of `ControlAuthError`. -/
inductive Refusal where
  | missing
  | version
  | malformed
  | unknownKey
  | body
  | signature
  | stale
  | conflict
deriving DecidableEq

/-- The configuration that `createControlVerifier` accepts, with the freshness that the boundary allows. -/
structure VerifierConfig where
  keys : JsMap JsString JsString
  tenantId : JsString
  principalId : Id
  freshnessSeconds : Nat
  keysValid : ∀ keyId key, keys.get? keyId = some key → isKeyId keyId = true ∧ minSigningKeyLength ≤ key.length
  keysPresent : keys.entries ≠ []
  freshness : 30 ≤ freshnessSeconds ∧ freshnessSeconds ≤ 3600

/-- `header(headers, name)`. -/
def header (headers : JsMap JsString JsString) (name : JsString) : Option JsString :=
  match headers.get? name with
  | some value => some value
  | none => (headers.entries.find? fun entry => platform.toLowerCase entry.1 == name).map Prod.snd

/-- The six headers of an assertion. -/
structure Assertion where
  version : JsString
  keyId : JsString
  timestamp : JsString
  nonce : JsString
  claimedBody : JsString
  signature : JsString

def assertionOf (headers : JsMap JsString JsString) : Option Assertion := do
  let version ← header platform headers Header.version
  let keyId ← header platform headers Header.keyId
  let timestamp ← header platform headers Header.timestamp
  let nonce ← header platform headers Header.nonce
  let claimedBody ← header platform headers Header.bodySha256
  let signature ← header platform headers Header.signature
  some ⟨version, keyId, timestamp, nonce, claimedBody, signature⟩

def Assertion.WellFormed (assertion : Assertion) : Prop :=
  isKeyId assertion.keyId = true ∧ isNonce assertion.nonce = true ∧ isSeconds assertion.timestamp = true ∧
    isSha256Text assertion.claimedBody = true ∧ isSha256Text assertion.signature = true

instance (assertion : Assertion) : Decidable assertion.WellFormed :=
  inferInstanceAs (Decidable (_ ∧ _))

variable (config : VerifierConfig)

/-- The fields that the verifier rebuilds from the request that it received. -/
def receivedFields (assertion : Assertion) (request : ControlRequest) : CanonicalFields where
  keyId := assertion.keyId
  service := request.service
  handler := request.handler
  key := request.key
  tenantId := config.tenantId
  principalId := config.principalId.text
  scopeDigest := (approvalFields platform request.handler request.body).1
  decision := (approvalFields platform request.handler request.body).2
  bodySha256 := bodyDigest platform request.body
  issuedAt := assertion.timestamp
  nonce := assertion.nonce

/-- The record that goes to the nonce store for the rebuilt fields. -/
def recordOf (fields : CanonicalFields) : ReplayRecord where
  nonce := fields.nonce
  keyId := fields.keyId
  digest := hexText (platform.sha256 (canonicalPayload fields))
  issuedAt := readDigits fields.issuedAt
  service := fields.service
  handler := fields.handler
  key := fields.key
  freshnessSeconds := config.freshnessSeconds

/-- The checks of the verifier before it touches the store: the fields of an authentic request. -/
def authentic (headers : JsMap JsString JsString) (request : ControlRequest) : Except Refusal CanonicalFields :=
  match assertionOf platform headers with
  | none => .error .missing
  | some assertion =>
      if assertion.version ≠ controlVersion then .error .version
      else if ¬ assertion.WellFormed then .error .malformed
      else
        match config.keys.get? assertion.keyId with
        | none => .error .unknownKey
        | some key =>
            if sameHex (bodyDigest platform request.body) assertion.claimedBody = false then .error .body
            else if sameHex (mac platform key (canonicalPayload (receivedFields platform config assertion request)))
                assertion.signature = false then .error .signature
            else .ok (receivedFields platform config assertion request)

/-- What a verdict of the store comes to. -/
def settle : ReplayVerdict → Except Refusal Id
  | .firstSeen => .ok config.principalId
  | .replay => .ok config.principalId
  | .stale => .error .stale
  | .conflict => .error .conflict

/-- `createControlVerifier(config)(headers, request)`, with a store that answers: the principal, or the refusal. -/
def verifyRequest (consume : ReplayRecord → ReplayVerdict) (headers : JsMap JsString JsString)
    (request : ControlRequest) : Except Refusal Id := do
  let fields ← authentic platform config headers request
  settle config (consume (recordOf platform config fields))

variable {platform config}

/-- What an authentic request has passed. -/
structure Authentic (platform : ControlPlatform) (config : VerifierConfig) (headers : JsMap JsString JsString)
    (request : ControlRequest) (assertion : Assertion) (key : JsString) : Prop where
  read : assertionOf platform headers = some assertion
  version : assertion.version = controlVersion
  wellFormed : assertion.WellFormed
  known : config.keys.get? assertion.keyId = some key
  body : sameHex (bodyDigest platform request.body) assertion.claimedBody = true
  signature : sameHex (mac platform key (canonicalPayload (receivedFields platform config assertion request)))
    assertion.signature = true

theorem authentic_ok {headers : JsMap JsString JsString} {request : ControlRequest} {fields : CanonicalFields}
    (passed : authentic platform config headers request = .ok fields) :
    ∃ assertion key, Authentic platform config headers request assertion key ∧
      fields = receivedFields platform config assertion request := by
  unfold authentic at passed
  cases read : assertionOf platform headers with
  | none =>
      rw [read] at passed
      cases passed
  | some assertion =>
      rw [read] at passed
      dsimp only at passed
      split at passed
      · cases passed
      · next version =>
          split at passed
          · cases passed
          · next wellFormed =>
              split at passed
              · cases passed
              · next key known =>
                  split at passed
                  · cases passed
                  · next body =>
                      split at passed
                      · cases passed
                      · next signature =>
                          cases passed
                          exact ⟨assertion, key, ⟨read, not_not.mp version, not_not.mp wellFormed, known,
                            (Bool.not_eq_false _).mp body, (Bool.not_eq_false _).mp signature⟩, rfl⟩

/-- The checks on a request whose headers were read. -/
theorem Authentic.passes {headers : JsMap JsString JsString} {request : ControlRequest} {assertion : Assertion}
    {key : JsString} (checks : Authentic platform config headers request assertion key) :
    authentic platform config headers request = .ok (receivedFields platform config assertion request) := by
  unfold authentic
  rw [checks.read]
  dsimp only
  rw [if_neg (not_not.mpr checks.version), if_neg (not_not.mpr checks.wellFormed), checks.known]
  dsimp only
  rw [if_neg ((Bool.not_eq_false _).mpr checks.body), if_neg ((Bool.not_eq_false _).mpr checks.signature)]

end Signing

end KernelJson.Control.Signing
