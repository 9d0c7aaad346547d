import KernelJson.Control.Signing
import KernelJson.Foundation.JsonSurrogates

/-!
# Agreement of the two sides of a control request

The signer reads the approval of a body from the text that it was given, and
the verifier from the bytes that arrived.  Unpaired surrogates are lost on the
way, and make no difference.  A byte order mark does: the signer's parser
refuses a text that starts with one, and the verifier's decoder drops it.
-/

namespace KernelJson.Control.Agreement

open Contracts.Common
open Contracts.Digest
open Contracts.Platform
open Contracts.PolicyGate
open Control.Signing
open Foundation
open Foundation.JsText
open Foundation.JsonSurrogates

/-! ## Answers in alike texts -/

theorem plain_of_sha256Text {text : JsString} (hex : isSha256Text text = true) : Plain text := by
  intro unit member
  obtain ⟨-, units⟩ := Bool.and_eq_true_iff.mp hex
  have digit := List.all_eq_true.mp units unit member
  simp only [isDigitUnit, Bool.or_eq_true, Bool.and_eq_true, decide_eq_true_eq] at digit
  omega

theorem answer_plain (decision : Answered) : Plain (Answered.text decision) := by
  cases decision <;> exact plain_of_all (by decide)

/-- An answer is read from alike values alike. -/
theorem approvalAnswer_alike {first second : Json} (alike : ValueAlike first second) :
    approvalAnswer.read first = approvalAnswer.read second := by
  have scope : Plain (js "scopeDigest") := plain_of_all (by decide)
  have decision : Plain (js "decision") := plain_of_all (by decide)
  have only : first.hasOnly [js "scopeDigest", js "decision"] = second.hasOnly [js "scopeDigest", js "decision"] :=
    alike.hasOnly fun name member => by
      rcases List.mem_cons.mp member with rfl | last
      · exact scope
      · exact List.mem_singleton.mp last ▸ decision
  have scopes : (first.field? (js "scopeDigest")).bind (Codec.matching isSha256Text).read =
      (second.field? (js "scopeDigest")).bind (Codec.matching isSha256Text).read := by
    refine alike.field scope _ fun one other here => ?_
    refine here.bind (Matching.parse isSha256Text) fun text value found => ?_
    unfold Matching.parse at found
    split at found
    · next hex => exact plain_of_sha256Text hex
    · cases found
  have decisions : (first.field? (js "decision")).bind answered.read =
      (second.field? (js "decision")).bind answered.read := by
    refine alike.field decision _ fun one other here => ?_
    refine here.bind _ fun text value found => ?_
    have same : Answered.text value = text := by simpa using List.find?_some found
    exact same ▸ answer_plain value
  show (if first.hasOnly [js "scopeDigest", js "decision"] = true then
      ((first.field? (js "scopeDigest")).bind (Codec.matching isSha256Text).read).bind fun left =>
        ((first.field? (js "decision")).bind answered.read).map (Prod.mk left) else none) =
    if second.hasOnly [js "scopeDigest", js "decision"] = true then
      ((second.field? (js "scopeDigest")).bind (Codec.matching isSha256Text).read).bind fun left =>
        ((second.field? (js "decision")).bind answered.read).map (Prod.mk left) else none
  rw [only, scopes, decisions]

/-! ## The text that arrives -/

/-- What the decoder returns of a text: without the byte order mark that it starts with. -/
def withoutMark : JsString → JsString
  | unit :: rest => if unit = byteOrderMark then rest else unit :: rest
  | [] => []

theorem encode_decode_encode (text : JsString) : Utf8.encode (Utf8.decode (Utf8.encode text)) = Utf8.encode text := by
  have scalars := Utf8.isScalar_scalars text
  have read : Utf8.decode (Utf8.encode text) = (Utf8.scalars text).flatMap Utf8.scalarUnits := by
    rw [Utf8.decode, Utf8.encode, Utf8.decodeFrom_flatMap scalars]
  rw [read, Utf8.encode, Utf8.scalars_flatMap scalars, Utf8.encode]

theorem decodeFatal_encode (text : JsString) :
    decodeFatal (Utf8.encode text) = some (withoutMark (Utf8.decode (Utf8.encode text))) := by
  rw [decodeFatal, if_pos (encode_decode_encode text)]
  cases Utf8.decode (Utf8.encode text) with
  | nil => rfl
  | cons unit rest =>
      unfold withoutMark
      dsimp only
      split <;> rfl

/-- The text of the bytes of a text, scalar value by scalar value. -/
theorem decode_encode_scalars (text : JsString) :
    Utf8.decode (Utf8.encode text) = (Utf8.scalars text).flatMap Utf8.scalarUnits := by
  rw [Utf8.decode, Utf8.encode, Utf8.decodeFrom_flatMap (Utf8.isScalar_scalars text)]

/-- A mark before a text stays before the text of its bytes. -/
theorem decode_encode_mark (text : JsString) :
    Utf8.decode (Utf8.encode (byteOrderMark :: text)) = byteOrderMark :: Utf8.decode (Utf8.encode text) := by
  have plain : (Json.isHighSurrogate byteOrderMark || Json.isLowSurrogate byteOrderMark) = false := by decide
  rw [decode_encode_scalars, decode_encode_scalars, Utf8.scalars_unit plain, List.flatMap_cons,
    Utf8.scalarUnits_unit, List.singleton_append]

/-- No other text gets a mark. -/
theorem decode_encode_unmarked {text : JsString} (unmarked : text.head? ≠ some byteOrderMark) :
    withoutMark (Utf8.decode (Utf8.encode text)) = Utf8.decode (Utf8.encode text) := by
  have first : ∀ unit rest, unit ≠ byteOrderMark → withoutMark (unit :: rest) = unit :: rest :=
    fun _ _ other => if_neg other
  have lone : ∀ unit : UInt16, unit ≠ byteOrderMark → UInt16.ofNat
      (if Json.isHighSurrogate unit || Json.isLowSurrogate unit then 0xFFFD else unit.toNat) ≠ byteOrderMark := by
    intro unit other
    split
    · decide
    · rw [UInt16.ofNat_toNat]
      exact other
  have small : ∀ unit : UInt16,
      (if Json.isHighSurrogate unit || Json.isLowSurrogate unit then 0xFFFD else unit.toNat) < 0x10000 := by
    intro unit
    split
    · decide
    · exact UInt16.toNat_lt unit
  rw [decode_encode_scalars]
  induction text using Utf8.scalars.induct with
  | case1 => rfl
  | case2 unit =>
      rw [Utf8.scalars, List.flatMap_singleton, Utf8.scalarUnits, if_pos (small unit)]
      exact first _ _ (lone unit fun same => unmarked (same ▸ rfl))
  | case3 unit next rest paired _ =>
      obtain ⟨high, low⟩ := Bool.and_eq_true_iff.mp paired
      rw [Utf8.scalars_pair high low, List.flatMap_cons, Utf8.scalarUnits_pair high low]
      exact first _ _ fun same => unmarked (same ▸ rfl)
  | case4 unit next rest unpaired _ =>
      rw [Utf8.scalars, if_neg unpaired, List.flatMap_cons, Utf8.scalarUnits, if_pos (small unit)]
      exact first _ _ (lone unit fun same => unmarked (same ▸ rfl))

/-! ## The two readings of a body -/

section Readings

variable (platform : ControlPlatform)

/-- A body that is given as a text which is an answer but for the byte order mark that it starts with. -/
def Marked (body : Body) : Prop :=
  ∃ rest, body = .text (byteOrderMark :: rest) ∧ (answerOf platform (.text rest)).isSome = true

/-- The request as it arrives. -/
def received (request : ControlRequest) : ControlRequest := { request with body := .bytes request.body.sent }

variable {platform}

/-- Alike texts give one answer. -/
theorem answer_of_alike {first second : JsString} (alike : TextAlike first second) :
    (JsonParse.parse platform.numeral first).bind approvalAnswer.read =
      (JsonParse.parse platform.numeral second).bind approvalAnswer.read := by
  have both := @parse_alike platform.numeral first second alike
  generalize JsonParse.parse platform.numeral first = left at both
  generalize JsonParse.parse platform.numeral second = right at both
  cases both with
  | none => rfl
  | some values => exact approvalAnswer_alike values

/-- No JSON text starts with a byte order mark. -/
theorem answerOf_mark (rest : JsString) : answerOf platform (.text (byteOrderMark :: rest)) = none := by
  have unread : JsonParse.parse platform.numeral (byteOrderMark :: rest) = none := rfl
  rw [answerOf, bodyText, Option.bind_some, unread, Option.bind_none]

theorem answerOf_sent_mark (rest : JsString) :
    answerOf platform (.bytes (Utf8.encode (byteOrderMark :: rest))) = answerOf platform (.text rest) := by
  have dropped : ∀ text, withoutMark (byteOrderMark :: text) = text := fun text => by rw [withoutMark, if_pos rfl]
  rw [answerOf, answerOf, bodyText, bodyText, decodeFatal_encode, decode_encode_mark, dropped, Option.bind_some,
    Option.bind_some]
  exact (answer_of_alike (alike_decode_encode rest)).symm

theorem answerOf_sent {text : JsString} (unmarked : text.head? ≠ some byteOrderMark) :
    answerOf platform (.bytes (Utf8.encode text)) = answerOf platform (.text text) := by
  rw [answerOf, answerOf, bodyText, bodyText, decodeFatal_encode, decode_encode_unmarked unmarked, Option.bind_some,
    Option.bind_some]
  exact (answer_of_alike (alike_decode_encode text)).symm

/-- Both sides find one answer in a body, unless a mark hides it from the signer. -/
theorem answerOf_received (body : Body) :
    answerOf platform (.bytes body.sent) = answerOf platform body ↔ ¬ Marked platform body := by
  cases body with
  | bytes given =>
      refine ⟨?_, fun _ => rfl⟩
      rintro - ⟨rest, same, -⟩
      cases same
  | text given =>
      cases given with
      | nil =>
          have unmarked : ([] : JsString).head? ≠ some byteOrderMark := by simp
          refine ⟨?_, fun _ => answerOf_sent unmarked⟩
          rintro - ⟨rest, same, -⟩
          cases same
      | cons unit rest =>
          by_cases mark : unit = byteOrderMark
          · subst mark
            rw [Body.sent, answerOf_sent_mark, answerOf_mark]
            constructor
            · rintro absent ⟨other, same, found⟩
              cases same
              rw [absent] at found
              cases found
            · intro unmarked
              rw [← Option.not_isSome_iff_eq_none]
              exact fun found => unmarked ⟨rest, rfl, found⟩
          · rw [Body.sent, answerOf_sent (by simpa using mark)]
            refine ⟨fun _ ⟨other, same, _⟩ => ?_, fun _ => rfl⟩
            cases same
            exact mark rfl

/-- The fields of an answer say which answer it is, and are not those of none. -/
theorem approvalFields_eq_iff (handler : JsString) (first second : Body) :
    approvalFields platform handler first = approvalFields platform handler second ↔
      (handler = js "approve" → answerOf platform first = answerOf platform second) := by
  have shown : ∀ decision : Answered, Answered.text decision ≠ [] := by
    intro decision
    cases decision <;> decide
  have texts : ∀ one other : Answered, Answered.text one = Answered.text other → one = other := by
    intro one other
    cases one <;> cases other <;> decide
  by_cases approve : handler = js "approve"
  · subst approve
    simp only [approvalFields, ne_eq, not_true_eq_false, if_false, forall_const]
    generalize answerOf platform first = left
    generalize answerOf platform second = right
    cases left with
    | none =>
        cases right with
        | none => exact ⟨fun _ => rfl, fun _ => rfl⟩
        | some answer =>
            refine ⟨fun same => ?_, fun same => by cases same⟩
            exact absurd (congrArg Prod.snd same).symm (shown answer.2)
    | some answer =>
        cases right with
        | none =>
            refine ⟨fun same => ?_, fun same => by cases same⟩
            exact absurd (congrArg Prod.snd same) (shown answer.2)
        | some other =>
            obtain ⟨scope, decision⟩ := answer
            obtain ⟨otherScope, otherDecision⟩ := other
            refine ⟨fun same => ?_, fun same => by rw [Option.some.inj same]⟩
            obtain ⟨scopes, decisions⟩ := Prod.mk.inj same
            cases Subtype.ext scopes
            cases texts _ _ decisions
            rfl
  · simp [approvalFields, approve]

/-- Both sides derive one digest of a body. -/
theorem bodyDigest_received (body : Body) : bodyDigest platform (.bytes body.sent) = bodyDigest platform body := by
  cases body with
  | bytes given => rfl
  | text given => rw [bodyDigest, bodyDigest, Body.sent, platform.sha256_text]

end Readings

/-! ## Headers -/

/-- The seconds that are written with one to twelve digits. -/
theorem isSeconds_iff (seconds : Int) : isSeconds (signedDecimal seconds) = true ↔ 0 ≤ seconds ∧ seconds < 10 ^ 12 := by
  cases seconds with
  | ofNat number =>
      have digits : (decimal number).all isDigitUnit = true := by
        rw [List.all_eq_true]
        intro unit member
        obtain ⟨low, high⟩ := isDigit_of_mem_decimal member
        simp only [isDigitUnit, Bool.and_eq_true, decide_eq_true_eq]
        exact ⟨low, high⟩
      have present : 1 ≤ (decimal number).length := List.length_pos_iff.mpr (decimal_ne_nil number)
      have bounded := @length_decimal_le_iff number 12 (by decide)
      have shape : isSeconds (decimal number) = true ↔ 1 ≤ (decimal number).length ∧ (decimal number).length ≤ 12 := by
        rw [isSeconds, digits, Bool.and_true, lengthWithin, Bool.and_eq_true, decide_eq_true_eq, decide_eq_true_eq]
      rw [show signedDecimal (Int.ofNat number) = decimal number from rfl, shape, bounded]
      constructor
      · rintro ⟨-, small⟩
        exact ⟨Int.natCast_nonneg number, show (number : Int) < 10 ^ 12 by omega⟩
      · rintro ⟨-, small⟩
        change (number : Int) < 10 ^ 12 at small
        exact ⟨present, by omega⟩
  | negSucc number =>
      have minus : isDigitUnit 45 = false := by decide
      constructor
      · intro digits
        simp only [isSeconds, signedDecimal, List.all_cons, minus, Bool.false_and, Bool.and_false] at digits
        cases digits
      · rintro ⟨positive, -⟩
        omega

theorem length_encode (bytes : List UInt8) : (Base64Url.encode bytes).length = (bytes.length * 4 + 2) / 3 := by
  induction bytes using Base64Url.encode.induct with
  | case1 => rfl
  | case2 first => simp [Base64Url.encode]
  | case3 first second => simp [Base64Url.encode]
  | case4 first second third rest ih =>
      simp only [Base64Url.encode, List.length_cons, ih]
      omega

/-- The nonce of a signer is one that the verifier accepts. -/
theorem isNonce_encode {random : List UInt8} (sixteen : random.length = 16) :
    isNonce (Base64Url.encode random) = true := by
  have units : ∀ sextet : Nat, (isAlphanumericUnit (Base64Url.sextetUnit sextet) ||
      Base64Url.sextetUnit sextet == 95 || Base64Url.sextetUnit sextet == 45) = true := by
    intro sextet
    by_cases small : sextet < 64
    · have all : ∀ sextet : Fin 64, (isAlphanumericUnit (Base64Url.sextetUnit sextet.val) ||
          Base64Url.sextetUnit sextet.val == 95 || Base64Url.sextetUnit sextet.val == 45) = true := by decide
      exact all ⟨sextet, small⟩
    · have last : Base64Url.sextetUnit sextet = 95 := by
        rw [Base64Url.sextetUnit, if_neg (by omega), if_neg (by omega), if_neg (by omega), if_neg (by omega)]
        rfl
      rw [last]
      decide
  rw [isNonce, lengthWithin, length_encode, sixteen]
  simp only [Bool.and_eq_true, List.all_eq_true]
  refine ⟨⟨by decide, by decide⟩, fun unit member => ?_⟩
  obtain ⟨sextet, rfl⟩ := Base64Url.unit_of_mem_encode member
  exact units sextet

section Signed

variable (platform : ControlPlatform)

/-- The headers of a signed request are read as they were written. -/
theorem assertionOf_headersOf (key : JsString) (fields : CanonicalFields) :
    assertionOf platform (headersOf platform key fields) =
      some ⟨controlVersion, fields.keyId, fields.issuedAt, fields.nonce, fields.bodySha256,
        mac platform key (canonicalPayload fields)⟩ := by
  have found : ∀ name value, (headersOf platform key fields).get? name = some value →
      header platform (headersOf platform key fields) name = some value := by
    intro name value there
    rw [header, there]
  have version := found Header.version controlVersion (by
    rw [headersOf, JsMap.get?_set_of_ne _ (by decide), JsMap.get?_set_of_ne _ (by decide),
      JsMap.get?_set_of_ne _ (by decide), JsMap.get?_set_of_ne _ (by decide), JsMap.get?_set_of_ne _ (by decide),
      JsMap.get?_set_self])
  have keyId := found Header.keyId fields.keyId (by
    rw [headersOf, JsMap.get?_set_of_ne _ (by decide), JsMap.get?_set_of_ne _ (by decide),
      JsMap.get?_set_of_ne _ (by decide), JsMap.get?_set_of_ne _ (by decide), JsMap.get?_set_self])
  have timestamp := found Header.timestamp fields.issuedAt (by
    rw [headersOf, JsMap.get?_set_of_ne _ (by decide), JsMap.get?_set_of_ne _ (by decide),
      JsMap.get?_set_of_ne _ (by decide), JsMap.get?_set_self])
  have nonce := found Header.nonce fields.nonce (by
    rw [headersOf, JsMap.get?_set_of_ne _ (by decide), JsMap.get?_set_of_ne _ (by decide), JsMap.get?_set_self])
  have body := found Header.bodySha256 fields.bodySha256 (by
    rw [headersOf, JsMap.get?_set_of_ne _ (by decide), JsMap.get?_set_self])
  have signature := found Header.signature (mac platform key (canonicalPayload fields)) (by
    rw [headersOf, JsMap.get?_set_self])
  rw [assertionOf, version, keyId, timestamp, nonce, body, signature]
  rfl

theorem sameHex_hexText (hash : HexDigest) : sameHex (hexText hash) (hexText hash) = true := by
  rw [sameHex, isSha256Text_hexText, beq_self_eq_true]
  rfl

theorem bodyDigest_hex (body : Body) : ∃ hash, bodyDigest platform body = hexText hash := by
  cases body with
  | text given => exact ⟨_, rfl⟩
  | bytes given => exact ⟨_, rfl⟩

/-- What the claim of agreement says of one signed request: it is accepted as the configured principal's, and both
sides derive the same approval and the same digest of the body. -/
structure Agrees (config : VerifierConfig) (consume : ReplayRecord → ReplayVerdict) (options : SignerOptions)
    (moment : SigningMoment) (request : ControlRequest) : Prop where
  accepted : verifyRequest platform config consume
    (signRequest platform options moment request config.tenantId config.principalId.text) (received request) =
      .ok config.principalId
  approval : approvalFields platform request.handler (received request).body =
    approvalFields platform request.handler request.body
  digest : bodyDigest platform (received request).body = bodyDigest platform request.body

variable {platform} {config : VerifierConfig} {consume : ReplayRecord → ReplayVerdict} {options : SignerOptions}
  {moment : SigningMoment} {request : ControlRequest}

/-- The fields of the verifier are those of the signer, where both find the same approval. -/
theorem receivedFields_eq
    (approval : approvalFields platform request.handler (received request).body =
      approvalFields platform request.handler request.body) :
    receivedFields platform config ⟨controlVersion, options.keyId, signedDecimal moment.seconds,
        Base64Url.encode moment.random, bodyDigest platform request.body, mac platform options.key (canonicalPayload
          (signedFields platform options moment request config.tenantId config.principalId.text))⟩ (received request) =
      signedFields platform options moment request config.tenantId config.principalId.text := by
  have digest : bodyDigest platform (received request).body = bodyDigest platform request.body :=
    bodyDigest_received request.body
  have handler : (received request).handler = request.handler := rfl
  simp only [receivedFields, signedFields, handler, approval, digest]
  rfl

/-- An accepted request passed the verifier's checks of its headers. -/
theorem authentic_of_verified {headers : JsMap JsString JsString} {principal : Id}
    (verified : verifyRequest platform config consume headers request = .ok principal) :
    ∃ assertion key, Authentic platform config headers request assertion key := by
  unfold verifyRequest at verified
  cases passed : authentic platform config headers request with
  | error refusal =>
      rw [passed] at verified
      cases verified
  | ok fields =>
      obtain ⟨assertion, key, checks, -⟩ := authentic_ok passed
      exact ⟨assertion, key, checks⟩

/-- The checks that the headers of a signer pass. -/
theorem signed_authentic (known : config.keys.get? options.keyId = some options.key)
    (approval : approvalFields platform request.handler (received request).body =
      approvalFields platform request.handler request.body)
    (seconds : isSeconds (signedDecimal moment.seconds) = true) :
    authentic platform config
      (signRequest platform options moment request config.tenantId config.principalId.text) (received request) =
        .ok (signedFields platform options moment request config.tenantId config.principalId.text) := by
  have rebuilt := @receivedFields_eq platform config options moment request approval
  have digest : bodyDigest platform (received request).body = bodyDigest platform request.body :=
    bodyDigest_received request.body
  obtain ⟨hash, hex⟩ := bodyDigest_hex platform request.body
  have checks : Authentic platform config
      (signRequest platform options moment request config.tenantId config.principalId.text) (received request)
      ⟨controlVersion, options.keyId, signedDecimal moment.seconds, Base64Url.encode moment.random,
        bodyDigest platform request.body, mac platform options.key (canonicalPayload
          (signedFields platform options moment request config.tenantId config.principalId.text))⟩ options.key := by
    refine ⟨assertionOf_headersOf platform options.key _, rfl, ?_, known, ?_, ?_⟩
    · refine ⟨options.keyIdValid, isNonce_encode moment.sixteen, seconds, ?_, isSha256Text_hexText _⟩
      rw [hex]
      exact isSha256Text_hexText hash
    · rw [digest, hex]
      exact sameHex_hexText hash
    · rw [rebuilt]
      exact sameHex_hexText _
  rw [checks.passes, rebuilt]

/-- A signed request is accepted, unless the mark of its body or the moment of its signature is in the way. -/
theorem signed_agrees_iff (known : config.keys.get? options.keyId = some options.key)
    (fresh : consume (recordOf platform config
      (signedFields platform options moment request config.tenantId config.principalId.text)) = .firstSeen) :
    Agrees platform config consume options moment request ↔
      ¬ (request.handler = js "approve" ∧ Marked platform request.body) ∧
        0 ≤ moment.seconds ∧ moment.seconds < 10 ^ 12 := by
  have approvals := @approvalFields_eq_iff platform request.handler (received request).body request.body
  rw [← isSeconds_iff]
  constructor
  · intro agrees
    constructor
    · rintro ⟨approve, marked⟩
      exact (answerOf_received request.body).mp (approvals.mp agrees.approval approve) marked
    · obtain ⟨assertion, key, checks⟩ := authentic_of_verified agrees.accepted
      have read := checks.read
      rw [signRequest, assertionOf_headersOf] at read
      cases read
      exact checks.wellFormed.2.2.1
  · rintro ⟨unmarked, seconds⟩
    have approval := approvals.mpr fun approve =>
      (answerOf_received request.body).mpr fun marked => unmarked ⟨approve, marked⟩
    refine ⟨?_, approval, bodyDigest_received request.body⟩
    have passes := signed_authentic known approval seconds
    unfold verifyRequest
    rw [passes]
    show settle config (consume _) = _
    rw [fresh]
    rfl

end Signed

/-! ## A text that starts with a byte order mark -/

/-- A checksum in the place of the hashes. -/
def checksum (values : List Nat) : HexDigest :=
  let total := values.foldl (fun total value => (total * 31 + value) % 4294967296) 7
  .ofDigits [total, total / 16, total / 256, total / 4096, total / 65536, total / 1048576, total / 16777216,
    total / 268435456]

def checkedPlatform : ControlPlatform where
  toPlatform := { Platform.ascii with sha256 := fun text => checksum ((Utf8.encode text).map UInt8.toNat) }
  sha256Bytes := fun bytes => checksum (bytes.map UInt8.toNat)
  hmac := fun key text => checksum ((key ++ text).map UInt16.toNat)
  sha256_text := fun _ => rfl

def doorKey : JsString := List.replicate 40 (68 : UInt16)

def doorOptions : SignerOptions := ⟨js "door.1", doorKey, by decide, by decide⟩

theorem doorKeys_valid (keyId key : JsString)
    (found : (JsMap.empty.set (js "door.1") doorKey).get? keyId = some key) :
    isKeyId keyId = true ∧ minSigningKeyLength ≤ key.length := by
  by_cases same : js "door.1" = keyId
  · subst same
    rw [JsMap.get?_set_self] at found
    cases found
    exact ⟨doorOptions.keyIdValid, doorOptions.keyLong⟩
  · rw [JsMap.get?_set_of_ne _ same] at found
    cases found

def workerConfig : VerifierConfig where
  keys := JsMap.empty.set (js "door.1") doorKey
  tenantId := js "kernel"
  principalId := ⟨js "39a1c2d3-2222-4222-8222-222222222239", by decide⟩
  freshnessSeconds := 120
  keysValid := doorKeys_valid
  keysPresent := by decide
  freshness := by decide

def signingMoment : SigningMoment := ⟨⟨1790000000500, by decide⟩, List.replicate 16 7, by decide⟩

/-- The answer of an approver, as a text. -/
def answerText : JsString :=
  js "\x7b\"scopeDigest\":\"" ++ List.replicate 64 (97 : UInt16) ++ js "\",\"decision\":\"GRANTED\"\x7d"

def approveRequest (body : Body) : ControlRequest :=
  ⟨js "GoldenTaskWorkflowV1", js "approve", js "39a1c2d3-2222-4222-8222-222222222240", body⟩

/-- The signer signs no approval, the verifier expects one, and the request is refused. -/
theorem marked_answer_refused :
    workerConfig.keys.get? doorOptions.keyId = some doorOptions.key ∧
    verifyRequest checkedPlatform workerConfig (fun _ => .firstSeen)
      (signRequest checkedPlatform doorOptions signingMoment (approveRequest (.text (byteOrderMark :: answerText)))
        workerConfig.tenantId workerConfig.principalId.text)
      (received (approveRequest (.text (byteOrderMark :: answerText)))) = .error .signature ∧
    approvalFields checkedPlatform (js "approve") (.text (byteOrderMark :: answerText)) = ([], []) ∧
    approvalFields checkedPlatform (js "approve") (.bytes (Utf8.encode (byteOrderMark :: answerText))) =
      (List.replicate 64 97, js "GRANTED") := by
  refine ⟨rfl, ?_, ?_, ?_⟩
  · decide +kernel
  · decide +kernel
  · decide +kernel

theorem plain_answer_agrees : Agrees checkedPlatform workerConfig (fun _ => .firstSeen) doorOptions signingMoment
    (approveRequest (.text answerText)) := by
  refine (signed_agrees_iff rfl rfl).mpr ⟨?_, by decide⟩
  rintro ⟨-, rest, same, -⟩
  have heads : answerText.head? = some byteOrderMark := congrArg List.head? (Body.text.inj same)
  exact absurd heads (by decide +kernel)

end KernelJson.Control.Agreement
