import KernelJson.Contracts.Platform
import KernelJson.Foundation.Base64Url
import KernelJson.Foundation.JsonCodec
import KernelJson.Foundation.JsonRoundTrip

/-!
# Signed tokens

Access tokens, refresh tokens and client ids are claims that the server has
signed for one purpose.  A token whose MAC holds for a purpose and a payload
carries the claims that were signed, and the messages behind the MACs of
different purposes are different.
-/

namespace KernelJson.OAuth.Tokens

open Contracts.Digest
open Contracts.Platform
open Foundation
open Foundation.JsText

/-! ## Claims -/

/-- `z.number().int()`: a safe integer. -/
abbrev SafeInt : Type := Between (-9007199254740991) 9007199254740991

/-- `AccessClaims` and `RefreshClaims` without their type. -/
structure TokenClaims where
  iss : JsString
  aud : JsString
  sub : JsString
  cid : JsString
  fam : JsString
  scope : JsString
  iat : SafeInt
  exp : SafeInt
  jti : JsString
deriving DecidableEq

inductive AuthMethod where
  | none
  | clientSecretPost
  | clientSecretBasic
deriving DecidableEq

def AuthMethod.text : AuthMethod → JsString
  | .none => js "none"
  | .clientSecretPost => js "client_secret_post"
  | .clientSecretBasic => js "client_secret_basic"

/-- Between one and five redirect addresses. -/
abbrev RedirectUris : Type := { uris : List JsString // 1 ≤ uris.length ∧ uris.length ≤ 5 }

structure ClientClaims where
  iss : JsString
  name : BoundedText 0 100
  redirectUris : RedirectUris
  auth : AuthMethod
  iat : SafeInt
  jti : JsString
deriving DecidableEq

/-- `z.string()`. -/
def text : Codec JsString where
  write := .str
  read := Json.asString?
  read_write := fun _ => rfl
  read_sortKeys := Json.asString?_sortKeys

def safeInt : Codec SafeInt :=
  .between (-9007199254740991) 9007199254740991

/-- What a token is signed for. -/
inductive Purpose where
  | access
  | refresh
  | client
  | clientSecret
deriving DecidableEq

def Purpose.text : Purpose → JsString
  | .access => js "access"
  | .refresh => js "refresh"
  | .client => js "client"
  | .clientSecret => js "client-secret"

def tokenFields (typ : Purpose) : FieldsCodec (Unit × JsString × JsString × JsString × JsString × JsString ×
    JsString × SafeInt × SafeInt × JsString) :=
  .cons (js "typ") (.literal typ.text)
    (.cons (js "iss") text
      (.cons (js "aud") text
        (.cons (js "sub") text
          (.cons (js "cid") text
            (.cons (js "fam") text
              (.cons (js "scope") text
                (.cons (js "iat") safeInt
                  (.cons (js "exp") safeInt (.field (js "jti") text) (by decide +kernel)) (by decide +kernel))
                (by decide +kernel)) (by decide +kernel)) (by decide +kernel)) (by decide +kernel))
        (by decide +kernel)) (by decide +kernel)) (by decide +kernel)

def tokenCodec (typ : Purpose) : Codec TokenClaims :=
  (tokenFields typ).strict.transport
    (fun raw => ⟨raw.2.1, raw.2.2.1, raw.2.2.2.1, raw.2.2.2.2.1, raw.2.2.2.2.2.1, raw.2.2.2.2.2.2.1,
      raw.2.2.2.2.2.2.2.1, raw.2.2.2.2.2.2.2.2.1, raw.2.2.2.2.2.2.2.2.2⟩)
    (fun claims => ((), claims.iss, claims.aud, claims.sub, claims.cid, claims.fam, claims.scope, claims.iat,
      claims.exp, claims.jti))
    fun _ => rfl

/-- `AccessClaims`. -/
def accessClaims : Codec TokenClaims :=
  tokenCodec .access

/-- `RefreshClaims`. -/
def refreshClaims : Codec TokenClaims :=
  tokenCodec .refresh

def authMethod : Codec AuthMethod :=
  .enum AuthMethod.text [.none, .clientSecretPost, .clientSecretBasic]
    (fun method => by cases method <;> decide) (by decide +kernel)

def clientFields : FieldsCodec (Unit × JsString × BoundedText 0 100 × RedirectUris × AuthMethod × SafeInt ×
    JsString) :=
  .cons (js "typ") (.literal (js "client"))
    (.cons (js "iss") text
      (.cons (js "name") (.matching (lengthWithin 0 100))
        (.cons (js "redirect_uris") (text.list.refine fun uris => 1 ≤ uris.length ∧ uris.length ≤ 5)
          (.cons (js "auth") authMethod
            (.cons (js "iat") safeInt (.field (js "jti") text) (by decide +kernel)) (by decide +kernel))
          (by decide +kernel)) (by decide +kernel)) (by decide +kernel)) (by decide +kernel)

/-- `ClientClaims`. -/
def clientClaims : Codec ClientClaims :=
  clientFields.strict.transport
    (fun raw => ⟨raw.2.1, raw.2.2.1, raw.2.2.2.1, raw.2.2.2.2.1, raw.2.2.2.2.2.1, raw.2.2.2.2.2.2⟩)
    (fun client => ((), client.iss, client.name, client.redirectUris, client.auth, client.iat, client.jti))
    fun _ => rfl

/-! ## The signer -/

/-- What the platform supplies: HMAC-SHA256 under a key, and the decoder of URI components. -/
structure TokenPlatform extends Platform where
  hmac : JsString → JsString → List UInt8
  decodeURIComponent : JsString → Option JsString
  readsIntegers : ∀ number : Int, -9007199254740991 ≤ number → number ≤ 9007199254740991 →
    numeral (signedDecimal number) = some number

/-- `TokenSigner`: at least 32 bytes of key. -/
structure TokenSigner where
  key : JsString
  long : 32 ≤ (Utf8.encode key).length

/-- `safeEqual(a, b)`. -/
def safeEqual (first second : JsString) : Bool :=
  Utf8.encode first == Utf8.encode second

def digestBytes (digest : HexDigest) : List UInt8 :=
  List.ofFn fun position : Fin 32 =>
    UInt8.ofNat ((digest ⟨2 * position.val, by omega⟩).val * 16 + (digest ⟨2 * position.val + 1, by omega⟩).val)

section Signer

variable (platform : TokenPlatform) (signer : TokenSigner)

/-- `pkceChallenge(verifier)`. -/
def pkceChallenge (verifier : JsString) : JsString :=
  Base64Url.encode (digestBytes (platform.sha256 verifier))

/-- The text under a MAC. -/
def message (purpose : Purpose) (payload : JsString) : JsString :=
  js "kjm1." ++ purpose.text ++ js "." ++ payload

def mac (purpose : Purpose) (payload : JsString) : JsString :=
  Base64Url.encode (platform.hmac signer.key (message purpose payload))

/-- The payload of `sign(claims)`. -/
def payloadOf {α : Type} (schema : Codec α) (claims : α) : JsString :=
  Base64Url.ofText (schema.write claims).stringify

def tokenOf (purpose : Purpose) (payload : JsString) : JsString :=
  js "kjm1" ++ 46 :: (payload ++ 46 :: mac platform signer purpose payload)

/-- `sign(claims)`. -/
def sign {α : Type} (purpose : Purpose) (schema : Codec α) (claims : α) : JsString :=
  tokenOf platform signer purpose (payloadOf schema claims)

/-- The payload of a token whose MAC holds for this purpose. -/
def signedPayload (purpose : Purpose) (token : JsString) : Option JsString :=
  if 4096 < token.length then none
  else
    match token.splitOn 46 with
    | [start, payload, tag] =>
        if start = js "kjm1" ∧ safeEqual tag (mac platform signer purpose payload) = true then some payload else none
    | _ => none

def readPayload {α : Type} (schema : Codec α) (payload : JsString) : Option α :=
  (JsonParse.parse platform.numeral (Base64Url.toText payload)).bind schema.read

/-- `verify(token, schema, typ)`. -/
def verify {α : Type} (purpose : Purpose) (schema : Codec α) (token : JsString) : Option α :=
  (signedPayload platform signer purpose token).bind (readPayload platform schema)

/-- `clientSecret(clientId)`. -/
def clientSecret (clientId : JsString) : JsString :=
  mac platform signer .clientSecret clientId

/-! ## What a MAC says -/

/-- The messages of different purposes or payloads are different. -/
theorem message_injective {purpose other : Purpose} {payload payload' : JsString}
    (same : message purpose payload = message other payload') : purpose = other ∧ payload = payload' := by
  have stopless : ∀ purpose : Purpose, (46 : UInt16) ∉ purpose.text := by
    intro purpose
    cases purpose <;> decide
  have named : ∀ purpose other : Purpose, purpose.text = other.text → purpose = other := by
    intro purpose other
    cases purpose <;> cases other <;> decide
  unfold message at same
  rw [List.append_assoc, List.append_assoc, List.append_assoc, List.append_assoc] at same
  obtain ⟨texts, payloads⟩ :=
    split_at_first (stopless purpose) (stopless other) (List.append_cancel_left same)
  exact ⟨named purpose other texts, payloads⟩

theorem tokenFields_names (purpose : Purpose) : (tokenFields purpose).names.Nodup := by
  cases purpose <;> decide +kernel

theorem clientFields_names : clientFields.names.Nodup := by
  decide +kernel

theorem readable_tokenCodec (purpose : Purpose) (claims : TokenClaims) :
    JsonRoundTrip.Readable platform.numeral ((tokenCodec purpose).write claims) := by
  have issued := platform.readsIntegers claims.iat.val claims.iat.property.1 claims.iat.property.2
  have expires := platform.readsIntegers claims.exp.val claims.exp.property.1 claims.exp.property.2
  refine ⟨?_, trivial, trivial, trivial, trivial, trivial, trivial, trivial, issued, expires, trivial, trivial⟩
  rw [FieldsCodec.writes_names]
  exact tokenFields_names purpose

theorem readable_texts (uris : List JsString) :
    JsonRoundTrip.ReadableItems platform.numeral (uris.map text.write) := by
  induction uris with
  | nil => trivial
  | cons uri rest ih => exact ⟨trivial, ih⟩

theorem readable_clientClaims (client : ClientClaims) :
    JsonRoundTrip.Readable platform.numeral (clientClaims.write client) := by
  have issued := platform.readsIntegers client.iat.val client.iat.property.1 client.iat.property.2
  refine ⟨?_, trivial, trivial, trivial, readable_texts platform client.redirectUris.val, trivial, issued, trivial,
    trivial⟩
  rw [FieldsCodec.writes_names]
  exact clientFields_names

theorem readPayload_payloadOf {α : Type} (schema : Codec α) {claims : α}
    (readable : JsonRoundTrip.Readable platform.numeral (schema.write claims)) :
    readPayload platform schema (payloadOf schema claims) = some claims := by
  rw [readPayload, payloadOf, Base64Url.toText_ofText (JsonRoundTrip.wellFormed_stringify _ readable),
    JsonRoundTrip.parse_stringify readable, Option.bind_some, schema.read_write]

/-- The claims of an access or refresh token are read back from its payload. -/
theorem readPayload_token (purpose : Purpose) (claims : TokenClaims) :
    readPayload platform (tokenCodec purpose) (payloadOf (tokenCodec purpose) claims) = some claims :=
  readPayload_payloadOf platform _ (readable_tokenCodec platform purpose claims)

theorem readPayload_client (client : ClientClaims) :
    readPayload platform clientClaims (payloadOf clientClaims client) = some client :=
  readPayload_payloadOf platform _ (readable_clientClaims platform client)

/-- Texts without unpaired surrogates are equal when their bytes are. -/
theorem safeEqual_eq {first second : JsString} (left : Utf8.WellFormed first) (right : Utf8.WellFormed second)
    (equal : safeEqual first second = true) : first = second := by
  have bytes : Utf8.encode first = Utf8.encode second := by simpa [safeEqual] using equal
  rw [← Utf8.decode_encode left, bytes, Utf8.decode_encode right]

theorem verify_signed {α : Type} {purpose : Purpose} {schema : Codec α} {token : JsString} {claims : α}
    (verified : verify platform signer purpose schema token = some claims) :
    ∃ payload, signedPayload platform signer purpose token = some payload ∧
      readPayload platform schema payload = some claims :=
  Option.bind_eq_some_iff.mp verified

end Signer

end KernelJson.OAuth.Tokens
