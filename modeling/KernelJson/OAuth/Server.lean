import KernelJson.OAuth.Profiles
import KernelJson.OAuth.Tables
import KernelJson.OAuth.Tokens

/-!
# The authorisation server

`createOAuthServer`: registration, authorisation with a sign-in at Google,
consent, the token endpoint and the check of bearer tokens.  A request is
counted by the rate limiter when it arrives and served once its body is read;
a callback is suspended while the server exchanges the code at Google.  What a
step reads from the clock and the random source comes with the step.
-/

namespace KernelJson.OAuth.Server

open Foundation
open Foundation.JsText
open OAuth.Profiles
open OAuth.Tables
open OAuth.Tokens

/-! ## Configuration -/

/-- `/^[0-9]{1,64}$/`. -/
def isSubject (text : JsString) : Bool :=
  lengthWithin 1 64 text && text.all isDigitUnit

structure Config where
  platform : TokenPlatform
  signer : TokenSigner
  origin : JsString
  allowedGoogleSub : Matching isSubject
  allowedRedirectUris : List JsString
  registrationOpen : Bool
  registrationUntil : Option Int
  registrationProfiles : Option (List ProfileName)
  rateLimits : RateLimits

def accessTtl : Int :=
  3600

def refreshTtl : Int :=
  30 * 24 * 3600

def codeTtlMs : Int :=
  5 * 60000

def loginTtlMs : Int :=
  10 * 60000

def maxFormBytes : Nat :=
  8192

/-- An ECMAScript time value, in milliseconds. -/
abbrev Clock : Type := Between (-8640000000000000) 8640000000000000

/-- `Math.floor(now() / 1000)`. -/
def seconds (now : Clock) : SafeInt :=
  ⟨now.val / 1000, by have range := now.property; omega⟩

/-- When an access token that is issued now expires. -/
def accessExpiry (now : Clock) : SafeInt :=
  ⟨now.val / 1000 + accessTtl, by have range := now.property; unfold accessTtl; omega⟩

def refreshExpiry (now : Clock) : SafeInt :=
  ⟨now.val / 1000 + refreshTtl, by have range := now.property; unfold refreshTtl; omega⟩

/-! ## Requests -/

/-- Parameters in the order in which they stand. -/
abbrev Params : Type := List (JsString × JsString)

/-- `params.get(name)`. -/
def Params.get (params : Params) (name : JsString) : Option JsString :=
  JsMap.lookupEntry name params

/-- The first name that stands more than once. -/
def Params.repeated (params : Params) : Option JsString :=
  (params.map Prod.fst).find? fun name => decide (1 < (params.map Prod.fst).count name)

structure Form where
  contentType : Option JsString
  bytes : Nat
  pairs : Params

inductive Request where
  /-- The body as `JSON.parse` reads it, unless it throws. -/
  | register (contentType : Option JsString) (bytes : Nat) (body : Option Json)
  | authorize (query : Params)
  | callback (query : Params)
  | consent (origin : Option JsString) (form : Form)
  | token (authorization : Option JsString) (form : Form)

structure PendingLogin where
  client : ClientClaims
  clientId : JsString
  redirectUri : JsString
  state : Option JsString
  codeChallenge : JsString
  scope : JsString
  nonce : JsString
  googleVerifier : JsString
  expiresAt : Int

structure PendingConsent extends PendingLogin where
  sub : JsString

structure IssuedCode where
  clientId : JsString
  redirectUri : JsString
  codeChallenge : JsString
  scope : JsString
  sub : JsString
  expiresAt : Int

/-- A request on its way through `handle`. -/
inductive Live where
  /-- Counted, with its body still to come. -/
  | admitted (registering : Bool)
  /-- Waiting for Google's answer. -/
  | exchanging (login : PendingLogin)

structure Server where
  windows : JsMap JsString Window
  live : JsMap Nat Live
  logins : JsMap JsString PendingLogin
  consents : JsMap JsString PendingConsent
  codes : JsMap JsString IssuedCode
  usedRefresh : JsMap JsString Int
  revokedFamilies : JsMap JsString Int

/-- A server that has just started. -/
def Server.started : Server :=
  ⟨.empty, .empty, .empty, .empty, .empty, .empty, .empty⟩

/-! ## Responses -/

structure OAuthError where
  status : Nat
  code : JsString
  description : JsString

inductive Grant where
  | authorizationCode
  | refreshToken
deriving DecidableEq

inductive Response where
  /-- Nothing is sent yet, or no such request is on its way. -/
  | silent
  | rateLimited (rule : RuleName) (retryAfterS : Int)
  | refused (error : OAuthError)
  | serverError
  | page (status : Nat) (title : JsString)
  | notPermitted (sub : JsString)
  | registered (clientId : JsString) (secret : Option JsString) (client : ClientClaims) (scope : JsString)
  /-- A redirect to Google for a state, a nonce and a verifier. -/
  | toGoogle (state nonce googleVerifier : JsString)
  | toClient (redirectUri error : JsString) (description : Option JsString) (state : Option JsString)
  | exchanging
  | consentPage (ticket : JsString) (clientName label grants redirectUri : JsString)
  | code (redirectUri code : JsString) (state : Option JsString)
  /-- A redirect with the error `access_denied`, because the person denied access. -/
  | denied (redirectUri : JsString) (state : Option JsString)
  /-- An access and a refresh token, by the claims that are signed into them. -/
  | tokens (grant : Grant) (access refresh : TokenClaims)
  | unauthorised
  | authorised (claims : TokenClaims) (profile : ClientProfile) (clientName : JsString)

def refusal (status : Nat) (code description : JsString) : Response :=
  .refused ⟨status, code, description⟩

/-- The clock and the random tokens of one step. -/
structure Moment where
  now : Clock
  fresh : Nat → JsString

/-! ## Reading requests -/

/-- The media type of a `content-type` header. -/
def mediaType (contentType : Option JsString) : Option JsString :=
  contentType.map fun text => trim ((text.splitOn 59).headD [])

/-- `readForm`. -/
def readForm (form : Form) : Except OAuthError Params :=
  if mediaType form.contentType ≠ some (js "application/x-www-form-urlencoded") then
    .error ⟨400, js "invalid_request", js "Form encoding required"⟩
  else if maxFormBytes < form.bytes then .error ⟨413, js "invalid_request", js "Request too large"⟩
  else
    match form.pairs.repeated with
    | some name => .error ⟨400, js "invalid_request", js "Repeated parameter: " ++ name⟩
    | none => .ok form.pairs

structure RegistrationRequest where
  redirectUris : RedirectUris
  clientName : Option (BoundedText 0 100)
  auth : AuthMethod
  grantTypes : Option (List JsString)
  responseTypes : Option (List JsString)

/-- A field that may be missing. -/
def optionalField {α : Type} (body : Json) (name : JsString) (read : Json → Option α) : Option (Option α) :=
  match body.field? name with
  | none => some none
  | some value => (read value).map some

/-- `RegistrationRequest.safeParse(body)`. -/
def RegistrationRequest.parse (body : Json) : Option RegistrationRequest := do
  let uris ← (body.field? (js "redirect_uris")).bind text.list.read
  let redirectUris ← if sized : 1 ≤ uris.length ∧ uris.length ≤ 5 then some (⟨uris, sized⟩ : RedirectUris) else none
  if uris.all (lengthWithin 0 500) then
    let clientName ← optionalField body (js "client_name") fun name =>
      name.asString?.bind fun text => Matching.parse (lengthWithin 0 100) (trim text)
    let auth ← optionalField body (js "token_endpoint_auth_method") authMethod.read
    let grantTypes ← optionalField body (js "grant_types") text.list.read
    let responseTypes ← optionalField body (js "response_types") text.list.read
    some ⟨redirectUris, clientName, auth.getD .none, grantTypes, responseTypes⟩
  else none

/-- `/^[A-Za-z0-9_-]{43}$/`. -/
def isChallenge (text : JsString) : Bool :=
  text.length == 43 && text.all fun unit => isAlphanumericUnit unit || unit == 95 || unit == 45

/-- `/^[A-Za-z0-9._~-]{43,128}$/`. -/
def isVerifier (text : JsString) : Bool :=
  lengthWithin 43 128 text &&
    text.all fun unit => isAlphanumericUnit unit || unit == 46 || unit == 95 || unit == 126 || unit == 45

section Endpoints

variable (config : Config)

def Config.resource : JsString :=
  config.origin ++ js "/mcp"

/-- `clientFrom(clientId)`. -/
def clientFrom (clientId : Option JsString) : Option ClientClaims :=
  match clientId with
  | none => none
  | some text => if text = [] then none else verify config.platform config.signer .client clientClaims text

/-- `profileOf(client)`. -/
def profileOf (client : ClientClaims) : Option ClientProfile :=
  if client.redirectUris.val.any config.allowedRedirectUris.contains then profileFor client.redirectUris.val
  else none

/-- The known client of a client id, with its profile. -/
def knownClient (clientId : Option JsString) : Option (ClientClaims × ClientProfile) :=
  (clientFrom config clientId).bind fun client => (profileOf config client).map (Prod.mk client)

variable {config} in
theorem knownClient_eq_some {clientId : JsString} {client : ClientClaims} {profile : ClientProfile}
    (known : knownClient config (some clientId) = some (client, profile)) :
    verify config.platform config.signer .client clientClaims clientId = some client ∧
      profileOf config client = some profile := by
  obtain ⟨found, verified, paired⟩ := Option.bind_eq_some_iff.mp known
  obtain ⟨other, resolved, same⟩ := Option.map_eq_some_iff.mp paired
  cases same
  refine ⟨?_, resolved⟩
  simp only [clientFrom] at verified
  split at verified
  · cases verified
  · exact verified

variable {config} in
theorem profileFor_of_profileOf {client : ClientClaims} {profile : ClientProfile}
    (resolved : profileOf config client = some profile) : profileFor client.redirectUris.val = some profile := by
  unfold profileOf at resolved
  split at resolved
  · exact resolved
  · cases resolved

/-! ## Registration -/

def unnamedClient : BoundedText 0 100 :=
  ⟨js "Unnamed client", by decide +kernel⟩

def newClient (request : RegistrationRequest) (moment : Moment) : ClientClaims :=
  { iss := config.origin
    name := request.clientName.getD unnamedClient
    redirectUris := request.redirectUris
    auth := request.auth
    iat := seconds moment.now
    jti := moment.fresh 0 }

/-- The answer to a registration that is accepted. -/
def registration (request : RegistrationRequest) (profile : ClientProfile) (moment : Moment) : Response :=
  let client := newClient config request moment
  let clientId := sign config.platform config.signer .client clientClaims client
  let secret :=
    if request.auth = .none then none else some (clientSecret config.platform config.signer clientId)
  .registered clientId secret client profile.scope

/-- `register(body, res)` after the checks on the body's form. -/
def register (moment : Moment) (body : Json) : Response :=
  if ¬ config.registrationOpen ∨ config.registrationUntil.any (fun until_ => decide (until_ ≤ moment.now.val)) then
    refusal 403 (js "access_denied") (js "Client registration is closed")
  else
    match RegistrationRequest.parse body with
    | none => refusal 400 (js "invalid_client_metadata") (js "Malformed registration")
    | some request =>
        match profileFor request.redirectUris.val with
        | none =>
            refusal 400 (js "invalid_redirect_uri") (js "This server accepts only its registered connector callbacks")
        | some profile =>
            if ¬ request.redirectUris.val.all config.allowedRedirectUris.contains then
              refusal 400 (js "invalid_redirect_uri")
                (js "This server accepts only its registered connector callbacks")
            else if config.registrationProfiles.any fun names => ! names.contains profile.name then
              refusal 403 (js "access_denied") (js "Registration is not open for this kind of client")
            else if request.grantTypes.any fun grants =>
                ! grants.all [js "authorization_code", js "refresh_token"].contains then
              refusal 400 (js "invalid_client_metadata") (js "Unsupported grant type")
            else if request.responseTypes.any fun types => ! types.all fun type => type == js "code" then
              refusal 400 (js "invalid_client_metadata") (js "Unsupported response type")
            else registration config request profile moment

def serveRegister (moment : Moment) (contentType : Option JsString) (bytes : Nat) (body : Option Json) : Response :=
  if mediaType contentType ≠ some (js "application/json") then
    refusal 400 (js "invalid_client_metadata") (js "JSON required")
  else if maxFormBytes < bytes then refusal 413 (js "invalid_request") (js "Request too large")
  else
    match body with
    | none => refusal 400 (js "invalid_client_metadata") (js "Malformed JSON")
    | some body => register config moment body

/-! ## Authorisation -/

/-- Either known scope may be asked for. -/
def knownScopes (scope : Option JsString) : Bool :=
  match scope with
  | none => true
  | some text =>
      text == [] || (text.splitOn 32).all fun asked => asked == operatorScope || asked == readScope

/-- Why an authorisation request of a known client is sent back, if it is. -/
def authorizeFault (query : Params) : Option (JsString × JsString) :=
  if query.get (js "response_type") ≠ some (js "code") then
    some (js "unsupported_response_type", js "Only the authorisation code flow is supported")
  else if query.get (js "code_challenge_method") ≠ some (js "S256") ∨
      ¬ (query.get (js "code_challenge")).any isChallenge then
    some (js "invalid_request", js "PKCE with S256 is required")
  else if (query.get (js "resource")).any fun asked => asked != config.resource then
    some (js "invalid_target", js "Unknown resource")
  else if ¬ knownScopes (query.get (js "scope")) then some (js "invalid_scope", js "Unknown scope")
  else none

/-- The sign-in that `authorize` stores under a new state. -/
def newLogin (moment : Moment) (query : Params) (client : ClientClaims) (profile : ClientProfile)
    (clientId redirectUri : JsString) : PendingLogin :=
  { client := client
    clientId := clientId
    redirectUri := redirectUri
    state := query.get (js "state")
    codeChallenge := (query.get (js "code_challenge")).getD []
    scope := profile.scope
    nonce := moment.fresh 1
    googleVerifier := moment.fresh 2
    expiresAt := moment.now.val + loginTtlMs }

/-- The client, profile and addresses of a request that may be redirected. -/
def authorizing (query : Params) : Option (ClientClaims × ClientProfile × JsString × JsString) := do
  let (client, profile) ← knownClient config (query.get (js "client_id"))
  let clientId ← query.get (js "client_id")
  let redirectUri ← query.get (js "redirect_uri")
  if redirectUri ≠ [] ∧ redirectUri ∈ client.redirectUris.val ∧ redirectUri ∈ config.allowedRedirectUris then
    some (client, profile, clientId, redirectUri)
  else none

variable {config} in
theorem authorizing_eq_some {query : Params} {client : ClientClaims} {profile : ClientProfile}
    {clientId redirectUri : JsString}
    (asked : authorizing config query = some (client, profile, clientId, redirectUri)) :
    query.get (js "client_id") = some clientId ∧ knownClient config (some clientId) = some (client, profile) ∧
      query.get (js "redirect_uri") = some redirectUri ∧ redirectUri ∈ client.redirectUris.val := by
  obtain ⟨⟨found, resolved⟩, known, rest⟩ := Option.bind_eq_some_iff.mp asked
  obtain ⟨text, named, rest⟩ := Option.bind_eq_some_iff.mp rest
  obtain ⟨uri, sent, rest⟩ := Option.bind_eq_some_iff.mp rest
  split at rest
  · next own =>
      cases rest
      exact ⟨named, named ▸ known, sent, own.2.1⟩
  · cases rest

variable {config} in
/-- An authorisation request without a fault carries a PKCE challenge. -/
theorem challenge_of_clean {query : Params} (clean : authorizeFault config query = none) :
    ∃ challenge, query.get (js "code_challenge") = some challenge ∧ isChallenge challenge = true := by
  unfold authorizeFault at clean
  split at clean
  · cases clean
  · split at clean
    · cases clean
    · next pkce =>
        obtain ⟨-, present⟩ := not_or.mp pkce
        exact (Option.any_eq_true _ _).mp (not_not.mp present)

def authorize (moment : Moment) (query : Params) (server : Server) : Response × Server :=
  if query.repeated.isSome then (.page 400 (js "Invalid request"), server)
  else
    match authorizing config query with
    | none => (.page 400 (js "Invalid request"), server)
    | some (client, profile, clientId, redirectUri) =>
        match authorizeFault config query with
        | some (error, description) =>
            (.toClient redirectUri error (some description) (query.get (js "state")), server)
        | none =>
            let login := newLogin moment query client profile clientId redirectUri
            let after := { server with
              logins := put PendingLogin.expiresAt moment.now.val server.logins (moment.fresh 0) login }
            if hasRoom PendingLogin.expiresAt moment.now.val server.logins then
              (.toGoogle (moment.fresh 0) login.nonce login.googleVerifier, after)
            else
              (.toClient redirectUri (js "temporarily_unavailable") (some (js "Too many sign-ins in progress"))
                login.state, after)

/-! ## Sign-in -/

/-- `googleCallback` up to the exchange. -/
def callback (moment : Moment) (id : Nat) (query : Params) (server : Server) : Response × Server :=
  let after := { server with logins := afterTake server.logins (query.get (js "state")) }
  match taken PendingLogin.expiresAt moment.now.val server.logins (query.get (js "state")) with
  | none => (.page 400 (js "Sign-in expired"), after)
  | some login =>
      match (query.get (js "code")).filter fun code => code != [] with
      | none =>
          (.toClient login.redirectUri (js "access_denied") (some (js "Google sign-in was cancelled")) login.state,
            after)
      | some _ => (.exchanging, { after with live := after.live.set id (.exchanging login) })

def newConsent (moment : Moment) (login : PendingLogin) (sub : JsString) : PendingConsent :=
  { login with sub := sub, expiresAt := moment.now.val + loginTtlMs }

/-- `googleCallback` from Google's answer on. -/
def exchanged (moment : Moment) (login : PendingLogin) (identity : Option JsString) (server : Server) :
    Response × Server :=
  match identity with
  | none =>
      (.toClient login.redirectUri (js "access_denied") (some (js "Google sign-in could not be verified"))
        login.state, server)
  | some sub =>
      if safeEqual sub config.allowedGoogleSub.val then
        let pending := newConsent moment login sub
        let after := { server with
          consents := put (fun item => item.expiresAt) moment.now.val server.consents (moment.fresh 0) pending }
        if hasRoom (fun item : PendingConsent => item.expiresAt) moment.now.val server.consents then
          match profileOf config login.client with
          | none => (.serverError, after)
          | some profile =>
              (.consentPage (moment.fresh 0) login.client.name.val profile.label profile.grants login.redirectUri,
                after)
        else (.toClient login.redirectUri (js "temporarily_unavailable") none login.state, after)
      else (.notPermitted sub, server)

/-! ## Consent -/

def newCode (moment : Moment) (pending : PendingConsent) : IssuedCode :=
  { clientId := pending.clientId
    redirectUri := pending.redirectUri
    codeChallenge := pending.codeChallenge
    scope := pending.scope
    sub := pending.sub
    expiresAt := moment.now.val + codeTtlMs }

def consent (moment : Moment) (origin : Option JsString) (form : Form) (server : Server) : Response × Server :=
  if origin.any fun sent => sent != config.origin then (.page 403 (js "Not permitted"), server)
  else
    match readForm form with
    | .error error => (.refused error, server)
    | .ok pairs =>
        let after := { server with consents := afterTake server.consents (pairs.get (js "ticket")) }
        match taken (fun item : PendingConsent => item.expiresAt) moment.now.val server.consents
            (pairs.get (js "ticket")) with
        | none => (.page 400 (js "Sign-in expired"), after)
        | some pending =>
            if pairs.get (js "decision") = some (js "allow") then
              (.code pending.redirectUri (moment.fresh 0) pending.state,
                { after with
                  codes := put IssuedCode.expiresAt moment.now.val after.codes (moment.fresh 0)
                    (newCode moment pending) })
            else (.denied pending.redirectUri pending.state, after)

/-! ## Tokens -/

/-- The claims that both tokens of a family share. -/
def newClaims (moment : Moment) (sub clientId family scope jti : JsString) (expiry : SafeInt) : TokenClaims :=
  { iss := config.origin
    aud := config.resource
    sub := sub
    cid := clientId
    fam := family
    scope := scope
    iat := seconds moment.now
    exp := expiry
    jti := jti }

/-- `issueTokens`; the identifiers are the next two random tokens. -/
def issueTokens (moment : Moment) (grant : Grant) (sub clientId family scope : JsString) : Response :=
  .tokens grant
    (newClaims config moment sub clientId family scope (moment.fresh 1) (accessExpiry moment.now))
    (newClaims config moment sub clientId family scope (moment.fresh 2) (refreshExpiry moment.now))

inductive AuthFault where
  | oauth (error : OAuthError)
  /-- `decodeURIComponent` throws. -/
  | malformedUri

/-- The client id and secret of a request: in the form, or in a `Basic` header. -/
def credentials (authorization : Option JsString) (pairs : Params) :
    Except AuthFault (Option JsString × Option JsString) :=
  match authorization.filter fun header => (js "Basic ").isPrefixOf header with
  | none => .ok (pairs.get (js "client_id"), pairs.get (js "client_secret"))
  | some header =>
      let decoded := Base64Url.toText (header.drop 6)
      if decoded.contains 58 then
        match config.platform.decodeURIComponent (decoded.takeWhile (· != 58)),
            config.platform.decodeURIComponent ((decoded.dropWhile (· != 58)).drop 1) with
        | some clientId, some secret => .ok (some clientId, some secret)
        | _, _ => .error .malformedUri
      else .error (.oauth ⟨401, js "invalid_client", js "Malformed client credentials"⟩)

/-- `authenticateClient`. -/
def authenticateClient (authorization : Option JsString) (pairs : Params) :
    Except AuthFault (JsString × ClientClaims) := do
  let (clientId, secret) ← credentials config authorization pairs
  match clientId, clientFrom config clientId with
  | some clientId, some client =>
      if client.auth ≠ .none ∧ ¬ secret.any fun sent =>
          sent != [] && safeEqual sent (clientSecret config.platform config.signer clientId) then
        .error (.oauth ⟨401, js "invalid_client", js "Client authentication failed"⟩)
      else .ok (clientId, client)
  | _, _ => .error (.oauth ⟨401, js "invalid_client", js "Unknown client"⟩)

/-- `pruneRefresh()`. -/
def pruneRefresh (now : Clock) (server : Server) : Server :=
  { server with
    usedRefresh := server.usedRefresh.keepWhere fun expiry => decide ((seconds now).val < expiry)
    revokedFamilies := server.revokedFamilies.keepWhere fun expiry => decide ((seconds now).val < expiry) }

def invalidGrant (description : JsString) : Response :=
  refusal 400 (js "invalid_grant") description

/-- The `authorization_code` grant. -/
def redeemCode (moment : Moment) (clientId : JsString) (pairs : Params) (server : Server) : Response × Server :=
  let after := { server with codes := afterTake server.codes (pairs.get (js "code")) }
  match taken IssuedCode.expiresAt moment.now.val server.codes (pairs.get (js "code")) with
  | none => (invalidGrant (js "Invalid or expired code"), after)
  | some issued =>
      if issued.clientId ≠ clientId ∨ some issued.redirectUri ≠ pairs.get (js "redirect_uri") then
        (invalidGrant (js "Invalid or expired code"), after)
      else if (pairs.get (js "code_verifier")).any fun verifier =>
          isVerifier verifier && safeEqual (pkceChallenge config.platform verifier) issued.codeChallenge then
        (issueTokens config moment .authorizationCode issued.sub clientId (moment.fresh 0) issued.scope, after)
      else (invalidGrant (js "PKCE verification failed"), after)

/-- The claims of a refresh token that its client may still present. -/
def presentedRefresh (now : Clock) (clientId : JsString) (pairs : Params) : Option TokenClaims :=
  (pairs.get (js "refresh_token")).bind fun token =>
    (verify config.platform config.signer .refresh refreshClaims token).filter fun claims =>
      claims.iss == config.origin && claims.aud == config.resource && decide ((seconds now).val < claims.exp.val) &&
        claims.cid == clientId

/-- The client still has the scope that the token carries. -/
def keepsScope (clientId scope : JsString) : Bool :=
  (knownClient config (some clientId)).any fun known => scope == known.2.scope

/-- The `refresh_token` grant, after `pruneRefresh`. -/
def redeemRefresh (moment : Moment) (clientId : JsString) (pairs : Params) (server : Server) : Response × Server :=
  match presentedRefresh config moment.now clientId pairs with
  | none => (invalidGrant (js "Invalid refresh token"), server)
  | some claims =>
      if claims.sub ≠ config.allowedGoogleSub.val ∨ (server.revokedFamilies.get? claims.fam).isSome then
        (invalidGrant (js "Access revoked"), server)
      else if ¬ keepsScope config clientId claims.scope then (invalidGrant (js "Access revoked"), server)
      else if (server.usedRefresh.get? claims.jti).isSome then
        (invalidGrant (js "Refresh token reuse detected"),
          { server with
            revokedFamilies := server.revokedFamilies.set claims.fam ((seconds moment.now).val + refreshTtl) })
      else
        (issueTokens config moment .refreshToken claims.sub clientId claims.fam claims.scope,
          { server with usedRefresh := server.usedRefresh.set claims.jti claims.exp.val })

/-- `token(req, res)`, from the form on. -/
def grantTokens (moment : Moment) (clientId : JsString) (pairs : Params) (server : Server) : Response × Server :=
  if (pairs.get (js "resource")).any fun asked => asked != config.resource then
    (refusal 400 (js "invalid_target") (js "Unknown resource"), server)
  else if pairs.get (js "grant_type") = some (js "authorization_code") then
    redeemCode config moment clientId pairs server
  else if pairs.get (js "grant_type") = some (js "refresh_token") then
    redeemRefresh config moment clientId pairs (pruneRefresh moment.now server)
  else (refusal 400 (js "unsupported_grant_type") (js "Unsupported grant type"), server)

/-- `token(req, res)`. -/
def token (moment : Moment) (authorization : Option JsString) (form : Form) (server : Server) : Response × Server :=
  match readForm form with
  | .error error => (.refused error, server)
  | .ok pairs =>
      match authenticateClient config authorization pairs with
      | .error (.oauth error) => (.refused error, server)
      | .error .malformedUri => (.serverError, server)
      | .ok (clientId, _) => grantTokens config moment clientId pairs server

/-! ## Bearer tokens -/

/-- The claims of a bearer token that names this server and the permitted subject. -/
def bearerClaims (now : Clock) (authorization : Option JsString) : Option TokenClaims :=
  (authorization.filter fun header => (js "Bearer ").isPrefixOf header).bind fun header =>
    (verify config.platform config.signer .access accessClaims (header.drop 7)).filter fun claims =>
      claims.iss == config.origin && claims.aud == config.resource && decide ((seconds now).val < claims.exp.val) &&
        claims.sub == config.allowedGoogleSub.val

/-- `verifyAccess(authorization)`. -/
def verifyAccess (moment : Moment) (authorization : Option JsString) (server : Server) : Response × Server :=
  match bearerClaims config moment.now authorization with
  | none => (.unauthorised, server)
  | some claims =>
      let after := pruneRefresh moment.now server
      if (after.revokedFamilies.get? claims.fam).isSome then (.unauthorised, after)
      else
        match knownClient config (some claims.cid) with
        | none => (.unauthorised, after)
        | some (client, profile) =>
            if claims.scope = profile.scope then (.authorised claims profile client.name.val, after)
            else (.unauthorised, after)

/-! ## Steps -/

def Request.registering : Request → Bool
  | .register _ _ _ => true
  | _ => false

/-- The server without a request that it has answered or handed on. -/
def Server.finished (id : Nat) (server : Server) : Server :=
  { server with live := server.live.delete id }

/-- What may happen next. -/
inductive Action where
  /-- The headers of a request to `/oauth/` arrive. -/
  | arrive (id : Nat) (address : JsString) (registering : Bool)
  /-- Its body has been read. -/
  | serve (id : Nat) (request : Request)
  /-- Google's answer to the exchange of a callback: the verified subject, if there is one. -/
  | answer (id : Nat) (identity : Option JsString)
  /-- A request to `/mcp` with this `authorization` header. -/
  | access (authorization : Option JsString)

def route (moment : Moment) (id : Nat) (request : Request) (server : Server) : Response × Server :=
  match request with
  | .register contentType bytes body => (serveRegister config moment contentType bytes body, server)
  | .authorize query => authorize config moment query server
  | .callback query => callback moment id query server
  | .consent origin form => consent config moment origin form server
  | .token authorization form => token config moment authorization form server

def arrive (moment : Moment) (id : Nat) (address : JsString) (registering : Bool) (server : Server) :
    Response × Server :=
  match check config.rateLimits moment.now.val server.windows address registering with
  | (some (rule, wait), windows) => (.rateLimited rule wait, { server with windows := windows })
  | (none, windows) =>
      (.silent, { server with windows := windows, live := server.live.set id (.admitted registering) })

def perform (moment : Moment) (action : Action) (server : Server) : Response × Server :=
  match action with
  | .arrive id address registering => arrive config moment id address registering server
  | .serve id request =>
      match server.live.get? id with
      | some (.admitted registering) =>
          if registering = request.registering then route config moment id request (server.finished id)
          else (.silent, server)
      | _ => (.silent, server)
  | .answer id identity =>
      match server.live.get? id with
      | some (.exchanging login) => exchanged config moment login identity (server.finished id)
      | _ => (.silent, server)
  | .access authorization => verifyAccess config moment authorization server

end Endpoints

end KernelJson.OAuth.Server
