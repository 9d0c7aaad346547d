import KernelJson.OAuth.Steps

/-!
# Where a token comes from

A run of one server lifetime is a history of occurrences, newest first.  Every
token that the server signs goes back over the redemption of a code, an allowed
consent, a verified sign-in at Google and an authorisation request to the
registration of its client; the consent and the code are used once.  A MAC is
taken to hold only for a message that the server has signed before, and random
tokens are taken to be new.
-/

namespace KernelJson.OAuth.Provenance

open Foundation
open Foundation.JsText
open OAuth.Profiles
open OAuth.Server
open OAuth.Steps
open OAuth.Tables
open OAuth.Tokens

/-! ## Histories -/

structure Occurrence where
  moment : Moment
  action : Action
  response : Response

/-- The histories of a server that has not been restarted, newest occurrence first. -/
inductive Run (config : Config) : List Occurrence → Server → Prop where
  | started : Run config [] .started
  | step {past : List Occurrence} {server : Server} (run : Run config past server) (moment : Moment)
      (action : Action) :
      Run config (⟨moment, action, (perform config moment action server).1⟩ :: past)
        (perform config moment action server).2

/-- An occurrence of a history, with what came before it. -/
def Before (past : List Occurrence) (occurrence : Occurrence) (earlier : List Occurrence) : Prop :=
  ∃ later, past = later ++ occurrence :: earlier

theorem Before.here (occurrence : Occurrence) (past : List Occurrence) :
    Before (occurrence :: past) occurrence past :=
  ⟨[], rfl⟩

theorem Before.later {past earlier : List Occurrence} {occurrence : Occurrence}
    (stands : Before past occurrence earlier) (next : Occurrence) : Before (next :: past) occurrence earlier := by
  obtain ⟨later, rfl⟩ := stands
  exact ⟨next :: later, rfl⟩

theorem Before.mem {past earlier : List Occurrence} {occurrence : Occurrence}
    (stands : Before past occurrence earlier) : occurrence ∈ past := by
  obtain ⟨later, rfl⟩ := stands
  exact List.mem_append_right _ List.mem_cons_self

/-! ## Assumptions -/

section Assumptions

variable (config : Config)

/-- The messages whose MACs a response reveals. -/
def messages : Response → List JsString
  | .registered clientId secret client _ =>
      message .client (payloadOf clientClaims client) :: (secret.map fun _ => message .clientSecret clientId).toList
  | .tokens _ access refresh =>
      [message .access (payloadOf accessClaims access), message .refresh (payloadOf refreshClaims refresh)]
  | _ => []

/-- The texts that a request may present as tokens. -/
def presented : Action → List JsString
  | .serve _ (.authorize query) => query.map Prod.snd
  | .serve _ (.token authorization form) =>
      form.pairs.map Prod.snd ++
        match credentials config authorization form.pairs with
        | .ok (some clientId, _) => [clientId]
        | _ => []
  | .access (some header) => [header.drop 7]
  | _ => []

/-- HMAC cannot be forged: a MAC that is presented was revealed before. -/
def Unforgeable : List Occurrence → Prop
  | [] => True
  | occurrence :: earlier =>
      (∀ token ∈ presented config occurrence.action, ∀ purpose payload,
        signedPayload config.platform config.signer purpose token = some payload →
          message purpose payload ∈ earlier.flatMap fun other => messages other.response) ∧
      Unforgeable earlier

/-- The random tokens behind a response. -/
def drawn : Response → List JsString
  | .registered _ _ client _ => [client.jti]
  | .toGoogle state nonce googleVerifier => [state, nonce, googleVerifier]
  | .consentPage ticket _ _ _ _ => [ticket]
  | .code _ code _ => [code]
  | .tokens .authorizationCode access refresh => [access.fam, access.jti, refresh.jti]
  | .tokens .refreshToken access refresh => [access.jti, refresh.jti]
  | _ => []

/-- Random tokens do not repeat. -/
def Fresh (past : List Occurrence) : Prop :=
  (past.flatMap fun occurrence => drawn occurrence.response).Nodup

/-- The clock does not go back. -/
def ClockForward (past : List Occurrence) : Prop :=
  past.Pairwise fun later earlier => earlier.moment.now.val ≤ later.moment.now.val

end Assumptions

theorem Fresh.earlier {occurrence : Occurrence} {past : List Occurrence} (fresh : Fresh (occurrence :: past)) :
    Fresh past := by
  unfold Fresh at fresh
  rw [List.flatMap_cons] at fresh
  exact fresh.of_append_right

/-- What is drawn now was not drawn before. -/
theorem Fresh.new {occurrence other : Occurrence} {past : List Occurrence} {token : JsString}
    (fresh : Fresh (occurrence :: past)) (now : token ∈ drawn occurrence.response) (member : other ∈ past) :
    token ∉ drawn other.response := by
  unfold Fresh at fresh
  rw [List.flatMap_cons] at fresh
  intro before
  exact (List.nodup_append.mp fresh).2.2 token now token (List.mem_flatMap.mpr ⟨other, member, before⟩) rfl

/-- A random token is drawn by one occurrence at most. -/
theorem Fresh.count_le_one {past : List Occurrence} (fresh : Fresh past) (token : JsString)
    (draws : Occurrence → Bool) (drawing : ∀ occurrence, draws occurrence = true → token ∈ drawn occurrence.response) :
    past.countP draws ≤ 1 := by
  induction past with
  | nil => exact Nat.zero_le 1
  | cons occurrence past ih =>
      by_cases here : draws occurrence = true
      · have none : past.countP draws = 0 := by
          rw [List.countP_eq_zero]
          intro other member again
          exact fresh.new (drawing _ here) member (drawing _ again)
        rw [List.countP_cons_of_pos here, none]
      · rw [List.countP_cons_of_neg here]
        exact ih fresh.earlier

/-! ## What a MAC proves -/

/-- The occurrence signs these claims for a purpose. -/
def Mints (purpose : Purpose) (claims : TokenClaims) (occurrence : Occurrence) : Prop :=
  ∃ grant access refresh, occurrence.response = .tokens grant access refresh ∧
    ((purpose = .access ∧ claims = access) ∨ (purpose = .refresh ∧ claims = refresh))

/-- The occurrence registers a client. -/
def Registers (client : ClientClaims) (occurrence : Occurrence) : Prop :=
  ∃ clientId secret scope, occurrence.response = .registered clientId secret client scope

section Macs

variable {config : Config}

/-- A revealed MAC belongs to a registration or to a pair of tokens. -/
theorem mem_messages {text : JsString} {response : Response} (revealed : text ∈ messages response) :
    (∃ clientId secret client scope, response = .registered clientId secret client scope ∧
      (text = message .client (payloadOf clientClaims client) ∨ text = message .clientSecret clientId)) ∨
    ∃ grant access refresh, response = .tokens grant access refresh ∧
      (text = message .access (payloadOf accessClaims access) ∨
        text = message .refresh (payloadOf refreshClaims refresh)) := by
  cases response with
  | registered clientId secret client scope =>
      refine .inl ⟨clientId, secret, client, scope, rfl, ?_⟩
      rcases List.mem_cons.mp revealed with same | secretMessage
      · exact .inl same
      · obtain ⟨_, _, same⟩ := Option.map_eq_some_iff.mp (Option.mem_toList.mp secretMessage)
        exact .inr same.symm
  | tokens grant access refresh =>
      refine .inr ⟨grant, access, refresh, rfl, ?_⟩
      rcases List.mem_cons.mp revealed with same | later
      · exact .inl same
      · exact .inr (List.mem_singleton.mp later)
  | _ => cases revealed

/-- An access or refresh token that is accepted was signed before. -/
theorem minted_of_verify {occurrence : Occurrence} {past : List Occurrence} {purpose : Purpose}
    (kind : purpose = .access ∨ purpose = .refresh) {token : JsString} {claims : TokenClaims}
    (unforgeable : Unforgeable config (occurrence :: past)) (shown : token ∈ presented config occurrence.action)
    (verified : verify config.platform config.signer purpose (tokenCodec purpose) token = some claims) :
    ∃ other ∈ past, Mints purpose claims other := by
  obtain ⟨payload, signed, read⟩ := verify_signed _ _ verified
  obtain ⟨other, member, revealed⟩ := List.mem_flatMap.mp (unforgeable.1 token shown purpose payload signed)
  refine ⟨other, member, ?_⟩
  rcases mem_messages revealed with ⟨_, _, _, _, -, same | same⟩ | ⟨grant, access, refresh, answer, same | same⟩
  · have wrong := (message_injective same).1
    rcases kind with rfl | rfl <;> cases wrong
  · have wrong := (message_injective same).1
    rcases kind with rfl | rfl <;> cases wrong
  · obtain ⟨rfl, rfl⟩ := message_injective same
    rw [accessClaims, readPayload_token] at read
    exact ⟨grant, access, refresh, answer, .inl ⟨rfl, (Option.some.inj read).symm⟩⟩
  · obtain ⟨rfl, rfl⟩ := message_injective same
    rw [refreshClaims, readPayload_token] at read
    exact ⟨grant, access, refresh, answer, .inr ⟨rfl, (Option.some.inj read).symm⟩⟩

/-- A client id that is accepted was issued by a registration. -/
theorem registered_of_verify {occurrence : Occurrence} {past : List Occurrence} {token : JsString}
    {client : ClientClaims} (unforgeable : Unforgeable config (occurrence :: past))
    (shown : token ∈ presented config occurrence.action)
    (verified : verify config.platform config.signer .client clientClaims token = some client) :
    ∃ other ∈ past, Registers client other := by
  obtain ⟨payload, signed, read⟩ := verify_signed _ _ verified
  obtain ⟨other, member, revealed⟩ := List.mem_flatMap.mp (unforgeable.1 token shown .client payload signed)
  refine ⟨other, member, ?_⟩
  rcases mem_messages revealed with ⟨clientId, secret, issued, scope, answer, same | same⟩ | ⟨_, _, _, -, same | same⟩
  · obtain ⟨-, rfl⟩ := message_injective same
    rw [readPayload_client] at read
    exact ⟨clientId, secret, scope, Option.some.inj read ▸ answer⟩
  · cases (message_injective same).1
  · cases (message_injective same).1
  · cases (message_injective same).1

end Macs

/-! ## The way to a token -/

section Chain

variable (config : Config)

/-- A registered client asked for a sign-in at one of its own redirect addresses, with a PKCE challenge. -/
inductive Opened (past : List Occurrence) (state : JsString) (login : PendingLogin) : Prop where
  | opened (moment : Moment) (id : Nat) (query : Params) (profile : ClientProfile) (earlier : List Occurrence)
      (stands : Before past ⟨moment, .serve id (.authorize query), .toGoogle state login.nonce login.googleVerifier⟩
        earlier)
      (asked : authorizing config query = some (login.client, profile, login.clientId, login.redirectUri))
      (challenge : query.get (js "code_challenge") = some login.codeChallenge)
      (wellFormed : isChallenge login.codeChallenge = true)
      (sameScope : login.scope = profile.scope)
      (expires : login.expiresAt = moment.now.val + loginTtlMs)
      (registered : ∃ occurrence ∈ earlier, Registers login.client occurrence)

/-- Google sent the person back for this sign-in, before it expired. -/
inductive Returned (past : List Occurrence) (id : Nat) (login : PendingLogin) : Prop where
  | returned (moment : Moment) (query : Params) (state : JsString) (earlier : List Occurrence)
      (stands : Before past ⟨moment, .serve id (.callback query), .exchanging⟩ earlier)
      (asked : query.get (js "state") = some state)
      (live : moment.now.val < login.expiresAt)
      (opened : Opened config earlier state login)

/-- The exchange at Google returned the permitted subject, and a consent was asked for under a ticket. -/
inductive Vouched (past : List Occurrence) (ticket : JsString) (pending : PendingConsent) : Prop where
  | vouched (moment : Moment) (id : Nat) (login : PendingLogin) (profile : ClientProfile)
      (earlier : List Occurrence)
      (stands : Before past ⟨moment, .answer id (some pending.sub),
        .consentPage ticket login.client.name.val profile.label profile.grants login.redirectUri⟩ earlier)
      (permitted : safeEqual pending.sub config.allowedGoogleSub.val = true)
      (resolved : profileOf config login.client = some profile)
      (carried : pending = newConsent moment login pending.sub)
      (returned : Returned config earlier id login)

/-- The consent under a ticket was allowed before it expired, and gave a code. -/
inductive Allowed (past : List Occurrence) (ticket code : JsString) (issued : IssuedCode) : Prop where
  | allowed (moment : Moment) (id : Nat) (origin : Option JsString) (form : Form) (pairs : Params)
      (pending : PendingConsent) (earlier : List Occurrence)
      (stands : Before past ⟨moment, .serve id (.consent origin form),
        .code pending.redirectUri code pending.state⟩ earlier)
      (read : readForm form = .ok pairs)
      (asked : pairs.get (js "ticket") = some ticket)
      (decided : pairs.get (js "decision") = some (js "allow"))
      (live : moment.now.val < pending.expiresAt)
      (carried : issued = newCode moment pending)
      (vouched : Vouched config earlier ticket pending)

/-- The client of a code redeemed it before it expired, with its redirect address and verifier. -/
inductive Redeemed (past : List Occurrence) (ticket code : JsString) (issued : IssuedCode) (family : JsString) :
    Prop where
  | redeemed (moment : Moment) (id : Nat) (authorization : Option JsString) (form : Form) (pairs : Params)
      (verifier : JsString) (client : ClientClaims) (earlier : List Occurrence)
      (stands : Before past ⟨moment, .serve id (.token authorization form),
        issueTokens config moment .authorizationCode issued.sub issued.clientId family issued.scope⟩ earlier)
      (read : readForm form = .ok pairs)
      (authenticated : authenticateClient config authorization pairs = .ok (issued.clientId, client))
      (grant : pairs.get (js "grant_type") = some (js "authorization_code"))
      (asked : pairs.get (js "code") = some code)
      (sameUri : pairs.get (js "redirect_uri") = some issued.redirectUri)
      (verifies : pairs.get (js "code_verifier") = some verifier)
      (matched : pkceChallenge config.platform verifier = issued.codeChallenge)
      (live : moment.now.val < issued.expiresAt)
      (allowed : Allowed config earlier ticket code issued)

variable {config}

theorem Opened.later {past : List Occurrence} {state : JsString} {login : PendingLogin}
    (opened : Opened config past state login) (next : Occurrence) : Opened config (next :: past) state login := by
  obtain ⟨moment, id, query, profile, earlier, stands, asked, challenge, wellFormed, sameScope, expires, registered⟩ :=
    opened
  exact ⟨moment, id, query, profile, earlier, stands.later next, asked, challenge, wellFormed, sameScope, expires,
    registered⟩

theorem Returned.later {past : List Occurrence} {id : Nat} {login : PendingLogin}
    (returned : Returned config past id login) (next : Occurrence) : Returned config (next :: past) id login := by
  obtain ⟨moment, query, state, earlier, stands, asked, live, opened⟩ := returned
  exact ⟨moment, query, state, earlier, stands.later next, asked, live, opened⟩

theorem Vouched.later {past : List Occurrence} {ticket : JsString} {pending : PendingConsent}
    (vouched : Vouched config past ticket pending) (next : Occurrence) :
    Vouched config (next :: past) ticket pending := by
  obtain ⟨moment, id, login, profile, earlier, stands, permitted, resolved, carried, returned⟩ := vouched
  exact ⟨moment, id, login, profile, earlier, stands.later next, permitted, resolved, carried, returned⟩

theorem Allowed.later {past : List Occurrence} {ticket code : JsString} {issued : IssuedCode}
    (allowed : Allowed config past ticket code issued) (next : Occurrence) :
    Allowed config (next :: past) ticket code issued := by
  obtain ⟨moment, id, origin, form, pairs, pending, earlier, stands, read, asked, decided, live, carried, vouched⟩ :=
    allowed
  exact ⟨moment, id, origin, form, pairs, pending, earlier, stands.later next, read, asked, decided, live, carried,
    vouched⟩

theorem Redeemed.later {past : List Occurrence} {ticket code family : JsString} {issued : IssuedCode}
    (redeemed : Redeemed config past ticket code issued family) (next : Occurrence) :
    Redeemed config (next :: past) ticket code issued family := by
  obtain ⟨moment, id, authorization, form, pairs, verifier, client, earlier, stands, read, authenticated, grant,
    asked, sameUri, verifies, matched, live, allowed⟩ := redeemed
  exact ⟨moment, id, authorization, form, pairs, verifier, client, earlier, stands.later next, read, authenticated,
    grant, asked, sameUri, verifies, matched, live, allowed⟩

/-- The profile of the client of a sign-in is known. -/
theorem Returned.profile {past : List Occurrence} {id : Nat} {login : PendingLogin}
    (returned : Returned config past id login) : (profileOf config login.client).isSome := by
  obtain ⟨_, _, _, _, _, _, _, _, _, _, profile, _, _, asked, _⟩ := returned
  obtain ⟨-, known, -⟩ := authorizing_eq_some asked
  rw [(knownClient_eq_some known).2]
  rfl

theorem Allowed.challenge {past : List Occurrence} {ticket code : JsString} {issued : IssuedCode}
    (allowed : Allowed config past ticket code issued) : isChallenge issued.codeChallenge = true := by
  obtain ⟨moment, _, _, _, _, pending, _, _, _, _, _, _, rfl, vouched⟩ := allowed
  obtain ⟨_, _, login, _, _, _, _, _, carried, returned⟩ := vouched
  obtain ⟨_, _, _, _, _, _, _, opened⟩ := returned
  obtain ⟨_, _, _, _, _, _, _, _, wellFormed, _⟩ := opened
  have same : (newCode moment pending).codeChallenge = login.codeChallenge :=
    congrArg (fun item => item.codeChallenge) carried
  exact same ▸ wellFormed

end Chain

/-! ## What a server holds -/

section Traced

variable {config : Config}

/-- The claims were signed at the end of a chain that began with a registration. -/
def Rooted (config : Config) (past : List Occurrence) (claims : TokenClaims) : Prop :=
  ∃ ticket code issued, Redeemed config past ticket code issued claims.fam ∧ claims.sub = issued.sub ∧
    claims.cid = issued.clientId ∧ claims.scope = issued.scope

theorem Rooted.later {past : List Occurrence} {claims : TokenClaims} (rooted : Rooted config past claims)
    (next : Occurrence) : Rooted config (next :: past) claims := by
  obtain ⟨ticket, code, issued, redeemed, same⟩ := rooted
  exact ⟨ticket, code, issued, redeemed.later next, same⟩

/-- Everything that a server holds, and everything that it signed, goes back to where it came from. -/
structure Traced (config : Config) (past : List Occurrence) (server : Server) : Prop where
  logins : ∀ state login, server.logins.get? state = some login → Opened config past state login
  exchanging : ∀ id login, server.live.get? id = some (.exchanging login) → Returned config past id login
  consents : ∀ ticket pending, server.consents.get? ticket = some pending → Vouched config past ticket pending
  codes : ∀ code issued, server.codes.get? code = some issued → ∃ ticket, Allowed config past ticket code issued
  minted : ∀ occurrence ∈ past, ∀ purpose claims, Mints purpose claims occurrence → Rooted config past claims

theorem not_mints {purpose : Purpose} {claims : TokenClaims} {occurrence : Occurrence}
    (other : ∀ grant access refresh, occurrence.response ≠ .tokens grant access refresh) :
    ¬ Mints purpose claims occurrence := by
  rintro ⟨grant, access, refresh, answer, -⟩
  exact other grant access refresh answer

/-- What was signed before stays rooted when the new occurrence signs nothing. -/
theorem Traced.minted_later {past : List Occurrence} {server : Server} (traced : Traced config past server)
    {next : Occurrence} (other : ∀ grant access refresh, next.response ≠ .tokens grant access refresh) :
    ∀ occurrence ∈ next :: past, ∀ purpose claims, Mints purpose claims occurrence →
      Rooted config (next :: past) claims := by
  intro occurrence member purpose claims mints
  rcases List.mem_cons.mp member with rfl | before
  · exact absurd mints (not_mints other)
  · exact (traced.minted occurrence before purpose claims mints).later next

/-- A server that only dropped entries is traced by the longer history. -/
theorem Traced.fewer {past : List Occurrence} {server after : Server} {now : Clock}
    (traced : Traced config past server) (fewer : Fewer now server after) {next : Occurrence}
    (minted : ∀ occurrence ∈ next :: past, ∀ purpose claims, Mints purpose claims occurrence →
      Rooted config (next :: past) claims) :
    Traced config (next :: past) after where
  logins := fun state login here => (traced.logins state login (fewer.logins state login here)).later next
  exchanging := fun id login here => (traced.exchanging id login (fewer.exchanging id login here)).later next
  consents := fun ticket pending here => (traced.consents ticket pending (fewer.consents ticket pending here)).later next
  codes := by
    intro code issued here
    obtain ⟨ticket, allowed⟩ := traced.codes code issued (fewer.codes code issued here)
    exact ⟨ticket, allowed.later next⟩
  minted := minted

theorem mem_params {params : Params} {name value : JsString} (found : params.get name = some value) :
    value ∈ params.map Prod.snd :=
  List.mem_map.mpr ⟨(name, value), JsMap.mem_of_lookupEntry found, rfl⟩

theorem pairs_of_readForm {form : Form} {pairs : Params} (read : readForm form = .ok pairs) : form.pairs = pairs := by
  unfold readForm at read
  split at read
  · cases read
  · split at read
    · cases read
    · split at read
      · cases read
      · exact Except.ok.inj read

theorem mem_presented_refresh {id : Nat} {authorization : Option JsString} {form : Form} {pairs : Params}
    {token : JsString} (read : readForm form = .ok pairs) (shown : pairs.get (js "refresh_token") = some token) :
    token ∈ presented config (.serve id (.token authorization form)) :=
  List.mem_append_left _ (pairs_of_readForm read ▸ mem_params shown)

/-- The claims of a refresh token that is presented were signed before. -/
theorem minted_of_presented {moment : Moment} {id : Nat} {authorization : Option JsString} {form : Form}
    {pairs : Params} {clientId : JsString} {claims : TokenClaims} {response : Response} {past : List Occurrence}
    (unforgeable : Unforgeable config (⟨moment, .serve id (.token authorization form), response⟩ :: past))
    (read : readForm form = .ok pairs)
    (shown : presentedRefresh config moment.now clientId pairs = some claims) :
    ∃ other ∈ past, Mints .refresh claims other := by
  obtain ⟨token, present, accepted⟩ := Option.bind_eq_some_iff.mp shown
  obtain ⟨verified, -⟩ := Option.filter_eq_some_iff.mp accepted
  exact minted_of_verify (.inr rfl) unforgeable (mem_presented_refresh read present) verified

theorem cid_of_presented {now : Clock} {clientId : JsString} {pairs : Params} {claims : TokenClaims}
    (shown : presentedRefresh config now clientId pairs = some claims) :
    (seconds now).val < claims.exp.val ∧ claims.cid = clientId := by
  obtain ⟨token, present, accepted⟩ := Option.bind_eq_some_iff.mp shown
  obtain ⟨-, checks⟩ := Option.filter_eq_some_iff.mp accepted
  simp only [Bool.and_eq_true, beq_iff_eq, decide_eq_true_eq] at checks
  exact ⟨checks.1.2, checks.2⟩

/-- The claims that a grant signs share their family, subject, client and scope. -/
theorem mints_issueTokens {moment : Moment} {action : Action} {grant : Grant} {sub clientId family scope : JsString}
    {purpose : Purpose} {claims : TokenClaims}
    (mints : Mints purpose claims ⟨moment, action, issueTokens config moment grant sub clientId family scope⟩) :
    claims.fam = family ∧ claims.sub = sub ∧ claims.cid = clientId ∧ claims.scope = scope := by
  obtain ⟨_, access, refresh, answer, ⟨-, rfl⟩ | ⟨-, rfl⟩⟩ := mints
  · injection answer with _ same _
    subst same
    exact ⟨rfl, rfl, rfl, rfl⟩
  · injection answer with _ _ same
    subst same
    exact ⟨rfl, rfl, rfl, rfl⟩

theorem isAscii_unit {unit : UInt16} (plain : (isAlphanumericUnit unit || unit == 95 || unit == 45) = true) :
    unit.toNat < 0xD800 := by
  simp only [isAlphanumericUnit, isDigitUnit, isUpperUnit, isLowerUnit, Bool.or_eq_true, Bool.and_eq_true,
    decide_eq_true_eq, beq_iff_eq] at plain
  rcases plain with (((digit | upper) | lower) | rfl) | rfl
  · omega
  · omega
  · omega
  · decide
  · decide

/-- What the encoder writes has no surrogates. -/
theorem wellFormed_encode (bytes : List UInt8) : Utf8.WellFormed (Base64Url.encode bytes) :=
  .of_plain fun _ member => lt_trans (Base64Url.isAscii_of_mem_encode member) (by decide)

theorem wellFormed_challenge {challenge : JsString} (accepted : isChallenge challenge = true) :
    Utf8.WellFormed challenge := by
  refine .of_plain fun unit member => ?_
  have units := (Bool.and_eq_true_iff.mp accepted).2
  exact isAscii_unit (List.all_eq_true.mp units unit member)

variable {moment : Moment} {id : Nat} {past : List Occurrence} {before : Server}

/-- The same server without a request, traced by a history with one occurrence more. -/
theorem Traced.finished (traced : Traced config past before) (id : Nat) (next : Occurrence)
    (minted : ∀ occurrence ∈ next :: past, ∀ purpose claims, Mints purpose claims occurrence →
      Rooted config (next :: past) claims) :
    Traced config (next :: past) (before.finished id) :=
  traced.fewer (Fewer.refl next.moment.now (before.finished id)).finished minted

theorem Traced.signIn (traced : Traced config past before) {query : Params} {client : ClientClaims}
    {profile : ClientProfile} {clientId redirectUri : JsString} {next : Occurrence}
    (occurs : next = ⟨moment, .serve id (.authorize query),
      .toGoogle (moment.fresh 0) (moment.fresh 1) (moment.fresh 2)⟩)
    (unforgeable : Unforgeable config (next :: past))
    (asked : authorizing config query = some (client, profile, clientId, redirectUri))
    (clean : authorizeFault config query = none) :
    Traced config (next :: past)
      { before.finished id with
        logins := put PendingLogin.expiresAt moment.now.val before.logins (moment.fresh 0)
          (newLogin moment query client profile clientId redirectUri) } := by
  have plain : ∀ grant access refresh, next.response ≠ .tokens grant access refresh := by
    intro grant access refresh same
    rw [occurs] at same
    cases same
  have base := traced.finished id next (traced.minted_later plain)
  subst occurs
  refine { base with logins := ?_ }
  intro state login here
  rcases get?_put _ here with ⟨rfl, rfl, -⟩ | old
  · obtain ⟨named, known, -, -⟩ := authorizing_eq_some asked
    obtain ⟨challenge, sent, wellFormed⟩ := challenge_of_clean clean
    have carried : (newLogin moment query client profile clientId redirectUri).codeChallenge = challenge := by
      simp only [newLogin, sent, Option.getD_some]
    have registered := registered_of_verify unforgeable (mem_params named) (knownClient_eq_some known).1
    exact ⟨moment, id, query, profile, past, .here _ _, asked, carried ▸ sent, carried ▸ wellFormed, rfl, rfl,
      registered⟩
  · exact base.logins state login old

theorem Traced.returned (traced : Traced config past before) {query : Params} {state : JsString}
    {login : PendingLogin} {next : Occurrence} (occurs : next = ⟨moment, .serve id (.callback query), .exchanging⟩)
    (asked : query.get (js "state") = some state) (present : before.logins.get? state = some login)
    (live : moment.now.val < login.expiresAt) :
    Traced config (next :: past)
      { before with
        logins := afterTake before.logins (some state)
        live := (before.finished id).live.set id (.exchanging login) } := by
  have plain : ∀ grant access refresh, next.response ≠ .tokens grant access refresh := by
    intro grant access refresh same
    rw [occurs] at same
    cases same
  have base := traced.finished id next (traced.minted_later plain)
  subst occurs
  refine { base with logins := ?_, exchanging := ?_ }
  · intro other found here
    exact base.logins other found (get?_afterTake here)
  · intro other found here
    simp only [JsMap.get?_set] at here
    split at here
    · next same =>
        cases here
        subst same
        exact ⟨moment, query, state, past, .here _ _, asked, live, traced.logins state login present⟩
    · exact base.exchanging other found here

theorem Traced.vouched (traced : Traced config past before) {sub : JsString} {login : PendingLogin}
    {profile : ClientProfile} {next : Occurrence}
    (occurs : next = ⟨moment, .answer id (some sub), .consentPage (moment.fresh 0) login.client.name.val profile.label
      profile.grants login.redirectUri⟩)
    (waiting : before.live.get? id = some (.exchanging login))
    (same : safeEqual sub config.allowedGoogleSub.val = true)
    (found : profileOf config login.client = some profile) :
    Traced config (next :: past)
      { before.finished id with
        consents := put (fun item => item.expiresAt) moment.now.val before.consents (moment.fresh 0)
          (newConsent moment login sub) } := by
  have plain : ∀ grant access refresh, next.response ≠ .tokens grant access refresh := by
    intro grant access refresh same
    rw [occurs] at same
    cases same
  have base := traced.finished id next (traced.minted_later plain)
  subst occurs
  refine { base with consents := ?_ }
  intro ticket pending here
  rcases get?_put _ here with ⟨rfl, rfl, -⟩ | old
  · exact ⟨moment, id, login, profile, past, .here _ _, same, found, rfl, traced.exchanging id login waiting⟩
  · exact base.consents ticket pending old

theorem Traced.allowed (traced : Traced config past before) {origin : Option JsString} {form : Form}
    {pairs : Params} {ticket : JsString} {pending : PendingConsent} {next : Occurrence}
    (occurs : next = ⟨moment, .serve id (.consent origin form),
      .code pending.redirectUri (moment.fresh 0) pending.state⟩)
    (read : readForm form = .ok pairs) (asked : pairs.get (js "ticket") = some ticket)
    (present : before.consents.get? ticket = some pending) (live : moment.now.val < pending.expiresAt)
    (decided : pairs.get (js "decision") = some (js "allow")) :
    Traced config (next :: past)
      { before.finished id with
        consents := afterTake before.consents (some ticket)
        codes := put IssuedCode.expiresAt moment.now.val before.codes (moment.fresh 0) (newCode moment pending) } := by
  have plain : ∀ grant access refresh, next.response ≠ .tokens grant access refresh := by
    intro grant access refresh same
    rw [occurs] at same
    cases same
  have base := traced.finished id next (traced.minted_later plain)
  subst occurs
  refine { base with consents := ?_, codes := ?_ }
  · intro other found here
    exact base.consents other found (get?_afterTake here)
  · intro code issued here
    rcases get?_put _ here with ⟨rfl, rfl, -⟩ | old
    · exact ⟨ticket, moment, id, origin, form, pairs, pending, past, .here _ _, read, asked, decided, live, rfl,
        traced.consents ticket pending present⟩
    · exact base.codes code issued old

/-- What a grant signs is rooted, if the family, subject, client and scope that it signs are. -/
theorem Traced.minted_grant (traced : Traced config past before) {action : Action} {grant : Grant}
    {sub clientId family scope : JsString} {next : Occurrence}
    (occurs : next = ⟨moment, action, issueTokens config moment grant sub clientId family scope⟩)
    (rooted : ∃ ticket code issued, Redeemed config (next :: past) ticket code issued family ∧ sub = issued.sub ∧
      clientId = issued.clientId ∧ scope = issued.scope) :
    ∀ occurrence ∈ next :: past, ∀ purpose claims, Mints purpose claims occurrence →
      Rooted config (next :: past) claims := by
  intro occurrence member purpose claims mints
  rcases List.mem_cons.mp member with rfl | old
  · obtain ⟨ticket, code, issued, redeemed, sameSub, sameClient, sameScope⟩ := rooted
    obtain ⟨sameFamily, sub', cid', scope'⟩ := mints_issueTokens (occurs ▸ mints)
    exact ⟨ticket, code, issued, sameFamily ▸ redeemed, sub'.trans sameSub, cid'.trans sameClient,
      scope'.trans sameScope⟩
  · exact (traced.minted occurrence old purpose claims mints).later next

theorem Traced.redeemedCode (traced : Traced config past before) {authorization : Option JsString} {form : Form}
    {pairs : Params} {clientId code verifier : JsString} {client : ClientClaims} {issued : IssuedCode}
    {next : Occurrence}
    (occurs : next = ⟨moment, .serve id (.token authorization form),
      issueTokens config moment .authorizationCode issued.sub clientId (moment.fresh 0) issued.scope⟩)
    (read : readForm form = .ok pairs)
    (authenticated : authenticateClient config authorization pairs = .ok (clientId, client))
    (grant : pairs.get (js "grant_type") = some (js "authorization_code"))
    (asked : pairs.get (js "code") = some code) (present : before.codes.get? code = some issued)
    (live : moment.now.val < issued.expiresAt) (sameClient : issued.clientId = clientId)
    (sameUri : pairs.get (js "redirect_uri") = some issued.redirectUri)
    (verifies : pairs.get (js "code_verifier") = some verifier)
    (matched : safeEqual (pkceChallenge config.platform verifier) issued.codeChallenge = true) :
    Traced config (next :: past) { before.finished id with codes := afterTake before.codes (some code) } := by
  subst sameClient
  obtain ⟨ticket, allowed⟩ := traced.codes code issued present
  have challenge : pkceChallenge config.platform verifier = issued.codeChallenge :=
    safeEqual_eq (wellFormed_encode _) (wellFormed_challenge allowed.challenge) matched
  have redeemed : Redeemed config (next :: past) ticket code issued (moment.fresh 0) :=
    ⟨moment, id, authorization, form, pairs, verifier, client, past, occurs ▸ .here _ _, read, authenticated, grant,
      asked, sameUri, verifies, challenge, live, allowed⟩
  have base := traced.finished id next
    (traced.minted_grant occurs ⟨ticket, code, issued, redeemed, rfl, rfl, rfl⟩)
  refine { base with codes := ?_ }
  intro other found here
  exact base.codes other found (get?_afterTake here)

theorem Traced.redeemedRefresh (traced : Traced config past before) {authorization : Option JsString} {form : Form}
    {pairs : Params} {clientId : JsString} {claims : TokenClaims} {after : Server} {next : Occurrence}
    (occurs : next = ⟨moment, .serve id (.token authorization form),
      issueTokens config moment .refreshToken claims.sub clientId claims.fam claims.scope⟩)
    (unforgeable : Unforgeable config (next :: past)) (read : readForm form = .ok pairs)
    (shown : presentedRefresh config moment.now clientId pairs = some claims)
    (fewer : Fewer moment.now before { after with usedRefresh := before.usedRefresh }) :
    Traced config (next :: past) after := by
  obtain ⟨other, member, mints⟩ := minted_of_presented (occurs ▸ unforgeable) read shown
  obtain ⟨ticket, code, issued, redeemed, sameSub, sameClient, sameScope⟩ :=
    traced.minted other member .refresh claims mints
  have presenter := (cid_of_presented shown).2
  have minted := traced.minted_grant occurs
    ⟨ticket, code, issued, redeemed.later _, sameSub, presenter.symm.trans sameClient, sameScope⟩
  exact { traced.fewer fewer minted with }

theorem Traced.minted_plain {response : Response} (traced : Traced config past before) (action : Action)
    (plain : ∀ grant access refresh, response ≠ .tokens grant access refresh) :
    ∀ occurrence ∈ ⟨moment, action, response⟩ :: past, ∀ purpose claims, Mints purpose claims occurrence →
      Rooted config (⟨moment, action, response⟩ :: past) claims :=
  traced.minted_later plain

/-- A step keeps the trace. -/
theorem Traced.step {action : Action} {response : Response} {after : Server} (traced : Traced config past before)
    (unforgeable : Unforgeable config (⟨moment, action, response⟩ :: past))
    (effect : Effect config moment before action response after) :
    Traced config (⟨moment, action, response⟩ :: past) after := by
  cases effect with
  | quiet plain fewer =>
      refine traced.fewer fewer (traced.minted_plain action ?_)
      intro grant access refresh same
      exact plain (same ▸ trivial)
  | registered id request profile found allowed =>
      exact traced.finished _ _ (traced.minted_plain _ fun _ _ _ => Response.noConfusion)
  | signIn id asked clean => exact traced.signIn rfl unforgeable asked clean
  | returned id asked present live => exact traced.returned rfl asked present live
  | vouched id waiting same found => exact traced.vouched rfl waiting same found
  | stranded id waiting unknown =>
      have known := (traced.exchanging _ _ waiting).profile
      rw [unknown] at known
      cases known
  | denied id read asked nonempty present live decided =>
      refine { traced.finished _ _ (traced.minted_plain _ fun _ _ _ => Response.noConfusion) with consents := ?_ }
      exact fun other found here => (traced.consents other found (get?_afterTake here)).later _
  | allowed id read asked nonempty present live decided => exact traced.allowed rfl read asked present live decided
  | redeemedCode id read authenticated grant asked nonempty present live sameClient sameUri verifies wellFormed
      matched =>
      exact traced.redeemedCode rfl read authenticated grant asked present live sameClient sameUri verifies matched
  | reused id read authenticated grant shown unrevoked used =>
      have fewer := (Fewer.pruneRefresh moment.now (before.finished id)).finished
      exact { traced.fewer fewer (traced.minted_plain _ fun _ _ _ => Response.noConfusion) with }
  | redeemedRefresh id read authenticated grant shown permitted sameScope unrevoked unused =>
      refine traced.redeemedRefresh rfl unforgeable read shown ?_
      exact { (Fewer.pruneRefresh moment.now (before.finished id)).finished with usedRefresh := .refl _ _ }
  | authorised bearer unrevoked known sameScope =>
      exact traced.fewer (Fewer.pruneRefresh moment.now before)
        (traced.minted_plain _ fun _ _ _ => Response.noConfusion)

/-- Everything that a running server holds or has signed is traced. -/
theorem Run.traced {server : Server} (run : Run config past server) (unforgeable : Unforgeable config past) :
    Traced config past server := by
  induction run with
  | started =>
      refine ⟨?_, ?_, ?_, ?_, ?_⟩
      · intro state login here
        cases here
      · intro id login here
        cases here
      · intro ticket pending here
        cases here
      · intro code issued here
        cases here
      · intro occurrence member
        cases member
  | step run moment action ih =>
      exact (ih unforgeable.2).step unforgeable (perform_effect config moment _ action)

end Traced

end KernelJson.OAuth.Provenance
