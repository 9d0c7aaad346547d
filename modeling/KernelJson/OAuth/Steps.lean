import KernelJson.OAuth.Server

/-!
# What a step can do

Every step of the server is one of a few effects.  A step that grants nothing
only drops entries: what it leaves in a table was there before, and what it
forgets of refresh tokens and families has expired.
-/

namespace KernelJson.OAuth.Steps

open Foundation
open Foundation.JsText
open OAuth.Profiles
open OAuth.Server
open OAuth.Tables
open OAuth.Tokens

/-- The responses that hand something out, or take a consent away. -/
def Grants : Response → Prop
  | .registered _ _ _ _ => True
  | .toGoogle _ _ _ => True
  | .exchanging => True
  | .consentPage _ _ _ _ _ => True
  | .code _ _ _ => True
  | .denied _ _ => True
  | .tokens _ _ _ => True
  | .authorised _ _ _ => True
  | _ => False

/-- What one map holds of another, apart from what has expired. -/
structure Pruned (now : Clock) (before after : JsMap JsString Int) : Prop where
  held : ∀ key expiry, after.get? key = some expiry → before.get? key = some expiry
  kept : ∀ key expiry, before.get? key = some expiry →
    after.get? key = some expiry ∨ expiry ≤ (seconds now).val

/-- A server that has only dropped entries. -/
structure Fewer (now : Clock) (before after : Server) : Prop where
  exchanging : ∀ id login, after.live.get? id = some (.exchanging login) →
    before.live.get? id = some (.exchanging login)
  logins : ∀ key value, after.logins.get? key = some value → before.logins.get? key = some value
  consents : ∀ key value, after.consents.get? key = some value → before.consents.get? key = some value
  codes : ∀ key value, after.codes.get? key = some value → before.codes.get? key = some value
  usedRefresh : Pruned now before.usedRefresh after.usedRefresh
  revokedFamilies : Pruned now before.revokedFamilies after.revokedFamilies

theorem Pruned.refl (now : Clock) (map : JsMap JsString Int) : Pruned now map map :=
  ⟨fun _ _ here => here, fun _ _ here => .inl here⟩

theorem Pruned.keepWhere (now : Clock) (map : JsMap JsString Int) :
    Pruned now map (map.keepWhere fun expiry => decide ((seconds now).val < expiry)) := by
  refine ⟨fun key expiry here => (JsMap.get?_keepWhere_eq_some.mp here).1, fun key expiry here => ?_⟩
  by_cases live : (seconds now).val < expiry
  · exact .inl (JsMap.get?_keepWhere_eq_some.mpr ⟨here, decide_eq_true live⟩)
  · exact .inr (Int.not_lt.mp live)

theorem Fewer.refl (now : Clock) (server : Server) : Fewer now server server :=
  ⟨fun _ _ here => here, fun _ _ here => here, fun _ _ here => here, fun _ _ here => here, .refl _ _, .refl _ _⟩

theorem Fewer.finished {now : Clock} {before after : Server} {id : Nat} (fewer : Fewer now (before.finished id) after) :
    Fewer now before after := by
  refine { fewer with exchanging := fun other login here => ?_ }
  have later := fewer.exchanging other login here
  rw [Server.finished, JsMap.get?_delete] at later
  split at later
  · cases later
  · exact later

theorem Fewer.pruneRefresh (now : Clock) (server : Server) : Fewer now server (pruneRefresh now server) :=
  { Fewer.refl now server with
    usedRefresh := .keepWhere now server.usedRefresh
    revokedFamilies := .keepWhere now server.revokedFamilies }

theorem Fewer.afterLogins (now : Clock) (server : Server) (key : Option JsString) :
    Fewer now server { server with logins := afterTake server.logins key } :=
  { Fewer.refl now server with logins := fun _ _ here => get?_afterTake here }

theorem Fewer.afterConsents (now : Clock) (server : Server) (key : Option JsString) :
    Fewer now server { server with consents := afterTake server.consents key } :=
  { Fewer.refl now server with consents := fun _ _ here => get?_afterTake here }

theorem Fewer.afterCodes (now : Clock) (server : Server) (key : Option JsString) :
    Fewer now server { server with codes := afterTake server.codes key } :=
  { Fewer.refl now server with codes := fun _ _ here => get?_afterTake here }

/-- One step, by what it grants. -/
inductive Effect (config : Config) (moment : Moment) (before : Server) : Action → Response → Server → Prop where
  | quiet {action : Action} {response : Response} {after : Server} (plain : ¬ Grants response)
      (fewer : Fewer moment.now before after) : Effect config moment before action response after
  | registered (id : Nat) {contentType : Option JsString} {bytes : Nat} {body : Option Json}
      (request : RegistrationRequest) (profile : ClientProfile)
      (found : profileFor request.redirectUris.val = some profile)
      (allowed : ∀ uri ∈ request.redirectUris.val, uri ∈ config.allowedRedirectUris) :
      Effect config moment before (.serve id (.register contentType bytes body))
        (registration config request profile moment) (before.finished id)
  | signIn (id : Nat) {query : Params} {client : ClientClaims} {profile : ClientProfile}
      {clientId redirectUri : JsString}
      (asked : authorizing config query = some (client, profile, clientId, redirectUri))
      (clean : authorizeFault config query = none) :
      Effect config moment before (.serve id (.authorize query))
        (.toGoogle (moment.fresh 0) (moment.fresh 1) (moment.fresh 2))
        { before.finished id with
          logins := put PendingLogin.expiresAt moment.now.val before.logins (moment.fresh 0)
            (newLogin moment query client profile clientId redirectUri) }
  | returned (id : Nat) {query : Params} {state : JsString} {login : PendingLogin}
      (asked : query.get (js "state") = some state) (present : before.logins.get? state = some login)
      (live : moment.now.val < login.expiresAt) :
      Effect config moment before (.serve id (.callback query)) .exchanging
        { before with
          logins := afterTake before.logins (some state)
          live := (before.finished id).live.set id (.exchanging login) }
  | vouched (id : Nat) {sub : JsString} {login : PendingLogin} {profile : ClientProfile}
      (waiting : before.live.get? id = some (.exchanging login))
      (same : safeEqual sub config.allowedGoogleSub.val = true)
      (found : profileOf config login.client = some profile) :
      Effect config moment before (.answer id (some sub))
        (.consentPage (moment.fresh 0) login.client.name.val profile.label profile.grants login.redirectUri)
        { before.finished id with
          consents := put (fun item => item.expiresAt) moment.now.val before.consents (moment.fresh 0)
            (newConsent moment login sub) }
  /-- The consent is stored, but its page cannot be made. -/
  | stranded (id : Nat) {sub : JsString} {login : PendingLogin}
      (waiting : before.live.get? id = some (.exchanging login))
      (unknown : profileOf config login.client = none) :
      Effect config moment before (.answer id (some sub)) .serverError
        { before.finished id with
          consents := put (fun item => item.expiresAt) moment.now.val before.consents (moment.fresh 0)
            (newConsent moment login sub) }
  | denied (id : Nat) {origin : Option JsString} {form : Form} {pairs : Params} {ticket : JsString}
      {pending : PendingConsent} (read : readForm form = .ok pairs)
      (asked : pairs.get (js "ticket") = some ticket) (nonempty : ticket ≠ [])
      (present : before.consents.get? ticket = some pending) (live : moment.now.val < pending.expiresAt)
      (decided : pairs.get (js "decision") ≠ some (js "allow")) :
      Effect config moment before (.serve id (.consent origin form))
        (.denied pending.redirectUri pending.state)
        { before.finished id with consents := afterTake before.consents (some ticket) }
  | allowed (id : Nat) {origin : Option JsString} {form : Form} {pairs : Params} {ticket : JsString}
      {pending : PendingConsent} (read : readForm form = .ok pairs)
      (asked : pairs.get (js "ticket") = some ticket) (nonempty : ticket ≠ [])
      (present : before.consents.get? ticket = some pending) (live : moment.now.val < pending.expiresAt)
      (decided : pairs.get (js "decision") = some (js "allow")) :
      Effect config moment before (.serve id (.consent origin form))
        (.code pending.redirectUri (moment.fresh 0) pending.state)
        { before.finished id with
          consents := afterTake before.consents (some ticket)
          codes := put IssuedCode.expiresAt moment.now.val before.codes (moment.fresh 0) (newCode moment pending) }
  | redeemedCode (id : Nat) {authorization : Option JsString} {form : Form} {pairs : Params}
      {clientId code verifier : JsString} {client : ClientClaims} {issued : IssuedCode}
      (read : readForm form = .ok pairs)
      (authenticated : authenticateClient config authorization pairs = .ok (clientId, client))
      (grant : pairs.get (js "grant_type") = some (js "authorization_code"))
      (asked : pairs.get (js "code") = some code) (nonempty : code ≠ [])
      (present : before.codes.get? code = some issued) (live : moment.now.val < issued.expiresAt)
      (sameClient : issued.clientId = clientId)
      (sameUri : pairs.get (js "redirect_uri") = some issued.redirectUri)
      (verifies : pairs.get (js "code_verifier") = some verifier) (wellFormed : isVerifier verifier = true)
      (matched : safeEqual (pkceChallenge config.platform verifier) issued.codeChallenge = true) :
      Effect config moment before (.serve id (.token authorization form))
        (issueTokens config moment .authorizationCode issued.sub clientId (moment.fresh 0) issued.scope)
        { before.finished id with codes := afterTake before.codes (some code) }
  | reused (id : Nat) {authorization : Option JsString} {form : Form} {pairs : Params} {clientId : JsString}
      {client : ClientClaims} {claims : TokenClaims} (read : readForm form = .ok pairs)
      (authenticated : authenticateClient config authorization pairs = .ok (clientId, client))
      (grant : pairs.get (js "grant_type") = some (js "refresh_token"))
      (presented : presentedRefresh config moment.now clientId pairs = some claims)
      (unrevoked : (pruneRefresh moment.now before).revokedFamilies.get? claims.fam = none)
      (used : ((pruneRefresh moment.now before).usedRefresh.get? claims.jti).isSome) :
      Effect config moment before (.serve id (.token authorization form))
        (invalidGrant (js "Refresh token reuse detected"))
        { pruneRefresh moment.now (before.finished id) with
          revokedFamilies := (pruneRefresh moment.now before).revokedFamilies.set claims.fam
            ((seconds moment.now).val + refreshTtl) }
  | redeemedRefresh (id : Nat) {authorization : Option JsString} {form : Form} {pairs : Params}
      {clientId : JsString} {client : ClientClaims} {claims : TokenClaims} (read : readForm form = .ok pairs)
      (authenticated : authenticateClient config authorization pairs = .ok (clientId, client))
      (grant : pairs.get (js "grant_type") = some (js "refresh_token"))
      (presented : presentedRefresh config moment.now clientId pairs = some claims)
      (permitted : claims.sub = config.allowedGoogleSub.val)
      (sameScope : keepsScope config clientId claims.scope = true)
      (unrevoked : (pruneRefresh moment.now before).revokedFamilies.get? claims.fam = none)
      (unused : (pruneRefresh moment.now before).usedRefresh.get? claims.jti = none) :
      Effect config moment before (.serve id (.token authorization form))
        (issueTokens config moment .refreshToken claims.sub clientId claims.fam claims.scope)
        { pruneRefresh moment.now (before.finished id) with
          usedRefresh := (pruneRefresh moment.now before).usedRefresh.set claims.jti claims.exp.val }
  | authorised {authorization : Option JsString} {claims : TokenClaims} {client : ClientClaims}
      {profile : ClientProfile} (bearer : bearerClaims config moment.now authorization = some claims)
      (unrevoked : (pruneRefresh moment.now before).revokedFamilies.get? claims.fam = none)
      (known : knownClient config (some claims.cid) = some (client, profile))
      (sameScope : claims.scope = profile.scope) :
      Effect config moment before (.access authorization) (.authorised claims profile client.name.val)
        (pruneRefresh moment.now before)

section Effects

variable (config : Config) (moment : Moment) (id : Nat) (before : Server)

theorem serveRegister_effect (contentType : Option JsString) (bytes : Nat) (body : Option Json) :
    Effect config moment before (.serve id (.register contentType bytes body))
      (serveRegister config moment contentType bytes body) (before.finished id) := by
  have finished := (Fewer.refl moment.now (before.finished id)).finished
  unfold serveRegister
  repeat' split
  · exact .quiet not_false finished
  · exact .quiet not_false finished
  · exact .quiet not_false finished
  · next body =>
      unfold register
      repeat' split
      · exact .quiet not_false finished
      · exact .quiet not_false finished
      · exact .quiet not_false finished
      · exact .quiet not_false finished
      · exact .quiet not_false finished
      · exact .quiet not_false finished
      · exact .quiet not_false finished
      · next request _ _ profile found listed _ _ _ =>
          have allowed : ∀ uri ∈ request.redirectUris.val, uri ∈ config.allowedRedirectUris := fun uri member =>
            List.contains_iff_mem.mp (List.all_eq_true.mp (not_not.mp listed) uri member)
          exact .registered id request profile found allowed

theorem authorize_effect (query : Params) :
    Effect config moment before (.serve id (.authorize query))
      (authorize config moment query (before.finished id)).1
      (authorize config moment query (before.finished id)).2 := by
  have finished := (Fewer.refl moment.now (before.finished id)).finished
  unfold authorize
  split
  · exact .quiet not_false finished
  · split
    · exact .quiet not_false finished
    · next client profile clientId redirectUri asked =>
        split
        · exact .quiet not_false finished
        · next clean =>
            simp only
            split
            · exact .signIn id asked clean
            · next full =>
                refine .quiet not_false (Fewer.finished { Fewer.refl _ _ with logins := ?_ })
                intro key value here
                rcases get?_put _ here with ⟨-, -, room⟩ | old
                · exact absurd room full
                · exact old

theorem callback_effect (query : Params) :
    Effect config moment before (.serve id (.callback query))
      (callback moment id query (before.finished id)).1 (callback moment id query (before.finished id)).2 := by
  have dropped := (Fewer.afterLogins moment.now (before.finished id) (query.get (js "state"))).finished
  unfold callback
  simp only
  split
  · exact .quiet not_false dropped
  · next login found =>
      split
      · exact .quiet not_false dropped
      · obtain ⟨state, asked, -, present, live⟩ := taken_eq_some _ found
        rw [asked]
        exact .returned id asked present live

theorem exchanged_effect {login : PendingLogin} (waiting : before.live.get? id = some (.exchanging login))
    (identity : Option JsString) :
    Effect config moment before (.answer id identity)
      (exchanged config moment login identity (before.finished id)).1
      (exchanged config moment login identity (before.finished id)).2 := by
  have finished := (Fewer.refl moment.now (before.finished id)).finished
  unfold exchanged
  split
  · exact .quiet not_false finished
  · next sub =>
      split
      · next same =>
          simp only
          split
          · split
            · next unknown => exact .stranded id waiting unknown
            · next profile found => exact .vouched id waiting same found
          · next full =>
              refine .quiet not_false (Fewer.finished { Fewer.refl _ _ with consents := ?_ })
              intro key value here
              rcases get?_put _ here with ⟨-, -, room⟩ | old
              · exact absurd room full
              · exact old
      · exact .quiet not_false finished

theorem consent_effect (origin : Option JsString) (form : Form) :
    Effect config moment before (.serve id (.consent origin form))
      (consent config moment origin form (before.finished id)).1
      (consent config moment origin form (before.finished id)).2 := by
  have finished := (Fewer.refl moment.now (before.finished id)).finished
  unfold consent
  split
  · exact .quiet not_false finished
  · split
    · exact .quiet not_false finished
    · next pairs read =>
        simp only
        split
        · exact .quiet not_false (Fewer.afterConsents _ _ _).finished
        · next pending found =>
            obtain ⟨ticket, asked, nonempty, present, live⟩ := taken_eq_some _ found
            rw [asked]
            split
            · next decided => exact .allowed id read asked nonempty present live decided
            · next decided => exact .denied id read asked nonempty present live decided

theorem redeemCode_effect {authorization : Option JsString} {form : Form} {pairs : Params} {clientId : JsString}
    {client : ClientClaims} (read : readForm form = .ok pairs)
    (authenticated : authenticateClient config authorization pairs = .ok (clientId, client))
    (grant : pairs.get (js "grant_type") = some (js "authorization_code")) :
    Effect config moment before (.serve id (.token authorization form))
      (redeemCode config moment clientId pairs (before.finished id)).1
      (redeemCode config moment clientId pairs (before.finished id)).2 := by
  have dropped := (Fewer.afterCodes moment.now (before.finished id) (pairs.get (js "code"))).finished
  unfold redeemCode
  simp only
  split
  · exact .quiet not_false dropped
  · next issued found =>
      split
      · exact .quiet not_false dropped
      · next matching =>
          obtain ⟨sameClient, sameUri⟩ := not_or.mp matching
          split
          · next verified =>
              obtain ⟨code, asked, nonempty, present, live⟩ := taken_eq_some _ found
              obtain ⟨verifier, verifies, accepted⟩ := (Option.any_eq_true _ _).mp verified
              obtain ⟨wellFormed, matched⟩ := Bool.and_eq_true_iff.mp accepted
              rw [asked]
              exact .redeemedCode id read authenticated grant asked nonempty present live (not_not.mp sameClient)
                (not_not.mp sameUri).symm verifies wellFormed matched
          · exact .quiet not_false dropped

theorem redeemRefresh_effect {authorization : Option JsString} {form : Form} {pairs : Params} {clientId : JsString}
    {client : ClientClaims} (read : readForm form = .ok pairs)
    (authenticated : authenticateClient config authorization pairs = .ok (clientId, client))
    (grant : pairs.get (js "grant_type") = some (js "refresh_token")) :
    Effect config moment before (.serve id (.token authorization form))
      (redeemRefresh config moment clientId pairs (pruneRefresh moment.now (before.finished id))).1
      (redeemRefresh config moment clientId pairs (pruneRefresh moment.now (before.finished id))).2 := by
  have dropped := (Fewer.pruneRefresh moment.now (before.finished id)).finished
  unfold redeemRefresh
  split
  · exact .quiet not_false dropped
  · next claims presented =>
      split
      · exact .quiet not_false dropped
      · next permitted =>
          obtain ⟨sameSub, unrevoked⟩ := not_or.mp permitted
          split
          · exact .quiet not_false dropped
          · next keeps =>
              split
              · next used =>
                  exact .reused id read authenticated grant presented (Option.not_isSome_iff_eq_none.mp unrevoked) used
              · next unused =>
                  exact .redeemedRefresh id read authenticated grant presented (not_not.mp sameSub) (not_not.mp keeps)
                    (Option.not_isSome_iff_eq_none.mp unrevoked) (Option.not_isSome_iff_eq_none.mp unused)

theorem token_effect (authorization : Option JsString) (form : Form) :
    Effect config moment before (.serve id (.token authorization form))
      (token config moment authorization form (before.finished id)).1
      (token config moment authorization form (before.finished id)).2 := by
  have finished := (Fewer.refl moment.now (before.finished id)).finished
  unfold token
  split
  · exact .quiet not_false finished
  · next pairs read =>
      split
      · exact .quiet not_false finished
      · exact .quiet not_false finished
      · next clientId client authenticated =>
          unfold grantTokens
          repeat' split
          · exact .quiet not_false finished
          · next code => exact redeemCode_effect config moment id before read authenticated code
          · next refresh => exact redeemRefresh_effect config moment id before read authenticated refresh
          · exact .quiet not_false finished

theorem verifyAccess_effect (authorization : Option JsString) :
    Effect config moment before (.access authorization) (verifyAccess config moment authorization before).1
      (verifyAccess config moment authorization before).2 := by
  have dropped := Fewer.pruneRefresh moment.now before
  unfold verifyAccess
  split
  · exact .quiet not_false (Fewer.refl _ _)
  · next claims bearer =>
      simp only
      split
      · exact .quiet not_false dropped
      · next unrevoked =>
          split
          · exact .quiet not_false dropped
          · next client profile known =>
              split
              · next sameScope =>
                  exact .authorised bearer (Option.not_isSome_iff_eq_none.mp unrevoked) known sameScope
              · exact .quiet not_false dropped

theorem arrive_effect (address : JsString) (registering : Bool) :
    Effect config moment before (.arrive id address registering)
      (arrive config moment id address registering before).1
      (arrive config moment id address registering before).2 := by
  unfold arrive
  split
  · exact .quiet not_false { Fewer.refl moment.now before with }
  · refine .quiet not_false { Fewer.refl moment.now before with exchanging := ?_ }
    intro other login here
    simp only [JsMap.get?_set] at here
    split at here
    · cases here
    · exact here

/-- Every step is one of the effects. -/
theorem perform_effect (action : Action) :
    Effect config moment before action (perform config moment action before).1
      (perform config moment action before).2 := by
  cases action with
  | arrive id address registering => exact arrive_effect config moment id before address registering
  | serve id request =>
      unfold perform
      simp only
      split
      · split
        · cases request with
          | register contentType bytes body => exact serveRegister_effect config moment id before contentType bytes body
          | authorize query => exact authorize_effect config moment id before query
          | callback query => exact callback_effect config moment id before query
          | consent origin form => exact consent_effect config moment id before origin form
          | token authorization form => exact token_effect config moment id before authorization form
        · exact .quiet not_false (Fewer.refl _ _)
      · exact .quiet not_false (Fewer.refl _ _)
  | answer id identity =>
      unfold perform
      simp only
      split
      · next login waiting => exact exchanged_effect config moment id before waiting identity
      · exact .quiet not_false (Fewer.refl _ _)
  | access authorization => exact verifyAccess_effect config moment before authorization

end Effects

end KernelJson.OAuth.Steps
