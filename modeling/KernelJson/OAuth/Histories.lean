import KernelJson.OAuth.SingleUse

/-!
# Histories with restarts

A restart loses everything that a server holds and keeps its key and its
configuration, so the tokens of ended lifetimes are still accepted.  What was
signed still goes back to one allowed consent, and a ticket or a code is still
used once: restarts forget entries and add none.
-/

namespace KernelJson.OAuth.Histories

open Contracts.Platform
open Foundation.JsText
open OAuth.Profiles
open OAuth.Provenance
open OAuth.Server
open OAuth.SingleUse
open OAuth.Steps
open OAuth.Tables
open OAuth.Tokens

/-! ## Lifetimes -/

/-- What happened in ended lifetimes, and in the lifetime that lasts, both newest first. -/
inductive History (config : Config) : List Occurrence → List Occurrence → Server → Prop where
  | new : History config [] [] .started
  | step {former past : List Occurrence} {server : Server} (history : History config former past server)
      (moment : Moment) (action : Action) :
      History config former (⟨moment, action, (perform config moment action server).1⟩ :: past)
        (perform config moment action server).2
  | restarted {former past : List Occurrence} {server : Server} (history : History config former past server) :
      History config (past ++ former) [] .started

section Histories

variable {config : Config} {former past : List Occurrence} {server : Server}

/-- A server that has just started holds nothing that would have to be traced. -/
theorem traced_restarted (traced : Traced config past server) : Traced config past .started where
  logins := by
    intro state login here
    cases here
  exchanging := by
    intro id login here
    cases here
  consents := by
    intro ticket pending here
    cases here
  codes := by
    intro code issued here
    cases here
  minted := traced.minted

theorem spent_restarted (spent : Spent past server) : Spent past .started where
  tickets := fun ticket => le_trans (Nat.add_le_add_left (Nat.zero_le _) _) (spent.tickets ticket)
  codes := fun code => le_trans (Nat.add_le_add_left (Nat.zero_le _) _) (spent.codes code)

/-- Everything that was ever signed, and everything that the server holds, is traced. -/
theorem History.traced (history : History config former past server)
    (unforgeable : Unforgeable config (past ++ former)) : Traced config (past ++ former) server := by
  induction history with
  | new => exact Run.started.traced unforgeable
  | step history moment action ih =>
      exact (ih unforgeable.2).step unforgeable (perform_effect config moment _ action)
  | restarted history ih => exact traced_restarted (ih unforgeable)

/-- Over all lifetimes, uses never outnumber issues. -/
theorem History.spent (history : History config former past server)
    (unforgeable : Unforgeable config (past ++ former)) : Spent (past ++ former) server := by
  induction history with
  | new => exact ⟨fun _ => Nat.le_refl _, fun _ => Nat.le_refl _⟩
  | step history moment action ih =>
      have traced := history.traced unforgeable.2
      exact (ih unforgeable.2).step (.of_effect traced (perform_effect config moment _ action))
  | restarted history ih => exact spent_restarted (ih unforgeable)

/-- What happened at one point of a history happened to a server with a history of its own. -/
theorem History.before {occurrence : Occurrence} {earlier : List Occurrence}
    (history : History config former past server) (stands : Before (past ++ former) occurrence earlier) :
    ∃ ended lasting before after, History config ended lasting before ∧ earlier = lasting ++ ended ∧
      Effect config occurrence.moment before occurrence.action occurrence.response after := by
  induction history with
  | new =>
      obtain ⟨later, same⟩ := stands
      cases later <;> cases same
  | @step former past server history moment action ih =>
      obtain ⟨later, same⟩ := stands
      cases later with
      | nil =>
          obtain ⟨rfl, rfl⟩ := List.cons.inj same
          exact ⟨former, past, server, _, history, rfl, perform_effect config moment server action⟩
      | cons next later => exact ih ⟨later, (List.cons.inj same).2⟩
  | restarted history ih => exact ih stands

/-! ## Accepted bearer tokens -/

theorem unforgeable_before {occurrence : Occurrence} {earlier : List Occurrence}
    (unforgeable : Unforgeable config past) (stands : Before past occurrence earlier) :
    Unforgeable config (occurrence :: earlier) := by
  obtain ⟨later, rfl⟩ := stands
  induction later with
  | nil => exact unforgeable
  | cons next later ih => exact ih unforgeable.2

/-- The subject, the expiry and the token behind the claims of a bearer. -/
theorem bearerClaims_eq_some {now : Clock} {authorization : Option JsString} {claims : TokenClaims}
    (bearer : bearerClaims config now authorization = some claims) :
    ∃ header, authorization = some header ∧
      verify config.platform config.signer .access accessClaims (header.drop 7) = some claims ∧
      (seconds now).val < claims.exp.val ∧ claims.sub = config.allowedGoogleSub.val := by
  obtain ⟨header, present, accepted⟩ := Option.bind_eq_some_iff.mp bearer
  obtain ⟨sent, -⟩ := Option.filter_eq_some_iff.mp present
  obtain ⟨verified, checks⟩ := Option.filter_eq_some_iff.mp accepted
  simp only [Bool.and_eq_true, beq_iff_eq, decide_eq_true_eq] at checks
  exact ⟨header, sent, verified, checks.1.2, checks.2⟩

/-- What the claims of a grant say about when they were signed. -/
theorem mints_expiry {moment : Moment} {before after : Server} {action : Action} {response : Response}
    (effect : Effect config moment before action response after) {purpose : Purpose} {claims : TokenClaims}
    (mints : Mints purpose claims ⟨moment, action, response⟩) :
    (purpose = .access ∧ claims.exp = accessExpiry moment.now) ∨
      (purpose = .refresh ∧ claims.exp = refreshExpiry moment.now) := by
  obtain ⟨grant, access, refresh, answer, signed⟩ := mints
  simp only at answer
  cases effect with
  | quiet plain fewer =>
      rw [answer] at plain
      exact absurd trivial plain
  | redeemedCode id read authenticated grant asked nonempty present live sameClient sameUri verifies wellFormed
      matched =>
      injection answer with _ accessed refreshed
      subst accessed refreshed
      rcases signed with ⟨rfl, rfl⟩ | ⟨rfl, rfl⟩
      · exact .inl ⟨rfl, rfl⟩
      · exact .inr ⟨rfl, rfl⟩
  | redeemedRefresh id read authenticated grant shown permitted sameScope unrevoked unused =>
      injection answer with _ accessed refreshed
      subst accessed refreshed
      rcases signed with ⟨rfl, rfl⟩ | ⟨rfl, rfl⟩
      · exact .inl ⟨rfl, rfl⟩
      · exact .inr ⟨rfl, rfl⟩
  | _ => cases answer

/-- A token that was signed at any time expires a fixed time later. -/
theorem History.expiry (history : History config former past server) {occurrence : Occurrence}
    (member : occurrence ∈ past ++ former) {purpose : Purpose} {claims : TokenClaims}
    (mints : Mints purpose claims occurrence) :
    (purpose = .access ∧ claims.exp = accessExpiry occurrence.moment.now) ∨
      (purpose = .refresh ∧ claims.exp = refreshExpiry occurrence.moment.now) := by
  obtain ⟨later, earlier, same⟩ := List.append_of_mem member
  obtain ⟨_, _, before, after, -, -, effect⟩ := history.before ⟨later, same⟩
  exact mints_expiry effect mints

/-- The sign-in that a redeemed code began with. -/
theorem login_of_redeemed {ticket code family : JsString} {issued : IssuedCode}
    (redeemed : Redeemed config past ticket code issued family) :
    ∃ earlier state login, Opened config earlier state login ∧ issued.clientId = login.clientId ∧
      issued.redirectUri = login.redirectUri ∧ issued.codeChallenge = login.codeChallenge := by
  obtain ⟨_, _, _, _, _, _, _, _, _, _, _, _, _, _, _, _, _, allowed⟩ := redeemed
  obtain ⟨moment, _, _, _, _, pending, _, _, _, _, _, _, rfl, vouched⟩ := allowed
  obtain ⟨_, _, login, _, _, _, _, _, carried, returned⟩ := vouched
  obtain ⟨_, _, state, earlier, _, _, _, opened⟩ := returned
  refine ⟨earlier, state, login, opened, ?_, ?_, ?_⟩
  · exact congrArg (fun item => item.clientId) carried
  · exact congrArg (fun item => item.redirectUri) carried
  · exact congrArg (fun item => item.codeChallenge) carried

/-- The addresses at which a person consented belong to the profile of the client. -/
theorem address_of_redeemed {ticket code family : JsString} {issued : IssuedCode}
    (redeemed : Redeemed config past ticket code issued family) {client : ClientClaims} {profile : ClientProfile}
    (known : knownClient config (some issued.clientId) = some (client, profile)) :
    issued.redirectUri ∈ profile.redirectUris := by
  obtain ⟨_, _, login, opened, sameClient, sameUri, -⟩ := login_of_redeemed redeemed
  obtain ⟨_, _, _, _, _, _, asked, _⟩ := opened
  obtain ⟨-, named, -, listed⟩ := authorizing_eq_some asked
  rw [sameClient, named] at known
  cases known
  rw [sameUri]
  exact (profileFor_redirectUris (profileFor_of_profileOf (knownClient_eq_some named).2)).2 _ listed

/-- What stands behind a bearer token that is accepted. -/
structure Entitled (config : Config) (earlier : List Occurrence) (now : Clock) (claims : TokenClaims)
    (profile : ClientProfile) : Prop where
  /-- One consent was allowed for the client, at an address of its profile, and its code was redeemed. -/
  rooted : ∃ ticket code issued, Redeemed config earlier ticket code issued claims.fam ∧
    claims.sub = issued.sub ∧
    claims.cid = issued.clientId ∧ claims.scope = issued.scope ∧ issued.redirectUri ∈ profile.redirectUris
  permitted : claims.sub = config.allowedGoogleSub.val
  sameScope : claims.scope = profile.scope
  readOnly : profile.readOnly = true → claims.scope ≠ operatorScope
  signed : ∃ occurrence ∈ earlier, Mints .access claims occurrence ∧
    claims.exp = accessExpiry occurrence.moment.now
  unexpired : (seconds now).val < claims.exp.val

/-- Whatever came before, restarts included, an accepted bearer token is entitled to what it is accepted for. -/
theorem authorised_entitled (history : History config former past server)
    (unforgeable : Unforgeable config (past ++ former)) {occurrence : Occurrence} {earlier : List Occurrence}
    (stands : Before (past ++ former) occurrence earlier) {claims : TokenClaims} {profile : ClientProfile}
    {clientName : JsString} (accepted : occurrence.response = .authorised claims profile clientName) :
    Entitled config earlier occurrence.moment.now claims profile := by
  have signing := unforgeable_before unforgeable stands
  obtain ⟨ended, lasting, before, after, ancestry, rfl, effect⟩ := history.before stands
  have traced := ancestry.traced signing.2
  obtain ⟨moment, action, response⟩ := occurrence
  simp only at accepted effect signing
  subst accepted
  cases effect with
  | quiet plain fewer => exact absurd trivial plain
  | @authorised authorization _ client _ bearer unrevoked known sameScope =>
      obtain ⟨header, rfl, verified, unexpired, permitted⟩ := bearerClaims_eq_some bearer
      obtain ⟨other, member, mints⟩ :=
        minted_of_verify (.inl rfl) signing (List.mem_singleton_self _) verified
      obtain ⟨ticket, code, issued, redeemed, sameSub, sameClient, fromScope⟩ :=
        traced.minted other member .access claims mints
      have address := address_of_redeemed redeemed (sameClient ▸ known)
      have resolved := profileFor_of_profileOf (knownClient_eq_some known).2
      refine ⟨⟨ticket, code, issued, redeemed, sameSub, sameClient, fromScope, address⟩, permitted,
        sameScope, ?_, ?_,
        unexpired⟩
      · intro readOnly
        rw [sameScope, scope_of_readOnly resolved readOnly]
        exact readScope_ne_operatorScope
      · rcases ancestry.expiry member mints with ⟨-, expires⟩ | ⟨wrong, -⟩
        · exact ⟨other, member, mints, expires⟩
        · cases wrong

/-! ## Tickets and codes -/

/-- Over all lifetimes, a consent is taken at most once and a code is redeemed at most once. -/
theorem once_over_restarts (history : History config former past server)
    (unforgeable : Unforgeable config (past ++ former)) (fresh : Fresh (past ++ former)) :
    (∀ ticket, (past ++ former).countP (usesTicket ticket) ≤ 1) ∧
      ∀ code, (past ++ former).countP (redeemsCode code) ≤ 1 := by
  have spent := history.spent unforgeable
  constructor
  · intro ticket
    have used := spent.tickets ticket
    have issued := issuesTicket_le_one fresh ticket
    omega
  · intro code
    have used := spent.codes code
    have issued := issuesCode_le_one fresh code
    omega

end Histories

/-! ## Deciding the assumptions -/

section Decisions

variable (config : Config)

/-- The purposes of a MAC. -/
def purposes : List Purpose :=
  [.access, .refresh, .client, .clientSecret]

/-- The MACs of a presented text were revealed before. -/
def revealedBefore (earlier : List Occurrence) (token : JsString) : Bool :=
  purposes.all fun purpose =>
    (signedPayload config.platform config.signer purpose token).all fun payload =>
      (earlier.flatMap fun other => messages other.response).contains (message purpose payload)

def unforged : List Occurrence → Bool
  | [] => true
  | occurrence :: earlier =>
      (presented config occurrence.action).all (revealedBefore config earlier) && unforged earlier

variable {config}

theorem mem_purposes (purpose : Purpose) : purpose ∈ purposes := by
  cases purpose <;> decide

theorem revealedBefore_iff {earlier : List Occurrence} {token : JsString} :
    revealedBefore config earlier token = true ↔ ∀ purpose payload,
      signedPayload config.platform config.signer purpose token = some payload →
        message purpose payload ∈ earlier.flatMap fun other => messages other.response := by
  unfold revealedBefore
  rw [List.all_eq_true]
  constructor
  · intro all purpose payload signed
    have here := all purpose (mem_purposes purpose)
    rw [signed, Option.all_some] at here
    exact List.contains_iff_mem.mp here
  · intro all purpose member
    cases signed : signedPayload config.platform config.signer purpose token with
    | none => rfl
    | some payload => exact List.contains_iff_mem.mpr (all purpose payload signed)

theorem unforged_iff {past : List Occurrence} : unforged config past = true ↔ Unforgeable config past := by
  induction past with
  | nil => exact ⟨fun _ => trivial, fun _ => rfl⟩
  | cons occurrence earlier ih =>
      rw [unforged, Bool.and_eq_true, List.all_eq_true, ih, Unforgeable]
      exact and_congr_left fun _ => forall₂_congr fun token member => revealedBefore_iff

instance decidableUnforgeable (past : List Occurrence) : Decidable (Unforgeable config past) :=
  decidable_of_iff _ unforged_iff

instance decidableFresh (past : List Occurrence) : Decidable (Fresh past) :=
  inferInstanceAs (Decidable (List.Nodup _))

instance decidableClockForward (past : List Occurrence) : Decidable (ClockForward past) :=
  inferInstanceAs (Decidable (List.Pairwise _ _))

end Decisions

/-! ## A session -/

/-- The number that a decimal text spells. -/
def readInteger (text : JsString) : Option Int :=
  if text.head? = some 45 then some (-(readDigits text.tail : Int)) else some (readDigits text : Int)

theorem readInteger_signedDecimal (number : Int) : readInteger (signedDecimal number) = some number := by
  cases number with
  | ofNat magnitude =>
      have plain : (decimal magnitude).head? ≠ some 45 := by
        intro minus
        have range := isDigit_of_mem_decimal (List.mem_of_head? minus)
        simp [IsDigitUnit] at range
      rw [readInteger, signedDecimal, if_neg plain, readDigits_decimal]
      rfl
  | negSucc magnitude =>
      simp only [readInteger, signedDecimal, List.head?_cons, List.tail_cons, readDigits_decimal, if_true]
      rfl

/-- A MAC of two bytes. -/
def checksumMac (key text : JsString) : List UInt8 :=
  let sum := (key ++ text).foldl (fun sum unit => (sum * 31 + unit.toNat) % 65521) 7
  [UInt8.ofNat (sum / 256), UInt8.ofNat sum]

def checksumTokens : TokenPlatform where
  toPlatform := { Platform.ascii with numeral := readInteger }
  hmac := checksumMac
  decodeURIComponent := some
  readsIntegers := fun number _ _ => readInteger_signedDecimal number

def sessionConfig : Config where
  platform := checksumTokens
  signer := ⟨List.replicate 32 107, by decide +kernel⟩
  origin := js "o"
  allowedGoogleSub := ⟨js "1", by decide +kernel⟩
  allowedRedirectUris := chatgptRedirectUris
  registrationOpen := true
  registrationUntil := none
  registrationProfiles := none
  rateLimits := defaultRateLimits

def sessionClock : Clock :=
  ⟨0, by decide⟩

def sessionMoment (step : Nat) : Moment :=
  ⟨sessionClock, fun position => decimal (10 * step + position)⟩

def sessionStep (state : List Occurrence × Server) (action : Action) : List Occurrence × Server :=
  let moment := sessionMoment state.1.length
  (⟨moment, action, (perform sessionConfig moment action state.2).1⟩ :: state.1,
    (perform sessionConfig moment action state.2).2)

def sessionRun (actions : List Action) (state : List Occurrence × Server) : List Occurrence × Server :=
  actions.foldl sessionStep state

theorem sessionRun_history {former : List Occurrence} (actions : List Action) {state : List Occurrence × Server}
    (history : History sessionConfig former state.1 state.2) :
    History sessionConfig former (sessionRun actions state).1 (sessionRun actions state).2 := by
  induction actions generalizing state with
  | nil => exact history
  | cons action rest ih => exact ih (history.step _ _)

def sessionUri : JsString :=
  js "https://chatgpt.com/connector_platform_oauth_redirect"

def sessionClient : ClientClaims where
  iss := js "o"
  name := unnamedClient
  redirectUris := ⟨[sessionUri], by decide⟩
  auth := .none
  iat := seconds sessionClock
  jti := decimal 10

def sessionClientId : JsString :=
  sign checksumTokens sessionConfig.signer .client clientClaims sessionClient

/-- The claims that the session signs in one of its steps. -/
def sessionClaims (step position : Nat) (expiry : SafeInt) : TokenClaims :=
  newClaims sessionConfig (sessionMoment step) (js "1") sessionClientId (decimal 100) operatorScope
    (decimal (10 * step + position)) expiry

def sessionBearer : TokenClaims :=
  sessionClaims 10 1 (accessExpiry sessionClock)

def sessionRefresh : TokenClaims :=
  sessionClaims 10 2 (refreshExpiry sessionClock)

def sessionForm (pairs : Params) : Form :=
  ⟨some (js "application/x-www-form-urlencoded"), 10, pairs⟩

/-- From the registration of a client to its first tokens. -/
def signIn : List Action :=
  [.arrive 0 (js "a") true,
    .serve 0 (.register (some (js "application/json")) 10
      (some (.obj [(js "redirect_uris", .arr [.str sessionUri])]))),
    .arrive 1 (js "a") false,
    .serve 1 (.authorize [(js "client_id", sessionClientId), (js "redirect_uri", sessionUri),
      (js "response_type", js "code"), (js "code_challenge_method", js "S256"),
      (js "code_challenge", List.replicate 43 65)]),
    .arrive 2 (js "a") false,
    .serve 2 (.callback [(js "state", decimal 30), (js "code", js "x")]),
    .answer 2 (some (js "1")),
    .arrive 3 (js "a") false,
    .serve 3 (.consent none (sessionForm [(js "ticket", decimal 60), (js "decision", js "allow")])),
    .arrive 4 (js "a") false,
    .serve 4 (.token none (sessionForm [(js "grant_type", js "authorization_code"),
      (js "client_id", sessionClientId), (js "code", decimal 80), (js "redirect_uri", sessionUri),
      (js "code_verifier", List.replicate 43 65)]))]

def signedIn : List Occurrence × Server :=
  sessionRun signIn ([], .started)

/-- The request to `/mcp` with the first access token. -/
def bearing : Action :=
  .access (some (js "Bearer " ++ sign checksumTokens sessionConfig.signer .access accessClaims sessionBearer))

/-- The claims and the profile that a response accepts. -/
def accepted : Response → Option (TokenClaims × ClientProfile)
  | .authorised claims profile _ => some (claims, profile)
  | _ => none

theorem response_of_accepted {response : Response} {claims : TokenClaims} {profile : ClientProfile}
    (found : accepted response = some (claims, profile)) :
    ∃ clientName, response = .authorised claims profile clientName := by
  cases response with
  | authorised given resolved clientName =>
      cases found
      exact ⟨clientName, rfl⟩
  | _ => cases found

def bearingOccurrence : Occurrence :=
  ⟨sessionMoment 11, bearing, (perform sessionConfig (sessionMoment 11) bearing .started).1⟩

theorem restarted_history : History sessionConfig ([] ++ signedIn.1) [] .started := by
  have history := (@sessionRun_history [] signIn ([], .started) .new).restarted
  rwa [List.append_nil] at history

theorem session_unforgeable : Unforgeable sessionConfig ([bearingOccurrence] ++ signedIn.1) := by
  decide +kernel

/-- The first access token is accepted after a restart. -/
theorem signedIn_entitled :
    Entitled sessionConfig signedIn.1 sessionClock sessionBearer (clientProfiles .chatgpt) := by
  have found : accepted bearingOccurrence.response = some (sessionBearer, clientProfiles .chatgpt) := by
    decide +kernel
  obtain ⟨clientName, response⟩ := response_of_accepted found
  exact authorised_entitled (restarted_history.step (sessionMoment 11) bearing) session_unforgeable (.here _ _)
    response

/-- The ticket and the code of the session are spent. -/
theorem signedIn_once :
    ([bearingOccurrence] ++ signedIn.1).countP (usesTicket (decimal 60)) ≤ 1 ∧
      ([bearingOccurrence] ++ signedIn.1).countP (redeemsCode (decimal 80)) ≤ 1 := by
  have fresh : Fresh ([bearingOccurrence] ++ signedIn.1) := by decide +kernel
  have once := once_over_restarts (restarted_history.step (sessionMoment 11) bearing) session_unforgeable fresh
  exact ⟨once.1 _, once.2 _⟩

end KernelJson.OAuth.Histories
