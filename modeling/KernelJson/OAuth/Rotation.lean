import KernelJson.OAuth.Histories

/-!
# Rotation of refresh tokens

A refresh token is redeemed at most once in the lifetime of a server: the
memory of a redeemed token outlives the token.  A redeemed token that is
presented again ends its whole family, for as long as any token of the family
could live.  Tokens of ended lifetimes are covered as well; only their
redemptions are forgotten.
-/

namespace KernelJson.OAuth.Rotation

open Foundation
open Foundation.JsText
open OAuth.Histories
open OAuth.Profiles
open OAuth.Provenance
open OAuth.Server
open OAuth.SingleUse
open OAuth.Steps
open OAuth.Tables
open OAuth.Tokens

/-! ## What is remembered -/

/-- The table remembers a key at least until a second. -/
def Holds (table : JsMap JsString Int) (key : JsString) (second : Int) : Prop :=
  ∃ expiry, table.get? key = some expiry ∧ second ≤ expiry

section Tables

variable {now : Clock} {before after : JsMap JsString Int} {key other : JsString} {second : Int}

theorem Holds.pruned (held : Holds before key second) (pruned : Pruned now before after) :
    Holds after key second ∨ second ≤ (seconds now).val := by
  obtain ⟨expiry, here, long⟩ := held
  rcases pruned.kept key expiry here with kept | past
  · exact .inl ⟨expiry, kept, long⟩
  · exact .inr (le_trans long past)

/-- A new entry under another key, or under a key that was forgotten. -/
theorem Holds.set (held : Holds before key second) (pruned : Pruned now before after)
    (forgotten : after.get? other = none) (expiry : Int) :
    Holds (after.set other expiry) key second ∨ second ≤ (seconds now).val := by
  rcases held.pruned pruned with kept | past
  · obtain ⟨expires, here, long⟩ := kept
    refine .inl ⟨expires, ?_, long⟩
    rw [JsMap.get?_set, if_neg, here]
    rintro rfl
    rw [forgotten] at here
    cases here
  · exact .inr past

end Tables

section Steps

variable {config : Config} {moment : Moment} {action : Action} {response : Response} {before after : Server}

/-- A step forgets a redeemed token only after it has expired. -/
theorem usedRefresh_step (effect : Effect config moment before action response after) {jti : JsString}
    {second : Int}
    (held : Holds before.usedRefresh jti second) :
    Holds after.usedRefresh jti second ∨ second ≤ (seconds moment.now).val := by
  have pruned := Pruned.keepWhere moment.now before.usedRefresh
  cases effect with
  | quiet plain fewer => exact held.pruned fewer.usedRefresh
  | reused id read authenticated grant shown unrevoked used => exact held.pruned pruned
  | redeemedRefresh id read authenticated grant shown permitted sameScope unrevoked unused =>
      exact held.set pruned unused _
  | authorised bearer unrevoked known sameScope => exact held.pruned pruned
  | _ => exact .inl held

/-- A step forgets a revoked family only after its time. -/
theorem revokedFamilies_step (effect : Effect config moment before action response after) {family : JsString}
    {second : Int} (held : Holds before.revokedFamilies family second) :
    Holds after.revokedFamilies family second ∨ second ≤ (seconds moment.now).val := by
  have pruned := Pruned.keepWhere moment.now before.revokedFamilies
  cases effect with
  | quiet plain fewer => exact held.pruned fewer.revokedFamilies
  | reused id read authenticated grant shown unrevoked used => exact held.set pruned unrevoked _
  | redeemedRefresh id read authenticated grant shown permitted sameScope unrevoked unused =>
      exact held.pruned pruned
  | authorised bearer unrevoked known sameScope => exact held.pruned pruned
  | _ => exact .inl held

end Steps

/-! ## Redemptions -/

section Redemptions

variable {config : Config}

/-- The occurrence redeems the refresh token with these claims. -/
inductive Redeems (config : Config) (claims : TokenClaims) (occurrence : Occurrence) : Prop where
  | redeems (id : Nat) (authorization : Option JsString) (form : Form) (pairs : Params) (clientId : JsString)
      (access refresh : TokenClaims) (serves : occurrence.action = .serve id (.token authorization form))
      (read : readForm form = .ok pairs) (granted : occurrence.response = .tokens .refreshToken access refresh)
      (shown : presentedRefresh config occurrence.moment.now clientId pairs = some claims)

/-- One form presents the claims of one refresh token. -/
theorem presented_unique {now : Clock} {clientId other : JsString} {pairs : Params}
    {claims claims' : TokenClaims}
    (shown : presentedRefresh config now clientId pairs = some claims)
    (again : presentedRefresh config now other pairs = some claims') : claims = claims' := by
  obtain ⟨token, present, accepted⟩ := Option.bind_eq_some_iff.mp shown
  obtain ⟨token', present', accepted'⟩ := Option.bind_eq_some_iff.mp again
  have same : token = token' := Option.some.inj (present.symm.trans present')
  subst same
  have verified := (Option.filter_eq_some_iff.mp accepted).1
  have verified' := (Option.filter_eq_some_iff.mp accepted').1
  exact Option.some.inj (verified.symm.trans verified')

/-- What a redemption says about the server around it. -/
structure Redemption (config : Config) (moment : Moment) (claims : TokenClaims)
    (before after : Server) : Prop where
  permitted : claims.sub = config.allowedGoogleSub.val
  keeps : keepsScope config claims.cid claims.scope = true
  unexpired : (seconds moment.now).val < claims.exp.val
  unrevoked : (pruneRefresh moment.now before).revokedFamilies.get? claims.fam = none
  unused : (pruneRefresh moment.now before).usedRefresh.get? claims.jti = none
  remembered : Holds after.usedRefresh claims.jti claims.exp.val
  families : after.revokedFamilies = (pruneRefresh moment.now before).revokedFamilies

theorem redemption_of_redeems {moment : Moment} {action : Action} {response : Response} {before after : Server}
    {claims : TokenClaims} (effect : Effect config moment before action response after)
    (redeems : Redeems config claims ⟨moment, action,
      response⟩) : Redemption config moment claims before after := by
  obtain ⟨_, _, _, pairs, clientId, _, _, serves, read, granted, shown⟩ := redeems
  simp only at serves granted shown
  cases effect with
  | quiet plain fewer =>
      rw [granted] at plain
      exact absurd trivial plain
  | redeemedRefresh id read' authenticated grant shown' permitted sameScope unrevoked unused =>
      cases serves
      rw [read] at read'
      cases read'
      have same := presented_unique shown shown'
      subst same
      obtain ⟨unexpired, presenter⟩ := cid_of_presented shown'
      refine ⟨permitted, presenter ▸ sameScope, unexpired, unrevoked, unused, ?_, rfl⟩
      exact ⟨claims.exp.val, JsMap.get?_set_self _ _ _, Int.le_refl _⟩
  | _ => cases granted

/-- The refresh token that is redeemed was signed before. -/
theorem signed_of_redeems {occurrence : Occurrence} {history : List Occurrence} {claims : TokenClaims}
    (unforgeable : Unforgeable config (occurrence :: history)) (redeems : Redeems config claims occurrence) :
    ∃ other ∈ history, Mints .refresh claims other := by
  obtain ⟨moment, action, response⟩ := occurrence
  obtain ⟨_, _, _, _, _, _, _, serves, read, -, shown⟩ := redeems
  simp only at serves
  subst serves
  exact minted_of_presented unforgeable read shown

/-- A bearer token that is accepted was signed before, and has not expired. -/
theorem signed_of_authorised {moment : Moment} {action : Action} {before after : Server}
    {history : List Occurrence}
    {claims : TokenClaims} {profile : ClientProfile} {clientName : JsString}
    (effect : Effect config moment before action (.authorised claims profile clientName) after)
    (unforgeable : Unforgeable config (⟨moment, action, .authorised claims profile clientName⟩ :: history)) :
    (∃ other ∈ history, Mints .access claims other) ∧ (seconds moment.now).val < claims.exp.val ∧
      (pruneRefresh moment.now before).revokedFamilies.get? claims.fam = none := by
  cases effect with
  | quiet plain fewer => exact absurd trivial plain
  | authorised bearer unrevoked known sameScope =>
      obtain ⟨header, rfl, verified, unexpired, -⟩ := bearerClaims_eq_some bearer
      exact ⟨minted_of_verify (.inl rfl) unforgeable (List.mem_singleton_self _) verified, unexpired, unrevoked⟩

end Redemptions

/-! ## Random identifiers -/

section Identifiers

variable {config : Config} {history : List Occurrence}

/-- A random token is drawn by one occurrence. -/
theorem occurrence_of_drawn (fresh : Fresh history) {first second : Occurrence} {token : JsString}
    (left : first ∈ history) (right : second ∈ history) (drew : token ∈ drawn first.response)
    (again : token ∈ drawn second.response) : first = second := by
  induction history with
  | nil => cases left
  | cons next past ih =>
      rcases List.mem_cons.mp left with rfl | older <;> rcases List.mem_cons.mp right with rfl | older'
      · rfl
      · exact absurd again (fresh.new drew older')
      · exact absurd drew (fresh.new again older)
      · exact ih fresh.earlier older older'

theorem jti_drawn {claims : TokenClaims} {occurrence : Occurrence} (mints : Mints .refresh claims occurrence) :
    claims.jti ∈ drawn occurrence.response := by
  obtain ⟨grant, access, refresh, answer, ⟨wrong, -⟩ | ⟨-, rfl⟩⟩ := mints
  · cases wrong
  · rw [answer]
    cases grant with
    | authorizationCode => exact List.mem_cons_of_mem _ (List.mem_cons_of_mem _ (List.mem_singleton_self _))
    | refreshToken => exact List.mem_cons_of_mem _ (List.mem_singleton_self _)

/-- An identifier stands for one refresh token. -/
theorem claims_of_jti (fresh : Fresh history) {first second : Occurrence} {claims claims' : TokenClaims}
    (left : first ∈ history) (right : second ∈ history) (mints : Mints .refresh claims first)
    (again : Mints .refresh claims' second) (same : claims.jti = claims'.jti) : claims = claims' := by
  have here := occurrence_of_drawn fresh left right (jti_drawn mints) (same ▸ jti_drawn again)
  subst here
  obtain ⟨_, _, refresh, answer, ⟨wrong, -⟩ | ⟨-, rfl⟩⟩ := mints
  · cases wrong
  · obtain ⟨_, _, refresh', answer', ⟨wrong, -⟩ | ⟨-, rfl⟩⟩ := again
    · cases wrong
    · rw [answer] at answer'
      cases answer'
      rfl

/-- The family of a signed token was drawn when its code was redeemed. -/
theorem family_drawn {server : Server} (traced : Traced config history server) {occurrence : Occurrence}
    {purpose : Purpose} {claims : TokenClaims} (member : occurrence ∈ history)
    (mints : Mints purpose claims occurrence) : ∃ other ∈ history, claims.fam ∈ drawn other.response := by
  obtain ⟨_, _, _, redeemed, -⟩ := traced.minted occurrence member purpose claims mints
  obtain ⟨_, _, _, _, _, _, _, _, stands, _⟩ := redeemed
  exact ⟨_, stands.mem, List.mem_cons_self⟩

/-- A second that some occurrence has reached. -/
def Passed (history : List Occurrence) (second : Int) : Prop :=
  ∃ occurrence ∈ history, second ≤ (seconds occurrence.moment.now).val

theorem Passed.later {second : Int} (passed : Passed history second) (next : Occurrence) :
    Passed (next :: history) second := by
  obtain ⟨occurrence, member, reached⟩ := passed
  exact ⟨occurrence, List.mem_cons_of_mem _ member, reached⟩

theorem Passed.now {next : Occurrence} {second : Int} (reached : second ≤ (seconds next.moment.now).val) :
    Passed (next :: history) second :=
  ⟨next, List.mem_cons_self, reached⟩

theorem seconds_le {first second : Clock} (le : first.val ≤ second.val) :
    (seconds first).val ≤ (seconds second).val :=
  Int.ediv_le_ediv (by decide) le

/-- What has passed has passed for the next occurrence. -/
theorem Passed.reached {next : Occurrence} {second : Int} (passed : Passed history second)
    (forward : ClockForward (next :: history)) : second ≤ (seconds next.moment.now).val := by
  obtain ⟨occurrence, member, reached⟩ := passed
  exact le_trans reached (seconds_le ((List.pairwise_cons.mp forward).1 occurrence member))

end Identifiers

/-! ## The invariant -/

section Invariant

variable {config : Config}

/-- A redeemed refresh token, for as long as it could be presented. -/
structure Remembered (config : Config) (history : List Occurrence) (server : Server)
    (claims : TokenClaims) : Prop where
  signed : ∃ other ∈ history, Mints .refresh claims other
  permitted : claims.sub = config.allowedGoogleSub.val
  keeps : keepsScope config claims.cid claims.scope = true
  held : Holds server.usedRefresh claims.jti claims.exp.val ∨ Passed history claims.exp.val

/-- A revoked family: its revocation outlives every token of it. -/
structure Revoked (history : List Occurrence) (family : JsString) (expiry : Int) : Prop where
  drawn : ∃ other ∈ history, family ∈ drawn other.response
  outlives : ∀ other ∈ history, ∀ purpose claims, Mints purpose claims other → claims.fam = family →
    claims.exp.val ≤ expiry

/-- What a server knows of its lifetime and of all that was signed. -/
structure Rotated (config : Config) (former past : List Occurrence) (server : Server) : Prop where
  redeemed : ∀ other ∈ past, ∀ claims, Redeems config claims other →
    Remembered config (past ++ former) server claims
  revoked : ∀ family expiry, server.revokedFamilies.get? family = some expiry →
    Revoked (past ++ former) family expiry

variable {former past history : List Occurrence} {moment : Moment} {action : Action} {response : Response}
  {before after : Server} {claims : TokenClaims} {family : JsString}

theorem Remembered.step (remembered : Remembered config history before claims)
    (effect : Effect config moment before action response after) :
    Remembered config (⟨moment, action, response⟩ :: history) after claims where
  signed := by
    obtain ⟨other, member, mints⟩ := remembered.signed
    exact ⟨other, List.mem_cons_of_mem _ member, mints⟩
  permitted := remembered.permitted
  keeps := remembered.keeps
  held := by
    rcases remembered.held with held | passed
    · rcases usedRefresh_step effect held with kept | reached
      · exact .inl kept
      · exact .inr (.now reached)
    · exact .inr (passed.later _)

/-- A redemption is remembered at once. -/
theorem Remembered.new (effect : Effect config moment before action response after)
    (unforgeable : Unforgeable config (⟨moment, action, response⟩ :: history))
    (redeems : Redeems config claims ⟨moment, action, response⟩) :
    Remembered config (⟨moment, action, response⟩ :: history) after claims := by
  have redemption := redemption_of_redeems effect redeems
  obtain ⟨other, member, mints⟩ := signed_of_redeems unforgeable redeems
  exact ⟨⟨other, List.mem_cons_of_mem _ member, mints⟩, redemption.permitted, redemption.keeps,
    .inl redemption.remembered⟩

/-- A grant of a family either starts the family or redeems a refresh token of it. -/
theorem mints_family (effect : Effect config moment before action response after) {purpose : Purpose}
    (mints : Mints purpose claims ⟨moment, action, response⟩) :
    claims.fam ∈ drawn response ∨
      ∃ redeemed, Redeems config redeemed ⟨moment, action, response⟩ ∧ redeemed.fam = claims.fam := by
  have minted := mints
  obtain ⟨_, _, _, answer, -⟩ := minted
  simp only at answer
  cases effect with
  | quiet plain fewer =>
      rw [answer] at plain
      exact absurd trivial plain
  | redeemedCode id read authenticated grant asked nonempty present live sameClient sameUri verifies wellFormed
      matched =>
      refine .inl ?_
      rw [(mints_issueTokens mints).1]
      exact List.mem_cons_self
  | redeemedRefresh id read authenticated grant shown permitted sameScope unrevoked unused =>
      exact .inr ⟨_, ⟨id, _, _, _, _, _, _, rfl, read, rfl, shown⟩, (mints_issueTokens mints).1.symm⟩
  | _ => cases answer

/-- How long a token lives from the moment that it is signed. -/
theorem expiry_le (effect : Effect config moment before action response after) {purpose : Purpose}
    (mints : Mints purpose claims ⟨moment, action, response⟩) :
    claims.exp.val ≤ (seconds moment.now).val + refreshTtl := by
  rcases mints_expiry effect mints with ⟨-, same⟩ | ⟨-, same⟩
  · rw [same]
    exact Int.add_le_add_left (by decide) _
  · rw [same]
    exact Int.le_refl _

/-- A revocation is older than the step, which then redeems nothing of the family, or the step has detected a
reuse. -/
theorem revoked_entry (effect : Effect config moment before action response after)
    (unforgeable : Unforgeable config (⟨moment, action, response⟩ :: history)) {expiry : Int}
    (here : after.revokedFamilies.get? family = some expiry) :
    (before.revokedFamilies.get? family = some expiry ∧
        ∀ redeemed, Redeems config redeemed ⟨moment, action, response⟩ → redeemed.fam ≠ family) ∨
      (expiry = (seconds moment.now).val + refreshTtl ∧ ¬ Grants response ∧
        ∃ other ∈ history, ∃ claims, Mints .refresh claims other ∧ claims.fam = family) := by
  have pruned := (Pruned.keepWhere moment.now before.revokedFamilies).held family expiry
  have unredeemed : ∀ redeemed, Redeems config redeemed ⟨moment, action, response⟩ → redeemed.fam ≠ family := by
    rintro redeemed redeems rfl
    have redemption := redemption_of_redeems effect redeems
    rw [redemption.families, redemption.unrevoked] at here
    cases here
  cases effect with
  | quiet plain fewer => exact .inl ⟨fewer.revokedFamilies.held family expiry here, unredeemed⟩
  | @reused id authorization form pairs clientId client claims read authenticated grant shown unrevoked used =>
      simp only [JsMap.get?_set] at here
      split at here
      · next same =>
          obtain ⟨other, member, mints⟩ := minted_of_presented unforgeable read shown
          exact .inr ⟨(Option.some.inj here).symm, not_false, other, member, claims, mints, same⟩
      · exact .inl ⟨pruned here, unredeemed⟩
  | redeemedRefresh id read authenticated grant shown permitted sameScope unrevoked unused =>
      exact .inl ⟨pruned here, unredeemed⟩
  | authorised bearer unrevoked known sameScope => exact .inl ⟨pruned here, unredeemed⟩
  | _ => exact .inl ⟨here, unredeemed⟩

theorem mem_grants {response : Response} {grant : Grant} {access refresh : TokenClaims}
    (answer : response = .tokens grant access refresh) : Grants response :=
  answer ▸ trivial

/-- A revocation goes on to outlive every token of its family. -/
theorem Revoked.step {expiry : Int} (revoked : Revoked history family expiry)
    (effect : Effect config moment before action response after)
    (fresh : Fresh (⟨moment, action, response⟩ :: history))
    (unredeemed : ∀ redeemed, Redeems config redeemed ⟨moment, action, response⟩ → redeemed.fam ≠ family) :
    Revoked (⟨moment, action, response⟩ :: history) family expiry := by
  obtain ⟨drawer, member, drew⟩ := revoked.drawn
  refine ⟨⟨drawer, List.mem_cons_of_mem _ member, drew⟩, ?_⟩
  intro other listed purpose claims mints same
  rcases List.mem_cons.mp listed with rfl | older
  · subst same
    rcases mints_family effect mints with started | ⟨redeemed, redeems, sameFamily⟩
    · exact absurd drew (fresh.new started member)
    · exact absurd sameFamily (unredeemed redeemed redeems)
  · exact revoked.outlives other older purpose claims mints same

/-- A new revocation outlives every token that was ever signed. -/
theorem Revoked.new (lived : History config former past before)
    (traced : Traced config (past ++ former) before) (plain : ¬ Grants response)
    (forward : ClockForward (⟨moment, action, response⟩ :: (past ++ former))) {other : Occurrence}
    (member : other ∈ past ++ former) (mints : Mints .refresh claims other) :
    Revoked (⟨moment, action, response⟩ :: (past ++ former)) claims.fam
      ((seconds moment.now).val + refreshTtl) := by
  obtain ⟨drawer, listed, drew⟩ := family_drawn traced member mints
  refine ⟨⟨drawer, List.mem_cons_of_mem _ listed, drew⟩, ?_⟩
  intro signer listed purpose minted signs same
  rcases List.mem_cons.mp listed with rfl | older
  · obtain ⟨_, _, _, answer, -⟩ := signs
    exact absurd (mem_grants answer) plain
  · have lived : minted.exp.val ≤ (seconds signer.moment.now).val + refreshTtl := by
      rcases lived.expiry older signs with ⟨-, expires⟩ | ⟨-, expires⟩
      · rw [expires]
        exact Int.add_le_add_left (by decide) _
      · rw [expires]
        exact Int.le_refl _
    exact le_trans lived (Int.add_le_add_right (seconds_le ((List.pairwise_cons.mp forward).1 signer older)) _)

theorem Rotated.step (rotated : Rotated config former past before) (lived : History config former past before)
    (effect : Effect config moment before action response after)
    (unforgeable : Unforgeable config (⟨moment, action, response⟩ :: (past ++ former)))
    (fresh : Fresh (⟨moment, action, response⟩ :: (past ++ former)))
    (forward : ClockForward (⟨moment, action, response⟩ :: (past ++ former))) :
    Rotated config former (⟨moment, action, response⟩ :: past) after where
  redeemed := by
    intro other listed claims redeems
    rcases List.mem_cons.mp listed with rfl | older
    · exact .new effect unforgeable redeems
    · exact (rotated.redeemed other older claims redeems).step effect
  revoked := by
    intro family expiry here
    rcases revoked_entry effect unforgeable here with ⟨old, unredeemed⟩ | ⟨rfl, plain, other, member,
      claims, mints, rfl⟩
    · exact (rotated.revoked family expiry old).step effect fresh unredeemed
    · exact .new lived (lived.traced unforgeable.2) plain forward member mints

theorem Rotated.started : Rotated config history [] .started where
  redeemed := by
    intro other listed
    cases listed
  revoked := by
    intro family expiry here
    cases here

theorem forward_earlier {next : Occurrence} (forward : ClockForward (next :: history)) : ClockForward history :=
  (List.pairwise_cons.mp forward).2

/-- The invariant holds in every lifetime. -/
theorem rotated_of_history {server : Server} (history : History config former past server)
    (unforgeable : Unforgeable config (past ++ former)) (fresh : Fresh (past ++ former))
    (forward : ClockForward (past ++ former)) : Rotated config former past server := by
  induction history with
  | new => exact .started
  | step history moment action ih =>
      have rotated := ih unforgeable.2 fresh.earlier (forward_earlier forward)
      exact rotated.step history (perform_effect config moment _ action) unforgeable fresh forward
  | restarted history ih => exact .started

end Invariant

/-! ## Redeemed once -/

section Once

variable {config : Config} {former past history : List Occurrence} {server : Server}

/-- A step redeems no refresh token that is remembered. -/
theorem Remembered.refuses {moment : Moment} {action : Action} {response : Response} {before after : Server}
    {claims claims' : TokenClaims} (remembered : Remembered config history before claims)
    (effect : Effect config moment before action response after)
    (unforgeable : Unforgeable config (⟨moment, action, response⟩ :: history))
    (fresh : Fresh (⟨moment, action, response⟩ :: history))
    (forward : ClockForward (⟨moment, action, response⟩ :: history))
    (redeems : Redeems config claims' ⟨moment, action, response⟩) : claims'.jti ≠ claims.jti := by
  intro same
  have redemption := redemption_of_redeems effect redeems
  obtain ⟨first, left, mints⟩ := signed_of_redeems unforgeable redeems
  obtain ⟨second, right, mints'⟩ := remembered.signed
  have one := claims_of_jti fresh.earlier left right mints mints' same
  subst one
  have live := redemption.unexpired
  rcases remembered.held with held | passed
  · rcases held.pruned (.keepWhere moment.now _) with ⟨expiry, here, -⟩ | reached
    · have unused := redemption.unused
      rw [pruneRefresh] at unused
      rw [here] at unused
      cases unused
    · omega
  · have reached := passed.reached forward
    simp only at reached
    omega

/-- In one lifetime a refresh token is redeemed at most once, whatever former lifetimes signed. -/
theorem redeemed_once_per_lifetime (history : History config former past server)
    (unforgeable : Unforgeable config (past ++ former)) (fresh : Fresh (past ++ former))
    (forward : ClockForward (past ++ former)) :
    past.Pairwise fun later earlier => ∀ claims claims', Redeems config claims later →
      Redeems config claims' earlier → claims.jti ≠ claims'.jti := by
  induction history with
  | new => exact .nil
  | @step former past server history moment action ih =>
      have rotated := rotated_of_history history unforgeable.2 fresh.earlier (forward_earlier forward)
      refine List.pairwise_cons.mpr ⟨?_, ih unforgeable.2 fresh.earlier (forward_earlier forward)⟩
      intro earlier member claims claims' redeems redeemed
      exact (rotated.redeemed earlier member claims' redeemed).refuses (perform_effect config moment _ action)
        unforgeable fresh forward redeems
  | restarted history ih => exact .nil

end Once

/-! ## Reuse -/

section Reuse

variable {config : Config} {former past history : List Occurrence} {family : JsString}

/-- The occurrence accepts a token of a family. -/
inductive Accepts (config : Config) (family : JsString) (occurrence : Occurrence) : Prop where
  | bearer (claims : TokenClaims) (profile : ClientProfile) (clientName : JsString)
      (answer : occurrence.response = .authorised claims profile clientName) (same : claims.fam = family)
  | refresh (claims : TokenClaims) (redeems : Redeems config claims occurrence) (same : claims.fam = family)

/-- No token of a family that was signed can be accepted any more. -/
structure Ended (history : List Occurrence) (server : Server) (family : JsString) : Prop where
  drawn : ∃ other ∈ history, family ∈ drawn other.response
  ended : ∀ other ∈ history, ∀ purpose claims, Mints purpose claims other → claims.fam = family →
    Holds server.revokedFamilies family claims.exp.val ∨ Passed history claims.exp.val

variable {moment : Moment} {action : Action} {response : Response} {before after : Server}

/-- A token of an ended family has expired, or its family is remembered as revoked. -/
theorem Ended.unaccepted (ended : Ended history before family) {other : Occurrence} (member : other ∈ history)
    {purpose : Purpose} {claims : TokenClaims} (mints : Mints purpose claims other) (same : claims.fam = family)
    {next : Occurrence} (forward : ClockForward (next :: history))
    (live : (seconds next.moment.now).val < claims.exp.val) :
    (pruneRefresh next.moment.now before).revokedFamilies.get? claims.fam ≠ none := by
  intro unrevoked
  rcases ended.ended other member purpose claims mints same with held | passed
  · rcases held.pruned (.keepWhere next.moment.now _) with ⟨expiry, here, -⟩ | reached
    · rw [pruneRefresh] at unrevoked
      rw [same, here] at unrevoked
      cases unrevoked
    · omega
  · have reached := passed.reached forward
    omega

theorem Ended.refuses (ended : Ended history before family)
    (effect : Effect config moment before action response after)
    (unforgeable : Unforgeable config (⟨moment, action, response⟩ :: history))
    (forward : ClockForward (⟨moment, action, response⟩ :: history)) :
    ¬ Accepts config family ⟨moment, action, response⟩ := by
  rintro (⟨claims, profile, clientName, answer, same⟩ | ⟨claims, redeems, same⟩)
  · simp only at answer
    subst answer
    obtain ⟨⟨other, member, mints⟩, live, unrevoked⟩ := signed_of_authorised effect unforgeable
    exact ended.unaccepted member mints same forward live unrevoked
  · have redemption := redemption_of_redeems effect redeems
    obtain ⟨other, member, mints⟩ := signed_of_redeems unforgeable redeems
    exact ended.unaccepted member mints same forward redemption.unexpired redemption.unrevoked

theorem Ended.step (ended : Ended history before family)
    (effect : Effect config moment before action response after)
    (unforgeable : Unforgeable config (⟨moment, action, response⟩ :: history))
    (fresh : Fresh (⟨moment, action, response⟩ :: history))
    (forward : ClockForward (⟨moment, action, response⟩ :: history)) :
    Ended (⟨moment, action, response⟩ :: history) after family := by
  obtain ⟨drawer, listed, drew⟩ := ended.drawn
  refine ⟨⟨drawer, List.mem_cons_of_mem _ listed, drew⟩, ?_⟩
  intro other member purpose claims mints same
  rcases List.mem_cons.mp member with rfl | older
  · rcases mints_family effect mints with started | ⟨redeemed, redeems, sameFamily⟩
    · exact absurd drew (fresh.new (same ▸ started) listed)
    · exact absurd (.refresh redeemed redeems (sameFamily.trans same)) (ended.refuses effect unforgeable forward)
  · rcases ended.ended other older purpose claims mints same with held | passed
    · rcases revokedFamilies_step effect held with kept | reached
      · exact .inl kept
      · exact .inr (.now reached)
    · exact .inr (passed.later _)

/-- The client of a refresh token presents it again, after it was redeemed in this lifetime. -/
inductive Replays (config : Config) (earlier : List Occurrence) (claims : TokenClaims) (occurrence : Occurrence) :
    Prop where
  | replays (id : Nat) (authorization : Option JsString) (form : Form) (pairs : Params) (clientId : JsString)
      (client : ClientClaims) (serves : occurrence.action = .serve id (.token authorization form))
      (answered : occurrence.response ≠ .silent) (read : readForm form = .ok pairs)
      (authenticated : authenticateClient config authorization pairs = .ok (clientId, client))
      (target : (pairs.get (js "resource")).any (fun asked => asked != config.resource) = false)
      (grant : pairs.get (js "grant_type") = some (js "refresh_token"))
      (shown : presentedRefresh config occurrence.moment.now clientId pairs = some claims)
      (redeemed : ∃ other ∈ earlier, Redeems config claims other)

end Reuse

/-! ## A replay -/

def refreshing : Params :=
  [(js "grant_type", js "refresh_token"), (js "client_id", sessionClientId),
    (js "refresh_token", sign checksumTokens sessionConfig.signer .refresh refreshClaims sessionRefresh)]

def refreshAction (id : Nat) : Action :=
  .serve id (.token none (sessionForm refreshing))

def counted (id : Nat) (state : List Occurrence × Server) : List Occurrence × Server :=
  sessionStep state (.arrive id (js "a") false)

/-- The session after its refresh token was redeemed. -/
def rotated : List Occurrence × Server :=
  sessionStep (counted 5 signedIn) (refreshAction 5)

/-- The session after the refresh token was presented again. -/
def replayed : List Occurrence × Server :=
  sessionStep (counted 6 rotated) (refreshAction 6)

/-- The request to `/mcp` with the access token of the redemption. -/
def rotatedBearer : Action :=
  .access (some (js "Bearer " ++
    sign checksumTokens sessionConfig.signer .access accessClaims (sessionClaims 12 1 (accessExpiry sessionClock))))

def refused : List Occurrence × Server :=
  sessionStep replayed rotatedBearer

theorem refused_history : History sessionConfig [] refused.1 refused.2 :=
  sessionRun_history [.arrive 5 (js "a") false, refreshAction 5, .arrive 6 (js "a") false, refreshAction 6,
    rotatedBearer]
    (@sessionRun_history [] signIn ([], .started) .new)

theorem refused_assumptions : Unforgeable sessionConfig (refused.1 ++ []) ∧ Fresh (refused.1 ++ []) ∧
    ClockForward (refused.1 ++ []) := by
  decide +kernel

/-- The refresh token of the session is redeemed once. -/
theorem refused_once : refused.1.Pairwise fun later earlier => ∀ claims claims',
    Redeems sessionConfig claims later →
    Redeems sessionConfig claims' earlier → claims.jti ≠ claims'.jti := by
  obtain ⟨unforgeable, fresh, forward⟩ := refused_assumptions
  exact redeemed_once_per_lifetime refused_history unforgeable fresh forward

end KernelJson.OAuth.Rotation
