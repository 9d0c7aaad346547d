import KernelJson.OAuth.Provenance

/-!
# What is used once

The ticket of a consent, a code and a refresh token are used at most once in a
run.  A use takes the entry out of its table, and an entry is put there only
under a new random name; the memory of a redeemed refresh token outlives the
token, as long as the clock does not go back.
-/

namespace KernelJson.OAuth.SingleUse

open Foundation
open Foundation.JsText
open OAuth.Provenance
open OAuth.Server
open OAuth.Steps
open OAuth.Tables

/-! ## Uses -/

def decides : Response → Bool
  | .code _ _ _ => true
  | .denied _ _ => true
  | _ => false

/-- The occurrence takes the consent under a ticket, to allow or to deny it. -/
def usesTicket (ticket : JsString) (occurrence : Occurrence) : Bool :=
  match occurrence.action with
  | .serve _ (.consent _ form) => decides occurrence.response && form.pairs.get (js "ticket") == some ticket
  | _ => false

def grants (grant : Grant) : Response → Bool
  | .tokens given _ _ => decide (given = grant)
  | _ => false

/-- The occurrence redeems a code. -/
def redeemsCode (code : JsString) (occurrence : Occurrence) : Bool :=
  match occurrence.action with
  | .serve _ (.token _ form) =>
      grants .authorizationCode occurrence.response && form.pairs.get (js "code") == some code
  | _ => false

def issuesTicket (ticket : JsString) (occurrence : Occurrence) : Bool :=
  match occurrence.response with
  | .consentPage issued _ _ _ _ => issued == ticket
  | _ => false

def issuesCode (code : JsString) (occurrence : Occurrence) : Bool :=
  match occurrence.response with
  | .code _ issued _ => issued == code
  | _ => false

/-- One if the table has the key. -/
def held {V : Type} (items : JsMap JsString V) (key : JsString) : Nat :=
  if (items.get? key).isSome then 1 else 0

section Tables

variable {V : Type} {items after : JsMap JsString V}

theorem held_le_one (items : JsMap JsString V) (key : JsString) : held items key ≤ 1 := by
  unfold held
  split <;> omega

theorem held_le (kept : ∀ key value, after.get? key = some value → items.get? key = some value) (key : JsString) :
    held after key ≤ held items key := by
  unfold held
  cases here : after.get? key with
  | none => simp
  | some value => simp [kept key value here]

theorem held_put (expiresAt : V → Int) (now : Int) (items : JsMap JsString V) (name : JsString) (value : V)
    (key : JsString) : held (put expiresAt now items name value) key ≤ (name == key).toNat + held items key := by
  by_cases same : name = key
  · have one := held_le_one (put expiresAt now items name value) key
    rw [beq_iff_eq.mpr same, Bool.toNat_true]
    omega
  · rw [beq_false_of_ne same, Bool.toNat_false, Nat.zero_add]
    unfold held
    cases here : (put expiresAt now items name value).get? key with
    | none => simp
    | some found =>
        rcases get?_put expiresAt here with ⟨here, -, -⟩ | old
        · exact absurd here same
        · simp [old]

theorem held_taken {name : JsString} {value : V} (nonempty : name ≠ []) (present : items.get? name = some value)
    (key : JsString) : (name == key).toNat + held (afterTake items (some name)) key ≤ held items key := by
  by_cases same : name = key
  · subst same
    simp [held, get?_afterTake_self nonempty, present]
  · rw [beq_false_of_ne same, Bool.toNat_false, Nat.zero_add]
    exact held_le (fun _ _ here => get?_afterTake here) key

end Tables

/-! ## Tickets and codes -/

section Once

variable {config : Config}

/-- Every use of a ticket or a code, and every entry under it, has an issue of its own. -/
structure Spent (past : List Occurrence) (server : Server) : Prop where
  tickets : ∀ ticket, past.countP (usesTicket ticket) + held server.consents ticket ≤
    past.countP (issuesTicket ticket)
  codes : ∀ code, past.countP (redeemsCode code) + held server.codes code ≤ past.countP (issuesCode code)

/-- One occurrence that uses no more than it takes out of the tables, and puts in no more than it issues. -/
structure Balanced (next : Occurrence) (before after : Server) : Prop where
  tickets : ∀ ticket, (usesTicket ticket next).toNat + held after.consents ticket ≤
    (issuesTicket ticket next).toNat + held before.consents ticket
  codes : ∀ code, (redeemsCode code next).toNat + held after.codes code ≤
    (issuesCode code next).toNat + held before.codes code

theorem countP_step (counts : Occurrence → Bool) (next : Occurrence) (past : List Occurrence) :
    (next :: past).countP counts = past.countP counts + (counts next).toNat := by
  cases here : counts next with
  | true => rw [List.countP_cons_of_pos here, Bool.toNat_true]
  | false => rw [List.countP_cons_of_neg (Bool.eq_false_iff.mp here), Bool.toNat_false, Nat.add_zero]

theorem Spent.step {past : List Occurrence} {before after : Server} {next : Occurrence} (spent : Spent past before)
    (balanced : Balanced next before after) : Spent (next :: past) after where
  tickets := by
    intro ticket
    have earlier := spent.tickets ticket
    have now := balanced.tickets ticket
    rw [countP_step, countP_step]
    omega
  codes := by
    intro code
    have earlier := spent.codes code
    have now := balanced.codes code
    rw [countP_step, countP_step]
    omega

theorem usesTicket_of_plain {next : Occurrence} (plain : decides next.response = false) (ticket : JsString) :
    usesTicket ticket next = false := by
  unfold usesTicket
  split
  · rw [plain, Bool.false_and]
  · rfl

theorem redeemsCode_of_plain {next : Occurrence} (plain : grants .authorizationCode next.response = false)
    (code : JsString) : redeemsCode code next = false := by
  unfold redeemsCode
  split
  · rw [plain, Bool.false_and]
  · rfl

/-- Tables that only lose entries are in balance with an occurrence that uses none. -/
theorem Balanced.fewer (moment : Moment) (action : Action) {response : Response} {before after : Server}
    {now : Clock} (fewer : Fewer now before after) (undecided : decides response = false)
    (ungranted : grants .authorizationCode response = false) : Balanced ⟨moment, action, response⟩ before after where
  tickets := by
    intro ticket
    have less := held_le fewer.consents ticket
    rw [usesTicket_of_plain undecided, Bool.toNat_false]
    omega
  codes := by
    intro code
    have less := held_le fewer.codes code
    rw [redeemsCode_of_plain ungranted, Bool.toNat_false]
    omega

theorem usesTicket_consent {moment : Moment} {id : Nat} {origin : Option JsString} {form : Form} {pairs : Params}
    {name : JsString} {response : Response} (read : readForm form = .ok pairs)
    (asked : pairs.get (js "ticket") = some name) (decided : decides response = true) (ticket : JsString) :
    usesTicket ticket ⟨moment, .serve id (.consent origin form), response⟩ = (name == ticket) := by
  simp only [usesTicket, decided, pairs_of_readForm read, asked, Bool.true_and]
  rfl

theorem redeemsCode_token {moment : Moment} {id : Nat} {authorization : Option JsString} {form : Form}
    {pairs : Params} {name : JsString} {response : Response} (read : readForm form = .ok pairs)
    (asked : pairs.get (js "code") = some name) (granted : grants .authorizationCode response = true)
    (code : JsString) :
    redeemsCode code ⟨moment, .serve id (.token authorization form), response⟩ = (name == code) := by
  simp only [redeemsCode, granted, pairs_of_readForm read, asked, Bool.true_and]
  rfl

/-- A consent that is taken is used. -/
theorem Balanced.denied {moment : Moment} {id : Nat} {origin : Option JsString} {form : Form} {pairs : Params}
    {name redirectUri : JsString} {state : Option JsString} {pending : PendingConsent} {before : Server}
    (read : readForm form = .ok pairs) (asked : pairs.get (js "ticket") = some name) (nonempty : name ≠ [])
    (present : before.consents.get? name = some pending) :
    Balanced ⟨moment, .serve id (.consent origin form), .denied redirectUri state⟩ before
      { before.finished id with consents := afterTake before.consents (some name) } where
  tickets := by
    intro ticket
    have taken := held_taken nonempty present ticket
    rw [usesTicket_consent read asked rfl]
    exact le_trans taken (Nat.le_add_left _ _)
  codes := fun code => Nat.le_refl _

theorem Balanced.allowed {moment : Moment} {id : Nat} {origin : Option JsString} {form : Form} {pairs : Params}
    {name redirectUri : JsString} {state : Option JsString} {pending : PendingConsent} {before : Server}
    (read : readForm form = .ok pairs) (asked : pairs.get (js "ticket") = some name) (nonempty : name ≠ [])
    (present : before.consents.get? name = some pending) :
    Balanced ⟨moment, .serve id (.consent origin form), .code redirectUri (moment.fresh 0) state⟩ before
      { before.finished id with
        consents := afterTake before.consents (some name)
        codes := put IssuedCode.expiresAt moment.now.val before.codes (moment.fresh 0) (newCode moment pending) } where
  tickets := by
    intro ticket
    have taken := held_taken nonempty present ticket
    rw [usesTicket_consent read asked rfl]
    exact le_trans taken (Nat.le_add_left _ _)
  codes := by
    intro code
    have stored := held_put IssuedCode.expiresAt moment.now.val before.codes (moment.fresh 0)
      (newCode moment pending) code
    exact le_trans (Nat.le_of_eq (Nat.zero_add _)) stored

theorem Balanced.vouched {moment : Moment} {id : Nat} {sub clientName label grantText redirectUri : JsString}
    {login : PendingLogin} {before : Server} :
    Balanced ⟨moment, .answer id (some sub), .consentPage (moment.fresh 0) clientName label grantText redirectUri⟩
      before
      { before.finished id with
        consents := put (fun item => item.expiresAt) moment.now.val before.consents (moment.fresh 0)
          (newConsent moment login sub) } where
  tickets := by
    intro ticket
    have stored := held_put (fun item : PendingConsent => item.expiresAt) moment.now.val before.consents
      (moment.fresh 0) (newConsent moment login sub) ticket
    exact le_trans (Nat.le_of_eq (Nat.zero_add _)) stored
  codes := fun code => Nat.le_refl _

/-- A code that is redeemed is taken. -/
theorem Balanced.redeemedCode {moment : Moment} {id : Nat} {authorization : Option JsString} {form : Form}
    {pairs : Params} {name : JsString} {response : Response} {issued : IssuedCode} {before : Server}
    (read : readForm form = .ok pairs) (asked : pairs.get (js "code") = some name) (nonempty : name ≠ [])
    (present : before.codes.get? name = some issued) (granted : grants .authorizationCode response = true) :
    Balanced ⟨moment, .serve id (.token authorization form), response⟩ before
      { before.finished id with codes := afterTake before.codes (some name) } where
  tickets := by
    intro ticket
    exact Nat.add_le_add_right (Nat.zero_le _) _
  codes := by
    intro code
    have taken := held_taken nonempty present code
    rw [redeemsCode_token read asked granted]
    exact le_trans taken (Nat.le_add_left _ _)

/-- Every effect is in balance. -/
theorem Balanced.of_effect {past : List Occurrence} {moment : Moment} {action : Action} {response : Response}
    {before after : Server} (traced : Traced config past before)
    (effect : Effect config moment before action response after) :
    Balanced ⟨moment, action, response⟩ before after := by
  have finished : ∀ id, Fewer moment.now before (before.finished id) := fun id =>
    (Fewer.refl moment.now (before.finished id)).finished
  have pruned : ∀ id, Fewer moment.now before (pruneRefresh moment.now (before.finished id)) := fun id =>
    (Fewer.pruneRefresh moment.now (before.finished id)).finished
  cases effect with
  | quiet plain fewer =>
      refine .fewer _ _ fewer ?_ ?_
      · cases response with
        | code redirectUri code state => exact absurd trivial plain
        | denied redirectUri state => exact absurd trivial plain
        | _ => rfl
      · cases response with
        | tokens grant access refresh => exact absurd trivial plain
        | _ => rfl
  | registered id request profile found allowed => exact .fewer _ _ (finished id) rfl rfl
  | signIn id asked clean => exact { Balanced.fewer moment _ (finished id) rfl rfl with }
  | returned id asked present live => exact { Balanced.fewer moment _ (finished id) rfl rfl with }
  | vouched id waiting same found => exact .vouched
  | stranded id waiting unknown =>
      have known := (traced.exchanging _ _ waiting).profile
      rw [unknown] at known
      cases known
  | denied id read asked nonempty present live decided => exact .denied read asked nonempty present
  | allowed id read asked nonempty present live decided => exact .allowed read asked nonempty present
  | redeemedCode id read authenticated grant asked nonempty present live sameClient sameUri verifies wellFormed
      matched => exact .redeemedCode read asked nonempty present rfl
  | reused id read authenticated grant shown unrevoked used =>
      exact { Balanced.fewer moment _ (pruned id) rfl rfl with }
  | redeemedRefresh id read authenticated grant shown permitted sameScope unrevoked unused =>
      exact { Balanced.fewer moment _ (pruned id) rfl rfl with }
  | authorised bearer unrevoked known sameScope => exact .fewer _ _ (Fewer.pruneRefresh moment.now before) rfl rfl

theorem issuesTicket_le_one {past : List Occurrence} (fresh : Fresh past) (ticket : JsString) :
    past.countP (issuesTicket ticket) ≤ 1 := by
  refine fresh.count_le_one ticket _ fun occurrence issues => ?_
  unfold issuesTicket at issues
  split at issues
  · next issued _ _ _ _ answer =>
      rw [answer, beq_iff_eq.mp issues]
      exact List.mem_singleton_self ticket
  · cases issues

theorem issuesCode_le_one {past : List Occurrence} (fresh : Fresh past) (code : JsString) :
    past.countP (issuesCode code) ≤ 1 := by
  refine fresh.count_le_one code _ fun occurrence issues => ?_
  unfold issuesCode at issues
  split at issues
  · next issued _ answer =>
      rw [answer, beq_iff_eq.mp issues]
      exact List.mem_singleton_self code
  · cases issues

end Once

end KernelJson.OAuth.SingleUse
