import KernelJson.Foundation.JsText

/-!
# Client profiles

Which kind of client a registration is, decided by its redirect addresses
alone.  The profile fixes the scope of every token that the client is given.
-/

namespace KernelJson.OAuth.Profiles

open Foundation.JsText

def operatorScope : JsString :=
  js "kerneljson.operator"

def readScope : JsString :=
  js "kerneljson.read"

inductive ProfileName where
  | chatgpt
  | grokbot
deriving DecidableEq

structure ClientProfile where
  name : ProfileName
  label : JsString
  scope : JsString
  readOnly : Bool
  redirectUris : List JsString
  grants : JsString
deriving DecidableEq

def chatgptRedirectUris : List JsString :=
  [js "https://chatgpt.com/connector_platform_oauth_redirect"]

def grokbotRedirectUris : List JsString :=
  [js "https://www.cursor.com/bot/mcp/oauth/callback",
    js "https://www.cursor.com/agents/mcp/oauth/callback",
    js "https://grok.com/connectors-oauth-exchange-code/",
    js "http://localhost:8787/callback",
    js "http://127.0.0.1:8787/callback"]

/-- `CLIENT_PROFILES`. -/
def clientProfiles : ProfileName → ClientProfile
  | .chatgpt =>
      { name := .chatgpt
        label := js "ChatGPT"
        scope := operatorScope
        readOnly := false
        redirectUris := chatgptRedirectUris
        grants := js "read your tasks, evidence, memory and health, start a morning brief or a " ++
          js "read-only repository analysis, and cancel tasks. It cannot approve anything." }
  | .grokbot =>
      { name := .grokbot
        label := js "Grok Bot (Cursor MCP client)"
        scope := readScope
        readOnly := true
        redirectUris := grokbotRedirectUris
        grants := js "read your tasks, evidence, history, memory and health. " ++
          js "It cannot start, cancel or approve anything." }

/-- `PROFILE_NAMES`. -/
def profileNames : List ProfileName :=
  [.chatgpt, .grokbot]

/-- `profileFor(redirectUris)`: the one profile that has every address. -/
def profileFor (redirectUris : List JsString) : Option ClientProfile :=
  if redirectUris = [] then none
  else
    match profileNames.filter fun name =>
      redirectUris.all fun uri => (clientProfiles name).redirectUris.contains uri with
    | [name] => some (clientProfiles name)
    | _ => none

/-- The profile of a client has all of its addresses. -/
theorem profileFor_redirectUris {redirectUris : List JsString} {profile : ClientProfile}
    (found : profileFor redirectUris = some profile) :
    (∃ name, profile = clientProfiles name) ∧ ∀ uri ∈ redirectUris, uri ∈ profile.redirectUris := by
  unfold profileFor at found
  split at found
  · cases found
  · split at found
    · next name only =>
        have kept := List.mem_filter.mp (only ▸ List.mem_singleton_self name)
        cases found
        refine ⟨⟨name, rfl⟩, fun uri member => ?_⟩
        exact List.contains_iff_mem.mp (List.all_eq_true.mp kept.2 uri member)
    · cases found

/-- A read-only profile never has the operator scope. -/
theorem scope_of_readOnly {redirectUris : List JsString} {profile : ClientProfile}
    (found : profileFor redirectUris = some profile) (readOnly : profile.readOnly = true) :
    profile.scope = readScope := by
  obtain ⟨⟨name, rfl⟩, -⟩ := profileFor_redirectUris found
  cases name with
  | chatgpt => cases readOnly
  | grokbot => rfl

theorem readScope_ne_operatorScope : readScope ≠ operatorScope := by
  decide +kernel

end KernelJson.OAuth.Profiles
