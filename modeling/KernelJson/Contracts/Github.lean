import KernelJson.Contracts.Objective

/-!
# Facts about a repository

The evidence of a mission: bounded facts about one repository at one commit,
with the schema that writes them to JSON and reads them back.
-/

namespace KernelJson.Contracts.Github

open Contracts.Objective
open Contracts.Platform
open Foundation
open Foundation.JsText

/-! ## Texts of timestamps -/

def dropUnit (unit : UInt16) (text : JsString) : Option JsString :=
  if text.head? = some unit then some text.tail else none

/-- Exactly `count` digits, as a number. -/
def fixedDigits (count : Nat) (text : JsString) : Option (Nat × JsString) :=
  let digits := text.take count
  if digits.length = count ∧ digits.all isDigitUnit = true then
    some (digits.foldl (fun total unit => total * 10 + (unit.toNat - 48)) 0, text.drop count)
  else none

def daysInMonth (year month : Nat) : Nat :=
  if month = 2 then (if (year % 4 = 0 ∧ year % 100 ≠ 0) ∨ year % 400 = 0 then 29 else 28)
  else if month = 4 ∨ month = 6 ∨ month = 9 ∨ month = 11 then 30
  else 31

def dropDate (text : JsString) : Option JsString := do
  let (year, rest) ← fixedDigits 4 text
  let (month, rest) ← fixedDigits 2 (← dropUnit 45 rest)
  let (day, rest) ← fixedDigits 2 (← dropUnit 45 rest)
  if 1 ≤ month ∧ month ≤ 12 ∧ 1 ≤ day ∧ day ≤ daysInMonth year month then some rest else none

/-- `hh:mm`. -/
def dropClock (text : JsString) : Option JsString := do
  let (hour, rest) ← fixedDigits 2 text
  let (minute, rest) ← fixedDigits 2 (← dropUnit 58 rest)
  if hour ≤ 23 ∧ minute ≤ 59 then some rest else none

/-- Seconds and their fraction, both of which may be missing. -/
def dropSeconds (text : JsString) : Option JsString :=
  match dropUnit 58 text with
  | none => some text
  | some rest => do
      let (second, rest) ← fixedDigits 2 rest
      if 59 < second then none
      else
        match dropUnit 46 rest with
        | none => some rest
        | some fraction =>
            if (fraction.takeWhile isDigitUnit) = [] then none else some (fraction.dropWhile isDigitUnit)

/-- `Z`, or an offset in hours and minutes. -/
def isZone (text : JsString) : Bool :=
  text == js "Z" || ((text.head? == some 43 || text.head? == some 45) && dropClock text.tail == some [])

/-- The pattern of `z.iso.datetime` with offsets. -/
def isTimestampText (text : JsString) : Bool :=
  ((dropDate text).bind fun rest => (dropUnit 84 rest).bind fun rest =>
    (dropClock rest).bind dropSeconds).any isZone

example : isTimestampText (js "2024-02-29T23:59:59.125+05:30") = true ∧
    isTimestampText (js "2023-02-29T00:00:00Z") = false := by
  decide +kernel

/-! ## Facts -/

/-- `/^[0-9a-f]{40}$/`. -/
def isSha40 (text : JsString) : Bool :=
  text.length == 40 && text.all fun unit => isDigitUnit unit || (97 ≤ unit.toNat && unit.toNat ≤ 102)

abbrev Sha40 : Type := Matching isSha40

abbrev Sha256Text : Type := Matching isSha256Text

/-- `z.number().int().nonnegative()`: a safe integer. -/
abbrev Count : Type := Between 0 9007199254740991

inductive EntryType where
  | blob
  | tree
deriving DecidableEq

def EntryType.text : EntryType → JsString
  | .blob => js "blob"
  | .tree => js "tree"

/-- A path of the captured tree with its git object id. -/
structure TreeEntry where
  path : BoundedText 1 300
  type : EntryType
  sha : Sha40

structure Readme where
  path : BoundedText 1 300
  sha256 : Sha256Text
  excerpt : BoundedText 0 6000

abbrev Tree : Type := { entries : List TreeEntry // entries.length ≤ 1000 }

structure GithubFacts where
  repo : RepoSlug
  isPrivate : Bool
  defaultBranch : BoundedText 1 200
  headSha : Sha40
  headCommitDate : Matching isTimestampText
  headCommitMessage : BoundedText 0 300
  language : Option (BoundedText 0 80)
  sizeKb : Count
  pushedAt : Option (Matching isTimestampText)
  openIssues : Count
  tree : Tree
  treeTruncated : Bool
  readme : Option Readme

/-! ## Schemas -/

def EntryType.codec : Codec EntryType :=
  .enum EntryType.text [.blob, .tree] (fun type => by cases type <;> decide) (by decide +kernel)

def TreeEntry.codec : Codec TreeEntry :=
  (FieldsCodec.cons (js "path") (.matching (lengthWithin 1 300))
    (.cons (js "type") EntryType.codec (.field (js "sha") (.matching isSha40)) (by decide +kernel))
    (by decide +kernel)).strict.transport
    (fun raw => ⟨raw.1, raw.2.1, raw.2.2⟩) (fun entry => (entry.path, entry.type, entry.sha)) fun _ => rfl

def Readme.fields : FieldsCodec (BoundedText 1 300 × Sha256Text × BoundedText 0 6000) :=
  .cons (js "path") (.matching (lengthWithin 1 300))
    (.cons (js "sha256") (.matching isSha256Text) (.field (js "excerpt") (.matching (lengthWithin 0 6000)))
      (by decide +kernel))
    (by decide +kernel)

def Readme.codec : Codec Readme :=
  Readme.fields.strict.transport
    (fun raw => ⟨raw.1, raw.2.1, raw.2.2⟩) (fun readme => (readme.path, readme.sha256, readme.excerpt))
    fun _ => rfl

theorem Readme.codec_visible (readme : Readme) : Readme.codec.write readme ≠ .null :=
  Readme.fields.strict_visible _

namespace GithubFacts

/-- The fields that describe the captured contents. -/
def contentFields : FieldsCodec (Tree × Bool × Option Readme) :=
  .cons (js "tree") (TreeEntry.codec.list.refine fun entries => entries.length ≤ 1000)
    (.cons (js "treeTruncated") .bool (.field (js "readme") (.nullable Readme.codec Readme.codec_visible))
      (by decide +kernel))
    (by decide +kernel)

def statisticsFields :
    FieldsCodec (Option (BoundedText 0 80) × Count × Option (Matching isTimestampText) × Count) :=
  .cons (js "language") (.nullable (.matching (lengthWithin 0 80)) fun _ => Json.noConfusion)
    (.cons (js "sizeKb") (.between 0 9007199254740991)
      (.cons (js "pushedAt") (.nullable (.matching isTimestampText) fun _ => Json.noConfusion)
        (.field (js "openIssues") (.between 0 9007199254740991))
        (by decide +kernel))
      (by decide +kernel))
    (by decide +kernel)

def headFields : FieldsCodec (Sha40 × Matching isTimestampText × BoundedText 0 300) :=
  .cons (js "headSha") (.matching isSha40)
    (.cons (js "headCommitDate") (.matching isTimestampText)
      (.field (js "headCommitMessage") (.matching (lengthWithin 0 300)))
      (by decide +kernel))
    (by decide +kernel)

def repositoryFields : FieldsCodec (RepoSlug × Bool × BoundedText 1 200) :=
  .cons (js "repo") (.matching isRepoSlug)
    (.cons (js "private") .bool (.field (js "defaultBranch") (.matching (lengthWithin 1 200)))
      (by decide +kernel))
    (by decide +kernel)

/-- The fields in the order of the schema. -/
def codec : Codec GithubFacts :=
  (((repositoryFields.and headFields (by decide +kernel)).and
    (statisticsFields.and contentFields (by decide +kernel)) (by decide +kernel))).strict.transport
    (fun ⟨⟨⟨repo, isPrivate, defaultBranch⟩, headSha, headCommitDate, headCommitMessage⟩,
        ⟨language, sizeKb, pushedAt, openIssues⟩, tree, treeTruncated, readme⟩ =>
      { repo, isPrivate, defaultBranch, headSha, headCommitDate, headCommitMessage, language, sizeKb,
        pushedAt, openIssues, tree, treeTruncated, readme })
    (fun facts =>
      (((facts.repo, facts.isPrivate, facts.defaultBranch),
          facts.headSha, facts.headCommitDate, facts.headCommitMessage),
        (facts.language, facts.sizeKb, facts.pushedAt, facts.openIssues),
        facts.tree, facts.treeTruncated, facts.readme))
    fun _ => rfl

end GithubFacts

end KernelJson.Contracts.Github
