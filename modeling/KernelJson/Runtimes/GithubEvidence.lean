import KernelJson.Contracts.Brief
import KernelJson.Foundation.Cuts
import KernelJson.Identity.Canonical
import KernelJson.Mission.Reconcile
import KernelJson.Scheduler.CivilTime

/-!
# Evidence captured from GitHub

What the two read-only capabilities build from the answers of GitHub.  Several
texts are cut at a number of code units, and the text of a README is decoded
from bytes; the rest is taken over as it was answered.  The database stores no
unpaired surrogate and no NUL.
-/

namespace KernelJson.Runtimes.GithubEvidence

open Contracts.Brief
open Contracts.Cognition
open Contracts.Digest
open Contracts.Github
open Contracts.Objective
open Contracts.Platform
open Contracts.Reports
open Foundation
open Foundation.Cuts
open Foundation.JsText
open Identity.Canonical
open Mission.Reconcile
open Scheduler.CivilTime

/-! ## Answers about a repository -/

structure RepoResponse where
  fullName : JsString
  isPrivate : Bool
  defaultBranch : BoundedText 1 200
  language : Option (BoundedText 0 80)
  size : Count
  pushedAt : Option JsString
  openIssuesCount : Count

structure CommitResponse where
  sha : Sha40
  committerDate : JsString
  message : JsString

structure TreeItem where
  path : BoundedText 1 300
  type : JsString
  sha : Sha40

structure TreeResponse where
  truncated : Bool
  tree : List TreeItem

structure ReadmeResponse where
  path : BoundedText 1 300
  encoding : JsString
  content : JsString

/-- `Buffer.from(text, "base64")`, and the hash of bytes. -/
structure Bytes where
  base64 : JsString → List UInt8
  sha256 : List UInt8 → HexDigest

/-! ## The facts of a repository -/

theorem lengthWithin_take (length : Nat) (text : JsString) :
    lengthWithin 0 length (text.take length) = true := by
  rw [lengthWithin, Bool.and_eq_true, decide_eq_true_eq, decide_eq_true_eq]
  exact ⟨Nat.zero_le _, List.length_take_le _ _⟩

/-- `text.slice(0, length)`. -/
def slice (length : Nat) (text : JsString) : BoundedText 0 length :=
  ⟨text.take length, lengthWithin_take length text⟩

/-- `message.split("\n")[0]`. -/
def firstLine (message : JsString) : JsString :=
  message.takeWhile fun unit => unit != 10

/-- `bytes.toString("utf8")` of a README. -/
def readmeText (bytes : Bytes) (response : ReadmeResponse) : JsString :=
  Utf8.decode (bytes.base64 (response.content.filter fun unit => !isSpace unit))

def readmeFacts (bytes : Bytes) (response : ReadmeResponse) : Option Readme :=
  if response.encoding = js "base64" then
    let decoded := bytes.base64 (response.content.filter fun unit => !isSpace unit)
    some ⟨response.path, ⟨hexText (bytes.sha256 decoded), isSha256Text_hexText _⟩,
      slice 6000 (readmeText bytes response)⟩
  else none

def treeEntry (item : TreeItem) : Option TreeEntry :=
  if item.type = js "blob" then some ⟨item.path, .blob, item.sha⟩
  else if item.type = js "tree" then some ⟨item.path, .tree, item.sha⟩
  else none

def depth (path : JsString) : Nat :=
  (path.splitOn 47).length

/-- Shallow paths first, and paths of one depth in the order of their units. -/
def treeBefore (first second : TreeEntry) : Prop :=
  depth first.path.val < depth second.path.val ∨
    depth first.path.val = depth second.path.val ∧ Json.unitsLE first.path.val second.path.val

instance (first second : TreeEntry) : Decidable (treeBefore first second) :=
  inferInstanceAs (Decidable (_ ∨ _))

def treeEntries (response : TreeResponse) : List TreeEntry :=
  (response.tree.filterMap treeEntry).insertionSort treeBefore

/-- `GithubFacts.parse` of what was read. -/
def buildFacts (bytes : Bytes) (repo : RepoResponse) (commit : CommitResponse) (tree : TreeResponse)
    (readme : Option ReadmeResponse) : Option GithubFacts := do
  let name ← Matching.parse isRepoSlug repo.fullName
  let headCommitDate ← Matching.parse isTimestampText commit.committerDate
  let pushedAt ← repo.pushedAt.mapM (Matching.parse isTimestampText)
  some
    { repo := name
      isPrivate := repo.isPrivate
      defaultBranch := repo.defaultBranch
      headSha := commit.sha
      headCommitDate
      headCommitMessage := slice 300 (firstLine commit.message)
      language := repo.language
      sizeKb := repo.size
      pushedAt
      openIssues := repo.openIssuesCount
      tree := ⟨(treeEntries tree).take 1000, List.length_take_le _ _⟩
      treeTruncated := tree.truncated || decide (1000 < (treeEntries tree).length)
      readme := readme.bind (readmeFacts bytes) }

inductive ReadFailure where
  | renamed
  | invalid
deriving DecidableEq

/-- What `read(input)` makes of the answers; a README that does not exist has no answer. -/
def githubFacts (platform : Platform) (bytes : Bytes) (slug : RepoSlug) (repo : RepoResponse)
    (commit : CommitResponse) (tree : TreeResponse) (readme : Option ReadmeResponse) :
    Except ReadFailure GithubFacts :=
  if platform.toLowerCase repo.fullName ≠ platform.toLowerCase slug.val then .error .renamed
  else (buildFacts bytes repo commit tree readme).elim (.error .invalid) .ok

/-! ## Answers about activity -/

structure ListedRepo where
  fullName : JsString
  isPrivate : Bool
  defaultBranch : BoundedText 1 200
  pushedAt : Option JsString
  archived : Option Bool

structure CommitAuthor where
  name : Option JsString
  date : JsString

/-- A commit; the login is missing where GitHub knows no account. -/
structure CommitItem where
  sha : Sha40
  login : Option JsString
  author : Option CommitAuthor
  committerDate : Option JsString
  message : JsString

structure PullItem where
  number : Positive
  title : JsString
  draft : Option Bool
  updatedAt : JsString
  login : Option JsString

structure RunItem where
  id : Positive
  name : Option JsString
  status : Option JsString
  conclusion : Option JsString
  headSha : Sha40
  updatedAt : JsString

/-- What GitHub answers about one repository; each answer is missing where its status is soft. -/
structure RepoActivity where
  commits : Option (List CommitItem)
  pulls : Option (List PullItem)
  runs : Option (List RunItem)

/-! ## The activity of a window -/

def CommitItem.authorText (item : CommitItem) : JsString :=
  (item.login.orElse fun _ => item.author.bind CommitAuthor.name).getD (js "unknown")

def CommitItem.dateText (item : CommitItem) (pushedAt : JsString) : JsString :=
  (item.committerDate.orElse fun _ => item.author.map CommitAuthor.date).getD pushedAt

def PullItem.authorText (item : PullItem) : JsString :=
  item.login.getD (js "unknown")

def RunItem.nameText (item : RunItem) : JsString :=
  item.name.getD (js "workflow")

def RunItem.statusText (item : RunItem) : JsString :=
  item.status.getD (js "unknown")

def briefCommit (pushedAt : JsString) (item : CommitItem) : Option BriefCommit := do
  let date ← Matching.parse isTimestampText (item.dateText pushedAt)
  some ⟨item.sha, date, slice 100 item.authorText, slice 200 (firstLine item.message)⟩

def briefPull (item : PullItem) : Option BriefPull := do
  let updatedAt ← Matching.parse isTimestampText item.updatedAt
  some ⟨item.number, slice 200 item.title, slice 100 item.authorText, item.draft.getD false, updatedAt⟩

def briefRun (item : RunItem) : Option BriefCiRun := do
  let updatedAt ← Matching.parse isTimestampText item.updatedAt
  some ⟨item.id, slice 200 item.nameText, slice 40 item.statusText, item.conclusion.map (slice 40),
    item.headSha, updatedAt⟩

/-- `z.array(…).max(most)`. -/
def atMost {α : Type} (most : Nat) (values : List α) : Option { values : List α // values.length ≤ most } :=
  if few : values.length ≤ most then some ⟨values, few⟩ else none

def capturedCommits (answers : RepoActivity) : List CommitItem :=
  (answers.commits.getD []).take 20

def capturedRun (answers : RepoActivity) : Option RunItem :=
  answers.runs.bind List.head?

def activeRepo (listed : ListedRepo) (answers : RepoActivity) : Option BriefActiveRepo := do
  let pushedText ← listed.pushedAt
  let repo ← Matching.parse isRepoSlug listed.fullName
  let pushedAt ← Matching.parse isTimestampText pushedText
  let commits ← (capturedCommits answers).mapM (briefCommit pushedText)
  let commits ← atMost 20 commits
  let openPulls ← answers.pulls.mapM fun pulls => do
    let shown ← (pulls.take 10).mapM briefPull
    atMost 10 shown
  let ci ← (capturedRun answers).mapM briefRun
  some
    { repo
      isPrivate := listed.isPrivate
      defaultBranch := listed.defaultBranch
      pushedAt
      commits
      commitsTruncated := decide (20 < (answers.commits.getD []).length)
      openPulls
      pullsTruncated := answers.pulls.any fun pulls => decide (10 < pulls.length)
      ci }

/-- The repositories that are not archived and were pushed to in the window. -/
def recentRepos (dateParse : JsString → Option Int) (start : Int) (listing : List ListedRepo) :
    List ListedRepo :=
  listing.filter fun repo =>
    !repo.archived.getD false && (repo.pushedAt.bind dateParse).any (fun pushed => decide (start ≤ pushed)) &&
      isRepoSlug repo.fullName

def capturedRepos (dateParse : JsString → Option Int) (start : Int) (listing : List ListedRepo) :
    List ListedRepo :=
  (recentRepos dateParse start listing).take 25

def safeCount (count : Nat) : Option Count :=
  if safe : (count : Int) ≤ 9007199254740991 then some ⟨count, Int.natCast_nonneg _, safe⟩ else none

/-- What `readActivity(input)` makes of the answers, for a window that ends at an instant. -/
def githubActivity (dateParse : JsString → Option Int) (windowEnd : Int) (listing : List ListedRepo)
    (answers : ListedRepo → RepoActivity) : Option GithubActivity := do
  let start := windowEnd - 24 * 3600000
  let active ← (capturedRepos dateParse start listing).mapM fun listed => activeRepo listed (answers listed)
  let active ← atMost 25 active
  let windowStart ← Matching.parse isTimestampText (toISOString start)
  let windowEnd ← Matching.parse isTimestampText (toISOString windowEnd)
  let reposVisible ← safeCount listing.length
  some
    { windowStart, windowEnd, reposVisible
      reposVisibleTruncated := decide (100 ≤ listing.length)
      active
      activeTruncated := decide (25 < (recentRepos dateParse start listing).length) }

/-! ## The texts of the records -/

def RepoResponse.texts (response : RepoResponse) : List JsString :=
  [response.fullName, response.defaultBranch.val] ++ (response.language.map Subtype.val).toList ++
    response.pushedAt.toList

def CommitResponse.texts (response : CommitResponse) : List JsString :=
  [response.sha.val, response.committerDate, response.message]

def TreeResponse.texts (response : TreeResponse) : List JsString :=
  response.tree.flatMap fun item => [item.path.val, item.type, item.sha.val]

def ReadmeResponse.texts (response : ReadmeResponse) : List JsString :=
  [response.path.val, response.encoding, response.content]

def readmeTexts (readme : Readme) : List JsString :=
  [readme.path.val, readme.sha256.val, readme.excerpt.val]

def entryTexts (entry : TreeEntry) : List JsString :=
  [entry.path.val, entry.type.text, entry.sha.val]

def factsTexts (facts : GithubFacts) : List JsString :=
  [facts.repo.val, facts.defaultBranch.val, facts.headSha.val, facts.headCommitDate.val,
      facts.headCommitMessage.val] ++
    (facts.language.map Subtype.val).toList ++ (facts.pushedAt.map Subtype.val).toList ++
    facts.tree.val.flatMap entryTexts ++ (facts.readme.map readmeTexts).getD []

def ListedRepo.texts (repo : ListedRepo) : List JsString :=
  [repo.fullName, repo.defaultBranch.val] ++ repo.pushedAt.toList

def CommitItem.texts (item : CommitItem) : List JsString :=
  [item.sha.val, item.message] ++ item.login.toList ++ item.committerDate.toList ++
    (item.author.map fun author => author.date :: author.name.toList).getD []

def PullItem.texts (item : PullItem) : List JsString :=
  [item.title, item.updatedAt] ++ item.login.toList

def RunItem.texts (item : RunItem) : List JsString :=
  [item.headSha.val, item.updatedAt] ++ item.name.toList ++ item.status.toList ++ item.conclusion.toList

def RepoActivity.texts (answers : RepoActivity) : List JsString :=
  (answers.commits.getD []).flatMap CommitItem.texts ++ (answers.pulls.getD []).flatMap PullItem.texts ++
    (answers.runs.getD []).flatMap RunItem.texts

def commitTexts (commit : BriefCommit) : List JsString :=
  [commit.sha.val, commit.date.val, commit.author.val, commit.message.val]

def pullTexts (pull : BriefPull) : List JsString :=
  [pull.title.val, pull.author.val, pull.updatedAt.val]

def runTexts (run : BriefCiRun) : List JsString :=
  [run.name.val, run.status.val] ++ (run.conclusion.map Subtype.val).toList ++
    [run.headSha.val, run.updatedAt.val]

def activeTexts (repo : BriefActiveRepo) : List JsString :=
  [repo.repo.val, repo.defaultBranch.val, repo.pushedAt.val] ++ repo.commits.val.flatMap commitTexts ++
    ((repo.openPulls.map Subtype.val).getD []).flatMap pullTexts ++ (repo.ci.map runTexts).getD []

def activityTexts (activity : GithubActivity) : List JsString :=
  [activity.windowStart.val, activity.windowEnd.val] ++ activity.active.val.flatMap activeTexts

/-! ## Texts that the database stores -/

theorem storable_iff {text : JsString} : isUnstorable text = false ↔ Utf8.WellFormed text ∧ 0 ∉ text := by
  constructor
  · intro storable
    exact ⟨wellFormed_of_storable storable, zero_notMem_of_storable storable⟩
  · rintro ⟨wellFormed, zero⟩
    rw [isUnstorable, Bool.or_eq_false_iff]
    refine ⟨loneSurrogateAfter_of_wellFormed wellFormed, ?_⟩
    rw [List.contains_eq_mem, decide_eq_false_iff_not]
    exact zero

theorem storable_of_plain {text : JsString} (plain : ∀ unit ∈ text, 0 < unit.toNat ∧ unit.toNat < 0xD800) :
    isUnstorable text = false := by
  refine storable_iff.mpr ⟨.of_plain fun unit member => (plain unit member).2, fun zero => ?_⟩
  exact absurd (plain 0 zero).1 (by decide)

/-- A well-formed text is cut to one that can be stored unless a pair is parted, or a NUL is kept. -/
theorem storable_take_iff {text : JsString} (wellFormed : Utf8.WellFormed text) (length : Nat) :
    isUnstorable (text.take length) = false ↔ cutsPair length text = false ∧ 0 ∉ text.take length := by
  rw [storable_iff, wellFormed_take_iff wellFormed]

theorem storable_slice_iff {text : JsString} (storable : isUnstorable text = false) (length : Nat) :
    isUnstorable (slice length text).val = false ↔ cutsPair length text = false := by
  obtain ⟨wellFormed, zero⟩ := storable_iff.mp storable
  show isUnstorable (text.take length) = false ↔ _
  rw [storable_take_iff wellFormed]
  exact ⟨And.left, fun whole => ⟨whole, fun member => zero (List.mem_of_mem_take member)⟩⟩

theorem storable_firstLine {text : JsString} (storable : isUnstorable text = false) :
    isUnstorable (firstLine text) = false := by
  obtain ⟨wellFormed, zero⟩ := storable_iff.mp storable
  refine storable_iff.mpr ⟨wellFormed_takeWhile wellFormed (by decide), fun member => ?_⟩
  exact zero ((List.takeWhile_prefix _).subset member)

theorem storable_sha256 (text : Sha256Text) : isUnstorable text.val = false := by
  refine storable_of_plain fun unit member => ?_
  have shape := text.property
  simp only [isSha256Text, Bool.and_eq_true, List.all_eq_true, Bool.or_eq_true, decide_eq_true_eq,
    isDigitUnit] at shape
  have bounds := shape.2 unit member
  omega

theorem storable_entryType (type : EntryType) : isUnstorable type.text = false := by
  cases type <;> decide

theorem val_of_parse {accepts : JsString → Bool} {text : JsString} {read : Matching accepts}
    (parsed : Matching.parse accepts text = some read) : read.val = text := by
  unfold Matching.parse at parsed
  split at parsed
  · cases parsed
    rfl
  · cases parsed

section Members

variable {stores : JsString → Prop}

theorem forall_toList {α : Type} {text : α → JsString} (value : Option α) :
    (∀ found ∈ (value.map text).toList, stores found) ↔ ∀ found ∈ value, stores (text found) := by
  cases value with
  | none => exact ⟨fun _ _ member => (by cases member), fun _ _ member => (by cases member)⟩
  | some found => simp

theorem forall_getD {α : Type} {texts : α → List JsString} (value : Option α) :
    (∀ found ∈ (value.map texts).getD [], stores found) ↔
      ∀ found ∈ value, ∀ text ∈ texts found, stores text := by
  cases value with
  | none => exact ⟨fun _ _ member => (by cases member), fun _ _ member => (by cases member)⟩
  | some found => simp

/-- The results of a traversal are good exactly where the values it read are. -/
theorem forall_mapM_iff {α β : Type} {read : α → Option β} {good : β → Prop} {clean : α → Prop}
    {values : List α} {results : List β} (all : values.mapM read = some results)
    (each : ∀ value ∈ values, ∀ result, read value = some result → (good result ↔ clean value)) :
    (∀ result ∈ results, good result) ↔ ∀ value ∈ values, clean value := by
  induction values generalizing results with
  | nil =>
      cases all
      exact ⟨fun _ _ member => (by cases member), fun _ _ member => (by cases member)⟩
  | cons value rest ih =>
      simp only [List.mapM_cons, Option.bind_eq_bind, Option.pure_def, Option.bind_eq_some_iff,
        Option.some.injEq] at all
      obtain ⟨result, read, later, reads, rfl⟩ := all
      rw [List.forall_mem_cons, List.forall_mem_cons, each value List.mem_cons_self result read,
        ih reads fun other member => each other (List.mem_cons_of_mem _ member)]

end Members

/-! ## When the facts can be stored -/

section Facts

variable {platform : Platform} {bytes : Bytes} {slug : RepoSlug} {repo : RepoResponse} {commit : CommitResponse}
  {tree : TreeResponse} {readme : Option ReadmeResponse} {facts : GithubFacts}

theorem pushed_of_mapM {answer : Option JsString} {pushed : Option TimestampText} {found : TimestampText}
    (read : answer.mapM (Matching.parse isTimestampText) = some pushed) (member : found ∈ pushed) :
    found.val ∈ answer.toList := by
  cases answer with
  | none =>
      cases read
      cases member
  | some text =>
      simp only [Option.mapM_some, Option.map_eq_map, Option.map_eq_some_iff] at read
      obtain ⟨parsed, read, rfl⟩ := read
      cases member
      rw [val_of_parse read]
      exact List.mem_singleton_self _

/-- Every text that GitHub answered about the repository can be stored. -/
structure FactsAnswered (repo : RepoResponse) (commit : CommitResponse) (tree : TreeResponse)
    (readme : Option ReadmeResponse) : Prop where
  repo : ∀ text ∈ repo.texts, isUnstorable text = false
  commit : ∀ text ∈ commit.texts, isUnstorable text = false
  tree : ∀ text ∈ tree.texts, isUnstorable text = false
  readme : ∀ response ∈ readme, ∀ text ∈ response.texts, isUnstorable text = false

/-- No cut parts a pair of surrogates, and the README has no NUL before its cut. -/
structure FactsClean (bytes : Bytes) (commit : CommitResponse) (readme : Option ReadmeResponse) : Prop where
  message : cutsPair 300 (firstLine commit.message) = false
  excerpt : ∀ response ∈ readme, response.encoding = js "base64" →
    cutsPair 6000 (readmeText bytes response) = false ∧ 0 ∉ (readmeText bytes response).take 6000

theorem mem_treeEntries {entry : TreeEntry} (member : entry ∈ (treeEntries tree).take 1000) :
    ∃ item ∈ tree.tree, entry.path = item.path ∧ entry.sha = item.sha := by
  have sorted := (List.perm_insertionSort treeBefore _).mem_iff.mp (List.mem_of_mem_take member)
  obtain ⟨item, inside, read⟩ := List.mem_filterMap.mp sorted
  unfold treeEntry at read
  split at read
  · cases read
    exact ⟨item, inside, rfl, rfl⟩
  · split at read
    · cases read
      exact ⟨item, inside, rfl, rfl⟩
    · cases read

theorem storable_tree (answered : ∀ text ∈ tree.texts, isUnstorable text = false) :
    ∀ entry ∈ (treeEntries tree).take 1000, ∀ text ∈ entryTexts entry, isUnstorable text = false := by
  intro entry member text found
  obtain ⟨item, inside, path, sha⟩ := mem_treeEntries member
  have given := List.forall_mem_flatMap.mp answered item inside
  simp only [List.forall_mem_cons] at given
  simp only [entryTexts, List.mem_cons, List.not_mem_nil, or_false] at found
  rcases found with rfl | rfl | rfl
  · rw [path]
    exact given.1
  · exact storable_entryType entry.type
  · rw [sha]
    exact given.2.2.1

/-- The texts of an excerpt can be stored exactly where its cut is clean. -/
theorem storable_readme_iff {response : ReadmeResponse} {found : Readme}
    (answered : ∀ text ∈ response.texts, isUnstorable text = false)
    (read : readmeFacts bytes response = some found) :
    (∀ text ∈ readmeTexts found, isUnstorable text = false) ↔
      cutsPair 6000 (readmeText bytes response) = false ∧ 0 ∉ (readmeText bytes response).take 6000 := by
  unfold readmeFacts at read
  split at read
  · cases read
    rw [← storable_take_iff (show Utf8.WellFormed (readmeText bytes response) from wellFormed_decode _)]
    simp only [readmeTexts, List.forall_mem_cons]
    have path := answered _ List.mem_cons_self
    exact ⟨fun all => all.2.2.1, fun excerpt => ⟨path, storable_sha256 ⟨_, isSha256Text_hexText _⟩, excerpt,
      fun _ member => (by cases member)⟩⟩
  · cases read

theorem facts_of_read (read : githubFacts platform bytes slug repo commit tree readme = .ok facts) :
    buildFacts bytes repo commit tree readme = some facts := by
  unfold githubFacts at read
  split at read
  · cases read
  · cases built : buildFacts bytes repo commit tree readme with
    | none =>
        rw [built] at read
        cases read
    | some found =>
        rw [built] at read
        cases read
        rfl

theorem readme_storable_iff
    (answered : ∀ response ∈ readme, ∀ text ∈ response.texts, isUnstorable text = false) :
    (∀ found ∈ readme.bind (readmeFacts bytes), ∀ text ∈ readmeTexts found, isUnstorable text = false) ↔
      ∀ response ∈ readme, response.encoding = js "base64" →
        cutsPair 6000 (readmeText bytes response) = false ∧ 0 ∉ (readmeText bytes response).take 6000 := by
  cases readme with
  | none => exact ⟨fun _ _ member => (by cases member), fun _ _ member => (by cases member)⟩
  | some response =>
      have given := answered response rfl
      rw [Option.bind_some]
      constructor
      · intro stored other member encoded
        cases member
        have read : ∃ found, readmeFacts bytes response = some found := ⟨_, if_pos encoded⟩
        obtain ⟨found, read⟩ := read
        exact (storable_readme_iff given read).mp (stored found read)
      · intro clean found read
        refine (storable_readme_iff given read).mpr (clean response rfl ?_)
        by_contra other
        rw [Option.mem_def, readmeFacts, if_neg other] at read
        cases read

/-- The facts can be stored exactly where the cuts of the message and of the README are clean. -/
theorem facts_storable_iff (answered : FactsAnswered repo commit tree readme)
    (read : githubFacts platform bytes slug repo commit tree readme = .ok facts) :
    (∀ text ∈ factsTexts facts, isUnstorable text = false) ↔ FactsClean bytes commit readme := by
  have built := facts_of_read read
  simp only [buildFacts, Option.bind_eq_bind, Option.bind_eq_some_iff, Option.some.injEq] at built
  obtain ⟨name, named, date, dated, pushedAt, pushed, rfl⟩ := built
  have given := answered.repo
  simp only [RepoResponse.texts, List.forall_mem_append, List.forall_mem_cons, forall_toList] at given
  have commits := answered.commit
  simp only [CommitResponse.texts, List.forall_mem_cons] at commits
  have message := storable_slice_iff (storable_firstLine commits.2.2.1) 300
  have excerpt := @readme_storable_iff bytes readme answered.readme
  simp only [factsTexts, List.forall_mem_append, List.forall_mem_cons, forall_toList, forall_getD,
    List.forall_mem_flatMap, val_of_parse named, val_of_parse dated]
  constructor
  · rintro ⟨⟨⟨⟨⟨-, -, -, -, stored, -⟩, -⟩, -⟩, -⟩, readmes⟩
    exact ⟨message.mp stored, excerpt.mp readmes⟩
  · intro clean
    refine ⟨⟨⟨⟨⟨given.1.1.1, given.1.1.2.1, commits.1, commits.2.1, message.mpr clean.message,
      fun _ member => ?_⟩, given.1.2⟩, fun found member => ?_⟩, storable_tree answered.tree⟩,
      excerpt.mpr clean.excerpt⟩
    · cases member
    · exact given.2 _ (pushed_of_mapM pushed member)

end Facts

/-! ## When the activity can be stored -/

section Activity

variable {listed : ListedRepo} {answers : RepoActivity}

/-- No cut of a commit, a pull request or the run parts a pair of surrogates. -/
structure RepoClean (answers : RepoActivity) : Prop where
  commits : ∀ item ∈ capturedCommits answers,
    cutsPair 100 item.authorText = false ∧ cutsPair 200 (firstLine item.message) = false
  pulls : ∀ pulls ∈ answers.pulls, ∀ item ∈ pulls.take 10,
    cutsPair 200 item.title = false ∧ cutsPair 100 item.authorText = false
  run : ∀ item ∈ capturedRun answers, cutsPair 200 item.nameText = false ∧ cutsPair 40 item.statusText = false ∧
    ∀ conclusion ∈ item.conclusion, cutsPair 40 conclusion = false

/-- Every text that GitHub answered about activity can be stored. -/
structure RepoAnswered (listed : ListedRepo) (answers : RepoActivity) : Prop where
  listed : ∀ text ∈ listed.texts, isUnstorable text = false
  commits : ∀ commits ∈ answers.commits, ∀ item ∈ commits, ∀ text ∈ item.texts, isUnstorable text = false
  pulls : ∀ pulls ∈ answers.pulls, ∀ item ∈ pulls, ∀ text ∈ item.texts, isUnstorable text = false
  runs : ∀ runs ∈ answers.runs, ∀ item ∈ runs, ∀ text ∈ item.texts, isUnstorable text = false

theorem storable_unknown : isUnstorable (js "unknown") = false := by
  decide

theorem storable_workflow : isUnstorable (js "workflow") = false := by
  decide

/-- A text that is given, or a constant. -/
theorem storable_getD {given : Option JsString} (answered : ∀ text ∈ given.toList, isUnstorable text = false)
    {fixed : JsString} (constant : isUnstorable fixed = false) : isUnstorable (given.getD fixed) = false := by
  cases given with
  | none => exact constant
  | some text => exact answered text (List.mem_singleton_self _)

theorem storable_orElse {given other : Option JsString}
    (answered : ∀ text ∈ given.toList, isUnstorable text = false)
    (otherwise : ∀ text ∈ other.toList, isUnstorable text = false) :
    ∀ text ∈ (given.orElse fun _ => other).toList, isUnstorable text = false := by
  cases given with
  | none => exact otherwise
  | some text => exact answered

theorem commit_storable_iff {pushedAt : JsString} {item : CommitItem} {commit : BriefCommit}
    (pushed : isUnstorable pushedAt = false) (answered : ∀ text ∈ item.texts, isUnstorable text = false)
    (read : briefCommit pushedAt item = some commit) :
    (∀ text ∈ commitTexts commit, isUnstorable text = false) ↔
      cutsPair 100 item.authorText = false ∧ cutsPair 200 (firstLine item.message) = false := by
  simp only [briefCommit, Option.bind_eq_bind, Option.bind_eq_some_iff, Option.some.injEq] at read
  obtain ⟨date, dated, rfl⟩ := read
  simp only [CommitItem.texts, List.forall_mem_append, List.forall_mem_cons, forall_getD] at answered
  obtain ⟨⟨⟨⟨sha, message, -⟩, login⟩, committed⟩, authored⟩ := answered
  have author : isUnstorable item.authorText = false := by
    refine storable_getD (storable_orElse login fun text member => ?_) storable_unknown
    cases written : item.author with
    | none =>
        rw [written] at member
        cases member
    | some author =>
        rw [written] at member
        exact (authored author written).2 text member
  have dates : isUnstorable (item.dateText pushedAt) = false := by
    refine storable_getD (storable_orElse committed fun text member => ?_) pushed
    cases written : item.author with
    | none =>
        rw [written] at member
        cases member
    | some author =>
        rw [written] at member
        rw [List.mem_singleton.mp member]
        exact (authored author written).1
  rw [← storable_slice_iff author, ← storable_slice_iff (storable_firstLine message)]
  simp only [commitTexts, List.forall_mem_cons, val_of_parse dated]
  exact ⟨fun all => ⟨all.2.2.1, all.2.2.2.1⟩,
    fun cuts => ⟨sha, dates, cuts.1, cuts.2, fun _ member => (by cases member)⟩⟩

theorem pull_storable_iff {item : PullItem} {pull : BriefPull}
    (answered : ∀ text ∈ item.texts, isUnstorable text = false) (read : briefPull item = some pull) :
    (∀ text ∈ pullTexts pull, isUnstorable text = false) ↔
      cutsPair 200 item.title = false ∧ cutsPair 100 item.authorText = false := by
  simp only [briefPull, Option.bind_eq_bind, Option.bind_eq_some_iff, Option.some.injEq] at read
  obtain ⟨date, dated, rfl⟩ := read
  simp only [PullItem.texts, List.forall_mem_append, List.forall_mem_cons] at answered
  obtain ⟨⟨title, updated, -⟩, login⟩ := answered
  have author : isUnstorable item.authorText = false := storable_getD login storable_unknown
  rw [← storable_slice_iff title, ← storable_slice_iff author]
  simp only [pullTexts, List.forall_mem_cons, val_of_parse dated]
  exact ⟨fun all => ⟨all.1, all.2.1⟩, fun cuts => ⟨cuts.1, cuts.2, updated, fun _ member => (by cases member)⟩⟩

theorem run_storable_iff {item : RunItem} {run : BriefCiRun}
    (answered : ∀ text ∈ item.texts, isUnstorable text = false) (read : briefRun item = some run) :
    (∀ text ∈ runTexts run, isUnstorable text = false) ↔
      cutsPair 200 item.nameText = false ∧ cutsPair 40 item.statusText = false ∧
        ∀ conclusion ∈ item.conclusion, cutsPair 40 conclusion = false := by
  simp only [briefRun, Option.bind_eq_bind, Option.bind_eq_some_iff, Option.some.injEq] at read
  obtain ⟨date, dated, rfl⟩ := read
  simp only [RunItem.texts, List.forall_mem_append, List.forall_mem_cons] at answered
  obtain ⟨⟨⟨⟨head, updated, -⟩, named⟩, shown⟩, concluded⟩ := answered
  have name : isUnstorable item.nameText = false := storable_getD named storable_workflow
  have status : isUnstorable item.statusText = false := storable_getD shown storable_unknown
  have conclusions : (∀ text ∈ item.conclusion.map (slice 40), isUnstorable text.val = false) ↔
      ∀ conclusion ∈ item.conclusion, cutsPair 40 conclusion = false := by
    cases written : item.conclusion with
    | none => exact ⟨fun _ _ member => (by cases member), fun _ _ member => (by cases member)⟩
    | some conclusion =>
        have stored := concluded conclusion (by rw [written]; exact List.mem_singleton_self _)
        have given := storable_slice_iff stored 40
        exact ⟨fun all other member => (by cases member; exact given.mp (all _ rfl)),
          fun all other member => (by cases member; exact given.mpr (all _ rfl))⟩
  rw [← storable_slice_iff name, ← storable_slice_iff status, ← conclusions]
  simp only [runTexts, List.forall_mem_append, List.forall_mem_cons, forall_toList, val_of_parse dated]
  exact ⟨fun all => ⟨all.1.1.1, all.1.1.2.1, all.1.2⟩,
    fun cuts => ⟨⟨⟨cuts.1, cuts.2.1, fun _ member => (by cases member)⟩, cuts.2.2⟩, head, updated,
      fun _ member => (by cases member)⟩⟩

theorem atMost_eq {α : Type} {most : Nat} {values : List α} {few : { values : List α // values.length ≤ most }}
    (kept : atMost most values = some few) : few.val = values := by
  unfold atMost at kept
  split at kept
  · cases kept
    rfl
  · cases kept

/-- One active repository can be stored exactly where its cuts are clean. -/
theorem active_storable_iff {repo : BriefActiveRepo} (answered : RepoAnswered listed answers)
    (read : activeRepo listed answers = some repo) :
    (∀ text ∈ activeTexts repo, isUnstorable text = false) ↔ RepoClean answers := by
  simp only [activeRepo, Option.bind_eq_bind, Option.bind_eq_some_iff, Option.some.injEq] at read
  obtain ⟨pushedText, pushedGiven, name, named, pushedAt, pushed, commits, commitsRead, few, fewKept, openPulls,
    pullsRead, ci, ciRead, rfl⟩ := read
  have given := answered.listed
  simp only [ListedRepo.texts, List.forall_mem_append, List.forall_mem_cons] at given
  have pushedStored : isUnstorable pushedText = false := by
    refine given.2 pushedText ?_
    rw [pushedGiven]
    exact List.mem_singleton_self _
  have commitsIff : (∀ commit ∈ few.val, ∀ text ∈ commitTexts commit, isUnstorable text = false) ↔
      ∀ item ∈ capturedCommits answers,
        cutsPair 100 item.authorText = false ∧ cutsPair 200 (firstLine item.message) = false := by
    rw [atMost_eq fewKept]
    refine forall_mapM_iff commitsRead fun item member commit read => commit_storable_iff pushedStored ?_ read
    have inside := List.mem_of_mem_take member
    cases written : answers.commits with
    | none =>
        rw [written] at inside
        cases inside
    | some items =>
        rw [written] at inside
        exact answered.commits items written item inside
  have pullsIff : (∀ pull ∈ (openPulls.map Subtype.val).getD [],
      ∀ text ∈ pullTexts pull, isUnstorable text = false) ↔
      ∀ pulls ∈ answers.pulls, ∀ item ∈ pulls.take 10,
        cutsPair 200 item.title = false ∧ cutsPair 100 item.authorText = false := by
    cases written : answers.pulls with
    | none =>
        rw [written] at pullsRead
        cases pullsRead
        exact ⟨fun _ _ member => (by cases member), fun _ _ member => (by cases member)⟩
    | some pulls =>
        rw [written] at pullsRead
        simp only [Option.mapM_some, Option.map_eq_map, Option.map_eq_some_iff,
          Option.bind_eq_some_iff] at pullsRead
        obtain ⟨kept, ⟨shown, shownRead, keptRead⟩, rfl⟩ := pullsRead
        have iff := forall_mapM_iff shownRead fun item member pull read =>
          pull_storable_iff (answered.pulls pulls written item (List.mem_of_mem_take member)) read
        rw [← atMost_eq keptRead] at iff
        exact ⟨fun all other member => (by cases member; exact iff.mp all), fun all => iff.mpr (all pulls rfl)⟩
  have runIff : (∀ run ∈ ci, ∀ text ∈ runTexts run, isUnstorable text = false) ↔
      ∀ item ∈ capturedRun answers, cutsPair 200 item.nameText = false ∧ cutsPair 40 item.statusText = false ∧
        ∀ conclusion ∈ item.conclusion, cutsPair 40 conclusion = false := by
    cases written : capturedRun answers with
    | none =>
        rw [written] at ciRead
        cases ciRead
        exact ⟨fun _ _ member => (by cases member), fun _ _ member => (by cases member)⟩
    | some item =>
        rw [written] at ciRead
        simp only [Option.mapM_some, Option.map_eq_map, Option.map_eq_some_iff] at ciRead
        obtain ⟨run, runRead, rfl⟩ := ciRead
        obtain ⟨runs, runsGiven, first⟩ := Option.bind_eq_some_iff.mp written
        have iff := run_storable_iff (answered.runs runs runsGiven item (List.mem_of_head? first)) runRead
        exact ⟨fun all other member => (by cases member; exact iff.mp (all run rfl)),
          fun all other member => (by cases member; exact iff.mpr (all item rfl))⟩
  simp only [activeTexts, List.forall_mem_append, List.forall_mem_cons, forall_getD, List.forall_mem_flatMap,
    val_of_parse named, val_of_parse pushed]
  constructor
  · rintro ⟨⟨⟨-, stored⟩, pulls⟩, run⟩
    exact ⟨commitsIff.mp stored, pullsIff.mp pulls, runIff.mp run⟩
  · intro clean
    exact ⟨⟨⟨⟨given.1.1, given.1.2.1, pushedStored, fun _ member => (by cases member)⟩,
      commitsIff.mpr clean.commits⟩, pullsIff.mpr clean.pulls⟩, runIff.mpr clean.run⟩

/-! ### The window -/

/-- Units that are neither NUL nor surrogates. -/
def Plain (text : JsString) : Prop :=
  ∀ unit ∈ text, 0 < unit.toNat ∧ unit.toNat < 0xD800

theorem Plain.append {first second : JsString} (left : Plain first) (right : Plain second) :
    Plain (first ++ second) := by
  intro unit member
  rcases List.mem_append.mp member with inside | inside
  · exact left unit inside
  · exact right unit inside

theorem plain_of_all {text : JsString}
    (all : (text.all fun unit => 0 < unit.toNat && unit.toNat < 0xD800) = true) :
    Plain text := by
  intro unit member
  have bounds := List.all_eq_true.mp all unit member
  rw [Bool.and_eq_true, decide_eq_true_eq, decide_eq_true_eq] at bounds
  exact bounds

theorem plain_padZero (width : Nat) (number : Int) : Plain (padZero width number) := by
  intro unit member
  rcases List.mem_append.mp member with zero | digit
  · rw [(List.mem_replicate.mp zero).2]
    decide
  · rcases mem_signedDecimal digit with minus | digit
    · rw [minus]
      decide
    · unfold IsDigitUnit at digit
      omega

theorem plain_isoYear (year : Int) : Plain (isoYear year) := by
  unfold isoYear
  split
  · exact plain_padZero 4 year
  · refine Plain.append ?_ (plain_padZero 6 year.natAbs)
    split
    · exact plain_of_all (by decide)
    · exact plain_of_all (by decide)

theorem storable_toISOString (instant : Int) : isUnstorable (toISOString instant) = false := by
  have dash : Plain (js "-") := plain_of_all (by decide)
  have separator : Plain (js "T") := plain_of_all (by decide)
  have colon : Plain (js ":") := plain_of_all (by decide)
  have point : Plain (js ".") := plain_of_all (by decide)
  have zulu : Plain (js "Z") := plain_of_all (by decide)
  have pads := plain_padZero
  unfold toISOString
  dsimp only
  refine storable_of_plain ?_
  exact ((((((((((((((plain_isoYear _).append dash).append (pads _ _)).append dash).append (pads _ _)).append
    separator).append (pads _ _)).append colon).append (pads _ _)).append colon).append (pads _ _)).append
    point).append (pads _ _)).append zulu)

/-- The activity can be stored exactly where the cuts of every captured repository are clean. -/
theorem activity_storable_iff {dateParse : JsString → Option Int} {windowEnd : Int} {listing : List ListedRepo}
    {answers : ListedRepo → RepoActivity} {activity : GithubActivity}
    (answered : ∀ listed ∈ listing, RepoAnswered listed (answers listed))
    (read : githubActivity dateParse windowEnd listing answers = some activity) :
    (∀ text ∈ activityTexts activity, isUnstorable text = false) ↔
      ∀ listed ∈ capturedRepos dateParse (windowEnd - 24 * 3600000) listing, RepoClean (answers listed) := by
  simp only [githubActivity, Option.bind_eq_bind, Option.bind_eq_some_iff, Option.some.injEq] at read
  obtain ⟨active, activeRead, few, fewKept, start, started, last, ended, visible, -, rfl⟩ := read
  have each := forall_mapM_iff activeRead fun listed member repo read => by
    have inside := List.mem_of_mem_filter (List.mem_of_mem_take member)
    exact active_storable_iff (answered listed inside) read
  rw [← each, ← atMost_eq fewKept]
  simp only [activityTexts, List.forall_mem_append, List.forall_mem_cons, List.forall_mem_flatMap,
    val_of_parse started, val_of_parse ended]
  refine ⟨And.right, fun all => ⟨⟨storable_toISOString _, storable_toISOString _, fun _ member => ?_⟩, all⟩⟩
  cases member

end Activity

/-! ## What can be stored -/

/-- The outcome summary can be stored exactly where its cut is clean. -/
theorem missionSummary_storable_iff {analysis : MissionAnalysis}
    (answered : isUnstorable analysis.summary.text = false) :
    isUnstorable (missionSummary analysis) = false ↔
      cutsPair 500 (js "Accepted: " ++ analysis.summary.text) = false := by
  obtain ⟨wellFormed, zero⟩ := storable_iff.mp answered
  have lead : isUnstorable (js "Accepted: ") = false := by decide
  obtain ⟨leadFormed, leadZero⟩ := storable_iff.mp lead
  refine storable_slice_iff (storable_iff.mpr ⟨leadFormed.append wellFormed, fun member => ?_⟩) 500
  rcases List.mem_append.mp member with inside | inside
  · exact leadZero inside
  · exact zero inside

/-- What is captured can be stored exactly where no cut parts a pair of surrogates and no README has a NUL
before its cut. -/
theorem captured_storable_iff (platform : Platform) (bytes : Bytes) (dateParse : JsString → Option Int) :
    (∀ (slug : RepoSlug) (repo : RepoResponse) (commit : CommitResponse)
      (tree : TreeResponse) (readme : Option ReadmeResponse) (facts : GithubFacts),
      FactsAnswered repo commit tree readme →
        githubFacts platform bytes slug repo commit tree readme = .ok facts →
        ((∀ text ∈ factsTexts facts, isUnstorable text = false) ↔ FactsClean bytes commit readme)) ∧
    (∀ (windowEnd : Int) (listing : List ListedRepo)
      (answers : ListedRepo → RepoActivity) (activity : GithubActivity),
      (∀ listed ∈ listing, RepoAnswered listed (answers listed)) →
        githubActivity dateParse windowEnd listing answers = some activity →
          ((∀ text ∈ activityTexts activity, isUnstorable text = false) ↔
            ∀ listed ∈ capturedRepos dateParse (windowEnd - 24 * 3600000) listing,
              RepoClean (answers listed))) ∧
    ∀ analysis : MissionAnalysis, isUnstorable analysis.summary.text = false →
      (isUnstorable (missionSummary analysis) = false ↔
        cutsPair 500 (js "Accepted: " ++ analysis.summary.text) = false) := by
  refine ⟨?_, ?_, ?_⟩
  · intro slug repo commit tree readme facts answered read
    exact facts_storable_iff answered read
  · intro windowEnd listing answers activity answered read
    exact activity_storable_iff answered read
  · intro analysis answered
    exact missionSummary_storable_iff answered

/-! ### A message with a rocket at its cut -/

def noBytes : Bytes := ⟨fun _ => [], fun _ => .ofDigits []⟩

def groundSlug : RepoSlug := ⟨js "orbit/ground", by decide +kernel⟩

def groundDate : TimestampText := ⟨js "2026-03-09T07:41:12Z", by decide +kernel⟩

def groundRepo : RepoResponse where
  fullName := groundSlug.val
  isPrivate := false
  defaultBranch := ⟨js "ground", by decide⟩
  language := none
  size := ⟨4417, by decide, by decide⟩
  pushedAt := none
  openIssuesCount := ⟨17, by decide, by decide⟩

/-- A commit whose message is 299 letters and one character outside the first plane. -/
def rocketCommit : CommitResponse where
  sha := ⟨List.replicate 40 51, by decide⟩
  committerDate := groundDate.val
  message := List.replicate 299 97 ++ [0xD83D, 0xDE80]

/-- Every text of the answers can be stored, and the cut of the message parts its last character. -/
theorem rocketCommit_evaluated :
    ((groundRepo.texts ++ rocketCommit.texts).all fun text => !isUnstorable text) = true ∧
      cutsPair 300 (firstLine rocketCommit.message) = true := by
  decide +kernel

theorem rocketCommit_answered : FactsAnswered groundRepo rocketCommit ⟨false, []⟩ none := by
  have all : ∀ text ∈ groundRepo.texts ++ rocketCommit.texts, isUnstorable text = false := by
    intro text member
    have stored := List.all_eq_true.mp rocketCommit_evaluated.1 text member
    rw [Bool.not_eq_true'] at stored
    exact stored
  exact ⟨fun text member => all text (List.mem_append_left _ member),
    fun text member => all text (List.mem_append_right _ member), fun _ member => (by cases member),
    fun _ member => (by cases member)⟩

theorem rocketCommit_read : ∃ facts,
    githubFacts Platform.ascii noBytes groundSlug groundRepo rocketCommit ⟨false, []⟩ none = .ok facts := by
  have built : ∃ facts, buildFacts noBytes groundRepo rocketCommit ⟨false, []⟩ none = some facts := by
    simp only [buildFacts, groundRepo, rocketCommit, Matching.parse_val, Option.bind_eq_bind, Option.bind_some,
      Option.mapM_none, Option.pure_def, Option.some.injEq, exists_eq']
  obtain ⟨facts, built⟩ := built
  refine ⟨facts, ?_⟩
  rw [githubFacts, if_neg (fun renamed => renamed rfl), built]
  rfl

/-- A captured text need not be one that can be stored. -/
theorem captured_unstorable : ¬
    ((∀ (platform : Platform) (bytes : Bytes) (slug : RepoSlug) (repo : RepoResponse) (commit : CommitResponse)
      (tree : TreeResponse) (readme : Option ReadmeResponse) (facts : GithubFacts),
      FactsAnswered repo commit tree readme →
        githubFacts platform bytes slug repo commit tree readme = .ok facts →
        ∀ text ∈ factsTexts facts, isUnstorable text = false) ∧
    (∀ (dateParse : JsString → Option Int) (windowEnd : Int) (listing : List ListedRepo)
      (answers : ListedRepo → RepoActivity) (activity : GithubActivity),
      (∀ listed ∈ listing, RepoAnswered listed (answers listed)) →
        githubActivity dateParse windowEnd listing answers = some activity →
          ∀ text ∈ activityTexts activity, isUnstorable text = false) ∧
    ∀ analysis : MissionAnalysis, isUnstorable analysis.summary.text = false →
      isUnstorable (missionSummary analysis) = false) := by
  rintro ⟨claimed, -⟩
  obtain ⟨facts, read⟩ := rocketCommit_read
  have stored := claimed _ _ _ _ _ _ _ _ rocketCommit_answered read
  have clean := (facts_storable_iff rocketCommit_answered read).mp stored
  have parted := rocketCommit_evaluated.2
  rw [clean.message] at parted
  cases parted

end KernelJson.Runtimes.GithubEvidence
