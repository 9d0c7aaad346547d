import KernelJson.Foundation.JsMap
import KernelJson.Foundation.TextLines

/-!
# Runtime env files

The tool that sets a few named keys in an env file and checks what changed.  A
file is its text; texts are lists of code points.  The digits of `\d` are those
of every script, so what is a digit is a parameter.
-/

namespace KernelJson.Releases.RuntimeEnv

open Foundation
open Foundation.TextLines

/-! ## Texts -/

/-- Where `splitlines` ends a line. -/
def isBoundary (char : Char) : Bool :=
  [0x0A, 0x0B, 0x0C, 0x0D, 0x1C, 0x1D, 0x1E, 0x85, 0x2028, 0x2029].contains char.toNat

/-- `isspace`. -/
def isSpace (char : Char) : Bool :=
  isBoundary char ||
    [0x09, 0x1F, 0x20, 0xA0, 0x1680, 0x2000, 0x2001, 0x2002, 0x2003, 0x2004, 0x2005, 0x2006, 0x2007,
      0x2008, 0x2009,
      0x200A, 0x202F, 0x205F, 0x3000].contains char.toNat

/-- `text.splitlines(keepends=True)`. -/
def splitlines (text : Text) : List Text :=
  splitLines isBoundary text

/-- `text.strip()`. -/
def strip (text : Text) : Text :=
  (text.dropWhile isSpace).rdropWhile isSpace

/-- `line.rstrip("\r\n")`. -/
def rstripNewline (line : Text) : Text :=
  line.rdropWhile fun char => char == '\r' || char == '\n'

/-- `separator.join(texts)` for one character. -/
def join (separator : Char) (texts : List Text) : Text :=
  [separator].intercalate texts

/-- `filter(None, text.split(","))`. -/
def names (text : Text) : List Text :=
  (text.splitOn ',').filter fun name => !name.isEmpty

/-- The order of `sorted` on texts. -/
def inOrder : Text → Text → Bool
  | [], _ => true
  | _ :: _, [] => false
  | first :: rest, second :: others =>
      if first = second then inOrder rest others else decide (first.toNat < second.toNat)

def sorted (texts : List Text) : List Text :=
  texts.mergeSort inOrder

def byteOrderMark : Char :=
  Char.ofNat 0xFEFF

/-! ## Shapes of values -/

/-- So many characters of a kind. -/
structure Piece where
  accepts : Char → Bool
  least : Nat
  most : Nat

def one (char : Char) : Piece :=
  ⟨(· == char), 1, 1⟩

def literal (text : String) : List Piece :=
  text.toList.map one

/-- The whole text is a sequence of pieces. -/
def isSequence : List Piece → Text → Bool
  | [], text => text.isEmpty
  | piece :: rest, text =>
      (List.range (piece.most + 1)).any fun count =>
        decide (piece.least ≤ count) && decide (count ≤ text.length) && (text.take count).all piece.accepts &&
          isSequence rest (text.drop count)

/-- The alternatives of a pattern between `^` and `$`. -/
abbrev Shape := List (List Piece)

def Shape.fits (shape : Shape) (value : Text) : Bool :=
  shape.any fun pieces => isSequence pieces value

/-- `pattern.match(value)`: `$` is also before a newline at the end. -/
def Shape.matches (shape : Shape) (value : Text) : Bool :=
  shape.fits value || decide (value.getLast? = some '\n') && shape.fits value.dropLast

def isLowerHex (char : Char) : Bool :=
  char.isDigit || decide ('a' ≤ char ∧ char ≤ 'f')

def isAlphanumeric (char : Char) : Bool :=
  char.isDigit || decide ('a' ≤ char ∧ char ≤ 'z') || decide ('A' ≤ char ∧ char ≤ 'Z')

def alphanumericOr (others : String) (char : Char) : Bool :=
  isAlphanumeric char || others.toList.contains char

/-- `^(first|second)$`. -/
def words (texts : List String) : Shape :=
  texts.map literal

def run (accepts : Char → Bool) (least most : Nat) : Shape :=
  [[⟨accepts, least, most⟩]]

def hex40 : Shape :=
  run isLowerHex 40 40

def uuid : Shape :=
  [[⟨isLowerHex, 8, 8⟩, one '-', ⟨isLowerHex, 4, 4⟩, one '-', ⟨isLowerHex, 4, 4⟩, one '-',
    ⟨isLowerHex, 4, 4⟩, one '-',
    ⟨isLowerHex, 12, 12⟩]]

/-- `MISSION_MODEL`. -/
def missionModel : Shape :=
  let slug : Piece := ⟨alphanumericOr "._:-", 1, 80⟩
  [literal "anthropic/" ++ [slug], literal "x-ai/" ++ [slug], literal "deepseek/" ++ [slug],
    literal "deepseek-" ++ [slug]]

def dailyCap : Shape :=
  [[⟨fun char => decide ('1' ≤ char ∧ char ≤ '9'), 1, 1⟩, ⟨Char.isDigit, 0, 1⟩], literal "100"]

def urlSafe : Char → Bool :=
  alphanumericOr "_-"

/-- `PUBLIC_KEYS`. -/
def publicKeys : List (String × Shape) :=
  [ ("ALERT_TRANSPORT", words ["console", "telegram"]),
    ("KERNELJSON_RELEASE_ID", hex40),
    ("EXPECTED_RELEASE_ID", hex40),
    ("MISSION_ANALYST_MODEL", missionModel),
    ("MISSION_REVIEWER_MODEL", missionModel),
    ("TELEGRAM_INBOUND_ENABLED", words ["true", "false"]),
    ("TELEGRAM_MISSION_DAILY_CAP", dailyCap),
    ("KJ_APPROVAL_ENABLED", words ["true", "false"]),
    ("KJ_APPROVAL_TTL_SECONDS", run Char.isDigit 2 5),
    ("KJ_ADMISSION_TENANT_ID", uuid),
    ("KJ_ADMISSION_PRINCIPAL_ID", uuid),
    ("KJ_CONTROL_KEY_ID", run (alphanumericOr "._-") 1 16),
    ("KJ_CONTROL_KEY_ID_PREVIOUS", run (alphanumericOr "._-") 1 16),
    ("KJ_CONTROL_FRESHNESS_SECONDS", run Char.isDigit 2 4),
    ("KJ_MEMORY_ENABLED", words ["true", "false"]),
    ("KJ_MEMORY_APPROVER_ID", uuid),
    ("KJ_MEMORY_APPROVAL_TTL_SECONDS", run Char.isDigit 2 6),
    ("KJ_IDENTITY_COGNITION_ENABLED", words ["true", "false"]),
    ("KJ_MCP_PRINCIPAL_ID", uuid),
    ("KJ_MCP_PRINCIPAL_KIND", words ["SERVICE"]) ]

section Tool

variable (isDecimal : Char → Bool)

/-- `SECRET_KEYS`. -/
def secretKeys : List (String × Shape) :=
  [ ("TELEGRAM_BOT_TOKEN", [[⟨isDecimal, 6, 12⟩, one ':', ⟨urlSafe, 35, 35⟩]]),
    ("TELEGRAM_CHAT_ID", [[⟨(· == '-'), 0, 1⟩, ⟨isDecimal, 5, 20⟩]]),
    ("MISSION_OPENROUTER_API_KEY", [literal "sk-or-v1-" ++ [⟨isAlphanumeric, 64, 64⟩]]),
    ("MISSION_DEEPSEEK_API_KEY", [literal "sk-" ++ [⟨isAlphanumeric, 32, 32⟩]]),
    ("KJ_CONTROL_SIGNING_KEY", run urlSafe 43 128),
    ("KJ_CONTROL_SIGNING_KEY_PREVIOUS", run urlSafe 43 128),
    ("KJ_MCP_BEARER", run urlSafe 43 128),
    ("GITHUB_READ_TOKEN",
      [literal "gh" ++ [⟨"pousr".toList.contains, 1, 1⟩, one '_', ⟨isAlphanumeric, 36, 255⟩],
        literal "github_pat_" ++ [⟨alphanumericOr "_", 50, 255⟩]]) ]

/-- `key in KEYS`, with its pattern. -/
def shapeOf (keys : List (String × Shape)) (key : Text) : Option Shape :=
  (keys.find? fun entry => decide (entry.1.toList = key)).map Prod.snd

/-! ## Reading -/

/-- The key and the value of a line that assigns one. -/
def assignment (line : Text) : Option (Text × Text) :=
  let stripped := strip line
  if stripped.isEmpty || stripped.head? == some '#' || !stripped.contains '=' then none
  else some (before '=' (rstripNewline line), after '=' (rstripNewline line))

/-- The values of the lines; a key that comes twice is refused. -/
def collect : List Text → JsMap Text Text → Except Text (JsMap Text Text)
  | [], values => .ok values
  | line :: rest, values =>
      match assignment line with
      | none => collect rest values
      | some (key, value) =>
          if (values.get? key).isSome then .error ("duplicate key in file: ".toList ++ key)
          else collect rest (values.set key value)

def parse (text : Text) : Except Text (List Text × JsMap Text Text) :=
  if text.head? = some byteOrderMark then
    .error "base file starts with a BOM; refusing to guess".toList
  else (collect (splitlines text) .empty).map (Prod.mk (splitlines text))

def keysOf (values : JsMap Text Text) : List Text :=
  values.entries.map Prod.fst

/-! ## Merging -/

/-- The arguments of a merge besides the base file. -/
structure Request where
  requireKeys : Text
  setPublic : List Text
  setFrom : List Text

/-- `--set-public KEY=value`. -/
def setPublicKey (updates : JsMap Text Text) (spec : Text) : Except Text (JsMap Text Text) :=
  let key := before '=' spec
  let value := after '=' spec
  if (shapeOf (secretKeys isDecimal) key).isSome then
    .error (key ++ " is a secret and must come from --set-from <file>, never argv".toList)
  else
    match shapeOf publicKeys key with
    | none => .error ("key not settable by this tool: ".toList ++ key)
    | some shape =>
        if shape.matches value then .ok (updates.set key value)
        else .error ("value for ".toList ++ key ++ " has an unexpected shape".toList)

/-- `read_secret_file`, of the decoded text. -/
def secretOf (text : Text) : Text :=
  strip (if text.head? = some byteOrderMark then text.tail else text)

/-- `--set-from KEY=path`, with the texts of the files or why they could not be read. -/
def setSecretKey (files : Text → Except Text Text) (updates : JsMap Text Text) (spec : Text) :
    Except Text (JsMap Text Text) :=
  let key := before '=' spec
  match shapeOf (secretKeys isDecimal) key with
  | none => .error ("key not settable from a file by this tool: ".toList ++ key)
  | some shape =>
      (files (after '=' spec)).bind fun text =>
        if shape.matches (secretOf text) then .ok (updates.set key (secretOf text))
        else .error ("file for ".toList ++ key ++ " does not hold a value of the expected shape".toList)

/-- What a merge checks before it writes: the lines and the values of the base, and the updates. -/
def accept (files : Text → Except Text Text) (base : Text) (request : Request) :
    Except Text (List Text × JsMap Text Text × JsMap Text Text) := do
  let (lines, values) ← parse base
  match (names request.requireKeys).find? fun key => (values.get? key).isNone with
  | some key => .error ("base file is missing required key: ".toList ++ key)
  | none =>
      if (values.get? "DATABASE_URL".toList).isNone then
        .error "base file has no DATABASE_URL; refusing to treat it as a production env file".toList
      else do
        let settled ← request.setPublic.foldlM (setPublicKey isDecimal) .empty
        let updates ← request.setFrom.foldlM (setSecretKey isDecimal files) settled
        if updates.entries.isEmpty then .error "nothing to set".toList else .ok (lines, values, updates)

/-- The key that the rewriting loop sees in a line. -/
def lineKey (line : Text) : Option Text :=
  let stripped := strip line
  if stripped.isEmpty || stripped.head? == some '#' || !stripped.contains '=' then none
  else some (before '=' line)

/-- The value that a line is given. -/
def updateOf (updates : JsMap Text Text) (line : Text) : Option (Text × Text) :=
  (lineKey line).bind fun key => (updates.get? key).map (Prod.mk key)

def assigned (key value : Text) : Text :=
  key ++ '=' :: value

def rewrite (updates : JsMap Text Text) (line : Text) : Text :=
  match updateOf updates line with
  | none => line
  | some (key, value) =>
      assigned key value ++ (if ['\r', '\n'].isSuffixOf line then ['\r', '\n'] else ['\n'])

/-- A last line that is not ended gets a newline. -/
def finish : List Text → List Text
  | [] => []
  | [line] => [if line.getLast? = some '\n' then line else line ++ ['\n']]
  | line :: rest => line :: finish rest

/-- The lines for the updated keys that no line assigns. -/
def added (lines : List Text) (updates : JsMap Text Text) : List Text :=
  let done := (lines.filterMap (updateOf updates)).map Prod.fst
  (updates.entries.filter fun entry => !done.contains entry.1).map fun entry => assigned entry.1 entry.2 ++ ['\n']

def outLines (lines : List Text) (updates : JsMap Text Text) : List Text :=
  finish (lines.map (rewrite updates)) ++ added lines updates

/-- `cmd_merge`: the text of the new file. -/
def cmdMerge (files : Text → Except Text Text) (base : Text) (request : Request) : Except Text Text := do
  let (lines, values, updates) ← accept isDecimal files base request
  let out := (outLines lines updates).flatten
  let (_, merged) ← parse out
  let lost := (sorted (keysOf values)).filter fun key => (merged.get? key).isNone
  if lost.isEmpty then .ok out else .error ("merge would have dropped keys: ".toList ++ join ',' lost)

end Tool

/-! ## Verifying -/

/-- What is wrong with a key of the base in the new file. -/
def keptProblem (base new : JsMap Text Text) (allowed : List Text) (key : Text) : Option Text :=
  match new.get? key with
  | none => some ("MISSING ".toList ++ key)
  | some value =>
      if base.get? key ≠ some value ∧ key ∉ allowed then some ("CHANGED ".toList ++ key) else none

/-- What is wrong with a key that the base has not. -/
def addedProblem (allowed : List Text) (key : Text) : Option Text :=
  if key ∈ allowed then none else some ("ADDED ".toList ++ key)

def problems (base new : JsMap Text Text) (allowed : List Text) : List Text :=
  (sorted (keysOf base)).filterMap (keptProblem base new allowed) ++
    (sorted ((keysOf new).filter fun key => (base.get? key).isNone)).filterMap (addedProblem allowed)

/-- `cmd_verify`: the problems that are reported. -/
def cmdVerify (base new changed : Text) : Except Text (List Text) := do
  let (_, before) ← parse base
  let (_, after) ← parse new
  .ok (problems before after (names changed))

end KernelJson.Releases.RuntimeEnv
