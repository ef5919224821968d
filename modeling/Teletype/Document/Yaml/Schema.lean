import Teletype.Document.Fault
import Teletype.Pattern
import Teletype.Text.Base64
import Teletype.Text.Case
import Teletype.Value

/-!
# Kinds of scalars

The tag of a node says what kind of value it stands for. A scalar that is written plainly, or whose
tag is left open, has the kind that its text looks like: a truth value, a number in one of several
notations, a point in time, or nothing at all; every other text stands for itself. `Tag.ofPlain` is
that rule, and the readers below give the value of a scalar of each kind. A reader accepts more
texts than look like its kind, since a tag can give a scalar any kind.
-/

namespace Teletype

namespace Yaml

/-- The kinds of nodes. -/
inductive Tag where
  | null
  | bool
  | int
  | float
  | binary
  | timestamp
  | omap
  | pairs
  | set
  | str
  | seq
  | map
  /-- The key under which the entries of another mapping are taken over. -/
  | merge
  /-- The key of the value that a mapping stands for. -/
  | value
  /-- A kind that no value is made of. -/
  | other
deriving DecidableEq, Repr

namespace Tag

/-- What the tags of all known kinds begin with. -/
def family : Text := "tag:yaml.org,2002:".toList

/-- The kinds by their names. -/
def names : List (Text × Tag) :=
  [("null".toList, null), ("bool".toList, bool), ("int".toList, int), ("float".toList, float),
    ("binary".toList, binary), ("timestamp".toList, timestamp), ("omap".toList, omap),
    ("pairs".toList, pairs), ("set".toList, set), ("str".toList, str), ("seq".toList, seq),
    ("map".toList, map), ("merge".toList, merge), ("value".toList, value)]

/-- The kind that a tag names. -/
def ofText (t : Text) : Tag :=
  match family.isPrefixOf? t with
  | some name => (names.lookup name).getD other
  | none => other

end Tag

/-! ## What a plain scalar looks like -/

/-- A text without the sign at its front. -/
def unsigned (t : Text) : Text := (Literal.takeSign t).2

/-- A digit or an underscore. -/
def isDigitOrBar (c : Char) : Bool := Text.isAsciiDigit c || c == '_'

/-- A digit from one to nine. -/
def isPositiveDigit (c : Char) : Bool := Text.isAsciiDigit c && c != '0'

/-- Digits and underscores behind a first digit. -/
def looksDecimal : Text → Bool
  | [] => false
  | c :: r => Text.isAsciiDigit c && r.all isDigitOrBar

/-- A number of minutes or seconds: one digit, or two below sixty. -/
def looksSixtieth : Text → Bool
  | [a] => Text.isAsciiDigit a
  | [a, b] => decide ('0' ≤ a ∧ a ≤ '5') && Text.isAsciiDigit b
  | _ => false

/-- A whole number in base two, eight, ten, sixteen or sixty. -/
def looksInt (t : Text) : Bool :=
  let body := unsigned t
  let inBase (digits : Text) (p : Char → Bool) : Bool := !digits.isEmpty && digits.all p
  match body with
  | ['0'] => true
  | '0' :: 'b' :: r => inBase r fun c => c == '0' || c == '1' || c == '_'
  | '0' :: 'x' :: r => inBase r fun c => (Literal.digit? 16 c).isSome && c.toNat < 0x80 || c == '_'
  | '0' :: r => inBase r fun c => decide ('0' ≤ c ∧ c ≤ '7') || c == '_'
  | c :: _ =>
    match body.splitOn ':' with
    | [] => false
    | first :: rest => isPositiveDigit c && looksDecimal first && rest.all looksSixtieth
  | [] => false

/-- A power of ten with its sign, or nothing. -/
def looksPower : Text → Bool
  | [] => true
  | e :: sign :: r =>
    (e == 'e' || e == 'E') && (sign == '-' || sign == '+') && !r.isEmpty && r.all Text.isAsciiDigit
  | _ => false

/-- A number with a point, also in base sixty, or one of the names of those without digits. -/
def looksFloat (t : Text) : Bool :=
  let body := unsigned t
  let whole := body.takeWhile (· != '.')
  match body.dropWhile (· != '.') with
  | '.' :: r =>
    let fraction := r.takeWhile isDigitOrBar
    let rest := r.dropWhile isDigitOrBar
    if whole.isEmpty then
      ["inf".toList, "Inf".toList, "INF".toList].contains r ||
        (body == t && (["nan".toList, "NaN".toList, "NAN".toList].contains r ||
          (looksDecimal fraction && looksPower rest)))
    else
      (looksDecimal whole && looksPower rest) ||
        (match whole.splitOn ':' with
          | first :: second :: more =>
            looksDecimal first && (second :: more).all looksSixtieth && rest.isEmpty
          | _ => false)
  | _ => false

/-! The parts of a point in time, as patterns. -/

/-- A digit. -/
def digitPattern : Pattern := Pattern.one Text.isAsciiDigit

/-- Two digits. -/
def twoDigits : Pattern := Pattern.row [digitPattern, digitPattern]

/-- One or two digits. -/
def oneOrTwoDigits : Pattern := Pattern.row [digitPattern, Pattern.optional digitPattern]

/-- A year, a month and a day, of which the last two are written with some digits. -/
def dayPattern (digits : Pattern) : Pattern :=
  Pattern.row [twoDigits, twoDigits, Pattern.char '-', digits, Pattern.char '-', digits]

/-- A time of day behind its day, with a fraction of a second and a zone. -/
def timePattern : Pattern :=
  let isSpace (c : Char) : Bool := c == ' ' || c == '\t'
  let zone := Pattern.row [Pattern.one fun c => c == '-' || c == '+', oneOrTwoDigits,
    Pattern.optional (Pattern.row [Pattern.char ':', twoDigits])]
  Pattern.row [
    Pattern.oneOf [Pattern.one fun c => c == 'T' || c == 't', Pattern.atLeastOne isSpace],
    oneOrTwoDigits, Pattern.char ':', twoDigits, Pattern.char ':', twoDigits,
    Pattern.optional (Pattern.row [Pattern.char '.', Pattern.many Text.isAsciiDigit]),
    Pattern.optional (Pattern.row [Pattern.many isSpace, Pattern.oneOf [Pattern.char 'Z', zone]])]

/-- A day in full digits, or a point in time with hours, minutes, seconds and a zone. -/
def looksTimestamp (t : Text) : Bool :=
  (Pattern.oneOf [dayPattern twoDigits,
    Pattern.row [dayPattern oneOrTwoDigits, timePattern]]).describes t

/-- The words for truth values. -/
def truthWords : List (Text × Bool) :=
  [("yes".toList, true), ("no".toList, false), ("true".toList, true), ("false".toList, false),
    ("on".toList, true), ("off".toList, false)]

/-- A truth value in one of three cases: small, capitalised, or capital. -/
def looksBool (t : Text) : Bool :=
  truthWords.any fun (w, _) =>
    t == w || t == w.map Char.toUpper || t == (w.take 1).map Char.toUpper ++ w.drop 1

/-- Nothing at all, or a word for it. -/
def looksNull (t : Text) : Bool :=
  [[], ['~'], "null".toList, "Null".toList, "NULL".toList].contains t

/-- A text without the line feed at its end, if it has one and holds anything else. -/
def dropLineFeed (t : Text) : Text :=
  if t.getLast? = some '\n' ∧ t ≠ ['\n'] then t.dropLast else t

/-- The kind that a text looks like; a line feed at its end makes no difference. The signs of the
notation itself look like a kind that no value is made of. -/
def Tag.ofPlain (t : Text) : Tag :=
  let t := dropLineFeed t
  if looksBool t then bool
  else if looksFloat t then float
  else if looksInt t then int
  else if t = ['<', '<'] then merge
  else if looksNull t then null
  else if looksTimestamp t then timestamp
  else if t = ['='] then value
  else if t = ['!'] ∨ t = ['&'] ∨ t = ['*'] then other
  else str

/-! ## The values of scalars -/

/-- A text without underscores. -/
def dropBars (t : Text) : Text := t.filter (· != '_')

/-- A whole number in a base, behind the sign that stood in front of it. -/
def intIn (base : Nat) (negative : Bool) (t : Text) : Except DocumentFault Int :=
  match Literal.intIn base t with
  | .ok n => .ok (if negative then -n else n)
  | .error .malformed => .error (.notInteger base t)
  | .error (.overlong e) => .error (.overlong e)

/-- A whole number. Numbers between colons are digits in base sixty. -/
def intValue (t : Text) : Except DocumentFault Int :=
  let (negative, body) := Literal.takeSign (dropBars t)
  match body with
  | [] => .error .noNumeral
  | ['0'] => .ok 0
  | '0' :: 'b' :: r => intIn 2 negative r
  | '0' :: 'x' :: r => intIn 16 negative r
  | '0' :: _ => intIn 8 negative body
  | _ =>
    if body.contains ':' then do
      let digits ← (body.splitOn ':').mapM (intIn 10 false)
      let n := digits.foldl (fun n d => 60 * n + d) 0
      return if negative then -n else n
    else intIn 10 negative body

/-- A number in digits. -/
def floatDigits (t : Text) : Except DocumentFault Float :=
  match Literal.float? t with
  | some x => .ok x
  | none => .error (.notNumber t)

/-- A double. Numbers between colons are digits in base sixty. -/
def floatValue (t : Text) : Except DocumentFault Float :=
  let word := Text.lower (dropBars t)
  let (negative, body) := Literal.takeSign word
  let signed (x : Float) : Float := if negative then -x else x
  if word.isEmpty then .error .noNumeral
  else if body = ".inf".toList then .ok (signed (Double.nearest false (twoTo 1024) 1))
  else if body = ".nan".toList then .ok (0 / 0)
  else if body.contains ':' then do
    let digits ← (body.splitOn ':').mapM floatDigits
    let (sum, _) := digits.reverse.foldl
      (fun ((sum, base) : Float × Nat) d => (sum + d * Double.nearest false base 1, 60 * base))
      (0, 1)
    return signed sum
  else (floatDigits body).map signed

/-- A truth value. -/
def boolValue (t : Text) : Except DocumentFault Bool :=
  let word := Text.lower t
  match truthWords.lookup word with
  | some b => .ok b
  | none => .error (.notTruth word)

/-- The runs of digits in a text. -/
def digitRuns (t : Text) : List Text :=
  (t.splitOnP fun c => !Text.isAsciiDigit c).filter fun ds => !ds.isEmpty

/-- The number that a run of digits stands for. -/
def runValue (ds : Text) : Nat :=
  Numeral.ofDigits (Numeral.digitValues ds)

/-- The microseconds of a fraction of a second, of which no more than six digits count. -/
def microseconds (fraction : Text) : Nat :=
  runValue (fraction.take 6 ++ List.replicate (6 - fraction.length) '0')

/-- The zone behind a time of day: by how many minutes its clock is ahead. -/
def zoneOffset (t : Text) : Option Int :=
  let zone := t.dropWhile fun c => c != '-' && c != '+' && c != 'Z'
  match zone, digitRuns zone with
  | 'Z' :: _, _ => some 0
  | sign :: _, hours :: minutes =>
    let n : Int := (60 * runValue hours + runValue (minutes.headD []) : Nat)
    some (if sign = '-' then -n else n)
  | _, _ => none

/-- The moment of a day whose time is written in a text. -/
def momentOf (day : Day) (time : Text) : Moment :=
  let isClock (c : Char) : Bool := Text.isAsciiDigit c || c == ':' || c == '.'
  let clock := time.takeWhile isClock
  let field (i : Nat) : Nat := runValue ((digitRuns clock).getD i [])
  { day
    hour := field 0
    minute := field 1
    second := field 2
    micro := microseconds ((clock.dropWhile (· != '.')).drop 1)
    offset := zoneOffset (time.dropWhile isClock) }

/-- A day, or a moment where a time of day follows. -/
def timestampValue (t : Text) : Except DocumentFault Value :=
  let text := dropLineFeed t
  let day := dayPattern oneOrTwoDigits
  let lift {α : Type} (r : Except CalendarFault α) : Except DocumentFault α :=
    r.mapError DocumentFault.calendar
  match (text.splitOn '-').take 3 with
  | [year, month, rest] =>
    let d : Day := ⟨runValue year, runValue month, runValue (rest.takeWhile Text.isAsciiDigit)⟩
    if day.describes text then (lift d.check).map .day
    else if (Pattern.row [day, timePattern]).describes text then
      let time := text.drop (year.length + month.length + 2 +
        (rest.takeWhile Text.isAsciiDigit).length)
      (lift (momentOf d (time.dropWhile fun c => !Text.isAsciiDigit c)).check).map .moment
    else .error .notMoment
  | _ => .error .notMoment

/-- Bytes in base sixty-four. -/
def binaryValue (t : Text) : Except DocumentFault Value :=
  if t.all fun c => c.toNat < 0x80 then
    match Base64.decode? t with
    | some bs => .ok (.bytes bs)
    | none => .error .malformed
  else .error .malformed

end Yaml

end Teletype
