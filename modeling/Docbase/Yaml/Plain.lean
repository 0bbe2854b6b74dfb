import Docbase.Number.Decimal
import Docbase.Text.Class
import Docbase.Text.Table
import Docbase.Value.Moment
import Docbase.Yaml.Cursor

/-!
# What scalars stand for

The kind of value that the text of a plain scalar decides on, and the value that a text writes as
one of a kind. A text may decide on a kind and still write no value of it.
-/

namespace Docbase.Yaml

/-- The kinds of scalars. -/
inductive ScalarKind where
  /-- The absence of a value. -/
  | null
  /-- A truth value. -/
  | bool
  /-- A whole number. -/
  | int
  /-- A double. -/
  | float
  /-- Bytes. -/
  | binary
  /-- A day or a moment. -/
  | timestamp
  /-- A text. -/
  | text
  /-- The key whose value is merged into a mapping. -/
  | merge
  /-- The key of the value that a mapping stands for. -/
  | value
  deriving DecidableEq, Repr

namespace ScalarKind

/-- What the tags of the language begin with. -/
def tagStart : String := "tag:yaml.org,2002:"

/-- The kind of a tag. -/
def ofTag? (tag : String) : Option ScalarKind :=
  let named := [("null", null), ("bool", bool), ("int", int), ("float", float),
    ("binary", binary), ("timestamp", timestamp), ("str", text), ("merge", merge),
    ("value", value)]
  (named.find? fun entry => tag = tagStart ++ entry.1).map (·.2)

end ScalarKind

/-- Whether a character is a digit to a base, or an underscore. -/
def isDigitOrBar (base : Nat) (c : Char) : Bool :=
  c == '_' || (Text.isHexDigit c && decide (Text.hexDigit c < base))

/-- The words for truth values, in small letters. -/
def truthWords : List (String × Bool) :=
  [("yes", true), ("no", false), ("true", true), ("false", false), ("on", true), ("off", false)]

/-- Whether a word is written in small letters, in capitals, or with a capital first. -/
def isWordCase (word : List Char) : Bool :=
  let tail := word.drop 1
  tail.all Char.isLower || (word.all Char.isUpper && tail.all Char.isUpper)

/-- Whether a text is a word for a truth value. -/
def looksBool (text : List Char) : Bool :=
  isWordCase text && (truthWords.lookup (String.ofList (text.map Char.toLower))).isSome

/-- Whether a text is a word for null, or empty. -/
def looksNull (text : List Char) : Bool :=
  text == [] || text == ['~'] || (isWordCase text && text.map Char.toLower == "null".toList)

/-- A text without a sign at its front. -/
def unsigned (text : List Char) : List Char :=
  if startsWith (fun c => c == '+' || c == '-') text then text.drop 1 else text

/-- Whether a text is a part of a number to base sixty: one digit, or two below sixty. -/
def isSixtieth : List Char → Bool
  | [a] => a.isDigit
  | [a, b] => '0' ≤ a && a ≤ '5' && b.isDigit
  | _ => false

/-- Whether a text begins with a digit and goes on with digits and underscores. -/
def isDigits (text : List Char) : Bool :=
  startsWith Char.isDigit text && text.all (isDigitOrBar 10)

/-- Whether a text looks like a whole number: to base two, eight, ten, sixteen or sixty. -/
def looksInt (text : List Char) : Bool :=
  let body := unsigned text
  match body with
  | '0' :: 'b' :: rest => !rest.isEmpty && rest.all (isDigitOrBar 2)
  | '0' :: 'x' :: rest => !rest.isEmpty && rest.all (isDigitOrBar 16)
  | '0' :: rest => rest.all (isDigitOrBar 8)
  | _ =>
    match body.splitOn ':' with
    | first :: parts => isDigits first && parts.all isSixtieth
    | [] => false

/-- Whether a text is empty or an exponent with a sign. -/
def isExponent : List Char → Bool
  | [] => true
  | e :: sign :: digits =>
    (e == 'e' || e == 'E') && (sign == '+' || sign == '-') && !digits.isEmpty
      && digits.all Char.isDigit
  | _ => false

/-- Whether a text looks like a fraction, with an exponent or not. -/
def isFraction (text : List Char) : Bool :=
  isExponent (text.dropWhile (isDigitOrBar 10))

/-- Whether a text looks like a double: with a point, to base ten or sixty, or one of the words. -/
def looksFloat (text : List Char) : Bool :=
  let body := unsigned text
  let (whole, rest) := body.span (· != '.')
  match rest with
  | _ :: fraction =>
    if whole.isEmpty then
      (body == text && startsWith Char.isDigit fraction && isFraction fraction)
        || ["inf", "Inf", "INF"].any (fun word => fraction == word.toList)
        || (body == text && ["nan", "NaN", "NAN"].any fun word => fraction == word.toList)
    else
      match whole.splitOn ':' with
      | [digits] => isDigits digits && isFraction fraction
      | digits :: parts =>
        isDigits digits && parts.all isSixtieth && fraction.all (isDigitOrBar 10)
      | [] => false
  | [] => false

/-- The number that one or two digits at the front of a text write, at least so many, and what
follows them. -/
def takeNumber (least : Nat) (text : List Char) : Option (Nat × List Char) :=
  let digits := (text.take 2).takeWhile Char.isDigit
  if digits.length < least then none
  else some (Double.readDigits digits, text.drop digits.length)

/-- What follows a given character at the front of a text. -/
def after? (mark : Char) : List Char → Option (List Char)
  | c :: rest => if c == mark then some rest else none
  | [] => none

/-- The microseconds that a fraction of a second at the front of a text writes. -/
def takeMicros (text : List Char) : Nat × List Char :=
  match text with
  | '.' :: rest =>
    let digits := rest.takeWhile Char.isDigit
    let kept := digits.take 6
    let micros := Double.readDigits (kept ++ List.replicate (6 - kept.length) '0')
    (if digits.isEmpty then 0 else micros, rest.drop digits.length)
  | _ => (0, text)

/-- The offset in minutes that a whole text writes. -/
def readOffset? (text : List Char) : Option (Option Int) :=
  match text.dropWhile isSpace with
  | [] => if text.isEmpty then some none else none
  | ['Z'] => some (some 0)
  | sign :: rest =>
    if sign == '+' || sign == '-' then do
      let (hours, rest) ← takeNumber 1 rest
      let minutes ← match rest with
        | [] => some 0
        | ':' :: rest => do
          let (minutes, rest) ← takeNumber 2 rest
          if rest.isEmpty then some minutes else none
        | _ => none
      let offset : Int := hours * 60 + minutes
      return some (if sign == '-' then -offset else offset)
    else none

/-- A day as written, and the time of day and offset that follow it, if any. -/
structure Written where
  /-- The year. -/
  year : Nat
  /-- The month. -/
  month : Nat
  /-- The day of the month. -/
  day : Nat
  /-- The time of day with the offset. -/
  time : Option (DayTime × Option Int)

/-- Reads a day or a moment as written. A day alone has to have two digits for month and day when
`strict`. -/
def readWritten? (strict : Bool) (text : List Char) : Option Written := do
  let digits := text.take 4
  if digits.length < 4 ∨ !digits.all Char.isDigit then none
  let year := Double.readDigits digits
  let fromMonth ← after? '-' (text.drop 4)
  let (month, rest) ← takeNumber 1 fromMonth
  let fromDay ← after? '-' rest
  let (day, rest) ← takeNumber 1 fromDay
  match rest with
  | [] => if strict ∧ text.length ≠ 10 then none else return ⟨year, month, day, none⟩
  | c :: _ =>
    let fromHour := if c == 'T' || c == 't' then rest.drop 1 else rest.dropWhile isSpace
    if fromHour.length = rest.length then none
    let (hour, rest) ← takeNumber 1 fromHour
    let (minute, rest) ← takeNumber 2 (← after? ':' rest)
    let (second, rest) ← takeNumber 2 (← after? ':' rest)
    let (micros, rest) := takeMicros rest
    let offset ← readOffset? rest
    return ⟨year, month, day, some ({ hour, minute, second, micros }, offset)⟩

/-- The kind that the text of a plain scalar decides on. -/
def ScalarKind.ofText (text : String) : ScalarKind :=
  let chars := text.toList
  if looksBool chars then .bool
  else if looksFloat chars then .float
  else if looksInt chars then .int
  else if text = "<<" then .merge
  else if looksNull chars then .null
  else if (readWritten? true chars).isSome then .timestamp
  else if text = "=" then .value
  else .text

/-- The number that digits write to a base; there has to be one. -/
def numberTo (base : Nat) (digits : List Char) : Reading Int :=
  if digits.isEmpty || !digits.all (fun c => c != '_' && isDigitOrBar base c) then .error .badValue
  else .ok (digits.foldl (fun n c => base * n + Text.hexDigit c) 0 : Nat)

/-- The whole number that a text writes. -/
def readInt (text : String) : Reading Int := do
  let chars := text.toList.filter (· != '_')
  let body := unsigned chars
  let magnitude ← match body with
    | [] => .error .noDigits
    | ['0'] => .ok 0
    | '0' :: 'b' :: digits => numberTo 2 digits
    | '0' :: 'x' :: digits => numberTo 16 digits
    | '0' :: digits => numberTo 8 digits
    | _ => (body.splitOn ':').foldlM (fun n part => do return n * 60 + (← numberTo 10 part)) 0
  return if startsWith (· == '-') chars then -magnitude else magnitude

/-- The double that a text without its sign writes. -/
def readMagnitude (text : List Char) : Reading Double :=
  match Double.ofText? (Text.trim text) with
  | some x => .ok x
  | none => .error .badValue

/-- The sum of the parts of a number to base sixty, from the last one on. -/
def sumSixtieths (parts : List Double) : Double :=
  (parts.foldl (fun (sum, base) part =>
    (sum.add (part.mul ((Double.ofInt? base).getD .nan)), base * 60))
    (Double.finite false 0, (1 : Int))).1

/-- The double that a text writes. -/
def readFloat (text : String) : Reading Double := do
  let chars := (text.toList.filter (· != '_')).map Char.toLower
  let sign := Double.finite (startsWith (· == '-') chars) Double.one
  match unsigned chars with
  | [] => .error .noDigits
  | body =>
    if body == ".inf".toList then return sign.mul (.infinite false)
    else if body == ".nan".toList then return .nan
    else
      match body.splitOn ':' with
      | [_] => return sign.mul (← readMagnitude body)
      | parts => return sign.mul (sumSixtieths (← parts.mapM readMagnitude).reverse)

/-- The leaf of a day or a moment that a text writes. -/
def readTimestamp (text : String) : Reading Leaf :=
  match readWritten? false text.toList with
  | none => .error .noMoment
  | some written =>
    let leaf := match written.time with
      | none => Leaf.day? written.year written.month written.day
      | some (time, offset) =>
        Leaf.moment? written.year written.month written.day time offset
    match leaf with
    | some leaf => .ok leaf
    | none => .error .badValue

/-- The value that a text writes as one of a kind. -/
def ScalarKind.read (kind : ScalarKind) (text : String) : Reading Value :=
  match kind with
  | null => .ok .null
  | bool =>
    match truthWords.lookup (String.ofList (text.toList.map Char.toLower)) with
    | some b => .ok (.bool b)
    | none => .error .noWord
  | int => Value.int <$> readInt text
  | float => Value.double <$> readFloat text
  | binary => .ok (.leaf ⟨"bytes", text, text⟩)
  | timestamp => Value.leaf <$> readTimestamp text
  | ScalarKind.text => .ok (.text text)
  | merge => refuse
  | value => refuse

end Docbase.Yaml
