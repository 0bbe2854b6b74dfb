import Docbase.Document
import Docbase.Number.Places

/-!
# Message templates

A template is a text with places for values. A place begins with a percent sign, may name the
value that belongs there, and says how the value is written. Without names the values are taken in
order, and none may be left over. Two percent signs write one.
-/

namespace Docbase.Template

/-- How a value is laid out. -/
structure Form where
  /-- Blanks come after the value. -/
  atLeft : Bool := false
  /-- Positive numbers have a plus sign. -/
  signed : Bool := false
  /-- Positive numbers have a blank for a sign. -/
  blank : Bool := false
  /-- Numbers show their base, or their point. -/
  full : Bool := false
  /-- Numbers have zeros in front. -/
  zeros : Bool := false
  /-- The least number of characters. -/
  width : Nat := 0
  /-- The number of places, the least number of digits, or the most characters. -/
  precision : Option Nat := none

namespace Form

/-- The form with the setting of a character, if it is one. -/
def set? (form : Form) : Char → Option Form
  | '-' => some { form with atLeft := true }
  | '+' => some { form with signed := true }
  | ' ' => some { form with blank := true }
  | '#' => some { form with full := true }
  | '0' => some { form with zeros := true }
  | _ => none

/-- The settings at the front of a text, and what follows them. -/
def readSettings (form : Form) : List Char → Form × List Char
  | [] => (form, [])
  | c :: rest =>
    match form.set? c with
    | some form => readSettings form rest
    | none => (form, c :: rest)

/-- A text with blanks up to the width. -/
def pad (form : Form) (text : List Char) : List Char :=
  let blanks := List.replicate (form.width - text.length) ' '
  if form.atLeft then text ++ blanks else blanks ++ text

/-- A text, cut off at the precision. -/
def layText (form : Form) (text : String) : List Char :=
  form.pad (match form.precision with
    | some size => text.toList.take size
    | none => text.toList)

/-- The sign of a number. -/
def sign (form : Form) (negative : Bool) : List Char :=
  if negative then ['-']
  else if form.signed then ['+']
  else if form.blank then [' ']
  else []

/-- A number, given what comes before its digits. -/
def layNumber (form : Form) (front digits : List Char) : List Char :=
  let size := front.length + digits.length
  if form.zeros && !form.atLeft then
    front ++ List.replicate (form.width - size) '0' ++ digits
  else form.pad (front ++ digits)

/-- A whole number to a base, with the letter that stands for the base. -/
def layInt (form : Form) (base : Nat) (letter : Option Char) (n : Int) : List Char :=
  let digits := Double.leadingZeros (form.precision.getD 0) (Nat.toDigits base n.natAbs)
  let mark := match letter with
    | some letter => if form.full then ['0', letter] else []
    | none => []
  form.layNumber (form.sign (decide (n < 0)) ++ mark) digits

/-- A double, whose magnitude is written by a function of whether to be full and the precision. -/
def layDouble (form : Form) (write : Bool → Nat → Nat → List Char) (x : Double) : List Char :=
  match x with
  | .nan => form.layNumber (form.sign false) "nan".toList
  | .infinite negative => form.layNumber (form.sign negative) "inf".toList
  | .finite negative quanta =>
    form.layNumber (form.sign negative) (write form.full (form.precision.getD 6) quanta)

end Form

/-- The whole number that a value counts as; doubles are cut off. -/
def wholeOf : Value → Except Fault Int
  | .double .nan => .error .badValue
  | .double (.infinite _) => .error .tooLarge
  | .double (.finite negative quanta) => .ok (Double.signed negative (quanta / Double.one))
  | value =>
    match value.asInt? with
    | some n => .ok n
    | none => .error .wrongType

/-- The whole number that a value is. -/
def exactOf (value : Value) : Except Fault Int :=
  match value.asInt? with
  | some n => .ok n
  | none => .error .wrongType

/-- The double that a value counts as. -/
def doubleOf : Value → Except Fault Double
  | .double x => .ok x
  | value =>
    match value.asInt?.map Double.ofInt? with
    | some (some x) => .ok x
    | some none => .error .tooLarge
    | none => .error .wrongType

/-- The character that a value stands for, as a text. -/
def charOf (value : Value) : Except Fault String :=
  match value, value.asInt? with
  | .text s, _ => if s.length = 1 then .ok s else .error .wrongType
  | _, some n =>
    if 0 ≤ n ∧ n < 0x110000 then .ok (String.ofList [Char.ofNat n.toNat]) else .error .tooLarge
  | _, none => .error .wrongType

/-- A quoted value with the characters beyond ASCII written by their codes. -/
def asciiQuoted (value : Value) : String :=
  String.ofList <| value.quoted.toList.flatMap fun c =>
    if c.toNat < 0x80 then [c]
    else if c.toNat < 0x100 then '\\' :: 'x' :: Text.hexPadded 2 c.toNat
    else if c.toNat < 0x10000 then '\\' :: 'u' :: Text.hexPadded 4 c.toNat
    else '\\' :: 'U' :: Text.hexPadded 8 c.toNat

/-- Writes a value in the way that a letter says. -/
def write (form : Form) (letter : Char) (value : Value) : Except Fault (List Char) :=
  let capitals := fun text : List Char => text.map Char.toUpper
  match letter with
  | 's' => .ok (form.layText value.shown)
  | 'r' => .ok (form.layText value.quoted)
  | 'a' => .ok (form.layText (asciiQuoted value))
  | 'c' => do return form.pad (← charOf value).toList
  | 'd' => form.layInt 10 none <$> wholeOf value
  | 'i' => form.layInt 10 none <$> wholeOf value
  | 'u' => form.layInt 10 none <$> wholeOf value
  | 'o' => form.layInt 8 (some 'o') <$> exactOf value
  | 'x' => form.layInt 16 (some 'x') <$> exactOf value
  | 'X' => (capitals ∘ form.layInt 16 (some 'x')) <$> exactOf value
  | 'f' => form.layDouble Double.fixedText <$> doubleOf value
  | 'F' => (capitals ∘ form.layDouble Double.fixedText) <$> doubleOf value
  | 'e' => form.layDouble Double.scientificText <$> doubleOf value
  | 'E' => (capitals ∘ form.layDouble Double.scientificText) <$> doubleOf value
  | 'g' => form.layDouble Double.generalText <$> doubleOf value
  | 'G' => (capitals ∘ form.layDouble Double.generalText) <$> doubleOf value
  | _ => .error .badValue

/-- The values for the places of a template. -/
structure Supply where
  /-- The values to be taken in order. -/
  rest : List Value
  /-- The values by name, if they have names. -/
  named : Option Document := none

namespace Supply

/-- The next value. -/
def next (supply : Supply) : Except Fault (Value × Supply) :=
  match supply.rest with
  | value :: rest => .ok (value, { supply with rest })
  | [] => .error .wrongType

/-- The characters of a name up to the closing bracket that belongs to the opening one, and what
follows it; `depth` brackets are open within. -/
def readName (depth : Nat) : List Char → Except Fault (List Char × List Char)
  | [] => .error .badValue
  | c :: rest =>
    if c == ')' && depth == 0 then .ok ([], rest)
    else do
      let depth := if c == '(' then depth + 1 else if c == ')' then depth - 1 else depth
      let (name, rest) ← readName depth rest
      return (c :: name, rest)

/-- Makes a named value the next one, if a name comes first in a text. -/
def choose (supply : Supply) (text : List Char) : Except Fault (Supply × List Char) :=
  match text with
  | '(' :: rest =>
    match supply.named with
    | none => .error .wrongType
    | some fields => do
      let (name, rest) ← readName 0 rest
      match Keyed.get? fields (String.ofList name) with
      | some value => return ({ supply with rest := [value] }, rest)
      | none => throw .missingKey
  | _ => .ok (supply, text)

/-- Reads a number below a limit, or takes the next value for it where a star stands. -/
def readNumber (supply : Supply) (limit : Nat) (text : List Char) :
    Except Fault (Int × Supply × List Char) :=
  match text with
  | '*' :: rest => do
    let (value, supply) ← supply.next
    let n ← exactOf value
    if n < -limit ∨ limit ≤ n then throw .tooLarge
    return (n, supply, rest)
  | _ =>
    let n := Double.readDigits (text.takeWhile Char.isDigit)
    if limit ≤ n then .error .badValue else .ok (n, supply, text.dropWhile Char.isDigit)

end Supply

/-- What the least number of characters has to stay below. -/
def widthLimit : Nat := Nat.pow 2 63

/-- What the precision has to stay below. -/
def precisionLimit : Nat := Nat.pow 2 31

/-- Fills a place that holds a value, given what follows the percent sign: what is written, the
values that are left, and the text after the place. -/
def fillPlace (supply : Supply) (text : List Char) :
    Except Fault (List Char × Supply × List Char) := do
  let (supply, text) ← supply.choose text
  let (form, text) := Form.readSettings {} text
  let (width, supply, text) ← supply.readNumber widthLimit text
  let form := { form with atLeft := form.atLeft || decide (width < 0), width := width.natAbs }
  let (form, supply, text) ← match text with
    | '.' :: rest => do
      let (size, supply, text) ← supply.readNumber precisionLimit rest
      pure ({ form with precision := some size.toNat }, supply, text)
    | _ => pure (form, supply, text)
  let text := match text with
    | c :: rest => if c == 'h' || c == 'l' || c == 'L' then rest else c :: rest
    | [] => []
  match text with
  | [] => throw .badValue
  | letter :: rest =>
    let (value, supply) ← supply.next
    return (← write form letter value, supply, rest)

/-- Fills the places of a text, of which there are at most so many. -/
def fillAll : Nat → Supply → List Char → Except Fault (List Char)
  | 0, _, text => .ok text
  | bound + 1, supply, text =>
    let plain := text.takeWhile (· != '%')
    match text.dropWhile (· != '%') with
    | [] =>
      if supply.rest.isEmpty || supply.named.isSome then .ok plain else .error .wrongType
    | _ :: '%' :: rest => do return plain ++ '%' :: (← fillAll bound supply rest)
    | _ :: rest => do
      let (written, supply, rest) ← fillPlace supply rest
      return plain ++ written ++ (← fillAll bound supply rest)

/-- Fills the places of a template. Without values it is left as it is; a single object gives the
values by their names. -/
def fill (template : String) (values : List Value) : Except Fault String :=
  match values with
  | [] => .ok template
  | [.object (field :: fields)] =>
    let all := field :: fields
    String.ofList <$> fillAll (template.length + 1) ⟨[.object all], some all⟩ template.toList
  | values => String.ofList <$> fillAll (template.length + 1) { rest := values } template.toList

end Docbase.Template
