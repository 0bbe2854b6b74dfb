import Docbase.Text.Case

/-!
# Inflection

English plurals and singulars, by which the names of relations are derived from those of
resources. What is added to a word, or put in place of a part of it, takes on the case of that
part.
-/

namespace Docbase.Inflection

/-- Plurals that follow no rule, under their singulars. -/
def irregulars : List (String × String) :=
  [("person", "people"), ("child", "children"), ("man", "men"), ("woman", "women"),
    ("tooth", "teeth"), ("foot", "feet"), ("mouse", "mice"), ("goose", "geese"), ("ox", "oxen"),
    ("leaf", "leaves"), ("life", "lives"), ("knife", "knives"), ("wife", "wives"),
    ("self", "selves"), ("elf", "elves"), ("loaf", "loaves"), ("potato", "potatoes"),
    ("tomato", "tomatoes"), ("cactus", "cacti"), ("focus", "foci"), ("fungus", "fungi"),
    ("nucleus", "nuclei"), ("syllabus", "syllabi"), ("analysis", "analyses"),
    ("diagnosis", "diagnoses"), ("oasis", "oases"), ("thesis", "theses"), ("crisis", "crises"),
    ("phenomenon", "phenomena"), ("criterion", "criteria"), ("datum", "data")]

/-- Words with one form for both. -/
def uncountables : List String :=
  ["sheep", "fish", "deer", "species", "series", "news", "money", "information", "equipment",
    "rice", "knowledge", "advice", "aircraft", "salmon", "trout", "moose", "bison"]

/-- Words whose final f becomes ves. -/
def fWords : List String :=
  ["leaf", "life", "knife", "wife", "self", "elf", "loaf", "half", "calf", "shelf", "wolf",
    "thief"]

/-- Words in o that take es. -/
def oWords : List String :=
  ["potato", "tomato", "hero", "echo", "torpedo", "veto"]

/-- A word, as its characters. -/
abbrev Word := List Char

/-- The lower case of a word. -/
def lower (word : Word) : Word :=
  Text.lowerFrom [] word

/-- The upper case of a word. -/
def upper (word : Word) : Word :=
  word.flatMap Text.upperChar

/-- A word with the case of a model: all capitals, a capital first, or small letters. An empty
model changes nothing. -/
def withCaseOf (model word : Word) : Word :=
  match model with
  | [] => word
  | first :: _ =>
    if model = upper model ∧ model ≠ lower model then upper word
    else if Text.isUppercase first then upper (word.take 1) ++ lower (word.drop 1)
    else lower word

/-- Whether a word ends in one of some endings. -/
def endsIn (word : Word) (endings : List String) : Bool :=
  endings.any fun ending => ending.toList.isSuffixOf word

/-- A word without its last characters, and those characters. -/
def splitEnd (word : Word) (count : Nat) : Word × Word :=
  word.splitAt (word.length - count)

/-- A word with its last characters replaced by an ending in their case. -/
def replaceEnd (word : Word) (count : Nat) (ending : String) : Word :=
  let (stem, tail) := splitEnd word count
  stem ++ withCaseOf tail ending.toList

/-- A word with an ending in the case of its last character. -/
def append (word : Word) (ending : String) : Word :=
  word ++ withCaseOf (splitEnd word 1).2 ending.toList

/-- Whether a character comes before a y that stays; others make it ies. -/
def isVowel (c : Char) : Bool :=
  c == 'a' || c == 'e' || c == 'i' || c == 'o' || c == 'u'

/-- The text before a line feed at the very end, which endings disregard. -/
def withoutFinalBreak (word : Word) : Word :=
  if word.getLast? = some '\n' then word.dropLast else word

/-- Whether a word ends in a y after a character that is not a vowel. -/
def endsInY (word : Word) : Bool :=
  match (withoutFinalBreak word).reverse with
  | 'y' :: c :: _ => !isVowel c
  | _ => false

/-- Whether a word ends in an s after a character that is not one. -/
def endsInSingleS (word : Word) : Bool :=
  match (withoutFinalBreak word).reverse with
  | 's' :: c :: _ => c != 's'
  | _ => false

/-- The plural of a word. -/
def pluralWord (word : Word) : Word :=
  let small := lower word
  let known := String.ofList small
  if word.isEmpty then word
  else if known ∈ uncountables then word
  else match irregulars.lookup known with
    | some plural => withCaseOf word plural.toList
    | none =>
      if endsInY small then replaceEnd word 1 "ies"
      else if endsIn small ["s", "x", "z", "ch", "sh"] then append word "es"
      else if known ∈ fWords then replaceEnd word (if endsIn small ["fe"] then 2 else 1) "ves"
      else if known ∈ oWords then append word "es"
      else append word "s"

/-- The singulars of the plurals that follow no rule. -/
def irregularSingular? (plural : String) : Option String :=
  (irregulars.find? fun entry => entry.2 = plural).map (·.1)

/-- The singular of a word. -/
def singularWord (word : Word) : Word :=
  let small := lower word
  let known := String.ofList small
  if word.isEmpty then word
  else if known ∈ uncountables then word
  else match irregularSingular? known with
    | some singular => withCaseOf word singular.toList
    | none =>
      if endsIn small ["ies"] then replaceEnd word 3 "y"
      else if endsIn small ["ves"] then
        let stem := (splitEnd small 3).1
        replaceEnd word 3 (if endsIn stem ["li", "wi", "kni"] then "fe" else "f")
      else if endsIn (withoutFinalBreak small) ["ses", "xes", "zes", "ches", "shes"] then
        (splitEnd word 2).1
      else if endsIn small ["oes"] && oWords.contains (String.ofList (splitEnd small 2).1) then
        (splitEnd word 2).1
      else if endsInSingleS small then (splitEnd word 1).1
      else word

/-- The singular of the name of a relation to many: narrower than that of words at large. -/
def singularRelationWord (word : Word) : Word :=
  let small := lower word
  if endsIn small ["ies"] then replaceEnd word 3 "y"
  else if endsIn small ["sses", "xes", "ches", "shes"] then (splitEnd word 2).1
  else if endsIn small ["s"] && !endsIn small ["ss"] then (splitEnd word 1).1
  else word

/-- The plural of a text. -/
def plural (text : String) : String :=
  String.ofList (pluralWord text.toList)

/-- The singular of a text. -/
def singular (text : String) : String :=
  String.ofList (singularWord text.toList)

/-- The singular of the name of a relation to many. -/
def singularRelation (text : String) : String :=
  String.ofList (singularRelationWord text.toList)

/-- A text with its first character in upper case. -/
def capitalized (text : String) : String :=
  String.ofList (upper (text.toList.take 1) ++ text.toList.drop 1)

/-- A text with its first character in lower case. -/
def uncapitalized (text : String) : String :=
  String.ofList (lower (text.toList.take 1) ++ text.toList.drop 1)

end Docbase.Inflection
