import Docbase.Text.Class
import Docbase.Text.BaseTable

/-!
# Base characters

A text stripped of its accents: every character is decomposed for compatibility and the combining
marks are dropped. The order of the marks is lost with them, so the result is the concatenation
of the results for the single characters.
-/

namespace Docbase.Text

/-- The two or three letters that a Hangul syllable is composed of. -/
def syllableLetters (index : Nat) : List Char :=
  let lead := Char.ofNat (0x1100 + index / 588)
  let vowel := Char.ofNat (0x1161 + index % 588 / 28)
  if index % 28 = 0 then [lead, vowel] else [lead, vowel, Char.ofNat (0x11a7 + index % 28)]

/-- What is left of a character once its marks are gone. -/
def baseChars (c : Char) : List Char :=
  if isAscii c then [c]
  else if 0xac00 ≤ c.toNat ∧ c.toNat ≤ 0xd7a3 then syllableLetters (c.toNat - 0xac00)
  else if ClassTable.mark.contains c.toNat then []
  else (BaseTable.base.find? c.toNat).getD [c]

/-- The text `s` without accents. -/
def base (s : String) : String :=
  String.ofList (s.toList.flatMap baseChars)

end Docbase.Text
