import Docbase.Text.Class
import Docbase.Text.CaseTable

/-!
# Letter case

Lower case, upper case and case folding of whole texts. A capital sigma at the end of a word has
a lower case of its own; every other character is mapped without regard to its neighbours.
-/

namespace Docbase.Text

/-- The lower case of a character standing alone. -/
def lowerChar (c : Char) : List Char :=
  if isAscii c then [if 'A' ≤ c ∧ c ≤ 'Z' then Char.ofNat (c.toNat + 32) else c]
  else (CaseTable.lower.find? c.toNat).getD [c]

/-- The upper case of a character. -/
def upperChar (c : Char) : List Char :=
  if isAscii c then [if 'a' ≤ c ∧ c ≤ 'z' then Char.ofNat (c.toNat - 32) else c]
  else (CaseTable.upper.find? c.toNat).getD [c]

/-- The form of a character in which case makes no difference. -/
def foldChar (c : Char) : List Char :=
  if isAscii c then [if 'A' ≤ c ∧ c ≤ 'Z' then Char.ofNat (c.toNat + 32) else c]
  else (CaseTable.fold.find? c.toNat).getD [c]

/-- Whether a letter is the nearest one in a sequence of characters, those passed over apart. -/
def meetsCased (text : List Char) : Bool :=
  match text.dropWhile fun c => ClassTable.caseIgnorable.contains c.toNat with
  | [] => false
  | c :: _ => ClassTable.cased.contains c.toNat

/-- Lower case of a text whose characters before it are `before`, the nearest first. A capital
sigma after a letter and before none takes its final form. -/
def lowerFrom (before : List Char) : List Char → List Char
  | [] => []
  | c :: rest =>
    (if c == 'Σ' then [if meetsCased before && !meetsCased rest then 'ς' else 'σ']
     else lowerChar c) ++ lowerFrom (c :: before) rest

/-- The text `s` in lower case. -/
def lower (s : String) : String :=
  String.ofList (lowerFrom [] s.toList)

/-- The text `s` in upper case. -/
def upper (s : String) : String :=
  String.ofList (s.toList.flatMap upperChar)

/-- The text `s` with case folded away. -/
def foldCase (s : String) : String :=
  String.ofList (s.toList.flatMap foldChar)

/-- The single small letter that a character is compared by when a search ignores case. -/
def smallLetter (c : Char) : Char :=
  (lowerChar c).headD c

/-- The characters that a small letter stands for when case is ignored, itself first. -/
def variants (c : Char) : List Char :=
  c :: (CaseTable.variants.find? c.toNat).getD []

/-- Whether a character has a counterpart in the other case. -/
def hasVariants (c : Char) : Bool :=
  if isAscii c then isAsciiLetter c else ClassTable.paired.contains c.toNat

/-! ## ASCII characters -/

/-- What holds of the characters with the first 128 codes holds of every ASCII character. -/
theorem forall_ascii (p : Char → Prop) (h : ∀ code < 128, p (Char.ofNat code)) {c : Char}
    (hc : isAscii c = true) : p c := by
  have hcode := h c.toNat (by simpa [isAscii] using hc)
  rwa [Char.ofNat_toNat] at hcode

theorem lowerChar_ascii {c : Char} (hc : isAscii c = true) : lowerChar c = [c.toLower] :=
  forall_ascii (fun c => lowerChar c = [c.toLower]) (by decide) hc

theorem foldChar_ascii {c : Char} (hc : isAscii c = true) : foldChar c = [c.toLower] :=
  forall_ascii (fun c => foldChar c = [c.toLower]) (by decide) hc

theorem upperChar_ascii {c : Char} (hc : isAscii c = true) : upperChar c = [c.toUpper] :=
  forall_ascii (fun c => upperChar c = [c.toUpper]) (by decide) hc

theorem isAscii_toLower {c : Char} (hc : isAscii c = true) : isAscii c.toLower = true :=
  forall_ascii (fun c => isAscii c.toLower = true) (by decide) hc

theorem isAscii_toUpper {c : Char} (hc : isAscii c = true) : isAscii c.toUpper = true :=
  forall_ascii (fun c => isAscii c.toUpper = true) (by decide) hc

theorem toLower_toLower {c : Char} (hc : isAscii c = true) : c.toLower.toLower = c.toLower :=
  forall_ascii (fun c => c.toLower.toLower = c.toLower) (by decide) hc

theorem toLower_toUpper {c : Char} (hc : isAscii c = true) : c.toUpper.toLower = c.toLower :=
  forall_ascii (fun c => c.toUpper.toLower = c.toLower) (by decide) hc

theorem isBlank_toLower {c : Char} (hc : isAscii c = true) : isBlank c.toLower = isBlank c :=
  forall_ascii (fun c => isBlank c.toLower = isBlank c) (by decide) hc

theorem isAscii_of_toLower {c : Char} (h : isAscii c.toLower = true) : isAscii c = true := by
  unfold Char.toLower at h
  split at h
  next hcapital =>
    have hle : c.toNat ≤ 90 := UInt32.le_iff_toNat_le.mp hcapital.2
    simp only [isAscii, decide_eq_true_eq]
    omega
  next => exact h

theorem isAscii_of_isAsciiLetter {c : Char} (hc : isAsciiLetter c = true) : isAscii c = true := by
  simp only [isAsciiLetter, Bool.or_eq_true, Bool.and_eq_true, decide_eq_true_eq,
    Char.le_def, UInt32.le_iff_toNat_le] at hc
  simp only [isAscii, decide_eq_true_eq, Char.toNat]
  obtain ⟨-, hz⟩ | ⟨-, hz⟩ := hc
  · exact Nat.lt_of_le_of_lt hz (by decide)
  · exact Nat.lt_of_le_of_lt hz (by decide)

end Docbase.Text
