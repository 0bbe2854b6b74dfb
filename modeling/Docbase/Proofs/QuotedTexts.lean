import Docbase.Keyed
import Docbase.Proofs.DecimalTexts
import Docbase.Value.Shown

/-! # Values and their quoted texts

The quoted text of a value of JSON ends where the value ends: whatever follows a value inside a
list or an object, the value can be told from the text. Two values of JSON with one quoted text are
therefore the same value, down to the types of their numbers and the order of their keys.
-/

namespace Docbase

namespace Text

/-! ## Characters inside quotes -/

theorem hexDigit_hexChar : ∀ n < 16, hexDigit (hexChar n) = n := by
  decide

@[simp]
theorem length_hexPadded (width n : Nat) : (hexPadded width n).length = width := by
  induction width generalizing n with
  | zero => rfl
  | succ width ih => rw [hexPadded, List.length_append, ih]; rfl

theorem readHex_hexPadded {width n : Nat} (h : n < 16 ^ width) :
    readHex (hexPadded width n) = n := by
  induction width generalizing n with
  | zero =>
      rw [pow_zero, Nat.lt_one_iff] at h
      rw [h]
      rfl
  | succ width ih =>
      have hfront := ih (Nat.div_lt_of_lt_mul (by rwa [pow_succ'] at h))
      rw [readHex] at hfront
      rw [readHex, hexPadded, List.foldl_append, hfront]
      simp only [List.foldl_cons, List.foldl_nil]
      rw [hexDigit_hexChar _ (Nat.mod_lt n (by decide)), Nat.div_add_mod]

/-- The first character that is written inside quotes, and what is left. -/
def unquotedChar : List Char → Option (Char × List Char)
  | '\\' :: 'n' :: rest => some ('\n', rest)
  | '\\' :: 'r' :: rest => some ('\r', rest)
  | '\\' :: 't' :: rest => some ('\t', rest)
  | '\\' :: 'x' :: rest => some (Char.ofNat (readHex (rest.take 2)), rest.drop 2)
  | '\\' :: 'u' :: rest => some (Char.ofNat (readHex (rest.take 4)), rest.drop 4)
  | '\\' :: 'U' :: rest => some (Char.ofNat (readHex (rest.take 8)), rest.drop 8)
  | '\\' :: c :: rest => some (c, rest)
  | c :: rest => some (c, rest)
  | [] => none

theorem unquotedChar_of_ne {c : Char} (hc : c ≠ '\\') (rest : List Char) :
    unquotedChar (c :: rest) = some (c, rest) := by
  rw [unquotedChar]
  all_goals
    intros
    exact absurd ‹c = '\\'› hc

/-- A code of fixed width is read back, and what follows it is left. -/
theorem readHex_append {width : Nat} {c : Char} (h : c.toNat < 16 ^ width) (rest : List Char) :
    (Char.ofNat (readHex ((hexPadded width c.toNat ++ rest).take width)),
      (hexPadded width c.toNat ++ rest).drop width) = (c, rest) := by
  rw [List.take_left' (length_hexPadded width _), List.drop_left' (length_hexPadded width _),
    readHex_hexPadded h, Char.ofNat_toNat]

section

variable {mark : Char} (hmark : mark = '\'' ∨ mark = '"')

include hmark

theorem unquotedChar_quotedChar (c : Char) (rest : List Char) :
    unquotedChar (quotedChar mark c ++ rest) = some (c, rest) := by
  unfold quotedChar
  split
  next hescaped =>
    rcases hmark with rfl | rfl <;> rcases (by simpa using hescaped) with rfl | rfl <;> rfl
  next hplain =>
    split
    next hc => rw [eq_of_beq hc]; rfl
    split
    next hc => rw [eq_of_beq hc]; rfl
    split
    next hc => rw [eq_of_beq hc]; rfl
    split
    next =>
      have hne : c ≠ '\\' := by
        rintro rfl
        simp at hplain
      exact unquotedChar_of_ne hne rest
    split
    next hsmall => exact congrArg some (readHex_append (by simpa using hsmall) rest)
    split
    next hsmall => exact congrArg some (readHex_append (by simpa using hsmall) rest)
    next => exact congrArg some (readHex_append c.val.toNat_lt rest)

/-- No character is written so that it could be taken for the closing quote. -/
theorem quotedChar_first (c : Char) :
    ∃ first others, quotedChar mark c = first :: others ∧ first ≠ mark := by
  have hbackslash : '\\' ≠ mark := by
    rcases hmark with rfl | rfl <;> decide
  by_cases hc : c = mark
  · exact ⟨'\\', [c], by simp [quotedChar, hc], hbackslash⟩
  · unfold quotedChar
    repeat' split
    all_goals first
      | exact ⟨_, _, rfl, hbackslash⟩
      | exact ⟨_, _, rfl, hc⟩

/-- What stands between two quotes ends at the second one. -/
theorem flatMap_quotedChar_injective {s t x y : List Char}
    (h : s.flatMap (quotedChar mark) ++ mark :: x = t.flatMap (quotedChar mark) ++ mark :: y) :
    s = t ∧ x = y := by
  have hcloses {c : Char} {others x y : List Char}
      (h : (c :: others).flatMap (quotedChar mark) ++ x = mark :: y) : False := by
    obtain ⟨first, written, hwritten, hfirst⟩ := quotedChar_first hmark c
    rw [List.flatMap_cons, hwritten] at h
    exact hfirst (List.cons.inj h).1
  induction s generalizing t with
  | nil =>
      cases t with
      | nil => exact ⟨rfl, (List.cons.inj h).2⟩
      | cons d t => exact (hcloses h.symm).elim
  | cons c s ih =>
      cases t with
      | nil => exact (hcloses h).elim
      | cons d t =>
          rw [List.flatMap_cons, List.flatMap_cons, List.append_assoc, List.append_assoc] at h
          -- Taking one character off both texts leaves texts that end in a quote again.
          have hread := congrArg unquotedChar h
          rw [unquotedChar_quotedChar hmark, unquotedChar_quotedChar hmark] at hread
          obtain ⟨rfl, hrest⟩ := Prod.mk.inj (Option.some.inj hread)
          obtain ⟨rfl, rfl⟩ := ih hrest
          exact ⟨rfl, rfl⟩

end

theorem quoteMark_eq (text : List Char) : quoteMark text = '\'' ∨ quoteMark text = '"' := by
  unfold quoteMark
  split
  · exact .inr rfl
  · exact .inl rfl

theorem quote_toList (s : String) : (quote s).toList = quoteMark s.toList ::
    (s.toList.flatMap (quotedChar (quoteMark s.toList)) ++ [quoteMark s.toList]) := by
  rw [quote, String.toList_ofList, List.cons_append]

/-- A quoted text ends where its quotes close. -/
theorem quote_append_injective {s t : String} {x y : List Char}
    (h : (quote s).toList ++ x = (quote t).toList ++ y) : s = t ∧ x = y := by
  rw [quote_toList, quote_toList, List.cons_append, List.cons_append] at h
  obtain ⟨hmark, h⟩ := List.cons.inj h
  rw [hmark, List.append_assoc, List.append_assoc] at h
  obtain ⟨htext, hrest⟩ := flatMap_quotedChar_injective (quoteMark_eq _) h
  exact ⟨String.toList_injective htext, hrest⟩

end Text

namespace Value

/-! ## Values of JSON -/

/-- A value of JSON: its doubles are numbers, and no key of an object is there twice. -/
inductive IsJson : Value → Prop where
  | null : IsJson null
  | bool (b : Bool) : IsJson (bool b)
  | int (n : Int) : IsJson (int n)
  | double {x : Double} (hproper : x.IsProper) (hnumber : x ≠ .nan) : IsJson (double x)
  | text (s : String) : IsJson (text s)
  | list {items : List Value} (hitems : ∀ item ∈ items, IsJson item) : IsJson (list items)
  | object {fields : List (String × Value)} (hkeys : (Keyed.keys fields).Nodup)
      (hfields : ∀ field ∈ fields, IsJson field.2) : IsJson (object fields)

/-! ## What is written without quotes or brackets -/

/-- Whether a value is written without quotes or brackets around it. -/
def isBare : Value → Bool
  | null => true
  | bool _ => true
  | int _ => true
  | double _ => true
  | _ => false

/-- The characters that such values are written in. -/
def isBareChar (c : Char) : Bool :=
  c.isAlphanum || ['.', '-', '+'].contains c

theorem isBareChar_of_isDigit {c : Char} (h : c.isDigit = true) : isBareChar c = true := by
  simp [isBareChar, Char.isAlphanum, h]

theorem intText_toList (n : Int) : (intText n).toList =
    (if decide (n < 0) then ['-'] else []) ++ Double.digitsOf n.natAbs := by
  rw [intText]
  by_cases hneg : n < 0
  · simp [hneg, Double.digitsOf]
  · simp [hneg, Double.digitsOf]

theorem mem_intText {n : Int} {c : Char} (hc : c ∈ (intText n).toList) :
    c.isDigit = true ∨ c = '-' := by
  rw [intText_toList] at hc
  rcases List.mem_append.mp hc with hc | hc
  · split at hc
    next => exact .inr (List.mem_singleton.mp hc)
    next => cases hc
  · exact .inl (AllDigits.digitsOf _ c hc)

theorem digitsOf_head? (n : Nat) : (Double.digitsOf n).head? ≠ some '-' := by
  intro hminus
  have hdigit := AllDigits.digitsOf n '-' (List.mem_of_head? hminus)
  cases hdigit

theorem intText_injective {n m : Int} (h : intText n = intText m) : n = m := by
  have hlist := congrArg String.toList h
  rw [intText_toList, intText_toList] at hlist
  obtain ⟨hsign, hdigits⟩ :=
    Double.minus_injective (digitsOf_head? _) (digitsOf_head? _) hlist
  have habs := congrArg Double.digitsValue hdigits
  rw [Double.digitsValue_digitsOf, Double.digitsValue_digitsOf] at habs
  have hiff := decide_eq_decide.mp hsign
  omega

theorem all_isBareChar {a : Value} (ha : a.isBare = true) :
    a.quoted.toList.all isBareChar = true := by
  cases a with
  | null => rfl
  | bool b => cases b <;> rfl
  | int n =>
      refine List.all_eq_true.mpr fun c hc => ?_
      rcases mem_intText hc with hdigit | rfl
      · exact isBareChar_of_isDigit hdigit
      · rfl
  | double x =>
      have hmarks : Double.marks.all isBareChar = true := rfl
      refine List.all_eq_true.mpr fun c hc => ?_
      rcases Double.mem_text hc with hdigit | hmark
      · exact isBareChar_of_isDigit hdigit
      · exact List.all_eq_true.mp hmarks c hmark
  | _ => cases ha

/-- Whether a value is written as a word. -/
def isWord : Value → Bool
  | null => true
  | bool _ => true
  | _ => false

/-- Whether a value is an integer. -/
def isInteger : Value → Bool
  | int _ => true
  | _ => false

theorem isUpper_of_isDigit {c : Char} (h : c.isDigit = true) : c.isUpper = false := by
  refine decide_eq_false fun hupper => ?_
  simp [Char.isDigit, UInt32.le_iff_toNat_le] at h hupper
  omega

/-- Words are written with a capital letter, and numbers are not. -/
theorem any_isUpper {a : Value} (ha : a.isBare = true) :
    a.quoted.toList.any Char.isUpper = a.isWord := by
  cases a with
  | null => rfl
  | bool b => cases b <;> rfl
  | int n =>
      refine List.any_eq_false.mpr fun c hc => ?_
      rcases mem_intText hc with hdigit | rfl
      · simp [isUpper_of_isDigit hdigit]
      · decide
  | double x =>
      have hmarks : Double.marks.any Char.isUpper = false := rfl
      refine List.any_eq_false.mpr fun c hc => ?_
      rcases Double.mem_text hc with hdigit | hmark
      · simp [isUpper_of_isDigit hdigit]
      · exact List.any_eq_false.mp hmarks c hmark
  | _ => cases ha

/-- Integers are written in digits and a minus, and nothing else is. -/
theorem all_isDigit {a : Value} (ha : a.isBare = true) :
    (a.quoted.toList.all fun c => c.isDigit || c == '-') = a.isInteger := by
  cases a with
  | null => rfl
  | bool b => cases b <;> rfl
  | int n =>
      refine List.all_eq_true.mpr fun c hc => ?_
      rcases mem_intText hc with hdigit | rfl
      · simp [hdigit]
      · rfl
  | double x =>
      obtain ⟨c, hc, hdigit, hminus⟩ := x.exists_mark
      exact List.all_eq_false.mpr ⟨c, hc, by simp [hdigit, hminus]⟩
  | _ => cases ha

theorem bare_injective {a b : Value} (ha : a.IsJson) (hb : b.IsJson) (habare : a.isBare = true)
    (hbbare : b.isBare = true) (h : a.quoted = b.quoted) : a = b := by
  -- The text alone says whether there is a word, an integer or a double.
  have hword : a.isWord = b.isWord := by
    rw [← any_isUpper habare, ← any_isUpper hbbare, h]
  have hinteger : a.isInteger = b.isInteger := by
    rw [← all_isDigit habare, ← all_isDigit hbbare, h]
  cases ha with
  | null =>
      cases hb with
      | null => rfl
      | bool b => cases b <;> exact absurd h (by decide)
      | _ => cases hword
  | bool b =>
      cases hb with
      | null => cases b <;> exact absurd h (by decide)
      | bool b' => cases b <;> cases b' <;> first | rfl | exact absurd h (by decide)
      | _ => cases hword
  | int n =>
      cases hb with
      | int m => exact congrArg int (intText_injective h)
      | _ => cases hinteger
  | double hproper =>
      cases hb with
      | double hproper' => exact congrArg double (Double.text_injective hproper hproper' h)
      | int m => cases hinteger
      | null => cases hword
      | bool b => cases hword
      | _ => cases hbbare
  | _ => cases habare

/-! ## Values inside lists and objects -/

/-- Text that can follow a value: it goes on with nothing that the value could go on with. -/
def Closed (rest : List Char) : Prop :=
  ∀ c ∈ rest.head?, isBareChar c = false

theorem Closed.cons {c : Char} (hc : isBareChar c = false) (rest : List Char) :
    Closed (c :: rest) := by
  intro d hd
  rw [List.head?_cons, Option.mem_some_iff] at hd
  rw [← hd, hc]

theorem Closed.takeWhile {rest : List Char} (h : Closed rest) :
    rest.takeWhile isBareChar = [] := by
  cases rest with
  | nil => rfl
  | cons c rest => exact List.takeWhile_cons_of_neg (by rw [h c rfl]; decide)

theorem bare_append_injective {a b : Value} (ha : a.isBare = true) (hb : b.isBare = true)
    {s t : List Char} (hs : Closed s) (ht : Closed t)
    (h : a.quoted.toList ++ s = b.quoted.toList ++ t) : a.quoted = b.quoted ∧ s = t := by
  -- What follows cannot go on with a value, so both values end with the first such character.
  have htake := congrArg (List.takeWhile isBareChar) h
  rw [List.takeWhile_append_of_pos (List.all_eq_true.mp (all_isBareChar ha)),
    List.takeWhile_append_of_pos (List.all_eq_true.mp (all_isBareChar hb)), hs.takeWhile,
    ht.takeWhile, List.append_nil, List.append_nil] at htake
  refine ⟨String.toList_injective htake, ?_⟩
  rw [htake] at h
  exact List.append_cancel_left h

/-- What the text of a value begins with. -/
def Opens : Value → Char → Prop
  | text _, c => c = '\'' ∨ c = '"'
  | list _, c => c = '['
  | object _, c => c = '\x7b'
  | _, c => isBareChar c = true

theorem quoted_list (items : List Value) : (list items).quoted.toList =
    '[' :: ([',', ' '].intercalate (items.map fun item => item.quoted.toList) ++ [']']) := by
  have hitems (items : List Value) : quotedItems items = items.map quoted := by
    induction items with
    | nil => rfl
    | cons item rest ih => rw [quotedItems, ih]; rfl
  rw [quoted, hitems, String.toList_append, String.toList_append, String.toList_intercalate,
    List.map_map]
  rfl

/-- A field as it is written inside an object. -/
def fieldText (field : String × Value) : List Char :=
  (Text.quote field.1).toList ++ ':' :: ' ' :: field.2.quoted.toList

theorem quoted_object (fields : List (String × Value)) : (object fields).quoted.toList =
    '\x7b' :: ([',', ' '].intercalate (fields.map fieldText) ++ ['\x7d']) := by
  have hfields (fields : List (String × Value)) :
      (quotedFields fields).map String.toList = fields.map fieldText := by
    induction fields with
    | nil => rfl
    | cons field rest ih =>
        obtain ⟨key, value⟩ := field
        rw [quotedFields, List.map_cons, ih, String.toList_append, String.toList_append,
          List.append_assoc]
        rfl
  rw [quoted, String.toList_append, String.toList_append, String.toList_intercalate, hfields]
  rfl

theorem IsJson.first {a : Value} (h : a.IsJson) :
    ∃ c rest, a.quoted.toList = c :: rest ∧ a.Opens c := by
  have hbare (ha : a.isBare = true) (hne : a.quoted.toList ≠ []) :
      ∃ c rest, a.quoted.toList = c :: rest ∧ isBareChar c = true := by
    obtain ⟨c, rest, hrest⟩ := List.exists_cons_of_ne_nil hne
    have hc : c ∈ a.quoted.toList := by
      rw [hrest]
      exact .head _
    exact ⟨c, rest, hrest, List.all_eq_true.mp (all_isBareChar ha) c hc⟩
  cases h with
  | null => exact hbare rfl (by decide)
  | bool b => exact hbare rfl (by cases b <;> decide)
  | int n =>
      refine hbare rfl ?_
      rw [quoted, intText_toList]
      exact List.append_ne_nil_of_right_ne_nil _ Nat.toDigits_ne_nil
  | @double x =>
      obtain ⟨c, hc, -⟩ := x.exists_mark
      exact hbare rfl (List.ne_nil_of_mem hc)
  | text s => exact ⟨_, _, Text.quote_toList s, Text.quoteMark_eq _⟩
  | @list items => exact ⟨_, _, quoted_list items, rfl⟩
  | @object fields => exact ⟨_, _, quoted_object fields, rfl⟩

/-! ## Reading a value back -/

/-- The text of something tells it from all like it, whatever follows. -/
def Readable {α : Type} (f : α → List Char) (Like : α → Prop) (x : α) : Prop :=
  ∀ {y : α} {s t : List Char}, Like y → Closed s → Closed t → f x ++ s = f y ++ t →
    x = y ∧ s = t

/-- Texts with a comma in front of each. -/
def further {α : Type} (f : α → List Char) (xs : List α) : List Char :=
  xs.flatMap fun x => ',' :: ' ' :: f x

theorem intercalate_map_cons {α : Type} (f : α → List Char) (x : α) (xs : List α) :
    [',', ' '].intercalate ((x :: xs).map f) = f x ++ further f xs := by
  induction xs generalizing x with
  | nil => simp [further]
  | cons y ys ih =>
      rw [List.map_cons, List.map_cons, List.intercalate_cons_cons, ← List.map_cons, ih y]
      simp [further]

section

variable {α : Type} {f : α → List Char} {Like : α → Prop} {xs ys : List α} {close : Char}
  (hread : ∀ x ∈ xs, Readable f Like x) (hys : ∀ y ∈ ys, Like y)
  (hclose : isBareChar close = false) (hcomma : close ≠ ',')

include hclose in
theorem closed_further (xs : List α) (s : List Char) : Closed (further f xs ++ close :: s) := by
  cases xs with
  | nil => exact .cons hclose s
  | cons x xs => exact .cons (by decide) _

include hread hys hclose hcomma

theorem further_injective {s t : List Char}
    (h : further f xs ++ close :: s = further f ys ++ close :: t) : xs = ys ∧ s = t := by
  induction xs generalizing ys with
  | nil =>
      cases ys with
      | nil => exact ⟨rfl, (List.cons.inj h).2⟩
      | cons y ys => exact absurd (List.cons.inj h).1 hcomma
  | cons x xs ih =>
      cases ys with
      | nil => exact absurd (List.cons.inj h).1.symm hcomma
      | cons y ys =>
          have hrest : f x ++ (further f xs ++ close :: s) =
              f y ++ (further f ys ++ close :: t) := by
            simpa [further] using h
          obtain ⟨rfl, hfurther⟩ := hread x (.head _) (hys y (.head _))
            (closed_further hclose xs s) (closed_further hclose ys t) hrest
          obtain ⟨rfl, rfl⟩ := ih (fun x hx => hread x (.tail _ hx))
            (fun y hy => hys y (.tail _ hy)) hfurther
          exact ⟨rfl, rfl⟩

/-- What is written between brackets can be read back if each of its parts can. -/
theorem intercalate_injective {s t : List Char} (hxs : ∀ x ∈ xs, Like x)
    (hopen : ∀ x, Like x → ∃ c rest, f x = c :: rest ∧ c ≠ close)
    (h : [',', ' '].intercalate (xs.map f) ++ close :: s =
      [',', ' '].intercalate (ys.map f) ++ close :: t) : xs = ys ∧ s = t := by
  have hnever {x : α} {xs : List α} {s t : List Char} (hx : Like x)
      (h : [',', ' '].intercalate ((x :: xs).map f) ++ s = close :: t) : False := by
    obtain ⟨c, rest, hrest, hc⟩ := hopen x hx
    rw [intercalate_map_cons, hrest] at h
    exact hc (List.cons.inj h).1
  cases xs with
  | nil =>
      cases ys with
      | nil => exact ⟨rfl, (List.cons.inj h).2⟩
      | cons y ys => exact (hnever (hys y (.head _)) h.symm).elim
  | cons x xs =>
      cases ys with
      | nil => exact (hnever (hxs x (.head _)) h).elim
      | cons y ys =>
          rw [intercalate_map_cons, intercalate_map_cons, List.append_assoc,
            List.append_assoc] at h
          obtain ⟨rfl, hfurther⟩ := hread x (.head _) (hys y (.head _))
            (closed_further hclose xs s) (closed_further hclose ys t) h
          obtain ⟨rfl, rfl⟩ := further_injective (fun x hx => hread x (.tail _ hx))
            (fun y hy => hys y (.tail _ hy)) hclose hcomma hfurther
          exact ⟨rfl, rfl⟩

end

theorem Readable.fieldText {field : String × Value}
    (h : Readable (fun value => value.quoted.toList) IsJson field.2) :
    Readable fieldText (fun other => other.2.IsJson) field := by
  obtain ⟨key, value⟩ := field
  rintro ⟨key', value'⟩ s t hvalue' hs ht heq
  rw [Value.fieldText, Value.fieldText, List.append_assoc, List.append_assoc] at heq
  obtain ⟨rfl, hrest⟩ := Text.quote_append_injective heq
  obtain ⟨rfl, rfl⟩ := h hvalue' hs ht (List.cons.inj (List.cons.inj hrest).2).2
  exact ⟨rfl, rfl⟩

theorem fieldText_first (field : String × Value) :
    ∃ c rest, fieldText field = c :: rest ∧ c ≠ '\x7d' := by
  refine ⟨_, _, by rw [fieldText, Text.quote_toList]; rfl, ?_⟩
  rcases Text.quoteMark_eq field.1.toList with hmark | hmark <;> rw [hmark] <;> decide

theorem IsJson.first_ne {a : Value} (h : a.IsJson) :
    ∃ c rest, a.quoted.toList = c :: rest ∧ c ≠ ']' := by
  obtain ⟨c, rest, hrest, hc⟩ := h.first
  refine ⟨c, rest, hrest, ?_⟩
  rintro rfl
  cases h <;> revert hc <;> simp [Opens, isBareChar] 

theorem IsJson.isBare_eq {a : Value} (h : a.IsJson) {c : Char} (hc : a.Opens c) :
    a.isBare = isBareChar c := by
  cases h with
  | text s => rcases hc with rfl | rfl <;> rfl
  | list hitems => rw [show c = '[' from hc]; rfl
  | object hkeys hfields => rw [show c = '\x7b' from hc]; rfl
  | _ => exact Eq.symm hc

/-- Two texts that go on alike begin alike. -/
theorem IsJson.exists_opens {a b : Value} (ha : a.IsJson) (hb : b.IsJson) {s t : List Char}
    (h : a.quoted.toList ++ s = b.quoted.toList ++ t) : ∃ c, a.Opens c ∧ b.Opens c := by
  obtain ⟨c, rest, hrest, hc⟩ := ha.first
  obtain ⟨d, others, hothers, hd⟩ := hb.first
  rw [hrest, hothers] at h
  obtain rfl := (List.cons.inj h).1
  exact ⟨c, hc, hd⟩

theorem IsJson.readable_of_isBare {a : Value} (ha : a.IsJson) (hbare : a.isBare = true) :
    Readable (fun value => value.quoted.toList) IsJson a := by
  intro b s t hb hs ht h
  obtain ⟨c, hc, hd⟩ := ha.exists_opens hb h
  have hbare' : b.isBare = true := by
    rw [hb.isBare_eq hd, ← ha.isBare_eq hc, hbare]
  obtain ⟨hquoted, hrest⟩ := bare_append_injective hbare hbare' hs ht h
  exact ⟨bare_injective ha hb hbare hbare' hquoted, hrest⟩

/-- Whatever a value of JSON is followed by, its text tells it from all others. -/
theorem IsJson.readable {a : Value} (ha : a.IsJson) :
    Readable (fun value => value.quoted.toList) IsJson a := by
  induction ha with
  | null => exact readable_of_isBare .null rfl
  | bool b => exact readable_of_isBare (.bool b) rfl
  | int n => exact readable_of_isBare (.int n) rfl
  | double hproper hnumber => exact readable_of_isBare (.double hproper hnumber) rfl
  | text x =>
      intro b s t hb hs ht h
      obtain ⟨c, hc, hd⟩ := exists_opens (.text x) hb h
      cases hb with
      | text y =>
          obtain ⟨rfl, rfl⟩ := Text.quote_append_injective h
          exact ⟨rfl, rfl⟩
      | _ => rcases hc with rfl | rfl <;> simp [Opens, isBareChar] at hd
  | list hitems ih =>
      intro b s t hb hs ht h
      obtain ⟨c, hc, hd⟩ := exists_opens (.list hitems) hb h
      obtain rfl : c = '[' := hc
      cases hb with
      | list hitems' =>
          dsimp only at h
          rw [quoted_list, quoted_list, List.cons_append, List.cons_append, List.append_assoc,
            List.append_assoc] at h
          obtain ⟨rfl, rfl⟩ := intercalate_injective ih hitems' (by decide) (by decide) hitems
            (fun _ => first_ne) (List.cons.inj h).2
          exact ⟨rfl, rfl⟩
      | _ => simp [Opens, isBareChar] at hd
  | object hkeys hfields ih =>
      intro b s t hb hs ht h
      obtain ⟨c, hc, hd⟩ := exists_opens (.object hkeys hfields) hb h
      obtain rfl : c = '\x7b' := hc
      cases hb with
      | object hkeys' hfields' =>
          dsimp only at h
          rw [quoted_object, quoted_object, List.cons_append, List.cons_append,
            List.append_assoc, List.append_assoc] at h
          obtain ⟨rfl, rfl⟩ := intercalate_injective
            (fun field hfield => Readable.fieldText (ih field hfield)) hfields' (by decide)
            (by decide) hfields (fun field _ => fieldText_first field) (List.cons.inj h).2
          exact ⟨rfl, rfl⟩
      | _ => simp [Opens, isBareChar] at hd

theorem quoted_injective {a b : Value} (ha : a.IsJson) (hb : b.IsJson)
    (h : a.quoted = b.quoted) : a = b := by
  have hnil : Closed [] := by
    intro c hc
    cases hc
  exact (ha.readable hb hnil hnil (congrArg (fun text => text.toList ++ []) h)).1

end Value

end Docbase
