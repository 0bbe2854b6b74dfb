import Docbase.Proofs.JunctionKeys
import Docbase.Proofs.Plurals
import Docbase.Proofs.Shares
import Mathlib.Data.List.TakeWhile

/-! # The notations of an order

What to sort by is written as an object of directions, as a list of names or as one text of names
between commas. The three are read alike: a field comes out at the same place and with the same
direction whichever of them it is written in, however the direction is spelled in the object, and
wherever there is white space or a blank entry in the text.
-/

namespace Docbase

/-! ## White space around a text -/

namespace Text

/-- There is nothing but white space in a text, if anything. -/
def AllBlank (text : List Char) : Prop :=
  ∀ c ∈ text, isBlank c = true

instance (text : List Char) : Decidable (AllBlank text) :=
  List.decidableBAll _ text

/-- A text neither begins nor ends with white space. -/
structure IsTight (text : List Char) : Prop where
  first : text.head?.any isBlank = false
  last : text.getLast?.any isBlank = false

instance (text : List Char) : Decidable (IsTight text) :=
  decidable_of_iff (text.head?.any isBlank = false ∧ text.getLast?.any isBlank = false)
    ⟨fun h => ⟨h.1, h.2⟩, fun h => ⟨h.first, h.last⟩⟩

variable {before text after : List Char}

theorem AllBlank.reverse (h : AllBlank text) : AllBlank text.reverse := by
  intro c hc
  exact h c (List.mem_reverse.mp hc)

theorem allBlank_takeWhile (text : List Char) : AllBlank (text.takeWhile isBlank) := by
  intro c hc
  exact List.mem_takeWhile_imp hc

theorem AllBlank.no_comma (h : AllBlank text) : ',' ∉ text := by
  intro hc
  exact absurd (h ',' hc) (by decide)

theorem isTight_of_forall (h : ∀ c ∈ text, isBlank c = false) : IsTight text := by
  constructor
  · cases hfirst : text.head? with
    | none => rfl
    | some c => exact h c (List.mem_of_head? hfirst)
  · cases hlast : text.getLast? with
    | none => rfl
    | some c => exact h c (List.mem_of_getLast? hlast)

theorem dropWhile_append (hbefore : AllBlank before) (htext : text.head?.any isBlank = false) :
    (before ++ text).dropWhile isBlank = text := by
  rw [List.dropWhile_append_of_pos hbefore]
  cases text with
  | nil => rfl
  | cons c rest =>
      have hc : isBlank c = false := by simpa using htext
      simp [hc]

/-- Trimming takes the white space around a text away, and nothing of the text. -/
theorem trim_append (hbefore : AllBlank before) (hafter : AllBlank after) (htext : IsTight text)
    (hne : text ≠ []) : trim (before ++ text ++ after) = text := by
  have hfirst : (before ++ (text ++ after)).dropWhile isBlank = text ++ after := by
    refine dropWhile_append hbefore ?_
    rw [List.head?_append_of_ne_nil text hne]
    exact htext.first
  have hlast : (after.reverse ++ text.reverse).dropWhile isBlank = text.reverse := by
    refine dropWhile_append hafter.reverse ?_
    rw [List.head?_reverse]
    exact htext.last
  rw [trim, List.append_assoc, hfirst, List.reverse_append, hlast, List.reverse_reverse]

theorem trim_of_allBlank (h : AllBlank text) : trim text = [] := by
  rw [trim, List.dropWhile_eq_nil_iff.mpr h]
  rfl

/-- A text is what trimming leaves of it, with white space around. -/
theorem exists_trim (text : List Char) : ∃ before after, AllBlank before ∧ AllBlank after ∧
    text = before ++ trim text ++ after := by
  refine ⟨text.takeWhile isBlank, ((text.dropWhile isBlank).reverse.takeWhile isBlank).reverse,
    allBlank_takeWhile text, (allBlank_takeWhile _).reverse, ?_⟩
  rw [trim, List.append_assoc, ← List.reverse_append, List.takeWhile_append_dropWhile,
    List.reverse_reverse, List.takeWhile_append_dropWhile]

end Text

namespace SortField

/-! ## Directions -/

/-- The words for a direction. -/
def words (descending : Bool) : List String :=
  if descending then ["desc", "descending", "-1"] else ["asc", "ascending", "1"]

/-- A value stands for a direction: it is the number for it, or one of the words for it with the
letters in any case and white space around. -/
inductive Spells (descending : Bool) : Value → Prop
  | number : Spells descending (.int (if descending then -1 else 1))
  | word {word : String} {before letters after : List Char} (hword : word ∈ words descending)
      (hletters : letters.map Char.toLower = word.toList) (hbefore : Text.AllBlank before)
      (hafter : Text.AllBlank after) :
      Spells descending (.text (String.ofList (before ++ letters ++ after)))

/-- An object spells some fields out: their names are its keys, in their order, and each stands for
the direction of its field. -/
def SpellsOut (fields : List SortField) (mapping : List (String × Value)) : Prop :=
  List.Forall₂ (fun field pair => pair.1 = field.field ∧ Spells field.descending pair.2) fields
    mapping

theorem SpellsOut.keys_eq {fields : List SortField} {mapping : List (String × Value)}
    (h : SpellsOut fields mapping) : mapping.map Prod.fst = fields.map SortField.field := by
  rw [← List.forall₂_eq_eq_eq, List.forall₂_map_left_iff, List.forall₂_map_right_iff]
  exact (h.imp fun _ _ hpair => hpair.1).flip

section

variable {descending : Bool} {word : String} {before letters after : List Char}

theorem letters_of_words (h : word ∈ words descending) :
    word.toList ≠ [] ∧ ∀ c ∈ word.toList, Text.isAscii c = true ∧ Text.isBlank c = false := by
  have hall : ∀ descending, ∀ word ∈ words descending, word.toList ≠ [] ∧
      (word.toList.all fun c => Text.isAscii c && !Text.isBlank c) = true := by decide
  obtain ⟨hne, hletters⟩ := hall descending word h
  refine ⟨hne, fun c hc => ?_⟩
  simpa using List.all_eq_true.mp hletters c hc

/-- A word in any case, with white space around, is the word once trimmed and in lower case. -/
theorem lower_trimmed (hword : word ∈ words descending)
    (hletters : letters.map Char.toLower = word.toList) (hbefore : Text.AllBlank before)
    (hafter : Text.AllBlank after) :
    Text.lower (Text.trimmed (String.ofList (before ++ letters ++ after))) = word := by
  obtain ⟨hne, hword⟩ := letters_of_words hword
  have hlower : ∀ c ∈ letters, c.toLower ∈ word.toList := by
    intro c hc
    rw [← hletters]
    exact List.mem_map_of_mem hc
  -- No letter is a sigma, then, whose lower case would depend on its neighbours.
  have hascii : Inflection.IsAscii letters := by
    intro c hc
    exact Text.isAscii_of_toLower (hword _ (hlower c hc)).1
  have htight : Text.IsTight letters := by
    refine Text.isTight_of_forall fun c hc => ?_
    rw [← Text.isBlank_toLower (hascii c hc)]
    exact (hword _ (hlower c hc)).2
  have hletters_ne : letters ≠ [] := by
    rintro rfl
    exact hne hletters.symm
  have htrim :
      Text.trimmed (String.ofList (before ++ letters ++ after)) = String.ofList letters := by
    rw [Text.trimmed, String.toList_ofList, Text.trim_append hbefore hafter htight hletters_ne]
  have hmap : Text.lowerFrom [] letters = word.toList :=
    (Inflection.lower_eq_map hascii).trans hletters
  rw [htrim, Text.lower, String.toList_ofList, hmap, String.ofList_toList]

theorem readDirection_of_mem_words {name : String} {direction : Value}
    (h : Text.lower (Text.trimmed direction.shown) ∈ words descending) :
    readDirection name direction = .ok descending := by
  unfold readDirection
  generalize Text.lower (Text.trimmed direction.shown) = word at h
  cases descending with
  | false =>
      rw [words, if_neg Bool.false_ne_true] at h
      exact if_pos h
  | true =>
      have hapart : ∀ word ∈ words true, word ∉ ["asc", "ascending", "1"] := by decide
      have hother := hapart word h
      rw [words, if_pos rfl] at h
      exact (if_neg hother).trans (if_pos h)

/-- However a direction is spelled, it is read as the direction that is meant. -/
theorem readDirection_of_spells {direction : Value} (h : Spells descending direction)
    (name : String) : readDirection name direction = .ok descending := by
  cases h with
  | number =>
      refine readDirection_of_mem_words ?_
      cases descending <;> decide
  | word hword hletters hbefore hafter =>
      refine readDirection_of_mem_words ?_
      rw [Value.shown, lower_trimmed hword hletters hbefore hafter]
      exact hword

end

/-! ## Names with a sign -/

/-- A text stands between commas as it is, and between them alone: it is not empty, holds no comma
and has no white space at its ends. -/
structure IsEntry (text : List Char) : Prop where
  ne_nil : text ≠ []
  no_comma : ',' ∉ text
  tight : Text.IsTight text

/-- A name can be written as an entry with or without a sign in front. -/
structure IsName (name : String) : Prop extends IsEntry name.toList where
  no_sign : name.toList.head? ≠ some '-'

instance (name : String) : Decidable (IsName name) :=
  decidable_of_iff ((name.toList ≠ [] ∧ ',' ∉ name.toList ∧ Text.IsTight name.toList) ∧
    name.toList.head? ≠ some '-')
    ⟨fun h => ⟨⟨h.1.1, h.1.2.1, h.1.2.2⟩, h.2⟩,
      fun h => ⟨⟨h.ne_nil, h.no_comma, h.tight⟩, h.no_sign⟩⟩

/-- A field as it is written in a list: its name, with a minus sign in front if descending. -/
def entry (field : SortField) : String :=
  if field.descending then "-" ++ field.field else field.field

/-- Reading a text as a field loses nothing of the text. -/
theorem entry_ofText (text : String) : (ofText text).entry = text := by
  unfold ofText
  split
  next rest hrest =>
    rw [← String.toList_inj]
    simp [entry, hrest]
  next => rfl

theorem ofText_entry {field : SortField} (h : field.field.toList.head? ≠ some '-') :
    ofText field.entry = field := by
  obtain ⟨name, _ | _⟩ := field
  · simp only [entry, Bool.false_eq_true, if_false, ofText]
    split
    next rest hrest => exact absurd (congrArg List.head? hrest) h
    next => rfl
  · simp [entry, ofText]

theorem IsName.isEntry_entry {field : SortField} (h : IsName field.field) :
    IsEntry field.entry.toList := by
  obtain ⟨name, _ | _⟩ := field
  · exact h.toIsEntry
  · obtain ⟨c, rest, hname⟩ := List.exists_cons_of_ne_nil h.ne_nil
    have hentry : (entry ⟨name, true⟩).toList = '-' :: name.toList := by simp [entry]
    rw [hentry]
    refine ⟨List.cons_ne_nil _ _, ?_, ⟨rfl, ?_⟩⟩
    · simpa using h.no_comma
    · have hlast := h.tight.last
      simpa [hname] using hlast

/-! ## Entries between commas -/

/-- The entries of a text stand in its parts: each in one of its own with white space around, in
their order, while the other parts are blank. -/
inductive LaysOut : List String → List String → Prop
  | nil : LaysOut [] []
  | blank {entries parts : List String} {part : String} (hpart : Text.AllBlank part.toList)
      (h : LaysOut entries parts) : LaysOut entries (part :: parts)
  | entry {entries parts : List String} {entry before after : String}
      (hbefore : Text.AllBlank before.toList) (hafter : Text.AllBlank after.toList)
      (h : LaysOut entries parts) : LaysOut (entry :: entries) ((before ++ entry ++ after) :: parts)

/-- The entries in some parts: what trimming leaves of those that are not blank. -/
def entriesOf (parts : List (List Char)) : List String :=
  (parts.map Text.trim).filterMap fun part =>
    if part.isEmpty then none else some (String.ofList part)

theorem entries_eq (text : String) : entries text = entriesOf (text.toList.splitOn ',') := rfl

theorem entriesOf_cons (part : List Char) (parts : List (List Char)) :
    entriesOf (part :: parts) =
      if Text.trim part = [] then entriesOf parts
      else String.ofList (Text.trim part) :: entriesOf parts := by
  by_cases h : Text.trim part = [] <;> simp [entriesOf, h]

/-- Entries are found again in the parts that they stand in. -/
theorem LaysOut.entriesOf_eq {written parts : List String} (h : LaysOut written parts)
    (hwritten : ∀ entry ∈ written, IsEntry entry.toList) :
    entriesOf (parts.map String.toList) = written := by
  induction h with
  | nil => rfl
  | blank hpart _ ih =>
      rw [List.map_cons, entriesOf_cons, if_pos (Text.trim_of_allBlank hpart), ih hwritten]
  | @entry written parts entry before after hbefore hafter _ ih =>
      obtain ⟨hentry, hothers⟩ := List.forall_mem_cons.mp hwritten
      have htrim : Text.trim (before ++ entry ++ after).toList = entry.toList := by
        rw [String.toList_append, String.toList_append]
        exact Text.trim_append hbefore hafter hentry.tight hentry.ne_nil
      rw [List.map_cons, entriesOf_cons, htrim, if_neg hentry.ne_nil, ih hothers,
        String.ofList_toList]

/-- The parts of any text lay out the entries in it. -/
theorem laysOut_entriesOf (parts : List (List Char)) :
    LaysOut (entriesOf parts) (parts.map String.ofList) := by
  induction parts with
  | nil => exact .nil
  | cons part parts ih =>
      obtain ⟨before, after, hbefore, hafter, hpart⟩ := Text.exists_trim part
      rw [List.map_cons, entriesOf_cons]
      split
      next hblank =>
        refine .blank ?_ ih
        rw [hblank, List.append_nil] at hpart
        rw [String.toList_ofList, hpart]
        exact List.forall_mem_append.mpr ⟨hbefore, hafter⟩
      next =>
        have hwritten : String.ofList part =
            String.ofList before ++ String.ofList (Text.trim part) ++ String.ofList after := by
          rw [← String.ofList_append, ← String.ofList_append, ← hpart]
        rw [hwritten]
        exact .entry (by rwa [String.toList_ofList]) (by rwa [String.toList_ofList]) ih

theorem LaysOut.no_comma {written parts : List String} (h : LaysOut written parts)
    (hwritten : ∀ entry ∈ written, IsEntry entry.toList) :
    ∀ part ∈ parts, ',' ∉ part.toList := by
  induction h with
  | nil => simp
  | blank hpart _ ih => exact List.forall_mem_cons.mpr ⟨hpart.no_comma, ih hwritten⟩
  | entry hbefore hafter _ ih =>
      obtain ⟨hentry, hothers⟩ := List.forall_mem_cons.mp hwritten
      refine List.forall_mem_cons.mpr ⟨?_, ih hothers⟩
      simp [hbefore.no_comma, hafter.no_comma, hentry.no_comma]

theorem toList_intercalate_comma (parts : List String) :
    (",".intercalate parts).toList = [','].intercalate (parts.map String.toList) :=
  String.toList_intercalate

/-- The texts that hold given entries are those that lay them out between commas. -/
theorem entries_eq_iff {text : String} {written : List String}
    (hwritten : ∀ entry ∈ written, IsEntry entry.toList) :
    entries text = written ↔ ∃ parts, LaysOut written parts ∧ text = ",".intercalate parts := by
  constructor
  · rintro rfl
    refine ⟨(text.toList.splitOn ',').map String.ofList, laysOut_entriesOf _, ?_⟩
    rw [← String.toList_inj, toList_intercalate_comma, List.map_map]
    simp [Function.comp_def, List.intercalate_splitOn]
  · rintro ⟨parts, hparts, rfl⟩
    have hcommas : ∀ part ∈ parts.map String.toList, ',' ∉ part :=
      List.forall_mem_map.mpr (hparts.no_comma hwritten)
    cases parts with
    | nil =>
        -- No part is written as one empty part is, and neither holds an entry.
        cases hparts
        rfl
    | cons part parts =>
        rw [entries_eq, toList_intercalate_comma,
          List.splitOn_intercalate ',' hcommas (List.cons_ne_nil _ _),
          hparts.entriesOf_eq hwritten]

/-! ## What the notations are read as -/

/-- Reads an item of a list. -/
def readItem (item : Value) : Except Fault SortField :=
  match item with
  | .text text => .ok (ofText text)
  | _ => .error .missingPart

/-- Reads a name with its direction. -/
def readPair (pair : String × Value) : Except Fault SortField := do
  return ⟨pair.1, ← readDirection pair.1 pair.2⟩

theorem readAll_text (text : String) : readAll (.text text) = .ok ((entries text).map ofText) := by
  by_cases h : text = ""
  · subst h
    rfl
  · simp [readAll, Value.isTruthy, h]

theorem readAll_list (items : List Value) : readAll (.list items) = items.mapM readItem := by
  cases items <;> rfl

theorem readAll_object (mapping : List (String × Value)) :
    readAll (.object mapping) = mapping.mapM readPair := by
  cases mapping <;> rfl

theorem readItem_eq_ok_iff {item : Value} {field : SortField} :
    readItem item = .ok field ↔ ∃ text, item = .text text ∧ ofText text = field := by
  unfold readItem
  split
  next text => simp
  next htext =>
    constructor
    · nofun
    · rintro ⟨text, rfl, -⟩
      exact absurd rfl (htext text)

theorem readPair_eq_ok_iff {pair : String × Value} {field : SortField} :
    readPair pair = .ok field ↔
      pair.1 = field.field ∧ readDirection pair.1 pair.2 = .ok field.descending := by
  obtain ⟨name, descending⟩ := field
  cases h : readDirection pair.1 pair.2 <;> simp [readPair, h, bind, Except.bind, pure, Except.pure]

section

variable {fields : List SortField}

/-- The texts that are read as given fields. -/
theorem readAll_text_eq_ok_iff (hnames : ∀ field ∈ fields, IsName field.field) {text : String} :
    readAll (.text text) = .ok fields ↔
      ∃ parts, LaysOut (fields.map entry) parts ∧ text = ",".intercalate parts := by
  have hentries : ∀ written ∈ fields.map entry, IsEntry written.toList :=
    List.forall_mem_map.mpr fun field hfield => (hnames field hfield).isEntry_entry
  rw [readAll_text, ← entries_eq_iff hentries, Except.ok.injEq]
  constructor
  · rintro rfl
    simp [Function.comp_def, entry_ofText]
  · intro h
    rw [h, List.map_map]
    exact (List.map_congr_left fun field hfield => ofText_entry (hnames field hfield).no_sign).trans
      (List.map_id fields)

/-- The one list that is read as given fields. -/
theorem readAll_list_eq_ok_iff (hnames : ∀ field ∈ fields, IsName field.field)
    {items : List Value} :
    readAll (.list items) = .ok fields ↔ items = fields.map fun field => .text field.entry := by
  rw [readAll_list, Relations.mapM_eq_ok_iff_forall₂]
  constructor
  · intro h
    rw [← List.forall₂_eq_eq_eq, List.forall₂_map_right_iff]
    refine h.imp fun item field hitem => ?_
    obtain ⟨text, rfl, rfl⟩ := readItem_eq_ok_iff.mp hitem
    rw [entry_ofText]
  · rintro rfl
    rw [List.forall₂_map_left_iff, List.forall₂_same]
    intro field hfield
    exact congrArg Except.ok (ofText_entry (hnames field hfield).no_sign)

theorem readAll_object_of_spellsOut {mapping : List (String × Value)}
    (h : SpellsOut fields mapping) : readAll (.object mapping) = .ok fields := by
  rw [readAll_object, Relations.mapM_eq_ok_iff_forall₂]
  refine (h.imp fun field pair hpair => ?_).flip
  exact readPair_eq_ok_iff.mpr ⟨hpair.1, readDirection_of_spells hpair.2 _⟩

end

/-- Fields with distinct names are read from an object that spells them out, from the list of their
entries, and from any text that lays the entries out between commas. -/
theorem notations_agree {fields : List SortField} {mapping : List (String × Value)}
    {parts : List String} (hnames : ∀ field ∈ fields, IsName field.field)
    (hdistinct : (fields.map SortField.field).Nodup) (hmapping : SpellsOut fields mapping)
    (hparts : LaysOut (fields.map entry) parts) :
    readAll (.object (Keyed.ofList mapping)) = .ok fields ∧
      readAll (.list (fields.map fun field => .text field.entry)) = .ok fields ∧
      readAll (.text (",".intercalate parts)) = .ok fields := by
  -- Under distinct names no entry of the object takes the place of another.
  have hobject : Keyed.ofList mapping = mapping :=
    Keyed.ofList_eq_self (hmapping.keys_eq ▸ hdistinct)
  refine ⟨?_, (readAll_list_eq_ok_iff hnames).mpr rfl, ?_⟩
  · rw [hobject]
    exact readAll_object_of_spellsOut hmapping
  · exact (readAll_text_eq_ok_iff hnames).mpr ⟨parts, hparts, rfl⟩

/-- Deals by value, the latest due first, and then against the order of titles. -/
def dealOrder : List SortField := [⟨"value", false⟩, ⟨"due date", true⟩, ⟨"title", true⟩]

theorem notations_agree_dealOrder :
    ((∀ field ∈ dealOrder, IsName field.field) ∧ (dealOrder.map SortField.field).Nodup ∧
      SpellsOut dealOrder [("value", .text " Asc\t"), ("due date", .int (-1)),
        ("title", .text "DESCENDING")] ∧
      LaysOut (dealOrder.map entry) [" value ", "", "\t-due date\n", "-title", " "]) ∧
    readAll (.object [("value", .text " Asc\t"), ("due date", .int (-1)),
      ("title", .text "DESCENDING")]) = .ok dealOrder ∧
    readAll (.list [.text "value", .text "-due date", .text "-title"]) = .ok dealOrder ∧
    readAll (.text " value ,,\t-due date\n,-title, ") = .ok dealOrder := by
  have hnames : ∀ field ∈ dealOrder, IsName field.field := by decide
  have hdistinct : (dealOrder.map SortField.field).Nodup := by decide
  have hasc : Spells false (.text " Asc\t") :=
    @Spells.word false "asc" [' '] ['A', 's', 'c'] ['\t'] (by decide) (by decide) (by decide)
      (by decide)
  have hdescending : Spells true (.text "DESCENDING") :=
    @Spells.word true "descending" [] "DESCENDING".toList [] (by decide) (by decide) (by decide)
      (by decide)
  have hmapping : SpellsOut dealOrder [("value", .text " Asc\t"), ("due date", .int (-1)),
      ("title", .text "DESCENDING")] :=
    .cons ⟨rfl, hasc⟩ <| .cons ⟨rfl, .number⟩ <| .cons ⟨rfl, hdescending⟩ .nil
  have hparts : LaysOut (dealOrder.map entry) [" value ", "", "\t-due date\n", "-title", " "] :=
    @LaysOut.entry _ _ "value" " " " " (by decide) (by decide) <|
    .blank (by decide) <|
    @LaysOut.entry _ _ "-due date" "\t" "\n" (by decide) (by decide) <|
    @LaysOut.entry _ _ "-title" "" "" (by decide) (by decide) <|
    .blank (by decide) .nil
  exact ⟨⟨hnames, hdistinct, hmapping, hparts⟩,
    notations_agree hnames hdistinct hmapping hparts⟩

end SortField

end Docbase
