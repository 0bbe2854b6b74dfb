import Docbase.Inflection
import Mathlib.Data.List.Infix

/-! # Plurals that resolve back

The name of a relation to many is the plural of a resource, and the resource is found again by the
singular of that name. The two sets of rules are not inverse to each other: which plurals lead
back is decided by how the word ends.
-/

namespace Docbase.Inflection

/-! ## Words of ASCII characters -/

/-- All characters of a word are ASCII ones. -/
def IsAscii (word : Word) : Prop :=
  ∀ c ∈ word, Text.isAscii c = true

instance (word : Word) : Decidable (IsAscii word) :=
  List.decidableBAll _ word

theorem IsAscii.append {word more : Word} (hword : IsAscii word) (hmore : IsAscii more) :
    IsAscii (word ++ more) := fun c hc =>
  (List.mem_append.1 hc).elim (hword c) (hmore c)

theorem IsAscii.mono {word more : Word} (hword : IsAscii word) (hmore : more ⊆ word) :
    IsAscii more := fun c hc => hword c (hmore hc)

/-- No ASCII character is a sigma, so that none is mapped with regard to its neighbours. -/
theorem lower_eq_map {word : Word} (hword : IsAscii word) : lower word = word.map Char.toLower := by
  suffices ∀ before, Text.lowerFrom before word = word.map Char.toLower from this []
  induction word with
  | nil => exact fun _ => rfl
  | cons c rest ih =>
      intro before
      have hc : Text.isAscii c = true := hword c List.mem_cons_self
      have hsigma : (c == 'Σ') = false := by
        rw [beq_eq_false_iff_ne]
        rintro rfl
        exact absurd hc (by decide)
      rw [Text.lowerFrom, hsigma, Text.lowerChar_ascii hc,
        ih (hword.mono (List.subset_cons_self c rest))]
      rfl

theorem upper_eq_map {word : Word} (hword : IsAscii word) : upper word = word.map Char.toUpper := by
  induction word with
  | nil => rfl
  | cons c rest ih =>
      rw [upper, List.flatMap_cons, Text.upperChar_ascii (hword c List.mem_cons_self)]
      exact congrArg _ (ih (hword.mono (List.subset_cons_self c rest)))

theorem lower_append {word more : Word} (hword : IsAscii word) (hmore : IsAscii more) :
    lower (word ++ more) = lower word ++ lower more := by
  rw [lower_eq_map hword, lower_eq_map hmore, lower_eq_map (hword.append hmore), List.map_append]

theorem length_lower {word : Word} (hword : IsAscii word) : (lower word).length = word.length := by
  rw [lower_eq_map hword, List.length_map]

/-- Another spelling of a word: the same letters in another case. -/
structure Respells (word other : Word) : Prop where
  ascii : IsAscii other
  lower_eq : lower other = lower word

theorem Respells.length_eq {word other : Word} (h : Respells word other) (hword : IsAscii word) :
    other.length = word.length := by
  rw [← length_lower h.ascii, h.lower_eq, length_lower hword]

theorem respells_lower {word : Word} (hword : IsAscii word) : Respells word (lower word) := by
  have hascii : IsAscii (lower word) := by
    rw [lower_eq_map hword]
    exact List.forall_mem_map.2 fun c hc => Text.isAscii_toLower (hword c hc)
  refine ⟨hascii, ?_⟩
  rw [lower_eq_map hascii, lower_eq_map hword, List.map_map]
  exact List.map_congr_left fun c hc => Text.toLower_toLower (hword c hc)

theorem respells_upper {word : Word} (hword : IsAscii word) : Respells word (upper word) := by
  have hascii : IsAscii (upper word) := by
    rw [upper_eq_map hword]
    exact List.forall_mem_map.2 fun c hc => Text.isAscii_toUpper (hword c hc)
  refine ⟨hascii, ?_⟩
  rw [lower_eq_map hascii, upper_eq_map hword, lower_eq_map hword, List.map_map]
  exact List.map_congr_left fun c hc => Text.toLower_toUpper (hword c hc)

theorem Respells.append {word other more rest : Word} (hword : Respells word other)
    (hmore : Respells more rest) (hascii : IsAscii (word ++ more)) :
    Respells (word ++ more) (other ++ rest) := by
  refine ⟨hword.ascii.append hmore.ascii, ?_⟩
  rw [lower_append hword.ascii hmore.ascii, hword.lower_eq, hmore.lower_eq, ← lower_append]
  · exact hascii.mono (List.subset_append_left word more)
  · exact hascii.mono (List.subset_append_right word more)

/-- Whatever the model, an ending keeps its letters. -/
theorem respells_withCaseOf (model : Word) {ending : Word} (hending : IsAscii ending) :
    Respells ending (withCaseOf model ending) := by
  cases model with
  | nil => exact ⟨hending, rfl⟩
  | cons first rest =>
      simp only [withCaseOf]
      split
      next => exact respells_upper hending
      next =>
        split
        next =>
          have hparts : IsAscii (ending.take 1 ++ ending.drop 1) := by
            rwa [List.take_append_drop]
          have hboth := (respells_upper (hending.mono (List.take_subset 1 ending))).append
            (respells_lower (hending.mono (List.drop_subset 1 ending))) hparts
          rwa [List.take_append_drop] at hboth
        next => exact respells_lower hending

/-! ## How words end -/

theorem endsIn_iff {word : Word} {endings : List String} :
    endsIn word endings = true ↔ ∃ ending ∈ endings, ending.toList <:+ word := by
  simp [endsIn]

theorem endsIn_mono {word : Word} {endings more : List String} (h : endsIn word endings = true)
    (hmore : endings ⊆ more) : endsIn word more = true := by
  obtain ⟨ending, hending, hsuffix⟩ := endsIn_iff.1 h
  exact endsIn_iff.2 ⟨ending, hmore hending, hsuffix⟩

theorem endsIn_eq_false_of_subset {word : Word} {endings more : List String}
    (h : endsIn word more = false) (hmore : endings ⊆ more) : endsIn word endings = false :=
  Bool.eq_false_iff.2 fun hendings => Bool.eq_false_iff.1 h (endsIn_mono hendings hmore)

theorem endsIn_append_endings (word : Word) (endings more : List String) :
    endsIn word (endings ++ more) = (endsIn word endings || endsIn word more) :=
  List.any_append

/-- What stands before a common last part decides. -/
theorem endsIn_append (word : Word) (stems : List String) (tail : String) :
    endsIn (word ++ tail.toList) (stems.map (· ++ tail)) = endsIn word stems := by
  rw [Bool.eq_iff_iff, endsIn_iff, endsIn_iff]
  simp [List.suffix_append_self_iff]

/-- Of two endings of one word one ends in the other. -/
theorem endsIn_eq_false_of_apart {word : Word} {endings others : List String}
    (h : endsIn word endings = true)
    (hapart : ∀ ending ∈ endings, ∀ other ∈ others,
      ¬ ending.toList <:+ other.toList ∧ ¬ other.toList <:+ ending.toList) :
    endsIn word others = false := by
  obtain ⟨ending, hending, hword⟩ := endsIn_iff.1 h
  rw [Bool.eq_false_iff]
  intro hothers
  obtain ⟨other, hother, hword'⟩ := endsIn_iff.1 hothers
  obtain ⟨h₁, h₂⟩ := hapart ending hending other hother
  exact (List.suffix_or_suffix_of_suffix hword hword').elim h₁ h₂

theorem splitEnd_append (word tail : Word) :
    splitEnd (word ++ tail) tail.length = (word, tail) := by
  simp [splitEnd, List.splitAt_eq]

theorem length_splitEnd_fst (word : Word) (count : Nat) :
    (splitEnd word count).1.length = word.length - count := by
  simp [splitEnd, List.splitAt_eq]

theorem replaceEnd_append (word tail : Word) (ending : String) :
    replaceEnd (word ++ tail) tail.length ending = word ++ withCaseOf tail ending.toList := by
  rw [replaceEnd, splitEnd_append]

theorem length_replaceEnd (word : Word) (count : Nat) {ending : String}
    (hending : IsAscii ending.toList) :
    (replaceEnd word count ending).length = word.length - count + ending.toList.length := by
  rw [replaceEnd, List.length_append, length_splitEnd_fst,
    (respells_withCaseOf _ hending).length_eq hending]

/-- What is added to a word is the ending in some case. -/
theorem exists_append_eq (word : Word) (ending : String) (hending : IsAscii ending.toList) :
    ∃ tail, append word ending = word ++ tail ∧ Respells ending.toList tail :=
  ⟨_, rfl, respells_withCaseOf _ hending⟩

/-! ## The singular of the name of a relation -/

section Singular

variable {word tail : Word}

theorem lower_append_ending {ending : Word} (hword : IsAscii word) (htail : Respells ending tail) :
    lower (word ++ tail) = lower word ++ lower ending := by
  rw [lower_append hword htail.ascii, htail.lower_eq]

/-- In place of `ies` comes a y in the same case. -/
theorem singularRelationWord_ies (hword : IsAscii word) (htail : Respells "ies".toList tail) :
    singularRelationWord (word ++ tail) = word ++ withCaseOf tail ['y'] := by
  have hies : endsIn (lower (word ++ tail)) ["ies"] = true := by
    rw [lower_append_ending hword htail, endsIn_iff]
    exact ⟨"ies", List.mem_cons_self, List.suffix_append _ _⟩
  have hlength : tail.length = 3 := htail.length_eq (by decide)
  rw [singularRelationWord, if_pos hies, ← hlength, replaceEnd_append]
  rfl

/-- Of `es` after a letter other than i both characters are taken off where the sibilant before
it is one that the singular knows, and otherwise only the s. -/
theorem singularRelationWord_es (hword : IsAscii word) (htail : Respells "es".toList tail)
    (hi : endsIn (lower word) ["i"] = false) : singularRelationWord (word ++ tail) =
      if endsIn (lower word) ["ss", "x", "ch", "sh"] then word else word ++ tail.take 1 := by
  have hsmall : lower (word ++ tail) = lower word ++ "es".toList := lower_append_ending hword htail
  have hies : endsIn (lower word ++ "es".toList) ["ies"] = false :=
    (endsIn_append (lower word) ["i"] "es").trans hi
  have hsibilant : endsIn (lower word ++ "es".toList) ["sses", "xes", "ches", "shes"] =
      endsIn (lower word) ["ss", "x", "ch", "sh"] :=
    endsIn_append (lower word) ["ss", "x", "ch", "sh"] "es"
  have hes : endsIn (lower word ++ "es".toList) ["es"] = true :=
    endsIn_iff.2 ⟨"es", List.mem_cons_self, List.suffix_append _ _⟩
  have hs : endsIn (lower word ++ "es".toList) ["s"] = true :=
    endsIn_iff.2 ⟨"s", List.mem_cons_self, lower word ++ ['e'], by simp⟩
  have hss : endsIn (lower word ++ "es".toList) ["ss"] = false :=
    endsIn_eq_false_of_apart hes (by decide)
  have hlength : tail.length = 2 := htail.length_eq (by decide)
  simp only [singularRelationWord, hsmall, hies, hsibilant, hs, hss, Bool.false_eq_true, if_false,
    Bool.not_false, Bool.and_self, if_true]
  split
  · rw [← hlength, splitEnd_append]
  · obtain ⟨e, s, rfl⟩ := List.length_eq_two.1 hlength
    have hsplit := splitEnd_append (word ++ [e]) [s]
    rw [List.append_assoc] at hsplit
    exact congrArg Prod.fst hsplit

/-- Of a plain s nothing else is taken off, unless the characters before it make it one of the
longer endings. -/
theorem singularRelationWord_s (hword : IsAscii word) (htail : Respells "s".toList tail)
    (hs : endsIn (lower word) ["s"] = false) : singularRelationWord (word ++ tail) =
      if endsIn (lower word) ["ie"] then replaceEnd (word ++ tail) 3 "y"
      else if endsIn (lower word) ["sse", "xe", "che", "she"] then (splitEnd (word ++ tail) 2).1
      else word := by
  have hsmall : lower (word ++ tail) = lower word ++ "s".toList := lower_append_ending hword htail
  have hies : endsIn (lower word ++ "s".toList) ["ies"] = endsIn (lower word) ["ie"] :=
    endsIn_append (lower word) ["ie"] "s"
  have hes : endsIn (lower word ++ "s".toList) ["sses", "xes", "ches", "shes"] =
      endsIn (lower word) ["sse", "xe", "che", "she"] :=
    endsIn_append (lower word) ["sse", "xe", "che", "she"] "s"
  have hends : endsIn (lower word ++ "s".toList) ["s"] = true :=
    endsIn_iff.2 ⟨"s", List.mem_cons_self, List.suffix_append _ _⟩
  have hss : endsIn (lower word ++ "s".toList) ["ss"] = false :=
    (endsIn_append (lower word) ["s"] "s").trans hs
  have hlength : tail.length = 1 := htail.length_eq (by decide)
  have hsplit : (splitEnd (word ++ tail) 1).1 = word := by rw [← hlength, splitEnd_append]
  simp only [singularRelationWord, hsmall, hies, hes, hends, hss, hsplit, Bool.not_false,
    Bool.and_self, if_true]

end Singular

/-! ## The plural of a regular word -/

/-- A name that takes its plural from the rules: letters, and in none of the tables. -/
structure IsRegular (text : String) : Prop where
  nonempty : text ≠ ""
  letters : ∀ c ∈ text.toList, Text.isAsciiLetter c = true
  not_irregular : Text.lower text ∉ irregulars.map (·.1)
  not_uncountable : Text.lower text ∉ uncountables
  not_fWord : Text.lower text ∉ fWords
  not_oWord : Text.lower text ∉ oWords

section Regular

variable {text : String}

theorem IsRegular.isAscii (h : IsRegular text) : IsAscii text.toList :=
  fun c hc => Text.isAscii_of_isAsciiLetter (h.letters c hc)

theorem IsRegular.pluralWord_eq (h : IsRegular text) : pluralWord text.toList =
    if endsInY (lower text.toList) then replaceEnd text.toList 1 "ies"
    else if endsIn (lower text.toList) ["s", "x", "z", "ch", "sh"] then append text.toList "es"
    else append text.toList "s" := by
  have hknown : String.ofList (lower text.toList) = Text.lower text := rfl
  have hempty : text.toList.isEmpty = false := by
    simpa using h.nonempty
  have hlookup : irregulars.lookup (Text.lower text) = none := by
    rw [List.lookup_eq_none_iff]
    rintro ⟨singular, plural⟩ hentry
    rw [bne_iff_ne]
    rintro rfl
    exact h.not_irregular (List.mem_map_of_mem hentry)
  simp only [pluralWord, hknown, hempty, hlookup, h.not_uncountable, h.not_fWord, h.not_oWord,
    Bool.false_eq_true, if_false]

/-- A word that ends in y after a consonant ends in y. -/
theorem endsIn_of_endsInY {word : Word} (hbreak : '\n' ∉ word) (h : endsInY word = true) :
    endsIn word ["y"] = true := by
  have hlast : word.getLast? ≠ some '\n' := fun hlast => hbreak (List.mem_of_getLast? hlast)
  rw [endsInY, withoutFinalBreak, if_neg hlast] at h
  split at h
  next c rest heq =>
    refine endsIn_iff.2 ⟨"y", List.mem_cons_self, ?_⟩
    rw [← List.reverse_prefix, heq]
    exact ⟨c :: rest, rfl⟩
  next => exact absurd h Bool.false_ne_true

theorem IsRegular.not_mem_break (h : IsRegular text) : '\n' ∉ lower text.toList := by
  rw [lower_eq_map h.isAscii]
  intro hbreak
  obtain ⟨c, hc, hlower⟩ := List.mem_map.1 hbreak
  have hletters : Text.isAsciiLetter c = true → c.toLower ≠ '\n' :=
    Text.forall_ascii (fun c => Text.isAsciiLetter c = true → c.toLower ≠ '\n') (by decide)
      (h.isAscii c hc)
  exact hletters (h.letters c hc) hlower

/-- The y comes back in the case that its ending has kept. -/
theorem IsRegular.singular_ies (h : IsRegular text)
    (hy : endsInY (lower text.toList) = true) :
    singularRelationWord (replaceEnd text.toList 1 "ies") = text.toList := by
  have hsuffix := endsIn_of_endsInY h.not_mem_break hy
  have hascii := h.isAscii
  revert hsuffix hascii
  rcases List.eq_nil_or_concat' text.toList with hnil | ⟨stem, c, hword⟩
  · exact absurd (String.toList_eq_nil_iff.1 hnil) h.nonempty
  · rw [hword]
    intro hsuffix hascii
    obtain ⟨hstem, hc⟩ : IsAscii stem ∧ Text.isAscii c = true :=
      ⟨hascii.mono (List.subset_append_left _ _), hascii c (by simp)⟩
    have hlower : c.toLower = 'y' := by
      rw [lower_eq_map hascii, List.map_append, endsIn_iff] at hsuffix
      simpa [eq_comm] using hsuffix
    have hcases : c = 'y' ∨ c = 'Y' :=
      Text.forall_ascii (fun c => c.toLower = 'y' → c = 'y' ∨ c = 'Y') (by decide) hc hlower
    have hreplace : replaceEnd (stem ++ [c]) 1 "ies" = stem ++ withCaseOf [c] "ies".toList :=
      replaceEnd_append stem [c] "ies"
    rw [hreplace, singularRelationWord_ies hstem
      (respells_withCaseOf _ (by decide))]
    obtain rfl | rfl := hcases
    · exact congrArg (stem ++ ·) (by decide)
    · exact congrArg (stem ++ ·) (by decide)

/-- Of the sibilants the singular does not know z and a single s. -/
theorem IsRegular.singular_es_iff (h : IsRegular text)
    (hsibilant : endsIn (lower text.toList) ["s", "x", "z", "ch", "sh"] = true) :
    singularRelationWord (append text.toList "es") = text.toList ↔
      endsIn (lower text.toList) ["ss", "x", "ch", "sh"] = true := by
  obtain ⟨tail, happend, htail⟩ := exists_append_eq text.toList "es" (by decide)
  have hi : endsIn (lower text.toList) ["i"] = false :=
    endsIn_eq_false_of_apart hsibilant (by decide)
  rw [happend, singularRelationWord_es h.isAscii htail hi]
  split
  next hknown => exact iff_of_true rfl hknown
  next hknown =>
    refine iff_of_false (fun heq => ?_) hknown
    have hone := congrArg List.length (List.append_right_eq_self.1 heq)
    rw [List.length_take, htail.length_eq (by decide)] at hone
    exact absurd hone (by decide)

/-- What looks like a longer ending is taken off with a part of the word. -/
theorem IsRegular.singular_s_iff (h : IsRegular text)
    (hs : endsIn (lower text.toList) ["s"] = false) :
    singularRelationWord (append text.toList "s") = text.toList ↔
      endsIn (lower text.toList) ["ie", "sse", "xe", "che", "she"] = false := by
  obtain ⟨tail, happend, htail⟩ := exists_append_eq text.toList "s" (by decide)
  have hlength : (text.toList ++ tail).length = text.toList.length + 1 := by
    rw [List.length_append, htail.length_eq (by decide)]
    rfl
  have hlonger : endsIn (lower text.toList) ["ie", "sse", "xe", "che", "she"] =
      (endsIn (lower text.toList) ["ie"] ||
        endsIn (lower text.toList) ["sse", "xe", "che", "she"]) :=
    endsIn_append_endings _ ["ie"] ["sse", "xe", "che", "she"]
  have htwo (hends : endsIn (lower text.toList) ["ie", "sse", "xe", "che", "she"] = true) :
      2 ≤ text.toList.length := by
    obtain ⟨ending, hending, hsuffix⟩ := endsIn_iff.1 hends
    have hlong : ∀ ending ∈ ["ie", "sse", "xe", "che", "she"], 2 ≤ ending.toList.length := by
      decide
    exact (hlong ending hending).trans (length_lower h.isAscii ▸ hsuffix.length_le)
  rw [happend, singularRelationWord_s h.isAscii htail hs]
  split
  next hie =>
    have hends := hlonger.trans (by rw [hie, Bool.true_or])
    have hword := htwo hends
    refine iff_of_false (fun heq => ?_) (by simp [hends])
    have hcount := congrArg List.length heq
    rw [length_replaceEnd _ _ (by decide), hlength] at hcount
    change text.toList.length + 1 - 3 + 1 = text.toList.length at hcount
    omega
  next hie =>
    split
    next hsibilant =>
      have hends := hlonger.trans (by rw [hsibilant, Bool.or_true])
      have hword := htwo hends
      refine iff_of_false (fun heq => ?_) (by simp [hends])
      have hcount := congrArg List.length heq
      rw [length_splitEnd_fst, hlength] at hcount
      omega
    next hsibilant => exact iff_of_true rfl (by simp [hlonger, hie, hsibilant])

end Regular

/-- The ends of a word, in small letters, by which its plural leads back to it. -/
def ResolvesBack (small : Word) : Prop :=
  endsIn small ["z", "ie", "sse", "xe", "che", "she"] = false ∧
    (endsIn small ["s"] = true → endsIn small ["ss"] = true)

instance (small : Word) : Decidable (ResolvesBack small) :=
  inferInstanceAs (Decidable (_ ∧ _))

theorem resolvesBack_iff_of_sibilant {small : Word}
    (hsibilant : endsIn small ["s", "x", "z", "ch", "sh"] = true) :
    ResolvesBack small ↔ endsIn small ["ss", "x", "ch", "sh"] = true := by
  constructor
  · rintro ⟨hlost, hdouble⟩
    obtain ⟨ending, hending, hsuffix⟩ := endsIn_iff.1 hsibilant
    simp only [List.mem_cons, List.not_mem_nil, or_false] at hending
    obtain rfl | hrest := hending
    · have hss : endsIn small ["ss"] = true := hdouble (endsIn_iff.2 ⟨"s", by simp, hsuffix⟩)
      exact endsIn_mono hss (by simp)
    · obtain rfl | rfl | rfl | rfl := hrest
      · exact endsIn_iff.2 ⟨"x", by simp, hsuffix⟩
      · have hz : endsIn small ["z"] = true := endsIn_iff.2 ⟨"z", by simp, hsuffix⟩
        exact absurd (endsIn_mono hz (by simp)) (Bool.eq_false_iff.1 hlost)
      · exact endsIn_iff.2 ⟨"ch", by simp, hsuffix⟩
      · exact endsIn_iff.2 ⟨"sh", by simp, hsuffix⟩
  · intro hknown
    refine ⟨endsIn_eq_false_of_apart hknown (by decide), fun hs => ?_⟩
    have hothers : endsIn small ["x", "ch", "sh"] = false :=
      endsIn_eq_false_of_apart hs (by decide)
    rwa [← List.singleton_append, endsIn_append_endings, hothers, Bool.or_false] at hknown

theorem resolvesBack_iff_of_not_sibilant {small : Word}
    (hsibilant : endsIn small ["s", "x", "z", "ch", "sh"] = false) :
    ResolvesBack small ↔ endsIn small ["ie", "sse", "xe", "che", "she"] = false := by
  have hz : endsIn small ["z"] = false := endsIn_eq_false_of_subset hsibilant (by simp)
  have hs : endsIn small ["s"] = false := endsIn_eq_false_of_subset hsibilant (by simp)
  rw [ResolvesBack, ← List.singleton_append, endsIn_append_endings, hz, Bool.false_or, hs]
  exact and_iff_left fun h => absurd h Bool.false_ne_true

/-- The plural of a regular name leads back to the name except after a z, after an s that stands
alone, and after the ends that an s makes into one of the longer endings. -/
theorem singularRelation_plural_eq_iff {text : String} (h : IsRegular text) :
    singularRelation (plural text) = text ↔ ResolvesBack (lower text.toList) := by
  have hwords : singularRelation (plural text) = text ↔
      singularRelationWord (pluralWord text.toList) = text.toList := by
    rw [singularRelation, plural, String.toList_ofList, ← String.toList_inj, String.toList_ofList]
  rw [hwords, h.pluralWord_eq]
  split
  next hy =>
    have hends := endsIn_of_endsInY h.not_mem_break hy
    have hlonger : endsIn (lower text.toList) ["z", "ie", "sse", "xe", "che", "she"] = false :=
      endsIn_eq_false_of_apart hends (by decide)
    have hs : endsIn (lower text.toList) ["s"] = false :=
      endsIn_eq_false_of_apart hends (by decide)
    refine iff_of_true (h.singular_ies hy) ⟨hlonger, fun htrue => ?_⟩
    exact absurd htrue (by simp [hs])
  next =>
    split
    next hsibilant =>
      rw [h.singular_es_iff hsibilant, resolvesBack_iff_of_sibilant hsibilant]
    next hsibilant =>
      have hnone := Bool.eq_false_iff.2 hsibilant
      have hs : endsIn (lower text.toList) ["s"] = false :=
        endsIn_eq_false_of_subset hnone (by simp)
      rw [h.singular_s_iff hs, resolvesBack_iff_of_not_sibilant hnone]

/-- `Classes` leads back to `Class`, but `Quizes` leads to `Quize`. -/
theorem singularRelation_plural_class_quiz :
    (IsRegular "Class" ∧ singularRelation (plural "Class") = "Class") ∧
      (IsRegular "Quiz" ∧ singularRelation (plural "Quiz") ≠ "Quiz") := by
  have hclass : IsRegular "Class" :=
    ⟨by decide, List.all_eq_true.1 rfl, by decide, by decide, by decide, by decide⟩
  have hquiz : IsRegular "Quiz" :=
    ⟨by decide, List.all_eq_true.1 rfl, by decide, by decide, by decide, by decide⟩
  exact ⟨⟨hclass, (singularRelation_plural_eq_iff hclass).2 (by decide)⟩,
    hquiz, fun h => absurd ((singularRelation_plural_eq_iff hquiz).1 h) (by decide)⟩

end Docbase.Inflection
