import Docbase.Proofs.Grouping

/-! # Partitions into groups

A group takes all documents whose values are gathered with that of its first one, and leaves the
others to the groups after it. No document is lost or taken twice, whatever the values are. As long
as none of them is not a number, values are gathered if they have the same mark. Then there is one
group for each mark, in the order in which the marks first occur, and a permutation of the documents
permutes the groups.
-/

namespace Docbase

/-- What holds of no items and of a first item with others, if it holds of any choice of the others,
holds of all items. -/
theorem filter_induction {α : Type} {motive : List α → Prop} (nil : motive [])
    (cons : ∀ item rest, (∀ kept : α → Bool, motive (rest.filter kept)) → motive (item :: rest))
    (items : List α) : motive items := by
  induction hlength : items.length using Nat.strong_induction_on generalizing items with
  | _ length ih =>
      cases items with
      | nil => exact nil
      | cons item rest =>
          refine cons item rest fun kept => ih _ ?_ _ rfl
          rw [← hlength]
          exact Nat.lt_succ_of_le (List.length_filter_le ..)

namespace Value

/-! ## Marks -/

/-- What a value is gathered by. -/
inductive Mark where
  /-- The text of a list or an object. -/
  | shown (text : String)
  /-- The text and the flags of a pattern. -/
  | pattern (source : String) (flags : Pattern.Flags)
  /-- The identity of anything else. -/
  | plain (identity : Value ⊕ Double.Place)

/-- The mark of a value. -/
def mark : Value → Mark
  | list items => .shown (list items).quoted
  | object fields => .shown (object fields).quoted
  | pattern p => .pattern p.source p.flags
  | value => .plain value.identity

section

variable {a b : Value} (ha : a ≠ .double .nan) (hb : b ≠ .double .nan)

include ha hb

theorem sameKind_iff_mark (hmutable : a.isMutable = false) (hmutable' : b.isMutable = false) :
    a.sameKind b = true ↔ a.mark = b.mark := by
  cases a with
  | list items => cases hmutable
  | object fields => cases hmutable
  | double x =>
      obtain ⟨place, hplace⟩ := exists_place fun h => ha (congrArg double h)
      cases b with
      | list items => cases hmutable'
      | object fields => cases hmutable'
      | double y =>
          obtain ⟨place', hplace'⟩ := exists_place fun h => hb (congrArg double h)
          simp [sameKind, eq, samePlace, place?, mark, identity, hplace, hplace']
      | _ => simp [sameKind, eq, samePlace, place?, mark, identity, hplace]
  | _ =>
      cases b with
      | list items => cases hmutable'
      | object fields => cases hmutable'
      | double y =>
          obtain ⟨place, hplace⟩ := exists_place fun h => hb (congrArg double h)
          simp [sameKind, eq, samePlace, place?, mark, identity, hplace, isNull]
      | _ => simp [sameKind, eq, samePlace, place?, mark, identity, isNull, BEq.beq]

/-- Groups tell values apart by their marks. -/
theorem isGathered_iff_mark : a.isGathered b = true ↔ a.mark = b.mark := by
  rw [isGathered, GroupKey.ofValue, GroupKey.ofValue]
  cases hmutable : a.isMutable <;> cases hmutable' : b.isMutable
  case false.false => exact sameKind_iff_mark ha hb hmutable hmutable'
  -- A list or an object is told apart by its text, from anything else by having one.
  all_goals
    cases a <;> cases hmutable <;> cases b <;> cases hmutable' <;> simp [GroupKey.same, mark]

end

/-- The values that come first among those gathered with them. -/
def firsts (values : List Value) : List Value :=
  values.eraseDupsBy fun value first => first.isGathered value

theorem firsts_cons (value : Value) (rest : List Value) : firsts (value :: rest) =
    value :: firsts (rest.filter fun other => !value.isGathered other) := by
  rw [firsts, List.eraseDupsBy_cons]
  simp [firsts]

theorem mem_of_mem_firsts {values : List Value} {value : Value} (h : value ∈ firsts values) :
    value ∈ values := by
  induction values using filter_induction with
  | nil => exact h
  | cons first rest ih =>
      rw [firsts_cons] at h
      rcases List.mem_cons.mp h with rfl | hrest
      · exact .head _
      · exact .tail _ (List.mem_of_mem_filter (ih _ hrest))

theorem firsts_pairwise (values : List Value) :
    (firsts values).Pairwise fun first later => first.isGathered later = false := by
  induction values using filter_induction with
  | nil => exact .nil
  | cons first rest ih =>
      rw [firsts_cons]
      refine .cons (fun later hlater => ?_) (ih _)
      have hkept := (List.mem_filter.mp (mem_of_mem_firsts hlater)).2
      exact Bool.not_eq_true' _ ▸ hkept

section

variable {values : List Value} (hnumbers : ∀ value ∈ values, value ≠ .double .nan)

include hnumbers

theorem nodup_marks_firsts : ((firsts values).map mark).Nodup := by
  refine List.pairwise_map.mpr ((firsts_pairwise values).imp_of_mem ?_)
  intro first later hfirst hlater hapart heq
  have hfirst := hnumbers first (mem_of_mem_firsts hfirst)
  have hlater := hnumbers later (mem_of_mem_firsts hlater)
  rw [(isGathered_iff_mark hfirst hlater).mpr heq] at hapart
  cases hapart

theorem mem_marks_firsts {m : Mark} :
    m ∈ (firsts values).map mark ↔ m ∈ values.map mark := by
  induction values using filter_induction with
  | nil => rfl
  | cons value rest ih =>
      obtain ⟨hvalue, hrest⟩ := List.forall_mem_cons.mp hnumbers
      rw [firsts_cons, List.map_cons, List.map_cons, List.mem_cons, List.mem_cons,
        ih _ fun other hother => hrest other (List.mem_of_mem_filter hother)]
      -- What is passed over has the mark of the first value.
      refine ⟨fun h => h.imp_right fun hmem => ?_, fun h => ?_⟩
      · exact (List.filter_sublist.map mark).subset hmem
      · rcases h with hfirst | hmem
        · exact .inl hfirst
        · obtain ⟨other, hother, rfl⟩ := List.mem_map.mp hmem
          by_cases hsame : value.mark = other.mark
          · exact .inl hsame.symm
          · refine .inr (List.mem_map.mpr ⟨other, List.mem_filter.mpr ⟨hother, ?_⟩, rfl⟩)
            rw [Bool.not_eq_true', Bool.eq_false_iff, Ne,
              isGathered_iff_mark hvalue (hrest other hother)]
            exact hsame

/-- Each value is gathered with just one of the first ones. -/
theorem countP_firsts {value : Value} (hvalue : value ∈ values) :
    (firsts values).countP (·.isGathered value) = 1 := by
  classical
  have hmem := (mem_marks_firsts hnumbers).mpr (List.mem_map_of_mem hvalue)
  have hcount := List.count_eq_one_of_mem (nodup_marks_firsts hnumbers) hmem
  rw [List.count_eq_countP, List.countP_map] at hcount
  rw [← hcount]
  refine List.countP_congr fun first hfirst => ?_
  have hfirst := hnumbers first (mem_of_mem_firsts hfirst)
  rw [isGathered_iff_mark hfirst (hnumbers value hvalue)]
  exact beq_iff_eq.symm

theorem marks_firsts_perm {values' : List Value} (hperm : values'.Perm values) :
    ((firsts values).map mark).Perm ((firsts values').map mark) := by
  have hnumbers' : ∀ value ∈ values', value ≠ .double .nan :=
    fun value hvalue => hnumbers value (hperm.mem_iff.mp hvalue)
  refine (List.perm_ext_iff_of_nodup (nodup_marks_firsts hnumbers)
    (nodup_marks_firsts hnumbers')).mpr fun m => ?_
  rw [mem_marks_firsts hnumbers, mem_marks_firsts hnumbers']
  exact (hperm.map mark).mem_iff.symm

end

end Value

namespace Group

/-! ## What a group takes -/

variable {valueOf : Document → Value} {docs : List Document}

/-- The first group takes what is gathered with it and leaves the rest to the others. -/
theorem foldl_gather_cons (group : Group) (groups : List Group) :
    docs.foldl (fun groups doc => gather (valueOf doc) doc groups) (group :: groups) =
      { group with docs := group.docs ++
          docs.filter fun doc => group.key.same (.ofValue (valueOf doc)) } ::
        (docs.filter fun doc => !group.key.same (.ofValue (valueOf doc))).foldl
          (fun groups doc => gather (valueOf doc) doc groups) groups := by
  induction docs generalizing group groups with
  | nil => simp
  | cons doc rest ih =>
      rw [List.foldl_cons, gather]
      by_cases hsame : group.key.same (.ofValue (valueOf doc)) = true
      · simp [hsame, ih]
      · simp [hsame, ih]

theorem ofDocuments_cons (doc : Document) (rest : List Document) :
    ofDocuments valueOf (doc :: rest) =
      ⟨.ofValue (valueOf doc), valueOf doc,
          doc :: rest.filter fun other => (valueOf doc).isGathered (valueOf other)⟩ ::
        ofDocuments valueOf
          (rest.filter fun other => !(valueOf doc).isGathered (valueOf other)) :=
  foldl_gather_cons ⟨.ofValue (valueOf doc), valueOf doc, [doc]⟩ []

/-- Groups hold all documents, and each of them once. -/
theorem flatMap_ofDocuments_perm (valueOf : Document → Value) (docs : List Document) :
    ((ofDocuments valueOf docs).flatMap Group.docs).Perm docs := by
  induction docs using filter_induction with
  | nil => rfl
  | cons doc rest ih =>
      rw [ofDocuments_cons, List.flatMap_cons]
      exact .cons doc (((ih _).append_left _).trans (List.filter_append_perm _ rest))

/-- A group has the value of its first document. -/
theorem headed_ofDocuments {group : Group} (h : group ∈ ofDocuments valueOf docs) :
    ∃ first rest, group.docs = first :: rest ∧ valueOf first = group.value := by
  induction docs using filter_induction with
  | nil => cases h
  | cons doc rest ih =>
      rw [ofDocuments_cons] at h
      rcases List.mem_cons.mp h with rfl | hrest
      · exact ⟨doc, _, rfl, rfl⟩
      · exact ih _ hrest

/-- The documents whose values are gathered with a value. -/
def among (valueOf : Document → Value) (docs : List Document) (value : Value) : Group :=
  ⟨.ofValue value, value, docs.filter fun doc => value.isGathered (valueOf doc)⟩

section

variable {doc : Document} {rest : List Document} (hnumbers : ∀ other ∈ doc :: rest,
  valueOf other ≠ .double .nan)

include hnumbers

/-- The first group takes nothing of what is gathered with a value that it is told apart from. -/
theorem among_filter {value : Value} (hvalue : value ≠ .double .nan)
    (hapart : (valueOf doc).isGathered value = false) :
    among valueOf (rest.filter fun other => !(valueOf doc).isGathered (valueOf other)) value =
      among valueOf (doc :: rest) value := by
  obtain ⟨hdoc, hrest⟩ := List.forall_mem_cons.mp hnumbers
  rw [Bool.eq_false_iff, Ne, Value.isGathered_iff_mark hdoc hvalue] at hapart
  have hnone : value.isGathered (valueOf doc) = false := by
    rw [Bool.eq_false_iff, Ne, Value.isGathered_iff_mark hvalue hdoc, eq_comm]
    exact hapart
  have hkept : ∀ other ∈ rest, (value.isGathered (valueOf other) &&
      !(valueOf doc).isGathered (valueOf other)) = value.isGathered (valueOf other) := by
    intro other hother
    rw [Bool.and_eq_left_iff_imp, Bool.not_eq_true', Bool.eq_false_iff, Ne,
      Value.isGathered_iff_mark hvalue (hrest other hother),
      Value.isGathered_iff_mark hdoc (hrest other hother)]
    exact fun heq hdoc => hapart (hdoc.trans heq.symm)
  simp only [among, List.filter_cons, hnone, List.filter_filter, List.filter_congr hkept]
  rfl

theorem among_self : among valueOf (doc :: rest) (valueOf doc) =
    ⟨.ofValue (valueOf doc), valueOf doc,
      doc :: rest.filter fun other => (valueOf doc).isGathered (valueOf other)⟩ := by
  have hdoc := hnumbers doc (.head _)
  have hself := (Value.isGathered_iff_mark hdoc hdoc).mpr rfl
  simp only [among, List.filter_cons, hself, if_true]

end

/-- There is a group for each value that comes first, which holds all that is gathered with it. -/
theorem ofDocuments_eq (hnumbers : ∀ doc ∈ docs, valueOf doc ≠ .double .nan) :
    ofDocuments valueOf docs = (Value.firsts (docs.map valueOf)).map (among valueOf docs) := by
  induction docs using filter_induction with
  | nil => rfl
  | cons doc rest ih =>
      have hrest (kept : Document → Bool) : ∀ other ∈ rest.filter kept,
          valueOf other ≠ .double .nan :=
        fun other hother => hnumbers other (.tail _ (List.mem_of_mem_filter hother))
      rw [ofDocuments_cons, ih _ (hrest _), List.map_cons, Value.firsts_cons, List.map_cons,
        among_self hnumbers, List.filter_map]
      refine congrArg _ (List.map_congr_left fun value hvalue => ?_)
      obtain ⟨other, hother, rfl⟩ := List.mem_map.mp (Value.mem_of_mem_firsts hvalue)
      refine among_filter hnumbers (hrest _ other hother) ?_
      exact Bool.not_eq_true' _ ▸ (List.mem_filter.mp hother).2

end Group

end Docbase
