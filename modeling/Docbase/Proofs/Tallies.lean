import Docbase.Proofs.Columns
import Docbase.Proofs.Partition

/-! # Grouping loses and duplicates nothing

A grouping by a field gives one output for every value that is told apart, with the documents
gathered under it summed up. Counts add up to the number of documents, and sums of integers to the
sum over all of them. The order in which the documents come decides on the order of the outputs, on
which of several equal values stands for them, and on how doubles are rounded, but on nothing else.
-/

namespace Docbase

/-- Of the items of two lists whose images are the same up to their order, the second can be put in
the order of the first. -/
theorem exists_order {α β γ : Type} {f : α → γ} {g : β → γ} {items : List α} {others : List β}
    (h : (items.map f).Perm (others.map g)) : ∃ order, order.Perm others ∧
      List.Forall₂ (fun item other => f item = g other) items order := by
  have hself : List.Forall₂ (fun image other => image = g other) (others.map g) others :=
    List.forall₂_map_left_iff.mpr (List.forall₂_same.mpr fun _ _ => rfl)
  obtain ⟨order, hitems, horder⟩ := List.perm_comp_forall₂ h hself
  exact ⟨order, horder, List.forall₂_map_left_iff.mp hitems⟩

theorem exists_forall₂ {α β : Type} {R : α → β → Prop} {items : List α}
    (h : ∀ item ∈ items, ∃ other, R item other) : ∃ others, List.Forall₂ R items others := by
  induction items with
  | nil => exact ⟨[], .nil⟩
  | cons item rest ih =>
      obtain ⟨⟨other, hother⟩, hrest⟩ := List.forall_mem_cons.mp h
      obtain ⟨others, hothers⟩ := ih hrest
      exact ⟨other :: others, .cons hother hothers⟩

namespace Pipeline

/-! ## Grouping by a field -/

section

variable {k : String} {docs docs' outputs outputs' : List Document}
  {fields : List (String × Value)} {journal : Journal}

/-- The documents of the group that an output is about. -/
def share (k : String) (docs : List Document) (output : Document) : List Document :=
  docs.filter fun doc => (output.get idKey).isGathered (doc.get k)

/-- What a grouping by a field returns: an output for each value that comes first among equal ones,
with the documents summed up that are gathered under it. -/
structure Grouped (k : String) (fields : List (String × Value)) (docs outputs : List Document) :
    Prop where
  identified : outputs.map (·.get idKey) = Value.firsts (docs.map (·.get k))
  summed : ∀ output ∈ outputs, ∃ column, columns (share k docs output) fields = .ok column ∧
    (idKey, output.get idKey) :: column = output

/-- What the outputs for a group have in common if the documents come in another order. -/
structure Matches (k : String) (fields : List (String × Value)) (docs docs' : List Document)
    (output output' : Document) : Prop where
  key : (output.get idKey).isGathered (output'.get idKey) = true
  share : (share k docs' output').Perm (share k docs output)
  same : ∀ name accumulator operand, SumsUp fields name accumulator operand →
    accumulator.Exact docs operand → output'.get name = output.get name

/-- What a grouping gives if the documents come in another order. -/
structure Reorders (k : String) (fields : List (String × Value)) (docs outputs docs' :
    List Document) : Prop where
  matched : ∀ journal outputs', ((stage docs' (grouping fields)).apply journal).1 = .ok outputs' →
    ∃ order, order.Perm outputs' ∧ List.Forall₂ (Matches k fields docs docs') outputs order
  returned : (∀ name accumulator operand, SumsUp fields name accumulator operand →
      accumulator.Exact docs operand) →
    ∀ journal, ∃ outputs', ((stage docs' (grouping fields)).apply journal).1 = .ok outputs'

/-- There is one output for each value that is told apart, identified by the first of its kind, and
each document contributes to just one. Counts are the numbers of documents of the groups, and sums
of a field those of the numbers in it, from left to right. Counts add up to the number of all
documents, and integers to the sum that there is without groups. -/
structure Tallies (k : String) (fields : List (String × Value)) (docs outputs : List Document) :
    Prop where
  identified : outputs.map (·.get idKey) = Value.firsts (docs.map (·.get k))
  apart : outputs.Pairwise fun earlier later =>
    (earlier.get idKey).isGathered (later.get idKey) = false
  headed : ∀ output ∈ outputs, ∃ first rest, share k docs output = first :: rest ∧
    first.get k = output.get idKey
  once : ∀ doc ∈ docs,
    outputs.countP (fun output => (output.get idKey).isGathered (doc.get k)) = 1
  parted : (outputs.flatMap (share k docs)).Perm docs
  applied : ∀ name accumulator operand, SumsUp fields name accumulator operand →
    ∀ output ∈ outputs,
      accumulator.apply (share k docs output) operand = .ok (output.get name)
  counted : ∀ name operand, SumsUp fields name .count operand →
    (∀ output ∈ outputs, output.get name = .int (share k docs output).length) ∧
      (outputs.map fun output => (output.get name).integer).sum = docs.length
  summed : ∀ name operand field, SumsUp fields name .sum operand →
    Accumulator.fieldOf? operand = some field → ∀ output ∈ outputs, ∃ total,
      Quantity.sum ((share k docs output).filterMap fun doc => (doc.get field).number?) =
        .ok total ∧ output.get name = total.toValue
  added : ∀ name operand field, SumsUp fields name .sum operand →
    Accumulator.fieldOf? operand = some field →
      (∀ doc ∈ docs, ∀ x, doc.get field ≠ .double x) →
        ∃ sums : List Int, outputs.map (·.get name) = sums.map .int ∧ IsTotal docs field sums.sum
  reordered : ∀ docs', docs'.Perm docs → Reorders k fields docs outputs docs'

section

variable (hkeys : (Keyed.keys fields).Nodup)
  (hvalue : groupValue (Document.get fields idKey) = .ok fun doc => doc.get k)
  (hnumbers : ∀ doc ∈ docs, doc.get k ≠ .double .nan)

include hkeys hvalue hnumbers

theorem grouped_iff : ((stage docs (grouping fields)).apply journal).1 = .ok outputs ↔
    Grouped k fields docs outputs := by
  rw [grouping_returns_iff hkeys hvalue, Group.ofDocuments_eq hnumbers,
    List.forall₂_map_left_iff]
  constructor
  · intro h
    have hidentified : Value.firsts (docs.map (·.get k)) = outputs.map (·.get idKey) := by
      rw [← List.forall₂_eq_eq_eq, List.forall₂_map_right_iff]
      refine h.imp ?_
      rintro value _ ⟨column, -, rfl⟩
      exact (get_idKey_cons value column).symm
    rw [hidentified, List.forall₂_map_left_iff, List.forall₂_same] at h
    exact ⟨hidentified.symm, h⟩
  · intro h
    rw [← h.identified, List.forall₂_map_left_iff, List.forall₂_same]
    exact h.summed

/-- Outputs come of any documents that can be summed up group by group. -/
theorem exists_grouped (h : ∀ value ∈ docs.map (·.get k),
    ∃ column, columns (Group.among (·.get k) docs value).docs fields = .ok column) :
    ∃ outputs, ((stage docs (grouping fields)).apply journal).1 = .ok outputs := by
  have houtputs : ∀ value ∈ Value.firsts (docs.map (·.get k)), ∃ output, ∃ column,
      columns (Group.among (·.get k) docs value).docs fields = .ok column ∧
        (idKey, value) :: column = output := by
    intro value hvalue
    obtain ⟨column, hcolumn⟩ := h value (Value.mem_of_mem_firsts hvalue)
    exact ⟨_, column, hcolumn, rfl⟩
  obtain ⟨outputs, houtputs⟩ := exists_forall₂ houtputs
  refine ⟨outputs, (grouping_returns_iff hkeys hvalue).mpr ?_⟩
  rw [Group.ofDocuments_eq hnumbers, List.forall₂_map_left_iff]
  exact houtputs

end

/-! ## The documents of an output -/

section

variable (h : Grouped k fields docs outputs)
  (hnumbers : ∀ doc ∈ docs, doc.get k ≠ .double .nan)

include h

theorem Grouped.value_mem {output : Document} (houtput : output ∈ outputs) :
    output.get idKey ∈ docs.map (·.get k) := by
  have hmem := List.mem_map_of_mem (f := (·.get idKey)) houtput
  rw [h.identified] at hmem
  exact Value.mem_of_mem_firsts hmem

theorem Grouped.get_eq (hkeys : (Keyed.keys fields).Nodup) {output : Document}
    (houtput : output ∈ outputs) {name : String} {accumulator : Accumulator} {operand : Value}
    (hentry : SumsUp fields name accumulator operand) :
    accumulator.apply (share k docs output) operand = .ok (output.get name) := by
  obtain ⟨column, hcolumn, houtput⟩ := h.summed output houtput
  rw [get_of_columns hkeys hcolumn hentry, ← houtput, get_cons_of_ne hentry.1]

include hnumbers

theorem Grouped.value_ne {output : Document} (houtput : output ∈ outputs) :
    output.get idKey ≠ .double .nan := by
  obtain ⟨doc, hdoc, heq⟩ := List.mem_map.mp (h.value_mem houtput)
  rw [← heq]
  exact hnumbers doc hdoc

/-- The documents of the outputs are those that the groups hold. -/
theorem Grouped.map_share : outputs.map (share k docs) =
    (Group.ofDocuments (·.get k) docs).map Group.docs := by
  rw [Group.ofDocuments_eq hnumbers, ← h.identified, List.map_map, List.map_map]
  rfl

theorem Grouped.flatMap_share_perm : (outputs.flatMap (share k docs)).Perm docs := by
  have hperm := Group.flatMap_ofDocuments_perm (·.get k) docs
  rw [List.flatMap_def, ← h.map_share hnumbers, ← List.flatMap_def] at hperm
  exact hperm

/-- What is added up over the documents of each output comes to what is added up over all. -/
theorem Grouped.sum_share {M : Type} [AddCommMonoid M] (measure : Document → M) :
    (outputs.map fun output => ((share k docs output).map measure).sum).sum =
      (docs.map measure).sum := by
  have hperm := ((h.flatMap_share_perm hnumbers).map measure).sum_eq
  rw [List.map_flatMap, List.flatMap_def, List.sum_flatten, List.map_map] at hperm
  exact hperm

theorem Grouped.countP_eq_one {doc : Document} (hdoc : doc ∈ docs) :
    outputs.countP (fun output => (output.get idKey).isGathered (doc.get k)) = 1 := by
  have hvalues : ∀ value ∈ docs.map (·.get k), value ≠ .double .nan :=
    List.forall_mem_map.mpr hnumbers
  have hcount := Value.countP_firsts hvalues (List.mem_map_of_mem hdoc)
  rw [← h.identified, List.countP_map] at hcount
  exact hcount

theorem Grouped.share_eq_cons {output : Document} (houtput : output ∈ outputs) :
    ∃ first rest, share k docs output = first :: rest ∧ first.get k = output.get idKey := by
  have hgroup : Group.among (·.get k) docs (output.get idKey) ∈
      Group.ofDocuments (·.get k) docs := by
    rw [Group.ofDocuments_eq hnumbers, ← h.identified, List.map_map]
    exact List.mem_map.mpr ⟨output, houtput, rfl⟩
  exact Group.headed_ofDocuments hgroup

end

section

variable (h : Grouped k fields docs outputs) (hkeys : (Keyed.keys fields).Nodup)
  (hnumbers : ∀ doc ∈ docs, doc.get k ≠ .double .nan) {name : String} {operand : Value}

include h hkeys

theorem Grouped.get_count (hentry : SumsUp fields name .count operand) {output : Document}
    (houtput : output ∈ outputs) : output.get name = .int (share k docs output).length :=
  (Except.ok.inj (h.get_eq hkeys houtput hentry)).symm

theorem Grouped.get_sum (hentry : SumsUp fields name .sum operand) {field : String}
    (hfield : Accumulator.fieldOf? operand = some field) {output : Document}
    (houtput : output ∈ outputs) : ∃ total,
      Accumulator.total (share k docs output) field = .ok total ∧
        output.get name = total.toValue := by
  have hget := h.get_eq hkeys houtput hentry
  simp only [Accumulator.apply, hfield] at hget
  obtain ⟨total, htotal, hvalue⟩ := Validated.map_eq_ok.mp hget
  exact ⟨total, htotal, hvalue.symm⟩

theorem Grouped.get_sum_of_integers (hentry : SumsUp fields name .sum operand) {field : String}
    (hfield : Accumulator.fieldOf? operand = some field)
    (hintegers : ∀ doc ∈ docs, ∀ x, doc.get field ≠ .double x) {output : Document}
    (houtput : output ∈ outputs) : output.get name =
      .int ((share k docs output).map fun doc => (doc.get field).integer).sum := by
  obtain ⟨total, htotal, hvalue⟩ := h.get_sum hkeys hentry hfield houtput
  have hshare : ∀ doc ∈ share k docs output, ∀ x, doc.get field ≠ .double x :=
    fun doc hdoc => hintegers doc (List.mem_of_mem_filter hdoc)
  rw [hvalue, ← Except.ok.inj ((Accumulator.total_of_integers hshare).symm.trans htotal)]
  rfl

include hnumbers

theorem Grouped.sum_counts (hentry : SumsUp fields name .count operand) :
    (outputs.map fun output => (output.get name).integer).sum = docs.length := by
  have hlengths := h.sum_share hnumbers fun _ => (1 : Int)
  simp only [List.map_const', List.sum_replicate, nsmul_eq_mul, mul_one] at hlengths
  rw [← hlengths]
  refine congrArg List.sum (List.map_congr_left fun output houtput => ?_)
  rw [h.get_count hkeys hentry houtput]
  rfl

theorem Grouped.isTotal_sum (hentry : SumsUp fields name .sum operand) {field : String}
    (hfield : Accumulator.fieldOf? operand = some field)
    (hintegers : ∀ doc ∈ docs, ∀ x, doc.get field ≠ .double x) :
    ∃ sums : List Int, outputs.map (·.get name) = sums.map .int ∧
      IsTotal docs field sums.sum := by
  refine ⟨outputs.map fun output =>
    ((share k docs output).map fun doc => (doc.get field).integer).sum, ?_, ?_⟩
  · rw [List.map_map]
    exact List.map_congr_left fun output houtput =>
      h.get_sum_of_integers hkeys hentry hfield hintegers houtput
  · rw [h.sum_share hnumbers]
    exact isTotal hintegers

end

/-! ## Other orders of the documents -/

section

variable (h : Grouped k fields docs outputs) (hkeys : (Keyed.keys fields).Nodup)
  (hnumbers : ∀ doc ∈ docs, doc.get k ≠ .double .nan) (hperm : docs'.Perm docs)
  (hvalue : groupValue (Document.get fields idKey) = .ok fun doc => doc.get k)

/-- Values with one mark gather the same documents. -/
theorem filter_isGathered_perm {a b : Value} (ha : a ≠ .double .nan) (hb : b ≠ .double .nan)
    (hnumbers : ∀ doc ∈ docs, doc.get k ≠ .double .nan) (hperm : docs'.Perm docs)
    (hmark : a.mark = b.mark) :
    (docs'.filter fun doc => b.isGathered (doc.get k)).Perm
      (docs.filter fun doc => a.isGathered (doc.get k)) := by
  refine (hperm.filter _).trans (.of_eq (List.filter_congr fun doc hdoc => ?_))
  rw [Bool.eq_iff_iff, Value.isGathered_iff_mark hb (hnumbers doc hdoc),
    Value.isGathered_iff_mark ha (hnumbers doc hdoc), hmark]

include h hkeys hnumbers hperm

/-- Outputs with one mark are for the same group. -/
theorem Grouped.matches (h' : Grouped k fields docs' outputs') {output output' : Document}
    (houtput : output ∈ outputs) (houtput' : output' ∈ outputs')
    (hmark : (output.get idKey).mark = (output'.get idKey).mark) :
    Matches k fields docs docs' output output' := by
  have hne := h.value_ne hnumbers houtput
  have hne' := h'.value_ne (fun doc hdoc => hnumbers doc (hperm.mem_iff.mp hdoc)) houtput'
  have hshare : (share k docs' output').Perm (share k docs output) :=
    filter_isGathered_perm hne hne' hnumbers hperm hmark
  refine ⟨(Value.isGathered_iff_mark hne hne').mpr hmark, hshare, ?_⟩
  intro name accumulator operand hentry hexact
  have hexact' : accumulator.Exact (share k docs output) operand :=
    hexact.mono (List.filter_subset_self _)
  have happly := hexact'.apply_perm hshare
  rw [h.get_eq hkeys houtput hentry, h'.get_eq hkeys houtput' hentry] at happly
  exact Except.ok.inj happly

theorem Grouped.exists_order (h' : Grouped k fields docs' outputs') :
    ∃ order, order.Perm outputs' ∧ List.Forall₂ (Matches k fields docs docs') outputs order := by
  have hvalues : ∀ value ∈ docs.map (·.get k), value ≠ .double .nan :=
    List.forall_mem_map.mpr hnumbers
  have hmarks := Value.marks_firsts_perm hvalues (hperm.map (·.get k))
  rw [← h.identified, ← h'.identified, List.map_map, List.map_map] at hmarks
  obtain ⟨order, horder, hmarks⟩ := Docbase.exists_order hmarks
  refine ⟨order, horder, ?_⟩
  rw [List.forall₂_iff_zip] at hmarks ⊢
  refine ⟨hmarks.1, fun {output output'} hmem => ?_⟩
  obtain ⟨houtput, houtput'⟩ := List.of_mem_zip hmem
  exact h.matches hkeys hnumbers hperm h' houtput (horder.mem_iff.mp houtput') (hmarks.2 hmem)

include hvalue

theorem Grouped.returned (hexact : ∀ name accumulator operand,
      SumsUp fields name accumulator operand → accumulator.Exact docs operand) :
    ∃ outputs', ((stage docs' (grouping fields)).apply journal).1 = .ok outputs' := by
  have hnumbers' : ∀ doc ∈ docs', doc.get k ≠ .double .nan :=
    fun doc hdoc => hnumbers doc (hperm.mem_iff.mp hdoc)
  refine exists_grouped hkeys hvalue hnumbers' (List.forall_mem_map.mpr fun doc hdoc => ?_)
  -- The documents of a group are those of an output for the others.
  have hdoc' := hperm.mem_iff.mp hdoc
  obtain ⟨output, houtput, hsame⟩ := List.countP_pos_iff.mp
    ((h.countP_eq_one hnumbers hdoc').symm ▸ Nat.one_pos)
  have hne := h.value_ne hnumbers houtput
  have hmark := (Value.isGathered_iff_mark hne (hnumbers doc hdoc')).mp hsame
  obtain ⟨column, hcolumn, -⟩ := h.summed output houtput
  refine ⟨column, (columns_congr fun name accumulator operand hentry => ?_).trans hcolumn⟩
  exact ((hexact name accumulator operand hentry).mono (List.filter_subset_self _)).apply_perm
    (filter_isGathered_perm hne (hnumbers doc hdoc') hnumbers hperm hmark)

theorem Grouped.reorders : Reorders k fields docs outputs docs' := by
  constructor
  case matched =>
    intro journal outputs' hreturns'
    have hnumbers' : ∀ doc ∈ docs', doc.get k ≠ .double .nan :=
      fun doc hdoc => hnumbers doc (hperm.mem_iff.mp hdoc)
    exact h.exists_order hkeys hnumbers hperm
      ((grouped_iff hkeys hvalue hnumbers').mp hreturns')
  case returned => exact fun hexact journal => h.returned hkeys hnumbers hperm hvalue hexact

end

end

/-! ## What a grouping by a field gives -/

/-- The field that a text names, with or without a dollar sign. -/
def fieldNamed (reference : String) : String :=
  (Accumulator.fieldOf? (.text reference)).getD reference

theorem groupValue_text (reference : String) :
    groupValue (.text reference) = .ok fun doc => doc.get (fieldNamed reference) := by
  cases hfield : Accumulator.fieldOf? (.text reference) with
  | none => simp only [groupValue, fieldNamed, hfield, Option.getD_none]
  | some field => simp only [groupValue, fieldNamed, hfield, Option.getD_some]

/-- What a grouping by a field returns has each document in one group, so that counts and sums add
up, and hardly depends on the order of the documents. -/
theorem grouping_loses_nothing {fields : List (String × Value)} {reference : String}
    {docs outputs : List Document} {journal : Journal} (hkeys : (Keyed.keys fields).Nodup)
    (hreference : Document.get fields idKey = .text reference)
    (hnumbers : ∀ doc ∈ docs, doc.get (fieldNamed reference) ≠ .double .nan)
    (hreturns : ((stage docs (grouping fields)).apply journal).1 = .ok outputs) :
    Tallies (fieldNamed reference) fields docs outputs := by
  have hvalue := groupValue_text reference
  rw [← hreference] at hvalue
  have h := (grouped_iff hkeys hvalue hnumbers).mp hreturns
  constructor
  case identified => exact h.identified
  case apart => exact List.pairwise_map.mp (h.identified ▸ Value.firsts_pairwise _)
  case headed => exact fun output houtput => h.share_eq_cons hnumbers houtput
  case once => exact fun doc hdoc => h.countP_eq_one hnumbers hdoc
  case parted => exact h.flatMap_share_perm hnumbers
  case applied => exact fun _ _ _ hentry output houtput => h.get_eq hkeys houtput hentry
  case counted =>
    intro name operand hentry
    exact ⟨fun output houtput => h.get_count hkeys hentry houtput,
      h.sum_counts hkeys hnumbers hentry⟩
  case summed =>
    intro name operand field hentry hfield output houtput
    simp only [← Accumulator.total_eq_sum_numbers]
    exact h.get_sum hkeys hentry hfield houtput
  case added =>
    intro name operand field hentry hfield hintegers
    exact h.isTotal_sum hkeys hnumbers hentry hfield hintegers
  case reordered => exact fun docs' hperm => h.reorders hkeys hnumbers hperm hvalue

/-- Scores of teams, one of which is written in two ways, and some of no team. -/
def scores : List Document :=
  [[("team", .int 1), ("points", .int 2)],
    [("team", .double (.finite false Double.one)), ("points", .bool true)],
    [("points", .int 3)],
    [("team", .bool true), ("points", .int (-5))],
    [("team", .null), ("points", .text "none")]]

/-- The entries of a grouping that counts the scores of a team and adds them up. -/
def scoring : List (String × Value) :=
  [(idKey, .text "$team"), ("n", .object [("$count", .object [])]),
    ("total", .object [("$sum", .text "$points")])]

/-- The outputs of that grouping. -/
def standings : List Document :=
  [[(idKey, .int 1), ("n", .int 2), ("total", .int 2)],
    [(idKey, .null), ("n", .int 2), ("total", .int 3)],
    [(idKey, .bool true), ("n", .int 1), ("total", .int (-5))]]

theorem scores_return : ((stage scores (grouping scoring)).apply []).1 = .ok standings := by
  have hvalue : groupValue (Document.get scoring idKey) = .ok fun doc => doc.get "team" := rfl
  have hone : (Value.int 1).isGathered (.double (.finite false Double.one)) = true := by
    decide +kernel
  have hone' : (Value.int 1).isGathered .null = false ∧
      (Value.int 1).isGathered (.bool true) = false := ⟨rfl, rfl⟩
  have hnull : Value.null.isGathered .null = true ∧
      Value.null.isGathered (.bool true) = false := ⟨rfl, rfl⟩
  have hgroups : Group.ofDocuments (fun doc => doc.get "team") scores =
      [⟨.ofValue (.int 1), .int 1, scores.take 2⟩,
        ⟨.ofValue .null, .null,
          [[("points", .int 3)], [("team", .null), ("points", .text "none")]]⟩,
        ⟨.ofValue (.bool true), .bool true, [[("team", .bool true), ("points", .int (-5))]]⟩] := by
    simp [scores, Group.ofDocuments_cons, hone, hone', hnull, Document.get, Keyed.get?,
      List.lookup_cons]
    rfl
  rw [grouping_returns_iff (by decide) hvalue, hgroups]
  exact .cons ⟨_, rfl, rfl⟩ (.cons ⟨_, rfl, rfl⟩ (.cons ⟨_, rfl, rfl⟩ .nil))

theorem grouping_loses_nothing_scores :
    (Keyed.keys scoring).Nodup ∧ Document.get scoring idKey = .text "$team" ∧
      (∀ doc ∈ scores, doc.get (fieldNamed "$team") ≠ .double .nan) ∧
      ((stage scores (grouping scoring)).apply []).1 = .ok standings ∧
      Tallies (fieldNamed "$team") scoring scores standings := by
  have hkeys : (Keyed.keys scoring).Nodup := by decide
  have hnumbers : ∀ doc ∈ scores, doc.get (fieldNamed "$team") ≠ .double .nan := by
    have hfield : fieldNamed "$team" = "team" := rfl
    simp [scores, hfield, Document.get, Keyed.get?, List.lookup_cons]
  exact ⟨hkeys, rfl, hnumbers, scores_return,
    grouping_loses_nothing hkeys rfl hnumbers scores_return⟩

end Pipeline

end Docbase
