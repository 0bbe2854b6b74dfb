import Docbase.Proofs.GroupFilters
import Docbase.Proofs.LateRefusals
import Docbase.Proofs.Shares
import Docbase.Proofs.Sums

/-! # What groups are summed up to

Whatever identifies a group, its documents are summed up by each accumulator of a grouping under a
name of its own. What an accumulator comes to depends on the order of the documents only if it adds
up doubles. A grouping of all documents together shows what a sum comes to without groups.
-/

namespace Docbase

open Effect

namespace Accumulator

variable {docs docs' : List Document} {operand : Value} {accumulator : Accumulator}

/-- Summing documents up involves no doubles that they hold. -/
def Exact (docs : List Document) (operand : Value) (accumulator : Accumulator) : Prop :=
  accumulator ≠ count → ∀ field, fieldOf? operand = some field →
    ∀ doc ∈ docs, ∀ x, doc.get field ≠ .double x

theorem total_perm {field : String} (h : ∀ doc ∈ docs, ∀ x, doc.get field ≠ .double x)
    (hperm : docs'.Perm docs) : total docs' field = total docs field := by
  have h' : ∀ doc ∈ docs', ∀ x, doc.get field ≠ .double x :=
    fun doc hdoc => h doc (hperm.mem_iff.mp hdoc)
  rw [total_of_integers h, total_of_integers h',
    (hperm.map fun doc => (doc.get field).integer).sum_eq]

theorem Exact.mono (h : accumulator.Exact docs operand) (hsubset : docs' ⊆ docs) :
    accumulator.Exact docs' operand :=
  fun hcount field hfield doc hdoc => h hcount field hfield doc (hsubset hdoc)

/-- The order of the documents makes a difference only to doubles. -/
theorem Exact.apply_perm (h : accumulator.Exact docs operand) (hperm : docs'.Perm docs) :
    accumulator.apply docs' operand = accumulator.apply docs operand := by
  cases accumulator with
  | count => rw [apply, apply, hperm.length_eq]
  | sum =>
      cases hfield : fieldOf? operand with
      | none => cases operand <;> simp only [apply, hfield, hperm.length_eq]
      | some field => simp only [apply, hfield, total_perm (h (by decide) field hfield) hperm]
  | avg =>
      cases hfield : fieldOf? operand with
      | none => simp only [apply, hfield]
      | some field =>
          simp only [apply, hfield, total_perm (h (by decide) field hfield) hperm,
            hperm.length_eq]

end Accumulator

namespace Pipeline

/-! ## What documents are summed up to -/

/-- An entry of a grouping, which sums documents up under a name. -/
def SumsUp (fields : List (String × Value)) (name : String) (accumulator : Accumulator)
    (operand : Value) : Prop :=
  name ≠ idKey ∧
    ∃ key, Accumulator.ofKey? key = some accumulator ∧ (name, .object [(key, operand)]) ∈ fields

/-- What documents are summed up to by the entries of a grouping, in order. -/
def columns (docs : List Document) : List (String × Value) → Except Fault Document
  | [] => .ok []
  | (name, accumulator) :: rest =>
    if name = idKey then columns docs rest
    else match single? accumulator with
      | none => .error (.query (.badAccumulator name))
      | some (key, operand) =>
        match Accumulator.ofKey? key with
        | none => columns docs rest
        | some accumulator => do
          let value ← accumulator.apply docs operand
          let others ← columns docs rest
          return (name, value) :: others

section

variable {docs docs' : List Document} {fields : List (String × Value)} {column : Document}

theorem summarize_yields (docs : List Document) (hkeys : (Keyed.keys fields).Nodup)
    {result : Document}
    (hresult : ∀ name ∈ Keyed.keys fields, name ≠ idKey → name ∉ Keyed.keys result) :
    Gives (summarize docs fields result) ((columns docs fields).map (result ++ ·)) := by
  induction fields generalizing result with
  | nil =>
      refine (Yields.pure result).of_eq ?_
      rw [columns, Except.map, List.append_nil]
  | cons entry rest ih =>
      obtain ⟨name, accumulator⟩ := entry
      obtain ⟨hapart, hkeys⟩ := List.nodup_cons.mp hkeys
      obtain ⟨hname, hresult⟩ := List.forall_mem_cons.mp hresult
      rw [summarize, columns]
      split
      next => exact ih hkeys hresult
      next hid =>
        cases single? accumulator with
        | none => exact Yields.ofExcept (.error _)
        | some single =>
            dsimp only
            cases Accumulator.ofKey? single.1 with
            | none => exact Yields.bind_ok (fun _ _ => ⟨rfl, trivial⟩) (ih hkeys hresult)
            | some accumulator =>
                dsimp only
                have hafter (value : Value) :
                    Gives (summarize docs rest (Keyed.put result name value))
                      ((columns docs rest).map
                        fun others => result ++ (name, value) :: others) := by
                  rw [Keyed.put_eq_append (hname hid)]
                  refine (ih hkeys fun other hother hother' => ?_).of_eq ?_
                  · rw [Keyed.keys, List.map_append, List.mem_append, List.map_singleton,
                      List.mem_singleton]
                    rintro (hmem | rfl)
                    · exact hresult other hother hother' hmem
                    · exact hapart hother
                  · simp only [List.append_assoc, List.singleton_append]
                refine ((Yields.ofExcept (accumulator.apply docs single.2)).bind
                  fun value _ => hafter value).of_eq ?_
                cases accumulator.apply docs single.2 with
                | error fault => rfl
                | ok value => cases columns docs rest <;> rfl

theorem single?_eq_some {value operand : Value} {key : String} :
    single? value = some (key, operand) ↔ value = .object [(key, operand)] := by
  unfold single?
  split <;> simp_all

/-- What documents are summed up to depends on the single accumulators only. -/
theorem columns_congr (h : ∀ name accumulator operand, SumsUp fields name accumulator operand →
    accumulator.apply docs' operand = accumulator.apply docs operand) :
    columns docs' fields = columns docs fields := by
  induction fields with
  | nil => rfl
  | cons entry rest ih =>
      obtain ⟨name, value⟩ := entry
      have hrest := ih fun other accumulator operand ⟨hother, key, hkey, hmem⟩ =>
        h other accumulator operand ⟨hother, key, hkey, .tail _ hmem⟩
      rw [columns, columns, hrest]
      split
      next => rfl
      next hname =>
        split
        next => rfl
        next key operand hsingle =>
          split
          next => rfl
          next accumulator hkey =>
            rw [h name accumulator operand ⟨hname, key, hkey, ?_⟩]
            rw [single?_eq_some.mp hsingle]
            exact .head _

/-- An entry that is not passed over is summed up for, before those after it. -/
theorem of_columns_cons_eq_ok {name : String} {value : Value}
    (h : columns docs ((name, value) :: fields) = .ok column) :
    (∃ key operand accumulator result others, name ≠ idKey ∧ value = .object [(key, operand)] ∧
        Accumulator.ofKey? key = some accumulator ∧ accumulator.apply docs operand = .ok result ∧
        columns docs fields = .ok others ∧ column = (name, result) :: others) ∨
      columns docs fields = .ok column ∧ (name = idKey ∨ ∃ key operand,
        value = .object [(key, operand)] ∧ Accumulator.ofKey? key = none) := by
  rw [columns] at h
  split at h
  next hname => exact .inr ⟨h, .inl hname⟩
  next hname =>
    split at h
    next => cases h
    next key operand hsingle =>
      have hvalue := single?_eq_some.mp hsingle
      split at h
      next hkey => exact .inr ⟨h, .inr ⟨key, operand, hvalue, hkey⟩⟩
      next accumulator hkey =>
        obtain ⟨result, hresult, h⟩ := Validated.bind_eq_ok.mp h
        obtain ⟨others, hothers, h⟩ := Validated.bind_eq_ok.mp h
        cases h
        exact .inl ⟨key, operand, accumulator, result, others, hname, hvalue, hkey, hresult,
          hothers, rfl⟩

/-- What documents are summed up to is found under the name of the entry. -/
theorem get_of_columns (hkeys : (Keyed.keys fields).Nodup) (h : columns docs fields = .ok column)
    {name : String} {accumulator : Accumulator} {operand : Value}
    (hentry : SumsUp fields name accumulator operand) :
    accumulator.apply docs operand = .ok (column.get name) := by
  obtain ⟨hname, key, hkey, hmem⟩ := hentry
  induction fields generalizing column with
  | nil => cases hmem
  | cons entry rest ih =>
      obtain ⟨hapart, hkeys⟩ := List.nodup_cons.mp hkeys
      rcases List.mem_cons.mp hmem with rfl | hmem
      · obtain ⟨key', operand', accumulator', result, others, -, heq, hkey', hresult, -, rfl⟩ |
          ⟨-, hid | ⟨key', operand', heq, hnone⟩⟩ := of_columns_cons_eq_ok h
        · cases heq
          cases hkey.symm.trans hkey'
          rw [hresult, Document.get, Keyed.get?, List.lookup_cons_self]
          rfl
        · exact absurd hid hname
        · cases heq
          cases hkey.symm.trans hnone
      · obtain ⟨key', operand', accumulator', result, others, -, -, -, -, hothers, rfl⟩ |
          ⟨hrest, -⟩ := of_columns_cons_eq_ok h
        · have hne : name ≠ entry.1 := by
            rintro rfl
            exact hapart (List.mem_map.mpr ⟨_, hmem, rfl⟩)
          rw [ih hkeys hothers hmem, Document.get, Document.get, Keyed.get?, Keyed.get?,
            List.lookup_cons, beq_false_of_ne hne]
        · exact ih hkeys hrest hmem

theorem get_idKey_cons (value : Value) (column : Document) :
    Document.get ((idKey, value) :: column) idKey = value := by
  rw [Document.get, Keyed.get?, List.lookup_cons_self, Option.getD_some]

theorem get_cons_of_ne {name : String} (hname : name ≠ idKey) (value : Value) (column : Document) :
    Document.get ((idKey, value) :: column) name = column.get name := by
  rw [Document.get, Document.get, Keyed.get?, Keyed.get?, List.lookup_cons, beq_false_of_ne hname]

/-- A grouping returns one output for each group, which begins with what identifies the group. -/
theorem grouping_returns_iff {valueOf : Document → Value} {journal : Journal}
    {outputs : List Document} (hkeys : (Keyed.keys fields).Nodup)
    (hvalue : groupValue (Document.get fields idKey) = .ok valueOf) :
    ((stage docs (grouping fields)).apply journal).1 = .ok outputs ↔
      List.Forall₂ (fun group output => ∃ column, columns group.docs fields = .ok column ∧
        (idKey, group.value) :: column = output) (Group.ofDocuments valueOf docs) outputs := by
  have hgroup (group : Group) : Gives (summarize group.docs fields [(idKey, group.value)])
      ((columns group.docs fields).map ([(idKey, group.value)] ++ ·)) := by
    refine summarize_yields group.docs hkeys fun name _ hname => ?_
    simpa [Keyed.keys] using hname
  have hgives := stage_group_yields hvalue hgroup docs
  rw [grouping, (hgives journal trivial).1, Relations.mapM_eq_ok_iff_forall₂]
  simp only [Validated.map_eq_ok, List.singleton_append]

end

/-! ## Grouping by nothing -/

/-- What a grouping of all documents together gives for the sum of a field. -/
structure IsTotal (docs : List Document) (field : String) (total : Int) : Prop where
  given : ∀ fields name operand, (Keyed.keys fields).Nodup →
    Document.get fields idKey = .null → SumsUp fields name .sum operand →
      Accumulator.fieldOf? operand = some field → ∀ journal outputs,
        ((stage docs (grouping fields)).apply journal).1 = .ok outputs →
          outputs.map (·.get name) = if docs = [] then [] else [.int total]
  returned : ∀ name operand, name ≠ idKey → Accumulator.fieldOf? operand = some field →
    ∀ journal, ((stage docs
      (grouping [(idKey, .null), (name, .object [("$sum", operand)])])).apply journal).1 =
        .ok (if docs = [] then [] else [[(idKey, .null), (name, .int total)]])

theorem isTotal {docs : List Document} {field : String}
    (h : ∀ doc ∈ docs, ∀ x, doc.get field ≠ .double x) :
    IsTotal docs field (docs.map fun doc => (doc.get field).integer).sum := by
  have htotal {operand : Value} (hfield : Accumulator.fieldOf? operand = some field) :
      Accumulator.sum.apply docs operand =
        .ok (.int (docs.map fun doc => (doc.get field).integer).sum) := by
    simp only [Accumulator.apply, hfield, Accumulator.total_of_integers h]
    rfl
  constructor
  case given =>
    intro fields name operand hkeys hnull hentry hfield journal outputs hreturns
    rw [grouping_returns_iff hkeys (by rw [hnull]; rfl), Group.ofDocuments_null] at hreturns
    cases docs with
    | nil =>
        cases hreturns
        rfl
    | cons doc rest =>
        obtain ⟨output, others, ⟨column, hcolumn, rfl⟩, hothers, rfl⟩ :=
          List.forall₂_cons_left_iff.mp hreturns
        cases hothers
        have hget := (get_of_columns hkeys hcolumn hentry).symm.trans (htotal hfield)
        rw [List.map_singleton, get_cons_of_ne hentry.1, Except.ok.inj hget]
        rfl
  case returned =>
    intro name operand hname hfield journal
    have hkeys : (Keyed.keys [(idKey, Value.null), (name, .object [("$sum", operand)])]).Nodup := by
      simpa [Keyed.keys] using Ne.symm hname
    rw [grouping_returns_iff hkeys rfl, Group.ofDocuments_null]
    cases docs with
    | nil => exact .nil
    | cons doc rest =>
        have hkey : Accumulator.ofKey? "$sum" = some .sum := rfl
        refine .cons ⟨_, ?_, rfl⟩ .nil
        simp only [columns, if_pos, if_neg hname, single?, hkey, htotal hfield]
        rfl

end Pipeline

end Docbase
