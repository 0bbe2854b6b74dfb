import Docbase.CommandLine.Seed
import Docbase.Proofs.Decomposition
import Docbase.Proofs.NewRecords

/-! # What becomes of aliases

The records of a seed are created in the order in which they are listed. Under the key of a relation
a record may have the alias of an earlier record, in place of which it gets the identifier of that
record. All resources share one table of aliases, in which a later record takes the place of an
earlier one, and only texts are looked up in it.
-/

namespace Docbase

open Effect Script Store Validated

namespace Keyed

variable {α β : Type}

theorem get?_map_entry (f : String → α → β) (entries : Keyed α) (key : String) :
    get? (entries.map fun entry => (entry.1, f entry.1 entry.2)) key =
      (get? entries key).map (f key) := by
  induction entries with
  | nil => rfl
  | cons first rest ih =>
      obtain ⟨k, old⟩ := first
      by_cases hk : key = k
      · subst hk
        simp [get?]
      · have hne : (key == k) = false := by simpa using hk
        simpa [get?, List.lookup_cons, hne] using ih

end Keyed

namespace Seed

/-! ## Rows -/

/-- A record of a seed: the resource that it is listed under, what is given for it, and what has
been stored. -/
structure Row where
  resource : String
  given : Document
  stored : Document

namespace Row

/-- The record as it is listed. -/
def entry (row : Row) : String × Document :=
  (row.resource, row.given)

/-- The alias of a record: the text of what is given as its identifier, if anything is. -/
def alias? (row : Row) : Option String :=
  if (row.given.get publicIdKey).isNull then none else some (row.given.get publicIdKey).shown

/-- The identifier that a record has been given. -/
def identifier (row : Row) : Value :=
  row.stored.get idKey

end Row

/-- The last of some records that have an alias, of whatever resources. -/
def lastUnder? (rows : List Row) (name : String) : Option Row :=
  rows.reverse.find? fun row => row.alias? == some name

/-- What a value stands for after some records: a text that is an alias for the identifier of the
last record that has it, and any other value for itself. -/
def resolved (rows : List Row) : Value → Value
  | .text name => ((lastUnder? rows name).map Row.identifier).getD (.text name)
  | value => value

/-- What is given for a record that is created after others: without an identifier, and under some
keys with what the values stand for. -/
def replaced (rows : List Row) (keys : List String) (given : Document) : Document :=
  (Keyed.remove (Keyed.remove given publicIdKey) idKey).map fun entry =>
    (entry.1, if keys.contains entry.1 then resolved rows entry.2 else entry.2)

/-- The record has been created from what is given for it after others. -/
def Row.IsPlanted (store : Store) (before : List Row) (row : Row) : Prop :=
  ∃ resource around built id, store.registry.get row.resource = .ok resource ∧
    store.Stores around row.resource (.object (replaced before (keysOf resource) row.given)) built ∧
    row.stored = Keyed.put built idKey id

variable {rows before : List Row} {row : Row} {store : Store}

/-- The last record with an alias is to be found among the later ones, if any of them has it. -/
theorem lastUnder?_append (rows more : List Row) (name : String) :
    lastUnder? (rows ++ more) name = (lastUnder? more name).or (lastUnder? rows name) := by
  rw [lastUnder?, List.reverse_append, List.find?_append]
  rfl

theorem lastUnder?_singleton (row : Row) (name : String) :
    lastUnder? [row] name = if row.alias? = some name then some row else none := by
  rw [lastUnder?, List.reverse_singleton, List.find?_singleton]
  simp

theorem resolved_of_not_text (rows : List Row) {value : Value} (h : ∀ name, value ≠ .text name) :
    resolved rows value = value := by
  cases value with
  | text name => exact absurd rfl (h name)
  | _ => rfl

theorem get?_replaced (rows : List Row) {keys : List String} {key : String} (hkey : key ∈ keys)
    (hpublic : key ≠ publicIdKey) (hid : key ≠ idKey) (given : Document) :
    Keyed.get? (replaced rows keys given) key =
      (Keyed.get? given key).map (resolved rows) := by
  have hremoved : Keyed.get? (Keyed.remove (Keyed.remove given publicIdKey) idKey) key =
      Keyed.get? given key := by
    change Keyed.get? (Keyed.only (· != idKey) (Keyed.only (· != publicIdKey) given)) key = _
    rw [Keyed.get?_only _ (by simpa using hid), Keyed.get?_only _ (by simpa using hpublic)]
  rw [replaced, Keyed.get?_map_entry fun k value => if keys.contains k then resolved rows value
    else value, hremoved]
  simp [hkey]

theorem get?_of_get_text {doc : Document} {key name : String} (h : doc.get key = .text name) :
    Keyed.get? doc key = some (.text name) := by
  rw [Document.get] at h
  cases hget : Keyed.get? doc key with
  | none => rw [hget] at h; cases h
  | some value => rw [hget] at h; exact congrArg some h

/-- Under the key of a relation a record has what the value given there stands for. -/
theorem Row.IsPlanted.get?_stored (h : row.IsPlanted store before) {resource : Resource}
    (hresource : store.registry.get row.resource = .ok resource) {relation : Relation}
    (hrelation : relation ∈ resource.singles) (hpublic : relation.keyField ≠ publicIdKey)
    (hid : relation.keyField ≠ idKey) {value : Value}
    (hgiven : Keyed.get? row.given relation.keyField = some value) :
    Keyed.get? row.stored relation.keyField = some (resolved before value) := by
  obtain ⟨found, around, built, id, hfound, ⟨found', hfound', hbuilt, -⟩, hstored⟩ := h
  obtain rfl := Except.ok.inj (hresource.symm.trans hfound)
  obtain rfl := Except.ok.inj (hresource.symm.trans hfound')
  obtain ⟨entries, -, hfilled⟩ := filled_of_build hbuilt
  have hkey : relation.keyField ∈ keysOf resource := List.mem_map_of_mem hrelation
  have hreplaced := get?_replaced before hkey hpublic hid row.given
  rw [hgiven, Option.map_some] at hreplaced
  rw [hstored, Keyed.get?_put_of_ne _ _ hid]
  refine fillKeys_get? ?_ ?_ hfilled (.inl ⟨relation, hrelation, rfl⟩)
  · rw [mentions, Keyed.has, hreplaced]
    rfl
  · rw [supplied, Document.get, hreplaced]
    rfl

/-! ## Planting -/

/-- Some records have been created, one after the other, in addition to those that there were, and
the aliases are theirs. -/
structure Grown (store : Store) (old : String → List Document) (aliases : Aliases)
    (rows : List Row) (s : State) : Prop where
  shows : s.Shows fun name =>
    old name ++ (rows.filter fun row => row.resource == name).map Row.stored
  aliases : ∀ name, Keyed.get? aliases name = (lastUnder? rows name).map Row.identifier
  planted : ∀ before row after, rows = before ++ row :: after → row.IsPlanted store before

variable {old : String → List Document} {aliases aliases' : Aliases} {s t : State}

theorem Grown.start (h : s.Shows old) : Grown store old [] [] s where
  shows := by simpa using h
  aliases _ := rfl
  planted before row after h := by simp at h

theorem Grown.resolve_eq (h : Grown store old aliases rows s) (keys : List String)
    (given : Document) :
    resolve aliases keys (Keyed.remove (Keyed.remove given publicIdKey) idKey) =
      replaced rows keys given := by
  refine List.map_congr_left fun entry _ => ?_
  obtain ⟨key, value⟩ := entry
  cases value with
  | text name => simp only [h.aliases, resolved]
  | _ => simp [resolved]

/-- One more record has been created. -/
theorem Grown.snoc (h : Grown store old aliases rows s) (hplanted : row.IsPlanted store rows)
    (hshows : t.Shows (Function.update
      (fun name => old name ++ (rows.filter fun row => row.resource == name).map Row.stored)
      row.resource (old row.resource ++
        (rows.filter fun other => other.resource == row.resource).map Row.stored ++ [row.stored])))
    (haliases : ∀ name, Keyed.get? aliases' name =
      if row.alias? = some name then some row.identifier else Keyed.get? aliases name) :
    Grown store old aliases' (rows ++ [row]) t where
  shows := by
    convert hshows using 1
    funext name
    by_cases hname : name = row.resource
    · subst hname
      simp [List.filter_append]
    · have hother : (row.resource == name) = false := by simpa using Ne.symm hname
      simp [List.filter_append, Function.update_of_ne hname, hother]
  aliases name := by
    rw [haliases, lastUnder?_append, lastUnder?_singleton, h.aliases]
    split <;> rfl
  planted before other after hrows := by
    rcases List.eq_nil_or_concat after with rfl | ⟨more, last, rfl⟩
    · obtain ⟨rfl, heq⟩ := List.append_inj' hrows rfl
      obtain rfl := List.singleton_inj.mp heq
      exact hplanted
    · rw [List.concat_eq_append, ← List.cons_append, ← List.append_assoc] at hrows
      exact h.planted before other more (List.append_inj' hrows rfl).1

/-- What creating one more record gives. -/
theorem Grown.record (h : Grown store old aliases rows s) {name : String} {resource : Resource}
    (hresource : store.registry.get name = .ok resource) {record : Value}
    (hplant : (plantRecord store resource aliases record).apply s = (.ok aliases', t)) :
    ∃ row, (Document.ofValue record).map (fun given => (name, given)) = .ok row.entry ∧
      Grown store old aliases' (rows ++ [row]) t := by
  have hname := Registry.name_of_get hresource
  rw [plantRecord, apply_bind, apply_ofExcept] at hplant
  cases hgiven : Document.ofValue record with
  | error fault => rw [hgiven] at hplant; cases hplant
  | ok given =>
      rw [hgiven] at hplant
      dsimp only at hplant
      rw [h.resolve_eq, hname, apply_bind] at hplant
      split at hplant
      next created after hcreate =>
        obtain ⟨records', hafter, built, id, hstores, rfl, rfl⟩ :=
          (create_stores store h.shows name _).of_ok (congrArg Prod.fst hcreate)
        rw [hcreate] at hafter
        set row : Row := ⟨name, given, Keyed.put built idKey id⟩ with hrow
        have hplanted : row.IsPlanted store rows :=
          ⟨resource, _, built, id, hresource, hstores, rfl⟩
        split at hplant
        next hnull =>
          cases hplant
          refine ⟨row, rfl, h.snoc hplanted hafter fun other => ?_⟩
          simp [Row.alias?, hrow, hnull]
        next hnull =>
          cases hplant
          refine ⟨row, rfl, h.snoc hplanted hafter fun other => ?_⟩
          rw [Row.alias?, if_neg hnull, Document.get_idKey_formatted]
          by_cases hother : other = (given.get publicIdKey).shown
          · rw [hother, Keyed.get?_put_self, if_pos rfl]
            rfl
          · rw [Keyed.get?_put_of_ne _ _ hother, if_neg (by simpa using Ne.symm hother)]
      next => cases hplant

/-! ## Seeds -/

/-- What a list of items lists, one after the other. -/
def listedIn {α : Type} (list : α → Except Fault (List (String × Document))) (items : List α) :
    Except Fault (List (String × Document)) := do
  return (← items.mapM list).flatten

/-- The records that are listed under the name of a resource. -/
def listedUnder (entry : String × Value) : Except Fault (List (String × Document)) := do
  let records ← entry.2.items
  listedIn (fun record => do return [(entry.1, ← Document.ofValue record)]) records

/-- The records of a seed with the resources that they are listed under, in order. -/
def listed (seed : Document) : Except Fault (List (String × Document)) :=
  listedIn listedUnder seed

theorem listedIn_cons {α : Type} {list : α → Except Fault (List (String × Document))} {item : α}
    {rest : List α} {first others : List (String × Document)} (hfirst : list item = .ok first)
    (hothers : listedIn list rest = .ok others) :
    listedIn list (item :: rest) = .ok (first ++ others) := by
  obtain ⟨parts, hparts, hflat⟩ := bind_eq_ok.mp hothers
  obtain rfl := Except.ok.inj hflat
  rw [listedIn, List.mapM_cons, hfirst, hparts]
  rfl

/-- If each step creates what is listed for an item, all steps create what is listed for the
items. -/
theorem Grown.foldlM {α : Type} {step : Aliases → α → Operation Aliases}
    {list : α → Except Fault (List (String × Document))}
    (hstep : ∀ {aliases aliases' rows item s t}, Grown store old aliases rows s →
      (step aliases item).apply s = (.ok aliases', t) →
        ∃ more : List Row, list item = .ok (more.map Row.entry) ∧
          Grown store old aliases' (rows ++ more) t)
    {items : List α} (h : Grown store old aliases rows s)
    (hfold : (items.foldlM step aliases).apply s = (.ok aliases', t)) :
    ∃ more : List Row, listedIn list items = .ok (more.map Row.entry) ∧
      Grown store old aliases' (rows ++ more) t := by
  induction items generalizing aliases rows s with
  | nil =>
      cases hfold
      exact ⟨[], rfl, by rwa [List.append_nil]⟩
  | cons item rest ih =>
      rw [List.foldlM_cons, apply_bind] at hfold
      split at hfold
      next between middle hfirst =>
        obtain ⟨first, hlisted, hgrown⟩ := hstep h hfirst
        obtain ⟨others, hothers, hlast⟩ := ih hgrown hfold
        refine ⟨first ++ others, ?_, by rwa [← List.append_assoc]⟩
        rw [List.map_append]
        exact listedIn_cons hlisted hothers
      next => cases hfold

theorem Grown.resource (h : Grown store old aliases rows s) {entry : String × Value}
    (hplant : (plantResource store aliases entry).apply s = (.ok aliases', t)) :
    ∃ more : List Row, listedUnder entry = .ok (more.map Row.entry) ∧
      Grown store old aliases' (rows ++ more) t := by
  rw [plantResource, apply_bind, apply_ofExcept] at hplant
  cases hresource : store.registry.get entry.1 with
  | error fault => rw [hresource] at hplant; cases hplant
  | ok resource =>
      rw [hresource] at hplant
      dsimp only at hplant
      rw [apply_bind, apply_ofExcept] at hplant
      cases hitems : entry.2.items with
      | error fault => rw [hitems] at hplant; cases hplant
      | ok records =>
          rw [hitems] at hplant
          rw [listedUnder, hitems]
          refine Grown.foldlM (fun hgrown hrecord => ?_) h hplant
          obtain ⟨row, hread, hnext⟩ := hgrown.record hresource hrecord
          obtain ⟨given, hgiven, hentry⟩ := map_eq_ok.mp hread
          refine ⟨[row], ?_, hnext⟩
          rw [hgiven, List.map_singleton, ← hentry]
          rfl

/-- What it means that the records of a seed have been created, and refer to one another as their
aliases say. -/
structure Plants (store : Store) (seed : Document) (s t : State) (rows : List Row) : Prop where
  /-- They are the records that the seed lists, in order. -/
  listed : listed seed = .ok (rows.map Row.entry)
  /-- Each resource has its records, after those that it had before. -/
  records : ∀ name, t.records name =
    s.records name ++ (rows.filter fun row => row.resource == name).map Row.stored
  /-- Each of them is created from what is given for it, with identifiers in the place of aliases of
  earlier ones. -/
  planted : ∀ before row after, rows = before ++ row :: after → row.IsPlanted store before
  /-- Under the key of a relation, other than the keys of identifiers, there is what the value given
  stands for: a text that is an alias for the identifier of the last earlier record that has it, of
  whatever resource, and any other value for itself. -/
  referring : ∀ before row after, rows = before ++ row :: after → ∀ resource relation value,
    store.registry.get row.resource = .ok resource → relation ∈ resource.singles →
      relation.keyField ≠ publicIdKey → relation.keyField ≠ idKey →
        Keyed.get? row.given relation.keyField = some value →
          Keyed.get? row.stored relation.keyField = some (resolved before value)
  /-- What is no text is not looked up, even if the same is given as the identifier of a record. -/
  unread : ∀ before row after, rows = before ++ row :: after → ∀ resource relation value,
    store.registry.get row.resource = .ok resource → relation ∈ resource.singles →
      relation.keyField ≠ publicIdKey → relation.keyField ≠ idKey →
        Keyed.get? row.given relation.keyField = some value → (∀ name, value ≠ .text name) →
          Keyed.get? row.stored relation.keyField = some value
  /-- So a text that is the alias of an earlier record leads to this record exactly if the last
  record since then with this alias, of whatever resource, has its identifier. -/
  referred : ∀ before target between row after,
    rows = before ++ target :: (between ++ row :: after) → ∀ resource relation name,
      store.registry.get row.resource = .ok resource → relation ∈ resource.singles →
        relation.keyField ≠ publicIdKey → relation.keyField ≠ idKey →
          row.given.get relation.keyField = .text name → target.alias? = some name →
            (row.stored.get relation.keyField = target.identifier ↔
              ∀ last, lastUnder? between name = some last → last.identifier = target.identifier)

/-- A seed that is planted to its end has its records refer to the last ones before them with the
aliases that they name. -/
theorem resolves_aliases (store : Store) (s t : State)
    (hpasses : (storeHost store).Passes State.IsNew s) (hconnected : s.isConnected = true)
    (seed : Document) (hplant : (plant store seed).apply s = (.ok (), t)) :
    ∃ rows, Plants store seed s t rows := by
  have hshows := shows_of_passes hpasses hconnected
  rw [plant, apply_bind] at hplant
  split at hplant
  next aliases after hfold =>
    cases hplant
    obtain ⟨rows, hlisted, hgrown⟩ :=
      Grown.foldlM (fun h hnext => h.resource hnext) (.start hshows) hfold
    rw [List.nil_append] at hgrown
    refine ⟨rows, hlisted, fun name => by rw [hgrown.shows.records_eq], hgrown.planted, ?_, ?_, ?_⟩
    · intro before row after hrows resource relation value hresource hrelation hpublic hid hvalue
      exact (hgrown.planted before row after hrows).get?_stored hresource hrelation hpublic hid
        hvalue
    · intro before row after hrows resource relation value hresource hrelation hpublic hid hvalue
        htext
      rw [← resolved_of_not_text before htext]
      exact (hgrown.planted before row after hrows).get?_stored hresource hrelation hpublic hid
        hvalue
    · intro before target between row after hrows resource relation name hresource hrelation
        hpublic hid hname halias
      have hrow : row.IsPlanted store (before ++ target :: between) :=
        hgrown.planted _ row after (by simpa using hrows)
      have hstored := hrow.get?_stored hresource hrelation hpublic hid (get?_of_get_text hname)
      have hlast : lastUnder? (before ++ target :: between) name =
          some ((lastUnder? between name).getD target) := by
        rw [← List.singleton_append, lastUnder?_append, lastUnder?_append, lastUnder?_singleton,
          if_pos halias]
        cases lastUnder? between name <;> rfl
      rw [Document.get, hstored, resolved, hlast]
      cases lastUnder? between name <;> simp
  next => cases hplant

/-- A seed of a user with an alias, and of a task that has it under the key of its owner. -/
def team : Document :=
  [("User", .list [.object [("id", .text "ann")]]),
    ("Task", .list [.object [("id", .text "t"), ("ownerId", .text "ann")]])]

theorem resolves_aliases_team :
    (storeHost crew).Passes State.IsNew (crewOf 0 [] []) ∧
      (crewOf 0 [] []).isConnected = true ∧
      (plant crew team).apply (crewOf 0 [] []) = (.ok (), busyCrew) ∧
      ∃ rows, Plants crew team (crewOf 0 [] []) busyCrew rows := by
  have hpasses : (storeHost crew).Passes State.IsNew (crewOf 0 [] []) := by
    rw [← crewOf_connect]
    exact (Host.Passes.start ⟨{}, rfl⟩).call _
  have hplant : (plant crew team).apply (crewOf 0 [] []) = (.ok (), busyCrew) := rfl
  exact ⟨hpasses, rfl, hplant, resolves_aliases crew _ _ hpasses rfl team hplant⟩

/-- An alias that is no text is given under the key of an owner, but does not lead to the owner. And
an alias of a user leads to a task, which has the same alias and comes later. -/
theorem aliases_lead_astray :
    (storeHost crew).Passes State.IsNew (crewOf 0 [] []) ∧
      -- A user and a task of theirs, with numbers for aliases.
      (∃ t, (plant crew [("User", .list [.object [("id", .int 1)]]),
          ("Task", .list [.object [("id", .int 2), ("ownerId", .int 1)]])]).apply
            (crewOf 0 [] []) = (.ok (), t) ∧
        t.records "User" = [bare 1] ∧
        t.records "Task" = [[("ownerId", .int 1), ("_id", .text (Identifier.ofNat 2))]]) ∧
      -- A user, a task with the same alias, and another task, of the user.
      (∃ t, (plant crew [("User", .list [.object [("id", .text "1")]]),
          ("Task", .list [.object [("id", .text "1")],
            .object [("id", .text "2"), ("ownerId", .text "1")]])]).apply
              (crewOf 0 [] []) = (.ok (), t) ∧
        t.records "User" = [bare 1] ∧
        t.records "Task" = [[("ownerId", .null), ("_id", .text (Identifier.ofNat 2))],
          taskOf 3 2]) := by
  refine ⟨?_, ⟨_, rfl, rfl, rfl⟩, ⟨_, rfl, rfl, rfl⟩⟩
  rw [← crewOf_connect]
  exact (Host.Passes.start ⟨{}, rfl⟩).call _

end Seed

end Docbase
