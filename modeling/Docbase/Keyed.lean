/-!
# Keyed lists

Lists of entries with a key each, in the order in which the keys were first put. Putting an entry
under a key already present replaces the entry where it stands.
-/

namespace Docbase

/-- Entries under keys, in order. -/
abbrev Keyed (α : Type) := List (String × α)

namespace Keyed

variable {α : Type}

/-- The entry under a key. -/
def get? (entries : Keyed α) (key : String) : Option α :=
  List.lookup key entries

/-- Whether there is an entry under a key. -/
def has (entries : Keyed α) (key : String) : Bool :=
  (entries.get? key).isSome

/-- The keys, in order. -/
def keys (entries : Keyed α) : List String :=
  entries.map (·.1)

/-- Puts an entry under a key: in its place if the key is present, otherwise at the end. -/
def put : Keyed α → String → α → Keyed α
  | [], key, entry => [(key, entry)]
  | (k, old) :: rest, key, entry =>
    if k == key then (k, entry) :: rest else (k, old) :: put rest key entry

/-- Removes the entry under a key. -/
def remove (entries : Keyed α) (key : String) : Keyed α :=
  entries.filter fun entry => entry.1 != key

/-- Puts every entry of the second list into the first. -/
def merge (entries changes : Keyed α) : Keyed α :=
  changes.foldl (fun entries change => put entries change.1 change.2) entries

/-- A keyed list from entries whose keys may repeat: the last entry under a key stands where its
key came first. -/
def ofList (entries : List (String × α)) : Keyed α :=
  merge [] entries

@[simp]
theorem get?_nil (key : String) : get? ([] : Keyed α) key = none := rfl

theorem get?_put_self (entries : Keyed α) (key : String) (entry : α) :
    (entries.put key entry).get? key = some entry := by
  induction entries with
  | nil => simp [put, get?]
  | cons first rest ih =>
    obtain ⟨k, old⟩ := first
    by_cases h : k = key
    · subst h
      simp [put, get?]
    · have hne : (key == k) = false := by simpa using fun e => h e.symm
      simpa [put, h, get?, List.lookup_cons, hne] using ih

theorem get?_put_of_ne (entries : Keyed α) {key other : String} (entry : α) (h : other ≠ key) :
    (entries.put key entry).get? other = entries.get? other := by
  induction entries with
  | nil =>
    have hne : (other == key) = false := by simpa using h
    simp [put, get?, List.lookup_cons, hne]
  | cons first rest ih =>
    obtain ⟨k, old⟩ := first
    by_cases hk : k = key
    · subst hk
      have hne : (other == k) = false := by simpa using h
      simp [put, get?, List.lookup_cons, hne]
    · by_cases ho : other = k
      · subst ho
        simp [put, hk, get?]
      · have hne : (other == k) = false := by simpa using ho
        simpa [put, hk, get?, List.lookup_cons, hne] using ih

@[simp]
theorem keys_put_of_mem {entries : Keyed α} {key : String} (entry : α) (h : key ∈ entries.keys) :
    (entries.put key entry).keys = entries.keys := by
  induction entries with
  | nil => simp [keys] at h
  | cons first rest ih =>
    obtain ⟨k, old⟩ := first
    by_cases hk : k = key
    · simp [put, hk, keys]
    · have : key ∈ keys rest := by simpa [keys, Ne.symm hk] using h
      simpa [put, hk, keys] using ih this

theorem put_eq_append {entries : Keyed α} {key : String} (h : key ∉ entries.keys) (entry : α) :
    entries.put key entry = entries ++ [(key, entry)] := by
  induction entries with
  | nil => rfl
  | cons first rest ih =>
    have hfirst : first.1 ≠ key := fun e => h (by simp [keys, e])
    have hrest : key ∉ keys rest := fun m => h (by simpa [keys] using Or.inr m)
    simp [put, hfirst, ih hrest]

theorem keys_put_of_not_mem {entries : Keyed α} {key : String} (entry : α)
    (h : key ∉ entries.keys) : (entries.put key entry).keys = entries.keys ++ [key] := by
  rw [put_eq_append h, keys, List.map_append]
  rfl

theorem get?_eq_none_iff {entries : Keyed α} {key : String} :
    entries.get? key = none ↔ key ∉ entries.keys := by
  induction entries with
  | nil => simp [keys]
  | cons first rest ih =>
    obtain ⟨k, old⟩ := first
    by_cases hk : key = k
    · simp [get?, keys, hk]
    · have hne : (key == k) = false := by simpa using hk
      simpa [get?, List.lookup_cons, hne, keys, hk] using ih

/-- An entry is found under every key that is listed. -/
theorem exists_get?_of_mem {entries : Keyed α} {key : String} (h : key ∈ entries.keys) :
    ∃ entry, entries.get? key = some entry := by
  cases hget : entries.get? key with
  | none => exact absurd h (get?_eq_none_iff.mp hget)
  | some entry => exact ⟨entry, rfl⟩

/-- An entry is what is found under its key, if no key is there twice. -/
theorem get?_of_mem {entries : Keyed α} (hkeys : entries.keys.Nodup) {entry : String × α}
    (h : entry ∈ entries) : entries.get? entry.1 = some entry.2 := by
  obtain ⟨before, after, rfl⟩ := List.append_of_mem h
  refine List.lookup_eq_some_iff.mpr ⟨before, after, rfl, fun other hother => ?_⟩
  rw [keys, List.map_append, List.nodup_append] at hkeys
  have hne := hkeys.2.2 other.1 (List.mem_map_of_mem hother) entry.1 (by simp)
  simpa using hne.symm

theorem mem_keys_put {entries : Keyed α} {key other : String} {entry : α} :
    other ∈ (entries.put key entry).keys ↔ other ∈ entries.keys ∨ other = key := by
  by_cases h : key ∈ entries.keys
  · rw [keys_put_of_mem entry h]
    exact ⟨Or.inl, fun hother => hother.elim id fun heq => heq ▸ h⟩
  · rw [keys_put_of_not_mem entry h, List.mem_append, List.mem_singleton]

theorem put_put_self (entries : Keyed α) (key : String) (old new : α) :
    (entries.put key old).put key new = entries.put key new := by
  induction entries with
  | nil => simp [put]
  | cons first rest ih =>
    by_cases hk : first.1 = key
    · simp [put, hk]
    · simp [put, hk, ih]

/-- Putting the entry that is there changes nothing. -/
theorem put_eq_self {entries : Keyed α} {key : String} {entry : α}
    (h : entries.get? key = some entry) : entries.put key entry = entries := by
  induction entries with
  | nil => simp at h
  | cons first rest ih =>
    obtain ⟨k, old⟩ := first
    by_cases hk : key = k
    · have : old = entry := by simpa [get?, hk] using h
      simp [put, hk, this]
    · have hne : (key == k) = false := by simpa using hk
      have hrest : get? rest key = some entry := by simpa [get?, List.lookup_cons, hne] using h
      simp [put, Ne.symm hk, ih hrest]

/-! ## Changing every entry -/

section

variable {β : Type}

/-- Changes every entry, under the key that it has. -/
def each (f : α → β) (entries : Keyed α) : Keyed β :=
  entries.map fun entry => (entry.1, f entry.2)

@[simp]
theorem keys_each (f : α → β) (entries : Keyed α) : (entries.each f).keys = entries.keys := by
  simp [each, keys]

theorem get?_each (f : α → β) (entries : Keyed α) (key : String) :
    (entries.each f).get? key = (entries.get? key).map f := by
  induction entries with
  | nil => rfl
  | cons first rest ih =>
    obtain ⟨k, old⟩ := first
    by_cases hk : key = k
    · simp [each, get?, hk]
    · have hne : (key == k) = false := by simpa using hk
      simpa [each, get?, List.lookup_cons, hne] using ih

theorem each_put (f : α → β) (entries : Keyed α) (key : String) (entry : α) :
    (entries.put key entry).each f = (entries.each f).put key (f entry) := by
  induction entries with
  | nil => rfl
  | cons first rest ih =>
    by_cases hk : first.1 = key
    · simp [put, each, hk]
    · simpa [put, each, hk] using ih

theorem each_each {γ : Type} (f : α → β) (g : β → γ) (entries : Keyed α) :
    (entries.each f).each g = entries.each fun entry => g (f entry) := by
  simp [each]

end

/-! ## Keeping the entries of some keys -/

/-- Keeps the entries whose keys pass a test. -/
def only (test : String → Bool) (entries : Keyed α) : Keyed α :=
  entries.filter fun entry => test entry.1

theorem mem_keys_only {test : String → Bool} {entries : Keyed α} {key : String} :
    key ∈ (entries.only test).keys ↔ key ∈ entries.keys ∧ test key = true := by
  simp only [only, keys, List.mem_map, List.mem_filter]
  constructor
  · rintro ⟨entry, ⟨hentry, htest⟩, rfl⟩
    exact ⟨⟨entry, hentry, rfl⟩, htest⟩
  · rintro ⟨⟨entry, hentry, rfl⟩, htest⟩
    exact ⟨entry, ⟨hentry, htest⟩, rfl⟩

theorem only_eq_self {test : String → Bool} {entries : Keyed α}
    (h : ∀ key ∈ entries.keys, test key = true) : entries.only test = entries :=
  List.filter_eq_self.mpr fun entry hentry => h entry.1 (List.mem_map_of_mem hentry)

theorem get?_only {test : String → Bool} (entries : Keyed α) {key : String}
    (h : test key = true) : (entries.only test).get? key = entries.get? key := by
  induction entries with
  | nil => rfl
  | cons first rest ih =>
    obtain ⟨k, old⟩ := first
    by_cases hk : key = k
    · subst hk
      simp [only, get?, h]
    · have hne : (key == k) = false := by simpa using hk
      by_cases htest : test k = true
      · simpa [only, get?, List.lookup_cons, hne, htest] using ih
      · simpa [only, get?, List.lookup_cons, hne, htest] using ih

theorem only_put_of_true {test : String → Bool} (entries : Keyed α) {key : String} (entry : α)
    (h : test key = true) :
    (entries.put key entry).only test = (entries.only test).put key entry := by
  induction entries with
  | nil => simp [put, only, h]
  | cons first rest ih =>
    by_cases hk : first.1 = key
    · simp [put, only, hk, h]
    · by_cases htest : test first.1 = true
      · simpa [put, only, hk, htest] using ih
      · simpa [put, only, hk, htest] using ih

theorem only_put_of_false {test : String → Bool} (entries : Keyed α) {key : String} (entry : α)
    (h : test key = false) : (entries.put key entry).only test = entries.only test := by
  induction entries with
  | nil => simp [put, only, h]
  | cons first rest ih =>
    by_cases hk : first.1 = key
    · simp [put, only, hk, h]
    · by_cases htest : test first.1 = true
      · simpa [put, only, hk, htest] using ih
      · simpa [put, only, hk, htest] using ih

end Keyed

end Docbase
