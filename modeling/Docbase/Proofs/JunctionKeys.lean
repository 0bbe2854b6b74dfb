import Docbase.Proofs.Declarations

/-! # The keys of junctions

A junction refers to its two sides by keys, which are looked for apart from each other: the key to a
side is that of the first relation to one that leads there. The two are the keys of two relations
if no relation to one side is kept under the key of a relation to the other. A junction of a
resource with itself has one side only, and both keys are the same.
-/

namespace Docbase

namespace Keyed

variable {α : Type}

/-- Entries whose keys do not repeat are left as they are. -/
theorem ofList_eq_self {entries : List (String × α)} (h : (entries.map (·.1)).Nodup) :
    ofList entries = entries := by
  induction entries using List.reverseRecOn with
  | nil => rfl
  | append_singleton entries entry ih =>
      rw [List.map_append, List.map_singleton] at h
      obtain ⟨hentries, -, hapart⟩ := List.nodup_append.mp h
      have hput : ofList (entries ++ [entry]) = (ofList entries).put entry.1 entry.2 := by
        simp [ofList, merge, List.foldl_append]
      rw [hput, ih hentries]
      exact put_eq_append (fun hmem => hapart _ hmem _ (.head _) rfl) _

end Keyed

/-- A relation leads to one record of a resource. -/
def Relation.leadsTo (side : String) (relation : Relation) : Bool :=
  decide (relation.cardinality = .one) && relation.target == side

theorem Relation.leadsTo_iff {side : String} {relation : Relation} :
    relation.leadsTo side = true ↔ relation.cardinality = .one ∧ relation.target = side := by
  simp [leadsTo]

namespace Resource

/-- The relations that are found under the names that a resource gives them: the last one of a name,
where the first one of it stands. -/
def shown (resource : Resource) : List Relation :=
  (Keyed.ofList (resource.relations.map fun relation => (relation.name, relation))).map (·.2)

/-- The field after which the key to a side is called when no relation leads there. -/
def keyAfter (side : String) : String :=
  Inflection.uncapitalized side ++ "Id"

/-- The key of a resource to a side. -/
def keyTo (resource : Resource) (side : String) : String :=
  ((resource.shown.find? (Relation.leadsTo side)).map Relation.keyField).getD (keyAfter side)

/-- A resource refers to a side by a key: it declares a relation to one that leads there and is kept
under the key. -/
def Refers (resource : Resource) (side key : String) : Prop :=
  ∃ relation ∈ resource.relations, relation.cardinality = .one ∧ relation.target = side ∧
    relation.keyField = key

variable {resource : Resource} {side : String}

theorem mem_of_mem_shown {relation : Relation} (h : relation ∈ resource.shown) :
    relation ∈ resource.relations := by
  obtain ⟨entry, hentry, rfl⟩ := List.mem_map.mp h
  rcases Keyed.mem_merge hentry with hnone | hdeclared
  · cases hnone
  · obtain ⟨declared, hmem, rfl⟩ := List.mem_map.mp hdeclared
    exact hmem

/-- All relations of a resource are shown if no two have one name. -/
theorem shown_eq_relations (h : (resource.relations.map (·.name)).Nodup) :
    resource.shown = resource.relations := by
  have hkeys : ((resource.relations.map fun relation => (relation.name, relation)).map
      (·.1)).Nodup := by
    rwa [List.map_map]
  rw [shown, Keyed.ofList_eq_self hkeys, List.map_map]
  exact List.map_id _

theorem refers_of_find? {relation : Relation}
    (h : resource.shown.find? (Relation.leadsTo side) = some relation) :
    resource.Refers side relation.keyField := by
  obtain ⟨hone, htarget⟩ := Relation.leadsTo_iff.mp (List.find?_some h)
  exact ⟨relation, mem_of_mem_shown (List.mem_of_find?_eq_some h), hone, htarget, rfl⟩

/-- The key to a side is that of a relation that leads there, unless none is shown and none that is
hidden by another one of its name happens to have the key. -/
theorem refers_keyTo_iff : resource.Refers side (resource.keyTo side) ↔
    (∃ relation ∈ resource.shown, relation.leadsTo side) ∨
      resource.Refers side (keyAfter side) := by
  rw [← List.find?_isSome, keyTo]
  cases hfound : resource.shown.find? (Relation.leadsTo side) with
  | none => simp
  | some relation => simpa using refers_of_find? hfound

end Resource

namespace Registry

variable {schema : Schema} {name : String} {junction : Junction}

theorem junctionKey_eq_keyTo (hschema : schema.IsValid) {resource : Resource}
    (hresource : resource ∈ schema.resources) (side : String) :
    (ofSchema schema).junctionKey resource.name side = resource.keyTo side := by
  rw [Resource.keyTo, Resource.shown, List.find?_map, Option.map_map, junctionKey, relations,
    find?_of_mem hschema hresource]
  dsimp only
  split
  all_goals
    rename_i hfound
    exact (congrArg (fun found => (Option.map (Relation.keyField ∘ Prod.snd) found).getD
      (Resource.keyAfter side)) hfound).symm

/-- The keys of a junction name its two sides: each is that of a relation to one of the junction
which leads to the side, and they differ. -/
structure NamesSides (through : Resource) (near : String) (junction : Junction) : Prop where
  near : through.Refers near junction.localKey
  far : through.Refers junction.target junction.foreignKey
  apart : junction.localKey ≠ junction.foreignKey

/-- What the keys of a junction between a resource and its target are. -/
structure Settles (through : Resource) (near : String) (junction : Junction) : Prop where
  /-- Each key is looked for by its side alone. -/
  keys : junction.localKey = through.keyTo near ∧
    junction.foreignKey = through.keyTo junction.target
  /-- They name the sides if they differ and each side is led to by a relation that is shown, or by
  one that is hidden and has the key called after the side. -/
  names_iff : NamesSides through near junction ↔
    through.keyTo near ≠ through.keyTo junction.target ∧
      ∀ side ∈ [near, junction.target],
        (∃ relation ∈ through.shown, relation.leadsTo side) ∨
          through.Refers side (Resource.keyAfter side)
  /-- They do not when both sides are one resource. -/
  itself : junction.target = near → ¬NamesSides through near junction
  /-- Where no two relations have one name, and relations lead to both sides, they do just if the
  first relations to either side have different keys. -/
  firsts : (through.relations.map (·.name)).Nodup → ∀ first other,
    through.relations.find? (Relation.leadsTo near) = some first →
    through.relations.find? (Relation.leadsTo junction.target) = some other →
      (NamesSides through near junction ↔ first.keyField ≠ other.keyField)
  /-- In particular they do if relations lead to both sides, and none to the one has the key of one
  to the other. -/
  names : (through.relations.map (·.name)).Nodup →
    (∃ key, through.Refers near key) → (∃ key, through.Refers junction.target key) →
    (∀ key, through.Refers near key → ¬through.Refers junction.target key) →
      NamesSides through near junction

theorem exists_find?_of_refers {through : Resource} {side key : String}
    (h : through.Refers side key) :
    ∃ first, through.relations.find? (Relation.leadsTo side) = some first := by
  obtain ⟨relation, hrelation, hone, htarget, -⟩ := h
  rw [← Option.isSome_iff_exists, List.find?_isSome]
  exact ⟨relation, hrelation, Relation.leadsTo_iff.mpr ⟨hone, htarget⟩⟩

section

variable {through : Resource} {near : String}
  (hlocal : junction.localKey = through.keyTo near)
  (hforeign : junction.foreignKey = through.keyTo junction.target)

include hlocal hforeign

theorem namesSides_iff : NamesSides through near junction ↔
    through.keyTo near ≠ through.keyTo junction.target ∧
      ∀ side ∈ [near, junction.target],
        (∃ relation ∈ through.shown, relation.leadsTo side) ∨
          through.Refers side (Resource.keyAfter side) := by
  simp only [List.forall_mem_cons, List.not_mem_nil, false_imp_iff, implies_true, and_true,
    ← Resource.refers_keyTo_iff, ← hlocal, ← hforeign]
  constructor
  · rintro ⟨hnear, hfar, hapart⟩
    exact ⟨hapart, hnear, hfar⟩
  · rintro ⟨hapart, hnear, hfar⟩
    exact ⟨hnear, hfar, hapart⟩

theorem namesSides_iff_firsts (hnames : (through.relations.map (·.name)).Nodup)
    {first other : Relation}
    (hfirst : through.relations.find? (Relation.leadsTo near) = some first)
    (hother : through.relations.find? (Relation.leadsTo junction.target) = some other) :
    NamesSides through near junction ↔ first.keyField ≠ other.keyField := by
  have hshown := Resource.shown_eq_relations hnames
  have hkey : through.keyTo near = first.keyField := by
    rw [Resource.keyTo, hshown, hfirst]
    rfl
  have hkey' : through.keyTo junction.target = other.keyField := by
    rw [Resource.keyTo, hshown, hother]
    rfl
  rw [namesSides_iff hlocal hforeign, hkey, hkey', hshown]
  refine and_iff_left (List.forall_mem_cons.mpr ⟨.inl ?_, List.forall_mem_singleton.mpr (.inl ?_)⟩)
  · exact ⟨first, List.mem_of_find?_eq_some hfirst, List.find?_some hfirst⟩
  · exact ⟨other, List.mem_of_find?_eq_some hother, List.find?_some hother⟩

end

/-- A junction that is found is a resource of the schema, with its keys those to the two sides. -/
theorem exists_through (hschema : schema.IsValid) {near : String}
    (hfound : (ofSchema schema).junction? near name = some junction) :
    ∃ through ∈ schema.resources, through.name = junction.junction ∧
      junction.localKey = through.keyTo near ∧
      junction.foreignKey = through.keyTo junction.target := by
  unfold junction? at hfound
  dsimp only at hfound
  split at hfound
  next =>
    obtain ⟨_, hthrough, rfl⟩ := Option.map_eq_some_iff.mp hfound
    obtain ⟨through, hmem, rfl⟩ := List.mem_map.mp (has_iff.mp (List.find?_some hthrough))
    exact ⟨through, hmem, rfl, junctionKey_eq_keyTo hschema hmem _,
      junctionKey_eq_keyTo hschema hmem _⟩
  next => cases hfound

/-- The keys of a junction that is found are each looked for by one side, so that they need not name
both of them. -/
theorem settles_junction_keys (hschema : schema.IsValid) {near : String}
    (hfound : (ofSchema schema).junction? near name = some junction) :
    ∃ through ∈ schema.resources, through.name = junction.junction ∧
      Settles through near junction := by
  obtain ⟨through, hmem, hname, hlocal, hforeign⟩ := exists_through hschema hfound
  refine ⟨through, hmem, hname, ?_⟩
  constructor
  case keys => exact ⟨hlocal, hforeign⟩
  case names_iff => exact namesSides_iff hlocal hforeign
  case itself =>
    rintro rfl hnames
    exact hnames.apart (hlocal.trans hforeign.symm)
  case firsts =>
    intro hnames first other hfirst hother
    exact namesSides_iff_firsts hlocal hforeign hnames hfirst hother
  case names =>
    rintro hnames ⟨_, hnear⟩ ⟨_, hfar⟩ hapart
    obtain ⟨first, hfirst⟩ := exists_find?_of_refers hnear
    obtain ⟨other, hother⟩ := exists_find?_of_refers hfar
    have hshown := Resource.shown_eq_relations hnames
    rw [namesSides_iff_firsts hlocal hforeign hnames hfirst hother]
    rintro heq
    refine hapart _ (Resource.refers_of_find? (hshown ▸ hfirst)) ?_
    rw [heq]
    exact Resource.refers_of_find? (hshown ▸ hother)

/-- The schema of students and courses, and of rows that join them under keys of their own. -/
def courseSchema : Schema where
  resources :=
    [{ name := "Student" },
      { name := "Course" },
      { name := "CourseStudent",
        relations :=
          [{ name := "course", target := "Course", foreignKey := some "course_ref" },
            { name := "student", target := "Student", foreignKey := some "student_ref" }] }]

/-- The way from a student to the courses, with either key that of a relation. -/
def courseStudent : Junction :=
  ⟨"CourseStudent", "Course", "student_ref", "course_ref"⟩

theorem settles_junction_keys_courseStudent :
    courseSchema.IsValid ∧
      (ofSchema courseSchema).junction? "Student" "courses" = some courseStudent ∧
      ∃ through ∈ courseSchema.resources, through.name = "CourseStudent" ∧
        Settles through "Student" courseStudent := by
  have hschema : courseSchema.IsValid := ⟨by decide, by decide⟩
  have hfound : (ofSchema courseSchema).junction? "Student" "courses" = some courseStudent := rfl
  exact ⟨hschema, hfound, settles_junction_keys hschema hfound⟩

/-- The relation of a pair of users to the one who follows. -/
def follower : Relation :=
  { name := "follower", target := "User", inverse := some "followees" }

/-- The relation of a pair of users to the one who is followed. -/
def followee : Relation :=
  { name := "followee", target := "User", inverse := some "followers" }

/-- The resource of pairs of users. -/
def userUser : Resource :=
  { name := "UserUser", relations := [follower, followee] }

/-- The schema of users who follow each other. -/
def followSchema : Schema where
  resources := [{ name := "User" }, userUser]

/-- The rows that say who follows whom refer to both, but to the one who follows only by both keys
of the junction. -/
theorem follower_twice :
    followSchema.IsValid ∧ userUser ∈ followSchema.resources ∧
      follower ∈ userUser.relations ∧ follower.cardinality = .one ∧ follower.target = "User" ∧
      followee ∈ userUser.relations ∧ followee.cardinality = .one ∧ followee.target = "User" ∧
      follower.keyField ≠ followee.keyField ∧
      ∃ junction, (ofSchema followSchema).junction? "User" "users" = some junction ∧
        junction.junction = userUser.name ∧ junction.target = "User" ∧
        junction.localKey = "followerId" ∧ junction.foreignKey = "followerId" ∧
        ¬NamesSides userUser "User" junction := by
  refine ⟨⟨by decide, by decide⟩, .tail _ (.head _), .head _, rfl, rfl, .tail _ (.head _), rfl,
    rfl, by decide, _, rfl, rfl, rfl, rfl, rfl, fun hnames => hnames.apart rfl⟩

end Registry

end Docbase
