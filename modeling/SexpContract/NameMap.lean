/-!
# Maps Keyed by Name

A finite map from names to values, kept as its entries in ascending code-point order of the
names.  Each name occurs once, so two maps with the same look-ups are equal (`ext_find?`), and
the order of insertions leaves no trace.
-/

namespace SexpContract

/-! ## Section 1: Ascending entries -/

/-- Entries with ascending names. -/
abbrev Ascending {β : Type} (entries : List (String × β)) : Prop :=
  entries.Pairwise fun first second => first.1 < second.1

/-- The entries with one name set to a value, the rest unchanged. -/
def insertEntry {β : Type} (name : String) (value : β) : List (String × β) → List (String × β)
  | [] => [(name, value)]
  | (key, old) :: rest =>
      if name < key then (name, value) :: (key, old) :: rest
      else if name = key then (name, value) :: rest
      else (key, old) :: insertEntry name value rest

/-- The value of a name among the entries. -/
def valueOf? {β : Type} (name : String) : List (String × β) → Option β
  | [] => none
  | (key, value) :: rest => if name = key then some value else valueOf? name rest

theorem fst_mem_insertEntry {β : Type} {name : String} {value : β}
    {entries : List (String × β)} {entry : String × β}
    (h : entry ∈ insertEntry name value entries) : entry.1 = name ∨ entry ∈ entries := by
  induction entries with
  | nil => simp_all [insertEntry]
  | cons head rest ih =>
      rw [insertEntry] at h
      split at h
      · rcases List.mem_cons.1 h with rfl | h
        · exact Or.inl rfl
        · exact Or.inr h
      split at h
      · rcases List.mem_cons.1 h with rfl | h
        · exact Or.inl rfl
        · exact Or.inr (List.mem_cons_of_mem _ h)
      · rcases List.mem_cons.1 h with rfl | h
        · exact Or.inr List.mem_cons_self
        · exact (ih h).imp_right (List.mem_cons_of_mem _)

theorem ascending_insertEntry {β : Type} {name : String} {value : β}
    {entries : List (String × β)} (h : Ascending entries) :
    Ascending (insertEntry name value entries) := by
  induction entries with
  | nil => simp [insertEntry, Ascending]
  | cons head rest ih =>
      obtain ⟨hhead, hrest⟩ := List.pairwise_cons.1 h
      rw [insertEntry]
      split
      · rename_i hlt
        refine List.pairwise_cons.2 ⟨?_, h⟩
        intro entry hentry
        rcases List.mem_cons.1 hentry with rfl | hentry
        · exact hlt
        · exact String.lt_trans hlt (hhead entry hentry)
      split
      · rename_i heq
        refine List.pairwise_cons.2 ⟨?_, hrest⟩
        intro entry hentry
        simpa [heq] using hhead entry hentry
      · rename_i hlt hne
        refine List.pairwise_cons.2 ⟨?_, ih hrest⟩
        intro entry hentry
        rcases fst_mem_insertEntry hentry with heq | hentry
        · rw [heq]
          refine Decidable.byContradiction fun hge => hne ?_
          exact String.le_antisymm (String.not_lt.1 hge) (String.not_lt.1 hlt)
        · exact hhead entry hentry

/-! ## Section 2: The map -/

/-- A finite map from names to values. -/
structure NameMap (β : Type) where
  entries : List (String × β)
  ascending : Ascending entries

/-- A finite set of names. -/
abbrev NameSet := NameMap Unit

namespace NameMap

variable {β : Type}

instance [DecidableEq β] : DecidableEq (NameMap β) := fun first second =>
  decidable_of_iff (first.entries = second.entries) (by cases first; cases second; simp)

/-- The map without names. -/
def empty : NameMap β := ⟨[], List.Pairwise.nil⟩

instance : EmptyCollection (NameMap β) := ⟨empty⟩

instance : Inhabited (NameMap β) := ⟨empty⟩

/-- The map with one name set to a value. -/
def insert (map : NameMap β) (name : String) (value : β) : NameMap β :=
  ⟨insertEntry name value map.entries, ascending_insertEntry map.ascending⟩

/-- The map of a list of entries; a later entry for a name replaces an earlier one. -/
def ofList (entries : List (String × β)) : NameMap β :=
  entries.foldl (fun map entry => map.insert entry.1 entry.2) empty

/-- The value of a name. -/
def find? (map : NameMap β) (name : String) : Option β :=
  valueOf? name map.entries

/-- Whether a name has a value. -/
def contains (map : NameMap β) (name : String) : Bool :=
  (map.find? name).isSome

/-- The names in ascending order. -/
def names (map : NameMap β) : List String :=
  map.entries.map Prod.fst

/-- The values in ascending order of their names. -/
def values (map : NameMap β) : List β :=
  map.entries.map Prod.snd

/-- The number of names. -/
def size (map : NameMap β) : Nat :=
  map.entries.length

/-! ## Section 3: Look-up after insertion -/

theorem valueOf?_insertEntry (name : String) (value : β) (other : String)
    (entries : List (String × β)) :
    valueOf? other (insertEntry name value entries) =
      if other = name then some value else valueOf? other entries := by
  induction entries with
  | nil => rfl
  | cons head rest ih =>
      rw [insertEntry]
      split
      · rfl
      split
      · rename_i heq
        subst heq
        by_cases h : other = head.1 <;> simp [valueOf?, h]
      · rename_i hne
        simp only [valueOf?, ih]
        by_cases h : other = head.1
        · simp [h]
          exact fun hkey => absurd hkey.symm hne
        · simp [h]

@[simp]
theorem find?_insert (map : NameMap β) (name : String) (value : β) (other : String) :
    (map.insert name value).find? other = if other = name then some value else map.find? other :=
  valueOf?_insertEntry name value other map.entries

@[simp]
theorem find?_empty (name : String) : (empty : NameMap β).find? name = none := rfl

/-! ## Section 4: Equal look-ups make equal maps -/

theorem mem_of_valueOf? {name : String} {value : β} {entries : List (String × β)}
    (h : valueOf? name entries = some value) : (name, value) ∈ entries := by
  induction entries with
  | nil => simp [valueOf?] at h
  | cons head rest ih =>
      rw [valueOf?] at h
      split at h
      · rename_i heq
        cases h
        simp [heq]
      · exact List.mem_cons_of_mem _ (ih h)

theorem valueOf?_of_mem {name : String} {value : β} {entries : List (String × β)}
    (hasc : Ascending entries) (h : (name, value) ∈ entries) :
    valueOf? name entries = some value := by
  induction entries with
  | nil => simp at h
  | cons head rest ih =>
      obtain ⟨hhead, hrest⟩ := List.pairwise_cons.1 hasc
      rcases List.mem_cons.1 h with rfl | hmem
      · simp [valueOf?]
      · have hlt := hhead _ hmem
        have hne : ¬ name = head.1 := fun heq => String.lt_irrefl _ (heq ▸ hlt)
        simp [valueOf?, hne, ih hrest hmem]

theorem valueOf?_map {γ : Type} (f : β → γ) (name : String) (entries : List (String × β)) :
    valueOf? name (entries.map fun entry => (entry.1, f entry.2)) =
      (valueOf? name entries).map f := by
  induction entries with
  | nil => rfl
  | cons entry rest ih =>
      rw [List.map_cons, valueOf?, valueOf?, ih]
      split <;> rfl

theorem eq_of_valueOf? {first second : List (String × β)} (hfirst : Ascending first)
    (hsecond : Ascending second)
    (h : ∀ name, valueOf? name first = valueOf? name second) : first = second := by
  have hmem : ∀ entry, entry ∈ first ↔ entry ∈ second := fun (name, value) =>
    ⟨fun hin => mem_of_valueOf? ((h name).symm.trans (valueOf?_of_mem hfirst hin)),
      fun hin => mem_of_valueOf? ((h name).trans (valueOf?_of_mem hsecond hin))⟩
  clear h
  induction first generalizing second with
  | nil =>
      cases second with
      | nil => rfl
      | cons entry rest => exact absurd ((hmem entry).2 List.mem_cons_self) (by simp)
  | cons entry rest ih =>
      cases second with
      | nil => exact absurd ((hmem entry).1 List.mem_cons_self) (by simp)
      | cons entry' rest' =>
          obtain ⟨hhead, hrest⟩ := List.pairwise_cons.1 hfirst
          obtain ⟨hhead', hrest'⟩ := List.pairwise_cons.1 hsecond
          have hentry : entry = entry' := by
            rcases List.mem_cons.1 ((hmem entry).1 List.mem_cons_self) with heq | hin
            · exact heq
            rcases List.mem_cons.1 ((hmem entry').2 List.mem_cons_self) with heq | hin'
            · exact heq.symm
            · exact absurd (String.lt_trans (hhead _ hin') (hhead' _ hin)) (String.lt_irrefl _)
          subst hentry
          rw [ih hrest hrest']
          intro other
          constructor
          · intro hin
            rcases List.mem_cons.1 ((hmem other).1 (List.mem_cons_of_mem _ hin)) with rfl | hin'
            · exact absurd (hhead _ hin) (String.lt_irrefl _)
            · exact hin'
          · intro hin
            rcases List.mem_cons.1 ((hmem other).2 (List.mem_cons_of_mem _ hin)) with rfl | hin'
            · exact absurd (hhead' _ hin) (String.lt_irrefl _)
            · exact hin'

theorem ext_find? {first second : NameMap β} (h : ∀ name, first.find? name = second.find? name) :
    first = second := by
  cases first with
  | mk entries hasc =>
      cases second with
      | mk entries' hasc' =>
          congr
          exact eq_of_valueOf? hasc hasc' h

/-! ## Section 5: Maps of lists -/

/-- Entries with ascending names go into a map beside what is in it already. -/
theorem find?_foldl_insert {entries : List (String × β)} (h : Ascending entries)
    (map : NameMap β) (name : String) :
    (entries.foldl (fun map entry => map.insert entry.1 entry.2) map).find? name =
      (valueOf? name entries).or (map.find? name) := by
  induction entries generalizing map with
  | nil => rfl
  | cons entry rest ih =>
      obtain ⟨hfirst, hrest⟩ := List.pairwise_cons.1 h
      rw [List.foldl_cons, ih hrest, find?_insert, valueOf?]
      by_cases hname : name = entry.1
      · -- The name comes before all others, so no later entry replaces this one.
        have hnone : valueOf? name rest = none := by
          rw [Option.eq_none_iff_forall_ne_some]
          intro value hvalue
          have hlt := hfirst _ (mem_of_valueOf? hvalue)
          exact String.lt_irrefl _ (hname ▸ hlt)
        rw [hnone, if_pos hname, if_pos hname]
        rfl
      · simp [hname]

/-- The entries of a map make up the map again. -/
theorem ofList_entries (map : NameMap β) : ofList map.entries = map := by
  refine ext_find? fun name => ?_
  rw [ofList, find?_foldl_insert map.ascending, find?_empty, Option.or_none, find?]

end NameMap

end SexpContract
