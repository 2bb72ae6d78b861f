import Blueprints.Text.Basic

/-!
# Maps from names

A map from names keeps its entries in increasing order of the names, by code point.  Two maps with
the same entries are therefore equal, and whatever is printed from a map does not depend on the order
in which it was filled.
-/

namespace Blueprints

/-- A map from names, entries in increasing order of the names. -/
structure NameMap (α : Type) where
  entries : List (Text × α)
  sorted : entries.Pairwise fun a b => a.1 < b.1
deriving DecidableEq

namespace NameMap

variable {α : Type}

def empty : NameMap α := ⟨[], .nil⟩

instance : Inhabited (NameMap α) := ⟨empty⟩

/-- The value of the first entry with a name. -/
def lookup (name : Text) : List (Text × α) → Option α
  | [] => none
  | (key, value) :: more => if key = name then some value else lookup name more

def get? (m : NameMap α) (name : Text) : Option α := lookup name m.entries

/-- Puts an entry in its place, over an entry with the same name. -/
def insertEntry (name : Text) (value : α) : List (Text × α) → List (Text × α)
  | [] => [(name, value)]
  | (key, old) :: more =>
    if name < key then (name, value) :: (key, old) :: more
    else if name = key then (name, value) :: more
    else (key, old) :: insertEntry name value more

theorem mem_insertEntry {name : Text} {value : α} {e : Text × α} {l : List (Text × α)}
    (h : e ∈ insertEntry name value l) : e = (name, value) ∨ e ∈ l := by
  induction l with
  | nil => simpa [insertEntry] using h
  | cons d l ih =>
    obtain ⟨key, old⟩ := d
    simp only [insertEntry] at h
    split at h
    · simpa using h
    · split at h
      · rcases List.mem_cons.1 h with h | h
        · exact .inl h
        · exact .inr (List.mem_cons_of_mem _ h)
      · rcases List.mem_cons.1 h with h | h
        · exact .inr (h ▸ List.mem_cons_self)
        · exact (ih h).imp_right (List.mem_cons_of_mem _)

theorem insertEntry_sorted (name : Text) (value : α) {l : List (Text × α)}
    (h : l.Pairwise fun a b => a.1 < b.1) :
    (insertEntry name value l).Pairwise fun a b => a.1 < b.1 := by
  induction l with
  | nil => simp [insertEntry]
  | cons d l ih =>
    obtain ⟨key, old⟩ := d
    obtain ⟨hd, hl⟩ := List.pairwise_cons.1 h
    simp only [insertEntry]
    split
    · rename_i hlt
      refine List.pairwise_cons.2 ⟨fun e he => ?_, h⟩
      rcases List.mem_cons.1 he with rfl | he
      · exact hlt
      · exact Std.lt_trans hlt (hd e he)
    · split
      · rename_i heq
        subst heq
        exact List.pairwise_cons.2 ⟨hd, hl⟩
      · rename_i hge hne
        refine List.pairwise_cons.2 ⟨fun e he => ?_, ih hl⟩
        rcases mem_insertEntry he with rfl | he
        · exact Std.lt_of_le_of_ne (Std.not_lt.mp hge) (Ne.symm hne)
        · exact hd e he

def insert (m : NameMap α) (name : Text) (value : α) : NameMap α :=
  ⟨insertEntry name value m.entries, insertEntry_sorted name value m.sorted⟩

theorem get?_insert_self (m : NameMap α) (name : Text) (value : α) :
    (m.insert name value).get? name = some value := by
  simp only [get?, insert]
  induction m.entries with
  | nil => simp [insertEntry, lookup]
  | cons d l ih =>
    obtain ⟨key, old⟩ := d
    simp only [insertEntry]
    split
    · simp [lookup]
    · split
      · simp [lookup]
      · rename_i hne
        simp [lookup, Ne.symm hne, ih]

theorem get?_insert_ne (m : NameMap α) {name other : Text} (value : α) (h : other ≠ name) :
    (m.insert name value).get? other = m.get? other := by
  simp only [get?, insert]
  induction m.entries with
  | nil => simp [insertEntry, lookup, Ne.symm h]
  | cons d l ih =>
    obtain ⟨key, old⟩ := d
    simp only [insertEntry]
    split
    · simp [lookup, Ne.symm h]
    · split
      · rename_i heq
        subst heq
        simp [lookup, Ne.symm h]
      · by_cases hk : key = other <;> simp [lookup, hk, ih]

theorem get?_insert (m : NameMap α) (name other : Text) (value : α) :
    (m.insert name value).get? other = if other = name then some value else m.get? other := by
  split
  · rename_i h
    rw [h, get?_insert_self]
  · rename_i h
    exact get?_insert_ne m value h

theorem lookup_append (name : Text) (l l' : List (Text × α)) :
    lookup name (l ++ l') = (lookup name l).or (lookup name l') := by
  induction l with
  | nil => rfl
  | cons e l ih =>
    obtain ⟨key, value⟩ := e
    by_cases hk : key = name <;> simp [lookup, hk, ih]

theorem lookup_eq_none_of_lt {name : Text} {l : List (Text × α)} (h : ∀ e ∈ l, name < e.1) :
    lookup name l = none := by
  induction l with
  | nil => rfl
  | cons e l ih =>
    have hne : e.1 ≠ name := by
      intro heq
      have hlt := h e List.mem_cons_self
      rw [heq] at hlt
      exact Std.lt_irrefl hlt
    simp only [lookup, hne, if_false]
    exact ih fun e' he => h e' (List.mem_cons_of_mem _ he)

theorem entries_ext {l l' : List (Text × α)} (hl : l.Pairwise fun a b => a.1 < b.1)
    (hl' : l'.Pairwise fun a b => a.1 < b.1) (h : ∀ name, lookup name l = lookup name l') :
    l = l' := by
  induction l generalizing l' with
  | nil =>
    cases l' with
    | nil => rfl
    | cons e' l' =>
      have := h e'.1
      simp [lookup] at this
  | cons e l ih =>
    cases l' with
    | nil =>
      have := h e.1
      simp [lookup] at this
    | cons e' l' =>
      obtain ⟨key, value⟩ := e
      obtain ⟨key', value'⟩ := e'
      obtain ⟨hmin, hsorted⟩ := List.pairwise_cons.1 hl
      obtain ⟨hmin', hsorted'⟩ := List.pairwise_cons.1 hl'
      -- the least name of either list has a value, so no name of the other lies below it
      have hkey : key = key' := by
        rcases Std.lt_trichotomy key key' with hlt | heq | hgt
        · have hnone : lookup key ((key', value') :: l') = none := lookup_eq_none_of_lt
            (List.forall_mem_cons.2 ⟨hlt, fun d hd => Std.lt_trans hlt (hmin' d hd)⟩)
          rw [← h key] at hnone
          simp [lookup] at hnone
        · exact heq
        · have hnone : lookup key' ((key, value) :: l) = none := lookup_eq_none_of_lt
            (List.forall_mem_cons.2 ⟨hgt, fun d hd => Std.lt_trans hgt (hmin d hd)⟩)
          rw [h key'] at hnone
          simp [lookup] at hnone
      subst hkey
      have hvalue := h key
      simp only [lookup, if_true, Option.some.injEq] at hvalue
      subst hvalue
      have htail : ∀ name, lookup name l = lookup name l' := by
        intro name
        by_cases hn : key = name
        · subst hn
          rw [lookup_eq_none_of_lt hmin, lookup_eq_none_of_lt hmin']
        · simpa [lookup, hn] using h name
      rw [ih hsorted hsorted' htail]

theorem ext_get? {m m' : NameMap α} (h : ∀ name, m.get? name = m'.get? name) : m = m' := by
  obtain ⟨l, hl⟩ := m
  obtain ⟨l', hl'⟩ := m'
  simp only [mk.injEq]
  exact entries_ext hl hl' h

def insertAll (m : NameMap α) (l : List (Text × α)) : NameMap α :=
  l.foldl (fun m e => m.insert e.1 e.2) m

theorem insertAll_append (m : NameMap α) (l l' : List (Text × α)) :
    m.insertAll (l ++ l') = (m.insertAll l).insertAll l' := List.foldl_append

/-- Of several values of one name the last counts. -/
theorem get?_insertAll (m : NameMap α) (l : List (Text × α)) (name : Text) :
    (m.insertAll l).get? name = (lookup name l.reverse).or (m.get? name) := by
  induction l generalizing m with
  | nil => rfl
  | cons e l ih =>
    show ((m.insert e.1 e.2).insertAll l).get? name = _
    rw [ih, get?_insert, List.reverse_cons, lookup_append, Option.or_assoc]
    congr 1
    by_cases hn : name = e.1
    · simp [lookup, hn]
    · simp [lookup, hn, Ne.symm hn]

theorem lookup_eq_none_iff {name : Text} {l : List (Text × α)} :
    lookup name l = none ↔ ∀ value, (name, value) ∉ l := by
  induction l with
  | nil => simp [lookup]
  | cons e l ih =>
    obtain ⟨key, old⟩ := e
    by_cases hkey : key = name
    · subst hkey
      simp only [lookup, if_true, List.mem_cons, reduceCtorEq, false_iff]
      intro h
      exact h old (.inl rfl)
    · simp [lookup, hkey, Ne.symm hkey, ih]

theorem lookup_reverse_eq_some_iff {name : Text} {value : α} {l : List (Text × α)} :
    lookup name l.reverse = some value ↔
      ∃ before after, l = before ++ (name, value) :: after ∧ ∀ later, (name, later) ∉ after := by
  constructor
  · intro h
    induction l with
    | nil => cases h
    | cons e l ih =>
      rw [List.reverse_cons, lookup_append, Option.or_eq_some_iff] at h
      rcases h with h | ⟨hnone, he⟩
      · obtain ⟨before, after, rfl, hafter⟩ := ih h
        exact ⟨e :: before, after, rfl, hafter⟩
      · obtain ⟨key, last⟩ := e
        simp only [lookup] at he
        split at he
        · rename_i hkey
          cases hkey
          cases he
          refine ⟨[], l, rfl, fun later hmem => ?_⟩
          exact lookup_eq_none_iff.1 hnone later (List.mem_reverse.2 hmem)
        · cases he
  · intro h
    obtain ⟨before, after, rfl, hafter⟩ := h
    have hnone : lookup name after.reverse = none :=
      lookup_eq_none_iff.2 fun later hmem => hafter later (List.mem_reverse.1 hmem)
    rw [List.reverse_append, List.reverse_cons, List.append_assoc, lookup_append, hnone,
      Option.none_or, List.singleton_append, lookup, if_pos rfl]

/-- The map with the given entries; of two entries with one name the later counts. -/
def ofList (l : List (Text × α)) : NameMap α := empty.insertAll l

theorem get?_ofList (l : List (Text × α)) (name : Text) :
    (ofList l).get? name = lookup name l.reverse := by
  have h := get?_insertAll empty l name
  rwa [show (empty : NameMap α).get? name = none from rfl, Option.or_none] at h

theorem lookup_of_mem {name : Text} {value : α} {l : List (Text × α)}
    (hnames : (l.map (·.1)).Nodup) (h : (name, value) ∈ l) : lookup name l = some value := by
  induction l with
  | nil => cases h
  | cons e l ih =>
    obtain ⟨key, old⟩ := e
    obtain ⟨hkey, hnames'⟩ := List.nodup_cons.1 hnames
    rcases List.mem_cons.1 h with heq | h
    · cases heq
      simp [lookup]
    · have hne : key ≠ name := by
        rintro rfl
        exact hkey (List.mem_map.2 ⟨_, h, rfl⟩)
      rw [lookup, if_neg hne]
      exact ih hnames' h

/-- Where no name comes twice, every entry counts. -/
theorem get?_ofList_of_mem {name : Text} {value : α} {l : List (Text × α)}
    (hnames : (l.map (·.1)).Nodup) (h : (name, value) ∈ l) :
    (ofList l).get? name = some value := by
  rw [get?_ofList]
  apply lookup_of_mem
  · rw [List.map_reverse]
    exact List.pairwise_reverse.2 (hnames.imp Ne.symm)
  · exact List.mem_reverse.2 h

def keys (m : NameMap α) : List Text := m.entries.map (·.1)

theorem mem_keys_iff {m : NameMap α} {name : Text} : name ∈ m.keys ↔ m.get? name ≠ none := by
  rw [get?, ne_eq, lookup_eq_none_iff, keys, List.mem_map]
  constructor
  · intro h hnone
    obtain ⟨e, he, rfl⟩ := h
    exact hnone e.2 he
  · intro h
    obtain ⟨value, hvalue⟩ := Classical.not_forall_not.1 h
    exact ⟨(name, value), hvalue, rfl⟩

def contains (m : NameMap α) (name : Text) : Bool := (m.get? name).isSome

theorem lookup_filter (p : Text → Bool) (name : Text) (l : List (Text × α)) :
    lookup name (l.filter fun e => p e.1) = if p name then lookup name l else none := by
  induction l with
  | nil => simp [lookup]
  | cons e l ih =>
    obtain ⟨key, value⟩ := e
    by_cases hk : key = name
    · subst hk
      cases hp : p key <;> simp [lookup, hp, ih]
    · cases hp : p key <;> simp [lookup, hp, hk, ih]

def filter (m : NameMap α) (p : Text → Bool) : NameMap α :=
  ⟨m.entries.filter fun e => p e.1, m.sorted.filter _⟩

theorem get?_filter (m : NameMap α) (p : Text → Bool) (name : Text) :
    (m.filter p).get? name = if p name then m.get? name else none :=
  lookup_filter p name m.entries

theorem filter_ofList (l : List (Text × α)) (p : Text → Bool) :
    (ofList l).filter p = ofList (l.filter fun e => p e.1) := by
  apply ext_get?
  intro name
  rw [get?_filter, get?_ofList, get?_ofList, ← List.filter_reverse, lookup_filter]

end NameMap

abbrev NameSet := NameMap Unit

namespace NameSet

def add (s : NameSet) (name : Text) : NameSet := s.insert name ()

theorem contains_add (s : NameSet) (name other : Text) :
    (s.add name).contains other = true ↔ other = name ∨ s.contains other = true := by
  rw [add, NameMap.contains, NameMap.get?_insert]
  split
  · simp [*]
  · simp [*, NameMap.contains]

theorem contains_foldl_add (s : NameSet) (names : List Text) (name : Text) :
    NameMap.contains (names.foldl add s) name = true ↔ name ∈ names ∨ s.contains name = true := by
  induction names generalizing s with
  | nil => simp
  | cons first names ih =>
    rw [List.foldl_cons, ih, contains_add, List.mem_cons, or_left_comm, or_assoc]

theorem ext_contains {s s' : NameSet}
    (h : ∀ name, s.contains name = true ↔ s'.contains name = true) : s = s' := by
  apply NameMap.ext_get?
  intro name
  have hname := h name
  unfold NameMap.contains at hname
  cases hs : s.get? name <;> cases hs' : s'.get? name <;> simp [hs, hs'] at hname ⊢

def ofNames (names : List Text) : NameSet := names.foldl add .empty

theorem contains_ofNames (names : List Text) (name : Text) :
    (ofNames names).contains name = true ↔ name ∈ names := by
  rw [ofNames, contains_foldl_add]
  exact or_iff_left Bool.false_ne_true

end NameSet

end Blueprints
