import Blueprints.NameMap

/-!
# Listings of maps

The entries of a map can be told in any order.  Filling a map from such a listing gives the same map
again, and sorting the listing gives the entries in the order in which the map keeps them.
-/

namespace Blueprints.NameMap

variable {α : Type}

/-- The entries of a map, each of them once, in any order. -/
def Lists (m : NameMap α) (l : List (Text × α)) : Prop := l.Perm m.entries

theorem nodup_names (m : NameMap α) : (m.entries.map (·.1)).Nodup := by
  have hsorted : (m.entries.map (·.1)).Pairwise (· < ·) := List.pairwise_map.2 m.sorted
  refine hsorted.imp fun {a b} hlt heq => ?_
  rw [heq] at hlt
  exact Std.lt_irrefl hlt

theorem mem_of_lookup {name : Text} {value : α} {l : List (Text × α)}
    (h : lookup name l = some value) : (name, value) ∈ l := by
  induction l with
  | nil => cases h
  | cons e l ih =>
    obtain ⟨key, old⟩ := e
    by_cases hkey : key = name
    · rw [lookup, if_pos hkey, Option.some.injEq] at h
      rw [hkey, h]
      exact List.mem_cons_self
    · rw [lookup, if_neg hkey] at h
      exact List.mem_cons_of_mem _ (ih h)

theorem ofList_of_lists {m : NameMap α} {l : List (Text × α)} (h : m.Lists l) : ofList l = m := by
  have hnames : (l.map (·.1)).Nodup := (h.map _).nodup_iff.2 m.nodup_names
  apply ext_get?
  intro name
  cases hvalue : m.get? name with
  | none =>
    rw [get?_ofList, lookup_eq_none_iff]
    intro value hmem
    exact lookup_eq_none_iff.1 hvalue value (h.subset (List.mem_reverse.1 hmem))
  | some value => exact get?_ofList_of_mem hnames (h.mem_iff.2 (mem_of_lookup hvalue))

/-! ### Sorted listings -/

/-- The order of entries: by their names, and for one name by their values. -/
def entryLe (a b : Text × Text) : Bool :=
  decide (a.1 < b.1) || (decide (a.1 = b.1) && !decide (b.2 < a.2))

theorem entryLe_iff {a b : Text × Text} :
    entryLe a b = true ↔ a.1 < b.1 ∨ a.1 = b.1 ∧ ¬ b.2 < a.2 := by
  simp [entryLe]

theorem entryLe_trans (a b c : Text × Text) (hab : entryLe a b = true) (hbc : entryLe b c = true) :
    entryLe a c = true := by
  rw [entryLe_iff] at hab hbc ⊢
  rcases hab with hab | ⟨hab, hle⟩ <;> rcases hbc with hbc | ⟨hbc, hle'⟩
  · exact .inl (Std.lt_trans hab hbc)
  · exact .inl (hbc ▸ hab)
  · exact .inl (hab ▸ hbc)
  · have hle₂ := Std.le_trans (Std.not_lt.1 hle) (Std.not_lt.1 hle')
    exact .inr ⟨hab.trans hbc, Std.not_lt.2 hle₂⟩

theorem entryLe_total (a b : Text × Text) : (entryLe a b || entryLe b a) = true := by
  rw [Bool.or_eq_true, entryLe_iff, entryLe_iff]
  rcases Std.lt_trichotomy a.1 b.1 with h | h | h
  · exact .inl (.inl h)
  · by_cases hlt : b.2 < a.2
    · exact .inr (.inr ⟨h.symm, fun hgt => Std.lt_irrefl (Std.lt_trans hlt hgt)⟩)
    · exact .inl (.inr ⟨h, hlt⟩)
  · exact .inr (.inl h)

theorem entryLe_antisymm {a b : Text × Text} (hab : entryLe a b = true)
    (hba : entryLe b a = true) : a = b := by
  rw [entryLe_iff] at hab hba
  rcases hab with hab | ⟨hab, hle⟩ <;> rcases hba with hba | ⟨hba, hle'⟩
  · exact absurd (Std.lt_trans hab hba) Std.lt_irrefl
  · rw [hba] at hab
    exact absurd hab Std.lt_irrefl
  · rw [hab] at hba
    exact absurd hba Std.lt_irrefl
  · exact Prod.ext hab (Std.le_antisymm (Std.not_lt.1 hle) (Std.not_lt.1 hle'))

/-- Whatever order the entries are told in, sorting them gives the order of the map. -/
theorem mergeSort_of_lists {m : NameMap Text} {l : List (Text × Text)} (h : m.Lists l) :
    l.mergeSort entryLe = m.entries := by
  have hentries : m.entries.Pairwise fun a b => entryLe a b = true :=
    m.sorted.imp fun hlt => entryLe_iff.2 (.inl hlt)
  have hsorted := List.pairwise_mergeSort entryLe_trans entryLe_total l
  have hperm := (List.mergeSort_perm l entryLe).trans h
  exact hperm.eq_of_pairwise (fun a b _ _ => entryLe_antisymm) hsorted hentries

end Blueprints.NameMap
