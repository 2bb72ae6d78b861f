import Blueprints.Text.Basic

/-!
# Byte offsets

A text is stored as its UTF-8 bytes, and parts of it are cut out between byte offsets.  Such a cut
can fall into the middle of a character, and reading a character by its number can miss the text;
here both trap.  No cut traps between the offsets of two characters in order
(`sliceBytes_byteOffset`), and no reading below the number of characters (`charAt_eq`).
-/

namespace Blueprints

/-- What a guarded operation traps on. -/
inductive Trap
  | pastEnd (index : Nat)
  /-- The second number is taken from the first, which is smaller. -/
  | belowZero (n k : Nat)
  /-- The ends of a slice are out of order, or one of them is not between two characters. -/
  | brokenSlice (start stop : Nat)
  /-- A loop goes on after the turns it was given. -/
  | endless
deriving Repr, DecidableEq

abbrev Guarded := Except Trap

namespace Guarded

@[simp] theorem pure_eq {α : Type} (a : α) : (pure a : Guarded α) = .ok a := rfl

@[simp] theorem ok_bind {α β : Type} (a : α) (f : α → Guarded β) :
    (.ok a : Guarded α) >>= f = f a := rfl

def sub (n k : Nat) : Guarded Nat := if k ≤ n then .ok (n - k) else .error (.belowZero n k)

theorem sub_eq {n k : Nat} (h : k ≤ n) : sub n k = .ok (n - k) := if_pos h

end Guarded

namespace Text

theorem byteLength_eq_utf8ByteSize (t : Text) : byteLength t = (String.ofList t).utf8ByteSize := by
  induction t with
  | nil => simp [byteLength]
  | cons c t ih =>
    have hcons : String.ofList (c :: t) = String.singleton c ++ String.ofList t := by
      rw [String.singleton_eq_ofList, ← String.ofList_append, List.singleton_append]
    rw [byteLength, ih, hcons, String.utf8ByteSize_append, String.utf8ByteSize_singleton]

/-! ### Boundaries -/

/-- Is a byte offset between two characters of the stored text, or at one of its ends? -/
def IsBoundary (t : Text) (offset : Nat) : Prop :=
  (String.Pos.Raw.mk offset).IsValid (String.ofList t)

instance (t : Text) (offset : Nat) : Decidable (t.IsBoundary offset) :=
  inferInstanceAs (Decidable ((String.Pos.Raw.mk offset).IsValid (String.ofList t)))

theorem isBoundary_iff {t : Text} {offset : Nat} :
    t.IsBoundary offset ↔ ∃ i, offset = byteLength (t.take i) := by
  simp only [IsBoundary, String.Pos.Raw.isValid_ofList, byteLength_eq_utf8ByteSize]

theorem isBoundary_byteLength (front back : Text) : (front ++ back).IsBoundary front.byteLength :=
  isBoundary_iff.2 ⟨front.length, by rw [List.take_left]⟩

example : ¬ IsBoundary ['é', 'a'] 1 ∧ IsBoundary ['é', 'a'] 2 := by decide

/-! ### Slices -/

/-- The part of the stored text between two byte offsets. -/
def sliceBytes (t : Text) (start stop : Nat) : Guarded Text :=
  if h : start ≤ stop ∧ t.IsBoundary start ∧ t.IsBoundary stop then
    let first : (String.ofList t).Pos := ⟨⟨start⟩, h.2.1⟩
    let last : (String.ofList t).Pos := ⟨⟨stop⟩, h.2.2⟩
    .ok (String.extract first last).toList
  else .error (.brokenSlice start stop)

theorem sliceBytes_append (front part back : Text) :
    sliceBytes (front ++ part ++ back) front.byteLength (front ++ part).byteLength = .ok part := by
  have horder : front.byteLength ≤ (front ++ part).byteLength := by
    rw [byteLength_append]
    exact Nat.le_add_right _ _
  have hstart : (front ++ part ++ back).IsBoundary front.byteLength := by
    rw [List.append_assoc]
    exact isBoundary_byteLength front (part ++ back)
  have hstop := isBoundary_byteLength (front ++ part) back
  rw [sliceBytes, dif_pos ⟨horder, hstart, hstop⟩]
  have hpart : String.extract
      (⟨⟨front.byteLength⟩, hstart⟩ : (String.ofList (front ++ part ++ back)).Pos)
      ⟨⟨(front ++ part).byteLength⟩, hstop⟩ = String.ofList part := by
    rw [← String.toByteArray_inj]
    simp only [String.extract, byteLength_eq_utf8ByteSize, String.utf8ByteSize,
      String.toByteArray_ofList, List.utf8Encode_append]
    rw [ByteArray.extract_append_size_left,
      ByteArray.extract_append_eq_right rfl ByteArray.size_append]
  simp only [hpart, String.toList_ofList]

/-! ### Characters and their offsets -/

def charIndices : (offset : Nat) → Text → List (Nat × Char)
  | _, [] => []
  | offset, c :: t => (offset, c) :: charIndices (offset + c.utf8Size) t

theorem getElem?_charIndices (offset : Nat) (t : Text) (i : Nat) :
    (charIndices offset t)[i]? = t[i]?.map fun c => (offset + byteLength (t.take i), c) := by
  induction t generalizing offset i with
  | nil => rfl
  | cons c t ih =>
    cases i with
    | zero => simp [charIndices, byteLength]
    | succ i => simp [charIndices, byteLength, ih, Nat.add_assoc]

def charAt (t : Text) (i : Nat) : Guarded Char :=
  match (charIndices 0 t)[i]? with
  | some (_, c) => .ok c
  | none => .error (.pastEnd i)

theorem charAt_eq {t : Text} {i : Nat} (h : i < t.length) : charAt t i = .ok t[i] := by
  rw [charAt, getElem?_charIndices, List.getElem?_eq_getElem h, Option.map_some]

/-- The byte offset of a character; behind the last one, that of the end. -/
def byteOffset (t : Text) (i : Nat) : Nat :=
  ((charIndices 0 t)[i]?.map Prod.fst).getD t.byteLength

theorem byteOffset_eq (t : Text) (i : Nat) : byteOffset t i = byteLength (t.take i) := by
  rw [byteOffset, getElem?_charIndices, Option.map_map]
  by_cases h : i < t.length
  · rw [List.getElem?_eq_getElem h, Option.map_some, Option.getD_some]
    exact Nat.zero_add _
  · have hend : t.length ≤ i := Nat.le_of_not_lt h
    rw [List.getElem?_eq_none hend, Option.map_none, Option.getD_none, List.take_of_length_le hend]

theorem isBoundary_byteOffset (t : Text) (i : Nat) : t.IsBoundary (byteOffset t i) :=
  isBoundary_iff.2 ⟨i, byteOffset_eq t i⟩

theorem take_append_slice (t : Text) {i j : Nat} (h : i ≤ j) :
    t.take i ++ t.slice i j = t.take j := by
  rw [slice, ← List.take_add, Nat.add_sub_cancel' h]

theorem byteOffset_mono (t : Text) {i j : Nat} (h : i ≤ j) : byteOffset t i ≤ byteOffset t j := by
  rw [byteOffset_eq, byteOffset_eq, ← take_append_slice t h, byteLength_append]
  exact Nat.le_add_right _ _

theorem sliceBytes_byteOffset (t : Text) {i j : Nat} (h : i ≤ j) :
    sliceBytes t (byteOffset t i) (byteOffset t j) = .ok (t.slice i j) := by
  have hcut := sliceBytes_append (t.take i) (t.slice i j) (t.drop j)
  rw [take_append_slice t h, List.take_append_drop] at hcut
  rw [byteOffset_eq, byteOffset_eq]
  exact hcut

theorem sliceBytes_from (t : Text) (start : Nat) :
    sliceBytes t (byteOffset t start) t.byteLength = .ok (t.drop start) := by
  have hcut := sliceBytes_append (t.take start) (t.drop start) []
  rw [List.append_nil, List.take_append_drop] at hcut
  rw [byteOffset_eq]
  exact hcut

end Text

end Blueprints
