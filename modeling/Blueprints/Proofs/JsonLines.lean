import Blueprints.Proofs.JsonGrammar
import Blueprints.Proofs.Listings
import Blueprints.Report.Basic

/-!
# JSON lines

A report in the JSON form has one line for each result, and no other newline.  Whoever reads a line
as JSON gets the source and the result back, so that results which differ have different lines.  The
main statement is `json_lines_tell_results`.
-/

namespace Blueprints

open JsonValue

/-! ### Strings -/

theorem hexDigit?_digitChar {n : Nat} (h : n < 16) : hexDigit? (Nat.digitChar n) = some n := by
  have hall : ∀ n < 16, hexDigit? (Nat.digitChar n) = some n := by decide
  exact hall n h

theorem hasCode_of_lt {n : Nat} (h : n < 32) :
    HasCode ['0', '0', Nat.digitChar (n / 16), Nat.digitChar (n % 16)] n := by
  have hhigh := hexDigit?_digitChar (n := n / 16) (by omega)
  have hlow := hexDigit?_digitChar (n := n % 16) (Nat.mod_lt n (by decide))
  have hzero : hexDigit? '0' = some 0 := rfl
  refine ⟨0, 0, n / 16, n % 16, ?_, by omega⟩
  simp only [List.map_cons, List.map_nil, hzero, hhigh, hlow]

theorem escapeChar_cases (c : Char) :
    (∃ code, shortEscape? code = some c ∧ Json.escapeChar c = ['\\', code]) ∨
    (c.toNat < 32 ∧ Json.escapeChar c = Json.longEscape c) ∨
    (32 ≤ c.toNat ∧ c ≠ '"' ∧ c ≠ '\\' ∧ Json.escapeChar c = [c]) := by
  unfold Json.escapeChar
  iterate 7
    split
    · rename_i h
      exact .inl ⟨_, by rw [h]; rfl, rfl⟩
  split
  · rename_i h
    exact .inr (.inl ⟨h, rfl⟩)
  · rename_i hquote hbackslash _ _ _ _ _ hcontrol
    exact .inr (.inr ⟨Nat.le_of_not_lt hcontrol, hquote, hbackslash, rfl⟩)

theorem spellsChar_escapeChar (c : Char) (rest : Text) :
    SpellsChar (Json.escapeChar c ++ rest) c rest := by
  rcases escapeChar_cases c with ⟨code, hcode, h⟩ | ⟨hcontrol, h⟩ | ⟨hcontrol, hquote, hbackslash, h⟩
  · rw [h]
    exact .short hcode
  · have hlong := @SpellsChar.long _ rest _ (hasCode_of_lt hcontrol)
      (by unfold IsHigh; omega) (by unfold IsLow; omega)
    rw [Char.ofNat_toNat] at hlong
    rw [h]
    exact hlong
  · rw [h]
    exact .plain hcontrol hquote hbackslash

theorem spellsChars_flatMap (t rest : Text) :
    SpellsChars (t.flatMap Json.escapeChar ++ '"' :: rest) t rest := by
  induction t with
  | nil => exact .done
  | cons c t ih =>
    rw [List.flatMap_cons, List.append_assoc]
    exact .next (spellsChar_escapeChar c _) ih

/-! ### Control characters -/

def NoControl (t : Text) : Prop := ∀ c ∈ t, 32 ≤ c.toNat

theorem noControl_append {s t : Text} : NoControl (s ++ t) ↔ NoControl s ∧ NoControl t :=
  List.forall_mem_append

theorem NoControl.newline_not_mem {t : Text} (h : NoControl t) : '\n' ∉ t := by
  intro hmem
  have hnewline := h _ hmem
  revert hnewline
  decide

theorem shortEscape?_visible {code c : Char} (h : shortEscape? code = some c) :
    32 ≤ code.toNat := by
  unfold shortEscape? at h
  split at h <;> first | decide | cases h

theorem noControl_escapeChar (c : Char) : NoControl (Json.escapeChar c) := by
  have hdigit : ∀ n < 16, 32 ≤ (Nat.digitChar n).toNat := by decide
  rcases escapeChar_cases c with ⟨code, hcode, h⟩ | ⟨hcontrol, h⟩ | ⟨hcontrol, -, -, h⟩
  · have hvisible := shortEscape?_visible hcode
    rw [h]
    simp [NoControl, hvisible]
  · have hhigh := hdigit (c.toNat / 16) (by omega)
    have hlow := hdigit (c.toNat % 16) (Nat.mod_lt _ (by decide))
    rw [h]
    simp [NoControl, Json.longEscape, Text.ofString, hhigh, hlow]
  · rw [h]
    simp [NoControl, hcontrol]

theorem noControl_quote (t : Text) : NoControl (Json.quote t) := by
  have ht : NoControl (t.flatMap Json.escapeChar) := by
    intro d hd
    obtain ⟨c, -, hc⟩ := List.mem_flatMap.1 hd
    exact noControl_escapeChar c d hc
  have hquote : NoControl ['"'] := by simp [NoControl]
  exact noControl_append.2 ⟨noControl_append.2 ⟨hquote, ht⟩, hquote⟩

/-! ### Values -/

namespace Json

mutual

def value : Json → JsonValue
  | string t => .string t
  | yes => .yes
  | object fields => .object (fieldValues fields)

def fieldValues : List (Text × Json) → List (Text × JsonValue)
  | [] => []
  | (name, v) :: more => (name, v.value) :: fieldValues more

end

theorem spells_quote (t rest : Text) : Spells (quote t ++ rest) (.value (.string t)) rest := by
  have hchars := spellsChars_flatMap t rest
  exact .string hchars (by simp [quote])

theorem spells_padded {t rest : Text} {v : JsonValue} (h : Spells t (.value v) rest) :
    Spells t (.padded v) rest := .padded .done h .done

theorem spells_field (name : Text) {t rest : Text} {v : JsonValue} (h : Spells t (.value v) rest) :
    Spells (quote name ++ ':' :: t) (.field name v) rest := by
  have hchars := spellsChars_flatMap name (':' :: t)
  have hquote : quote name ++ ':' :: t =
      '"' :: (name.flatMap escapeChar ++ '"' :: ':' :: t) := by simp [quote]
  rw [hquote]
  exact .field .done hchars .done (spells_padded h)

mutual

/-- What is printed spells the value. -/
theorem spells_print : (j : Json) → (rest : Text) →
    Spells (j.print ++ rest) (.value j.value) rest
  | string t, rest => spells_quote t rest
  | yes, _ => .yes rfl
  | object [], _ => .emptyObject .done rfl
  | object (f :: more), rest => by
    have hfields := spells_printFields (f :: more) (List.cons_ne_nil f more) ('\x7d' :: rest)
    exact .object hfields (by simp [print])

theorem spells_printFields : (fields : List (Text × Json)) → fields ≠ [] → (rest : Text) →
    Spells (printFields fields ++ rest) (.fields (fieldValues fields)) rest
  | [], hne, _ => absurd rfl hne
  | [(name, v)], _, rest => by
    have hfield := spells_field name (spells_print v rest)
    simp only [printFields, fieldValues, List.append_assoc, List.singleton_append]
    exact .lastField hfield
  | (name, v) :: g :: more, _, rest => by
    have hmore := spells_printFields (g :: more) (List.cons_ne_nil g more) rest
    have hfield := spells_field name (spells_print v (',' :: (printFields (g :: more) ++ rest)))
    simp only [printFields, fieldValues, List.append_assoc, List.singleton_append] at hfield ⊢
    exact .nextField hfield hmore

end

mutual

theorem noControl_print : (j : Json) → NoControl j.print
  | string t => noControl_quote t
  | yes => by
    simp [print, NoControl, Text.ofString]
  | object fields => by
    have hfields := noControl_printFields fields
    simp only [print, noControl_append]
    exact ⟨⟨by simp [NoControl], hfields⟩, by simp [NoControl]⟩

theorem noControl_printFields : (fields : List (Text × Json)) → NoControl (printFields fields)
  | [] => by simp [printFields, NoControl]
  | [(name, v)] => by
    have hv := noControl_print v
    simp only [printFields, noControl_append]
    exact ⟨⟨noControl_quote name, by simp [NoControl]⟩, hv⟩
  | (name, v) :: g :: more => by
    have hv := noControl_print v
    have hmore := noControl_printFields (g :: more)
    simp only [printFields, noControl_append]
    exact ⟨⟨⟨⟨noControl_quote name, by simp [NoControl]⟩, hv⟩, by simp [NoControl]⟩, hmore⟩

end

theorem reads_print (j : Json) : Reads j.print j.value := by
  have h := spells_print j []
  rw [List.append_nil] at h
  exact spells_padded h

theorem reads_print_iff (j : Json) (v : JsonValue) : Reads j.print v ↔ v = j.value := by
  constructor
  · intro h
    exact h.unique (reads_print j)
  · intro h
    rw [h]
    exact reads_print j

end Json

/-! ### What a line tells -/

namespace JsonValue

def field? (name : String) : JsonValue → Option JsonValue
  | object fields => NameMap.lookup (.ofString name) fields
  | _ => none

def text? : JsonValue → Option Text
  | string t => some t
  | _ => none

def textField? (f : Text × JsonValue) : Option (Text × Text) := f.2.text?.map fun t => (f.1, t)

/-- The texts of an object of strings, by their names. -/
def names? : JsonValue → Option (NameMap Text)
  | object fields => (fields.mapM textField?).map .ofList
  | _ => none

/-- The source and the result that an object tells: an error, or what was extracted and the
captures. -/
def result? (v : JsonValue) : Option (Text × Option Extraction) := do
  let source ← v.field? "source" >>= text?
  match v.field? "error" with
  | some .yes => some (source, none)
  | _ => do
    let extracted ← v.field? "extracted" >>= text?
    let captures ← v.field? "extractions" >>= names?
    some (source, some ⟨extracted, captures⟩)

end JsonValue

theorem Json.names?_ofNames (m : NameMap Text) : (Json.ofNames m).value.names? = some m := by
  have hvalues : ∀ l : List (Text × Text), fieldValues (l.map fun e => (e.1, .string e.2)) =
      l.map fun e => (e.1, .string e.2) := by
    intro l
    induction l with
    | nil => rfl
    | cons e l ih =>
      rw [List.map_cons, List.map_cons, fieldValues, ih]
      rfl
  have htexts : ∀ l : List (Text × Text),
      (l.map fun e => (e.1, JsonValue.string e.2)).mapM textField? = some l := by
    intro l
    induction l with
    | nil => rfl
    | cons e l ih =>
      rw [List.map_cons, List.mapM_cons, ih]
      rfl
  have hofList : NameMap.ofList m.entries = m := NameMap.ofList_of_lists (.refl _)
  simp only [ofNames, value, hvalues, names?, htexts, Option.map_some, hofList]

theorem LineResult.result?_json (l : LineResult) :
    l.json.value.result? = some (l.source, l.result) := by
  unfold json
  cases l.result with
  | none => rfl
  | some e =>
    have hcaptures := Json.names?_ofNames e.captures
    simp [Json.value, Json.fieldValues, result?, field?, NameMap.lookup, Text.ofString, text?,
      hcaptures]

namespace LineResult

/-- The object of a match whose captures are told in some order. -/
def jsonOf (source extracted : Text) (listing : List (Text × Text)) : Json :=
  .object [
    (.ofString "extracted", .string extracted),
    (.ofString "extractions", .ofNames (.ofList listing)),
    (.ofString "source", .string source)]

theorem json_of_lists {l : LineResult} {e : Extraction} {listing : List (Text × Text)}
    (h : l.result = some e) (hlisting : e.captures.Lists listing) :
    l.json = jsonOf l.source e.extracted listing := by
  rw [json, h, jsonOf, NameMap.ofList_of_lists hlisting]

theorem newline_not_mem_json (l : LineResult) : '\n' ∉ l.json.print :=
  (Json.noControl_print l.json).newline_not_mem

/-- Whoever reads a line gets the source and the result. -/
theorem result?_of_reads {l : LineResult} {v : JsonValue} (h : Reads l.json.print v) :
    v.result? = some (l.source, l.result) := by
  rw [(Json.reads_print_iff l.json v).1 h]
  exact l.result?_json

theorem eq_of_line_eq {l l' : LineResult} {color : Bool}
    (h : l.line .json color = l'.line .json color) :
    l.source = l'.source ∧ l.result = l'.result := by
  have hprint : l.json.print = l'.json.print := List.append_cancel_right h
  have hreads : Reads l'.json.print l.json.value := hprint ▸ Json.reads_print l.json
  have hresult := result?_of_reads hreads
  rw [l.result?_json, Option.some.injEq, Prod.mk.injEq] at hresult
  exact hresult

end LineResult

theorem splitOn_lines (ls : List LineResult) (color : Bool) :
    Text.splitOn '\n' (ls.flatMap (·.line .json color)) = ls.map (·.json.print) ++ [[]] := by
  induction ls with
  | nil => rfl
  | cons l ls ih =>
    have htext : (l :: ls).flatMap (·.line .json color) =
        l.json.print ++ '\n' :: ls.flatMap (·.line .json color) := by
      rw [List.flatMap_cons, LineResult.line, List.append_assoc]
      rfl
    rw [htext, List.map_cons, List.cons_append]
    exact Text.splitOn_eq_cons_iff.2 ⟨l.newline_not_mem_json, .inr ⟨_, rfl, ih⟩⟩

/-- A report in the JSON form has one newline for each result, behind its object.  Whoever reads the
object gets the source and the error or the extraction with its captures, and nothing else can be
read, so results that differ have different lines.  In whatever order a map tells its captures, the
line is the same. -/
theorem json_lines_tell_results (r : Results) (color matchesOnly : Bool) :
    Text.splitOn '\n' (r.report .json color matchesOnly) =
      (r.lines.filter fun l => !matchesOnly || l.result.isSome).map (·.json.print) ++ [[]] ∧
    (∀ l : LineResult, l.line .json color = l.json.print ++ ['\n'] ∧ '\n' ∉ l.json.print ∧
      (∃ v, Reads l.json.print v) ∧
      ∀ v, Reads l.json.print v → v.result? = some (l.source, l.result)) ∧
    (∀ l l' : LineResult, l.line .json color = l'.line .json color →
      l.source = l'.source ∧ l.result = l'.result) ∧
    ∀ (l : LineResult) (e : Extraction) (listing : List (Text × Text)), l.result = some e →
      e.captures.Lists listing →
      l.line .json color = (LineResult.jsonOf l.source e.extracted listing).print ++ ['\n'] := by
  refine ⟨splitOn_lines _ color, fun l => ?_, fun l l' h => LineResult.eq_of_line_eq h, ?_⟩
  · exact ⟨rfl, l.newline_not_mem_json, ⟨_, Json.reads_print l.json⟩,
      fun v h => LineResult.result?_of_reads h⟩
  · intro l e listing he hlisting
    rw [LineResult.line, LineResult.json_of_lists he hlisting]

/-- A match whose texts look like JSON themselves. -/
def quotedLine : LineResult where
  source := ['"', '\n', '\\', '\x01']
  attempt := ⟨[], some ⟨['\x7d'], .ofList [(['"'], ['\t']), (['é'], [])]⟩⟩

/-- The same source, tried by one blueprint more. -/
def quotedLineLater : LineResult where
  source := ['"', '\n', '\\', '\x01']
  attempt := ⟨[⟨['x'], .stuck 0 ['"', '\n', '\\', '\x01']⟩], quotedLine.result⟩

theorem json_lines_tell_results_quoted :
    Text.splitOn '\n' (Results.report .json true true ⟨[quotedLine, ⟨['y'], ⟨[], none⟩⟩]⟩) =
      [quotedLine.json.print, []] ∧
    quotedLine.json.print =
      .ofString "\x7b\"extracted\":\"\x7d\",\"extractions\":\x7b\"\\\"\":\"\\t\",\"é\":\"\"\x7d," ++
        .ofString "\"source\":\"\\\"\\n\\\\\\u0001\"\x7d" ∧
    (∃ v, Reads quotedLine.json.print v ∧
      v.result? = some (['"', '\n', '\\', '\x01'], quotedLine.result)) ∧
    quotedLine.line .json true = quotedLineLater.line .json true ∧
    quotedLine.source = quotedLineLater.source ∧
    ∃ e, quotedLine.result = some e ∧ e.captures.Lists [(['é'], []), (['"'], ['\t'])] ∧
      quotedLine.line .json true = (LineResult.jsonOf quotedLine.source e.extracted
        [(['é'], []), (['"'], ['\t'])]).print ++ ['\n'] := by
  obtain ⟨hlines, hreads, hdiffer, horder⟩ :=
    json_lines_tell_results ⟨[quotedLine, ⟨['y'], ⟨[], none⟩⟩]⟩ true true
  obtain ⟨-, -, ⟨v, hv⟩, hresult⟩ := hreads quotedLine
  have hsame : quotedLine.line .json true = quotedLineLater.line .json true := rfl
  have hlists : NameMap.Lists (.ofList [(['"'], ['\t']), (['é'], [])])
      [(['é'], []), (['"'], ['\t'])] := List.Perm.swap _ _ _
  refine ⟨hlines, by decide, ⟨v, hv, hresult v hv⟩, hsame, (hdiffer _ _ hsame).1, _, rfl, hlists, ?_⟩
  exact horder quotedLine _ _ rfl hlists

end Blueprints
