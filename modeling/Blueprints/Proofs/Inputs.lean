import Blueprints.Sources

/-!
# Inputs

The sources of a run are what its inputs give, one input after the other.  If one of them cannot be
read there are no sources at all, and the first such input tells why.
-/

namespace Blueprints.Sources

/-- What is left of the standard input behind earlier inputs. -/
def inputLeft (files : Files) (earlier : List Text) : Except Text ByteArray :=
  if earlier.any isStandardInput then .ok .empty else files.standardInput

def linesBehind (files : Files) (earlier : List Text) (path : Text) :
    Except SourceError (List Text) :=
  if isStandardInput path then linesOf (inputLeft files earlier)
  else
    match files.opening path with
    | .error cause => .error (.notOpened path cause)
    | .ok content => linesOf content

def linesAt (files : Files) (earlier inputs : List Text) (place : Nat) :
    Option (Except SourceError (List Text)) :=
  inputs[place]?.map (linesBehind files (earlier ++ inputs.take place))

/-- Every input can be read, and gives the piece in its place. -/
def AllRead (files : Files) (earlier inputs : List Text) (pieces : List (List Text)) : Prop :=
  ∀ place, linesAt files earlier inputs place = pieces[place]?.map .ok

/-- The first input that cannot be read fails with an error. -/
def FirstUnread (files : Files) (earlier inputs : List Text) (e : SourceError) : Prop :=
  ∃ place, linesAt files earlier inputs place = some (.error e) ∧
    ∀ before < place, ∃ lines, linesAt files earlier inputs before = some (.ok lines)

theorem linesAt_zero (files : Files) (earlier : List Text) (path : Text) (more : List Text) :
    linesAt files earlier (path :: more) 0 = some (linesBehind files earlier path) := by
  simp [linesAt]

theorem linesAt_succ (files : Files) (earlier : List Text) (path : Text) (more : List Text)
    (place : Nat) :
    linesAt files earlier (path :: more) (place + 1) =
      linesAt files (earlier ++ [path]) more place := by
  simp [linesAt]

theorem inputLeft_append (files : Files) (earlier : List Text) (path : Text) :
    inputLeft files (earlier ++ [path]) =
      if isStandardInput path then .ok .empty else inputLeft files earlier := by
  cases hpath : isStandardInput path <;> simp [inputLeft, hpath]

theorem readAll_cons (files : Files) (earlier : List Text) (path : Text) (more : List Text) :
    readAll files (inputLeft files earlier) (path :: more) =
      (linesBehind files earlier path).bind fun lines =>
        (readAll files (inputLeft files (earlier ++ [path])) more).map (lines ++ ·) := by
  rw [readAll, linesBehind, inputLeft_append]
  by_cases hpath : isStandardInput path = true
  · simp only [if_pos hpath]
    rfl
  · simp only [if_neg hpath]
    cases files.opening path with
    | error cause => rfl
    | ok content => rfl

theorem allRead_nil_iff {files : Files} {earlier : List Text} {pieces : List (List Text)} :
    AllRead files earlier [] pieces ↔ pieces = [] := by
  constructor
  · intro h
    have hzero := h 0
    simpa [linesAt] using hzero.symm
  · intro h place
    simp [h, linesAt]

theorem allRead_cons_iff {files : Files} {earlier : List Text} {path : Text} {more : List Text}
    {pieces : List (List Text)} :
    AllRead files earlier (path :: more) pieces ↔
      ∃ lines rest, pieces = lines :: rest ∧ linesBehind files earlier path = .ok lines ∧
        AllRead files (earlier ++ [path]) more rest := by
  constructor
  · intro h
    have hzero := h 0
    rw [linesAt_zero] at hzero
    cases pieces with
    | nil => cases hzero
    | cons lines rest =>
      refine ⟨lines, rest, rfl, Option.some.inj hzero, fun place => ?_⟩
      rw [← linesAt_succ, h]
      rfl
  · intro h place
    obtain ⟨lines, rest, hpieces, hlines, hrest⟩ := h
    rw [hpieces]
    cases place with
    | zero => rw [linesAt_zero, hlines]; rfl
    | succ place => rw [linesAt_succ, hrest]; rfl

theorem not_firstUnread_nil {files : Files} {earlier : List Text} {e : SourceError} :
    ¬ FirstUnread files earlier [] e := by
  intro h
  obtain ⟨place, hplace, -⟩ := h
  simp [linesAt] at hplace

theorem firstUnread_cons_iff {files : Files} {earlier : List Text} {path : Text}
    {more : List Text} {e : SourceError} :
    FirstUnread files earlier (path :: more) e ↔
      linesBehind files earlier path = .error e ∨
        ∃ lines, linesBehind files earlier path = .ok lines ∧
          FirstUnread files (earlier ++ [path]) more e := by
  constructor
  · intro h
    obtain ⟨place, hplace, hbefore⟩ := h
    cases place with
    | zero =>
      rw [linesAt_zero] at hplace
      exact .inl (Option.some.inj hplace)
    | succ place =>
      obtain ⟨lines, hlines⟩ := hbefore 0 (Nat.succ_pos place)
      rw [linesAt_zero] at hlines
      rw [linesAt_succ] at hplace
      refine .inr ⟨lines, Option.some.inj hlines, place, hplace, fun before hlt => ?_⟩
      have hread := hbefore (before + 1) (Nat.succ_lt_succ hlt)
      rwa [linesAt_succ] at hread
  · intro h
    rcases h with herror | ⟨lines, hlines, place, hplace, hbefore⟩
    · refine ⟨0, by rw [linesAt_zero, herror], fun before hlt => absurd hlt (Nat.not_lt_zero _)⟩
    · refine ⟨place + 1, by rw [linesAt_succ, hplace], fun before hlt => ?_⟩
      cases before with
      | zero => exact ⟨lines, by rw [linesAt_zero, hlines]⟩
      | succ before =>
        rw [linesAt_succ]
        exact hbefore before (Nat.lt_of_succ_lt_succ hlt)

theorem readAll_eq_ok_iff {files : Files} (earlier : List Text) {inputs sources : List Text} :
    readAll files (inputLeft files earlier) inputs = .ok sources ↔
      ∃ pieces, AllRead files earlier inputs pieces ∧ sources = pieces.flatten := by
  induction inputs generalizing earlier sources with
  | nil =>
    simp only [allRead_nil_iff, readAll, Except.ok.injEq, exists_eq_left, List.flatten_nil]
    exact eq_comm
  | cons path more ih =>
    rw [readAll_cons]
    simp only [allRead_cons_iff]
    cases hlines : linesBehind files earlier path with
    | error e => simp [Except.bind]
    | ok lines =>
      constructor
      · intro h
        cases hmore : readAll files (inputLeft files (earlier ++ [path])) more with
        | error e => simp [Except.bind, Except.map, hmore] at h
        | ok rest =>
          obtain ⟨pieces, hpieces, hrest⟩ := (ih _).1 hmore
          simp only [Except.bind, Except.map, hmore, Except.ok.injEq] at h
          exact ⟨lines :: pieces, ⟨lines, pieces, rfl, rfl, hpieces⟩,
            by rw [← h, hrest, List.flatten_cons]⟩
      · intro h
        obtain ⟨_, ⟨lines', pieces, rfl, hlines', hpieces⟩, rfl⟩ := h
        cases hlines'
        have hmore := (ih _).2 ⟨pieces, hpieces, rfl⟩
        simp [Except.bind, Except.map, hmore]

theorem readAll_eq_error_iff {files : Files} (earlier : List Text) {inputs : List Text}
    {e : SourceError} :
    readAll files (inputLeft files earlier) inputs = .error e ↔
      FirstUnread files earlier inputs e := by
  induction inputs generalizing earlier with
  | nil => simp [readAll, not_firstUnread_nil]
  | cons path more ih =>
    rw [readAll_cons, firstUnread_cons_iff, ← ih (earlier ++ [path])]
    cases hlines : linesBehind files earlier path with
    | error e' => simp [Except.bind]
    | ok lines =>
      cases hmore : readAll files (inputLeft files (earlier ++ [path])) more with
      | error e' => simp [Except.bind, Except.map]
      | ok rest => simp [Except.bind, Except.map]

/-- The inputs of a command line; without any it is the standard input. -/
def orStandard (inputs : List Text) : List Text := if inputs.isEmpty then [['-']] else inputs

theorem read_eq_ok_iff {files : Files} {inputs sources : List Text} :
    read files inputs = .ok sources ↔
      ∃ pieces, AllRead files [] (orStandard inputs) pieces ∧ sources = pieces.flatten :=
  readAll_eq_ok_iff []

/-- There are no sources if an input cannot be read; the first such input tells why. -/
theorem read_eq_error_iff {files : Files} {inputs : List Text} {e : SourceError} :
    read files inputs = .error e ↔ FirstUnread files [] (orStandard inputs) e :=
  readAll_eq_error_iff []

end Blueprints.Sources
