import StubGen.Plan
import StubGen.Proofs.Placement

/-!
# What a plan says

A plan is made in steps, each of which can fail. A plan that is made either brings a whole file or
puts one block into the text that is there.

Results:

1. `mock_eq_ok_iff`, `test_eq_ok_iff`: exactly when a plan is made, and which.
2. `Fits.isBoundary`: a plan never cuts the text of its target inside a character.
3. `Fits.exists_point`: on a target with text, a plan puts its block at the place found for it.
-/

namespace StubGen.Plan

open Text Placement

/-! ## 1. Steps of a plan -/

theorem checkFileKind_eq_ok_iff {path : Path} {ending : Text} {answer : Unit} :
    checkFileKind path ending = .ok answer ↔ path.hasEnding ending = true := by
  unfold checkFileKind
  split <;> simp_all

/-- A target counts as present exactly if it has text. -/
theorem present?_eq_some_iff {existing : Option Text} {current : Text} :
    present? existing = some current ↔ existing = some current ∧ current ≠ [] := by
  rw [present?, Option.filter_eq_some_iff]
  simp

theorem present?_eq_none_iff {existing : Option Text} :
    present? existing = none ↔ existing.getD [] = [] := by
  cases existing with
  | none => simp [present?]
  | some current => simp [present?]

/-- What a plan says, given the current text of its target: a target without text gets a whole file,
any other gets the block at its place. -/
inductive Fits (target : Path) (kind : BlockKind) (existing : Option Text) (whole block : Text) :
    Plan → Prop where
  | creates (habsent : present? existing = none) :
    Fits target kind existing whole block ⟨target, 0, whole, true⟩
  | inserts {current : Text} {point : InsertionPoint} (hpresent : present? existing = some current)
      (hplace : locate current kind = .ok point) :
    Fits target kind existing whole block ⟨target, point.offset, splice current point block, false⟩

/-- The last step of both kinds of plans. -/
theorem fits_iff {target : Path} {kind : BlockKind} {existing : Option Text} {whole block : Text}
    {plan : Plan} :
    Fits target kind existing whole block plan ↔
    (match (motive := Option Text → Except Error Plan) present? existing with
      | none => .ok ⟨target, 0, whole, true⟩
      | some current => insertion target kind current block) = .ok plan := by
  constructor
  · rintro (habsent | ⟨hpresent, hplace⟩)
    · rw [habsent]
    · rw [hpresent]
      exact bind_eq_ok_iff.mpr ⟨_, hplace, rfl⟩
  · intro h
    cases hcase : present? existing with
    | none =>
      rw [hcase] at h
      cases h
      exact .creates hcase
    | some current =>
      rw [hcase] at h
      obtain ⟨point, hplace, hplan⟩ := bind_eq_ok_iff.mp h
      cases hplan
      exact .inserts hcase hplace

/-- When a mock is planned, and what the plan says. -/
theorem mock_eq_ok_iff {header target : Path} {headerText anchor : Text} {existing : Option Text}
    {plan : Plan} :
    mock header headerText anchor target existing = .ok plan ↔
    header.hasEnding headerEnding = true ∧
    ∃ mock, Mock.generate (namesOf header) headerText anchor = .ok mock ∧
      Fits target .mock existing (TestFile.includes (namesOf header).headerName ++ mock.render)
        mock.render plan := by
  simp only [Plan.mock, bind_eq_ok_iff, checkFileKind_eq_ok_iff, exists_const, fits_iff]
  rfl

/-- When a test is planned, and what the plan says. -/
theorem test_eq_ok_iff {source target : Path} {sourceText anchor : Text} {existing : Option Text}
    {plan : Plan} :
    test source sourceText anchor target existing = .ok plan ↔
    source.hasEnding sourceEnding = true ∧
    ∃ stub, TestStub.generate (namesOf source) sourceText anchor (present? existing) = .ok stub ∧
      Fits target .test existing
        (TestFile.render (namesOf source).headerName stub.suite stub.render) (stubBlock stub)
        plan := by
  simp only [Plan.test, bind_eq_ok_iff, checkFileKind_eq_ok_iff, exists_const, fits_iff]
  rfl

/-! ## 2. Plans and the text they are made for -/

section

variable {target : Path} {kind : BlockKind} {existing : Option Text} {whole block : Text}
  {plan : Plan}

theorem Fits.path_eq (h : Fits target kind existing whole block plan) : plan.path = target := by
  cases h with
  | creates habsent => rfl
  | inserts hpresent hplace => rfl

/-- A plan never cuts the text of its target inside a character or beyond its end. -/
theorem Fits.isBoundary (h : Fits target kind existing whole block plan) :
    IsBoundary plan.offset (existing.getD []) := by
  cases h with
  | creates habsent => exact isBoundary_zero _
  | inserts hpresent hplace =>
    obtain ⟨rfl, -⟩ := present?_eq_some_iff.mp hpresent
    exact locate_isBoundary hplace

/-- Over a target with text, a plan carries out the placement of its block. -/
theorem Fits.exists_point (h : Fits target kind existing whole block plan)
    (hne : existing.getD [] ≠ []) :
    ∃ point, locate (existing.getD []) kind = .ok point ∧
      takeBytes plan.offset (existing.getD []) ++ plan.text =
        apply (existing.getD []) point block := by
  cases h with
  | creates habsent => exact absurd (present?_eq_none_iff.mp habsent) hne
  | inserts hpresent hplace =>
    obtain ⟨rfl, -⟩ := present?_eq_some_iff.mp hpresent
    exact ⟨_, hplace, rfl⟩

end

end StubGen.Plan
