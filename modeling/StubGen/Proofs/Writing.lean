import StubGen.Memory
import StubGen.Proofs.Plan
import StubGen.Write

/-!
# What a write leaves in memory

On a store in memory only planning can fail, and a plan that is made is carried out as it stands.

Results:

1. `runOn_read`, `runOn_writeAt`, ...: what the operations of a program do on a memory.
2. `runOn_writeMock`, `runOn_writeTest`: a write makes its plan on the memory as it is and carries it
   out.
3. `wrote_of_fits`, `wrote_of_test`: the files after a plan is carried out.
4. `write_leaves`: a failed write leaves the memory unchanged, and a write that succeeds changes its
   target as its plan says and no other file.
-/

namespace StubGen

open Text Placement

namespace Memory

/-! ## 1. Programs on a memory -/

section

variable (mem : Memory)

theorem runOn_read (path : Path) :
    runOn mem (FileStore.read path) = (.ok (mem.files.get? path), mem) := rfl

theorem runOn_writeAt (path : Path) (offset : Nat) (text : Text) :
    runOn mem (FileStore.writeAt path offset text) =
      (.ok (), mem.putFile path (overwritten (mem.files.get? path) offset text)) := rfl

theorem runOn_storedDir (source : Path) :
    runOn (ε := Error) mem (ExceptT.lift (OutputDirs.get? source)) =
      (.ok (mem.dirs.get? source), mem) := rfl

theorem runOn_setDir (source dir : Path) :
    runOn mem (OutputDirs.set source dir) =
      (.ok (), { mem with dirs := mem.dirs.insert source dir }) := rfl

theorem runOn_record (e : Event) :
    runOn (ε := Error) mem (Journal.record e) = (.ok (), mem) := rfl

theorem runOn_recordAll (events : List Event) :
    runOn (ε := Error) mem (Journal.recordAll events) = (.ok (), mem) := by
  induction events with
  | nil => rfl
  | cons e events ih =>
    rw [Journal.recordAll, runOn_bind, runOn_record]
    exact ih

end

/-! ## 2. Writes -/

/-- The memory with a plan carried out. -/
def carryOut (mem : Memory) (plan : Plan) : Memory :=
  mem.putFile plan.path (overwritten (mem.files.get? plan.path) plan.offset plan.text)

/-- The memory with an output directory stored, if that is to be remembered. -/
def remember (mem : Memory) (source : Path) (out : OutputDir) : Memory :=
  if out.remember then { mem with dirs := mem.dirs.insert source out.dir } else mem

/-- The output directory and the plan of a test, as the memory is now. -/
def planTest (mem : Memory) (source : Path) (sourceText anchor : Text) (chosen : Option Path) :
    Except Error (OutputDir × Plan) := do
  checkFileKind source sourceEnding
  let out ← chooseDir source (mem.dirs.get? source) chosen
  let target := testFileIn out.dir source
  let plan ← Plan.test source sourceText anchor target (mem.files.get? target)
  return (out, plan)

theorem runOn_draftMock (mem : Memory) (header : Path) (headerText anchor : Text) (target : Path) :
    runOn mem (draftMock header headerText anchor target) =
      (Plan.mock header headerText anchor target (mem.files.get? target), mem) := by
  simp only [draftMock, runOn_bind, runOn_read, runOn_recordAll, runOn_answer]

theorem runOn_draftTestAt (mem : Memory) (source : Path) (sourceText anchor : Text)
    (target : Path) :
    runOn mem (draftTestAt source sourceText anchor target) =
      (Plan.test source sourceText anchor target (mem.files.get? target), mem) := by
  simp only [draftTestAt, runOn_bind, runOn_read, runOn_recordAll, runOn_answer]

theorem runOn_resolveOutputDir (mem : Memory) (source : Path) (chosen : Option Path) :
    runOn mem (resolveOutputDir source chosen) =
      (chooseDir source (mem.dirs.get? source) chosen, mem) := by
  simp only [resolveOutputDir, runOn_bind, runOn_storedDir, runOn_recordAll, runOn_answer]

/-- Writing a mock carries out its plan. -/
theorem runOn_writeMock (mem : Memory) (header : Path) (headerText anchor : Text) (target : Path) :
    runOn mem (writeMock header headerText anchor target) =
      match Plan.mock header headerText anchor target (mem.files.get? target) with
      | .ok plan => (.ok plan, mem.carryOut plan)
      | .error e => (.error e, mem) := by
  rw [writeMock, runOn_bind, runOn_draftMock]
  cases Plan.mock header headerText anchor target (mem.files.get? target) with
  | error e => rfl
  | ok plan => simp only [runOn_bind, runOn_writeAt, runOn_record, runOn_pure, carryOut]

/-- Writing a test carries out its plan and then stores a directory that was chosen now. -/
theorem runOn_writeTest (mem : Memory) (source : Path) (sourceText anchor : Text)
    (chosen : Option Path) :
    runOn mem (writeTest source sourceText anchor chosen) =
      match mem.planTest source sourceText anchor chosen with
      | .ok (out, plan) => (.ok plan, (mem.carryOut plan).remember source out)
      | .error e => (.error e, mem) := by
  -- The last step is the only one that depends on the output directory.
  have hremember : ∀ (after : Memory) (out : OutputDir) (plan : Plan),
      runOn after (do
        if out.remember then
          OutputDirs.set source out.dir
          Journal.record (.rememberedDir source out.dir)
        return plan) = (.ok plan, after.remember source out) := by
    intro after out plan
    unfold remember
    split
    · simp only [runOn_bind, runOn_setDir, runOn_record, runOn_pure]
    · rfl
  simp only [writeTest, planTest, runOn_bind, runOn_answer, runOn_resolveOutputDir,
    runOn_draftTestAt, runOn_writeAt, runOn_record, hremember]
  cases checkFileKind source sourceEnding with
  | error e => rfl
  | ok _ =>
    simp only [bind, Except.bind]
    cases chooseDir source (mem.dirs.get? source) chosen with
    | error e => rfl
    | ok out =>
      simp only
      cases Plan.test source sourceText anchor (testFileIn out.dir source)
        (mem.files.get? (testFileIn out.dir source)) with
      | error e => rfl
      | ok plan => rfl

theorem planTest_eq_ok_iff {mem : Memory} {source : Path} {sourceText anchor : Text}
    {chosen : Option Path} {out : OutputDir} {plan : Plan} :
    mem.planTest source sourceText anchor chosen = .ok (out, plan) ↔
    source.hasEnding sourceEnding = true ∧
    chooseDir source (mem.dirs.get? source) chosen = .ok out ∧
    Plan.test source sourceText anchor (testFileIn out.dir source)
      (mem.files.get? (testFileIn out.dir source)) = .ok plan := by
  simp only [planTest, bind_eq_ok_iff, Plan.checkFileKind_eq_ok_iff, exists_const]
  constructor
  · rintro ⟨hkind, out', hout, plan', hplan, heq⟩
    cases heq
    exact ⟨hkind, hout, hplan⟩
  · rintro ⟨hkind, hout, hplan⟩
    exact ⟨hkind, out, hout, plan, hplan, rfl⟩

/-! ## 3. Files after a write -/

/-- The text of a file; a missing file has none. -/
def textAt (mem : Memory) (path : Path) : Text := (mem.files.get? path).getD []

/-- The files of `after` are those of `mem` with a plan carried out that puts `block` into its
target. -/
structure Wrote (mem after : Memory) (kind : BlockKind) (block : Text) (plan : Plan) : Prop where
  inside : plan.offset ≤ byteSize (mem.textAt plan.path)
  boundary : IsBoundary plan.offset (mem.textAt plan.path)
  target : after.files.get? plan.path =
    some (takeBytes plan.offset (mem.textAt plan.path) ++ plan.text)
  placed : mem.textAt plan.path ≠ [] → ∃ point, locate (mem.textAt plan.path) kind = .ok point ∧
    after.files.get? plan.path = some (apply (mem.textAt plan.path) point block)
  others : ∀ path, path.same plan.path = false → after.files.get? path = mem.files.get? path

@[simp] theorem files_remember (mem : Memory) (source : Path) (out : OutputDir) :
    (mem.remember source out).files = mem.files := by
  unfold remember
  split <;> rfl

theorem get?_files_carryOut (mem : Memory) (plan : Plan) (path : Path) :
    (mem.carryOut plan).files.get? path =
      if path.same plan.path then
        some (takeBytes plan.offset (mem.textAt plan.path) ++ plan.text)
      else mem.files.get? path :=
  PathMap.get?_insert mem.files plan.path path _

/-- To carry out a plan that fits the memory is to write what it says. -/
theorem wrote_of_fits {mem after : Memory} {target : Path} {kind : BlockKind} {whole block : Text}
    {plan : Plan} (hfits : plan.Fits target kind (mem.files.get? target) whole block)
    (hfiles : after.files = (mem.carryOut plan).files) : mem.Wrote after kind block plan := by
  obtain rfl := hfits.path_eq
  have htarget : after.files.get? plan.path =
      some (takeBytes plan.offset (mem.textAt plan.path) ++ plan.text) := by
    have hsame : plan.path.same plan.path = true := beq_self_eq_true plan.path.components
    rw [hfiles, get?_files_carryOut, if_pos hsame]
  refine ⟨hfits.isBoundary.le_byteSize, hfits.isBoundary, htarget, ?_, ?_⟩
  · intro hne
    obtain ⟨point, hplace, happly⟩ := hfits.exists_point hne
    exact ⟨point, hplace, htarget.trans (congrArg some happly)⟩
  · intro path hother
    rw [hfiles, get?_files_carryOut, if_neg (by simp [hother])]

/-- To carry out the plan of a test is to put the stub of the test into the test file. -/
theorem wrote_of_test {mem after : Memory} {source target : Path} {sourceText anchor : Text}
    {plan : Plan}
    (htest : Plan.test source sourceText anchor target (mem.files.get? target) = .ok plan)
    (hfiles : after.files = (mem.carryOut plan).files) :
    plan.path = target ∧
      ∃ stub, TestStub.generate (Plan.namesOf source) sourceText anchor
          (Plan.present? (mem.files.get? plan.path)) = .ok stub ∧
        mem.Wrote after .test (Plan.stubBlock stub) plan := by
  obtain ⟨-, stub, hstub, hfits⟩ := Plan.test_eq_ok_iff.mp htest
  have hpath := hfits.path_eq
  refine ⟨hpath, stub, ?_, wrote_of_fits hfits hfiles⟩
  rw [hpath]
  exact hstub

/-- A write is exactly its plan, and a failed write changes nothing. -/
theorem write_leaves (mem : Memory) :
    (∀ header headerText anchor target,
      match runOn mem (writeMock header headerText anchor target) with
      | (.error e, after) =>
        Plan.mock header headerText anchor target (mem.files.get? target) = .error e ∧ after = mem
      | (.ok plan, after) =>
        Plan.mock header headerText anchor target (mem.files.get? target) = .ok plan ∧
        plan.path = target ∧
        ∃ mock, Mock.generate (Plan.namesOf header) headerText anchor = .ok mock ∧
          mem.Wrote after .mock mock.render plan) ∧
    (∀ source sourceText anchor chosen,
      match runOn mem (writeTest source sourceText anchor chosen) with
      | (.error e, after) =>
        mem.planTest source sourceText anchor chosen = .error e ∧ after = mem
      | (.ok plan, after) =>
        ∃ out, mem.planTest source sourceText anchor chosen = .ok (out, plan) ∧
        plan.path = testFileIn out.dir source ∧
        ∃ stub, TestStub.generate (Plan.namesOf source) sourceText anchor
            (Plan.present? (mem.files.get? plan.path)) = .ok stub ∧
          mem.Wrote after .test (Plan.stubBlock stub) plan) := by
  constructor
  · intro header headerText anchor target
    rw [runOn_writeMock]
    cases hplan : Plan.mock header headerText anchor target (mem.files.get? target) with
    | error e => exact ⟨rfl, rfl⟩
    | ok plan =>
      obtain ⟨-, mock, hmock, hfits⟩ := Plan.mock_eq_ok_iff.mp hplan
      exact ⟨rfl, hfits.path_eq, mock, hmock, wrote_of_fits hfits rfl⟩
  · intro source sourceText anchor chosen
    rw [runOn_writeTest]
    cases hplan : mem.planTest source sourceText anchor chosen with
    | error e => exact ⟨rfl, rfl⟩
    | ok planned =>
      obtain ⟨out, plan⟩ := planned
      obtain ⟨-, -, htest⟩ := planTest_eq_ok_iff.mp hplan
      exact ⟨out, rfl, wrote_of_test htest (files_remember _ source out)⟩

end Memory

end StubGen
