import StubGen.Proofs.Writing

/-!
# Sessions in memory

Writes follow one another on one memory. A draft stands for a write that is not carried out, and
what a session remembers is the output directory of each source.

Results:

1. `draft_predicts_write`: a draft answers what the write would answer and changes nothing. Only for
   a source of the wrong kind without an output directory do the two name different causes.
2. `get?_dirs_call`: what one call does to the stored directories.
3. `dirs_after`: over a whole session the directory of a source is the one stored at the beginning,
   else the one chosen in the first call for it that succeeded, and every test that is written is in
   the test file there.
-/

namespace StubGen

/-- Paths that are the same are one key. -/
theorem PathMap.get?_eq_of_same {α : Type} (m : PathMap α) {p q : Path} (h : p.same q = true) :
    m.get? p = m.get? q := by
  have hcomponents : p.components = q.components := eq_of_beq h
  rw [PathMap.get?, PathMap.get?, hcomponents]

namespace Memory

/-! ## 1. Drafts -/

theorem runOn_testTarget (mem : Memory) (source : Path) (chosen : Option Path) :
    runOn mem (testTarget source chosen) =
      ((chooseDir source (mem.dirs.get? source) chosen).map fun out => testFileIn out.dir source,
        mem) := by
  rw [testTarget, runOn_bind, runOn_resolveOutputDir]
  cases chooseDir source (mem.dirs.get? source) chosen with
  | error e => rfl
  | ok out => rfl

theorem runOn_draftTest (mem : Memory) (source : Path) (sourceText anchor : Text)
    (chosen : Option Path) :
    runOn mem (draftTest source sourceText anchor chosen) =
      (chooseDir source (mem.dirs.get? source) chosen >>= fun out =>
        Plan.test source sourceText anchor (testFileIn out.dir source)
          (mem.files.get? (testFileIn out.dir source)), mem) := by
  rw [draftTest, runOn_bind, runOn_testTarget]
  cases chooseDir source (mem.dirs.get? source) chosen with
  | error e => rfl
  | ok out => exact runOn_draftTestAt mem source sourceText anchor (testFileIn out.dir source)

theorem answer_writeTest (mem : Memory) (source : Path) (sourceText anchor : Text)
    (chosen : Option Path) :
    (runOn mem (writeTest source sourceText anchor chosen)).1 =
      (mem.planTest source sourceText anchor chosen).map Prod.snd := by
  rw [runOn_writeTest]
  cases mem.planTest source sourceText anchor chosen with
  | error e => rfl
  | ok planned => rfl

theorem answer_writeMock (mem : Memory) (header : Path) (headerText anchor : Text)
    (target : Path) :
    (runOn mem (writeMock header headerText anchor target)).1 =
      Plan.mock header headerText anchor target (mem.files.get? target) := by
  rw [runOn_writeMock]
  cases Plan.mock header headerText anchor target (mem.files.get? target) with
  | error e => rfl
  | ok plan => rfl

/-- A draft answers what the write would answer and leaves the memory as it is. For tests the two
look at the kind of the source at different times: they agree exactly if it is the right one or an
output directory is found. -/
theorem draft_predicts_write (mem : Memory) :
    (∀ source sourceText anchor chosen,
      (runOn mem (draftTest source sourceText anchor chosen)).2 = mem ∧
      ((runOn mem (draftTest source sourceText anchor chosen)).1 =
          (runOn mem (writeTest source sourceText anchor chosen)).1 ↔
        checkFileKind source sourceEnding = .ok () ∨
          ∃ out, chooseDir source (mem.dirs.get? source) chosen = .ok out)) ∧
    (∀ header headerText anchor target,
      runOn mem (draftMock header headerText anchor target) =
        ((runOn mem (writeMock header headerText anchor target)).1, mem)) := by
  constructor
  · intro source sourceText anchor chosen
    rw [runOn_draftTest, answer_writeTest]
    refine ⟨rfl, ?_⟩
    unfold planTest
    cases hkind : checkFileKind source sourceEnding with
    | ok _ =>
      simp only [true_or, iff_true]
      cases chooseDir source (mem.dirs.get? source) chosen with
      | error e => rfl
      | ok out =>
        simp only [bind, Except.bind]
        cases Plan.test source sourceText anchor (testFileIn out.dir source)
          (mem.files.get? (testFileIn out.dir source)) with
        | error e => rfl
        | ok plan => rfl
    | error e =>
      cases hdir : chooseDir source (mem.dirs.get? source) chosen with
      | ok out => simp [bind, Except.bind, Plan.test, hkind, Except.map]
      | error e' =>
        -- Without a directory the draft asks for one, and the write refuses the source.
        simp only [bind, Except.bind, Except.map, reduceCtorEq, exists_false, or_self, iff_false]
        intro heq
        unfold checkFileKind at hkind
        unfold chooseDir at hdir
        grind
  · intro header headerText anchor target
    rw [runOn_draftMock, answer_writeMock]

/-! ## 2. One call -/

/-- A write that is asked for. -/
inductive Call where
  | test (source : Path) (sourceText anchor : Text) (chosen : Option Path)
  | mock (header : Path) (headerText anchor : Text) (target : Path)

namespace Call

def program : Call → ExceptT Error (StateM Memory) Plan
  | test source sourceText anchor chosen => writeTest source sourceText anchor chosen
  | mock header headerText anchor target => writeMock header headerText anchor target

/-- The call writes a test for the source. -/
def tests : Call → Path → Bool
  | test called _ _ _, source => source.same called
  | mock .., _ => false

/-- The output directory chosen in a call. -/
def chosen? : Call → Option Path
  | test _ _ _ chosen => chosen
  | mock .. => none

end Call

def call (mem : Memory) (c : Call) : Except Error Plan × Memory := runOn mem c.program

/-- The directory that a call stores for a source if there is none yet. -/
def offered (c : Call) (answer : Except Error Plan) (source : Path) : Option Path :=
  if c.tests source && answer.isOk then c.chosen? else none

@[simp] theorem dirs_carryOut (mem : Memory) (plan : Plan) : (mem.carryOut plan).dirs = mem.dirs :=
  rfl

theorem chooseDir_eq_ok_iff {source : Path} {stored chosen : Option Path} {out : OutputDir} :
    chooseDir source stored chosen = .ok out ↔
      stored.or chosen = some out.dir ∧ out.remember = stored.isNone := by
  obtain ⟨dir, remember⟩ := out
  cases stored with
  | some stored => simp [chooseDir, eq_comm]
  | none => cases chosen <;> simp [chooseDir, eq_comm]

theorem get?_dirs_remember (mem : Memory) (source q : Path) (out : OutputDir) :
    (mem.remember source out).dirs.get? q =
      if q.same source && out.remember then some out.dir else mem.dirs.get? q := by
  unfold remember
  cases out.remember with
  | false => simp
  | true => simp [PathMap.get?_insert]

/-- A test that is written goes to the directory that was stored for its source or, without one, to
the directory chosen now. -/
theorem call_test_eq_ok {mem : Memory} {source : Path} {sourceText anchor : Text}
    {chosen : Option Path} {plan : Plan}
    (h : (mem.call (.test source sourceText anchor chosen)).1 = .ok plan) :
    ∃ out, chooseDir source (mem.dirs.get? source) chosen = .ok out ∧
      Plan.test source sourceText anchor (testFileIn out.dir source)
        (mem.files.get? (testFileIn out.dir source)) = .ok plan ∧
      plan.path = testFileIn out.dir source ∧
      (mem.call (.test source sourceText anchor chosen)).2 =
        (mem.carryOut plan).remember source out := by
  simp only [call, Call.program, runOn_writeTest] at h ⊢
  cases hplan : mem.planTest source sourceText anchor chosen with
  | error e =>
    rw [hplan] at h
    cases h
  | ok planned =>
    obtain ⟨out, plan'⟩ := planned
    rw [hplan] at h
    cases h
    obtain ⟨-, hout, htest⟩ := planTest_eq_ok_iff.mp hplan
    exact ⟨out, hout, htest, (wrote_of_test htest (files_remember _ source out)).1, rfl⟩

theorem call_mock_eq_ok {mem : Memory} {header target : Path} {headerText anchor : Text}
    {plan : Plan} (h : (mem.call (.mock header headerText anchor target)).1 = .ok plan) :
    Plan.mock header headerText anchor target (mem.files.get? target) = .ok plan ∧
      (mem.call (.mock header headerText anchor target)).2 = mem.carryOut plan := by
  simp only [call, Call.program, runOn_writeMock] at h ⊢
  cases hplan : Plan.mock header headerText anchor target (mem.files.get? target) with
  | error e =>
    rw [hplan] at h
    cases h
  | ok plan' =>
    rw [hplan] at h
    cases h
    exact ⟨rfl, rfl⟩

theorem call_error_eq {mem : Memory} {c : Call} {e : Error} (h : (mem.call c).1 = .error e) :
    (mem.call c).2 = mem := by
  cases c with
  | test source sourceText anchor chosen =>
    simp only [call, Call.program, runOn_writeTest] at h ⊢
    cases hplan : mem.planTest source sourceText anchor chosen with
    | error e => rfl
    | ok planned =>
      rw [hplan] at h
      cases h
  | mock header headerText anchor target =>
    simp only [call, Call.program, runOn_writeMock] at h ⊢
    cases hplan : Plan.mock header headerText anchor target (mem.files.get? target) with
    | error e => rfl
    | ok plan =>
      rw [hplan] at h
      cases h

theorem dirs_call_mock (mem : Memory) (header : Path) (headerText anchor : Text) (target : Path) :
    (mem.call (.mock header headerText anchor target)).2.dirs = mem.dirs := by
  simp only [call, Call.program, runOn_writeMock]
  cases Plan.mock header headerText anchor target (mem.files.get? target) with
  | error e => rfl
  | ok plan => rfl

/-- One call keeps every stored directory, and stores one only if it succeeds. -/
theorem get?_dirs_call (mem : Memory) (c : Call) (q : Path) :
    (mem.call c).2.dirs.get? q = (mem.dirs.get? q).or (offered c (mem.call c).1 q) := by
  cases hanswer : (mem.call c).1 with
  | error e =>
    have hnone : offered c (.error e) q = none := by simp [offered, Except.isOk, Except.toBool]
    rw [call_error_eq hanswer, hnone, Option.or_none]
  | ok plan =>
    cases c with
    | mock header headerText anchor target =>
      rw [dirs_call_mock]
      exact Option.or_none.symm
    | test source sourceText anchor chosen =>
      obtain ⟨out, hout, -, -, hafter⟩ := call_test_eq_ok hanswer
      obtain ⟨hdir, hremember⟩ := chooseDir_eq_ok_iff.mp hout
      rw [hafter, get?_dirs_remember, dirs_carryOut, hremember]
      simp only [offered, Call.tests, Call.chosen?, Except.isOk, Except.toBool, Bool.and_true]
      by_cases hsame : q.same source = true
      · rw [PathMap.get?_eq_of_same mem.dirs hsame]
        cases hstored : mem.dirs.get? source with
        | some dir => simp
        | none =>
          rw [hstored, Option.none_or] at hdir
          simp [hsame, hdir]
      · simp [hsame]

/-! ## 3. Sessions -/

/-- The memory after a session. -/
def after (mem : Memory) (calls : List Call) : Memory :=
  calls.foldl (fun mem c => (mem.call c).2) mem

/-- The calls of a session with their answers. -/
def answers (mem : Memory) : List Call → List (Call × Except Error Plan)
  | [] => []
  | c :: rest => (c, (mem.call c).1) :: answers (mem.call c).2 rest

@[simp] theorem after_nil (mem : Memory) : mem.after [] = mem := rfl

@[simp] theorem after_cons (mem : Memory) (c : Call) (calls : List Call) :
    mem.after (c :: calls) = (mem.call c).2.after calls := rfl

theorem after_append (mem : Memory) (before calls : List Call) :
    mem.after (before ++ calls) = (mem.after before).after calls :=
  List.foldl_append ..

/-- The directory chosen in the first call for a source that succeeded. -/
def firstChoice (source : Path) (answers : List (Call × Except Error Plan)) : Option Path :=
  (answers.find? fun (c, answer) => c.tests source && answer.isOk).bind (·.1.chosen?)

theorem firstChoice_cons (source : Path) (c : Call) (answer : Except Error Plan)
    (rest : List (Call × Except Error Plan)) :
    firstChoice source ((c, answer) :: rest) =
      if c.tests source && answer.isOk then c.chosen? else firstChoice source rest := by
  unfold firstChoice
  rw [List.find?_cons]
  split
  · next h => rw [if_pos (by simpa using h)]; rfl
  · next h => rw [if_neg (by simpa using h)]

/-- A source for which a call succeeded without a choice had a directory stored. -/
theorem isSome_of_tests {mem : Memory} {c : Call} {q : Path}
    (h : (c.tests q && (mem.call c).1.isOk) = true) (hchosen : c.chosen? = none) :
    (mem.dirs.get? q).isSome = true := by
  rw [Bool.and_eq_true] at h
  cases c with
  | mock header headerText anchor target => exact absurd h.1 Bool.false_ne_true
  | test source sourceText anchor chosen =>
    cases hanswer : (mem.call (.test source sourceText anchor chosen)).1 with
    | error e =>
      rw [hanswer] at h
      exact absurd h.2 Bool.false_ne_true
    | ok plan =>
      obtain ⟨out, hout, -⟩ := call_test_eq_ok hanswer
      obtain ⟨hdir, -⟩ := chooseDir_eq_ok_iff.mp hout
      rw [show chosen = none from hchosen, Option.or_none] at hdir
      rw [PathMap.get?_eq_of_same mem.dirs h.1, hdir]
      rfl

theorem get?_dirs_after (mem : Memory) (calls : List Call) (q : Path) :
    (mem.after calls).dirs.get? q =
      (mem.dirs.get? q).or (firstChoice q (mem.answers calls)) := by
  induction calls generalizing mem with
  | nil => exact Option.or_none.symm
  | cons c calls ih =>
    rw [after_cons, ih, get?_dirs_call, answers, firstChoice_cons, Option.or_assoc]
    unfold offered
    split
    · next hsuccess =>
      -- A later choice counts only if this call chose nothing, and then one was stored before it.
      cases hchosen : c.chosen? with
      | some dir => rw [Option.some_or]
      | none =>
        obtain ⟨dir, hdir⟩ := Option.isSome_iff_exists.mp (isSome_of_tests hsuccess hchosen)
        rw [hdir, Option.some_or, Option.some_or]
    · rw [Option.none_or]

theorem get?_dirs_after_of_some {mem : Memory} {q dir : Path} (h : mem.dirs.get? q = some dir)
    (calls : List Call) : (mem.after calls).dirs.get? q = some dir := by
  rw [get?_dirs_after, h, Option.some_or]

/-- Right after a test is written, its source has a stored directory, and the test went there. -/
theorem get?_dirs_call_test {mem : Memory} {source : Path} {sourceText anchor : Text}
    {chosen : Option Path} {plan : Plan}
    (h : (mem.call (.test source sourceText anchor chosen)).1 = .ok plan) :
    ∃ dir, (mem.call (.test source sourceText anchor chosen)).2.dirs.get? source = some dir ∧
      plan.path = testFileIn dir source := by
  obtain ⟨out, hout, -, hpath, -⟩ := call_test_eq_ok h
  obtain ⟨hdir, -⟩ := chooseDir_eq_ok_iff.mp hout
  have htests : (Call.test source sourceText anchor chosen).tests source = true :=
    beq_self_eq_true source.components
  refine ⟨out.dir, ?_, hpath⟩
  rw [get?_dirs_call, h, offered, htests]
  exact hdir

/-- A test that is written puts its stub into the file that its plan names, and changes no other
file. -/
theorem wrote_call_test {mem : Memory} {source : Path} {sourceText anchor : Text}
    {chosen : Option Path} {plan : Plan}
    (h : (mem.call (.test source sourceText anchor chosen)).1 = .ok plan) :
    ∃ stub, TestStub.generate (Plan.namesOf source) sourceText anchor
        (Plan.present? (mem.files.get? plan.path)) = .ok stub ∧
      mem.Wrote (mem.call (.test source sourceText anchor chosen)).2 .test (Plan.stubBlock stub)
        plan := by
  obtain ⟨out, -, htest, -, hafter⟩ := call_test_eq_ok h
  refine (wrote_of_test htest ?_).2
  rw [hafter, files_remember]

/-- A remembered output directory stays, and only a success stores one: after any session the
directory of a source is the one stored at the beginning, else the one chosen in the first call for
it that succeeded. Every call for the source that succeeded wrote its test into the test file in that
directory, whatever the call chose, and into no other file. A call that fails or is for another source
does not change the directory of a source. -/
theorem dirs_after (mem : Memory) (calls : List Call) :
    (∀ source, (mem.after calls).dirs.get? source =
      (mem.dirs.get? source).or (firstChoice source (mem.answers calls))) ∧
    ∀ before c later, calls = before ++ c :: later →
      (∀ source sourceText anchor chosen plan, c = .test source sourceText anchor chosen →
        ((mem.after before).call c).1 = .ok plan →
        ∃ dir, (mem.after calls).dirs.get? source = some dir ∧
          plan.path = testFileIn dir source ∧
          ∃ stub, TestStub.generate (Plan.namesOf source) sourceText anchor
              (Plan.present? ((mem.after before).files.get? plan.path)) = .ok stub ∧
            (mem.after before).Wrote ((mem.after before).call c).2 .test (Plan.stubBlock stub)
              plan) ∧
      ∀ source, (c.tests source = false ∨ ∃ e, ((mem.after before).call c).1 = .error e) →
        ((mem.after before).call c).2.dirs.get? source = (mem.after before).dirs.get? source := by
  refine ⟨get?_dirs_after mem calls, ?_⟩
  rintro before c later rfl
  constructor
  · rintro source sourceText anchor chosen plan rfl hok
    obtain ⟨dir, hdir, hpath⟩ := get?_dirs_call_test hok
    refine ⟨dir, ?_, hpath, wrote_call_test hok⟩
    rw [after_append, after_cons]
    exact get?_dirs_after_of_some hdir later
  · rintro source (hother | ⟨e, herror⟩)
    · rw [get?_dirs_call, offered, hother]
      exact Option.or_none
    · rw [call_error_eq herror]

/-- A session of a widget. The first call finds no directory and fails, the second one chooses `t` and
the third one `u`. Both tests are in the file in `t`, `u` has none, and the directory of another
source is still the one that was stored before. -/
theorem dirs_after_widget :
    let widget := Path.ofText "Widget.cpp".toList
    let other := Path.ofText "B.cpp".toList
    let target := Path.ofText "t/WidgetTest.cpp".toList
    let text := "void Widget::run()\nvoid Widget::stop()\n".toList
    let start : Memory := ⟨PathMap.empty.insert target "namespace n \x7b\n\x7d\n".toList,
      PathMap.empty.insert other (.ofText ['b'])⟩
    let failing := Call.test widget text "void Widget::run()".toList none
    let first := Call.test widget text "void Widget::run()".toList (some (.ofText ['t']))
    let second := Call.test widget text "void Widget::stop()".toList (some (.ofText ['u']))
    let run := Plan.stubBlock
      ⟨"WidgetTest".toList, ⟨"void".toList, "run".toList, [], "()".toList, false⟩⟩
    let stop := Plan.stubBlock
      ⟨"WidgetTest".toList, ⟨"void".toList, "stop".toList, [], "()".toList, false⟩⟩
    let after := start.after [failing, first, second]
    (start.call failing).1 = .error (.noOutputDir "Widget.cpp".toList) ∧
    after.dirs.get? widget = some (.ofText ['t']) ∧
    after.dirs.get? other = some (.ofText ['b']) ∧
    after.files.get? target = some ("namespace n \x7b\n".toList ++ run ++ stop ++ "\x7d\n".toList) ∧
    after.files.get? (.ofText "u/WidgetTest.cpp".toList) = none := by
  intro widget other target text start failing first second run stop after
  obtain ⟨hdirs, hcalls⟩ := dirs_after start [failing, first, second]
  have hwidget : after.dirs.get? widget = some (.ofText ['t']) :=
    (hdirs widget).trans (by decide +kernel)
  have hfirst : ((start.after [failing]).call first).1 =
      .ok ⟨target, 14, run ++ "\x7d\n".toList, false⟩ := by decide +kernel
  have hsecond : ((start.after [failing, first]).call second).1 =
      .ok ⟨target, 14 + Text.byteSize run, stop ++ "\x7d\n".toList, false⟩ := by decide +kernel
  obtain ⟨_, -, -, _, -, hwrote⟩ :=
    (hcalls [failing] first [second] rfl).1 _ _ _ _ _ rfl hfirst
  obtain ⟨_, -, -, _, -, hwrote'⟩ :=
    (hcalls [failing, first] second [] rfl).1 _ _ _ _ _ rfl hsecond
  have hbetween : ((start.after [failing]).call first).2 = start.after [failing, first] := by
    simp only [after_cons, after_nil]
  have hafter : ((start.after [failing, first]).call second).2 = after := by
    simp only [after, after_cons, after_nil]
  rw [hbetween] at hwrote
  rw [hafter] at hwrote'
  -- The file has one stub after the first write, and the second write keeps it.
  have hone : (start.after [failing, first]).files.get? target =
      some ("namespace n \x7b\n".toList ++ run ++ "\x7d\n".toList) :=
    hwrote.target.trans (congrArg some (by decide +kernel))
  have hboth : after.files.get? target =
      some ("namespace n \x7b\n".toList ++ run ++ stop ++ "\x7d\n".toList) := by
    refine hwrote'.target.trans (congrArg some ?_)
    rw [textAt, hone]
    decide +kernel
  have hnone : after.files.get? (.ofText "u/WidgetTest.cpp".toList) = none :=
    (hwrote'.others _ (by decide +kernel)).trans
      ((hwrote.others _ (by decide +kernel)).trans (by decide +kernel))
  exact ⟨by decide +kernel, hwidget, (hdirs other).trans (by decide +kernel), hboth, hnone⟩

end Memory

end StubGen
