import StubGen.Proofs.Persistence
import StubGen.Proofs.Writing

/-!
# Two stores with one meaning

A file on a disk is bytes: a write goes over them at an offset, and the file is then cut off or
filled up to end behind the text. A file in memory is a text: a write cuts it at the offset and
appends. Both come to the same as long as writes begin between two characters. What is on a disk need
not be a text at all; then a write is refused before anything is written.

Results:

1. `run_read`, `run_writeAt`, `run_resolveOutputDir`: the steps of a write on a desk.
2. `overwritten_encode`: overwriting the bytes of a text at a boundary overwrites the text.
3. `Agree.call`, `Agree.callAll`: a call on both stores gives one answer and leaves them in agreement,
   and so does any run of calls.
4. `run_writeMock_of_undecodable`, `run_writeTest_of_undecodable`: a target that is no text stays as
   it is.
5. `stores_agree`: both stores, for every run of calls and every target.
-/

namespace StubGen

open Text

/-! ## 1. Programs on a desk -/

/-- What reading a file that is to be updated answers. -/
def Disk.target (d : Disk) (path : Path) : Except Error (Option Text) :=
  match d.read path with
  | .ok bytes =>
    match Utf8.decode? bytes with
    | some t => .ok (some t)
    | none => .error (.undecodableTarget path.display)
  | .error .noSuchEntry => .ok none
  | .error fault => .error (.io fault)

namespace Desk

open Preferences

section

variable {α : Type} (s : Desk)

/-- The desk with more events in its journal. -/
def logging (events : List Event) : Desk :=
  { s with bench := { s.bench with log := s.bench.log ++ events } }

theorem run_answer (answer : Except Error α) : s.run (ExceptT.mk (pure answer)) = (answer, s) := rfl

theorem run_storedDir (source : Path) :
    s.run (ExceptT.lift (OutputDirs.get? source)) = (.ok (s.preferences.get? source), s) := rfl

theorem run_record (e : Event) : s.run (Journal.record e) = (.ok (), s.logging [e]) := rfl

theorem run_recordAll (events : List Event) :
    s.run (Journal.recordAll events) = (.ok (), s.logging events) := by
  induction events generalizing s with
  | nil =>
    rw [logging, List.append_nil]
    rfl
  | cons e events ih =>
    rw [Journal.recordAll, run_bind, run_record]
    simp only [ih, logging, List.append_assoc, List.singleton_append]

theorem run_onFiles (wrap : Fault → Error) (operation : ExceptT Fault (StateM Disk) α) :
    s.run (Workbench.onFiles wrap operation) =
      ((runOn s.disk operation).1.mapError wrap, { s with disk := (runOn s.disk operation).2 }) := by
  have hlift : s.run (ExceptT.lift (StateT.lift operation.run)) =
      (.ok (runOn s.disk operation).1, { s with disk := (runOn s.disk operation).2 }) := rfl
  rw [Workbench.onFiles, run_bind, hlift]
  cases (runOn s.disk operation).1 with
  | ok a => rfl
  | error fault => rfl

theorem run_read (path : Path) : s.run (FileStore.read path) = (s.disk.target path, s) := by
  have hread : s.run (ExceptT.lift (StateT.lift (FileSystem.read (m := StateM Disk) path).run)) =
      (.ok (s.disk.read path), s) := rfl
  show s.run (Workbench.readTarget path) = _
  rw [Workbench.readTarget, run_bind, hread, Disk.target]
  cases s.disk.read path with
  | ok bytes =>
    dsimp only
    cases Utf8.decode? bytes with
    | some t => rfl
    | none => rfl
  | error fault => cases fault <;> rfl

/-- A write makes the directory of its file, overwrites the file and reports it. -/
theorem run_writeAt (path : Path) (offset : Nat) (text : Text) :
    s.run (FileStore.writeAt path offset text) =
      match makeParent s.disk path with
      | (.error fault, made) => (.error (.io fault), { s with disk := made })
      | (.ok _, made) =>
        match made.overwrite path offset (Utf8.encode text) with
        | (.error fault, written) => (.error (.io fault), { s with disk := written })
        | (.ok _, written) =>
          (.ok (), logging { s with disk := written } [.wroteText path offset (byteSize text)]) := by
  have hwrite : ∀ made : Disk, run { s with disk := made } (do
      Workbench.onFiles .io (FileSystem.overwrite path offset (Utf8.encode text))
      Journal.record (.wroteText path offset (byteSize text))) =
      match made.overwrite path offset (Utf8.encode text) with
      | (.error fault, written) => (.error (.io fault), { s with disk := written })
      | (.ok _, written) =>
        (.ok (), logging { s with disk := written } [.wroteText path offset (byteSize text)]) := by
    intro made
    rw [run_bind, run_onFiles, runOn_overwrite]
    rcases made.overwrite path offset (Utf8.encode text) with ⟨fault | answer, written⟩
    · rfl
    · rfl
  show s.run (Workbench.writeTarget path offset text) = _
  unfold Workbench.writeTarget makeParent
  cases path.parent? with
  | none => exact hwrite s.disk
  | some dir =>
    dsimp only
    rw [run_bind, run_onFiles]
    rcases runOn s.disk (FileSystem.makeDirs dir) with ⟨fault | answer, made⟩
    · rfl
    · exact hwrite made

/-- A write that no file system refuses makes the directory of its file and overwrites the file. -/
theorem writeAt_eq_ok {s : Desk} {path : Path} {offset : Nat} {text : Text}
    (hio : ∀ fault, (s.run (FileStore.writeAt path offset text)).1 ≠ .error (.io fault)) :
    ∃ made written, makeParent s.disk path = (.ok (), made) ∧
      made.overwrite path offset (Utf8.encode text) = (.ok (), written) ∧
      s.run (FileStore.writeAt path offset text) =
        (.ok (), logging { s with disk := written } [.wroteText path offset (byteSize text)]) := by
  rw [run_writeAt] at hio ⊢
  rcases hmake : makeParent s.disk path with ⟨fault | answer, made⟩
  · rw [hmake] at hio
    exact absurd rfl (hio fault)
  · rw [hmake] at hio
    dsimp only at hio ⊢
    rcases hwrite : made.overwrite path offset (Utf8.encode text) with ⟨fault | answer, written⟩
    · rw [hwrite] at hio
      exact absurd rfl (hio fault)
    · exact ⟨made, written, rfl, hwrite, rfl⟩

theorem run_resolveOutputDir (source : Path) (chosen : Option Path) :
    s.run (resolveOutputDir source chosen) =
      (chooseDir source (s.preferences.get? source) chosen,
        s.logging (chooseDirEvents (s.preferences.get? source) chosen)) := by
  simp only [resolveOutputDir, run_bind, run_storedDir, run_recordAll, run_answer]

end

end Desk

/-! ## 2. Files that hold a text -/

/-- The path leads to a file with the text, or to nothing. -/
def Disk.HoldsText (d : Disk) (path : Path) : Option Text → Prop
  | some t => d.read path = .ok (Utf8.encode t)
  | none => d.read path = .error .noSuchEntry

namespace Disk

variable {d : Disk} {path : Path}

theorem target_of_holdsText {content : Option Text} (h : d.HoldsText path content) :
    d.target path = .ok content := by
  unfold target
  cases content with
  | none => rw [h]
  | some t =>
    rw [h]
    simp only [Utf8.decode?_eq_some_iff.mpr rfl]

theorem target_of_undecodable {bytes : Bytes} (hread : d.read path = .ok bytes)
    (hbytes : Utf8.decode? bytes = none) :
    d.target path = .error (.undecodableTarget path.display) := by
  rw [target, hread]
  simp only [hbytes]

/-- At a boundary, the bytes of a text are overwritten as the text is. -/
theorem overwritten_encode {offset : Nat} {t : Text} (h : IsBoundary offset t) (text : Text) :
    overwritten (Utf8.encode t) offset (Utf8.encode text) =
      Utf8.encode (takeBytes offset t ++ text) := by
  obtain ⟨before, after, rfl, rfl⟩ := h
  have hgap : byteSize before - (Utf8.encode (before ++ after)).length = 0 := by
    rw [Utf8.length_encode, byteSize_append]
    omega
  rw [overwritten_eq, hgap, List.replicate_zero, List.append_nil, takeBytes_byteSize_append,
    Utf8.encode_append, Utf8.encode_append, List.take_left' (Utf8.length_encode before)]

/-- Overwriting a file that holds a text leaves a file that holds a text, also where it was missing
and is made. -/
theorem HoldsText.overwrite {d made written : Disk} {content : Option Text} {offset : Nat}
    (h : d.HoldsText path content) (hboundary : IsBoundary offset (content.getD []))
    (hextends : d.Extends made) {text : Text}
    (hwrite : made.overwrite path offset (Utf8.encode text) = (.ok (), written)) :
    written.HoldsText path (some (takeBytes offset (content.getD []) ++ text)) := by
  cases content with
  | none =>
    -- Making directories can lead the path to a file that it did not lead to: no byte of it is kept.
    obtain rfl : offset = 0 := Nat.le_zero.mp hboundary.le_byteSize
    exact read_overwrite hwrite
  | some t =>
    have hboundary : IsBoundary offset t := hboundary
    have hread := read_overwrite_of_read (hextends.read h) hwrite
    rw [overwritten_encode hboundary] at hread
    exact hread

end Disk

/-! ## 3. Calls on one file -/

/-- A call on one file of a store. -/
inductive FileCall where
  | read
  | write (offset : Nat) (text : Text)

namespace FileCall

/-- The call as a program on any store. Only a read has a text to give. -/
def program {m : Type → Type} [Monad m] [FileStore m] (path : Path) :
    FileCall → ExceptT Error m (Option Text)
  | read => FileStore.read path
  | write offset text => do
    FileStore.writeAt path offset text
    return none

/-- What the call means for a file with a text, or a missing one: a write keeps the text in front of
its offset and appends. -/
def onText (content : Option Text) : FileCall → Except Error (Option Text) × Option Text
  | read => (.ok content, content)
  | write offset text => (.ok none, some (takeBytes offset (content.getD []) ++ text))

/-- A write begins within the file and between two characters. -/
def IsAligned (content : Option Text) : FileCall → Prop
  | read => True
  | write offset _ => IsBoundary offset (content.getD [])

/-- The answers to calls that are made one after the other, and what they leave. -/
def callAll {σ : Type} (call : σ → FileCall → Except Error (Option Text) × σ) (s : σ) :
    List FileCall → List (Except Error (Option Text)) × σ
  | [] => ([], s)
  | c :: rest =>
    ((call s c).1 :: (callAll call (call s c).2 rest).1, (callAll call (call s c).2 rest).2)

/-- Each write is aligned in what the calls before it have left. -/
def AllAligned (content : Option Text) : List FileCall → Prop
  | [] => True
  | c :: rest => c.IsAligned content ∧ AllAligned (onText content c).2 rest

end FileCall

/-- The calls on a file of the disk. -/
def Desk.fileCalls (s : Desk) (path : Path) (calls : List FileCall) :
    List (Except Error (Option Text)) × Desk :=
  FileCall.callAll (fun s c => s.run (c.program path)) s calls

/-- The calls on a file in memory. -/
def Memory.fileCalls (mem : Memory) (path : Path) (calls : List FileCall) :
    List (Except Error (Option Text)) × Memory :=
  FileCall.callAll (fun mem c => runOn mem (c.program path)) mem calls

/-- The file system refused none of the calls. -/
def FileCall.Granted (answers : List (Except Error (Option Text))) : Prop :=
  ∀ answer ∈ answers, ∀ fault, answer ≠ .error (.io fault)

/-- A desk and a memory hold the same at a path. -/
structure Agree (path : Path) (content : Option Text) (s : Desk) (mem : Memory) : Prop where
  disk : s.disk.HoldsText path content
  memory : mem.files.get? path = content

section

variable {path : Path} {content : Option Text} {s : Desk} {mem : Memory} {c : FileCall}

/-- A call on the disk answers and does what it means for the text. -/
theorem Disk.HoldsText.call (h : s.disk.HoldsText path content) (haligned : c.IsAligned content)
    (hgranted : ∀ fault, (s.run (c.program path)).1 ≠ .error (.io fault)) :
    (s.run (c.program path)).1 = (c.onText content).1 ∧
      (s.run (c.program path)).2.disk.HoldsText path (c.onText content).2 := by
  cases c with
  | read =>
    rw [FileCall.program, Desk.run_read, Disk.target_of_holdsText h]
    exact ⟨rfl, h⟩
  | write offset text =>
    rw [FileCall.program, Desk.run_bind] at hgranted ⊢
    have hio : ∀ fault, (s.run (FileStore.writeAt path offset text)).1 ≠ .error (.io fault) := by
      intro fault hfault
      rcases hrun : s.run (FileStore.writeAt path offset text) with ⟨answer, after⟩
      rw [hrun] at hfault hgranted
      subst hfault
      exact hgranted fault rfl
    obtain ⟨made, written, hmake, hwrite, hrun⟩ := Desk.writeAt_eq_ok hio
    have hextends := Preferences.makeParent_extends s.disk path
    rw [hmake] at hextends
    rw [hrun]
    exact ⟨rfl, h.overwrite haligned hextends hwrite⟩

/-- A call in memory answers and does what it means for the text. -/
theorem Memory.runOn_program (mem : Memory) (path : Path) (c : FileCall) :
    (runOn mem (c.program path)).1 = (c.onText (mem.files.get? path)).1 ∧
      (runOn mem (c.program path)).2.files.get? path = (c.onText (mem.files.get? path)).2 := by
  cases c with
  | read => exact ⟨rfl, rfl⟩
  | write offset text =>
    have hsame : path.same path = true := beq_self_eq_true path.components
    refine ⟨rfl, ?_⟩
    show (mem.files.insert path _).get? path = _
    rw [PathMap.get?_insert, if_pos hsame]
    rfl

/-- One call on both stores keeps them in agreement. -/
theorem Agree.call (h : Agree path content s mem) (haligned : c.IsAligned content)
    (hgranted : ∀ fault, (s.run (c.program path)).1 ≠ .error (.io fault)) :
    (s.run (c.program path)).1 = (c.onText content).1 ∧
    (runOn mem (c.program path)).1 = (c.onText content).1 ∧
    Agree path (c.onText content).2 (s.run (c.program path)).2 (runOn mem (c.program path)).2 := by
  obtain ⟨hanswer, hdisk⟩ := h.disk.call haligned hgranted
  obtain ⟨hanswer', hmemory⟩ := mem.runOn_program path c
  rw [h.memory] at hanswer' hmemory
  exact ⟨hanswer, hanswer', hdisk, hmemory⟩

/-- So does a run of calls, and all answers are the same. -/
theorem Agree.callAll (h : Agree path content s mem) {calls : List FileCall}
    (haligned : FileCall.AllAligned content calls)
    (hgranted : FileCall.Granted (s.fileCalls path calls).1) :
    (s.fileCalls path calls).1 = (FileCall.callAll FileCall.onText content calls).1 ∧
    (mem.fileCalls path calls).1 = (FileCall.callAll FileCall.onText content calls).1 ∧
    Agree path (FileCall.callAll FileCall.onText content calls).2 (s.fileCalls path calls).2
      (mem.fileCalls path calls).2 := by
  induction calls generalizing content s mem with
  | nil => exact ⟨rfl, rfl, h⟩
  | cons c rest ih =>
    obtain ⟨hfirst, hrest⟩ := List.forall_mem_cons.mp hgranted
    obtain ⟨hanswer, hanswer', hnext⟩ := h.call haligned.1 hfirst
    obtain ⟨hanswers, hanswers', hlast⟩ := ih hnext haligned.2 hrest
    exact ⟨List.cons_eq_cons.mpr ⟨hanswer, hanswers⟩, List.cons_eq_cons.mpr ⟨hanswer', hanswers'⟩,
      hlast⟩

/-! ## 4. Targets that are no text -/

theorem Desk.run_writeMock_of_undecodable {target : Path} {bytes : Bytes}
    (hread : s.disk.read target = .ok bytes) (hbytes : Utf8.decode? bytes = none)
    (header : Path) (headerText anchor : Text) :
    s.run (writeMock header headerText anchor target) =
      (.error (.undecodableTarget target.display), s) := by
  rw [writeMock, run_bind, draftMock, run_bind, run_read, Disk.target_of_undecodable hread hbytes]

theorem Desk.run_writeTest_of_undecodable {source : Path} {chosen : Option Path} {out : OutputDir}
    {bytes : Bytes} (hkind : source.hasEnding sourceEnding = true)
    (hdir : chooseDir source (s.preferences.get? source) chosen = .ok out)
    (hread : s.disk.read (testFileIn out.dir source) = .ok bytes)
    (hbytes : Utf8.decode? bytes = none) (sourceText anchor : Text) :
    s.run (writeTest source sourceText anchor chosen) =
      (.error (.undecodableTarget (testFileIn out.dir source).display),
        s.logging (chooseDirEvents (s.preferences.get? source) chosen)) := by
  have hok : checkFileKind source sourceEnding = .ok () := Plan.checkFileKind_eq_ok_iff.mpr hkind
  have htarget := Disk.target_of_undecodable hread hbytes
  rw [writeTest, run_bind, run_answer, hok]
  dsimp only
  rw [run_bind, run_resolveOutputDir, hdir]
  dsimp only
  rw [run_bind, draftTestAt, run_bind, run_read]
  simp only [logging, htarget]

end

/-! ## 5. Both stores -/

/-- Where a path leads to a text or to nothing, every run of aligned calls that the file system does
not refuse gives the same answers on a disk and in memory, those of the text itself, and leaves that
text on both. Where it leads to bytes that are no text, no mock and no test is written to it: the
write fails with the path of the target, and the disk and the preferences stay as they are. -/
theorem stores_agree (s : Desk) (path : Path) :
    (∀ (mem : Memory) (content : Option Text) (calls : List FileCall),
      s.disk.HoldsText path content → mem.files.get? path = content →
      FileCall.AllAligned content calls → FileCall.Granted (s.fileCalls path calls).1 →
      (s.fileCalls path calls).1 = (mem.fileCalls path calls).1 ∧
      (mem.fileCalls path calls).1 = (FileCall.callAll FileCall.onText content calls).1 ∧
      (s.fileCalls path calls).2.disk.HoldsText path
        (FileCall.callAll FileCall.onText content calls).2 ∧
      (mem.fileCalls path calls).2.files.get? path =
        (FileCall.callAll FileCall.onText content calls).2) ∧
    ∀ bytes, s.disk.read path = .ok bytes → Utf8.decode? bytes = none →
      (∀ header headerText anchor,
        (s.run (writeMock header headerText anchor path)).1 =
          .error (.undecodableTarget path.display) ∧
        (s.run (writeMock header headerText anchor path)).2.disk = s.disk ∧
        (s.run (writeMock header headerText anchor path)).2.preferences = s.preferences) ∧
      ∀ source sourceText anchor chosen out, source.hasEnding sourceEnding = true →
        chooseDir source (s.preferences.get? source) chosen = .ok out →
        testFileIn out.dir source = path →
        (s.run (writeTest source sourceText anchor chosen)).1 =
          .error (.undecodableTarget path.display) ∧
        (s.run (writeTest source sourceText anchor chosen)).2.disk = s.disk ∧
        (s.run (writeTest source sourceText anchor chosen)).2.preferences = s.preferences := by
  refine ⟨fun mem content calls hdisk hmemory haligned hgranted => ?_, fun bytes hread hbytes => ⟨?_, ?_⟩⟩
  · obtain ⟨hanswers, hanswers', hlast⟩ := Agree.callAll ⟨hdisk, hmemory⟩ haligned hgranted
    exact ⟨hanswers.trans hanswers'.symm, hanswers', hlast.disk, hlast.memory⟩
  · intro header headerText anchor
    rw [Desk.run_writeMock_of_undecodable hread hbytes]
    exact ⟨rfl, rfl, rfl⟩
  · rintro source sourceText anchor chosen out hkind hdir rfl
    rw [Desk.run_writeTest_of_undecodable hkind hdir hread hbytes]
    exact ⟨rfl, rfl, rfl⟩

/-- A file in a directory that is missing is made, cut between characters of two and three bytes and
made longer again; and a test file with a byte that is no text is refused. -/
theorem stores_agree_widget :
    let path := Path.ofText "out/a".toList
    let calls := [.write 0 "aé€".toList, .read, .write 3 "b".toList, .read,
      .write 4 "€€".toList, .read]
    let torn : Desk := ⟨.fresh, ⟨[([Utf8.encode "WidgetTest.cpp".toList], .file [0x61, 0xC3])], []⟩⟩
    ((Desk.fresh []).fileCalls path calls).1 = (Memory.empty.fileCalls path calls).1 ∧
      ((Desk.fresh []).fileCalls path calls).1 = [.ok none, .ok (some "aé€".toList), .ok none,
        .ok (some "aéb".toList), .ok none, .ok (some "aéb€€".toList)] ∧
      (torn.run (writeTest (.ofText "Widget.cpp".toList) [] [] (some ⟨[]⟩))).1 =
        .error (.undecodableTarget "WidgetTest.cpp".toList) ∧
      (torn.run (writeTest (.ofText "Widget.cpp".toList) [] [] (some ⟨[]⟩))).2.disk = torn.disk := by
  intro path calls torn
  have haligned : FileCall.AllAligned none calls :=
    ⟨isBoundary_zero _, trivial, isBoundary_append "aé".toList "€".toList, trivial,
      isBoundary_append "aéb".toList [], trivial, trivial⟩
  have hok : ∀ answer ∈ ((Desk.fresh []).fileCalls path calls).1, answer.isOk = true := by
    decide +kernel
  have hgranted : FileCall.Granted ((Desk.fresh []).fileCalls path calls).1 := by
    rintro _ hanswer fault rfl
    cases hok _ hanswer
  obtain ⟨hsame, htext, -⟩ :=
    (stores_agree (Desk.fresh []) path).1 .empty none calls rfl rfl haligned hgranted
  obtain ⟨-, htorn⟩ :=
    (stores_agree torn (.ofText "WidgetTest.cpp".toList)).2 [0x61, 0xC3] rfl (by decide +kernel)
  obtain ⟨hanswer, hdisk, -⟩ := htorn (.ofText "Widget.cpp".toList) [] [] (some ⟨[]⟩)
    ⟨⟨[]⟩, true⟩ (by decide +kernel) rfl (by decide +kernel)
  exact ⟨hsame, hsame.trans htext, hanswer, hdisk⟩

end StubGen
