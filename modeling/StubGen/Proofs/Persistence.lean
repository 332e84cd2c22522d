import StubGen.Proofs.Preferences
import StubGen.Workbench

/-!
# Preferences over a session

Preferences are opened once and then changed. Every change that alters them is saved at once, and a
save fails while a directory is stored that is not valid UTF-8. The preferences in memory and those
on the disk then differ until that directory is replaced or cleared.

Results:

1. `change_eq`, `change_cases`: what one change does to the preferences and to the disk;
   `change_eq_preferences_iff`: when it fails.
2. `lookup_afterAll`: the preferences reflect every change, also those that could not be saved.
3. `Keeps.change`, `Keeps.afterAll`: what the disk holds between changes.
4. `preferences_persist`: reopening gives the preferences as they were last saved;
   `reopened_uncovered`: why it need not give them as they were opened if nothing was saved.
-/

namespace StubGen

/-- A workbench on a disk. -/
structure Desk where
  bench : Workbench
  disk : Disk

/-- A change of the preferences. -/
inductive Change where
  | set (source dir : Path)
  | clear (source : Path)
  deriving DecidableEq

namespace Change

/-- The change as a program, which says whether there was something to save. -/
def program : Change → ExceptT Error (OnDisk (StateM Disk)) Bool
  | set source dir => do
    OutputDirs.set source dir
    return true
  | clear source => Workbench.clearOutputDir source

/-- The change has to be saved: a directory is always stored anew, and a source without one is not
cleared. -/
def isSaved : Change → Preferences → Bool
  | set _ _, _ => true
  | clear source, p => (p.get? source).isSome

/-- The preferences after the change. -/
def apply : Change → Preferences → Preferences
  | set source dir, p => p.insert source dir
  | clear source, p => p.erase source

/-- The key whose directory is changed. -/
def key : Change → Text
  | set source _ => Preferences.keyOf source
  | clear source => Preferences.keyOf source

/-- The directory of that key after the change. -/
def dir? : Change → Option Path
  | set _ dir => some dir
  | clear _ => none

theorem path_apply (c : Change) (p : Preferences) : (c.apply p).path = p.path := by
  cases c with
  | set source dir => rfl
  | clear source => rfl

end Change

namespace Desk

open Preferences

/-- What a program answers on a desk, and the desk that it leaves. -/
def run {α : Type} (s : Desk) (program : ExceptT Error (OnDisk (StateM Disk)) α) :
    Except Error α × Desk :=
  let outcome := StateT.run (StateT.run (ExceptT.run program) s.bench) s.disk
  (outcome.1.1, ⟨outcome.1.2, outcome.2⟩)

def preferences (s : Desk) : Preferences := s.bench.preferences

def change (s : Desk) (c : Change) : Except Error Bool × Desk := s.run c.program

/-! ## 1. One change -/

section

variable {α β : Type} (s : Desk)

theorem run_bind (x : ExceptT Error (OnDisk (StateM Disk)) α)
    (f : α → ExceptT Error (OnDisk (StateM Disk)) β) :
    s.run (x >>= f) = match s.run x with
      | (.ok a, after) => after.run (f a)
      | (.error e, after) => (.error e, after) := by
  show s.run (ExceptT.bind x f) = _
  simp only [run, ExceptT.run, ExceptT.bind, ExceptT.mk, StateT.run_bind]
  rcases StateT.run (StateT.run x s.bench) s.disk with ⟨⟨e | a, bench⟩, disk⟩
  · rfl
  · rfl

theorem run_modifyBench (f : Workbench → Workbench) :
    s.run (modifyThe Workbench f) = (.ok (), { s with bench := f s.bench }) := rfl

theorem run_onDisk (computation : ExceptT Error (StateM Disk) α) :
    s.run (Workbench.onDisk computation) =
      ((runOn s.disk computation).1, { s with disk := (runOn s.disk computation).2 }) := rfl

/-- The desk with other preferences, which are saved. -/
def saving (p : Preferences) : Except Error Bool × Desk :=
  ((runOn s.disk p.save).1.map fun _ => true,
    ⟨{ s.bench with preferences := p }, (runOn s.disk p.save).2⟩)

theorem change_set (source dir : Path) :
    s.change (.set source dir) = s.saving (s.preferences.insert source dir) := by
  have hset : s.run (OutputDirs.set source dir) =
      ((runOn s.disk (s.preferences.insert source dir).save).1,
        ⟨{ s.bench with preferences := s.preferences.insert source dir },
          (runOn s.disk (s.preferences.insert source dir).save).2⟩) := rfl
  rw [change, Change.program, run_bind, hset, saving]
  rcases runOn s.disk (s.preferences.insert source dir).save with ⟨e | answer, disk⟩
  · rfl
  · rfl

theorem change_clear (source : Path) :
    s.change (.clear source) =
      if (s.preferences.get? source).isSome then s.saving (s.preferences.erase source)
      else (.ok false, s) := by
  have hclear : s.change (.clear source) =
      s.run (if (s.preferences.get? source).isSome then do
          modifyThe Workbench fun w => { w with preferences := s.preferences.erase source }
          Workbench.onDisk (s.preferences.erase source).save
          return true
        else return false) := rfl
  rw [hclear]
  split
  · rw [run_bind, run_modifyBench]
    simp only [run_bind, run_onDisk, saving]
    rcases runOn s.disk (s.preferences.erase source).save with ⟨e | answer, disk⟩
    · rfl
    · rfl
  · rfl

/-- A change that has to be saved leads to new preferences and an attempt to save them; any other
leaves everything as it is. -/
theorem change_eq (c : Change) :
    s.change c = if c.isSaved s.preferences then s.saving (c.apply s.preferences)
      else (.ok false, s) := by
  cases c with
  | set source dir => exact change_set s source dir
  | clear source => exact change_clear s source

theorem preferences_change (c : Change) :
    (s.change c).2.preferences = c.apply s.preferences := by
  rw [change_eq]
  cases hsaved : c.isSaved s.preferences with
  | true => rfl
  | false =>
    cases c with
    | set source dir => cases hsaved
    | clear source =>
      have hnone : s.preferences.get? source = none :=
        Option.isNone_iff_eq_none.mp (Option.isSome_eq_false_iff.mp hsaved)
      exact (Preferences.erase_of_get?_eq_none hnone).symm

end

/-- The file system refused something. -/
def refused : Except Error Bool → Bool
  | .error (.io _) => true
  | _ => false

/-- What a change can do if the file system refuses nothing: there is nothing to save, or a
directory cannot be saved, or the file is written. -/
theorem change_cases {s : Desk} {c : Change} (h : refused (s.change c).1 = false) :
    (c.isSaved s.preferences = false ∧ s.change c = (.ok false, s)) ∨
    c.isSaved s.preferences = true ∧ ∃ made,
      makeParent s.disk s.preferences.path = (.ok (), made) ∧
      (((c.apply s.preferences).render? = none ∧
        s.change c = (.error (.preferences s.preferences.path.display unsavable),
          ⟨{ s.bench with preferences := c.apply s.preferences }, made⟩)) ∨
      ∃ t written, (c.apply s.preferences).render? = some t ∧
        made.overwrite s.preferences.path 0 (Utf8.encode t) = (.ok (), written) ∧
        s.change c = (.ok true,
          ⟨{ s.bench with preferences := c.apply s.preferences }, written⟩)) := by
  rw [change_eq] at h ⊢
  cases hsaved : c.isSaved s.preferences with
  | false => exact .inl ⟨rfl, rfl⟩
  | true =>
    rw [hsaved, if_pos rfl] at h
    have hio : ∀ fault, (runOn s.disk (c.apply s.preferences).save).1 ≠ .error (.io fault) := by
      intro fault hfault
      rw [saving, hfault] at h
      cases h
    obtain ⟨made, hmake, hcase⟩ := save_cases hio
    rw [Change.path_apply] at hmake hcase
    refine .inr ⟨rfl, made, hmake, ?_⟩
    rcases hcase with ⟨hrender, hsave⟩ | ⟨t, written, hrender, hwrite, hsave⟩
    · exact .inl ⟨hrender, by rw [if_pos rfl, saving, hsave]; rfl⟩
    · exact .inr ⟨t, written, hrender, hwrite, by rw [if_pos rfl, saving, hsave]; rfl⟩

/-- A change fails exactly if it has to be saved and leads to a directory that cannot be. -/
theorem change_eq_preferences_iff {s : Desk} {c : Change} (h : refused (s.change c).1 = false) :
    (∃ shown reason, (s.change c).1 = .error (.preferences shown reason)) ↔
      c.isSaved s.preferences = true ∧
        ∃ e ∈ (s.change c).2.preferences.entries, Utf8.decode? e.2.bytes = none := by
  rw [preferences_change, ← render?_eq_none_iff]
  rcases change_cases h with ⟨hsaved, hchange⟩ | ⟨hsaved, made, -, hcase⟩
  · simp [hsaved, hchange]
  · rcases hcase with ⟨hrender, hchange⟩ | ⟨t, written, hrender, -, hchange⟩
    · simp [hsaved, hrender, hchange]
    · simp [hrender, hchange]

/-! ## 2. Many changes -/

/-- The desk after changes made one after another. -/
def afterAll (s : Desk) (changes : List Change) : Desk :=
  changes.foldl (fun s c => (s.change c).2) s

/-- The answers to changes made one after another. -/
def answers (s : Desk) : List Change → List (Except Error Bool)
  | [] => []
  | c :: rest => (s.change c).1 :: (s.change c).2.answers rest

/-- The answers to those changes that had to be saved. -/
def saveAnswers (s : Desk) : List Change → List (Except Error Bool)
  | [] => []
  | c :: rest =>
    if c.isSaved s.preferences then (s.change c).1 :: (s.change c).2.saveAnswers rest
    else (s.change c).2.saveAnswers rest

/-- The preferences that a change has saved. -/
def savedBy (s : Desk) (c : Change) : Option Preferences :=
  if c.isSaved s.preferences && (s.change c).1.isOk then some (s.change c).2.preferences else none

/-- The preferences as they were when they were last saved. -/
def lastSaved (s : Desk) : List Change → Option Preferences
  | [] => none
  | c :: rest => ((s.change c).2.lastSaved rest).or (s.savedBy c)

/-- The file system refuses nothing in the course of the changes. -/
def Granted (s : Desk) (changes : List Change) : Prop :=
  ∀ answer ∈ s.answers changes, refused answer = false

instance (s : Desk) (changes : List Change) : Decidable (s.Granted changes) :=
  inferInstanceAs (Decidable (∀ answer ∈ s.answers changes, refused answer = false))

theorem afterAll_cons (s : Desk) (c : Change) (rest : List Change) :
    s.afterAll (c :: rest) = (s.change c).2.afterAll rest := rfl

theorem granted_cons_iff {s : Desk} {c : Change} {rest : List Change} :
    s.Granted (c :: rest) ↔ refused (s.change c).1 = false ∧ (s.change c).2.Granted rest :=
  List.forall_mem_cons

theorem granted_append_iff {s : Desk} {before later : List Change} :
    s.Granted (before ++ later) ↔ s.Granted before ∧ (s.afterAll before).Granted later := by
  induction before generalizing s with
  | nil => exact ⟨fun h => ⟨List.forall_mem_nil _, h⟩, fun h => h.2⟩
  | cons c rest ih =>
    rw [List.cons_append, granted_cons_iff, granted_cons_iff, ih, afterAll_cons, and_assoc]

/-- The directory of a key after a change. -/
theorem lookup_change (s : Desk) (c : Change) (key : Text) :
    (s.change c).2.preferences.entries.lookup key =
      if key == c.key then c.dir? else s.preferences.entries.lookup key := by
  rw [preferences_change]
  cases c with
  | set source dir => exact get?_insert s.preferences source dir key
  | clear source => exact get?_erase s.preferences source key

/-- The preferences reflect every change, whatever was answered. -/
theorem lookup_afterAll (s : Desk) (changes : List Change) (key : Text) :
    (s.afterAll changes).preferences.entries.lookup key =
      changes.foldl (fun dir? c => if key == c.key then c.dir? else dir?)
        (s.preferences.entries.lookup key) := by
  induction changes generalizing s with
  | nil => rfl
  | cons c rest ih => rw [afterAll_cons, ih, lookup_change, List.foldl_cons]

theorem change_of_not_isSaved {s : Desk} {c : Change} (h : ¬ c.isSaved s.preferences = true) :
    s.change c = (.ok false, s) := by
  rw [change_eq, if_neg h]

/-- Without an attempt to save nothing has happened. -/
theorem of_saveAnswers_eq_nil {s : Desk} {changes : List Change} (h : s.saveAnswers changes = []) :
    s.afterAll changes = s ∧ s.lastSaved changes = none := by
  induction changes generalizing s with
  | nil => exact ⟨rfl, rfl⟩
  | cons c rest ih =>
    rw [saveAnswers] at h
    split at h
    · cases h
    · next hsaved =>
      rw [change_of_not_isSaved hsaved] at h
      rw [afterAll_cons, lastSaved, savedBy, change_of_not_isSaved hsaved]
      simpa [hsaved] using ih h

/-- If the last attempt to save succeeded, the preferences are as they were saved. -/
theorem lastSaved_of_getLast? {s : Desk} {changes : List Change} {answer : Bool}
    (h : (s.saveAnswers changes).getLast? = some (.ok answer)) :
    s.lastSaved changes = some (s.afterAll changes).preferences := by
  induction changes generalizing s with
  | nil => cases h
  | cons c rest ih =>
    rw [saveAnswers] at h
    rw [afterAll_cons, lastSaved]
    split at h
    · next hsaved =>
      -- This change is the last to be saved exactly if none of the rest is.
      cases hrest : (s.change c).2.saveAnswers rest with
      | nil =>
        rw [hrest, List.getLast?_singleton, Option.some.injEq] at h
        obtain ⟨hafter, hlast⟩ := of_saveAnswers_eq_nil hrest
        rw [hlast, hafter, savedBy, hsaved, h]
        rfl
      | cons first others =>
        rw [hrest, List.getLast?_cons_cons, ← hrest] at h
        rw [ih h, Option.some_or]
    · rw [ih h, Option.some_or]

/-- While a directory is stored that cannot be saved, no attempt to save succeeds. -/
theorem saveAnswers_of_undecodable {s : Desk} {changes : List Change} {key : Text} {dir : Path}
    (hgranted : s.Granted changes) (hstored : s.preferences.entries.lookup key = some dir)
    (hdir : Utf8.decode? dir.bytes = none) (hother : ∀ c ∈ changes, c.key ≠ key) :
    ∀ answer ∈ s.saveAnswers changes,
      ∃ shown reason, answer = .error (.preferences shown reason) := by
  induction changes generalizing s with
  | nil => exact List.forall_mem_nil _
  | cons c rest ih =>
    obtain ⟨hfirst, hrest⟩ := granted_cons_iff.mp hgranted
    have hstored' : (s.change c).2.preferences.entries.lookup key = some dir := by
      rw [lookup_change, if_neg (by simpa using Ne.symm (hother c List.mem_cons_self)), hstored]
    have hothers := ih hrest hstored' fun c' hc' => hother c' (List.mem_cons_of_mem _ hc')
    rw [saveAnswers]
    split
    · next hsaved =>
      refine List.forall_mem_cons.mpr ⟨?_, hothers⟩
      obtain ⟨before, after, hentries, -⟩ := List.lookup_eq_some_iff.mp hstored'
      refine (change_eq_preferences_iff hfirst).mpr ⟨hsaved, (key, dir), ?_, hdir⟩
      rw [hentries]
      simp
    · exact hothers

/-! ## 3. What the disk holds -/

/-- What a path leads to, given what was last saved there: exactly that, or without any save the
disk as it was, but for the directory of the file. -/
def Holds (start : Disk) (path : Path) (d : Disk) : Option Preferences → Prop
  | some saved => ∃ bytes, d.read path = .ok bytes ∧ ofBytes path bytes = .ok saved
  | none => d = start ∨ makeParent start path = (.ok (), d)

/-- What holds between changes. -/
structure Keeps (start : Disk) (path : Path) (saved : Option Preferences) (s : Desk) : Prop where
  path_eq : s.preferences.path = path
  inOrder : InOrder s.preferences.entries
  holds : Holds start path s.disk saved

/-- Making the directory of the file keeps what the path leads to. -/
theorem Holds.makeParent {start d made : Disk} {path : Path} {saved : Option Preferences}
    (h : Holds start path d saved) (hmake : makeParent d path = (.ok (), made)) :
    Holds start path made saved := by
  cases saved with
  | some p =>
    obtain ⟨bytes, hread, hbytes⟩ := h
    have hextends := makeParent_extends d path
    rw [hmake] at hextends
    exact ⟨bytes, hextends.read hread, hbytes⟩
  | none =>
    -- The first attempt to save makes the directory; any later one finds it made.
    rcases h with rfl | hmade
    · exact .inr hmake
    · have hagain := makeParent_again hmade (Disk.Extends.refl d).covers
      rw [hagain] at hmake
      cases hmake
      exact .inr hmade

/-- One change keeps what the disk holds: a save that fails leaves the file as it is, and one that
succeeds replaces it. -/
theorem Keeps.change {start : Disk} {path : Path} {saved : Option Preferences} {s : Desk}
    {c : Change} (h : Keeps start path saved s) (hgranted : refused (s.change c).1 = false) :
    Keeps start path ((s.savedBy c).or saved) (s.change c).2 := by
  have hpath : (s.change c).2.preferences.path = path := by
    rw [preferences_change, Change.path_apply, h.path_eq]
  have horder : InOrder (c.apply s.preferences).entries := by
    cases c with
    | set source dir => exact h.inOrder.insertEntry (keyOf source) dir
    | clear source => exact h.inOrder.erase source
  refine ⟨hpath, by rw [preferences_change]; exact horder, ?_⟩
  rcases change_cases hgranted with ⟨hsaved, hchange⟩ | ⟨hsaved, made, hmake, hcase⟩
  · simp only [savedBy, hsaved, hchange, Bool.false_and, Bool.false_eq_true, if_false, Option.none_or]
    exact h.holds
  · rw [h.path_eq] at hmake hcase
    rcases hcase with ⟨hrender, hchange⟩ | ⟨t, written, hrender, hwrite, hchange⟩
    · have hnone : s.savedBy c = none := by
        rw [savedBy, hsaved, hchange]
        rfl
      rw [hnone, hchange, Option.none_or]
      exact h.holds.makeParent hmake
    · have hsome : s.savedBy c = some (c.apply s.preferences) := by
        rw [savedBy, preferences_change, hsaved, hchange]
        rfl
      have hbytes := ofBytes_of_render? horder hrender
      rw [Change.path_apply, h.path_eq] at hbytes
      rw [hsome, hchange, Option.some_or]
      exact ⟨_, Disk.read_overwrite hwrite, hbytes⟩

theorem Keeps.afterAll {start : Disk} {path : Path} {saved : Option Preferences} {s : Desk}
    {changes : List Change} (h : Keeps start path saved s) (hgranted : s.Granted changes) :
    Keeps start path ((s.lastSaved changes).or saved) (s.afterAll changes) := by
  induction changes generalizing s saved with
  | nil => exact h
  | cons c rest ih =>
    obtain ⟨hfirst, hrest⟩ := granted_cons_iff.mp hgranted
    rw [afterAll_cons, lastSaved, Option.or_assoc]
    exact ih (h.change hfirst) hrest

/-! ## 4. Opening again -/

theorem run_openPreferences (s : Desk) (path : Path) :
    s.run (Workbench.openPreferences path) = match loaded s.disk path with
      | .ok p =>
        (.ok (), ⟨⟨p, s.bench.log ++ [.loadedPreferences path p.entries.length]⟩, s.disk⟩)
      | .error e => (.error e, s) := by
  rw [Workbench.openPreferences, run_bind, run_onDisk, runOn_load]
  cases loaded s.disk path with
  | error e => rfl
  | ok p => rfl

/-- The preferences that opening a path gives. -/
def reopened (s : Desk) (path : Path) : Except Error Preferences :=
  match s.run (Workbench.openPreferences path) with
  | (.ok _, opened) => .ok opened.preferences
  | (.error e, _) => .error e

theorem reopened_eq (s : Desk) (path : Path) : s.reopened path = loaded s.disk path := by
  rw [reopened, run_openPreferences]
  cases loaded s.disk path with
  | error e => rfl
  | ok p => rfl

/-- The path leads to nothing, and no longer does so once the directory of its file is made: it goes
up again from a directory that was missing, say. A save makes the directory of its file first, also
if it then fails. -/
def Uncovers (d : Disk) (path : Path) : Prop :=
  d.read path = .error .noSuchEntry ∧ (makeParent d path).2.read path ≠ .error .noSuchEntry

theorem loaded_makeParent {d made : Disk} {path : Path} {p : Preferences}
    (h : loaded d path = .ok p) (hmake : makeParent d path = (.ok (), made))
    (hcovered : ¬ Uncovers d path) : loaded made path = .ok p := by
  cases hread : d.read path with
  | ok bytes =>
    have hextends := makeParent_extends d path
    rw [hmake] at hextends
    rw [loaded, hread] at h
    rw [loaded, hextends.read hread]
    exact h
  | error fault =>
    cases fault with
    | noSuchEntry =>
      have hmissing : made.read path = .error .noSuchEntry := by
        refine Classical.byContradiction fun hfound => hcovered ⟨hread, ?_⟩
        rw [hmake]
        exact hfound
      rw [loaded, hread] at h
      rw [loaded, hmissing]
      exact h
    | _ =>
      rw [loaded, hread] at h
      cases h

theorem Holds.loaded {start d : Disk} {path : Path} {p : Preferences} {saved : Option Preferences}
    (h : Holds start path d saved) (hstart : loaded start path = .ok p)
    (hcovered : saved = none → d = start ∨ ¬ Uncovers start path) :
    loaded d path = .ok (saved.getD p) := by
  cases saved with
  | some saved =>
    obtain ⟨bytes, hread, hbytes⟩ := h
    rw [Preferences.loaded, hread]
    exact hbytes
  | none =>
    rcases h with rfl | hmade
    · exact hstart
    · rcases hcovered rfl with rfl | hcovered
      · exact hstart
      · exact loaded_makeParent hstart hmade hcovered

theorem keeps_of_open {s opened : Desk} {path : Path}
    (h : s.run (Workbench.openPreferences path) = (.ok (), opened)) :
    loaded s.disk path = .ok opened.preferences ∧ opened.disk = s.disk ∧
      Keeps s.disk path none opened := by
  rw [run_openPreferences] at h
  split at h
  · next p hloaded =>
    cases h
    obtain ⟨hpath, horder⟩ := loaded_eq_ok hloaded
    exact ⟨hloaded, rfl, hpath, horder, .inl rfl⟩
  · cases h

/-- Preferences that were opened reflect every change, fail to be saved exactly while a directory is
stored that is not valid UTF-8, and when reopened are as they were last saved. -/
theorem preferences_persist {s opened : Desk} {path : Path} {changes : List Change}
    (hopen : s.run (Workbench.openPreferences path) = (.ok (), opened))
    (hgranted : opened.Granted changes) :
    (∀ source, (opened.afterAll changes).preferences.get? source =
      changes.foldl (fun dir? c => if keyOf source == c.key then c.dir? else dir?)
        (opened.preferences.get? source)) ∧
    (∀ c, opened.Granted (changes ++ [c]) →
      ((∃ shown reason,
          ((opened.afterAll changes).change c).1 = .error (.preferences shown reason)) ↔
        c.isSaved (opened.afterAll changes).preferences = true ∧
          ∃ e ∈ ((opened.afterAll changes).change c).2.preferences.entries,
            Utf8.decode? e.2.bytes = none)) ∧
    (∀ saved, opened.lastSaved changes = some saved →
      (opened.afterAll changes).reopened path = .ok saved) ∧
    (opened.lastSaved changes = none → opened.saveAnswers changes = [] ∨ ¬ Uncovers s.disk path →
      (opened.afterAll changes).reopened path = .ok opened.preferences) ∧
    (∀ answer, (opened.saveAnswers changes).getLast? = some (.ok answer) →
      (opened.afterAll changes).reopened path = .ok (opened.afterAll changes).preferences) ∧
    (∀ source dir later, (opened.afterAll changes).preferences.get? source = some dir →
      Utf8.decode? dir.bytes = none → (∀ c ∈ later, c.key ≠ keyOf source) →
      opened.Granted (changes ++ later) →
      ∀ answer ∈ (opened.afterAll changes).saveAnswers later,
        ∃ shown reason, answer = .error (.preferences shown reason)) := by
  obtain ⟨hloaded, hdisk, hopened⟩ := keeps_of_open hopen
  have hkeeps := hopened.afterAll hgranted
  rw [Option.or_none] at hkeeps
  have hsame : opened.saveAnswers changes = [] → (opened.afterAll changes).disk = s.disk := by
    intro hnil
    rw [(of_saveAnswers_eq_nil hnil).1, hdisk]
  refine ⟨fun source => lookup_afterAll _ changes (keyOf source), fun c hc => ?_,
    fun saved hsaved => ?_, fun hnone hcovered => ?_, fun answer hlast => ?_,
    fun source dir later hstored hdir hother hlater => ?_⟩
  · have hnext := (granted_append_iff.mp hc).2
    exact change_eq_preferences_iff (granted_cons_iff.mp hnext).1
  · rw [hsaved] at hkeeps
    rw [reopened_eq]
    exact hkeeps.holds.loaded hloaded (by simp)
  · rw [hnone] at hkeeps
    rw [reopened_eq]
    exact hkeeps.holds.loaded hloaded fun _ => hcovered.imp_left hsame
  · rw [lastSaved_of_getLast? hlast] at hkeeps
    rw [reopened_eq]
    exact hkeeps.holds.loaded hloaded (by simp)
  · exact saveAnswers_of_undecodable (granted_append_iff.mp hlater).2 hstored hdir hother

/-- A fresh workbench on a disk with files in its working directory. -/
def fresh (files : List (String × String)) : Desk :=
  ⟨.fresh, ⟨files.map fun (name, text) =>
    ([Utf8.encode name.toList], .file (Utf8.encode text.toList)), []⟩⟩

/-- After a directory that can be saved and one that cannot, only the first is found again. -/
theorem preferences_persist_unsavable :
    let path := Path.ofText "p/q.json".toList
    let opened := ((fresh []).run (Workbench.openPreferences path)).2
    let changes := [.set (.ofText "a.cpp".toList) (.ofText "out".toList),
      .set (.ofText "b.cpp".toList) ⟨[0xFF]⟩]
    (fresh []).run (Workbench.openPreferences path) = (.ok (), opened) ∧
      opened.Granted changes ∧
      (opened.afterAll changes).reopened path =
        .ok ⟨path, [("a.cpp".toList, .ofText "out".toList)]⟩ := by
  intro path opened changes
  have hopen : (fresh []).run (Workbench.openPreferences path) = (.ok (), opened) := rfl
  have hgranted : opened.Granted changes := by decide +kernel
  have hsaved : opened.lastSaved changes =
      some ⟨path, [("a.cpp".toList, .ofText "out".toList)]⟩ := by decide +kernel
  exact ⟨hopen, hgranted, (preferences_persist hopen hgranted).2.2.1 _ hsaved⟩

/-- Nothing was saved, and yet reopening gives preferences that were not there when the path was
opened: the failed save has made `a`, and now `a/..` leads to the working directory. -/
theorem reopened_uncovered :
    let path := Path.ofText "a/../p.json".toList
    let s := fresh [("p.json", "\x7b\"k\":\"v\"\x7d")]
    let opened := (s.run (Workbench.openPreferences path)).2
    let changes := [.set (.ofText "X.cpp".toList) ⟨[0xFF]⟩]
    s.run (Workbench.openPreferences path) = (.ok (), opened) ∧
      opened.preferences = ⟨path, []⟩ ∧
      opened.Granted changes ∧ opened.lastSaved changes = none ∧
      (opened.afterAll changes).reopened path =
        .ok ⟨path, [("k".toList, .ofText "v".toList)]⟩ :=
  ⟨rfl, rfl, by decide +kernel, by decide +kernel, rfl⟩

end Desk

end StubGen
