import StubGen.Disk
import StubGen.Proofs.Basic

/-!
# Looking up, making and overwriting on a disk

Results:

1. `walk_cons_eq_ok_iff`, `walk_append_eq_ok_iff`: one segment of a lookup, and stretches of them.
2. `Covers.walk`, `Extends.read`: what was found is found on a disk that has more entries.
3. `locate_of_slot`: an entry that was made where a path says is found under that path.
4. `runOn_makeDirsFrom_extends`, `runOn_makeDirs_again`: making directories only adds to a disk, and
   adds nothing the second time.
5. `read_overwrite_of_read`: a file that was overwritten from an offset on holds what it held in front
   of it and then the bytes; `read_overwrite`: from its start on, just the bytes.
-/

namespace StubGen

namespace Disk

open StubGen.Path

/-! ## 1. Lookup -/

variable {d d' : Disk} {loc q : Location} {p : Path}

theorem checkDir_eq_ok_iff {answer : Unit} :
    d.checkDir loc = .ok answer ↔ d.node? loc = some .dir := by
  unfold checkDir
  cases d.node? loc with
  | none => simp
  | some node => cases node <;> simp

theorem child_eq_ok_iff {name : Bytes} {node : Option Node} :
    d.child loc name = .ok node ↔
      name.length ≤ maxNameLength ∧ d.node? (loc ++ [name]) = node := by
  unfold child
  split
  · next h =>
    simp
    omega
  · next h =>
    simp
    omega

/-- Where a segment leads from a directory. -/
inductive Enters (d : Disk) (loc : Location) (segment : Bytes) : Location → Prop where
  | stay (hfiller : isFiller segment = true) : Enters d loc segment loc
  | up (hup : segment = [dot, dot]) : Enters d loc segment loc.dropLast
  | down {node : Node} (hplain : isFiller segment = false) (hdown : segment ≠ [dot, dot])
      (hshort : segment.length ≤ maxNameLength) (hnode : d.node? (loc ++ [segment]) = some node) :
    Enters d loc segment (loc ++ [segment])

theorem walk_cons_eq_ok_iff {segment : Bytes} {rest : List Bytes} :
    d.walk loc (segment :: rest) = .ok q ↔
      d.node? loc = some .dir ∧ ∃ next, d.Enters loc segment next ∧ d.walk next rest = .ok q := by
  constructor
  · intro h
    cases hdir : d.checkDir loc with
    | error fault =>
      simp only [walk, hdir, bind, Except.bind] at h
      cases h
    | ok answer =>
      refine ⟨checkDir_eq_ok_iff.mp hdir, ?_⟩
      simp only [walk, hdir, bind, Except.bind] at h
      split at h
      · next hfiller => exact ⟨loc, .stay hfiller, h⟩
      · next hplain =>
        split at h
        · next hup => exact ⟨loc.dropLast, .up (eq_of_beq hup), h⟩
        · next hdown =>
          cases hchild : d.child loc segment with
          | error fault =>
            rw [hchild] at h
            cases h
          | ok node =>
            rw [hchild] at h
            obtain ⟨hshort, hnode⟩ := child_eq_ok_iff.mp hchild
            cases node with
            | none => cases h
            | some node =>
              exact ⟨loc ++ [segment], .down (by simpa using hplain) (by simpa using hdown) hshort hnode,
                h⟩
  · rintro ⟨hdir, next, hnext, hrest⟩
    have hok : d.checkDir loc = .ok () := checkDir_eq_ok_iff.mpr hdir
    simp only [walk, hok, bind, Except.bind]
    cases hnext with
    | stay hfiller => rw [if_pos hfiller, hrest]
    | up hup =>
      subst hup
      rw [if_neg (by decide), if_pos (by simp), hrest]
    | down hplain hdown hshort hnode =>
      rw [if_neg (by simp [hplain]), if_neg (by simpa using hdown),
        child_eq_ok_iff.mpr ⟨hshort, hnode⟩]
      exact hrest

theorem walk_append_eq_ok_iff {before after : List Bytes} :
    d.walk loc (before ++ after) = .ok q ↔
      ∃ middle, d.walk loc before = .ok middle ∧ d.walk middle after = .ok q := by
  induction before generalizing loc with
  | nil => simp [walk]
  | cons segment before ih =>
    simp only [List.cons_append, walk_cons_eq_ok_iff, ih]
    constructor
    · rintro ⟨hdir, next, hnext, middle, hbefore, hafter⟩
      exact ⟨middle, ⟨hdir, next, hnext, hbefore⟩, hafter⟩
    · rintro ⟨middle, ⟨hdir, next, hnext, hbefore⟩, hafter⟩
      exact ⟨hdir, next, hnext, middle, hbefore, hafter⟩

/-- Fillers stay in their directory. -/
theorem walk_fillers {segments : List Bytes} (hfillers : ∀ s ∈ segments, isFiller s = true)
    (hdir : segments ≠ [] → d.node? loc = some .dir) : d.walk loc segments = .ok loc := by
  induction segments with
  | nil => rfl
  | cons segment rest ih =>
    refine walk_cons_eq_ok_iff.mpr ⟨hdir (by simp), loc, .stay (hfillers _ List.mem_cons_self), ?_⟩
    exact ih (fun s hs => hfillers s (List.mem_cons_of_mem segment hs)) fun _ => hdir (by simp)

theorem locate_eq_ok_iff :
    d.locate p = .ok loc ↔ checkPath p = .ok () ∧ d.walk (d.start p) p.segments = .ok loc := by
  unfold locate
  cases checkPath p with
  | error fault => simp [bind, Except.bind]
  | ok answer => simp [bind, Except.bind]

theorem isDir_eq_true_iff :
    d.isDir p = true ↔ ∃ loc, d.locate p = .ok loc ∧ d.node? loc = some .dir := by
  unfold isDir
  cases d.locate p with
  | error fault => simp
  | ok loc => simp

theorem read_eq_ok_iff {bytes : Bytes} :
    d.read p = .ok bytes ↔ ∃ loc, d.locate p = .ok loc ∧ d.node? loc = some (.file bytes) := by
  unfold read
  cases d.locate p with
  | error fault => simp [bind, Except.bind]
  | ok loc =>
    simp only [bind, Except.bind, Except.ok.injEq, exists_eq_left']
    cases d.node? loc with
    | none => simp
    | some node => cases node <;> simp

/-! ## 2. More entries -/

/-- Every directory of `d` is one of `d'`, and everything else of `d` is also there. -/
structure Covers (d d' : Disk) : Prop where
  workingDir : d'.workingDir = d.workingDir
  dir : ∀ {loc}, d.node? loc = some .dir → d'.node? loc = some .dir
  entry : ∀ {loc node}, d.node? loc = some node → ∃ node', d'.node? loc = some node'

/-- Every entry of `d` is one of `d'`. -/
structure Extends (d d' : Disk) : Prop where
  workingDir : d'.workingDir = d.workingDir
  entry : ∀ {loc node}, d.node? loc = some node → d'.node? loc = some node

theorem Extends.refl (d : Disk) : Extends d d := ⟨rfl, fun h => h⟩

theorem Extends.trans {d'' : Disk} (h : Extends d d') (h' : Extends d' d'') : Extends d d'' :=
  ⟨h'.workingDir.trans h.workingDir, fun hentry => h'.entry (h.entry hentry)⟩

theorem Extends.covers (h : Extends d d') : Covers d d' :=
  ⟨h.workingDir, fun hdir => h.entry hdir, fun hentry => ⟨_, h.entry hentry⟩⟩

theorem Covers.walk (h : Covers d d') {segments : List Bytes} (hwalk : d.walk loc segments = .ok q) :
    d'.walk loc segments = .ok q := by
  induction segments generalizing loc with
  | nil => exact hwalk
  | cons segment rest ih =>
    obtain ⟨hdir, next, hnext, hrest⟩ := walk_cons_eq_ok_iff.mp hwalk
    refine walk_cons_eq_ok_iff.mpr ⟨h.dir hdir, next, ?_, ih hrest⟩
    cases hnext with
    | stay hfiller => exact .stay hfiller
    | up hup => exact .up hup
    | down hplain hdown hshort hnode =>
      obtain ⟨node', hnode'⟩ := h.entry hnode
      exact .down hplain hdown hshort hnode'

theorem Covers.start_eq (h : Covers d d') (p : Path) : d'.start p = d.start p := by
  rw [start, start, h.workingDir]

theorem Covers.locate (h : Covers d d') (hlocate : d.locate p = .ok loc) :
    d'.locate p = .ok loc := by
  obtain ⟨hpath, hwalk⟩ := locate_eq_ok_iff.mp hlocate
  exact locate_eq_ok_iff.mpr ⟨hpath, by rw [h.start_eq]; exact h.walk hwalk⟩

theorem Covers.isDir (h : Covers d d') (hdir : d.isDir p = true) : d'.isDir p = true := by
  obtain ⟨loc, hlocate, hnode⟩ := isDir_eq_true_iff.mp hdir
  exact isDir_eq_true_iff.mpr ⟨loc, h.locate hlocate, h.dir hnode⟩

theorem Extends.read (h : Extends d d') {bytes : Bytes} (hread : d.read p = .ok bytes) :
    d'.read p = .ok bytes := by
  obtain ⟨loc, hlocate, hnode⟩ := read_eq_ok_iff.mp hread
  exact read_eq_ok_iff.mpr ⟨loc, h.covers.locate hlocate, h.entry hnode⟩

theorem node?_put (d : Disk) (hloc : loc ≠ []) (node : Node) (q : Location) :
    (d.put loc node).node? q = if q = loc then some node else d.node? q := by
  cases q with
  | nil => rw [if_neg (Ne.symm hloc)]; rfl
  | cons first rest =>
    simp only [node?, put, List.isEmpty_cons, Bool.false_eq_true, if_false, List.lookup_cons,
      lookup_filter_bne]
    by_cases hq : first :: rest = loc
    · subst hq
      simp
    · have hbeq : (first :: rest == loc) = false := beq_eq_false_iff_ne.mpr hq
      simp only [hbeq, Bool.false_eq_true, if_false, hq]

theorem extends_put (hloc : loc ≠ []) (hnew : d.node? loc = none) (node : Node) :
    Extends d (d.put loc node) := by
  refine ⟨rfl, fun {q node'} hentry => ?_⟩
  rw [node?_put d hloc, if_neg]
  · exact hentry
  · rintro rfl
    rw [hnew] at hentry
    cases hentry

theorem covers_put (hloc : loc ≠ []) (hfile : d.node? loc ≠ some .dir) (node : Node) :
    Covers d (d.put loc node) := by
  refine ⟨rfl, fun {q} hdir => ?_, fun {q node'} hentry => ?_⟩
  · rw [node?_put d hloc, if_neg]
    · exact hdir
    · rintro rfl
      exact hfile hdir
  · rw [node?_put d hloc]
    split
    · exact ⟨node, rfl⟩
    · exact ⟨node', hentry⟩

/-! ## 3. Making entries -/

/-- The name that a path gives to a new entry. -/
def newName? (p : Path) : Option Bytes :=
  (namedSegments p).getLast?.filter fun name => !(name == [dot] || name == [dot, dot])

theorem slot_eq (d : Disk) (p : Path) :
    d.slot p = (do
      checkPath p
      let dir ← d.walk (d.start p) (namedSegments p).dropLast
      d.checkDir dir
      .ok ⟨dir, newName? p⟩) := by
  unfold Disk.slot newName?
  congr
  funext _
  congr
  funext dir
  congr
  funext _
  cases (namedSegments p).getLast? with
  | none => rfl
  | some name =>
    rw [Option.filter_some]
    cases hdots : name == [dot] || name == [dot, dot] with
    | true => simp [hdots]
    | false => simp [hdots]

theorem slot_eq_ok_iff {slot : Slot} :
    d.slot p = .ok slot ↔ checkPath p = .ok () ∧
      d.walk (d.start p) (namedSegments p).dropLast = .ok slot.dir ∧
      d.node? slot.dir = some .dir ∧ slot.name? = newName? p := by
  obtain ⟨dir, name⟩ := slot
  simp only [slot_eq, bind_eq_ok_iff, checkDir_eq_ok_iff, exists_const]
  constructor
  · rintro ⟨_, hpath, found, hwalk, hdir, hslot⟩
    cases hslot
    exact ⟨hpath, hwalk, hdir, rfl⟩
  · rintro ⟨hpath, hwalk, hdir, hname⟩
    exact ⟨(), hpath, dir, hwalk, hdir, by rw [show name = newName? p from hname]⟩

/-- The name of a new entry is the last segment that counts. -/
theorem newName?_eq_some {name : Bytes} (h : newName? p = some name) :
    namedSegments p = (namedSegments p).dropLast ++ [name] ∧ isFiller name = false ∧
      name ≠ [dot, dot] := by
  rw [newName?, Option.filter_eq_some_iff] at h
  obtain ⟨hlast, hdots⟩ := h
  have hsome : name ≠ [] := by
    rintro rfl
    exact absurd (getLast?_rdropWhile hlast) (by decide)
  simp only [Bool.not_eq_true', Bool.or_eq_false_iff, beq_eq_false_iff_ne] at hdots
  refine ⟨?_, ?_, hdots.2⟩
  · obtain ⟨init, hinit⟩ := List.getLast?_eq_some_iff.mp hlast
    rw [hinit, List.dropLast_concat]
  · simp [isFiller, hsome, hdots.1]

theorem segments_eq (p : Path) :
    p.segments = namedSegments p ++ p.segments.rtakeWhile (·.isEmpty) :=
  List.rdropWhile_append_rtakeWhile.symm

theorem isFiller_of_mem_rtakeWhile {segments : List Bytes} {segment : Bytes}
    (h : segment ∈ segments.rtakeWhile (·.isEmpty)) : isFiller segment = true := by
  have hempty := List.mem_rtakeWhile_imp h
  rw [List.isEmpty_iff] at hempty
  rw [hempty]
  rfl

/-- What was made at a slot is found under its path, unless the path asks for a directory and it is
none. -/
theorem locate_of_slot {dir : Location} {name : Bytes} {node : Node} (hcovers : Covers d d')
    (hslot : d.slot p = .ok ⟨dir, some name⟩) (hshort : name.length ≤ maxNameLength)
    (hnode : d'.node? (dir ++ [name]) = some node)
    (hend : p.segments.rtakeWhile (·.isEmpty) ≠ [] → node = .dir) :
    d'.locate p = .ok (dir ++ [name]) := by
  obtain ⟨hpath, hwalk, hdir, hname⟩ := slot_eq_ok_iff.mp hslot
  obtain ⟨hsegments, hplain, hdown⟩ := newName?_eq_some hname.symm
  refine locate_eq_ok_iff.mpr ⟨hpath, ?_⟩
  rw [hcovers.start_eq, segments_eq, hsegments]
  refine walk_append_eq_ok_iff.mpr ⟨dir ++ [name], walk_append_eq_ok_iff.mpr
    ⟨dir, hcovers.walk hwalk, ?_⟩, ?_⟩
  · exact walk_cons_eq_ok_iff.mpr ⟨hcovers.dir hdir, _, .down hplain hdown hshort hnode, rfl⟩
  · refine walk_fillers (fun s hs => isFiller_of_mem_rtakeWhile hs) fun hne => ?_
    rw [hnode, hend hne]

theorem makeDir_eq_ok_iff :
    d.makeDir p = .ok d' ↔ ∃ dir name, d.slot p = .ok ⟨dir, some name⟩ ∧
      name.length ≤ maxNameLength ∧ d.node? (dir ++ [name]) = none ∧
      d' = d.put (dir ++ [name]) .dir := by
  unfold makeDir
  rw [bind_eq_ok_iff]
  constructor
  · rintro ⟨⟨dir, name?⟩, hslot, h⟩
    cases name? with
    | none => cases h
    | some name =>
      obtain ⟨node, hchild, h⟩ := bind_eq_ok_iff.mp h
      obtain ⟨hshort, hnode⟩ := child_eq_ok_iff.mp hchild
      cases node with
      | some node => cases h
      | none =>
        cases h
        exact ⟨dir, name, hslot, hshort, hnode, rfl⟩
  · rintro ⟨dir, name, hslot, hshort, hnode, rfl⟩
    exact ⟨_, hslot, bind_eq_ok_iff.mpr ⟨none, child_eq_ok_iff.mpr ⟨hshort, hnode⟩, rfl⟩⟩

theorem concat_ne_nil (dir : Location) (name : Bytes) : dir ++ [name] ≠ [] := by simp

theorem extends_of_makeDir (h : d.makeDir p = .ok d') : Extends d d' := by
  obtain ⟨dir, name, -, -, hnew, rfl⟩ := makeDir_eq_ok_iff.mp h
  exact extends_put (concat_ne_nil dir name) hnew .dir

theorem isDir_of_makeDir (h : d.makeDir p = .ok d') : d'.isDir p = true := by
  have hextends := extends_of_makeDir h
  obtain ⟨dir, name, hslot, hshort, -, rfl⟩ := makeDir_eq_ok_iff.mp h
  have hnode : (d.put (dir ++ [name]) .dir).node? (dir ++ [name]) = some .dir := by
    rw [node?_put d (concat_ne_nil dir name), if_pos rfl]
  exact isDir_eq_true_iff.mpr
    ⟨_, locate_of_slot hextends.covers hslot hshort hnode fun _ => rfl, hnode⟩

/-- A path that is found has a slot, and what it names there exists. -/
theorem slot_of_locate (h : d.locate p = .ok loc) :
    ∃ dir, d.slot p = .ok ⟨dir, newName? p⟩ ∧ ∀ name, newName? p = some name →
      name.length ≤ maxNameLength ∧ ∃ node, d.node? (dir ++ [name]) = some node := by
  obtain ⟨hpath, hwalk⟩ := locate_eq_ok_iff.mp h
  rw [segments_eq] at hwalk
  obtain ⟨named, hnamed, -⟩ := walk_append_eq_ok_iff.mp hwalk
  rcases List.eq_nil_or_concat (namedSegments p) with hnil | ⟨init, last, hconcat⟩
  · -- Only fillers: the path is the directory in which the lookup starts.
    have hsome : p.segments.rtakeWhile (·.isEmpty) ≠ [] := by
      intro hrun
      have hsegments := segments_eq p
      rw [hnil, hrun] at hsegments
      exact List.splitOn_ne_nil slash p.bytes hsegments
    obtain ⟨first, rest, hrun⟩ := List.exists_cons_of_ne_nil hsome
    rw [hnil, hrun, List.nil_append] at hwalk
    obtain ⟨hdir, -⟩ := walk_cons_eq_ok_iff.mp hwalk
    have hname : newName? p = none := by
      rw [newName?, hnil]
      rfl
    refine ⟨d.start p, slot_eq_ok_iff.mpr ⟨hpath, ?_, hdir, rfl⟩, ?_⟩
    · rw [hnil]
      rfl
    · rw [hname]
      rintro name ⟨⟩
  · rw [List.concat_eq_append] at hconcat
    rw [hconcat] at hnamed
    obtain ⟨dir, hinit, hlast⟩ := walk_append_eq_ok_iff.mp hnamed
    obtain ⟨hdir, next, hnext, -⟩ := walk_cons_eq_ok_iff.mp hlast
    refine ⟨dir, slot_eq_ok_iff.mpr ⟨hpath, ?_, hdir, rfl⟩, fun name hname => ?_⟩
    · rw [hconcat, List.dropLast_concat]
      exact hinit
    · obtain ⟨hsegments, hplain, hdown⟩ := newName?_eq_some hname
      rw [hconcat, List.dropLast_concat] at hsegments
      obtain rfl : last = name := by simpa using hsegments
      cases hnext with
      | stay hfiller =>
        rw [hplain] at hfiller
        cases hfiller
      | up hup => exact absurd hup hdown
      | down _ _ hshort hnode => exact ⟨hshort, _, hnode⟩

/-- What is there is not made again. -/
theorem makeDir_of_isDir (h : d.isDir p = true) : d.makeDir p = .error .alreadyExists := by
  obtain ⟨loc, hlocate, -⟩ := isDir_eq_true_iff.mp h
  obtain ⟨dir, hslot, hexists⟩ := slot_of_locate hlocate
  rw [makeDir, hslot]
  cases hname : newName? p with
  | none => rfl
  | some name =>
    obtain ⟨hshort, node, hnode⟩ := hexists name hname
    have hchild := child_eq_ok_iff.mpr ⟨hshort, hnode⟩
    simp only [bind, Except.bind, hchild]

/-! ## 4. Making directories -/

/-- Making a directory, with the refusal as an answer. -/
theorem runOn_tryMakeDir (d : Disk) (p : Path) :
    runOn d (ExceptT.lift (FileSystem.makeDir (m := StateM Disk) p).run :
      ExceptT Fault (StateM Disk) (Except Fault Unit)) =
      match d.makeDir p with
      | .ok new => (.ok (.ok ()), new)
      | .error fault => (.ok (.error fault), d) := by
  show (Except.ok (match d.makeDir p with
    | .ok new => (Except.ok (), new)
    | .error fault => (.error fault, d)).1, (match d.makeDir p with
    | .ok new => (Except.ok (), new)
    | .error fault => (.error fault, d)).2) = _
  cases d.makeDir p with
  | error fault => rfl
  | ok new => rfl

theorem runOn_isDir (d : Disk) (p : Path) :
    runOn d (ExceptT.lift (FileSystem.isDir p) : ExceptT Fault (StateM Disk) Bool) =
      (.ok (d.isDir p), d) := rfl

/-- The answer where a directory could not be made: that is no matter if there is one. -/
def answerRefused (d : Disk) (p : Path) (fault : Fault) : Except Fault Unit :=
  if d.isDir p then .ok () else .error fault

theorem runOn_refused (d : Disk) (p : Path) (fault : Fault) :
    runOn d (do if ← ExceptT.lift (FileSystem.isDir p) then return else throw fault) =
      (d.answerRefused p fault, d) := by
  rw [runOn_bind, runOn_isDir, answerRefused]
  cases d.isDir p with
  | true => rfl
  | false => rfl

theorem runOn_ensureDir (d : Disk) (p : Path) :
    runOn d (FileSystem.ensureDir p) =
      match d.makeDir p with
      | .ok new => (.ok (), new)
      | .error fault => (d.answerRefused p fault, d) := by
  rw [FileSystem.ensureDir, runOn_bind, runOn_tryMakeDir]
  cases d.makeDir p with
  | ok new => rfl
  | error fault => exact runOn_refused d p fault

theorem runOn_makeDirsFrom_cons (d : Disk) (p : Path) (above : List Path) :
    runOn d (FileSystem.makeDirsFrom (p :: above)) =
      if p.bytes.isEmpty then (.ok (), d)
      else match d.makeDir p with
        | .ok new => (.ok (), new)
        | .error .noSuchEntry =>
          match runOn d (FileSystem.makeDirsFrom above) with
          | (.ok _, new) => runOn new (FileSystem.ensureDir p)
          | (.error fault, new) => (.error fault, new)
        | .error fault => (d.answerRefused p fault, d) := by
  rw [FileSystem.makeDirsFrom]
  cases p.bytes.isEmpty with
  | true => rfl
  | false =>
    rw [if_neg Bool.false_ne_true, if_neg Bool.false_ne_true, runOn_bind, runOn_tryMakeDir]
    cases d.makeDir p with
    | ok new => rfl
    | error fault =>
      cases fault with
      | noSuchEntry =>
        simp only [runOn_bind]
        rcases runOn d (FileSystem.makeDirsFrom above) with ⟨fault | answer, new⟩
        · rfl
        · rfl
      | _ => exact runOn_refused d p _

theorem ensureDir_extends (d : Disk) (p : Path) :
    Extends d (runOn d (FileSystem.ensureDir p)).2 := by
  rw [runOn_ensureDir]
  cases hmake : d.makeDir p with
  | ok new => exact extends_of_makeDir hmake
  | error fault => exact .refl d

/-- Making directories only adds to a disk. -/
theorem runOn_makeDirsFrom_extends (d : Disk) (paths : List Path) :
    Extends d (runOn d (FileSystem.makeDirsFrom paths)).2 := by
  induction paths generalizing d with
  | nil => exact .refl d
  | cons p above ih =>
    rw [runOn_makeDirsFrom_cons]
    split
    · exact .refl d
    · split
      · next new hmake => exact extends_of_makeDir hmake
      · split
        · next new habove =>
          have hnew := ih d
          rw [habove] at hnew
          exact hnew.trans (ensureDir_extends new p)
        · next fault new habove =>
          have hnew := ih d
          rw [habove] at hnew
          exact hnew
      · exact .refl d

theorem isDir_of_answerRefused {fault : Fault} (h : d.answerRefused p fault = .ok ()) :
    d.isDir p = true := by
  unfold answerRefused at h
  split at h
  · assumption
  · cases h

theorem isDir_of_ensureDir (h : runOn d (FileSystem.ensureDir p) = (.ok (), d')) :
    d'.isDir p = true := by
  rw [runOn_ensureDir] at h
  split at h
  · next new hmake =>
    cases h
    exact isDir_of_makeDir hmake
  · next fault hmake =>
    obtain ⟨hanswer, rfl⟩ := Prod.mk.inj h
    exact isDir_of_answerRefused hanswer

/-- A directory that was made is there. -/
theorem isDir_of_makeDirsFrom {above : List Path} (hsome : p.bytes.isEmpty = false)
    (h : runOn d (FileSystem.makeDirsFrom (p :: above)) = (.ok (), d')) : d'.isDir p = true := by
  rw [runOn_makeDirsFrom_cons, if_neg (by simp [hsome])] at h
  split at h
  · next new hmake =>
    cases h
    exact isDir_of_makeDir hmake
  · split at h
    · exact isDir_of_ensureDir h
    · cases h
  · obtain ⟨hanswer, rfl⟩ := Prod.mk.inj h
    exact isDir_of_answerRefused hanswer

/-- Directories that are there are left as they are. -/
theorem runOn_makeDirsFrom_of_isDir {above : List Path} (h : d.isDir p = true) :
    runOn d (FileSystem.makeDirsFrom (p :: above)) = (.ok (), d) := by
  simp only [runOn_makeDirsFrom_cons, makeDir_of_isDir h, answerRefused, if_pos h]
  split <;> rfl

/-- Making a directory with those above it is of no effect the second time, also when files were
written in between. -/
theorem runOn_makeDirs_again (h : runOn d (FileSystem.makeDirs p) = (.ok (), d')) {d'' : Disk}
    (hcovers : Covers d' d'') : runOn d'' (FileSystem.makeDirs p) = (.ok (), d'') := by
  obtain ⟨above, habove⟩ : ∃ above, p.ancestors = p :: above := ⟨_, rfl⟩
  rw [FileSystem.makeDirs, habove] at h ⊢
  cases hsome : p.bytes.isEmpty with
  | true => rw [runOn_makeDirsFrom_cons, if_pos hsome]
  | false => exact runOn_makeDirsFrom_of_isDir (hcovers.isDir (isDir_of_makeDirsFrom hsome h))

/-! ## 5. Overwriting -/

/-- A path without a slash at its end has no empty segment there. -/
theorem rtakeWhile_segments (hsome : p.bytes ≠ [])
    (h : (p.bytes.getLast? == some slash) = false) : p.segments.rtakeWhile (·.isEmpty) = [] := by
  have hlast : p.bytes.getLast? = some (p.bytes.getLast hsome) := List.getLast?_eq_some_getLast hsome
  rw [hlast] at h
  obtain ⟨front, back, hbytes, hfront, hback, hplain⟩ :=
    exists_append_of_getLast? (p := (· == slash)) hlast (by simpa using h)
  have hpiece : p.segments.getLast? = some back := by
    rw [segments, hbytes]
    exact getLast?_splitOnP_append hfront hplain
  refine List.rtakeWhile_eq_nil_iff.mpr fun hne => ?_
  rw [List.getLast?_eq_some_getLast hne, Option.some.injEq] at hpiece
  simpa [hpiece] using hback

theorem bytes_ne_nil_of_checkPath (h : checkPath p = .ok ()) : p.bytes ≠ [] := by
  intro hnil
  simp [checkPath, hnil] at h

/-- A file is written where its path says: over the file that is there, or as a new one. -/
theorem writable_eq_ok {current : Bytes} (h : d.writable p = .ok (loc, current)) :
    ∃ dir name, d.slot p = .ok ⟨dir, some name⟩ ∧ (p.bytes.getLast? == some slash) = false ∧
      name.length ≤ maxNameLength ∧ loc = dir ++ [name] ∧
      (d.node? loc = some (.file current) ∨ d.node? loc = none ∧ current = []) := by
  obtain ⟨⟨dir, name?⟩, hslot, h⟩ := bind_eq_ok_iff.mp h
  cases name? with
  | none => cases h
  | some name =>
    cases hslash : p.bytes.getLast? == some slash with
    | true =>
      rw [hslash] at h
      cases h
    | false =>
      rw [hslash] at h
      obtain ⟨node, hchild, h⟩ := bind_eq_ok_iff.mp h
      obtain ⟨hshort, hnode⟩ := child_eq_ok_iff.mp hchild
      refine ⟨dir, name, hslot, rfl, hshort, ?_⟩
      cases node with
      | none =>
        cases h
        exact ⟨rfl, .inr ⟨hnode, rfl⟩⟩
      | some node =>
        cases node with
        | dir => cases h
        | file contents =>
          cases h
          exact ⟨rfl, .inl hnode⟩

/-- A file that is to be written is found under its path once it is there. -/
theorem locate_of_writable {current contents : Bytes} (h : d.writable p = .ok (loc, current))
    (hcovers : Covers d d') (hnode : d'.node? loc = some (.file contents)) :
    d'.locate p = .ok loc := by
  obtain ⟨dir, name, hslot, hslash, hshort, rfl, -⟩ := writable_eq_ok h
  obtain ⟨hpath, -⟩ := slot_eq_ok_iff.mp hslot
  have hrun := rtakeWhile_segments (bytes_ne_nil_of_checkPath hpath) hslash
  exact locate_of_slot hcovers hslot hshort hnode fun hne => absurd hrun hne

/-- What is overwritten is what can be read. -/
theorem eq_of_writable_of_read {current contents : Bytes} (h : d.writable p = .ok (loc, current))
    (hread : d.read p = .ok contents) : current = contents := by
  obtain ⟨found, hfound, hnode⟩ := read_eq_ok_iff.mp hread
  obtain ⟨dir, name, hslot, -, -, rfl, hfile | ⟨hmissing, -⟩⟩ := writable_eq_ok h
  · have hlocate := locate_of_writable h (Extends.refl d).covers hfile
    rw [hfound] at hlocate
    cases hlocate
    rw [hfile] at hnode
    cases hnode
    rfl
  · -- A path that is found names an entry that exists.
    obtain ⟨dir', hslot', hexists⟩ := slot_of_locate hfound
    rw [hslot, Except.ok.injEq, Slot.mk.injEq] at hslot'
    obtain ⟨rfl, hname⟩ := hslot'
    obtain ⟨-, node, hnode'⟩ := hexists name hname.symm
    rw [hmissing] at hnode'
    cases hnode'

/-- Whatever the bytes cover, all that is left from the offset on are the bytes. -/
theorem overwritten_eq (current : Bytes) (offset : Nat) (bytes : Bytes) :
    overwritten current offset bytes =
      current.take offset ++ List.replicate (offset - current.length) 0 ++ bytes := by
  unfold overwritten resized overlaid
  cases bytes with
  | nil => simp
  | cons b bytes =>
    rw [List.isEmpty_cons, if_neg Bool.false_ne_true]
    have hlength : (current.take offset ++ List.replicate (offset - current.length) (0 : UInt8) ++
        b :: bytes).length = offset + (b :: bytes).length := by
      simp only [List.length_append, List.length_take, List.length_replicate]
      omega
    have hnone : offset + (b :: bytes).length - ((current.take offset ++
        List.replicate (offset - current.length) 0 ++ b :: bytes) ++
          current.drop (offset + (b :: bytes).length)).length = 0 := by
      rw [List.length_append, hlength]
      omega
    rw [hnone, List.replicate_zero, List.append_nil]
    exact List.take_left' hlength

theorem overwrite_eq_ok {offset : Nat} {bytes : Bytes}
    (h : d.overwrite p offset bytes = (.ok (), d')) :
    ∃ loc current, d.writable p = .ok (loc, current) ∧
      d' = d.put loc (.file (overwritten current offset bytes)) := by
  unfold overwrite at h
  split at h
  · cases h
  · next loc current hwritable =>
    split at h
    · cases h
    · cases h
      exact ⟨loc, current, hwritable, rfl⟩

theorem covers_put_of_writable {current : Bytes} (h : d.writable p = .ok (loc, current))
    (node : Node) : Covers d (d.put loc node) ∧ (d.put loc node).node? loc = some node := by
  obtain ⟨dir, name, -, -, -, rfl, hfile⟩ := writable_eq_ok h
  refine ⟨covers_put (concat_ne_nil dir name) ?_ node, ?_⟩
  · rcases hfile with hfile | ⟨hmissing, -⟩
    · simp [hfile]
    · simp [hmissing]
  · rw [node?_put d (concat_ne_nil dir name), if_pos rfl]

/-- A file that was overwritten can be read, with the bytes in place of what was there from the
offset on. -/
theorem exists_read_overwrite {offset : Nat} {bytes : Bytes}
    (h : d.overwrite p offset bytes = (.ok (), d')) :
    ∃ loc current, d.writable p = .ok (loc, current) ∧
      d'.read p = .ok (overwritten current offset bytes) := by
  obtain ⟨loc, current, hwritable, rfl⟩ := overwrite_eq_ok h
  obtain ⟨hcovers, hnode⟩ := covers_put_of_writable hwritable (.file (overwritten current offset bytes))
  exact ⟨loc, current, hwritable,
    read_eq_ok_iff.mpr ⟨loc, locate_of_writable hwritable hcovers hnode, hnode⟩⟩

/-- A file that was overwritten from its start on holds what was written. -/
theorem read_overwrite {bytes : Bytes} (h : d.overwrite p 0 bytes = (.ok (), d')) :
    d'.read p = .ok bytes := by
  obtain ⟨loc, current, -, hread⟩ := exists_read_overwrite h
  rw [overwritten_eq, List.take_zero, Nat.zero_sub, List.replicate_zero, List.append_nil,
    List.nil_append] at hread
  exact hread

/-- A file that could be read keeps what it held in front of the offset. -/
theorem read_overwrite_of_read {contents bytes : Bytes} {offset : Nat}
    (hread : d.read p = .ok contents) (h : d.overwrite p offset bytes = (.ok (), d')) :
    d'.read p = .ok (overwritten contents offset bytes) := by
  obtain ⟨loc, current, hwritable, hnew⟩ := exists_read_overwrite h
  rwa [eq_of_writable_of_read hwritable hread] at hnew

end Disk

end StubGen
