import StubGen.Preferences.Basic
import StubGen.Proofs.Disk
import StubGen.Proofs.PreferenceFormat
import StubGen.Proofs.Utf8

/-!
# Preferences in memory and on a disk

Results:

1. `InOrder.insertEntry`, `foldl_insertEntry`: entries stay in the order of their keys, and entries
   in order are read back as they are.
2. `get?_insert`, `get?_erase`: a change concerns one key only.
3. `render?_eq_none_iff`, `ofBytes_of_render?`: preferences can be saved exactly if all directories
   are valid UTF-8, and what is saved is read back exactly.
4. `save_cases`: what a save does on a disk that refuses nothing.
-/

namespace StubGen.Preferences

/-! ## 1. The order of entries -/

/-- The keys increase, so no key stands twice. -/
def InOrder (entries : List (Text × Path)) : Prop := entries.Pairwise fun e e' => e.1 < e'.1

theorem lt_of_not_lt {a b : Text} (h : ¬ a < b) (hne : a ≠ b) : b < a := by
  refine Decidable.byContradiction fun hnot => hne ?_
  exact List.le_antisymm (List.not_lt.mp hnot) (List.not_lt.mp h)

theorem mem_insertEntry {key : Text} {dir : Path} {entries : List (Text × Path)} {e : Text × Path}
    (h : e ∈ insertEntry key dir entries) : e = (key, dir) ∨ e ∈ entries := by
  induction entries with
  | nil => exact .inl (List.mem_singleton.mp h)
  | cons entry rest ih =>
    obtain ⟨k, d⟩ := entry
    rw [insertEntry] at h
    split at h
    · rcases List.mem_cons.mp h with rfl | h
      · exact .inl rfl
      · exact .inr (List.mem_cons_of_mem _ h)
    · split at h
      · exact List.mem_cons.mp h
      · rcases List.mem_cons.mp h with rfl | h
        · exact .inr List.mem_cons_self
        · exact (ih h).imp_right (List.mem_cons_of_mem _)

theorem InOrder.insertEntry {entries : List (Text × Path)} (h : InOrder entries) (key : Text)
    (dir : Path) : InOrder (insertEntry key dir entries) := by
  induction entries with
  | nil => exact List.pairwise_singleton _ _
  | cons entry rest ih =>
    obtain ⟨k, d⟩ := entry
    obtain ⟨hfirst, hrest⟩ := List.pairwise_cons.mp h
    rw [Preferences.insertEntry]
    split
    · next hkey =>
      subst hkey
      exact List.pairwise_cons.mpr ⟨hfirst, hrest⟩
    · next hkey =>
      split
      · next hlt =>
        refine List.pairwise_cons.mpr ⟨fun e he => ?_, h⟩
        rcases List.mem_cons.mp he with rfl | he
        · exact hlt
        · exact List.lt_trans hlt (hfirst e he)
      · next hnot =>
        refine List.pairwise_cons.mpr ⟨fun e he => ?_, ih hrest⟩
        rcases mem_insertEntry he with rfl | he
        · exact lt_of_not_lt hnot hkey
        · exact hfirst e he

theorem InOrder.erase {p : Preferences} (h : InOrder p.entries) (source : Path) :
    InOrder (p.erase source).entries :=
  List.Pairwise.filter _ h

/-- A key behind all others is put at the end. -/
theorem insertEntry_of_forall_lt {key : Text} {dir : Path} {entries : List (Text × Path)}
    (h : ∀ e ∈ entries, e.1 < key) : insertEntry key dir entries = entries ++ [(key, dir)] := by
  induction entries with
  | nil => rfl
  | cons entry rest ih =>
    obtain ⟨k, d⟩ := entry
    have hlt : k < key := h (k, d) List.mem_cons_self
    have hne : key ≠ k := by
      rintro rfl
      exact List.lt_irrefl _ hlt
    rw [insertEntry, if_neg hne, if_neg (List.lt_asymm hlt),
      ih fun e he => h e (List.mem_cons_of_mem _ he), List.cons_append]

/-- Entries in order are taken up as they are. -/
theorem foldl_insertEntry {known entries : List (Text × Path)} (h : InOrder (known ++ entries)) :
    entries.foldl (fun known e => insertEntry e.1 e.2 known) known = known ++ entries := by
  induction entries generalizing known with
  | nil => simp
  | cons entry rest ih =>
    have hlast : ∀ e ∈ known, e.1 < entry.1 := fun e he =>
      (List.pairwise_append.mp h).2.2 e he entry List.mem_cons_self
    rw [List.foldl_cons, insertEntry_of_forall_lt hlast, ih]
    · simp
    · simpa using h

theorem inOrder_foldl {known : List (Text × Path)} (h : InOrder known)
    (texts : List (Text × Text)) :
    InOrder (texts.foldl (fun known e => insertEntry e.1 (Path.ofText e.2) known) known) := by
  induction texts generalizing known with
  | nil => exact h
  | cons text rest ih => exact ih (h.insertEntry text.1 (Path.ofText text.2))

/-! ## 2. Keys -/

theorem lookup_insertEntry (entries : List (Text × Path)) (key k : Text) (dir : Path) :
    (insertEntry key dir entries).lookup k = if k == key then some dir else entries.lookup k := by
  induction entries with
  | nil => rw [insertEntry, lookup_cons_ite]
  | cons entry rest ih =>
    obtain ⟨k', d⟩ := entry
    rw [insertEntry]
    split
    · next hkey =>
      subst hkey
      rw [lookup_cons_ite, lookup_cons_ite]
      split <;> rfl
    · next hkey =>
      split
      · rw [lookup_cons_ite]
      · rw [lookup_cons_ite, lookup_cons_ite, ih]
        by_cases hk : k = k'
        · subst hk
          simp [Ne.symm hkey]
        · simp [hk]

theorem get?_insert (p : Preferences) (source dir : Path) (key : Text) :
    (p.insert source dir).entries.lookup key =
      if key == keyOf source then some dir else p.entries.lookup key :=
  lookup_insertEntry p.entries (keyOf source) key dir

theorem get?_erase (p : Preferences) (source : Path) (key : Text) :
    (p.erase source).entries.lookup key =
      if key == keyOf source then none else p.entries.lookup key :=
  lookup_filter_bne p.entries (keyOf source) key

/-- Without an entry for a source there is nothing to erase. -/
theorem erase_of_get?_eq_none {p : Preferences} {source : Path} (h : p.get? source = none) :
    p.erase source = p := by
  have hkeep : p.entries.filter (·.1 != keyOf source) = p.entries := by
    rw [List.filter_eq_self]
    intro e he
    have hne := List.lookup_eq_none_iff.mp h e he
    rw [bne_comm]
    exact hne
  rw [erase, hkeep]

/-! ## 3. Saved text -/

theorem mapM_renderable?_eq_none_iff (entries : List (Text × Path)) :
    entries.mapM renderable? = none ↔ ∃ e ∈ entries, Utf8.decode? e.2.bytes = none := by
  induction entries with
  | nil => simp
  | cons entry rest ih =>
    simp only [List.mapM_cons, List.mem_cons, exists_eq_or_imp, ← ih]
    cases hdecode : Utf8.decode? entry.2.bytes with
    | none => simp [renderable?, hdecode]
    | some t =>
      cases rest.mapM renderable? with
      | none => simp [renderable?, hdecode]
      | some texts => simp [renderable?, hdecode]

theorem eq_map_of_mapM_renderable? {entries : List (Text × Path)} {texts : List (Text × Text)}
    (h : entries.mapM renderable? = some texts) :
    entries = texts.map fun e => (e.1, Path.ofText e.2) := by
  induction entries generalizing texts with
  | nil =>
    cases h
    rfl
  | cons entry rest ih =>
    obtain ⟨key, dir⟩ := entry
    simp only [List.mapM_cons, Option.bind_eq_bind, Option.bind_eq_some_iff] at h
    obtain ⟨text, htext, others, hothers, heq⟩ := h
    cases heq
    obtain ⟨t, ht, rfl⟩ := Option.map_eq_some_iff.mp htext
    have hbytes : dir = Path.ofText t := by
      rw [Path.ofText, ← Utf8.decode?_eq_some_iff.mp ht]
    rw [List.map_cons, ← ih hothers, ← hbytes]

theorem render?_eq_none_iff {p : Preferences} :
    p.render? = none ↔ ∃ e ∈ p.entries, Utf8.decode? e.2.bytes = none := by
  rw [render?, Option.map_eq_none_iff, mapM_renderable?_eq_none_iff]

/-- What is saved is read back exactly. -/
theorem ofBytes_of_render? {p : Preferences} {t : Text} (horder : InOrder p.entries)
    (h : p.render? = some t) : ofBytes p.path (Utf8.encode t) = .ok p := by
  obtain ⟨texts, htexts, rfl⟩ := Option.map_eq_some_iff.mp h
  have hentries := eq_map_of_mapM_renderable? htexts
  have hfold : texts.foldl (fun known e => insertEntry e.1 (Path.ofText e.2) known) [] = p.entries := by
    have hsorted : p.entries.foldl (fun known e => insertEntry e.1 e.2 known) [] = p.entries :=
      foldl_insertEntry horder
    rw [hentries, List.foldl_map, ← hentries] at hsorted
    exact hsorted
  have hread : ofText? p.path (Format.render texts) = some p := by
    rw [ofText?, Format.read?_render, Option.map_some, hfold]
  rw [ofBytes, Utf8.decode?_eq_some_iff.mpr rfl]
  simp only [hread]

theorem ofBytes_eq_ok {path : Path} {bytes : Bytes} {p : Preferences}
    (h : ofBytes path bytes = .ok p) : p.path = path ∧ InOrder p.entries := by
  unfold ofBytes at h
  split at h
  · cases h
  · split at h
    · next loaded hloaded =>
      cases h
      obtain ⟨texts, -, rfl⟩ := Option.map_eq_some_iff.mp hloaded
      exact ⟨rfl, inOrder_foldl List.Pairwise.nil texts⟩
    · cases h

/-! ## 4. Loading and saving -/

/-- The preferences that a path leads to on a disk. -/
def loaded (d : Disk) (path : Path) : Except Error Preferences :=
  match d.read path with
  | .ok bytes => ofBytes path bytes
  | .error .noSuchEntry => .ok ⟨path, []⟩
  | .error fault => .error (.io fault)

theorem runOn_load (d : Disk) (path : Path) : runOn d (load path) = (loaded d path, d) := by
  have hread : runOn d (ExceptT.lift (FileSystem.read (m := StateM Disk) path).run :
      ExceptT Error (StateM Disk) (Except Fault Bytes)) = (.ok (d.read path), d) := rfl
  rw [load, runOn_bind, hread, loaded]
  cases d.read path with
  | ok bytes => rfl
  | error fault => cases fault <;> rfl

theorem loaded_eq_ok {d : Disk} {path : Path} {p : Preferences} (h : loaded d path = .ok p) :
    p.path = path ∧ InOrder p.entries := by
  unfold loaded at h
  split at h
  · exact ofBytes_eq_ok h
  · cases h
    exact ⟨rfl, List.Pairwise.nil⟩
  · cases h

/-- Makes the directory of a file. -/
def makeParent (d : Disk) (path : Path) : Except Fault Unit × Disk :=
  match path.parent? with
  | some dir => runOn d (FileSystem.makeDirs dir)
  | none => (.ok (), d)

theorem makeParent_extends (d : Disk) (path : Path) : d.Extends (makeParent d path).2 := by
  unfold makeParent
  split
  · exact Disk.runOn_makeDirsFrom_extends d _
  · exact .refl d

theorem makeParent_again {d made d' : Disk} {path : Path} (h : makeParent d path = (.ok (), made))
    (hcovers : made.Covers d') : makeParent d' path = (.ok (), d') := by
  unfold makeParent at h ⊢
  split at h
  · next dir hdir => exact Disk.runOn_makeDirs_again h hcovers
  · rfl

/-- The message of preferences that cannot be saved. -/
def unsavable : Text := "path contains invalid UTF-8 characters".toList

/-- What is refused by the file system is an error of the program. -/
def asError {α : Type} (outcome : Except Fault α × Disk) : Except Error α × Disk :=
  (outcome.1.mapError Error.io, outcome.2)

theorem runOn_adapt {α : Type} (d : Disk) (program : ExceptT Fault (StateM Disk) α) :
    runOn d (program.adapt Error.io) = asError (runOn d program) := rfl

theorem runOn_overwrite (d : Disk) (path : Path) (offset : Nat) (bytes : Bytes) :
    runOn d (FileSystem.overwrite path offset bytes) = d.overwrite path offset bytes := rfl

theorem runOn_save (d : Disk) (p : Preferences) :
    runOn d p.save = match makeParent d p.path with
      | (.error fault, made) => (.error (.io fault), made)
      | (.ok _, made) =>
        match p.render? with
        | none => (.error (.preferences p.path.display unsavable), made)
        | some t => asError (made.overwrite p.path 0 (Utf8.encode t)) := by
  have hwrite : ∀ made : Disk, runOn made (match p.render? with
      | none => throw (.preferences p.path.display unsavable)
      | some t => (FileSystem.overwrite p.path 0 (Utf8.encode t)).adapt Error.io) =
      match p.render? with
      | none => (.error (.preferences p.path.display unsavable), made)
      | some t => asError (made.overwrite p.path 0 (Utf8.encode t)) := by
    intro made
    cases p.render? with
    | none => rfl
    | some t => simp only [runOn_adapt, runOn_overwrite]
  unfold save makeParent
  cases p.path.parent? with
  | none => exact hwrite d
  | some dir =>
    simp only [runOn_bind, runOn_adapt]
    rcases runOn d (FileSystem.makeDirs dir) with ⟨fault | answer, made⟩
    · rfl
    · exact hwrite made

/-- A save that no file system refuses makes the directory of its file, and then writes the file
unless a directory cannot be saved. -/
theorem save_cases {d : Disk} {p : Preferences}
    (hio : ∀ fault, (runOn d p.save).1 ≠ .error (.io fault)) :
    ∃ made, makeParent d p.path = (.ok (), made) ∧
      ((p.render? = none ∧
        runOn d p.save = (.error (.preferences p.path.display unsavable), made)) ∨
      ∃ t written, p.render? = some t ∧
        made.overwrite p.path 0 (Utf8.encode t) = (.ok (), written) ∧
        runOn d p.save = (.ok (), written)) := by
  rw [runOn_save] at hio ⊢
  rcases hmake : makeParent d p.path with ⟨fault | answer, made⟩
  · rw [hmake] at hio
    exact absurd rfl (hio fault)
  · rw [hmake] at hio
    refine ⟨made, rfl, ?_⟩
    cases hrender : p.render? with
    | none => exact .inl ⟨rfl, rfl⟩
    | some t =>
      rw [hrender] at hio
      simp only at hio ⊢
      rcases hwrite : made.overwrite p.path 0 (Utf8.encode t) with ⟨fault | answer, written⟩
      · rw [hwrite] at hio
        exact absurd rfl (hio fault)
      · exact .inr ⟨t, written, rfl, hwrite, rfl⟩

end StubGen.Preferences
