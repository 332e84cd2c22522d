import StubGen.Proofs.Appending
import StubGen.Proofs.Utf8

/-!
# The kind of a file and the names that follow from it

The kind of a file is decided on the components of its path, where only a slash separates and dots and
empty segments do not count. The names follow from what stands behind the last slash or backslash.

Results:

1. `ofPath_eq_ofStem`: all names follow from the stem of the file name.
2. `fileName?_eq_some_iff`, `extension?_eq_some_iff`: the parts of a path that the check looks at;
   `hasEnding_ofText_iff`, `checkFileKind_append_iff`: the texts that it accepts.
3. `ofPath_of_checkFileKind`: where an accepted path ends with the ending and no backslash stands in
   front of it, all names follow from one stem; a header and a source with the same stem have the same
   names.
-/

namespace StubGen

open Text

/-! ## 1. Names from a stem -/

namespace SourceNames

/-- The names of a file with the given stem. -/
def ofStem (stem ending : Text) : SourceNames where
  fileName := stem ++ ending
  headerName := stem ++ ".h".toList
  className := stem
  suiteName := stem ++ "Test".toList
  testFileName := stem ++ "Test.cpp".toList

/-- A source gets the ending of a header, and a header keeps it. -/
theorem swapEnding_append_ending {stem ending : Text}
    (hending : ending ∈ [sourceEnding, headerEnding]) :
    swapEnding ".cpp".toList ".h".toList (stem ++ ending) = stem ++ ".h".toList := by
  simp only [List.mem_cons, List.not_mem_nil, or_false] at hending
  rcases hending with rfl | rfl
  · exact swapEnding_append stem _ _
  · rcases swapEnding_eq ".cpp".toList ".h".toList (stem ++ headerEnding) with ⟨other, heq, -⟩ | hsame
    · -- The two endings do not have the same last character.
      have hlast := congrArg List.getLast? heq
      rw [List.getLast?_append, List.getLast?_append] at hlast
      exact absurd hlast (by simp [headerEnding])
    · exact hsame

theorem ofPath_eq_ofStem {path stem ending : Text}
    (hending : ending ∈ [sourceEnding, headerEnding]) (hfile : fileNameOf path = stem ++ ending) :
    ofPath path = ofStem stem ending := by
  have htest : "Test.cpp".toList = "Test".toList ++ ".cpp".toList := by decide
  unfold ofPath ofStem
  simp only [hfile, swapEnding_append_ending hending, swapEnding_append, List.append_nil, htest,
    List.append_assoc]

end SourceNames

/-! ## 2. Accepted paths -/

/-- A character that separates the parts of a path where names are taken from it. -/
def isSeparator (c : Char) : Bool := c == '/' || c == '\\'

/-- The text is empty or ends with a separator. -/
def IsDirectory (dir : Text) : Prop := dir.getLast?.all isSeparator = true

instance (dir : Text) : Decidable (IsDirectory dir) :=
  inferInstanceAs (Decidable (dir.getLast?.all isSeparator = true))

theorem fileNameOf_append {dir name : Text} (hdir : IsDirectory dir)
    (hname : ∀ c ∈ name, isSeparator c = false) : fileNameOf (dir ++ name) = name := by
  have hlast : ((dir ++ name).splitOnP isSeparator).getLast? = some name :=
    getLast?_splitOnP_append ((Option.all_eq_true _ _).mp hdir) hname
  exact congrArg (·.getD (dir ++ name)) hlast

/-- What the check and the names rely on in an ending. -/
structure IsEnding (ending : Text) : Prop where
  plain : ending.any isSeparator = false
  /-- There is one dot, in front. -/
  bytes : ∃ extension, Utf8.encode ending = Path.dot :: extension ∧ extension ≠ [] ∧
    Path.dot ∉ extension
  last : ∃ c, ending.getLast? = some c ∧ c ≠ '/' ∧ c ≠ '.'

theorem IsEnding.isSeparator_eq_false {ending : Text} (h : IsEnding ending) {c : Char}
    (hc : c ∈ ending) : isSeparator c = false :=
  Bool.eq_false_iff.mpr (List.any_eq_false.mp h.plain c hc)

theorem isEnding_of_mem {ending : Text} (h : ending ∈ [sourceEnding, headerEnding]) :
    IsEnding ending := by
  simp only [List.mem_cons, List.not_mem_nil, or_false] at h
  rcases h with rfl | rfl
  · exact ⟨by decide, ⟨[0x63, 0x70, 0x70], by decide⟩, 'p', by decide⟩
  · exact ⟨by decide, ⟨[0x68], by decide⟩, 'h', by decide⟩

namespace Path

section

variable {p : Path} {segment name : Bytes}

theorem component?_eq_none_iff : component? segment = none ↔ isFiller segment = true := by
  unfold component?
  split
  · next hfiller => simp [hfiller]
  · next hplain => split <;> simp [hplain]

theorem component?_eq_name_iff :
    component? segment = some (.name name) ↔
      segment = name ∧ isFiller name = false ∧ name ≠ [dot, dot] := by
  unfold component?
  split
  · next hfiller =>
    constructor
    · nofun
    · rintro ⟨rfl, hplain, -⟩
      rw [hplain] at hfiller
      cases hfiller
  · next hplain =>
    split
    · next hup =>
      constructor
      · nofun
      · rintro ⟨rfl, -, hname⟩
        exact absurd (eq_of_beq hup) hname
    · next hname =>
      constructor
      · intro h
        cases h
        exact ⟨rfl, Bool.not_eq_true _ ▸ hplain, fun heq => hname (beq_iff_eq.mpr heq)⟩
      · rintro ⟨rfl, -, -⟩
        rfl

/-- A name is read the same as the first segment. -/
theorem firstComponent?_eq_name_iff {absolute : Bool} :
    firstComponent? absolute segment = some (.name name) ↔
      component? segment = some (.name name) := by
  unfold firstComponent?
  split
  · next hnil =>
    have hfiller : component? segment = none :=
      component?_eq_none_iff.mpr (by rw [isFiller, hnil, Bool.true_or])
    rw [hfiller]
    split <;> simp
  · split
    · next hdot =>
      have hfiller : component? segment = none :=
        component?_eq_none_iff.mpr (by rw [isFiller, hdot, Bool.or_true])
      rw [hfiller]
      simp
    · rfl

/-- Only a segment that is no name can be read in another way in front. -/
theorem getLast?_components_eq_name_iff :
    p.components.getLast? = some (.name name) ↔
      (p.segments.filterMap component?).getLast? = some (.name name) := by
  unfold components
  cases hsegments : p.segments with
  | nil => exact absurd hsegments (List.splitOn_ne_nil slash p.bytes)
  | cons first rest =>
    have hlast : ∀ found : Option Component, found.toList.getLast? = found := by
      intro found
      cases found <;> rfl
    have hcons : (first :: rest).filterMap component? =
        (component? first).toList ++ rest.filterMap component? := by
      rw [List.filterMap_cons]
      cases component? first <;> rfl
    simp only [hcons, List.getLast?_append, Option.or_eq_some_iff, hlast,
      firstComponent?_eq_name_iff]

/-- The file name is the last segment that counts, if that is a name. -/
theorem fileName?_eq_some_iff :
    p.fileName? = some name ↔ isFiller name = false ∧ name ≠ [dot, dot] ∧
      ∃ init fillers, p.segments = init ++ name :: fillers ∧ ∀ f ∈ fillers, isFiller f = true := by
  have hname : p.fileName? = some name ↔ p.components.getLast? = some (.name name) := by
    unfold fileName?
    split
    · next bytes hlast => simp [hlast]
    · next hother => exact ⟨nofun, fun h => absurd h (hother name)⟩
  rw [hname, getLast?_components_eq_name_iff, List.getLast?_filterMap, List.findSome?_eq_some_iff]
  constructor
  · rintro ⟨fillers, segment, init, hsegments, hsegment, hfillers⟩
    obtain ⟨rfl, hcounts, hup⟩ := component?_eq_name_iff.mp hsegment
    refine ⟨hcounts, hup, init.reverse, fillers.reverse, ?_, fun f hf => ?_⟩
    · rw [← List.reverse_reverse p.segments, hsegments]
      simp
    · exact component?_eq_none_iff.mp (hfillers f (List.mem_reverse.mp hf))
  · rintro ⟨hcounts, hup, init, fillers, hsegments, hfillers⟩
    refine ⟨fillers.reverse, name, init.reverse, ?_,
      component?_eq_name_iff.mpr ⟨rfl, hcounts, hup⟩, fun f hf => ?_⟩
    · rw [hsegments]
      simp
    · exact component?_eq_none_iff.mpr (hfillers f (List.mem_reverse.mp hf))

/-- An extension follows the last dot of a file name, unless that comes first. -/
theorem extension?_eq_some_iff {extension : Bytes} :
    p.extension? = some extension ↔
      dot ∉ extension ∧ ∃ stem, stem ≠ [] ∧ p.fileName? = some (stem ++ dot :: extension) := by
  unfold extension?
  simp only [Option.bind_eq_bind, Option.bind_eq_some_iff, Option.ite_none_left_eq_some,
    Option.some.injEq, List.isEmpty_iff]
  constructor
  · rintro ⟨name, hname, hstem, rfl⟩
    rw [beforeEndRun_eq_rdropWhile] at hstem
    have hbefore : name.rdropWhile (· != dot) ≠ [] := fun hnil => hstem (by rw [hnil]; rfl)
    obtain ⟨stem, stop, hstop, heq, hsplit⟩ := exists_append_cons_rtakeWhile hbefore
    rw [heq, List.dropLast_concat] at hstem
    rw [bne_eq_false_iff_eq.mp hstop] at hsplit
    exact ⟨fun hdot => absurd (List.mem_rtakeWhile_imp hdot) (by decide), stem, hstem, hsplit ▸ hname⟩
  · rintro ⟨hdot, stem, hstem, hname⟩
    have hrun : ∀ b ∈ extension, (b != dot) = true := by
      intro b hb
      rw [bne_iff_ne]
      rintro rfl
      exact hdot hb
    obtain ⟨hend, hbefore⟩ := rtakeWhile_append_cons hrun (show (dot != dot) = false by decide) stem
    refine ⟨_, hname, ?_, hend⟩
    rwa [beforeEndRun_eq_rdropWhile, hbefore, List.dropLast_concat]

theorem hasEnding_iff {ending : Text} (hending : IsEnding ending) :
    p.hasEnding ending = true ↔
      ∃ stem, stem ≠ [] ∧ p.fileName? = some (stem ++ Utf8.encode ending) := by
  obtain ⟨extension, hbytes, -, hdot⟩ := hending.bytes
  have hextension : p.hasEnding ending = true ↔ p.extension? = some extension := by
    unfold hasEnding
    rw [hbytes]
    split
    · next found hfound => simp [hfound]
    · next hnone => simp [hnone]
  rw [hextension, extension?_eq_some_iff, and_iff_right hdot, hbytes]

end

theorem slash_not_mem_encode {t : Text} (h : '/' ∉ t) : slash ∉ Utf8.encode t := by
  intro hmem
  obtain ⟨front, back, hsplit⟩ := List.append_of_mem hmem
  obtain ⟨s, u, rfl, -, -⟩ := Utf8.exists_of_encode_eq_append_cons (by decide) hsplit
  exact h (List.mem_append_right s List.mem_cons_self)

/-- The segments of a path are those of its text. -/
theorem segments_ofText (t : Text) :
    (ofText t).segments = (t.splitOn '/').map Utf8.encode := by
  obtain ⟨first, others, ht⟩ := List.exists_cons_of_ne_nil (List.splitOn_ne_nil '/' t)
  obtain ⟨hplain, heq⟩ := splitOn_eq_cons_iff.mp ht
  have hbytes : Utf8.encode (others.flatMap ('/' :: ·)) =
      (others.map Utf8.encode).flatMap (slash :: ·) := by
    rw [List.flatMap_map, Utf8.encode, List.flatMap_assoc]
    rfl
  rw [ht, List.map_cons]
  refine splitOn_eq_cons_iff.mpr ⟨?_, ?_⟩
  · rw [← List.map_cons]
    intro segment hsegment
    obtain ⟨piece, hpiece, rfl⟩ := List.mem_map.mp hsegment
    exact slash_not_mem_encode (hplain piece hpiece)
  · rw [ofText, heq, Utf8.encode_append, hbytes]

/-- The text adds nothing to a path: slashes, and perhaps a dot behind each of them. -/
def IsTrailing (t : Text) : Prop :=
  ∃ fillers : List Text, (∀ f ∈ fillers, f = [] ∨ f = ['.']) ∧ t = fillers.flatMap ('/' :: ·)

theorem IsTrailing.eq_of_mem {t : Text} (h : IsTrailing t) {c : Char} (hc : c ∈ t) :
    c = '/' ∨ c = '.' := by
  obtain ⟨fillers, hfillers, rfl⟩ := h
  obtain ⟨f, hf, hc⟩ := List.mem_flatMap.mp hc
  rcases List.mem_cons.mp hc with rfl | hc
  · exact .inl rfl
  · rcases hfillers f hf with rfl | rfl
    · exact absurd hc List.not_mem_nil
    · exact .inr (List.mem_singleton.mp hc)

theorem isFiller_encode_iff {t : Text} : isFiller (Utf8.encode t) = true ↔ t = [] ∨ t = ['.'] := by
  have hdot : Utf8.encode ['.'] = [dot] := by decide
  rw [isFiller, Bool.or_eq_true, beq_iff_eq, beq_iff_eq]
  constructor
  · rintro (h | h)
    · exact .inl (Utf8.encode_injective h)
    · exact .inr (Utf8.encode_injective (h.trans hdot.symm))
  · rintro (rfl | rfl)
    · exact .inl rfl
    · exact .inr hdot

/-- A segment that does not end with a dot is a name. -/
theorem isName_of_getLast? {name : Bytes} {b : UInt8} (hlast : name.getLast? = some b)
    (hb : b ≠ dot) : isFiller name = false ∧ name ≠ [dot, dot] := by
  have hne : ∀ other : Bytes, other.getLast? ≠ some b → name ≠ other := by
    rintro other hother rfl
    exact hother hlast
  have hnil : name ≠ [] := hne [] (by simp)
  have hdot : name ≠ [dot] := hne [dot] (by simp [Ne.symm hb])
  exact ⟨by simp [isFiller, hnil, hdot], hne [dot, dot] (by simp [Ne.symm hb])⟩

end Path

namespace IsEnding

variable {ending : Text}

theorem isName_append (hending : IsEnding ending) (stem : Bytes) :
    Path.isFiller (stem ++ Utf8.encode ending) = false ∧
      stem ++ Utf8.encode ending ≠ [Path.dot, Path.dot] := by
  obtain ⟨extension, hbytes, hne, hdot⟩ := hending.bytes
  refine Path.isName_of_getLast? (b := extension.getLast hne) ?_ fun hb => ?_
  · rw [hbytes, List.getLast?_append, List.getLast?_cons, List.getLast?_eq_some_getLast hne,
      Option.getD_some, Option.some_or]
  · exact hdot (hb ▸ List.getLast_mem hne)

/-- A text whose bytes end with those of the ending ends with it. -/
theorem exists_of_encode_eq (hending : IsEnding ending) {t : Text} {stem : Bytes}
    (h : Utf8.encode t = stem ++ Utf8.encode ending) :
    ∃ front, t = front ++ ending ∧ Utf8.encode front = stem := by
  obtain ⟨extension, hbytes, -, -⟩ := hending.bytes
  rw [hbytes] at h
  obtain ⟨front, back, rfl, hfront, hback⟩ := Utf8.exists_of_encode_eq_append_cons (by decide) h
  have hback : '.' :: back = ending := by
    refine Utf8.encode_injective ?_
    rw [hbytes, Utf8.encode_cons, hback]
    rfl
  exact ⟨front, congrArg (front ++ ·) hback, hfront⟩

end IsEnding

/-- A path has an ending exactly if that stands behind a character other than a slash, and only slashes
follow it, with or without a dot behind them. -/
theorem Path.hasEnding_ofText_iff {t ending : Text} (hending : IsEnding ending) :
    (ofText t).hasEnding ending = true ↔
      ∃ front trailing, t = front ++ (ending ++ trailing) ∧
        (∃ c, front.getLast? = some c ∧ c ≠ '/') ∧ IsTrailing trailing := by
  simp only [hasEnding_iff hending, fileName?_eq_some_iff, segments_ofText]
  constructor
  · rintro ⟨stem, hstem, -, -, init, fillers, hsegments, hfillers⟩
    obtain ⟨before, rest, hpieces, -, hrest⟩ := List.map_eq_append_iff.mp hsegments
    obtain ⟨piece, dots, rfl, hpiece, rfl⟩ := List.map_eq_cons_iff.mp hrest
    obtain ⟨front, rfl, rfl⟩ := hending.exists_of_encode_eq hpiece
    obtain ⟨hplain, dir, -, ht⟩ := splitOn_eq_append_cons_iff.mp ⟨before, hpieces⟩
    have hne : front ≠ [] := fun hnil => hstem (by rw [hnil]; rfl)
    refine ⟨dir ++ front, dots.flatMap ('/' :: ·), ?_, ⟨front.getLast hne, ?_, ?_⟩, dots, ?_, rfl⟩
    · rw [ht, List.append_assoc, List.append_assoc]
    · rw [List.getLast?_append, List.getLast?_eq_some_getLast hne, Option.some_or]
    · intro hslash
      exact hplain _ List.mem_cons_self (List.mem_append_left _ (hslash ▸ List.getLast_mem hne))
    · exact fun f hf => isFiller_encode_iff.mp (hfillers _ (List.mem_map_of_mem hf))
  · rintro ⟨front, trailing, rfl, ⟨c, hlast, hc⟩, dots, hdots, rfl⟩
    -- The last segment that counts starts behind the last slash in front of the ending.
    obtain ⟨dir, segment, rfl, hdir, hne, hsegment⟩ :=
      exists_append_of_getLast? (p := (· == '/')) hlast (beq_eq_false_iff_ne.mpr hc)
    have hplain : ∀ q ∈ (segment ++ ending) :: dots, '/' ∉ q := by
      refine List.forall_mem_cons.mpr ⟨fun hslash => ?_, fun f hf => ?_⟩
      · rcases List.mem_append.mp hslash with hslash | hslash
        · exact absurd (hsegment '/' hslash) (by decide)
        · exact absurd (hending.isSeparator_eq_false hslash) (by decide)
      · rcases hdots f hf with rfl | rfl <;> decide
    obtain ⟨init, hpieces⟩ := splitOn_eq_append_cons_iff.mpr
      ⟨hplain, dir, fun a ha => eq_of_beq (hdir a ha), rfl⟩
    obtain ⟨hcounts, hup⟩ := hending.isName_append (Utf8.encode segment)
    refine ⟨Utf8.encode segment, fun hnil => hne (Utf8.encode_injective hnil), hcounts, hup,
      init.map Utf8.encode, dots.map Utf8.encode, ?_, fun f hf => ?_⟩
    · rw [List.append_assoc] at hpieces
      rw [List.append_assoc, hpieces, List.map_append, List.map_cons, Utf8.encode_append]
    · obtain ⟨dot, hdot, rfl⟩ := List.mem_map.mp hf
      exact isFiller_encode_iff.mpr (hdots dot hdot)

/-- What follows the ending of a path is not part of it, so a path that ends with the ending has
nothing there. -/
theorem checkFileKind_append_iff {front ending : Text} (hending : IsEnding ending) :
    checkFileKind (Path.ofText (front ++ ending)) ending = .ok () ↔
      ∃ c, front.getLast? = some c ∧ c ≠ '/' := by
  rw [Plan.checkFileKind_eq_ok_iff, Path.hasEnding_ofText_iff hending]
  constructor
  · rintro ⟨front', trailing, heq, hfront, htrailing⟩
    obtain ⟨last, hlast, hslash, hdot⟩ := hending.last
    have hends : (front ++ ending).getLast? = some last := by
      rw [List.getLast?_append, hlast, Option.some_or]
    rcases List.eq_nil_or_concat trailing with rfl | ⟨init, c, rfl⟩
    · rw [List.append_nil] at heq
      rwa [List.append_cancel_right heq]
    · rw [heq, List.concat_eq_append, ← List.append_assoc, ← List.append_assoc,
        List.getLast?_concat] at hends
      cases hends
      rcases htrailing.eq_of_mem (c := last) (by simp) with h | h
      · exact absurd h hslash
      · exact absurd h hdot
  · intro hfront
    exact ⟨front, [], by rw [List.append_nil], hfront, [], nofun, rfl⟩

/-! ## 3. The names of accepted paths -/

/-- What stands between a directory and an ending: it is not empty and has no separator. -/
structure IsStem (stem : Text) : Prop where
  ne_nil : stem ≠ []
  plain : ∀ c ∈ stem, isSeparator c = false

namespace SourceNames

theorem ofPath_append {dir stem ending : Text} (hending : ending ∈ [sourceEnding, headerEnding])
    (hdir : IsDirectory dir) (hstem : ∀ c ∈ stem, isSeparator c = false) :
    ofPath (dir ++ (stem ++ ending)) = ofStem stem ending := by
  refine ofPath_eq_ofStem hending (fileNameOf_append hdir fun c hc => ?_)
  rcases List.mem_append.mp hc with hc | hc
  · exact hstem c hc
  · exact (isEnding_of_mem hending).isSeparator_eq_false hc

/-- A file in a directory is accepted for its ending. -/
theorem checkFileKind_of_isStem {stem ending : Text} (hending : IsEnding ending) (dir : Text)
    (hstem : IsStem stem) : checkFileKind (Path.ofText (dir ++ (stem ++ ending))) ending = .ok () := by
  rw [← List.append_assoc, checkFileKind_append_iff hending]
  refine ⟨stem.getLast hstem.ne_nil, ?_, fun hslash => ?_⟩
  · rw [List.getLast?_append, List.getLast?_eq_some_getLast hstem.ne_nil, Option.some_or]
  · have hplain := hstem.plain _ (List.getLast_mem hstem.ne_nil)
    rw [hslash] at hplain
    exact absurd hplain (by decide)

/-- An accepted path has the ending, and behind it only slashes and dots that add nothing. Without
these, the file name of an accepted path consists of a stem and the ending, and all names follow from
the stem; but a backslash right in front of the ending counts as the end of a directory, and leaves
an empty stem. A header and a source with the same stem are both accepted, in any directories, and
have the same class, header and test file. -/
theorem ofPath_of_checkFileKind :
    (∀ ending ∈ [sourceEnding, headerEnding],
      (∀ path, checkFileKind (Path.ofText path) ending = .ok () →
        ∃ front trailing, path = front ++ (ending ++ trailing) ∧ Path.IsTrailing trailing) ∧
      ∀ front, checkFileKind (Path.ofText (front ++ ending)) ending = .ok () →
        (front.getLast? ≠ some '\\' → ∃ dir stem, front = dir ++ stem ∧ IsDirectory dir ∧
          IsStem stem ∧ ofPath (front ++ ending) = ofStem stem ending) ∧
        (front.getLast? = some '\\' → ofPath (front ++ ending) = ofStem [] ending)) ∧
    ∀ dir dir' stem, IsDirectory dir → IsDirectory dir' → IsStem stem →
      let header := dir ++ (stem ++ headerEnding)
      let source := dir' ++ (stem ++ sourceEnding)
      checkFileKind (Path.ofText header) headerEnding = .ok () ∧
      checkFileKind (Path.ofText source) sourceEnding = .ok () ∧
      (ofPath header).className = (ofPath source).className ∧
      (ofPath header).headerName = (ofPath source).headerName ∧
      (ofPath header).testFileName = (ofPath source).testFileName := by
  refine ⟨fun ending hending => ⟨fun path haccepted => ?_, fun front haccepted => ⟨?_, ?_⟩⟩, ?_⟩
  · rw [Plan.checkFileKind_eq_ok_iff, Path.hasEnding_ofText_iff (isEnding_of_mem hending)] at haccepted
    obtain ⟨front, trailing, hpath, -, htrailing⟩ := haccepted
    exact ⟨front, trailing, hpath, htrailing⟩
  · intro hbackslash
    obtain ⟨c, hlast, hslash⟩ := (checkFileKind_append_iff (isEnding_of_mem hending)).mp haccepted
    have hc : isSeparator c = false := by
      have hc : c ≠ '\\' := fun heq => hbackslash (heq ▸ hlast)
      simp [isSeparator, hslash, hc]
    obtain ⟨dir, stem, rfl, hdir, hne, hplain⟩ := exists_append_of_getLast? hlast hc
    have hdir : IsDirectory dir := (Option.all_eq_true _ _).mpr hdir
    refine ⟨dir, stem, rfl, hdir, ⟨hne, hplain⟩, ?_⟩
    rw [List.append_assoc]
    exact ofPath_append hending hdir hplain
  · intro hbackslash
    have hdir : IsDirectory front := by
      rw [IsDirectory, hbackslash]
      rfl
    exact @ofPath_append front [] ending hending hdir nofun
  · intro dir dir' stem hdir hdir' hstem header source
    have hheader : ofPath header = ofStem stem headerEnding :=
      ofPath_append (by decide) hdir hstem.plain
    have hsource : ofPath source = ofStem stem sourceEnding :=
      ofPath_append (by decide) hdir' hstem.plain
    refine ⟨checkFileKind_of_isStem (isEnding_of_mem (by decide)) dir hstem,
      checkFileKind_of_isStem (isEnding_of_mem (by decide)) dir' hstem, ?_⟩
    rw [hheader, hsource]
    exact ⟨rfl, rfl, rfl⟩

/-- A source with two endings behind both kinds of separators, and a header and a source in different
directories. -/
theorem ofPath_of_checkFileKind_separators :
    let front := "lib/src\\W.h".toList
    (checkFileKind (Path.ofText (front ++ sourceEnding)) sourceEnding = .ok () ∧
      ∃ dir stem, front = dir ++ stem ∧ IsDirectory dir ∧ IsStem stem ∧
        ofPath (front ++ sourceEnding) = ofStem stem sourceEnding) ∧
      (ofPath ("include/".toList ++ (['W'] ++ headerEnding))).testFileName =
        (ofPath ("src\\".toList ++ (['W'] ++ sourceEnding))).testFileName := by
  intro front
  obtain ⟨hpaths, hpairs⟩ := ofPath_of_checkFileKind
  have haccepted : checkFileKind (Path.ofText (front ++ sourceEnding)) sourceEnding = .ok () := by rfl
  obtain ⟨hnames, -⟩ := (hpaths sourceEnding (by decide)).2 front haccepted
  obtain ⟨-, -, -, -, htest⟩ := hpairs "include/".toList "src\\".toList ['W'] (by decide) (by decide)
    ⟨by decide, List.forall_mem_singleton.mpr (by decide)⟩
  exact ⟨⟨haccepted, hnames (by decide)⟩, htest⟩

/-- Two accepted paths without a class: a backslash is part of the last component but separates file
names, and a slash at the end of a path does not count as a component but separates file names. -/
theorem no_className_of_separator :
    (checkFileKind (Path.ofText "a\\.cpp".toList) sourceEnding = .ok () ∧
      (ofPath "a\\.cpp".toList).className = []) ∧
    (checkFileKind (Path.ofText "W.cpp/".toList) sourceEnding = .ok () ∧
      (ofPath "W.cpp/".toList).className = [] ∧ (ofPath "W.cpp/".toList).fileName = []) := by
  have hbackslash : checkFileKind (Path.ofText "a\\.cpp".toList) sourceEnding = .ok () := by rfl
  have hslash : checkFileKind (Path.ofText "W.cpp/".toList) sourceEnding = .ok () := by rfl
  exact ⟨⟨hbackslash, by decide +kernel⟩, hslash, by decide +kernel⟩

end SourceNames

end StubGen
