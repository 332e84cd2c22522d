import StubGen.Proofs.Declaration
import StubGen.Proofs.Parameters
import StubGen.Proofs.Preservation

/-!
# Reading and writing parameter lists

A parameter list is cut at its commas, and each part that is not blank gives one parameter. Only
blanks and commas are lost on the way. What is read is in a normal form, so that it is read again
from the list that is written for it. A lone `void` is the exception, since it stands for no
parameters.

Results:

1. `spells_ofPiece`: what is read from one part of a list.
2. `parseList_renderList`: which parameters in normal form are read back from the list that is
   written for them.
3. `parseList_lossless`: what is read from a whole list, and that it is read back.
-/

namespace StubGen.Parameter

open Text

/-! ## 1. One part of a list -/

/-- The parameter is in normal form: its type is trimmed, its name has no blank, and neither has a
comma. A type without a name is one word. -/
structure IsNormal (p : Parameter) : Prop where
  typed : p.typeName ≠ []
  trimmed : trim p.typeName = p.typeName
  comma_not_mem_type : ',' ∉ p.typeName
  comma_not_mem_name : ',' ∉ p.name
  name_noBlank : ∀ c ∈ p.name, isBlank c = false
  bare : p.name = [] → ∀ c ∈ p.typeName, isBlank c = false

/-- The part of a list says what the parameter is: its type and its name with blanks between them,
or its type alone if there is no blank within the part. -/
structure Spells (piece : Text) (p : Parameter) : Prop where
  normal : p.IsNormal
  unnamed_iff : p.name = [] ↔ ∀ c ∈ trim piece, isBlank c = false
  parts : ∃ gap, (∀ c ∈ gap, isBlank c = true) ∧ trim piece = p.typeName ++ (gap ++ p.name)

/-- A part without a blank in it is a type without a name. -/
theorem spells_bare {piece : Text} (hcomma : ',' ∉ trim piece) (hfilled : trim piece ≠ [])
    (hblank : ∀ c ∈ trim piece, isBlank c = false) : Spells piece ⟨trim piece, []⟩ where
  normal := {
    typed := hfilled
    trimmed := trim_eq_self_iff.mpr ⟨fun c hc => isBlank_head?_trim hc,
      fun c hc => isBlank_getLast?_trim hc⟩
    comma_not_mem_type := hcomma
    comma_not_mem_name := List.not_mem_nil
    name_noBlank := List.forall_mem_nil _
    bare := fun _ => hblank }
  unnamed_iff := iff_of_true rfl hblank
  parts := ⟨[], List.forall_mem_nil _, by simp⟩

/-- A part with a blank in it is a type and a name, with blanks between them. -/
theorem exists_gap {t : Text} (hany : t.any isBlank = true) :
    ∃ gap, (∀ c ∈ gap, isBlank c = true) ∧ t = (ofPiece t).typeName ++ (gap ++ (ofPiece t).name) := by
  refine ⟨(t.rdropWhile (!isBlank ·)).rtakeWhile isBlank, fun c => List.mem_rtakeWhile_imp, ?_⟩
  rw [ofPiece_of_blank hany, ← List.append_assoc]
  simp only [trimEnd_eq_rdropWhile, List.rdropWhile_append_rtakeWhile]

theorem spells_named {piece : Text} (hcomma : ',' ∉ trim piece)
    (hany : (trim piece).any isBlank = true) : Spells piece (ofPiece (trim piece)) := by
  obtain ⟨htypeComma, hnameComma⟩ := comma_not_mem_ofPiece hcomma
  obtain ⟨gap, hgap, hparts⟩ := exists_gap hany
  obtain ⟨init, c, hinit, hc, hwords, hname⟩ := exists_last_word hany
    (fun c => isBlank_head?_trim) fun c => isBlank_getLast?_trim
  have hread : ofPiece (trim piece) =
      ⟨trimEnd (init ++ [c]), (trim piece).rtakeWhile (!isBlank ·)⟩ := by
    rw [ofPiece_of_blank hany, hinit]
  rw [hread] at htypeComma hnameComma hparts ⊢
  have htyped : trimEnd (init ++ [c]) ≠ [] := by
    intro hnil
    have hsame := words_trimEnd (init ++ [c])
    rw [hnil, words_append_of_blank_right (List.forall_mem_singleton.mpr hc)] at hsame
    exact hwords hsame.symm
  have htrimmed : trim (trimEnd (init ++ [c])) = trimEnd (init ++ [c]) := by
    refine trim_eq_self_iff.mpr ⟨fun d hd => ?_, fun d hd => getLast?_rdropWhile hd⟩
    -- The type begins where the part begins.
    refine isBlank_head?_trim (t := piece) ?_
    rw [hparts, List.head?_append, hd, Option.some_or]
  refine ⟨⟨htyped, htrimmed, htypeComma, hnameComma, hname.noBlank,
    fun hnone => absurd hnone hname.ne_nil⟩, ?_, gap, hgap, hparts⟩
  refine iff_of_false hname.ne_nil fun hnone => ?_
  obtain ⟨d, hd, hblank⟩ := List.any_eq_true.mp hany
  rw [hnone d hd] at hblank
  cases hblank

/-- What is read from a part of a list that is not blank. -/
theorem spells_ofPiece {piece : Text} (hcomma : ',' ∉ piece) (hfilled : trim piece ≠ []) :
    Spells piece (ofPiece (trim piece)) := by
  have hfree : ',' ∉ trim piece := fun hmem => hcomma (mem_of_mem_trim hmem)
  by_cases hany : (trim piece).any isBlank = true
  · exact spells_named hfree hany
  · rw [ofPiece, if_neg hany]
    exact spells_bare hfree hfilled (by simpa using hany)

/-- The part and the parameter have the same characters, but for blanks. -/
theorem Spells.filter_eq {piece : Text} {p : Parameter} (h : Spells piece p) {keep : Char → Bool}
    (hkeep : ∀ c, isBlank c = true → keep c = false) :
    piece.filter keep = (p.typeName ++ p.name).filter keep := by
  have hnone : ∀ {blanks : Text}, (∀ c ∈ blanks, isBlank c = true) → blanks.filter keep = [] := by
    intro blanks hblanks
    exact List.filter_eq_nil_iff.mpr fun c hc => by simp [hkeep c (hblanks c hc)]
  obtain ⟨before, after, hpiece, hbefore, hafter⟩ := exists_trim_append piece
  obtain ⟨gap, hgap, hparts⟩ := h.parts
  rw [hpiece, hparts]
  simp only [List.filter_append, hnone hbefore, hnone hafter, hnone hgap, List.nil_append,
    List.append_nil]

/-! ## 2. Writing parameters -/

/-- The parameter as it is written in a list. -/
def render (p : Parameter) : Text :=
  if p.isNamed then p.typeName ++ ' ' :: p.name else p.typeName

def renderList (ps : List Parameter) : Text := ", ".toList.intercalate (ps.map render)

/-- The parts of a list that are not blank. -/
def filledPieces (body : Text) : List Text :=
  (body.splitOn ',').filter fun piece => !(trim piece).isEmpty

theorem parseList_eq (body : Text) :
    parseList body = if trim body = "void".toList then []
      else (filledPieces body).map fun piece => ofPiece (trim piece) := by
  rw [parseList, filledPieces]
  simp only [beq_iff_eq]
  split
  · rfl
  · rw [List.filter_map, List.map_map]
    rfl

theorem comma_not_mem_of_mem_filledPieces {body piece : Text} (h : piece ∈ filledPieces body) :
    ',' ∉ piece ∧ trim piece ≠ [] := by
  obtain ⟨hpiece, hfilled⟩ := List.mem_filter.mp h
  exact ⟨(of_mem_splitOn hpiece).1, by simpa using hfilled⟩

theorem isNormal_of_mem_parseList {body : Text} {p : Parameter} (h : p ∈ parseList body) :
    p.IsNormal := by
  rw [parseList_eq] at h
  split at h
  · exact absurd h List.not_mem_nil
  · obtain ⟨piece, hpiece, rfl⟩ := List.mem_map.mp h
    obtain ⟨hcomma, hfilled⟩ := comma_not_mem_of_mem_filledPieces hpiece
    exact (spells_ofPiece hcomma hfilled).normal

namespace IsNormal

variable {p : Parameter} (h : p.IsNormal)

include h

theorem comma_not_mem_render : ',' ∉ render p := by
  rw [render]
  split
  · rw [List.mem_append, List.mem_cons, not_or, not_or]
    exact ⟨h.comma_not_mem_type, by decide, h.comma_not_mem_name⟩
  · exact h.comma_not_mem_type

theorem render_ne_nil : render p ≠ [] := by
  rw [render]
  split
  · exact List.append_ne_nil_of_left_ne_nil h.typed _
  · exact h.typed

/-- What is written for a parameter is one word if the parameter has no name, else the words of its
type and its name. -/
theorem words_render :
    words (render p) = if p.isNamed then words p.typeName ++ [p.name] else [p.typeName] := by
  rw [render]
  split
  · next hnamed =>
    have hname : IsToken p.name := ⟨by simpa [isNamed] using hnamed, h.name_noBlank⟩
    rw [words_append_cons (by decide), words_of_isToken hname]
  · next hnamed =>
    exact words_of_isToken ⟨h.typed, h.bare (by simpa [isNamed] using hnamed)⟩

theorem words_typeName_ne_nil : words p.typeName ≠ [] := by
  rw [ne_eq, ← trim_eq_nil_iff, h.trimmed]
  exact h.typed

theorem words_render_eq_void_iff :
    words (render p) = ["void".toList] ↔ p = ⟨"void".toList, []⟩ := by
  rw [h.words_render]
  obtain ⟨typeName, name⟩ := p
  split
  · next hnamed =>
    refine iff_of_false (fun heq => ?_) fun heq => ?_
    · have hlength := congrArg List.length heq
      have hpos := List.length_pos_iff.mpr h.words_typeName_ne_nil
      rw [List.length_append, List.length_singleton, List.length_singleton] at hlength
      omega
    · cases heq
      cases hnamed
  · next hnamed =>
    have hname : name = [] := by simpa [isNamed] using hnamed
    simp [hname]

theorem trim_render : trim (render p) = render p := by
  obtain ⟨hfirst, hlast⟩ := trim_eq_self_iff.mp h.trimmed
  obtain ⟨c, rest, htype⟩ := List.exists_cons_of_ne_nil h.typed
  rw [render]
  split
  · next hnamed =>
    obtain ⟨init, d, hname⟩ := List.eq_nil_or_concat p.name |>.resolve_left
      (by simpa [isNamed] using hnamed)
    rw [List.concat_eq_append] at hname
    refine trim_eq_self_iff.mpr ⟨fun e he => hfirst e ?_, fun e he => h.name_noBlank e ?_⟩
    · rw [htype] at he ⊢
      exact he
    · rw [hname, ← List.cons_append, ← List.append_assoc, List.getLast?_concat] at he
      rw [hname]
      cases he
      exact List.mem_concat_self
  · exact h.trimmed

/-- What is written for a parameter is read as that parameter. -/
theorem ofPiece_render : ofPiece (render p) = p := by
  rw [render]
  split
  · next hnamed =>
    have hany : (p.typeName ++ ' ' :: p.name).any isBlank = true := by
      rw [List.any_append, List.any_cons, show isBlank ' ' = true by decide, Bool.true_or,
        Bool.or_true]
    have hstop : (!isBlank ' ') = false := by decide
    have hname : ∀ c ∈ p.name, (!isBlank c) = true := fun c hc => by simp [h.name_noBlank c hc]
    have htype : trimEnd (p.typeName ++ [' ']) = p.typeName := by
      have hblank : ∀ c ∈ [' '], isBlank c = true := List.forall_mem_singleton.mpr (by decide)
      rw [trimEnd_eq_rdropWhile, rdropWhile_append_of_forall hblank, ← trimEnd_eq_rdropWhile,
        trimEnd_eq_self (trim_eq_self_iff.mp h.trimmed).2]
    obtain ⟨hlast, hfront⟩ := rtakeWhile_append_cons hname hstop p.typeName
    rw [ofPiece_of_blank hany, hlast, hfront, htype]
  · next hnamed =>
    have hname : p.name = [] := by simpa [isNamed] using hnamed
    have hany : ¬ p.typeName.any isBlank = true := by
      simpa using h.bare hname
    rw [ofPiece, if_neg hany, ← hname]

end IsNormal

section

variable {p : Parameter} {ps : List Parameter}

/-- The commas of a written list are those between its parameters. -/
theorem splitOn_renderList (h : ∀ q ∈ p :: ps, q.IsNormal) :
    (renderList (p :: ps)).splitOn ',' = render p :: ps.map fun q => ' ' :: render q := by
  induction ps generalizing p with
  | nil =>
    have hlist : renderList [p] = render p := List.intercalate_singleton
    rw [hlist, List.splitOn_eq_singleton (h p List.mem_cons_self).comma_not_mem_render]
    rfl
  | cons q ps ih =>
    obtain ⟨hp, hrest⟩ := List.forall_mem_cons.mp h
    have hlist : renderList (p :: q :: ps) = render p ++ ',' :: ' ' :: renderList (q :: ps) := rfl
    rw [hlist, List.splitOn_append_cons_self_of_not_mem hp.comma_not_mem_render,
      splitOn_cons_of_ne (ih hrest) (by decide)]
    rfl

theorem trim_renderList_eq_void_iff (h : ∀ q ∈ ps, q.IsNormal) :
    trim (renderList ps) = "void".toList ↔ ps = [⟨"void".toList, []⟩] := by
  cases ps with
  | nil => exact iff_of_false (by decide) (by simp)
  | cons p ps =>
    rw [trim_eq_void_iff, fields, splitOn_renderList h, List.map_cons]
    simp only [List.cons.injEq, List.map_eq_nil_iff]
    rw [(h p List.mem_cons_self).words_render_eq_void_iff]

/-- The parts of a written list are what is written for its parameters. -/
theorem map_trim_splitOn_renderList (h : ∀ q ∈ p :: ps, q.IsNormal) :
    ((renderList (p :: ps)).splitOn ',').map trim = (p :: ps).map render := by
  obtain ⟨hp, hps⟩ := List.forall_mem_cons.mp h
  have hspace : ∀ q ∈ ps, trim (' ' :: render q) = render q := by
    intro q hq
    rw [trim, trimStart, List.dropWhile_cons_of_pos (by decide)]
    exact (hps q hq).trim_render
  rw [splitOn_renderList h, List.map_cons, hp.trim_render, List.map_map, List.map_cons]
  exact congrArg _ (List.map_congr_left hspace)

/-- Parameters in normal form are read back from the list that is written for them, unless that list
is `void` alone. -/
theorem parseList_renderList (h : ∀ q ∈ ps, q.IsNormal) :
    parseList (renderList ps) = if ps = [⟨"void".toList, []⟩] then [] else ps := by
  rw [parseList]
  simp only [beq_iff_eq, trim_renderList_eq_void_iff h]
  split
  · rfl
  · cases ps with
    | nil => rfl
    | cons p ps =>
      have hfilled : ∀ t ∈ (p :: ps).map render, (!t.isEmpty) = true := by
        intro t ht
        obtain ⟨q, hq, rfl⟩ := List.mem_map.mp ht
        simpa using (h q hq).render_ne_nil
      have hread : ∀ q ∈ p :: ps, (ofPiece ∘ render) q = id q := fun q hq => (h q hq).ofPiece_render
      rw [map_trim_splitOn_renderList h, List.filter_eq_self.mpr hfilled, List.map_map,
        List.map_congr_left hread, List.map_id]

end

/-! ## 3. Whole lists -/

section

variable {keep : Char → Bool} (hkeep : ∀ c, isBlank c = true → keep c = false)

include hkeep

/-- The parameters of some parts have the characters of these parts, but for blanks. -/
theorem filter_flatMap_ofPiece {l : List Text} (hl : ∀ piece ∈ l, ',' ∉ piece ∧ trim piece ≠ []) :
    ((l.map fun piece => ofPiece (trim piece)).flatMap fun p => p.typeName ++ p.name).filter keep =
      l.flatten.filter keep := by
  induction l with
  | nil => rfl
  | cons piece l ih =>
    obtain ⟨⟨hcomma, hfilled⟩, hrest⟩ := List.forall_mem_cons.mp hl
    rw [List.map_cons, List.flatMap_cons, List.filter_append, ih hrest,
      ← (spells_ofPiece hcomma hfilled).filter_eq hkeep, ← List.filter_append, List.flatten_cons]

/-- Blank parts have nothing but blanks. -/
theorem filter_flatten_filledPieces (body : Text) :
    (filledPieces body).flatten.filter keep = (body.splitOn ',').flatten.filter keep := by
  rw [filledPieces]
  induction body.splitOn ',' with
  | nil => rfl
  | cons piece l ih =>
    rw [List.flatten_cons, List.filter_append]
    by_cases hblank : trim piece = []
    · have hnone : piece.filter keep = [] := by
        refine List.filter_eq_nil_iff.mpr fun c hc => ?_
        simp [hkeep c (isBlank_of_words_eq_nil (trim_eq_nil_iff.mp hblank) c hc)]
      rw [List.filter_cons_of_neg (by simp [hblank]), ih, hnone, List.nil_append]
    · rw [List.filter_cons_of_pos (by simp [hblank]), List.flatten_cons, List.filter_append, ih]

end

/-- The characters of the parameters are those of the list, but for blanks and commas. -/
theorem withoutBlanks_parseList {body : Text} (h : trim body ≠ "void".toList) :
    withoutBlanks ((parseList body).flatMap fun p => p.typeName ++ p.name) =
      (withoutBlanks body).filter (· != ',') := by
  have hkeep : ∀ c, isBlank c = true → (!isBlank c) = false := fun c hc => by rw [hc]; rfl
  calc withoutBlanks ((parseList body).flatMap fun p => p.typeName ++ p.name)
      = withoutBlanks (filledPieces body).flatten := by
        rw [parseList_eq, if_neg h]
        exact filter_flatMap_ofPiece hkeep fun piece => comma_not_mem_of_mem_filledPieces
    _ = withoutBlanks (body.splitOn ',').flatten := filter_flatten_filledPieces hkeep body
    _ = withoutBlanks (body.filter (· != ',')) := by rw [flatten_splitOn]
    _ = (withoutBlanks body).filter (· != ',') := by
        simp only [withoutBlanks, List.filter_filter, Bool.and_comm]

/-- Reading a list loses only blanks and commas, and gives parameters in normal form: one for each
part that is not blank, in order, with a name exactly if there is a blank within the part. What is
written for the parameters is read as the same parameters, for every list, except exactly if the only
parameter is a `void` without a name. -/
theorem parseList_lossless (body : Text) :
    (trim body ≠ "void".toList →
      (∃ read, parseList body = (filledPieces body).map read ∧
        ∀ piece ∈ filledPieces body, Spells piece (read piece)) ∧
      withoutBlanks ((parseList body).flatMap fun p => p.typeName ++ p.name) =
        (withoutBlanks body).filter (· != ',')) ∧
    (parseList (renderList (parseList body)) = parseList body ↔
      parseList body ≠ [⟨"void".toList, []⟩]) := by
  refine ⟨fun h => ⟨⟨fun piece => ofPiece (trim piece), ?_, fun piece hpiece => ?_⟩,
    withoutBlanks_parseList h⟩, ?_⟩
  · rw [parseList_eq, if_neg h]
  · obtain ⟨hcomma, hfilled⟩ := comma_not_mem_of_mem_filledPieces hpiece
    exact spells_ofPiece hcomma hfilled
  · rw [parseList_renderList fun p => isNormal_of_mem_parseList]
    split
    · next hvoid => simp [hvoid]
    · next hother => exact iff_of_true rfl hother

/-- A list with blanks of several kinds, a blank part, a name `void` and a type `void`. -/
theorem parseList_lossless_void :
    let body := " const\u3000int  a,\t,void , x\tvoid".toList
    let ps : List Parameter := [⟨"const\u3000int".toList, ['a']⟩, ⟨"void".toList, []⟩,
      ⟨['x'], "void".toList⟩]
    parseList body = ps ∧ trim body ≠ "void".toList ∧
      withoutBlanks (ps.flatMap fun p => p.typeName ++ p.name) =
        (withoutBlanks body).filter (· != ',') ∧
      renderList ps = "const\u3000int a, void, x void".toList ∧
      parseList (renderList ps) = ps ∧
      parseList (renderList (parseList "void,".toList)) ≠ parseList "void,".toList := by
  intro body ps
  have hread : parseList body = ps := by decide +kernel
  have hvoid : trim body ≠ "void".toList := by decide +kernel
  have hlone : parseList "void,".toList = [⟨"void".toList, []⟩] := by decide +kernel
  have hlossless := parseList_lossless body
  rw [hread] at hlossless
  refine ⟨hread, hvoid, (hlossless.1 hvoid).2, by decide +kernel, hlossless.2.mpr (by decide), ?_⟩
  exact mt (parseList_lossless "void,".toList).2.mp (not_not_intro hlone)

end StubGen.Parameter
