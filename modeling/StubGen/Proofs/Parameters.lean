import StubGen.Declaration
import StubGen.Proofs.Words

/-!
# Parameters and their words

A parameter list is cut at its commas, and blanks divide each part into words. All that is read from
the list follows from these words.

Results:

1. `fields_comma`, `fields_blank`, `fields_cons_within`, `fields_cons_alone`: the words between the
   commas, one character at a time.
2. `spelling_ofPiece`: the last of several words is the name, and the others are the type.
3. `map_spelling_eq_iff`: two lists with blank parts at the same places give the same parameters, but
   for blanks in their types, exactly if they have the same words between the commas.
-/

namespace StubGen.Parameter

open Text

/-! ## 1. Words between commas -/

/-- The words between the commas of a parameter list. -/
def fields (body : Text) : List (List Text) := (body.splitOn ',').map words

/-- The character is part of a word between two commas. -/
def inField (c : Char) : Bool := !isBlank c && c != ','

theorem inField_eq_true_iff {c : Char} : inField c = true ↔ isBlank c = false ∧ c ≠ ',' := by
  rw [inField, Bool.and_eq_true, Bool.not_eq_true', bne_iff_ne]

/-- The text starts with a word. -/
def startsField (t : Text) : Bool := t.head?.any inField

theorem fields_comma (t : Text) : fields (',' :: t) = [] :: fields t := rfl

/-- A character other than a comma belongs to the first field. -/
theorem fields_cons {c : Char} (hc : c ≠ ',') {t first : Text} {others : List Text}
    (ht : t.splitOn ',' = first :: others) :
    fields t = words first :: others.map words ∧
      fields (c :: t) = words (c :: first) :: others.map words := by
  rw [fields, fields, ht, splitOn_cons_of_ne ht hc]
  exact ⟨rfl, rfl⟩

/-- A blank adds no word. -/
theorem fields_blank {c : Char} (hc : isBlank c = true) (t : Text) : fields (c :: t) = fields t := by
  have hcomma : c ≠ ',' := by
    rintro rfl
    exact absurd hc (by decide)
  obtain ⟨first, others, ht⟩ := List.exists_cons_of_ne_nil (List.splitOn_ne_nil ',' t)
  obtain ⟨hfields, hcons⟩ := fields_cons hcomma ht
  rw [hcons, hfields, words_cons_of_blank hc]

theorem fields_append_of_blank {blanks : Text} (h : ∀ c ∈ blanks, isBlank c = true) (t : Text) :
    fields (blanks ++ t) = fields t := by
  induction blanks with
  | nil => rfl
  | cons c blanks ih =>
    obtain ⟨hc, hrest⟩ := List.forall_mem_cons.mp h
    rw [List.cons_append, fields_blank hc, ih hrest]

section

variable {c : Char} {t : Text} (hc : inField c = true)

include hc

theorem fields_cons_within (ht : startsField t = true) :
    ∃ word ws others, fields t = (word :: ws) :: others ∧ word ≠ [] ∧
      fields (c :: t) = ((c :: word) :: ws) :: others := by
  obtain ⟨hblank, hcomma⟩ := inField_eq_true_iff.mp hc
  cases t with
  | nil => cases ht
  | cons d t =>
    obtain ⟨hblank', hcomma'⟩ := inField_eq_true_iff.mp (show inField d = true from ht)
    obtain ⟨first, others, hpieces⟩ := List.exists_cons_of_ne_nil (List.splitOn_ne_nil ',' t)
    have hnext := splitOn_cons_of_ne hpieces hcomma'
    obtain ⟨hfields, hcons⟩ := fields_cons hcomma hnext
    obtain ⟨word, ws, hword, hne, hlonger⟩ := words_cons_cons hblank hblank' first
    exact ⟨word, ws, others.map words, by rw [hfields, hword], hne, by rw [hcons, hlonger]⟩

/-- A character that is in front of no word is a word of its own. -/
theorem fields_cons_alone (ht : startsField t = false) :
    ∃ ws others, fields t = ws :: others ∧ fields (c :: t) = ([c] :: ws) :: others := by
  obtain ⟨hblank, hcomma⟩ := inField_eq_true_iff.mp hc
  obtain ⟨first, others, hpieces⟩ := List.exists_cons_of_ne_nil (List.splitOn_ne_nil ',' t)
  obtain ⟨hfields, hcons⟩ := fields_cons hcomma hpieces
  have hend : ∀ d ∈ first.head?, isBlank d = true := by
    cases t with
    | nil =>
      cases hpieces
      exact nofun
    | cons d t =>
      obtain ⟨next, more, hnext⟩ := List.exists_cons_of_ne_nil (List.splitOn_ne_nil ',' t)
      by_cases hd : d = ','
      · subst hd
        cases hpieces
        exact nofun
      · rw [splitOn_cons_of_ne hnext hd] at hpieces
        cases hpieces
        have hnot : inField d = false := ht
        rw [inField, Bool.and_eq_false_iff, bne_eq_false_iff_eq, or_iff_left hd] at hnot
        simpa using hnot
  have hword : IsToken [c] := ⟨List.cons_ne_nil c [], List.forall_mem_singleton.mpr hblank⟩
  have halone : words (c :: first) = [c] :: words first := words_token_append hword hend
  exact ⟨words first, others.map words, hfields, by rw [hcons, halone]⟩

end

/-! ## 2. One parameter -/

/-- What a parameter says, blanks aside: the words of its type, and its name. -/
def spelling (p : Parameter) : List Text × Text := (words p.typeName, p.name)

/-- The last of several words is a name. -/
def splitWords (ws : List Text) : List Text × Text :=
  if 2 ≤ ws.length then (ws.dropLast, ws.getLast?.getD []) else (ws, [])

theorem splitWords_concat {ws : List Text} (hne : ws ≠ []) (w : Text) :
    splitWords (ws ++ [w]) = (ws, w) := by
  have hlength : 2 ≤ (ws ++ [w]).length := by
    rw [List.length_append, List.length_singleton]
    exact Nat.succ_le_succ (List.length_pos_iff.mpr hne)
  rw [splitWords, if_pos hlength, List.dropLast_concat, List.getLast?_concat, Option.getD_some]

/-- The words of a type and a name, in one list. -/
def joinWords (s : List Text × Text) : List Text := s.1 ++ [s.2].filter (!·.isEmpty)

theorem joinWords_splitWords {ws : List Text} (h : ∀ w ∈ ws, w ≠ []) :
    joinWords (splitWords ws) = ws := by
  rcases List.eq_nil_or_concat ws with rfl | ⟨init, last, rfl⟩
  · rfl
  · rw [List.concat_eq_append] at h ⊢
    have hlast : last ≠ [] := h last (by simp)
    cases init with
    | nil => rfl
    | cons w init =>
      rw [splitWords_concat (List.cons_ne_nil w init)]
      simp [joinWords, hlast]

theorem ofPiece_of_blank {t : Text} (hany : t.any isBlank = true) :
    ofPiece t = ⟨trimEnd (t.rdropWhile (!isBlank ·)), t.rtakeWhile (!isBlank ·)⟩ := by
  rw [ofPiece, if_pos hany, beforeEndRun_eq_rdropWhile, endRun_eq_rtakeWhile]

/-- A trimmed text with a blank in it ends with a word, and has others before the last blank. -/
theorem exists_last_word {t : Text} (hany : t.any isBlank = true)
    (hfirst : ∀ c ∈ t.head?, isBlank c = false) (hlast : ∀ c ∈ t.getLast?, isBlank c = false) :
    ∃ init c, t.rdropWhile (!isBlank ·) = init ++ [c] ∧ isBlank c = true ∧ words init ≠ [] ∧
      IsToken (t.rtakeWhile (!isBlank ·)) := by
  have hsplit : t.rdropWhile (!isBlank ·) ++ t.rtakeWhile (!isBlank ·) = t :=
    List.rdropWhile_append_rtakeWhile
  have hname : ∀ c ∈ t.rtakeWhile (!isBlank ·), isBlank c = false := fun c hc => by
    simpa using List.mem_rtakeWhile_imp hc
  rcases List.eq_nil_or_concat (t.rdropWhile (!isBlank ·)) with hnil | ⟨init, c, hinit⟩
  · rw [hnil, List.nil_append] at hsplit
    obtain ⟨c, hc, hblank⟩ := List.any_eq_true.mp hany
    rw [← hsplit] at hc
    rw [hname c hc] at hblank
    cases hblank
  · rw [List.concat_eq_append] at hinit
    have hc : isBlank c = true := by
      have hstop : (t.rdropWhile (!isBlank ·)).getLast? = some c := by
        rw [hinit, List.getLast?_concat]
      simpa using getLast?_rdropWhile hstop
    refine ⟨init, c, hinit, hc, fun hnone => ?_, fun hempty => ?_, hname⟩
    · -- Otherwise the text would begin with a blank.
      have hblank : ∀ d ∈ init ++ [c], isBlank d = true :=
        List.forall_mem_append.mpr
          ⟨isBlank_of_words_eq_nil hnone, List.forall_mem_singleton.mpr hc⟩
      obtain ⟨d, rest, hd⟩ := List.exists_cons_of_ne_nil
        (List.append_ne_nil_of_right_ne_nil init (List.cons_ne_nil c []))
      rw [hd] at hblank
      rw [hinit, hd] at hsplit
      have hstart := hfirst d (by rw [← hsplit]; rfl)
      rw [hblank d List.mem_cons_self] at hstart
      cases hstart
    · -- Otherwise it would end with one.
      rw [hempty, List.append_nil, hinit] at hsplit
      have hend := hlast c (by rw [← hsplit]; exact List.getLast?_concat)
      rw [hc] at hend
      cases hend

/-- The last of several words of a piece is the name of the parameter, and the others are its
type. -/
theorem spelling_ofPiece {piece : Text} (h : words piece ≠ []) :
    spelling (ofPiece (trim piece)) = splitWords (words piece) := by
  have hfirst : ∀ c ∈ (trim piece).head?, isBlank c = false := fun c => isBlank_head?_trim
  have hlast : ∀ c ∈ (trim piece).getLast?, isBlank c = false := fun c => isBlank_getLast?_trim
  rw [← words_trim piece] at h ⊢
  generalize trim piece = t at *
  by_cases hany : t.any isBlank = true
  · obtain ⟨init, c, hinit, hc, hne, hname⟩ := exists_last_word hany hfirst hlast
    have hsplit : t.rdropWhile (!isBlank ·) ++ t.rtakeWhile (!isBlank ·) = t :=
      List.rdropWhile_append_rtakeWhile
    rw [hinit, List.append_assoc, List.singleton_append] at hsplit
    have hwords : words t = words init ++ [t.rtakeWhile (!isBlank ·)] := by
      calc words t = words (init ++ c :: t.rtakeWhile (!isBlank ·)) := by rw [hsplit]
        _ = words init ++ [t.rtakeWhile (!isBlank ·)] := by
          rw [words_append_cons hc, words_of_isToken hname]
    have htype : words (trimEnd (t.rdropWhile (!isBlank ·))) = words init := by
      rw [words_trimEnd, hinit, words_append_of_blank_right (List.forall_mem_singleton.mpr hc)]
    rw [ofPiece_of_blank hany, spelling, htype, hwords, splitWords_concat hne]
  · have hword : IsToken t := by
      refine ⟨?_, by simpa using hany⟩
      rintro rfl
      exact h rfl
    rw [ofPiece, if_neg hany, spelling, words_of_isToken hword]
    rfl

/-! ## 3. Lists of parameters -/

theorem trim_eq_void_iff {body : Text} :
    trim body = "void".toList ↔ fields body = [["void".toList]] := by
  have hvoid : IsToken "void".toList :=
    isToken_of_mem_words (show "void".toList ∈ words "void".toList by decide)
  constructor
  · intro h
    have hcomma : ',' ∉ body := by
      intro hmem
      have hin : ',' ∈ trim body := mem_trim (by decide) hmem
      rw [h] at hin
      exact absurd hin (by decide)
    rw [fields, List.splitOn_eq_singleton hcomma, List.map_singleton, ← words_trim, h,
      words_of_isToken hvoid]
  · intro h
    obtain ⟨piece, hpiece, hwords⟩ := List.map_eq_singleton_iff.mp h
    rw [eq_of_splitOn_eq_singleton hpiece] at hwords
    exact trim_eq_of_words_eq hwords

theorem map_spelling_parseList (body : Text) :
    (parseList body).map spelling =
      if fields body = [["void".toList]] then []
      else ((fields body).filter (!·.isEmpty)).map splitWords := by
  rw [parseList]
  simp only [beq_iff_eq, trim_eq_void_iff]
  split
  · rfl
  · rw [fields]
    induction body.splitOn ',' with
    | nil => rfl
    | cons piece rest ih =>
      by_cases hblank : words piece = []
      · have htrim := trim_eq_nil_iff.mpr hblank
        simpa [htrim, hblank] using ih
      · have htrim := mt trim_eq_nil_iff.mp hblank
        simpa [htrim, hblank, spelling_ofPiece hblank] using ih

/-- Lists with blank fields at the same places are the same if their other fields are. -/
theorem eq_of_filter_eq {l m : List (List Text)} (hblank : l.map List.isEmpty = m.map List.isEmpty)
    (h : l.filter (!·.isEmpty) = m.filter (!·.isEmpty)) : l = m := by
  induction l generalizing m with
  | nil => exact (List.map_eq_nil_iff.mp hblank.symm).symm
  | cons ws l ih =>
    cases m with
    | nil => cases hblank
    | cons vs m =>
      obtain ⟨hfirst, hrest⟩ := List.cons.inj hblank
      cases ws with
      | nil =>
        obtain rfl := List.isEmpty_iff.mp hfirst.symm
        rw [ih hrest h]
      | cons w ws =>
        cases vs with
        | nil => cases hfirst
        | cons v vs =>
          obtain ⟨hsame, hothers⟩ := List.cons.inj h
          rw [hsame, ih hrest hothers]

theorem map_joinWords_fields (body : Text) :
    (((fields body).filter (!·.isEmpty)).map splitWords).map joinWords =
      (fields body).filter (!·.isEmpty) := by
  have hback : ∀ ws ∈ (fields body).filter (!·.isEmpty), (joinWords ∘ splitWords) ws = id ws := by
    intro ws hws
    obtain ⟨piece, -, rfl⟩ := List.mem_map.mp (List.mem_filter.mp hws).1
    exact joinWords_splitWords fun w hw => (isToken_of_mem_words hw).ne_nil
  rw [List.map_map, List.map_congr_left hback, List.map_id]

/-- A list that has one word gives a parameter, unless the word is `void`. -/
theorem filter_fields_ne_nil {a b : Text} (ha : fields a = [["void".toList]])
    (hblank : (fields a).map List.isEmpty = (fields b).map List.isEmpty) :
    ((fields b).filter (!·.isEmpty)).map splitWords ≠ [] := by
  rw [ha] at hblank
  obtain ⟨ws, hws, hne⟩ := List.map_eq_singleton_iff.mp hblank.symm
  simp [hws, hne]

/-- The parameters of two lists are the same, but for blanks in their types, exactly if the lists have
the same words between the commas. -/
theorem map_spelling_eq_iff {a b : Text}
    (hblank : (fields a).map List.isEmpty = (fields b).map List.isEmpty) :
    (parseList a).map spelling = (parseList b).map spelling ↔ fields a = fields b := by
  rw [map_spelling_parseList, map_spelling_parseList]
  refine ⟨fun h => ?_, fun h => by rw [h]⟩
  split at h
  · next ha =>
    split at h
    · next hb => rw [ha, hb]
    · exact absurd h.symm (filter_fields_ne_nil ha hblank)
  · split at h
    · next hb => exact absurd h (filter_fields_ne_nil hb hblank.symm)
    · refine eq_of_filter_eq hblank ?_
      rw [← map_joinWords_fields a, h, map_joinWords_fields b]

end StubGen.Parameter
