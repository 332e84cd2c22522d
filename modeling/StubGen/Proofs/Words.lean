import StubGen.Proofs.Text

/-!
# Words

The words of a text are what stands between its blanks. How many blanks there are, and which, does
not matter.

Results:

1. `words_append_cons`: the words on both sides of a blank are those of each side.
2. `words_eq_iff`: a text has the given words exactly if it consists of them, with blanks between
   them and perhaps around them.
3. `words_intercalate`: words that are joined with spaces are read back.
-/

namespace StubGen.Text

/-! ## 1. Blanks between words -/

/-- A word: some characters, none of them blank. -/
structure IsToken (w : Text) : Prop where
  ne_nil : w ≠ []
  noBlank : ∀ c ∈ w, isBlank c = false

theorem isBlank_head?_trim {t : Text} {c : Char} (h : (trim t).head? = some c) :
    isBlank c = false := by
  obtain ⟨more, hmore⟩ := List.head?_eq_some_iff.mp h
  obtain ⟨rest, hrest⟩ : trim t <+: t.dropWhile isBlank := List.rdropWhile_prefix isBlank _
  have hhead := List.head?_dropWhile_not isBlank t
  rw [← hrest, hmore] at hhead
  exact hhead

theorem isBlank_getLast?_trim {t : Text} {c : Char} (h : (trim t).getLast? = some c) :
    isBlank c = false := getLast?_rdropWhile h

/-- A text is trimmed exactly if it neither begins nor ends with a blank. -/
theorem trim_eq_self_iff {t : Text} :
    trim t = t ↔ (∀ c ∈ t.head?, isBlank c = false) ∧ ∀ c ∈ t.getLast?, isBlank c = false := by
  constructor
  · intro h
    rw [← h]
    exact ⟨fun c => isBlank_head?_trim, fun c => isBlank_getLast?_trim⟩
  · rintro ⟨hfirst, hlast⟩
    have hstart : trimStart t = t := by
      cases t with
      | nil => rfl
      | cons c rest => exact List.dropWhile_cons_of_neg (by simp [hfirst c rfl])
    rw [trim, hstart, trimEnd_eq_self hlast]

/-- A blank ends a word. -/
theorem words_append_cons {c : Char} (hc : isBlank c = true) (a b : Text) :
    words (a ++ c :: b) = words a ++ words b := by
  rw [words, List.splitOnP_append_cons a b hc, List.filter_append]
  rfl

theorem words_cons_of_blank {c : Char} (hc : isBlank c = true) (t : Text) :
    words (c :: t) = words t := words_append_cons hc [] t

/-- Blanks in front of a text add no word. -/
theorem words_append_of_blank {blanks : Text} (h : ∀ c ∈ blanks, isBlank c = true) (t : Text) :
    words (blanks ++ t) = words t := by
  induction blanks with
  | nil => rfl
  | cons c blanks ih =>
    rw [List.cons_append, words_cons_of_blank (h c List.mem_cons_self)]
    exact ih fun d hd => h d (List.mem_cons_of_mem c hd)

theorem words_of_blank {blanks : Text} (h : ∀ c ∈ blanks, isBlank c = true) : words blanks = [] := by
  have hwords := words_append_of_blank h []
  rwa [List.append_nil] at hwords

/-- Blanks behind a text add no word. -/
theorem words_append_of_blank_right {blanks : Text} (h : ∀ c ∈ blanks, isBlank c = true)
    (t : Text) : words (t ++ blanks) = words t := by
  cases blanks with
  | nil => rw [List.append_nil]
  | cons c blanks =>
    rw [words_append_cons (h c List.mem_cons_self),
      words_of_blank fun d hd => h d (List.mem_cons_of_mem c hd), List.append_nil]

theorem words_trimEnd (t : Text) : words (trimEnd t) = words t := by
  have hblank : ∀ c ∈ t.rtakeWhile isBlank, isBlank c = true := fun c => List.mem_rtakeWhile_imp
  rw [trimEnd_eq_rdropWhile, ← words_append_of_blank_right hblank, List.rdropWhile_append_rtakeWhile]

theorem words_trim (t : Text) : words (trim t) = words t := by
  rw [trim, words_trimEnd, trimStart, ← words_append_of_blank (List.all_eq_true.mp List.all_takeWhile),
    List.takeWhile_append_dropWhile]

theorem words_of_isToken {w : Text} (h : IsToken w) : words w = [w] := by
  rw [words, List.splitOnP_eq_singleton h.noBlank,
    List.filter_cons_of_pos (by simpa using h.ne_nil), List.filter_nil]

/-- A word at the start of a text is its first word, if a blank or nothing follows it. -/
theorem words_token_append {w rest : Text} (hw : IsToken w)
    (hrest : ∀ c ∈ rest.head?, isBlank c = true) : words (w ++ rest) = w :: words rest := by
  cases rest with
  | nil => rw [List.append_nil, words_of_isToken hw, words_of_blank (List.forall_mem_nil _)]
  | cons c rest =>
    have hc : isBlank c = true := hrest c rfl
    rw [words_append_cons hc, words_of_isToken hw, words_cons_of_blank hc, List.singleton_append]

/-- A character in front of a word becomes a part of it. -/
theorem words_cons_cons {c d : Char} (hc : isBlank c = false) (hd : isBlank d = false) (t : Text) :
    ∃ word ws, words (d :: t) = word :: ws ∧ word ≠ [] ∧ words (c :: d :: t) = (c :: word) :: ws := by
  obtain ⟨first, others, ht⟩ := List.exists_cons_of_ne_nil (List.splitOnP_ne_nil isBlank t)
  have hnext := splitOnP_cons_of_neg ht hd
  have hboth := splitOnP_cons_of_neg hnext hc
  refine ⟨d :: first, others.filter (!·.isEmpty), ?_, List.cons_ne_nil d first, ?_⟩
  · rw [words, hnext, List.filter_cons_of_pos rfl]
  · rw [words, hboth, List.filter_cons_of_pos rfl]

/-! ## 2. Texts with given words -/

/-- The text consists of the words, with blanks between them and perhaps around them. -/
inductive Spaced : List Text → Text → Prop where
  | nil {gap : Text} (hgap : ∀ c ∈ gap, isBlank c = true) : Spaced [] gap
  | cons {gap word rest : Text} {ws : List Text} (hgap : ∀ c ∈ gap, isBlank c = true)
      (hword : IsToken word) (hend : ∀ c ∈ rest.head?, isBlank c = true)
      (hrest : Spaced ws rest) : Spaced (word :: ws) (gap ++ (word ++ rest))

theorem Spaced.words_eq {ws : List Text} {t : Text} (h : Spaced ws t) : words t = ws := by
  induction h with
  | nil hgap => exact words_of_blank hgap
  | cons hgap hword hend hrest ih =>
    rw [words_append_of_blank hgap, words_token_append hword hend, ih]

theorem Spaced.cons_blank {ws : List Text} {t : Text} (h : Spaced ws t) {c : Char}
    (hc : isBlank c = true) : Spaced ws (c :: t) := by
  cases h with
  | nil hgap => exact .nil (List.forall_mem_cons.mpr ⟨hc, hgap⟩)
  | cons hgap hword hend hrest => exact .cons (List.forall_mem_cons.mpr ⟨hc, hgap⟩) hword hend hrest

/-- A character that is no blank is a word of its own, or part of the first word. -/
theorem Spaced.exists_cons {ws : List Text} {t : Text} (h : Spaced ws t) {c : Char}
    (hc : isBlank c = false) : ∃ ws', Spaced ws' (c :: t) := by
  have halone : IsToken [c] := ⟨List.cons_ne_nil c [], by simpa using hc⟩
  cases h with
  | nil hgap =>
    have hend : ∀ d ∈ t.head?, isBlank d = true := fun d hd => hgap d (List.mem_of_mem_head? hd)
    exact ⟨_, @Spaced.cons [] [c] t _ (List.forall_mem_nil _) halone hend (.nil hgap)⟩
  | @cons gap word rest ws hgap hword hend hrest =>
    cases gap with
    | nil =>
      have hjoined : IsToken (c :: word) :=
        ⟨List.cons_ne_nil c word, List.forall_mem_cons.mpr ⟨hc, hword.noBlank⟩⟩
      exact ⟨_, @Spaced.cons [] (c :: word) rest _ (List.forall_mem_nil _) hjoined hend hrest⟩
    | cons d gap =>
      have hblank : ∀ e ∈ (d :: gap ++ (word ++ rest)).head?, isBlank e = true := by
        simpa using hgap d List.mem_cons_self
      exact ⟨_, @Spaced.cons [] [c] (d :: gap ++ (word ++ rest)) _ (List.forall_mem_nil _) halone
        hblank (.cons hgap hword hend hrest)⟩

theorem spaced_words (t : Text) : Spaced (words t) t := by
  have hspaced : ∃ ws, Spaced ws t := by
    induction t with
    | nil => exact ⟨[], .nil (List.forall_mem_nil _)⟩
    | cons c t ih =>
      obtain ⟨ws, hws⟩ := ih
      cases hc : isBlank c with
      | true => exact ⟨ws, hws.cons_blank hc⟩
      | false => exact hws.exists_cons hc
  obtain ⟨ws, hws⟩ := hspaced
  rwa [hws.words_eq]

theorem words_eq_iff {t : Text} {ws : List Text} : words t = ws ↔ Spaced ws t :=
  ⟨fun h => h ▸ spaced_words t, Spaced.words_eq⟩

theorem Spaced.isToken {ws : List Text} {t : Text} (h : Spaced ws t) : ∀ w ∈ ws, IsToken w := by
  induction h with
  | nil hgap => exact List.forall_mem_nil _
  | cons hgap hword hend hrest ih => exact List.forall_mem_cons.mpr ⟨hword, ih⟩

theorem isToken_of_mem_words {t w : Text} (h : w ∈ words t) : IsToken w :=
  (spaced_words t).isToken w h

/-- Only blanks have no word. -/
theorem isBlank_of_words_eq_nil {t : Text} (h : words t = []) : ∀ c ∈ t, isBlank c = true := by
  cases words_eq_iff.mp h with
  | nil hgap => exact hgap

theorem trim_eq_nil_iff {t : Text} : trim t = [] ↔ words t = [] := by
  rw [← words_trim]
  refine ⟨fun h => by rw [h]; rfl, fun h => ?_⟩
  cases htrim : trim t with
  | nil => rfl
  | cons c rest =>
    have hfirst : isBlank c = false := isBlank_head?_trim (by rw [htrim, List.head?_cons])
    rw [isBlank_of_words_eq_nil h c (by rw [htrim]; exact List.mem_cons_self)] at hfirst
    cases hfirst

theorem trim_append_of_isToken {gap w : Text} (hgap : ∀ c ∈ gap, isBlank c = true)
    (hw : IsToken w) : trim (gap ++ w) = w := by
  obtain ⟨c, word, rfl⟩ := List.exists_cons_of_ne_nil hw.ne_nil
  have hc : isBlank c = false := hw.noBlank c List.mem_cons_self
  have hstart : trimStart (gap ++ c :: word) = c :: word :=
    dropWhile_append_cons_of_stop hgap hc word
  rw [trim, hstart, trimEnd_eq_self fun d hd => hw.noBlank d (List.mem_of_getLast? hd)]

/-- A text with one word is that word once it is trimmed. -/
theorem trim_eq_of_words_eq {t w : Text} (h : words t = [w]) : trim t = w := by
  cases words_eq_iff.mp h with
  | @cons gap word rest ws hgap hword hend hrest =>
    cases hrest with
    | nil hblank =>
      rw [← List.append_assoc, trim_append_of_blank_right hblank]
      exact trim_append_of_isToken hgap hword

/-! ## 3. Joined words -/

theorem of_mem_intercalate {separator : Text} {ws : List Text} {c : Char}
    (h : c ∈ separator.intercalate ws) : c ∈ separator ∨ ∃ w ∈ ws, c ∈ w := by
  induction ws with
  | nil => exact absurd h List.not_mem_nil
  | cons w ws ih =>
    cases ws with
    | nil =>
      rw [List.intercalate_singleton] at h
      exact .inr ⟨w, List.mem_cons_self, h⟩
    | cons v ws =>
      rw [List.intercalate_cons_cons, List.mem_append, List.mem_append] at h
      rcases h with (h | h) | h
      · exact .inr ⟨w, List.mem_cons_self, h⟩
      · exact .inl h
      · refine (ih h).imp_right ?_
        rintro ⟨u, hu, hc⟩
        exact ⟨u, List.mem_cons_of_mem w hu, hc⟩

/-- Words that are joined with spaces are read back. -/
theorem words_intercalate {ws : List Text} (h : ∀ w ∈ ws, IsToken w) :
    words ([' '].intercalate ws) = ws := by
  induction ws with
  | nil => rfl
  | cons w ws ih =>
    obtain ⟨hw, hws⟩ := List.forall_mem_cons.mp h
    cases ws with
    | nil => rw [List.intercalate_singleton, words_of_isToken hw]
    | cons v ws =>
      rw [List.intercalate_cons_cons, List.append_assoc, List.singleton_append,
        words_append_cons (by decide), ih hws, words_of_isToken hw, List.singleton_append]

end StubGen.Text
