import StubGen.ClassBody
import StubGen.Proofs.Declaration
import StubGen.Proofs.Parameters

/-!
# Wrapped declarations

A declaration is wrapped at a blank of its parameter list by putting a line end in its place. The
lines are joined without anything between them, so the declaration that is read then lacks these
blanks. That leaves the parameters alone, unless two words had nothing else between them.

Results:

1. `dropLineEnds_append_cons`, `joinToClose_lines`: the lines of a wrapped declaration, joined.
2. `KeepsFields.cons_inField`, `WrapsTo.keepsFields`: the joined list has the same words between the
   commas exactly if no two of them are glued together.
3. `parse_wrapped_iff`: what is read from a wrapped declaration.
4. `parse_wrapped_glued`: wrapped between the type and the name, a parameter loses its name; and a
   parenthesis that closes in front of the list ends the declaration too early.
-/

namespace StubGen

open Text

/-! ## 1. Line ends -/

namespace Text

/-- The text without its line ends. -/
def dropLineEnds : Text → Text
  | [] => []
  | c :: rest =>
    if c = '\n' ∨ c = '\r' ∧ rest.head? = some '\n' then dropLineEnds rest
    else c :: dropLineEnds rest

theorem dropLineEnds_cons_of_ne {c : Char} (hfeed : c ≠ '\n') (hreturn : c ≠ '\r') (t : Text) :
    dropLineEnds (c :: t) = c :: dropLineEnds t := by
  rw [dropLineEnds, if_neg]
  rintro (h | ⟨h, -⟩)
  · exact hfeed h
  · exact hreturn h

theorem dropLineEnds_newline (t : Text) : dropLineEnds ('\n' :: t) = dropLineEnds t := by
  rw [dropLineEnds, if_pos (.inl rfl)]

theorem dropLineEnds_return_newline (t : Text) :
    dropLineEnds ('\r' :: '\n' :: t) = dropLineEnds t := by
  rw [dropLineEnds, if_pos (.inr ⟨rfl, rfl⟩), dropLineEnds_newline]

theorem mem_of_mem_dropLineEnds {t : Text} {c : Char} (h : c ∈ dropLineEnds t) : c ∈ t := by
  induction t with
  | nil => exact h
  | cons d t ih =>
    rw [dropLineEnds] at h
    split at h
    · exact List.mem_cons_of_mem d (ih h)
    · rcases List.mem_cons.mp h with rfl | h
      · exact List.mem_cons_self
      · exact List.mem_cons_of_mem d (ih h)

/-- No line end reaches over a character other than a line feed. -/
theorem dropLineEnds_append_cons {c : Char} (hc : c ≠ '\n') (a b : Text) :
    dropLineEnds (a ++ c :: b) = dropLineEnds a ++ dropLineEnds (c :: b) := by
  induction a with
  | nil => rfl
  | cons d a ih =>
    have hhead : (a ++ c :: b).head? = some '\n' ↔ a.head? = some '\n' := by
      cases a with
      | nil => simp [hc]
      | cons e a => rfl
    simp only [List.cons_append, dropLineEnds, hhead, ih]
    split
    · rfl
    · rfl

theorem dropLineEnds_of_not_mem {t : Text} (h : '\n' ∉ t) : dropLineEnds t = t := by
  induction t with
  | nil => rfl
  | cons c t ih =>
    rw [List.mem_cons, not_or] at h
    rw [dropLineEnds, if_neg, ih h.2]
    rintro (hc | ⟨-, hnext⟩)
    · exact h.1 hc.symm
    · exact h.2 (List.mem_of_mem_head? hnext)

/-- One or more line ends, and nothing else. -/
structure IsLineEnds (t : Text) : Prop where
  ne_nil : t ≠ []
  dropped : dropLineEnds t = []

theorem IsLineEnds.feed : IsLineEnds ['\n'] := ⟨by decide, by rfl⟩

theorem IsLineEnds.returnFeed : IsLineEnds ['\r', '\n'] := ⟨by decide, by rfl⟩

/-- Line ends in front of a text are dropped. -/
theorem dropLineEnds_append {ends : Text} (h : dropLineEnds ends = []) (t : Text) :
    dropLineEnds (ends ++ t) = dropLineEnds t := by
  induction ends with
  | nil => rfl
  | cons c ends ih =>
    rw [dropLineEnds] at h
    split at h
    · next hend =>
      rw [List.cons_append, dropLineEnds, if_pos, ih h]
      refine hend.imp_right (And.imp_right fun hnext => ?_)
      rw [List.head?_append, hnext, Option.some_or]
    · cases h

/-- Each character of a line end is a line feed or a carriage return. -/
theorem eq_of_mem_lineEnds {ends : Text} (h : dropLineEnds ends = []) {c : Char} (hc : c ∈ ends) :
    c = '\n' ∨ c = '\r' := by
  induction ends with
  | nil => cases hc
  | cons d ends ih =>
    rw [dropLineEnds] at h
    split at h
    · next hend =>
      rcases List.mem_cons.mp hc with rfl | hc
      · exact hend.imp_right And.left
      · exact ih h hc
    · cases h

/-- The first line of a text is kept, but for its line end. -/
theorem dropLineEnds_line {line : Text} (h : '\n' ∉ line) (rest : Text) :
    dropLineEnds (line ++ '\n' :: rest) = dropReturn line ++ dropLineEnds rest := by
  rcases List.eq_nil_or_concat line with rfl | ⟨init, last, rfl⟩
  · exact dropLineEnds_newline rest
  · rw [List.concat_eq_append, List.mem_append, List.mem_singleton, not_or] at h
    rw [List.concat_eq_append, List.append_assoc, List.singleton_append,
      dropLineEnds_append_cons (Ne.symm h.2), dropLineEnds_of_not_mem h.1]
    by_cases hreturn : last = '\r'
    · rw [hreturn, dropLineEnds_return_newline, dropReturn_append_return]
    · rw [dropLineEnds_cons_of_ne (Ne.symm h.2) hreturn, dropLineEnds_newline,
        dropReturn_concat (Ne.symm hreturn), List.append_assoc, List.singleton_append]

theorem dropLineEnds_unlines_append {ls : List Text} {last : Text} (hls : ∀ l ∈ ls, '\n' ∉ l)
    (hlast : '\n' ∉ last) :
    dropLineEnds (unlines ls ++ last) = (ls.map dropReturn).flatten ++ last := by
  induction ls with
  | nil => exact dropLineEnds_of_not_mem hlast
  | cons line ls ih =>
    rw [unlines_cons, List.append_assoc, List.cons_append,
      dropLineEnds_line (hls line List.mem_cons_self),
      ih fun l hl => hls l (List.mem_cons_of_mem line hl), List.map_cons, List.flatten_cons,
      List.append_assoc]

theorem exists_dropReturn_append_cons {c : Char} (hc : c ≠ '\r') (a b : Text) :
    ∃ b', dropReturn (a ++ c :: b) = a ++ c :: b' ∧ b' <+: b := by
  rcases eq_dropReturn (a ++ c :: b) with h | h
  · exact ⟨b, h.symm, List.prefix_rfl⟩
  · rcases List.eq_nil_or_concat b with rfl | ⟨init, last, rfl⟩
    · obtain ⟨-, hlast⟩ := List.append_inj' h rfl
      exact absurd (List.cons.inj hlast).1 hc
    · rw [List.concat_eq_append] at h ⊢
      have hsplit : (a ++ c :: init) ++ [last] = dropReturn (a ++ c :: (init ++ [last])) ++ ['\r'] := by
        rw [← h, List.append_assoc, List.cons_append]
      obtain ⟨hinit, -⟩ := List.append_inj' hsplit rfl
      exact ⟨init, hinit.symm, List.prefix_append _ _⟩

end Text

/-- Lines without a closing parenthesis are joined with the one that has it. -/
theorem joinToClose_append {ls : List Text} (hls : ∀ l ∈ ls, ')' ∉ l) {last : Text}
    (hlast : ')' ∈ last) (following : List Text) :
    joinToClose (ls ++ last :: following) = some (ls.flatten ++ last, ls.length) := by
  induction ls with
  | nil =>
    rw [List.nil_append, joinToClose, if_pos (List.contains_iff_mem.mpr hlast)]
    rfl
  | cons line ls ih =>
    obtain ⟨hline, hrest⟩ := List.forall_mem_cons.mp hls
    rw [List.cons_append, joinToClose, if_neg (mt List.contains_iff_mem.mp hline), ih hrest]
    simp

/-- The lines of a text up to its first closing parenthesis are joined to the text without its line
ends. -/
theorem joinToClose_lines {t tail : Text} (hclose : ')' ∉ t) (htail : '\n' ∉ tail)
    (following : List Text) : ∃ tail' extra,
      joinToClose (lines (t ++ ')' :: tail) ++ following) =
        some (dropLineEnds t ++ ')' :: tail', extra) := by
  obtain ⟨ls, last, rfl, hls, hlast⟩ := exists_unlines_append t
  have hline : '\n' ∉ last ++ ')' :: tail := by
    rw [List.mem_append, List.mem_cons, not_or, not_or]
    exact ⟨hlast, by decide, htail⟩
  have hlines : lines (unlines ls ++ last ++ ')' :: tail) =
      ls.map dropReturn ++ [dropReturn (last ++ ')' :: tail)] := by
    rw [lines, List.append_assoc, splitOn_unlines_append hls, List.splitOn_eq_singleton hline,
      List.map_append, List.map_singleton]
  have hopen : ∀ line ∈ ls.map dropReturn, ')' ∉ line := by
    intro line hmem hc
    obtain ⟨l, hl, rfl⟩ := List.mem_map.mp hmem
    refine hclose (List.mem_append_left _ (List.mem_flatMap.mpr ⟨l, hl, List.mem_append_left _ ?_⟩))
    exact (dropReturn_isPrefix l).subset hc
  obtain ⟨tail', hdrop, -⟩ := exists_dropReturn_append_cons (by decide : ')' ≠ '\r') last tail
  refine ⟨tail', (ls.map dropReturn).length, ?_⟩
  rw [hlines, hdrop, List.append_assoc, List.singleton_append, joinToClose_append hopen (by simp),
    dropLineEnds_unlines_append hls hlast, List.append_assoc]

/-! ## 2. Wrapped parameter lists -/

/-- The text is the list with some of its blanks replaced by line ends. -/
inductive WrapsTo : (list text : Text) → Prop where
  | nil : WrapsTo [] []
  | keep (c : Char) {list text : Text} (h : WrapsTo list text) : WrapsTo (c :: list) (c :: text)
  | wrap (gap ends : Text) {list text : Text} (hne : gap ≠ [])
      (hgap : ∀ c ∈ gap, isBlank c = true) (hends : IsLineEnds ends) (h : WrapsTo list text) :
    WrapsTo (gap ++ list) (ends ++ text)

open Parameter

/-- Two characters that are neither blanks nor commas have nothing but line ends between them. -/
def GluesWords (text : Text) : Prop :=
  ∃ before c ends d after, text = before ++ c :: (ends ++ d :: after) ∧ inField c = true ∧
    inField d = true ∧ IsLineEnds ends

theorem dropLineEnds_cons_of_inField {c : Char} (hc : inField c = true) (t : Text) :
    dropLineEnds (c :: t) = c :: dropLineEnds t := by
  refine dropLineEnds_cons_of_ne ?_ ?_ t
  · rintro rfl
    exact absurd hc (by decide)
  · rintro rfl
    exact absurd hc (by decide)

theorem startsField_dropLineEnds {t : Text} (h : startsField t = true) :
    startsField (dropLineEnds t) = true := by
  cases t with
  | nil => cases h
  | cons c t =>
    rw [dropLineEnds_cons_of_inField h]
    exact h

theorem exists_of_startsField_dropLineEnds {t : Text} (h : startsField (dropLineEnds t) = true) :
    ∃ ends d after, t = ends ++ d :: after ∧ inField d = true ∧ dropLineEnds ends = [] := by
  induction t with
  | nil => cases h
  | cons c t ih =>
    rw [dropLineEnds] at h
    split at h
    · next hend =>
      obtain ⟨ends, d, after, rfl, hd, hends⟩ := ih h
      refine ⟨c :: ends, d, after, rfl, hd, ?_⟩
      rw [dropLineEnds, if_pos, hends]
      refine hend.imp_right (And.imp_right fun hnext => ?_)
      cases ends with
      | nil =>
        obtain rfl : d = '\n' := Option.some.inj hnext
        exact absurd hd (by decide)
      | cons e ends => exact hnext
    · exact ⟨[], c, t, rfl, h, rfl⟩

/-- No character of a line end is part of a word. -/
theorem inField_lineEnds {ends : Text} (h : IsLineEnds ends) : ∀ c ∈ ends, inField c = false := by
  intro c hc
  rcases eq_of_mem_lineEnds h.dropped hc with rfl | rfl
  · rfl
  · rfl

theorem startsField_append_of_not {a : Text} (hne : a ≠ []) (h : ∀ c ∈ a, inField c = false)
    (t : Text) : startsField (a ++ t) = false := by
  obtain ⟨c, rest, rfl⟩ := List.exists_cons_of_ne_nil hne
  exact h c List.mem_cons_self

/-- There are line ends and then a word, exactly if a word starts there once they are dropped. -/
theorem exists_ends_iff {t : Text} :
    (∃ ends d after, t = ends ++ d :: after ∧ inField d = true ∧ IsLineEnds ends) ↔
      startsField t = false ∧ startsField (dropLineEnds t) = true := by
  constructor
  · rintro ⟨ends, d, after, rfl, hd, hends⟩
    refine ⟨startsField_append_of_not hends.ne_nil (inField_lineEnds hends) _, ?_⟩
    rw [dropLineEnds_append hends.dropped, dropLineEnds_cons_of_inField hd]
    exact hd
  · rintro ⟨hnot, hstart⟩
    obtain ⟨ends, d, after, rfl, hd, hends⟩ := exists_of_startsField_dropLineEnds hstart
    refine ⟨ends, d, after, rfl, hd, ?_, hends⟩
    rintro rfl
    rw [startsField, List.nil_append, List.head?_cons, Option.any_some, hd] at hnot
    cases hnot

theorem gluesWords_cons {c : Char} {t : Text} :
    GluesWords (c :: t) ↔
      (inField c = true ∧ startsField t = false ∧ startsField (dropLineEnds t) = true) ∨
        GluesWords t := by
  rw [← exists_ends_iff]
  constructor
  · rintro ⟨before, x, ends, d, after, heq, hx, hrest⟩
    cases before with
    | nil =>
      obtain ⟨rfl, rfl⟩ := List.cons.inj heq
      exact .inl ⟨hx, ends, d, after, rfl, hrest⟩
    | cons b before =>
      obtain ⟨-, rfl⟩ := List.cons.inj heq
      exact .inr ⟨before, x, ends, d, after, rfl, hx, hrest⟩
  · rintro (⟨hc, ends, d, after, rfl, hrest⟩ | ⟨before, x, ends, d, after, rfl, hrest⟩)
    · exact ⟨[], c, ends, d, after, rfl, hc, hrest⟩
    · exact ⟨c :: before, x, ends, d, after, rfl, hrest⟩

theorem gluesWords_cons_of_not {c : Char} (hc : inField c = false) {t : Text} :
    GluesWords (c :: t) ↔ GluesWords t := by
  rw [gluesWords_cons, hc, or_iff_right]
  exact fun h => Bool.noConfusion h.1

theorem gluesWords_append_of_not {a : Text} (h : ∀ c ∈ a, inField c = false) (t : Text) :
    GluesWords (a ++ t) ↔ GluesWords t := by
  induction a with
  | nil => rfl
  | cons c a ih =>
    obtain ⟨hc, hrest⟩ := List.forall_mem_cons.mp h
    exact (gluesWords_cons_of_not hc).trans (ih hrest)

theorem not_gluesWords_nil : ¬ GluesWords [] := by
  rintro ⟨before, c, ends, d, after, heq, -⟩
  cases before with
  | nil => cases heq
  | cons b before => cases heq

instance decidableGluesWords : (t : Text) → Decidable (GluesWords t)
  | [] => isFalse not_gluesWords_nil
  | _ :: t =>
    have := decidableGluesWords t
    decidable_of_decidable_of_iff gluesWords_cons.symm

theorem inField_of_isBlank {c : Char} (hc : isBlank c = true) : inField c = false := by
  rw [inField, hc]
  rfl

theorem fields_dropLineEnds_blank {c : Char} (hc : isBlank c = true) (t : Text) :
    fields (dropLineEnds (c :: t)) = fields (dropLineEnds t) := by
  rw [dropLineEnds]
  split
  · rfl
  · exact fields_blank hc _

namespace WrapsTo

variable {list text : Text}

/-- A part of the list that is not wrapped. -/
theorem keepAll (part : Text) (h : WrapsTo list text) : WrapsTo (part ++ list) (part ++ text) := by
  induction part with
  | nil => exact h
  | cons c part ih => exact .keep c ih

theorem refl (list : Text) : WrapsTo list list := by
  have h := keepAll list .nil
  rwa [List.append_nil] at h

theorem startsField_eq (h : WrapsTo list text) : startsField text = startsField list := by
  cases h with
  | nil => rfl
  | keep c h => rfl
  | wrap gap ends hne hgap hends h =>
    rw [startsField_append_of_not hends.ne_nil (inField_lineEnds hends),
      startsField_append_of_not hne fun c hc => inField_of_isBlank (hgap c hc)]

/-- The joined list has the same words between the commas, unless words are glued together; and it
has blank fields at the same places in any case. -/
def KeepsFields (list text : Text) : Prop :=
  (fields (dropLineEnds text)).map List.isEmpty = (fields list).map List.isEmpty ∧
    (fields (dropLineEnds text) = fields list ↔ ¬ GluesWords text)

/-- One more character of a word in front of both: it joins the word that follows it, if one does,
or is a word alone. -/
theorem KeepsFields.cons_inField {c : Char} (hc : inField c = true)
    (hstarts : startsField text = startsField list) (h : KeepsFields list text) :
    KeepsFields (c :: list) (c :: text) := by
  rw [KeepsFields] at h ⊢
  rw [dropLineEnds_cons_of_inField hc, gluesWords_cons]
  cases hlist : startsField list with
  | true =>
    have htext := hstarts.trans hlist
    obtain ⟨word, ws, others, hfields, -, hcons⟩ := fields_cons_within hc hlist
    obtain ⟨word', ws', others', hfields', -, hcons'⟩ :=
      fields_cons_within hc (startsField_dropLineEnds htext)
    rw [hfields, hfields'] at h
    rw [hcons, hcons', htext]
    simpa using h
  | false =>
    have htext := hstarts.trans hlist
    obtain ⟨ws, others, hfields, hcons⟩ := fields_cons_alone hc hlist
    cases hjoined : startsField (dropLineEnds text) with
    | true =>
      -- Here the character is glued to a word that it was apart from: the lists differ for good.
      obtain ⟨word', ws', others', hfields', hne, hcons'⟩ := fields_cons_within hc hjoined
      rw [hfields, hfields'] at h
      rw [hcons, hcons', htext]
      refine ⟨by simpa using (List.cons.inj h.1).2, ?_⟩
      simp [hc, hne]
    | false =>
      obtain ⟨ws', others', hfields', hcons'⟩ := fields_cons_alone hc hjoined
      rw [hfields, hfields'] at h
      rw [hcons, hcons', htext]
      refine ⟨by simpa using (List.cons.inj h.1).2, ?_⟩
      simpa using h.2

theorem keepsFields (h : WrapsTo list text) : KeepsFields list text := by
  induction h with
  | nil => exact ⟨rfl, iff_of_true rfl not_gluesWords_nil⟩
  | @keep c list text h ih =>
    cases hc : inField c with
    | true => exact ih.cons_inField hc h.startsField_eq
    | false =>
      rw [KeepsFields, gluesWords_cons_of_not hc]
      by_cases hcomma : c = ','
      · subst hcomma
        rw [dropLineEnds_cons_of_ne (by decide) (by decide), fields_comma, fields_comma,
          List.map_cons, List.map_cons, List.cons_inj_right, List.cons_inj_right]
        exact ih
      · rw [inField, Bool.and_eq_false_iff, bne_eq_false_iff_eq, or_iff_left hcomma,
          Bool.not_eq_false'] at hc
        rw [fields_dropLineEnds_blank hc, fields_blank hc]
        exact ih
  | wrap gap ends hne hgap hends h ih =>
    rw [KeepsFields, dropLineEnds_append hends.dropped, fields_append_of_blank hgap,
      gluesWords_append_of_not (inField_lineEnds hends)]
    exact ih

theorem close_not_mem (h : WrapsTo list text) (hlist : ')' ∉ list) : ')' ∉ text := by
  induction h with
  | nil => exact hlist
  | keep c h ih =>
    rw [List.mem_cons, not_or] at hlist ⊢
    exact ⟨hlist.1, ih hlist.2⟩
  | wrap gap ends hne hgap hends h ih =>
    rw [List.mem_append, not_or] at hlist ⊢
    refine ⟨fun hc => ?_, ih hlist.2⟩
    exact absurd (eq_of_mem_lineEnds hends.dropped hc) (by decide)

end WrapsTo

/-! ## 3. Reading a wrapped declaration -/

section

variable {head text tail : Text} (hhead : '\n' ∉ head) (htext : ')' ∉ text)

include hhead htext

/-- The lines of a wrapped declaration are joined to the declaration without the line ends. -/
theorem joinWrapped_lines (hclose : ')' ∉ head) (htail : '\n' ∉ tail) (following : List Text) :
    ∃ tail' extra, joinWrapped (lines (head ++ '(' :: (text ++ ')' :: tail)) ++ following) =
      .ok (head ++ '(' :: (dropLineEnds text ++ ')' :: tail'), extra) := by
  have hnone : ')' ∉ head ++ '(' :: text := by
    rw [List.mem_append, List.mem_cons, not_or, not_or]
    exact ⟨hclose, by decide, htext⟩
  obtain ⟨tail', extra, hjoin⟩ := joinToClose_lines hnone htail following
  rw [dropLineEnds_append_cons (by decide), dropLineEnds_of_not_mem hhead,
    dropLineEnds_cons_of_ne (by decide) (by decide)] at hjoin
  simp only [List.append_assoc, List.cons_append] at hjoin
  exact ⟨tail', extra, by rw [joinWrapped, hjoin]⟩

/-- A closing parenthesis in front of the list ends the declaration with its first line. -/
theorem joinWrapped_first_line (hclose : ')' ∈ head) (hbroken : '\n' ∈ text)
    (following : List Text) :
    ∃ part, joinWrapped (lines (head ++ '(' :: (text ++ ')' :: tail)) ++ following) =
      .ok (head ++ '(' :: part, 0) ∧ ')' ∉ part := by
  obtain ⟨first, rest, rfl, hfirst⟩ := List.eq_append_cons_of_mem hbroken
  have hline : '\n' ∉ head ++ '(' :: first := by
    rw [List.mem_append, List.mem_cons, not_or, not_or]
    exact ⟨hhead, by decide, hfirst⟩
  obtain ⟨part, hdrop, hpart⟩ := exists_dropReturn_append_cons (by decide : '(' ≠ '\r') head first
  have hsplit : head ++ '(' :: (first ++ '\n' :: rest ++ ')' :: tail) =
      (head ++ '(' :: first) ++ '\n' :: (rest ++ ')' :: tail) := by simp
  refine ⟨part, ?_, fun hc => htext (List.mem_append_left _ (hpart.subset hc))⟩
  rw [hsplit, lines_append_cons, lines_of_not_mem hline, hdrop, joinWrapped, List.singleton_append,
    List.cons_append, joinToClose, if_pos (List.contains_iff_mem.mpr (List.mem_append_left _ hclose))]

end

/-- A declaration of one line is wrapped within its parameter list. If no parenthesis closes in front
of the list, the joined lines have the same return type and the same name, and they have the same
parameters, but for blanks within the types, exactly if no two words are glued together. If one does,
only the first line is taken, and it is no declaration. -/
theorem parse_wrapped_iff {head list tail text : Text} {d : Declaration}
    (hparse : Declaration.parse (head ++ '(' :: (list ++ ')' :: tail)) = .ok d)
    (hhead : '(' ∉ head) (hlist : ')' ∉ list)
    (hline : '\n' ∉ head ++ '(' :: (list ++ ')' :: tail)) (hwraps : WrapsTo list text)
    (hbroken : '\n' ∈ text) (following : List Text) :
    ∃ signature extra,
      joinWrapped (lines (head ++ '(' :: (text ++ ')' :: tail)) ++ following) =
        .ok (signature, extra) ∧
      (')' ∈ head → extra = 0 ∧
        Declaration.parse signature = .error (.malformedSignature (trim signature))) ∧
      (')' ∉ head → ∃ d', Declaration.parse signature = .ok d' ∧
        d'.returnType = d.returnType ∧ d'.name = d.name ∧
        (d'.parameters.map spelling = d.parameters.map spelling ↔ ¬ GluesWords text)) := by
  simp only [List.mem_append, List.mem_cons, not_or] at hline
  obtain ⟨hfeed, -, -, -, htail⟩ := hline
  have htext := hwraps.close_not_mem hlist
  by_cases hclose : ')' ∈ head
  · obtain ⟨part, hjoin, hpart⟩ := joinWrapped_first_line hfeed htext hclose hbroken following
    refine ⟨_, 0, hjoin, fun _ => ⟨rfl, ?_⟩, fun hnone => absurd hclose hnone⟩
    refine Declaration.parse_eq_error_iff.mpr ⟨?_, rfl⟩
    rw [Declaration.parse?, Declaration.splitLine?_append_open hhead,
      if_neg (mt List.contains_iff_mem.mp hpart)]
    rfl
  · obtain ⟨tail', extra, hjoin⟩ := joinWrapped_lines hfeed htext hclose htail following
    refine ⟨_, extra, hjoin, fun hsome => absurd hsome hclose, fun _ => ?_⟩
    -- The head of the joined lines is the old one, so only the parameters remain to be compared.
    obtain ⟨head', list', hsplit, hparts⟩ := Declaration.parse_eq_ok_iff.mp hparse
    have hsame := Declaration.splitLine?_eq_some_iff.mpr ⟨tail, rfl, hhead, hlist⟩
    rw [hsplit] at hsame
    cases hsame
    obtain ⟨word, hlast, hname, rfl⟩ := Declaration.ofParts?_eq_some_iff.mp hparts
    have hjoined : ')' ∉ dropLineEnds text := fun hc => htext (mem_of_mem_dropLineEnds hc)
    refine ⟨_, Declaration.parse_eq_ok_iff.mpr ⟨head, dropLineEnds text,
      Declaration.splitLine?_eq_some_iff.mpr ⟨tail', rfl, hhead, hjoined⟩,
      Declaration.ofParts?_eq_some_iff.mpr ⟨word, hlast, hname, rfl⟩⟩, rfl, rfl, ?_⟩
    rw [map_spelling_eq_iff hwraps.keepsFields.1]
    exact hwraps.keepsFields.2

/-- Wrapped at one of two blanks and at both blanks behind a comma, with either kind of line end. -/
theorem parse_wrapped_commas :
    let list := "const  char* a,  int b".toList
    let text := "const\n char* a,\r\nint b".toList
    let d : Declaration := ⟨"void".toList, ['f'],
      [⟨"const  char*".toList, ['a']⟩, ⟨"int".toList, ['b']⟩], '(' :: list ++ [')'], false⟩
    let d' : Declaration := ⟨"void".toList, ['f'],
      [⟨"const char*".toList, ['a']⟩, ⟨"int".toList, ['b']⟩], "(const char* a,int b)".toList, false⟩
    Declaration.parse ("void f".toList ++ '(' :: (list ++ ')' :: [';'])) = .ok d ∧
      WrapsTo list text ∧ ¬ GluesWords text ∧
      joinWrapped (lines ("void f".toList ++ '(' :: (text ++ ')' :: [';'])) ++ [['x']]) =
        .ok ("void f(const char* a,int b);".toList, 2) ∧
      Declaration.parse "void f(const char* a,int b);".toList = .ok d' ∧
      d'.parameters.map spelling = d.parameters.map spelling := by
  intro list text d d'
  have hparse : Declaration.parse ("void f".toList ++ '(' :: (list ++ ')' :: [';'])) = .ok d := by rfl
  have hwraps : WrapsTo list text :=
    .keepAll "const".toList (.wrap [' '] ['\n'] (by decide) (List.all_eq_true.mp (by decide)) .feed
      (.keepAll " char* a,".toList (.wrap [' ', ' '] ['\r', '\n'] (by decide)
        (List.all_eq_true.mp (by decide)) .returnFeed (.refl "int b".toList))))
  have hglues : ¬ GluesWords text := by decide +kernel
  obtain ⟨signature, extra, hjoin, -, hopen⟩ := parse_wrapped_iff hparse (by decide +kernel)
    (by decide +kernel) (by decide +kernel) hwraps (by decide +kernel) [['x']]
  obtain ⟨read, hread, -, -, hsame⟩ := hopen (by decide +kernel)
  have hlines : joinWrapped (lines ("void f".toList ++ '(' :: (text ++ ')' :: [';'])) ++ [['x']]) =
      .ok ("void f(const char* a,int b);".toList, 2) := by rfl
  have hd : Declaration.parse "void f(const char* a,int b);".toList = .ok d' := by rfl
  rw [hlines] at hjoin
  cases hjoin
  rw [hd] at hread
  cases hread
  exact ⟨hparse, hwraps, hglues, hlines, hd, hsame.mpr hglues⟩

/-- Wrapped between its type and its name, a parameter has neither any more; and a declaration whose
first line has a closing parenthesis already is cut off there. -/
theorem parse_wrapped_glued :
    (Declaration.parse "int f(int a)".toList =
        .ok ⟨"int".toList, ['f'], [⟨"int".toList, ['a']⟩], "(int a)".toList, false⟩ ∧
      WrapsTo "int a".toList "int\na".toList ∧
      joinWrapped (lines "int f(int\na)".toList) = .ok ("int f(inta)".toList, 1) ∧
      Declaration.parse "int f(inta)".toList =
        .ok ⟨"int".toList, ['f'], [⟨"inta".toList, []⟩], "(inta)".toList, false⟩) ∧
    Declaration.parse "a) f(X x, Y y)".toList =
        .ok ⟨"a)".toList, ['f'], [⟨['X'], ['x']⟩, ⟨['Y'], ['y']⟩], "(X x, Y y)".toList, false⟩ ∧
      WrapsTo "X x, Y y".toList "X x,\nY y".toList ∧
      joinWrapped (lines "a) f(X x,\nY y)".toList) = .ok ("a) f(X x,".toList, 0) ∧
      Declaration.parse "a) f(X x,".toList = .error (.malformedSignature "a) f(X x,".toList) := by
  have hwrap (list : Text) : WrapsTo (' ' :: list) ('\n' :: list) :=
    .wrap [' '] ['\n'] (by decide) (List.all_eq_true.mp (by decide)) .feed (.refl list)
  exact ⟨⟨by rfl, .keepAll "int".toList (hwrap ['a']), by rfl, by rfl⟩, by rfl,
    .keepAll "X x,".toList (hwrap "Y y".toList), by rfl, by rfl⟩

end StubGen
