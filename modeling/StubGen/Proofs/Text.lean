import StubGen.Proofs.Basic
import StubGen.Text.Blank
import StubGen.Text.Lines

/-!
# Cutting and searching text

Facts about texts that do not depend on what the text is about.

Results:

1. `takeBytes_byteSize_append`, `dropBytes_byteSize_append`: a text is cut at a boundary between two
   characters into exactly the two parts around it.
2. `occursIn_iff_isInfix`: searching finds a word exactly where it stands as an infix.
3. `occursIn_append_cons`: a word does not stand across a character that it does not hold.
4. `exists_of_firstOffset?`: the first occurrence of a word splits a text in front of all others.
5. `unlines_splitOn`: ending every line of a text with a line feed adds only the last line feed;
   `exists_line_above`: what precedes a place ends with the line above it and a part of its own.
-/

namespace StubGen

/-! ## Boundaries between characters -/

namespace Text

/-- The byte offset `n` lies between two characters of the text, or at one of its ends. -/
def IsBoundary (n : Nat) (t : Text) : Prop := ∃ before after, t = before ++ after ∧ byteSize before = n

/-- Cutting at a boundary gives the part before it. -/
@[simp] theorem takeBytes_byteSize_append (before after : Text) :
    takeBytes (byteSize before) (before ++ after) = before := by
  induction before with
  | nil =>
    cases after with
    | nil => rfl
    | cons c rest =>
      have hpos := c.utf8Size_pos
      simp only [List.nil_append, byteSize_nil, takeBytes]
      rw [if_neg (by omega)]
  | cons c before ih =>
    simp only [List.cons_append, byteSize_cons, takeBytes]
    rw [if_pos (by omega), Nat.add_sub_cancel_left, ih]

/-- Cutting at a boundary leaves the part after it. -/
@[simp] theorem dropBytes_byteSize_append (before after : Text) :
    dropBytes (byteSize before) (before ++ after) = after := by
  have h := takeBytes_append_dropBytes (byteSize before) (before ++ after)
  rw [takeBytes_byteSize_append] at h
  exact List.append_cancel_left h

/-- A boundary lies within the text. -/
theorem IsBoundary.le_byteSize {n : Nat} {t : Text} (h : IsBoundary n t) : n ≤ byteSize t := by
  obtain ⟨before, after, rfl, rfl⟩ := h
  rw [byteSize_append]
  omega

theorem isBoundary_zero (t : Text) : IsBoundary 0 t := ⟨[], t, rfl, rfl⟩

theorem isBoundary_append (before after : Text) :
    IsBoundary (byteSize before) (before ++ after) := ⟨before, after, rfl, rfl⟩

/-! ## Search -/

/-- A word occurs in a text exactly if the text has it as an infix. -/
theorem occursIn_iff_isInfix {needle t : Text} : occursIn needle t = true ↔ needle <:+: t := by
  induction t with
  | nil => simp [occursIn]
  | cons c rest ih =>
    rw [occursIn, Bool.or_eq_true, List.isPrefixOf_iff_prefix, ih, List.infix_cons_iff]

theorem occursIn_eq_false_iff {needle t : Text} : occursIn needle t = false ↔ ¬ needle <:+: t := by
  rw [← occursIn_iff_isInfix, Bool.not_eq_true]

/-- A word that does not occur in a part of another word does not occur without it. -/
theorem occursIn_eq_false_of_infix {part needle t : Text} (hpart : part <:+: needle)
    (h : occursIn part t = false) : occursIn needle t = false := by
  rw [occursIn_eq_false_iff] at h ⊢
  exact fun hin => h (hpart.trans hin)

/-- A word does not stand across a character that it does not hold. -/
theorem occursIn_append_cons {needle : Text} {c : Char} (hc : c ∉ needle) (a b : Text) :
    occursIn needle (a ++ c :: b) = (occursIn needle a || occursIn needle b) := by
  rw [Bool.eq_iff_iff, Bool.or_eq_true]
  simp only [occursIn_iff_isInfix]
  constructor
  · rintro ⟨before, after, h⟩
    rw [List.append_assoc, List.append_eq_append_iff] at h
    rcases h with ⟨a', rfl, h⟩ | ⟨c', rfl, h⟩
    · -- The word starts within `a`: it ends there too, or it would hold `c`.
      rw [List.append_eq_append_iff] at h
      rcases h with ⟨a'', rfl, -⟩ | ⟨c'', rfl, h⟩
      · exact .inl ⟨before, a'', by simp⟩
      · cases c'' with
        | nil => exact .inl ⟨before, [], by simp⟩
        | cons d c'' =>
          simp only [List.cons_append, List.cons.injEq] at h
          exact absurd (by simp [h.1]) hc
    · cases c' with
      | nil =>
        -- The word starts right at `c`, which it can do only if it is empty.
        cases needle with
        | nil => exact .inl ⟨a, [], by simp⟩
        | cons d needle =>
          simp only [List.nil_append, List.cons_append, List.cons.injEq] at h
          exact absurd (by simp [h.1]) hc
      | cons d c' =>
        simp only [List.cons_append, List.cons.injEq] at h
        exact .inr ⟨c', after, by simp [h.2]⟩
  · rintro (h | h)
    · exact List.infix_append_of_infix_left h
    · exact List.infix_append_of_infix_right (List.infix_cons h)

/-- A word does not end with a character that is not its last one. -/
theorem occursIn_concat_eq_false {needle t : Text} {c : Char} (hne : needle.getLast? ≠ some c)
    (h : occursIn needle t = false) : occursIn needle (t ++ [c]) = false := by
  rw [occursIn_eq_false_iff] at h ⊢
  rintro ⟨before, after, heq⟩
  rcases List.eq_nil_or_concat after with rfl | ⟨after, d, rfl⟩
  · rw [List.append_nil] at heq
    rcases List.eq_nil_or_concat needle with rfl | ⟨needle, d, rfl⟩
    · exact h List.nil_infix
    · rw [List.concat_eq_append, ← List.append_assoc] at heq
      obtain ⟨-, hd⟩ := List.append_inj' heq rfl
      simp_all
  · rw [List.concat_eq_append, ← List.append_assoc] at heq
    obtain ⟨ht, -⟩ := List.append_inj' heq rfl
    exact h ⟨before, after, ht⟩

/-- A word that holds `c` once stands across a `c` only if what is before `c` in it stands there. -/
theorem infix_append_cons {start stop a b : Text} {c : Char} (hstart : c ∉ start) (hstop : c ∉ stop)
    (hnot : ¬ start <:+ a) (h : start ++ c :: stop <:+: a ++ c :: b) :
    start ++ c :: stop <:+: a ∨ start ++ c :: stop <:+: b := by
  obtain ⟨before, after, h⟩ := h
  have hsplit : (before ++ start) ++ c :: (stop ++ after) = a ++ c :: b := by simpa using h
  rcases List.append_eq_append_iff.mp hsplit with ⟨a', rfl, hrest⟩ | ⟨c', hleft, hrest⟩
  · cases a' with
    | nil => exact absurd (by simp) hnot
    | cons d a' =>
      rw [List.cons_append] at hrest
      obtain ⟨rfl, htail⟩ := List.cons.inj hrest
      left
      rcases List.append_eq_append_iff.mp htail with ⟨rest, rfl, -⟩ | ⟨rest, rfl, hc⟩
      · exact ⟨before, rest, by simp⟩
      · cases rest with
        | nil => exact ⟨before, [], by simp⟩
        | cons d rest =>
          obtain ⟨rfl, -⟩ := List.cons.inj hc
          exact absurd (by simp) hstop
  · cases c' with
    | nil => exact absurd ⟨before, by simpa using hleft⟩ hnot
    | cons d c' =>
      obtain ⟨rfl, rfl⟩ := List.cons.inj hrest
      right
      rcases List.append_eq_append_iff.mp hleft with ⟨z, -, hz⟩ | ⟨z, -, hz⟩
      · exact absurd (by rw [hz]; simp) hstart
      · cases z with
        | nil => exact absurd (by rw [← List.nil_append start, ← hz]; simp) hstart
        | cons e z =>
          obtain ⟨-, rfl⟩ := List.cons.inj hz
          exact ⟨z, after, by simp⟩

/-- The byte offset at which the word stands in the text for the first time. -/
def firstOffset? (needle : Text) : Text → Option Nat
  | [] => if needle.isEmpty then some 0 else none
  | c :: rest =>
    if needle.isPrefixOf (c :: rest) then some 0
    else (firstOffset? needle rest).map (c.utf8Size + ·)

theorem isSome_firstOffset? (needle t : Text) :
    (firstOffset? needle t).isSome = occursIn needle t := by
  induction t with
  | nil => cases needle <;> rfl
  | cons c rest ih =>
    rw [firstOffset?, occursIn, ← ih]
    cases needle.isPrefixOf (c :: rest) <;> simp

/-- The word stands at its first offset, and all that precedes this precedes any other occurrence. -/
theorem exists_of_firstOffset? {needle t : Text} {n : Nat} (h : firstOffset? needle t = some n) :
    ∃ before after, t = before ++ (needle ++ after) ∧ byteSize before = n ∧
      ∀ front back, t = front ++ (needle ++ back) → before <+: front := by
  induction t generalizing n with
  | nil =>
    cases needle with
    | nil =>
      cases h
      exact ⟨[], [], rfl, rfl, fun front _ _ => List.nil_prefix⟩
    | cons d needle => cases h
  | cons c rest ih =>
    rw [firstOffset?] at h
    split at h
    · next hhere =>
      cases h
      obtain ⟨after, hafter⟩ := List.isPrefixOf_iff_prefix.mp hhere
      exact ⟨[], after, hafter.symm, rfl, fun front _ _ => List.nil_prefix⟩
    · next hhere =>
      obtain ⟨m, hm, rfl⟩ := Option.map_eq_some_iff.mp h
      obtain ⟨before, after, rfl, rfl, hfirst⟩ := ih hm
      refine ⟨c :: before, after, rfl, rfl, fun front back hsplit => ?_⟩
      cases front with
      | nil => exact absurd (List.isPrefixOf_iff_prefix.mpr ⟨back, hsplit.symm⟩) hhere
      | cons d front =>
        obtain ⟨rfl, hrest⟩ := List.cons.inj hsplit
        exact List.cons_prefix_cons.mpr ⟨rfl, hfirst front back hrest⟩

/-- In front of its first offset a word does not occur. -/
theorem exists_plain_of_firstOffset? {needle t : Text} {n : Nat} (hne : needle ≠ [])
    (h : firstOffset? needle t = some n) :
    ∃ before after, t = before ++ (needle ++ after) ∧ byteSize before = n ∧
      occursIn needle before = false := by
  obtain ⟨before, after, ht, hsize, hfirst⟩ := exists_of_firstOffset? h
  refine ⟨before, after, ht, hsize, ?_⟩
  rw [occursIn_eq_false_iff]
  rintro ⟨front, back, rfl⟩
  have hshorter := (hfirst front (back ++ (needle ++ after)) (by simpa using ht)).length_le
  have hpos := List.length_pos_iff.mpr hne
  simp only [List.length_append] at hshorter
  omega

theorem not_mem_between {c : Char} {start middle stop : Text} (hstart : c ∉ start)
    (hmiddle : c ∉ middle) (hstop : c ∉ stop) : c ∉ start ++ middle ++ stop := by
  rw [List.mem_append, List.mem_append, not_or, not_or]
  exact ⟨⟨hstart, hmiddle⟩, hstop⟩

/-! ## Ends -/

theorem stripStart?_eq_some_iff {beginning t rest : Text} :
    stripStart? beginning t = some rest ↔ t = beginning ++ rest := by
  induction beginning generalizing t with
  | nil => simp [stripStart?]
  | cons b beginning ih =>
    cases t with
    | nil => simp [stripStart?]
    | cons c t =>
      rw [stripStart?, List.cons_append, List.cons.injEq]
      by_cases hbc : b = c
      · rw [if_pos hbc, ih, and_iff_right hbc.symm]
      · rw [if_neg hbc]
        simp [Ne.symm hbc]

theorem stripStart?_eq_none_iff {beginning t : Text} :
    stripStart? beginning t = none ↔ ¬ beginning <+: t := by
  rw [Option.eq_none_iff_forall_ne_some]
  constructor
  · rintro h ⟨rest, rfl⟩
    exact h rest (stripStart?_eq_some_iff.mpr rfl)
  · intro h rest hrest
    exact h ⟨rest, (stripStart?_eq_some_iff.mp hrest).symm⟩

theorem stripEnd?_eq_some_iff {ending t rest : Text} :
    stripEnd? ending t = some rest ↔ t = rest ++ ending := by
  rw [stripEnd?, Option.map_eq_some_iff]
  constructor
  · rintro ⟨r, hr, rfl⟩
    rw [stripStart?_eq_some_iff, List.reverse_eq_iff] at hr
    rw [hr, List.reverse_append, List.reverse_reverse]
  · rintro rfl
    refine ⟨rest.reverse, ?_, List.reverse_reverse rest⟩
    rw [stripStart?_eq_some_iff, List.reverse_append]

theorem trimEnd_eq_rdropWhile (t : Text) : trimEnd t = t.rdropWhile isBlank :=
  beforeEndRun_eq_rdropWhile isBlank t

/-- A text that does not end with a blank has none to remove there. -/
theorem trimEnd_eq_self {t : Text} (h : ∀ c ∈ t.getLast?, isBlank c = false) : trimEnd t = t := by
  rw [trimEnd_eq_rdropWhile, List.rdropWhile_eq_self_iff]
  intro hne
  simp [h _ (List.getLast_mem_getLast? hne)]

theorem mem_of_mem_trim {t : Text} {c : Char} (h : c ∈ trim t) : c ∈ t :=
  (List.dropWhile_suffix isBlank).subset ((List.rdropWhile_prefix isBlank _).subset h)

theorem suffix_of_afterLast? {mark t rest : Text} (h : afterLast? mark t = some rest) :
    rest <:+ t := by
  have hstrip : ∀ t : Text, stripStart? mark t = some rest → rest <:+ t := by
    intro t h
    exact ⟨mark, (stripStart?_eq_some_iff.mp h).symm⟩
  induction t with
  | nil => exact hstrip [] h
  | cons c t ih =>
    rw [afterLast?] at h
    split at h
    · next hfound =>
      cases h
      exact (ih hfound).trans (List.suffix_cons c t)
    · exact hstrip (c :: t) h

/-- Removing the blanks at the end of a text leaves a word at its start. -/
theorem isPrefix_trimEnd_iff {word t : Text} (h : ∀ c ∈ word, isBlank c = false) :
    word <+: trimEnd t ↔ word <+: t := by
  have hkept : trimEnd t <+: t := List.rdropWhile_prefix isBlank t
  refine ⟨fun hword => hword.trans hkept, fun hword => ?_⟩
  rcases List.prefix_or_prefix_of_prefix hword hkept with hwithin | ⟨more, rfl⟩
  · exact hwithin
  · cases more with
    | nil => simp
    | cons c more =>
      -- What the word has beyond the part that is kept would be blank.
      have hrun : c :: more <+: t.rtakeWhile isBlank := by
        rw [← List.prefix_append_right_inj (trimEnd t), trimEnd_eq_rdropWhile,
          List.rdropWhile_append_rtakeWhile]
        exact hword
      have hblank := List.mem_rtakeWhile_imp (hrun.subset List.mem_cons_self)
      rw [h c (by simp)] at hblank
      cases hblank

/-- A character that is no blank stays in front when a text is trimmed. -/
theorem exists_trim_cons {c : Char} (hc : isBlank c = false) (rest : Text) :
    ∃ more, trim (c :: rest) = c :: more := by
  have hstart : trimStart (c :: rest) = c :: rest := by
    rw [trimStart, List.dropWhile_cons_of_neg (by simp [hc])]
  obtain ⟨more, hmore⟩ : [c] <+: trimEnd (c :: rest) :=
    (isPrefix_trimEnd_iff (by simpa using hc)).mpr ⟨rest, rfl⟩
  exact ⟨more, by rw [trim, hstart, ← hmore, List.singleton_append]⟩

/-- A text that neither begins nor ends with a blank is trimmed already. -/
theorem trim_cons_concat {first last : Char} {middle : Text} (hfirst : isBlank first = false)
    (hlast : isBlank last = false) :
    trim (first :: (middle ++ [last])) = first :: (middle ++ [last]) := by
  have hstart : trimStart (first :: (middle ++ [last])) = first :: (middle ++ [last]) := by
    rw [trimStart, List.dropWhile_cons_of_neg (by simp [hfirst])]
  have hend : ∀ c ∈ (first :: (middle ++ [last])).getLast?, isBlank c = false := by
    rw [← List.cons_append, List.getLast?_concat]
    simpa using hlast
  rw [trim, hstart, trimEnd_eq_self hend]

/-- Trimming takes blanks away at both ends and nothing else. -/
theorem exists_trim_append (t : Text) :
    ∃ before after, t = before ++ (trim t ++ after) ∧ (∀ c ∈ before, isBlank c = true) ∧
      ∀ c ∈ after, isBlank c = true := by
  refine ⟨t.takeWhile isBlank, (trimStart t).rtakeWhile isBlank, ?_,
    List.all_eq_true.mp List.all_takeWhile, fun c hc => List.mem_rtakeWhile_imp hc⟩
  rw [trim, trimEnd_eq_rdropWhile, List.rdropWhile_append_rtakeWhile, trimStart,
    List.takeWhile_append_dropWhile]

theorem mem_trim {t : Text} {c : Char} (hc : isBlank c = false) (h : c ∈ t) : c ∈ trim t := by
  obtain ⟨before, after, ht, hbefore, hafter⟩ := exists_trim_append t
  rw [ht, List.mem_append, List.mem_append] at h
  rcases h with h | h | h
  · rw [hbefore c h] at hc
    cases hc
  · exact h
  · rw [hafter c h] at hc
    cases hc

/-- Blanks behind a text are trimmed away with those that it ends with. -/
theorem trim_append_of_blank_right {blanks : Text} (h : ∀ c ∈ blanks, isBlank c = true) (t : Text) :
    trim (t ++ blanks) = trim t := by
  rw [trim, trimStart, List.dropWhile_append, trim]
  split
  · next hempty =>
    have hnil : blanks.dropWhile isBlank = [] := by
      rw [← List.append_nil blanks, List.dropWhile_append_of_pos h]
      rfl
    rw [hnil, trimStart, List.isEmpty_iff.mp hempty]
  · exact rdropWhile_append_of_forall h _

/-- At most one carriage return is dropped. -/
theorem eq_dropReturn (line : Text) : line = dropReturn line ∨ line = dropReturn line ++ ['\r'] := by
  unfold dropReturn
  cases h : stripEnd? ['\r'] line with
  | none => exact .inl rfl
  | some rest => exact .inr (stripEnd?_eq_some_iff.mp h)

theorem dropReturn_isPrefix (line : Text) : dropReturn line <+: line := by
  rcases eq_dropReturn line with h | h
  · exact ⟨[], by rw [List.append_nil, ← h]⟩
  · exact ⟨['\r'], h.symm⟩

theorem dropReturn_append_return (line : Text) : dropReturn (line ++ ['\r']) = line := by
  rw [dropReturn, stripEnd?_eq_some_iff.mpr rfl, Option.getD_some]

theorem dropReturn_of_not_mem {line : Text} (h : '\r' ∉ line) : dropReturn line = line := by
  rcases eq_dropReturn line with heq | heq
  · exact heq.symm
  · rw [heq] at h
    exact absurd (by simp) h

/-- A line that ends with another character has no carriage return at its end. -/
theorem dropReturn_concat {line : Text} {last : Char} (hlast : '\r' ≠ last) :
    dropReturn (line ++ [last]) = line ++ [last] := by
  rw [dropReturn, stripEnd?, List.reverse_append, List.reverse_singleton, List.reverse_singleton,
    List.singleton_append, stripStart?, if_neg hlast]
  rfl

end Text

/-! ## Lines -/

namespace Text

/-- The lines with a line feed after each. -/
def unlines (ls : List Text) : Text := ls.flatMap (· ++ ['\n'])

@[simp] theorem unlines_nil : unlines [] = [] := rfl

@[simp] theorem unlines_cons (line : Text) (ls : List Text) :
    unlines (line :: ls) = line ++ '\n' :: unlines ls := by
  simp [unlines]

@[simp] theorem unlines_append (ls ms : List Text) : unlines (ls ++ ms) = unlines ls ++ unlines ms := by
  simp [unlines]

/-- Ending every line of a text with a line feed adds only the last line feed. -/
theorem unlines_splitOn (t : Text) : unlines (t.splitOn '\n') = t ++ ['\n'] := by
  induction t with
  | nil => rfl
  | cons c rest ih =>
    rw [List.splitOn_cons_eq_if_modifyHead]
    split
    · next hc => simp_all
    · obtain ⟨first, others, hrest⟩ := List.exists_cons_of_ne_nil (List.splitOn_ne_nil '\n' rest)
      rw [hrest, unlines_cons] at ih
      rw [hrest, List.modifyHead_cons, unlines_cons, List.cons_append, ih, List.cons_append]

/-- Whole lines are the first pieces of a text that starts with them. -/
theorem splitOn_unlines_append {ls : List Text} (hls : ∀ l ∈ ls, '\n' ∉ l) (t : Text) :
    (unlines ls ++ t).splitOn '\n' = ls ++ t.splitOn '\n' := by
  induction ls with
  | nil => rfl
  | cons line ls ih =>
    obtain ⟨hline, hrest⟩ := List.forall_mem_cons.mp hls
    rw [unlines_cons, List.append_assoc, List.cons_append,
      List.splitOn_append_cons_self_of_not_mem hline, ih hrest, List.cons_append]

/-- A text that ends with a line feed is made of whole lines. -/
theorem exists_unlines (t : Text) : ∃ ls, t ++ ['\n'] = unlines ls ∧ ∀ l ∈ ls, '\n' ∉ l :=
  ⟨t.splitOn '\n', (unlines_splitOn t).symm, fun _ hl => (of_mem_splitOn hl).1⟩

/-- Whole lines are what is empty or ends with a line feed. -/
theorem exists_unlines_of_whole {t : Text} (h : t = [] ∨ t.getLast? = some '\n') :
    ∃ ls, t = unlines ls ∧ ∀ l ∈ ls, '\n' ∉ l := by
  rcases h with rfl | h
  · exact ⟨[], rfl, by simp⟩
  · obtain ⟨init, rfl⟩ := List.getLast?_eq_some_iff.mp h
    exact exists_unlines init

theorem unlines_whole (ls : List Text) : unlines ls = [] ∨ (unlines ls).getLast? = some '\n' := by
  rcases List.eq_nil_or_concat ls with rfl | ⟨init, line, rfl⟩
  · exact .inl rfl
  · right
    rw [List.concat_eq_append, unlines_append, unlines_cons, unlines_nil, ← List.append_assoc,
      List.getLast?_concat]

theorem eq_unlines_append_last {t last : Text} {init : List Text}
    (h : t.splitOn '\n' = init ++ [last]) : t = unlines init ++ last := by
  have heq := unlines_splitOn t
  rw [h, unlines_append, unlines_cons, unlines_nil, ← List.append_assoc] at heq
  exact (List.append_cancel_right heq).symm

/-- A text consists of whole lines and a last one without a line feed. -/
theorem exists_unlines_append (t : Text) :
    ∃ ls last, t = unlines ls ++ last ∧ (∀ l ∈ ls, '\n' ∉ l) ∧ '\n' ∉ last := by
  have hsplit := (List.dropLast_concat_getLast (List.splitOn_ne_nil '\n' t)).symm
  refine ⟨_, _, eq_unlines_append_last hsplit, fun l hl => ?_,
    (of_mem_splitOn (List.getLast_mem _)).1⟩
  exact (of_mem_splitOn (List.dropLast_subset _ hl)).1

/-- What precedes a place in a text is a part of the first line, or it is whole lines, the line above
that of the place, and a part of the line of the place. -/
theorem exists_line_above (t : Text) :
    '\n' ∉ t ∨ ∃ head above line, t = head ++ (above ++ '\n' :: line) ∧
      (head = [] ∨ head.getLast? = some '\n') ∧ '\n' ∉ above ∧ '\n' ∉ line := by
  obtain ⟨ls, line, rfl, hls, hline⟩ := exists_unlines_append t
  rcases List.eq_nil_or_concat ls with rfl | ⟨init, above, rfl⟩
  · exact .inl hline
  · right
    refine ⟨unlines init, above, line, ?_, unlines_whole init, hls above (by simp), hline⟩
    rw [List.concat_eq_append, unlines_append, unlines_cons, unlines_nil, List.append_assoc,
      List.append_assoc, List.singleton_append]

/-- A text that has lines before its last one begins with them. -/
theorem eq_unlines_append {t : Text} {before after : List Text} (hne : after ≠ [])
    (h : t.splitOn '\n' = before ++ after) : ∃ rest, t = unlines before ++ rest := by
  obtain ⟨init, last, rfl⟩ : ∃ init last, after = init ++ [last] :=
    ⟨after.dropLast, after.getLast hne, (List.dropLast_concat_getLast hne).symm⟩
  rw [← List.append_assoc] at h
  refine ⟨unlines init ++ last, ?_⟩
  rw [eq_unlines_append_last h, unlines_append, List.append_assoc]

/-- The lines on both sides of a line feed are those of each side. -/
theorem lines_append_cons (a b : Text) : lines (a ++ '\n' :: b) = lines a ++ lines b := by
  rw [lines, List.splitOn_append_cons_self, List.map_append]
  rfl

theorem lines_of_not_mem {line : Text} (h : '\n' ∉ line) : lines line = [dropReturn line] := by
  rw [lines, List.splitOn_eq_singleton h, List.map_singleton]

/-- A word without a line feed is not found in lines that do not hold it. -/
theorem occursIn_unlines_append {needle : Text} (hnl : '\n' ∉ needle) {ls : List Text} (rest : Text)
    (h : ∀ l ∈ ls, occursIn needle l = false) :
    occursIn needle (unlines ls ++ rest) = occursIn needle rest := by
  induction ls with
  | nil => rfl
  | cons l ls ih =>
    rw [unlines_cons, List.append_assoc, List.cons_append, occursIn_append_cons hnl,
      h l List.mem_cons_self, Bool.false_or]
    exact ih fun m hm => h m (List.mem_cons_of_mem l hm)

theorem occursIn_line_eq_false {needle line : Text} {ls : List Text}
    (h : occursIn needle (unlines ls) = false) (hl : line ∈ ls) : occursIn needle line = false := by
  obtain ⟨before, after, rfl⟩ := List.append_of_mem hl
  rw [unlines_append, unlines_cons, occursIn_eq_false_iff] at h
  rw [occursIn_eq_false_iff]
  intro hin
  exact h (List.infix_append_of_infix_right (List.infix_append_of_infix_left hin))

/-- A word without a line feed that does not occur in a text occurs in none of its lines. -/
theorem occursIn_eq_false_of_mem_splitOn {needle t piece : Text} (hnl : '\n' ∉ needle)
    (h : occursIn needle t = false) (hp : piece ∈ t.splitOn '\n') :
    occursIn needle piece = false := by
  have hnone : occursIn needle (unlines (t.splitOn '\n')) = false := by
    rw [unlines_splitOn, occursIn_append_cons hnl, h, Bool.false_or, occursIn_eq_false_iff]
    intro hnil
    exact occursIn_eq_false_iff.mp h (hnil.trans List.nil_infix)
  exact occursIn_line_eq_false hnone hp

end Text

end StubGen
