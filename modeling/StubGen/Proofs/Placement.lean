import StubGen.Placement
import StubGen.Proofs.Text

/-!
# What placement finds

The two searches behind a placement, each described by how it splits the text.

Results:

1. `insideClosers_eq_ok_iff`: the place inside the closing braces splits the text in front of a
   closing brace from which on there are exactly as many as asked for, or at its end;
   `insideClosers_eq_error_iff`: there is none exactly if the text has fewer.
2. `leadingNamespaces_append`, `leadingNamespaces_append_of_hasContent`: up to the first line with
   content, the namespaces of two stretches of lines add up; behind content nothing counts.
3. `beforeSuite?_append`: the place before a suite is the start of the line in front of the first
   line with the suite's macro.
4. `locate_isBoundary`: a place never lies inside a character, whatever the text.
-/

namespace StubGen.Placement

open Text

/-! ## 1. Closing braces -/

/-- The brace from which on there are `count` of them is found. -/
theorem closerOffset?_append {count : Nat} {before after : Text}
    (h : (closer :: after).count closer = count) :
    closerOffset? count (before ++ closer :: after) = some (byteSize before) := by
  induction before with
  | nil => simp [closerOffset?, h]
  | cons c before ih =>
    simp only [List.cons_append, closerOffset?, byteSize_cons]
    -- A brace further to the front has more than `count` from it on.
    have hskip : (c == closer && (c :: (before ++ closer :: after)).count closer == count) = false := by
      by_cases hc : c = closer
      · subst hc
        have hmore : count < (closer :: (before ++ closer :: after)).count closer := by
          rw [List.count_cons_self, List.count_append, h]
          omega
        simp only [beq_self_eq_true, Bool.true_and, beq_eq_false_iff_ne]
        omega
      · simp [hc]
    rw [if_neg (by simp [hskip]), ih, Option.map_some]

/-- What is found is a brace from which on there are `count` of them. -/
theorem eq_append_of_closerOffset? {count offset : Nat} {t : Text}
    (h : closerOffset? count t = some offset) :
    ∃ before after, t = before ++ closer :: after ∧ byteSize before = offset ∧
      (closer :: after).count closer = count := by
  induction t generalizing offset with
  | nil => simp [closerOffset?] at h
  | cons c rest ih =>
    rw [closerOffset?] at h
    split at h
    · next hc =>
      simp only [Bool.and_eq_true, beq_iff_eq] at hc
      obtain ⟨rfl, hcount⟩ := hc
      cases h
      exact ⟨[], rest, rfl, rfl, hcount⟩
    · obtain ⟨o, ho, rfl⟩ := Option.map_eq_some_iff.mp h
      obtain ⟨before, after, rfl, rfl, hcount⟩ := ih ho
      exact ⟨c :: before, after, rfl, rfl, hcount⟩

/-- The place inside the last `count` closing braces splits the text in front of the first of them;
with none to stay inside of, it is the end. -/
theorem insideClosers_eq_ok_iff {t : Text} {count offset : Nat} :
    insideClosers t count = .ok offset ↔
    ∃ before after, t = before ++ after ∧ byteSize before = offset ∧ after.count closer = count ∧
      (after = [] ∨ after.head? = some closer) := by
  unfold insideClosers
  constructor
  · intro h
    split at h
    · next hzero =>
      cases h
      exact ⟨t, [], by simp, rfl, by simp [hzero], .inl rfl⟩
    · split at h
      · next o ho =>
        cases h
        obtain ⟨before, after, ht, hsize, hcount⟩ := eq_append_of_closerOffset? ho
        exact ⟨before, closer :: after, ht, hsize, hcount, .inr rfl⟩
      · cases h
  · rintro ⟨before, after, rfl, rfl, hcount, rfl | hhead⟩
    · rw [if_pos (by simpa using hcount.symm)]
      simp
    · obtain ⟨c, after, rfl⟩ := List.exists_cons_of_ne_nil (l := after) (by rintro rfl; simp at hhead)
      obtain rfl : c = closer := by simpa using hhead
      have hne : count ≠ 0 := by
        rw [← hcount, List.count_cons_self]
        omega
      rw [if_neg hne, closerOffset?_append hcount]

theorem insideClosers_zero (t : Text) : insideClosers t 0 = .ok (byteSize t) := if_pos rfl

/-- Of enough closing braces there is one from which on there are exactly `count` of them. -/
theorem exists_eq_append_of_le_count {t : Text} {count : Nat} (hpos : 0 < count)
    (hle : count ≤ t.count closer) :
    ∃ before after, t = before ++ closer :: after ∧ (closer :: after).count closer = count := by
  induction t with
  | nil =>
    rw [List.count_nil] at hle
    omega
  | cons c rest ih =>
    by_cases hrest : count ≤ rest.count closer
    · obtain ⟨before, after, rfl, hcount⟩ := ih hrest
      exact ⟨c :: before, after, rfl, hcount⟩
    · -- What follows the first character has too few, so that one is the brace.
      by_cases hc : c = closer
      · subst hc
        rw [List.count_cons_self] at hle
        exact ⟨[], rest, rfl, by rw [List.count_cons_self]; omega⟩
      · rw [List.count_cons_of_ne hc] at hle
        exact absurd hle hrest

/-- There is no place inside the last `count` closing braces exactly if there are fewer of them. -/
theorem insideClosers_eq_error_iff {t : Text} {count : Nat} {e : Error} :
    insideClosers t count = .error e ↔
      t.count closer < count ∧ e = .unbalancedTarget count (t.count closer) := by
  rcases Nat.lt_or_ge (t.count closer) count with hfew | hle
  · have hnone : closerOffset? count t = none := by
      rw [Option.eq_none_iff_forall_ne_some]
      intro offset hfound
      obtain ⟨before, after, rfl, -, hcount⟩ := eq_append_of_closerOffset? hfound
      rw [List.count_append] at hfew
      omega
    rw [insideClosers, if_neg (by omega), hnone]
    simp [hfew, eq_comm]
  · obtain ⟨offset, hplace⟩ : ∃ offset, insideClosers t count = .ok offset := by
      rcases Nat.eq_zero_or_pos count with rfl | hpos
      · exact ⟨_, insideClosers_zero t⟩
      · obtain ⟨before, after, ht, hcount⟩ := exists_eq_append_of_le_count hpos hle
        exact ⟨_, insideClosers_eq_ok_iff.mpr ⟨before, _, ht, rfl, hcount, .inr rfl⟩⟩
    rw [hplace]
    simp [Nat.not_lt.mpr hle]

theorem count_closers (n : Nat) : (List.replicate n [closer, '\n']).flatten.count closer = n := by
  induction n with
  | zero => rfl
  | succ n ih =>
    rw [List.replicate_succ, List.flatten_cons, List.count_append, ih]
    have hone : [closer, '\n'].count closer = 1 := by decide
    omega

/-- In front of freshly written closing braces there is a place inside all of them. -/
theorem insideClosers_append_closers (before : Text) (n : Nat) :
    insideClosers (before ++ (List.replicate n [closer, '\n']).flatten) n =
      .ok (byteSize before) := by
  refine insideClosers_eq_ok_iff.mpr ⟨before, _, rfl, rfl, count_closers n, ?_⟩
  cases n with
  | zero => exact .inl rfl
  | succ n => exact .inr rfl

/-! ## 2. Leading namespaces -/

/-- Lines after one with content do not count. -/
theorem countOpening_append (ls ms : List Text) :
    countOpening (ls ++ ms) =
      countOpening ls + if ls.any hasContent then 0 else countOpening ms := by
  induction ls with
  | nil => simp [countOpening]
  | cons line ls ih =>
    simp only [List.cons_append, countOpening, List.any_cons]
    by_cases hline : hasContent line = true
    · simp only [hline, Bool.true_or, ↓reduceIte, Nat.add_zero]
    · rw [Bool.not_eq_true] at hline
      simp only [hline, Bool.false_eq_true, ↓reduceIte, Bool.false_or, ih]
      omega

/-- The namespaces that are opened on both sides of a line feed. -/
theorem leadingNamespaces_append (a b : Text) :
    leadingNamespaces (a ++ '\n' :: b) =
      leadingNamespaces a + if (lines a).any hasContent then 0 else leadingNamespaces b := by
  rw [leadingNamespaces, lines_append_cons, countOpening_append]
  rfl

/-- Of the words that end the opening part, only two matter: the others hold one of them. -/
theorem hasContent_eq (line : Text) :
    hasContent line = (occursIn "class".toList line || occursIn "TEST".toList line) := by
  have hmono : ∀ word : Text, "TEST".toList <:+: word →
      occursIn word line = true → occursIn "TEST".toList line = true := by
    intro word hword h
    rw [occursIn_iff_isInfix] at h ⊢
    exact hword.trans h
  have htyped := hmono "TYPED_TEST".toList ⟨"TYPED_".toList, [], by decide⟩
  have hfixture := hmono "TEST_F".toList ⟨[], "_F".toList, by decide⟩
  simp only [hasContent, contentWords, List.any_cons, List.any_nil, Bool.or_false]
  cases h : occursIn "TEST".toList line with
  | true => simp
  | false =>
    rw [h] at htyped hfixture
    simp only [Bool.false_eq_true, imp_false, Bool.not_eq_true] at htyped hfixture
    simp only [htyped, hfixture, Bool.or_false]

theorem hasContent_append_cons {c : Char} (hclass : c ∉ "class".toList) (htest : c ∉ "TEST".toList)
    (a b : Text) : hasContent (a ++ c :: b) = (hasContent a || hasContent b) := by
  simp only [hasContent_eq, occursIn_append_cons hclass, occursIn_append_cons htest]
  ac_rfl

theorem hasContent_append {t : Text} (h : hasContent t = true) (more : Text) :
    hasContent (t ++ more) = true := by
  rw [hasContent_eq, Bool.or_eq_true] at h ⊢
  simp only [occursIn_iff_isInfix] at h ⊢
  exact h.imp List.infix_append_of_infix_left List.infix_append_of_infix_left

theorem hasContent_dropReturn (line : Text) : hasContent (dropReturn line) = hasContent line := by
  have hnil : hasContent [] = false := by decide
  rcases eq_dropReturn line with h | h
  · rw [← h]
  · have hline := congrArg hasContent h
    rw [hasContent_append_cons (by decide) (by decide), hnil, Bool.or_false] at hline
    exact hline.symm

/-- Content has a letter that is neither blank nor in the keyword that opens a namespace. -/
theorem exists_mem_of_hasContent {line : Text} (h : hasContent line = true) :
    ∃ c ∈ line, isBlank c = false ∧ c ∉ "namespace".toList := by
  rw [hasContent_eq, Bool.or_eq_true, occursIn_iff_isInfix, occursIn_iff_isInfix] at h
  rcases h with h | h
  · exact ⟨'l', h.subset (by decide), by decide, by decide⟩
  · exact ⟨'T', h.subset (by decide), by decide, by decide⟩

/-- Whether a line with content opens a namespace is decided by what stands up to the content. -/
theorem opensNamespace_append {line : Text} (h : hasContent line = true) (more : Text) :
    opensNamespace (line ++ more) = opensNamespace line := by
  have hword : ∀ c ∈ "namespace".toList, isBlank c = false := by
    have hall : "namespace".toList.all (!isBlank ·) = true := by decide
    intro c hc
    simpa using List.all_eq_true.mp hall c hc
  obtain ⟨c, hc, hblank, hnot⟩ := exists_mem_of_hasContent h
  have hkept : c ∈ trimStart line :=
    (List.rdropWhile_prefix isBlank (trimStart line)).subset (mem_trim hblank hc)
  have hstart : trimStart (line ++ more) = trimStart line ++ more := by
    rw [trimStart, List.dropWhile_append, if_neg]
    · rfl
    · rw [List.isEmpty_iff]
      exact List.ne_nil_of_mem hkept
  rw [opensNamespace, opensNamespace, trim, trim, hstart, Bool.eq_iff_iff, List.isPrefixOf_iff_prefix,
    List.isPrefixOf_iff_prefix, isPrefix_trimEnd_iff hword, isPrefix_trimEnd_iff hword]
  refine ⟨fun hopens => ?_, fun hopens => hopens.trans (List.prefix_append _ _)⟩
  rcases List.prefix_or_prefix_of_prefix hopens (List.prefix_append (trimStart line) more) with
    hwithin | hbeyond
  · exact hwithin
  · exact absurd (hbeyond.subset hkept) hnot

theorem opensNamespace_dropReturn {line : Text} (h : hasContent line = true) :
    opensNamespace (dropReturn line) = opensNamespace line := by
  rcases eq_dropReturn line with heq | heq
  · rw [← heq]
  · have hline := congrArg opensNamespace heq
    rw [opensNamespace_append (by rw [hasContent_dropReturn, h])] at hline
    exact hline.symm

/-- A text whose first line has content: only that line is looked at. -/
theorem leadingNamespaces_of_line {line : Text} (hnl : '\n' ∉ line) (h : hasContent line = true)
    (more : Text) : leadingNamespaces (line ++ more) = if opensNamespace line then 1 else 0 := by
  obtain ⟨first, others, hmore⟩ := List.exists_cons_of_ne_nil (List.splitOn_ne_nil '\n' more)
  have hfirst := hasContent_append h first
  rw [leadingNamespaces, lines, splitOn_append_of_not_mem hmore hnl, List.map_cons,
    countOpening, hasContent_dropReturn, opensNamespace_dropReturn hfirst, hfirst, if_pos rfl,
    opensNamespace_append h, Nat.add_zero]

/-- Once a text has content, nothing behind it counts, on the same line or on later ones. -/
theorem leadingNamespaces_append_of_hasContent {t : Text} (h : hasContent t = true) (more : Text) :
    leadingNamespaces (t ++ more) = leadingNamespaces t := by
  obtain ⟨ls, last, rfl, hls, hlast⟩ := exists_unlines_append t
  induction ls with
  | nil =>
    rw [unlines_nil, List.nil_append] at h ⊢
    rw [leadingNamespaces_of_line hlast h, ← List.append_nil last,
      leadingNamespaces_of_line hlast h, List.append_nil]
  | cons line ls ih =>
    simp only [unlines_cons, List.append_assoc, List.cons_append] at h ⊢
    rw [hasContent_append_cons (by decide) (by decide), Bool.or_eq_true] at h
    rw [leadingNamespaces_append, leadingNamespaces_append,
      lines_of_not_mem (hls line List.mem_cons_self), List.any_cons, List.any_nil, Bool.or_false,
      hasContent_dropReturn]
    split
    · rfl
    · next hline =>
      have hrest := ih (h.resolve_left hline) fun l hl => hls l (List.mem_cons_of_mem line hl)
      rw [← List.append_assoc, hrest]

/-! ## 3. Suites -/

/-- Lines without a suite are passed over, and the line right before the suite is the place. -/
theorem suiteOffset?_append {ls rest : List Text} {above suite : Text} (previous here : Nat)
    (hls : ∀ line ∈ ls, occursIn suiteMacro line = false) (habove : occursIn suiteMacro above = false)
    (hsuite : occursIn suiteMacro suite = true) :
    suiteOffset? previous here (ls ++ above :: suite :: rest) = some (here + byteSize (unlines ls)) := by
  induction ls generalizing previous here with
  | nil => simp [suiteOffset?, habove, hsuite]
  | cons line ls ih =>
    have hline := hls line List.mem_cons_self
    have hrest := ih here (here + byteSize line + 1) fun l hl => hls l (List.mem_cons_of_mem line hl)
    rw [List.cons_append, suiteOffset?, hline, if_neg Bool.false_ne_true, hrest, unlines_cons,
      byteSize_append, byteSize_cons]
    congr 1
    have hnl : ('\n' : Char).utf8Size = 1 := rfl
    omega

theorem suiteOffset?_eq_none {ls : List Text} (previous here : Nat)
    (hls : ∀ line ∈ ls, occursIn suiteMacro line = false) : suiteOffset? previous here ls = none := by
  induction ls generalizing previous here with
  | nil => rfl
  | cons line ls ih =>
    rw [suiteOffset?, hls line List.mem_cons_self, if_neg Bool.false_ne_true]
    exact ih here _ fun l hl => hls l (List.mem_cons_of_mem line hl)

/-- What is found is where the line before these lines starts, or where one of them starts. -/
theorem suiteOffset?_eq_some {ls : List Text} {previous here offset : Nat}
    (h : suiteOffset? previous here ls = some offset) :
    offset = previous ∨
    ∃ before after, ls = before ++ after ∧ after ≠ [] ∧ offset = here + byteSize (unlines before) := by
  induction ls generalizing previous here with
  | nil => simp [suiteOffset?] at h
  | cons line ls ih =>
    rw [suiteOffset?] at h
    split at h
    · cases h
      exact .inl rfl
    · right
      rcases ih h with rfl | ⟨before, after, rfl, hne, rfl⟩
      · exact ⟨[], line :: ls, rfl, by simp, by simp⟩
      · refine ⟨line :: before, after, rfl, hne, ?_⟩
        have hnl : ('\n' : Char).utf8Size = 1 := rfl
        rw [unlines_cons, byteSize_append, byteSize_cons]
        omega

theorem newline_not_mem_suiteMacro : '\n' ∉ suiteMacro := by decide

/-- The line of a suite, up to the next line feed. -/
theorem exists_suite_line {line : Text} (hline : '\n' ∉ line) (after : Text) :
    ∃ suite others, (line ++ (suiteMacro ++ after)).splitOn '\n' = suite :: others ∧
      occursIn suiteMacro suite = true := by
  obtain ⟨first, others, hafter⟩ := List.exists_cons_of_ne_nil (List.splitOn_ne_nil '\n' after)
  have hsuite := splitOn_append_of_not_mem hafter newline_not_mem_suiteMacro
  refine ⟨line ++ (suiteMacro ++ first), others, ?_, ?_⟩
  · exact splitOn_append_of_not_mem hsuite hline
  · exact occursIn_iff_isInfix.mpr ⟨line, first, List.append_assoc line suiteMacro first⟩

/-- In front of a suite on the first line there is only the start of the text. -/
theorem beforeSuite?_of_first_line {line : Text} (hline : '\n' ∉ line) (after : Text) :
    beforeSuite? (line ++ (suiteMacro ++ after)) = some 0 := by
  obtain ⟨suite, others, hpieces, hsuite⟩ := exists_suite_line hline after
  rw [beforeSuite?, hpieces, suiteOffset?, if_pos hsuite]

/-- The place before a suite is the start of the line in front of the first line with its macro. -/
theorem beforeSuite?_append {head above line : Text} (hwhole : head = [] ∨ head.getLast? = some '\n')
    (hhead : occursIn suiteMacro head = false) (hnl : '\n' ∉ above)
    (habove : occursIn suiteMacro above = false) (hline : '\n' ∉ line) (after : Text) :
    beforeSuite? (head ++ (above ++ '\n' :: (line ++ (suiteMacro ++ after)))) =
      some (byteSize head) := by
  obtain ⟨ls, rfl, hls⟩ := exists_unlines_of_whole hwhole
  obtain ⟨suite, others, hpieces, hsuite⟩ := exists_suite_line hline after
  rw [beforeSuite?, splitOn_unlines_append hls, List.splitOn_append_cons_self_of_not_mem hnl,
    hpieces, suiteOffset?_append 0 0 _ habove hsuite, Nat.zero_add]
  intro l hl
  exact occursIn_line_eq_false hhead hl

/-- A text without a suite has no place before one. -/
theorem beforeSuite?_eq_none {t : Text} (h : occursIn suiteMacro t = false) :
    beforeSuite? t = none :=
  suiteOffset?_eq_none 0 0 fun _ hl => occursIn_eq_false_of_mem_splitOn newline_not_mem_suiteMacro h hl

theorem beforeSuite?_isBoundary {t : Text} {offset : Nat} (h : beforeSuite? t = some offset) :
    IsBoundary offset t := by
  rcases suiteOffset?_eq_some h with rfl | ⟨before, after, hls, hne, rfl⟩
  · exact isBoundary_zero t
  · obtain ⟨rest, rfl⟩ := eq_unlines_append hne hls
    rw [Nat.zero_add]
    exact isBoundary_append _ rest

/-! ## 4. Places -/

theorem locateInside_eq_ok_iff {t : Text} {point : InsertionPoint} :
    locateInside t = .ok point ↔
    ∃ offset, insideClosers t (leadingNamespaces t) = .ok offset ∧
      point = ⟨offset, leadingNamespaces t, .insideNamespaces⟩ := by
  unfold locateInside
  cases h : insideClosers t (leadingNamespaces t) with
  | error e => simp [h, Except.map]
  | ok offset => simp [h, Except.map, eq_comm]

theorem locateInside_eq_error_iff {t : Text} {e : Error} :
    locateInside t = .error e ↔ insideClosers t (leadingNamespaces t) = .error e := by
  unfold locateInside
  cases h : insideClosers t (leadingNamespaces t) with
  | error cause => simp [h, Except.map]
  | ok offset => simp [h, Except.map]

/-- The two ways in which a block finds its place. -/
theorem locate_eq_ok {t : Text} {kind : BlockKind} {point : InsertionPoint}
    (h : locate t kind = .ok point) :
    (∃ offset, beforeSuite? t = some offset ∧ point = ⟨offset, 0, .beforeSuite⟩) ∨
    (∃ offset, insideClosers t (leadingNamespaces t) = .ok offset ∧
      point = ⟨offset, leadingNamespaces t, .insideNamespaces⟩) := by
  cases kind with
  | test => exact .inr (locateInside_eq_ok_iff.mp h)
  | mock =>
    simp only [locate] at h
    split at h
    · next offset ho =>
      cases h
      exact .inl ⟨offset, ho, rfl⟩
    · exact .inr (locateInside_eq_ok_iff.mp h)

/-- A place never lies inside a character. -/
theorem locate_isBoundary {t : Text} {kind : BlockKind} {point : InsertionPoint}
    (h : locate t kind = .ok point) : IsBoundary point.offset t := by
  rcases locate_eq_ok h with ⟨offset, ho, rfl⟩ | ⟨offset, ho, rfl⟩
  · exact beforeSuite?_isBoundary ho
  · obtain ⟨before, after, rfl, rfl, -⟩ := insideClosers_eq_ok_iff.mp ho
    exact isBoundary_append before after

/-- A block in front of a suite is put between the two parts of the text. -/
theorem apply_beforeSuite (before after block : Text) (closers : Nat) :
    apply (before ++ after) ⟨byteSize before, closers, .beforeSuite⟩ block =
      before ++ block ++ after := by
  simp only [apply, splice, tail, takeBytes_byteSize_append, dropBytes_byteSize_append,
    List.append_assoc]

/-- A block inside namespaces takes the place of the second part, and braces follow it. -/
theorem apply_insideNamespaces (before after block : Text) (closers : Nat) :
    apply (before ++ after) ⟨byteSize before, closers, .insideNamespaces⟩ block =
      before ++ block ++ (List.replicate closers [closer, '\n']).flatten := by
  simp only [apply, splice, tail, takeBytes_byteSize_append, List.append_assoc]

theorem placeAll_cons_ok {t new : Text} {b : Block} {point : InsertionPoint}
    (h : place t b = .ok (point, new)) (rest : List Block) :
    placeAll t (b :: rest) = .ok (point, new) :: placeAll new rest := by
  rw [placeAll, h]

/-- The text that a run of placements leaves: that of the last block that found a place. -/
def finalText (start : Text) (answers : List (Except Error (InsertionPoint × Text))) : Text :=
  answers.foldl (fun t answer => match answer with
    | .ok (_, new) => new
    | .error _ => t) start

theorem finalText_cons_ok (start new : Text) (point : InsertionPoint)
    (answers : List (Except Error (InsertionPoint × Text))) :
    finalText start (.ok (point, new) :: answers) = finalText new answers := rfl

end StubGen.Placement
