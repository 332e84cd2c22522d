import StubGen.Proofs.Layout
import StubGen.Proofs.Utf8

/-!
# Exact places

The two searches behind a placement, described by byte offsets alone: which offset each of them
gives, when it gives none, and, for the place before a suite, how a block that is put there moves it.

Results:

1. `closesFrom_iff`: the byte of a closing brace is always the character, so an offset that has it
   splits the text. `insideClosers_exact`: the place inside the last braces is the one offset with a
   brace from which on there are as many as asked for, and is missing exactly if the text has fewer.
2. `LeadsToSuite.insert`: what leads to a suite still does when whole lines are put above its last
   line. `beforeSuite?_above_first`: the place before a suite is the start of the line above the first
   one, and stays above that line when a block is put there.
-/

namespace StubGen.Placement

open Text

/-! ## 1. Closing braces -/

/-- The byte of a closing brace. -/
def closerByte : UInt8 := 0x7D

/-- The byte at the offset is a closing brace, and from there on the text has `count` of them. -/
structure ClosesFrom (t : Text) (count offset : Nat) : Prop where
  byte : (Utf8.encode t)[offset]? = some closerByte
  rest : (dropBytes offset t).count closer = count

section

variable {t : Text} {count offset : Nat}

/-- An offset with the byte of a closing brace lies in front of the character. -/
theorem closesFrom_iff :
    ClosesFrom t count offset ↔
    ∃ before after, t = before ++ closer :: after ∧ byteSize before = offset ∧
      (closer :: after).count closer = count := by
  have hbyte : closerByte.toNat < 0x80 := by decide
  have hchar : Char.ofNat closerByte.toNat = closer := by decide
  constructor
  · rintro ⟨hat, hrest⟩
    obtain ⟨before, after, rfl, rfl⟩ := (Utf8.getElem?_encode_eq_some_iff hbyte).mp hat
    rw [dropBytes_byteSize_append, hchar] at hrest
    exact ⟨before, after, by rw [hchar], rfl, hrest⟩
  · rintro ⟨before, after, rfl, rfl, hcount⟩
    refine ⟨(Utf8.getElem?_encode_eq_some_iff hbyte).mpr ⟨before, after, by rw [hchar], rfl⟩, ?_⟩
    rw [dropBytes_byteSize_append, hcount]

theorem ClosesFrom.isBoundary (h : ClosesFrom t count offset) : IsBoundary offset t := by
  obtain ⟨before, after, rfl, rfl, -⟩ := closesFrom_iff.mp h
  exact isBoundary_append before (closer :: after)

/-- With braces to stay inside of, the place is the offset from which on there are that many. -/
theorem insideClosers_eq_ok_iff_closesFrom (hpos : 0 < count) :
    insideClosers t count = .ok offset ↔ ClosesFrom t count offset := by
  rw [insideClosers_eq_ok_iff, closesFrom_iff]
  constructor
  · rintro ⟨before, after, ht, hsize, hcount, rfl | hhead⟩
    · rw [List.count_nil] at hcount
      omega
    · obtain ⟨rest, rfl⟩ := List.head?_eq_some_iff.mp hhead
      exact ⟨before, rest, ht, hsize, hcount⟩
  · rintro ⟨before, after, ht, hsize, hcount⟩
    exact ⟨before, closer :: after, ht, hsize, hcount, .inr rfl⟩

/-- No two offsets have the same number of closing braces from there on. -/
theorem ClosesFrom.unique {other : Nat} (h : ClosesFrom t count offset)
    (hother : ClosesFrom t count other) : other = offset := by
  have hpos : 0 < count := by
    obtain ⟨before, after, -, -, hcount⟩ := closesFrom_iff.mp h
    rw [← hcount, List.count_cons_self]
    exact Nat.succ_pos _
  have hplace := (insideClosers_eq_ok_iff_closesFrom hpos).mpr h
  rw [(insideClosers_eq_ok_iff_closesFrom hpos).mpr hother] at hplace
  exact Except.ok.inj hplace

end

/-- The place inside the last `count` closing braces is exact. With none to stay inside of it is the
end of the text. Otherwise it is the offset of the closing brace from which on there are `count` of
them, which is one offset at most and never inside a character; and there is no place exactly if the
text has fewer, as the error says. So a test has no place exactly if the text has fewer closing braces
than leading namespaces. -/
theorem insideClosers_exact (t : Text) :
    insideClosers t 0 = .ok (byteSize t) ∧
    (∀ count, 0 < count →
      (∀ offset, insideClosers t count = .ok offset ↔ ClosesFrom t count offset) ∧
      ∀ e, insideClosers t count = .error e ↔
        t.count closer < count ∧ e = .unbalancedTarget count (t.count closer)) ∧
    (∀ count offset, ClosesFrom t count offset →
      IsBoundary offset t ∧ ∀ other, ClosesFrom t count other → other = offset) ∧
    ∀ e, locate t .test = .error e ↔
      t.count closer < leadingNamespaces t ∧
        e = .unbalancedTarget (leadingNamespaces t) (t.count closer) := by
  refine ⟨insideClosers_zero t, fun count hpos => ⟨fun offset => ?_, fun e => ?_⟩,
    fun count offset h => ⟨h.isBoundary, fun other => h.unique⟩, fun e => ?_⟩
  · exact insideClosers_eq_ok_iff_closesFrom hpos
  · exact insideClosers_eq_error_iff
  · rw [locate, locateInside_eq_error_iff, insideClosers_eq_error_iff]

/-- Two closing braces behind a character of two bytes: both can be stayed inside of, and a third one
is missed. -/
theorem insideClosers_exact_accent :
    ClosesFrom "é\x7b\x7d\n\x7d".toList 2 3 ∧
    insideClosers "é\x7b\x7d\n\x7d".toList 2 = .ok 3 ∧
    insideClosers "é\x7b\x7d\n\x7d".toList 3 = .error (.unbalancedTarget 3 2) := by
  obtain ⟨-, hexact, -⟩ := insideClosers_exact "é\x7b\x7d\n\x7d".toList
  have hcloses : ClosesFrom "é\x7b\x7d\n\x7d".toList 2 3 := ⟨by decide, by decide⟩
  refine ⟨hcloses, ((hexact 2 (by decide)).1 3).mpr hcloses, ?_⟩
  exact ((hexact 3 (by decide)).2 _).mpr ⟨by decide, by decide⟩

/-! ## 2. Suites -/

open TestFile (IsMockText)

/-- What stands before the first suite of a text, if that is not on the first line: whole lines, the
line above that of the suite, and the suite's line as far as the suite. -/
structure LeadsToSuite (head above line : Text) : Prop where
  head_plain : IsMockText head
  above_line : '\n' ∉ above
  above_plain : occursIn suiteMacro above = false
  line_line : '\n' ∉ line

/-- As seen from the offset `first`, the start of the line above; on the first line, the start of the
text. -/
structure StartsAbove (t : Text) (first offset : Nat) : Prop where
  le_first : offset ≤ first
  boundary : IsBoundary offset t
  line_start : offset = 0 ∨ (takeBytes offset t).getLast? = some '\n'
  first_line : '\n' ∉ takeBytes first t → offset = 0
  between : (dropBytes offset (takeBytes first t)).count '\n' =
    if '\n' ∈ takeBytes first t then 1 else 0

section

variable {head above line : Text}

theorem startsAbove_of_first_line (hline : '\n' ∉ line) (rest : Text) :
    StartsAbove (line ++ rest) (byteSize line) 0 := by
  have hall : dropBytes 0 line = line := dropBytes_byteSize_append [] line
  refine ⟨Nat.zero_le _, isBoundary_zero _, .inl rfl, fun _ => rfl, ?_⟩
  rw [takeBytes_byteSize_append, if_neg hline, hall]
  exact List.count_eq_zero.mpr hline

theorem LeadsToSuite.startsAbove (h : LeadsToSuite head above line) (rest : Text) :
    StartsAbove (head ++ (above ++ '\n' :: line) ++ rest)
      (byteSize (head ++ (above ++ '\n' :: line))) (byteSize head) := by
  have hfirst : takeBytes (byteSize (head ++ (above ++ '\n' :: line)))
      (head ++ (above ++ '\n' :: line) ++ rest) = head ++ (above ++ '\n' :: line) :=
    takeBytes_byteSize_append _ rest
  have hnl : '\n' ∈ head ++ (above ++ '\n' :: line) := by simp
  constructor
  case le_first =>
    rw [byteSize_append]
    exact Nat.le_add_right _ _
  case boundary =>
    rw [List.append_assoc]
    exact isBoundary_append head _
  case line_start =>
    rw [List.append_assoc, takeBytes_byteSize_append]
    exact h.head_plain.whole.imp_left (congrArg byteSize)
  case first_line =>
    rw [hfirst]
    exact fun hnot => absurd hnl hnot
  case between =>
    rw [hfirst, if_pos hnl, dropBytes_byteSize_append, List.count_append, List.count_cons_self,
      List.count_eq_zero.mpr h.above_line, List.count_eq_zero.mpr h.line_line]

theorem LeadsToSuite.beforeSuite?_eq (h : LeadsToSuite head above line) (after : Text) :
    beforeSuite? (head ++ (above ++ '\n' :: (line ++ (suiteMacro ++ after)))) =
      some (byteSize head) :=
  beforeSuite?_append h.head_plain.whole h.head_plain.plain h.above_line h.above_plain h.line_line
    after

/-- Whole lines without a suite can be put above the line that is above the suite. -/
theorem LeadsToSuite.insert {block : Text} (h : LeadsToSuite head above line)
    (hblock : IsMockText block) : LeadsToSuite (head ++ block) above line :=
  { h with head_plain := h.head_plain.append hblock }

/-- What stands before the first suite leads to it, unless it is part of the first line. -/
theorem exists_leadsToSuite {before : Text} (hplain : occursIn suiteMacro before = false) :
    '\n' ∉ before ∨
    ∃ head above line, before = head ++ (above ++ '\n' :: line) ∧ LeadsToSuite head above line := by
  rcases exists_line_above before with hfirst | ⟨head, above, line, rfl, hwhole, habove, hline⟩
  · exact .inl hfirst
  · rw [occursIn_eq_false_iff] at hplain
    have hhead : occursIn suiteMacro head = false :=
      occursIn_eq_false_iff.mpr fun h => hplain (List.infix_append_of_infix_left h)
    have haboveplain : occursIn suiteMacro above = false := by
      rw [occursIn_eq_false_iff]
      exact fun h => hplain (List.infix_append_of_infix_right (List.infix_append_of_infix_left h))
    exact .inr ⟨head, above, line, rfl, ⟨hwhole, hhead⟩, habove, haboveplain, hline⟩

end

/-- With a suite there is a place above the first one, and it stays above the same line. -/
theorem exists_startsAbove {t : Text} {first : Nat} (h : firstOffset? suiteMacro t = some first) :
    ∃ offset, beforeSuite? t = some offset ∧ StartsAbove t first offset ∧
      ('\n' ∈ takeBytes first t → ∀ block, IsMockText block →
        beforeSuite? (takeBytes offset t ++ block ++ dropBytes offset t) =
          some (offset + byteSize block)) := by
  obtain ⟨before, after, rfl, rfl, hplain⟩ := exists_plain_of_firstOffset? (by decide) h
  rcases exists_leadsToSuite hplain with hline | ⟨head, above, line, rfl, hleads⟩
  · refine ⟨0, beforeSuite?_of_first_line hline after, startsAbove_of_first_line hline _, ?_⟩
    rw [takeBytes_byteSize_append]
    exact fun hnl => absurd hnl hline
  · have hplace := hleads.beforeSuite?_eq after
    refine ⟨byteSize head, ?_, hleads.startsAbove _, fun _ block hblock => ?_⟩
    · simpa only [List.append_assoc, List.cons_append] using hplace
    · have hmoved := (hleads.insert hblock).beforeSuite?_eq after
      rw [byteSize_append] at hmoved
      rw [List.append_assoc head, takeBytes_byteSize_append, dropBytes_byteSize_append]
      simpa only [List.append_assoc, List.cons_append] using hmoved

theorem beforeSuite?_eq_none_iff {t : Text} : beforeSuite? t = none ↔ ¬ suiteMacro <:+: t := by
  rw [← occursIn_eq_false_iff]
  refine ⟨fun hnone => ?_, beforeSuite?_eq_none⟩
  rw [← isSome_firstOffset?, Option.isSome_eq_false_iff, Option.isNone_iff_eq_none]
  cases hfirst : firstOffset? suiteMacro t with
  | none => rfl
  | some first =>
    obtain ⟨offset, hplace, -⟩ := exists_startsAbove hfirst
    rw [hnone] at hplace
    cases hplace

/-- The place before a suite is the start of the line above the first suite, and stays there. There
is none exactly if the text has no suite. Otherwise it is the start of a line, at or before the first
suite. If that is on the first line, the place is the start of the text; if not, one line feed lies
between the two, and a block of whole lines without a suite moves the place by its own size. -/
theorem beforeSuite?_above_first (t : Text) :
    (beforeSuite? t = none ↔ ¬ suiteMacro <:+: t) ∧
    (suiteMacro <:+: t → ∃ first offset, firstOffset? suiteMacro t = some first ∧
      beforeSuite? t = some offset ∧ StartsAbove t first offset ∧
      ('\n' ∈ takeBytes first t → ∀ block, IsMockText block →
        beforeSuite? (takeBytes offset t ++ block ++ dropBytes offset t) =
          some (offset + byteSize block))) := by
  refine ⟨beforeSuite?_eq_none_iff, fun hin => ?_⟩
  have hsome : (firstOffset? suiteMacro t).isSome = true := by
    rw [isSome_firstOffset?, occursIn_iff_isInfix]
    exact hin
  obtain ⟨first, hfirst⟩ := Option.isSome_iff_exists.mp hsome
  obtain ⟨offset, hplace, habove, hstays⟩ := exists_startsAbove hfirst
  exact ⟨first, offset, hfirst, hplace, habove, hstays⟩

/-- A suite in the middle of the third line, behind a character of two bytes and lines that end with a
carriage return: the place is the start of the second line, and a mock moves it. -/
theorem beforeSuite?_above_first_indented :
    suiteMacro <:+: "é\r\nusing T;\r\n\tTYPED_TEST_SUITE(A,T);".toList ∧
    beforeSuite? "é\r\nusing T;\r\n\tTYPED_TEST_SUITE(A,T);".toList = some 4 ∧
    StartsAbove "é\r\nusing T;\r\n\tTYPED_TEST_SUITE(A,T);".toList 15 4 ∧
    beforeSuite? "é\r\nclass M;\nusing T;\r\n\tTYPED_TEST_SUITE(A,T);".toList = some 13 := by
  have hin : suiteMacro <:+: "é\r\nusing T;\r\n\tTYPED_TEST_SUITE(A,T);".toList :=
    occursIn_iff_isInfix.mp (by decide +kernel)
  have hfirst : firstOffset? suiteMacro "é\r\nusing T;\r\n\tTYPED_TEST_SUITE(A,T);".toList =
      some 15 := by decide +kernel
  have hplace : beforeSuite? "é\r\nusing T;\r\n\tTYPED_TEST_SUITE(A,T);".toList = some 4 := by
    decide +kernel
  obtain ⟨first, offset, hf, ho, habove, hstays⟩ := (beforeSuite?_above_first _).2 hin
  obtain rfl : 15 = first := Option.some.inj (hfirst.symm.trans hf)
  obtain rfl : 4 = offset := Option.some.inj (hplace.symm.trans ho)
  have hmoved := hstays (by decide +kernel) "class M;\n".toList (by decide)
  have hnew : takeBytes 4 "é\r\nusing T;\r\n\tTYPED_TEST_SUITE(A,T);".toList ++ "class M;\n".toList ++
      dropBytes 4 "é\r\nusing T;\r\n\tTYPED_TEST_SUITE(A,T);".toList =
      "é\r\nclass M;\nusing T;\r\n\tTYPED_TEST_SUITE(A,T);".toList := by decide +kernel
  rw [hnew] at hmoved
  exact ⟨hin, hplace, habove, hmoved⟩

end StubGen.Placement
