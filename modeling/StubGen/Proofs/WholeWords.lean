import StubGen.Proofs.Text
import StubGen.Text.Word

/-!
# Whole words

A whole word ends at every character that can be no part of a word. So a text is read between these
characters, one stretch at a time, and what is erased from one stretch does not touch the next.

Results:

1. `isWord_of_isBlank`: a blank is no part of a word.
2. `wordInduction`: a text is made of stretches of word characters with other characters between them.
3. `hasWord_append_cons`: a word is looked for on both sides of such a character on its own.
4. `hasWord_eraseWord`: erasing a word leaves none behind, and makes none of what stood around it.
-/

namespace StubGen

/-! ## 1. Blanks -/

/-- The code points of the blank characters. -/
def blankCodes : List Nat :=
  [0x9, 0xA, 0xB, 0xC, 0xD, 0x20, 0x85, 0xA0, 0x1680, 0x2000, 0x2001, 0x2002, 0x2003, 0x2004, 0x2005,
    0x2006, 0x2007, 0x2008, 0x2009, 0x200A, 0x2028, 0x2029, 0x202F, 0x205F, 0x3000]

theorem toNat_mem_blankCodes {c : Char} (h : isBlank c = true) : c.toNat ∈ blankCodes := by
  simp only [isBlank, Bool.or_eq_true, Bool.and_eq_true, decide_eq_true_eq, beq_iff_eq] at h
  simp only [blankCodes, List.mem_cons, List.not_mem_nil, or_false]
  omega

theorem isWord_of_mem_blankCodes : ∀ n ∈ blankCodes, isWord (Char.ofNat n) = false := by
  decide +kernel

/-- A blank is no part of a word. -/
theorem isWord_of_isBlank {c : Char} (h : isBlank c = true) : isWord c = false := by
  rw [← Char.ofNat_toNat c]
  exact isWord_of_mem_blankCodes c.toNat (toNat_mem_blankCodes h)

theorem isBlank_of_isWord {c : Char} (h : isWord c = true) : isBlank c = false := by
  cases hblank : isBlank c with
  | false => rfl
  | true =>
    rw [isWord_of_isBlank hblank] at h
    cases h

namespace Text

/-! ## 2. Stretches of word characters -/

/-- Induction over the stretches of word characters of a text. -/
theorem wordInduction {motive : Text → Prop}
    (stretch : ∀ run, (∀ c ∈ run, isWord c = true) → motive run)
    (cut : ∀ run c rest, (∀ d ∈ run, isWord d = true) → isWord c = false → motive rest →
      motive (run ++ c :: rest)) (t : Text) : motive t := by
  have hall : ∀ run, (∀ c ∈ run, isWord c = true) → motive (run ++ t) := by
    induction t with
    | nil =>
      intro run hrun
      rw [List.append_nil]
      exact stretch run hrun
    | cons c t ih =>
      intro run hrun
      cases hc : isWord c with
      | true =>
        rw [List.append_cons]
        refine ih (run ++ [c]) fun d hd => ?_
        rcases List.mem_append.mp hd with hd | hd
        · exact hrun d hd
        · rwa [List.mem_singleton.mp hd]
      | false => exact cut run c t hrun hc (ih [] (by simp))
  exact hall [] (by simp)

theorem runs_cons (c : Char) (t : Text) : ∃ run others, runs (c :: t) = (c :: run) :: others := by
  rw [runs]
  split
  · split
    · exact ⟨_, _, rfl⟩
    · exact ⟨_, _, rfl⟩
  · exact ⟨_, _, rfl⟩

/-- A stretch of word characters that ends where a word ends is the first run. -/
theorem runs_append {run rest : Text} (hne : run ≠ []) (hrun : ∀ c ∈ run, isWord c = true)
    (hrest : ∀ c ∈ rest.head?, isWord c = false) : runs (run ++ rest) = run :: runs rest := by
  induction run with
  | nil => exact absurd rfl hne
  | cons c run ih =>
    have hc : isWord c = true := hrun c List.mem_cons_self
    cases run with
    | nil =>
      cases rest with
      | nil => rfl
      | cons d rest =>
        obtain ⟨first, others, hfirst⟩ := runs_cons d rest
        have hd : isWord d = false := hrest d rfl
        rw [List.singleton_append, runs, hfirst]
        simp [hc, hd]
    | cons d run =>
      have hd : isWord d = true := hrun d (by simp)
      have htail := ih (by simp) fun e he => hrun e (List.mem_cons_of_mem c he)
      rw [List.cons_append, runs, htail]
      simp [hc, hd]

theorem runs_stretch {run : Text} (hne : run ≠ []) (hrun : ∀ c ∈ run, isWord c = true) :
    runs run = [run] := by
  have hruns := @runs_append run [] hne hrun (by simp)
  rwa [List.append_nil] at hruns

/-! ## 3. Looking for a word and erasing it -/

/-- Without the word there is nothing to erase. -/
theorem eraseWord_of_not_hasWord {word t : Text} (h : hasWord word t = false) :
    eraseWord word t = t := by
  have hkeep : (runs t).filter (· != word) = runs t := by
    rw [List.filter_eq_self]
    intro run hrun
    rw [bne_iff_ne]
    rintro rfl
    rw [hasWord, List.contains_iff_mem.mpr hrun] at h
    cases h
  rw [eraseWord, hkeep, flatten_runs]

theorem mem_of_mem_eraseWord {word t : Text} {c : Char} (h : c ∈ eraseWord word t) : c ∈ t := by
  obtain ⟨run, hrun, hc⟩ := List.mem_flatten.mp h
  rw [← flatten_runs t]
  exact List.mem_flatten.mpr ⟨run, (List.mem_filter.mp hrun).1, hc⟩

section

variable {word : Text} (hne : word ≠ []) (hword : ∀ c ∈ word, isWord c = true)

include hword in
theorem ne_of_not_isWord {run : Text} {c : Char} (hc : isWord c = false) (hmem : c ∈ run) :
    run ≠ word := by
  rintro rfl
  rw [hword c hmem] at hc
  cases hc

include hword in
/-- What is no part of a word is not erased. -/
theorem mem_eraseWord {c : Char} (hc : isWord c = false) {t : Text} (h : c ∈ t) :
    c ∈ eraseWord word t := by
  rw [← flatten_runs t] at h
  obtain ⟨run, hrun, hmem⟩ := List.mem_flatten.mp h
  have hother := ne_of_not_isWord hword hc hmem
  exact List.mem_flatten.mpr ⟨run, List.mem_filter.mpr ⟨hrun, bne_iff_ne.mpr hother⟩, hmem⟩

include hword in
/-- A character that is no part of a word stands in front of the words that follow it, and stays. -/
theorem runs_cons_of_not_isWord {c : Char} (hc : isWord c = false) (t : Text) :
    hasWord word (c :: t) = hasWord word t ∧ eraseWord word (c :: t) = c :: eraseWord word t := by
  have hsingle : [c] ≠ word := ne_of_not_isWord hword hc List.mem_cons_self
  rw [hasWord, eraseWord, hasWord, eraseWord, runs]
  split
  · next d run others hruns =>
    rw [hruns]
    split
    · next hsame =>
      have hd : isWord d = false := by rw [← eq_of_beq hsame, hc]
      have hjoined : c :: d :: run ≠ word := ne_of_not_isWord hword hc List.mem_cons_self
      have hrun : d :: run ≠ word := ne_of_not_isWord hword hd List.mem_cons_self
      simp [hjoined, hjoined.symm, hrun, hrun.symm]
    · simp [hsingle, hsingle.symm]
  · simp [hsingle, hsingle.symm]

include hne in
theorem hasWord_stretch {run : Text} (hrun : ∀ c ∈ run, isWord c = true) :
    hasWord word run = (run == word) := by
  cases run with
  | nil =>
    rw [beq_eq_false_iff_ne.mpr hne.symm]
    rfl
  | cons c run => rw [hasWord, runs_stretch (List.cons_ne_nil c run) hrun, List.contains_cons,
      List.contains_nil, Bool.or_false, Bool.beq_comm]

theorem eraseWord_stretch {run : Text} (hrun : ∀ c ∈ run, isWord c = true) :
    eraseWord word run = if run = word then [] else run := by
  cases run with
  | nil => simp [eraseWord, runs]
  | cons c run =>
    rw [eraseWord, runs_stretch (List.cons_ne_nil c run) hrun]
    by_cases hsame : c :: run = word
    · simp [hsame]
    · simp [hsame]

include hne hword in
/-- The first stretch of a text is looked at on its own. -/
theorem hasWord_stretch_append {run : Text} {c : Char} (hrun : ∀ d ∈ run, isWord d = true)
    (hc : isWord c = false) (rest : Text) :
    hasWord word (run ++ c :: rest) = (run == word || hasWord word rest) := by
  cases run with
  | nil =>
    rw [List.nil_append, (runs_cons_of_not_isWord hword hc rest).1, beq_eq_false_iff_ne.mpr hne.symm,
      Bool.false_or]
  | cons d run =>
    have hruns := @runs_append (d :: run) (c :: rest) (by simp) hrun (by simpa using hc)
    have hrest := (runs_cons_of_not_isWord hword hc rest).1
    rw [hasWord] at hrest
    rw [hasWord, hruns, List.contains_cons, hrest, Bool.beq_comm]

include hword in
theorem eraseWord_stretch_append {run : Text} {c : Char} (hrun : ∀ d ∈ run, isWord d = true)
    (hc : isWord c = false) (rest : Text) :
    eraseWord word (run ++ c :: rest) =
      (if run = word then [] else run) ++ c :: eraseWord word rest := by
  cases run with
  | nil => simp [(runs_cons_of_not_isWord hword hc rest).2]
  | cons d run =>
    have hruns := @runs_append (d :: run) (c :: rest) (by simp) hrun (by simpa using hc)
    have hrest := (runs_cons_of_not_isWord hword hc rest).2
    rw [eraseWord] at hrest
    rw [eraseWord, hruns, ← hrest]
    by_cases hsame : d :: run = word
    · simp [hsame]
    · simp [hsame]

include hne hword

/-- A word does not stand across a character that is no part of a word. -/
theorem hasWord_append_cons {c : Char} (hc : isWord c = false) (a b : Text) :
    hasWord word (a ++ c :: b) = (hasWord word a || hasWord word b) := by
  induction a using wordInduction with
  | stretch run hrun => rw [hasWord_stretch_append hne hword hrun hc, hasWord_stretch hne hrun]
  | cut run d rest hrun hd ih =>
    rw [List.append_assoc, List.cons_append, hasWord_stretch_append hne hword hrun hd, ih,
      hasWord_stretch_append hne hword hrun hd, Bool.or_assoc]

/-- Erasing a word leaves none behind: what stood on its two sides does not become one. -/
theorem hasWord_eraseWord (t : Text) : hasWord word (eraseWord word t) = false := by
  have hkept : ∀ run, (if run = word then [] else run) ≠ word := by
    intro run
    split
    · exact hne.symm
    · next hother => exact hother
  have hchars : ∀ run, (∀ c ∈ run, isWord c = true) →
      ∀ c ∈ (if run = word then [] else run), isWord c = true := by
    intro run hrun
    split
    · simp
    · exact hrun
  induction t using wordInduction with
  | stretch run hrun =>
    rw [eraseWord_stretch hrun, hasWord_stretch hne (hchars run hrun), beq_eq_false_iff_ne]
    exact hkept run
  | cut run c rest hrun hc ih =>
    rw [eraseWord_stretch_append hword hrun hc,
      hasWord_stretch_append hne hword (hchars run hrun) hc, ih, Bool.or_false, beq_eq_false_iff_ne]
    exact hkept run

/-- Trimming a text gives it no new word. -/
theorem hasWord_trim {t : Text} (h : hasWord word t = false) : hasWord word (trim t) = false := by
  obtain ⟨before, after, ht, hbefore, hafter⟩ := exists_trim_append t
  have hfront : hasWord word (trim t ++ after) = false := by
    rcases List.eq_nil_or_concat before with rfl | ⟨before, c, rfl⟩
    · rwa [ht] at h
    · have hc : isWord c = false := isWord_of_isBlank (hbefore c (by simp))
      rw [ht, List.concat_eq_append, List.append_assoc, List.singleton_append,
        hasWord_append_cons hne hword hc, Bool.or_eq_false_iff] at h
      exact h.2
  cases after with
  | nil => rwa [List.append_nil] at hfront
  | cons c after =>
    rw [hasWord_append_cons hne hword (isWord_of_isBlank (hafter c List.mem_cons_self)),
      Bool.or_eq_false_iff] at hfront
    exact hfront.1

end

end Text

end StubGen
