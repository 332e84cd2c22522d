import StubGen.CommandLine.Run
import StubGen.Proofs.Members

/-!
# Anchors given by number

The user can give the anchor line by its number. What is kept of the number is the text of that line,
and the line is then looked for by its text, from the top of the file. So the number means its line
unless an earlier line has the same text but for blanks at both ends.

Results:

1. `resolve_number_eq_ok_iff`, `resolve_number_eq_error_iff`: the text that a number stands for.
2. `numbered_line_found_iff`: which line is found for a number.
3. `numbered_line_mistaken`: for the second of two methods that start alike, the first one is found.
-/

namespace StubGen

open Text

/-- A line that is not blank is found by its own text, or an earlier one is. -/
theorem exists_findAnchor {ls : List Text} {k : Nat} {line : Text} (hline : ls[k]? = some line)
    (hblank : trim line ≠ []) : ∃ i, i ≤ k ∧ findAnchor ls line = .ok i := by
  cases hfind : ls.findIdx? (trim · == trim line) with
  | none =>
    have hother := List.findIdx?_eq_none_iff.mp hfind line (List.mem_of_getElem? hline)
    rw [beq_self_eq_true] at hother
    cases hother
  | some i =>
    have hfound : findAnchor ls line = .ok i := by simp [findAnchor, hblank, hfind]
    obtain ⟨-, other, -, -, hearlier⟩ := findAnchor_eq_ok_iff.mp hfound
    refine ⟨i, Nat.le_of_not_lt fun hlt => hearlier line ?_ rfl, hfound⟩
    rw [List.mem_iff_getElem?]
    exact ⟨k, (List.getElem?_take_of_lt hlt).trans hline⟩

namespace CommandLine.AnchorChoice

variable {text : Text} {n : Nat}

/-- A number stands for the line with that number. -/
theorem resolve_number_eq_ok_iff {line : Text} :
    resolve ⟨none, some n⟩ text = .ok line ↔ ∃ k, n = k + 1 ∧ (lines text)[k]? = some line := by
  cases n with
  | zero => simp [resolve]
  | succ k =>
    cases hline : (lines text)[k]? with
    | none => simp [resolve, hline]
    | some found => simp [resolve, hline]

theorem resolve_number_eq_error_iff {e : Error} :
    resolve ⟨none, some n⟩ text = .error e ↔
      (n = 0 ∨ (lines text).length < n) ∧ e = .lineOutOfRange n := by
  cases n with
  | zero => simp [resolve, eq_comm]
  | succ k =>
    cases hline : (lines text)[k]? with
    | none =>
      have hlength := List.getElem?_eq_none_iff.mp hline
      simp [resolve, hline, Nat.lt_succ_of_le hlength, eq_comm]
    | some found =>
      have hlength := (List.getElem?_eq_some_iff.mp hline).1
      simp [resolve, hline, Nat.not_lt.mpr hlength]

/-- The number of a line that is not blank stands for the text of the line, and for that text the
line itself is found exactly if no earlier line equals it but for blanks at both ends; otherwise an
earlier one is. Any number for which there is no line is refused. -/
theorem numbered_line_found_iff (text : Text) :
    (∀ k line, (lines text)[k]? = some line → trim line ≠ [] →
      resolve ⟨none, some (k + 1)⟩ text = .ok line ∧
      ∃ i, findAnchor (lines text) line = .ok i ∧ i ≤ k ∧
        (i = k ↔ ∀ earlier ∈ (lines text).take k, trim earlier ≠ trim line)) ∧
    ∀ n, n = 0 ∨ (lines text).length < n →
      ∃ e, resolve ⟨none, some n⟩ text = .error e ∧
        e.message = "Line ".toList ++ ofNat n ++ " is out of range for this file".toList := by
  constructor
  · intro k line hline hblank
    obtain ⟨i, hle, hfound⟩ := exists_findAnchor hline hblank
    refine ⟨resolve_number_eq_ok_iff.mpr ⟨k, rfl, hline⟩, i, hfound, hle, ?_⟩
    constructor
    · rintro rfl
      obtain ⟨-, other, -, -, hearlier⟩ := findAnchor_eq_ok_iff.mp hfound
      exact hearlier
    · intro hearlier
      have hself := findAnchor_eq_ok_iff.mpr ⟨hblank, line, hline, rfl, hearlier⟩
      rw [hfound] at hself
      exact Except.ok.inj hself
  · intro n hn
    exact ⟨.lineOutOfRange n, resolve_number_eq_error_iff.mpr ⟨hn, rfl⟩, rfl⟩

/-- The third line of a text with blank lines and different methods, and a number beyond its end. -/
theorem numbered_line_found_widget :
    let text := "int W::f()\n\n  int W::g(\n    int a)\n".toList
    (resolve ⟨none, some 3⟩ text = .ok "  int W::g(".toList ∧
        findAnchor (lines text) "  int W::g(".toList = .ok 2) ∧
      ∃ e, resolve ⟨none, some 18446744073709551615⟩ text = .error e ∧
        e.message = "Line 18446744073709551615 is out of range for this file".toList := by
  intro text
  obtain ⟨hlines, hbeyond⟩ := numbered_line_found_iff text
  obtain ⟨hresolve, i, hfound, -, hfirst⟩ :=
    hlines 2 "  int W::g(".toList (by rfl) (by decide +kernel)
  have hself : i = 2 := hfirst.mpr (by decide +kernel)
  rw [hself] at hfound
  have hmessage : "Line ".toList ++ ofNat 18446744073709551615 ++
      " is out of range for this file".toList =
        "Line 18446744073709551615 is out of range for this file".toList := by decide +kernel
  rw [← hmessage]
  exact ⟨⟨hresolve, hfound⟩, hbeyond _ (.inr (by decide +kernel))⟩

/-- Two methods that start with the same line: by the number of the second, the stub is made for the
first. -/
theorem numbered_line_mistaken :
    let text := "void W::f(\n    int a) \x7b\x7d\nvoid W::f(\n    long b) \x7b\x7d\n".toList
    let line := "void W::f(".toList
    let d : Declaration := ⟨"void".toList, ['f'], [⟨"int".toList, ['a']⟩], "(    int a)".toList, false⟩
    ((lines text)[2]? = some line ∧ trim line ≠ []) ∧
      resolve ⟨none, some 3⟩ text = .ok line ∧ findAnchor (lines text) line = .ok 0 ∧
      TestStub.generate (SourceNames.ofPath "W.cpp".toList) text line none =
        .ok ⟨"WTest".toList, d⟩ := by
  intro text line d
  exact ⟨⟨by rfl, by decide⟩, by rfl, by rfl, by rfl⟩

end CommandLine.AnchorChoice

end StubGen
