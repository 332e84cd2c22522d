import StubGen.Proofs.Readings

/-!
# The end of a body

A scan looks for the end of the body only at the lines to which it comes. A declaration that is still
open at the last line of the body is read on beyond it, up to a closing parenthesis, and the scan goes
on from there.

Results:

1. `exists_bodyLayout`: a file is its lines before the end of the body, the line that ends it, and the
   rest; the rest has no part in where the body starts.
2. `scanBody_append_end`: a body that closes what it opens is scanned as if the file ended with it.
3. `Readings.exists_beyond`: a body that does not is read beyond its end.
4. `scan_within_body_iff`: what stands behind the body has no part in the members exactly if the body
   closes what it opens.
5. `scan_beyond_body`: a class that has the members of the next one.
-/

namespace StubGen

open Text

/-! ## 1. Bodies -/

/-- The lines of a body, without the one that ends it. -/
def bodyLines (ls : List Text) (start : Nat) : List Text := (ls.drop start).takeWhile (!endsBody ·)

/-- The index of the first line from `start` on that ends a body; the number of lines if none does. -/
def bodyEnd (ls : List Text) (start : Nat) : Nat := start + (bodyLines ls start).length

/-- The lines of a file before the end of a body, and the line that ends it. -/
structure BodyLayout (anchor : Text) (i start : Nat) (before : List Text) (last : Text) : Prop where
  anchored : findAnchor before anchor = .ok i
  start_eq : bodyStart (before ++ [last]) i = start
  start_le : start ≤ before.length
  inBody : ∀ line ∈ before.drop start, endsBody line = false
  ends : endsBody last = true

theorem endsBody_of_mem_bodyLines {ls : List Text} {start : Nat} {line : Text}
    (h : line ∈ bodyLines ls start) : endsBody line = false := by
  have hkept := List.all_eq_true.mp List.all_takeWhile line h
  simpa using hkept

theorem trim_ne_nil_of_endsBody {line : Text} (h : endsBody line = true) : trim line ≠ [] :=
  List.ne_nil_of_mem (mem_trim (by decide) ((occursIn_iff_isInfix.mp h).subset List.mem_cons_self))

/-- Only the lines up to one that is not blank decide whether a brace opens the body. -/
theorem openingLines_append {last : Text} (hlast : trim last ≠ []) (before after : List Text) :
    openingLines (before ++ last :: after) = openingLines (before ++ [last]) := by
  have hne : (trim last).isEmpty = false := List.isEmpty_eq_false_iff.mpr hlast
  induction before with
  | nil => simp [openingLines, hne]
  | cons line before ih => rw [List.cons_append, List.cons_append, openingLines, openingLines, ih]

theorem bodyStart_append {before : List Text} {last : Text} {i : Nat} (hi : i < before.length)
    (hlast : trim last ≠ []) (after : List Text) :
    bodyStart (before ++ last :: after) i = bodyStart (before ++ [last]) i := by
  rw [bodyStart, bodyStart, List.drop_append_of_le_length hi, List.drop_append_of_le_length hi,
    openingLines_append hlast]

theorem findAnchor_append {before : List Text} {anchor : Text} {i : Nat} (hi : i < before.length)
    (after : List Text) :
    findAnchor (before ++ after) anchor = .ok i ↔ findAnchor before anchor = .ok i := by
  rw [findAnchor_eq_ok_iff, findAnchor_eq_ok_iff, List.getElem?_append_left hi,
    List.take_append_of_le_length (Nat.le_of_lt hi)]

theorem lt_length_of_findAnchor {ls : List Text} {anchor : Text} {i : Nat}
    (h : findAnchor ls anchor = .ok i) : i < ls.length := by
  obtain ⟨-, line, hline, -⟩ := findAnchor_eq_ok_iff.mp h
  exact (List.getElem?_eq_some_iff.mp hline).1

namespace BodyLayout

variable {anchor : Text} {i start : Nat} {before : List Text} {last : Text}

theorem drop_eq (h : BodyLayout anchor i start before last) (after : List Text) :
    (before ++ last :: after).drop start = before.drop start ++ last :: after :=
  List.drop_append_of_le_length h.start_le

/-- Where a scan starts does not depend on what follows the body. -/
theorem scanMembers_eq (h : BodyLayout anchor i start before last) {text : Text} {after : List Text}
    (hlines : lines text = before ++ last :: after) (inInterface : Bool) :
    scanMembers text anchor inInterface =
      scanBody inInterface (start + 1) 0 (before.drop start ++ last :: after) := by
  have hi := lt_length_of_findAnchor h.anchored
  have hanchor := (findAnchor_append hi (last :: after)).mpr h.anchored
  have hstart := (bodyStart_append hi (trim_ne_nil_of_endsBody h.ends) after).trans h.start_eq
  simp only [scanMembers, hlines, hanchor, hstart, h.drop_eq after]

end BodyLayout

/-- A file with a line that ends the body. -/
theorem exists_bodyLayout {ls : List Text} {anchor : Text} {i : Nat}
    (hanchor : findAnchor ls anchor = .ok i) (hend : bodyEnd ls (bodyStart ls i) < ls.length) :
    ∃ before last after, ls = before ++ last :: after ∧
      BodyLayout anchor i (bodyStart ls i) before last ∧
      before.length = bodyEnd ls (bodyStart ls i) ∧
      before.drop (bodyStart ls i) = bodyLines ls (bodyStart ls i) := by
  generalize hstart : bodyStart ls i = start at hend ⊢
  have htake : (ls.take start).length = start := by
    rw [List.length_take]
    unfold bodyEnd at hend
    omega
  have hsplit : ls.drop start = bodyLines ls start ++ (ls.drop start).dropWhile (!endsBody ·) :=
    List.takeWhile_append_dropWhile.symm
  have hhead := List.head?_dropWhile_not (!endsBody ·) (ls.drop start)
  cases hrest : (ls.drop start).dropWhile (!endsBody ·) with
  | nil =>
    have hlength := congrArg List.length hsplit
    rw [hrest, List.append_nil, List.length_drop] at hlength
    unfold bodyEnd at hend
    omega
  | cons last after =>
    rw [hrest] at hsplit hhead
    have hlast : endsBody last = true := by simpa using hhead
    have hls : ls = (ls.take start ++ bodyLines ls start) ++ last :: after := by
      rw [List.append_assoc, ← hsplit, List.take_append_drop]
    have hlength : (ls.take start ++ bodyLines ls start).length = bodyEnd ls start := by
      rw [List.length_append, htake, bodyEnd]
    have hdrop : (ls.take start ++ bodyLines ls start).drop start = bodyLines ls start :=
      List.drop_left' htake
    generalize ls.take start ++ bodyLines ls start = before at hls hlength hdrop
    have hle : start ≤ before.length := by
      rw [hlength, bodyEnd]
      omega
    have hi : i < before.length := Nat.lt_of_lt_of_le (hstart ▸ lt_bodyStart ls i) hle
    refine ⟨before, last, after, hls, ⟨?_, ?_, hle, ?_, hlast⟩, hlength, hdrop⟩
    · rw [hls] at hanchor
      exact (findAnchor_append hi _).mp hanchor
    · rw [← bodyStart_append hi (trim_ne_nil_of_endsBody hlast) after, ← hls, hstart]
    · rw [hdrop]
      exact fun line => endsBody_of_mem_bodyLines

/-! ## 2. Bodies that close what they open -/

/-- A declaration that a scan can start on one of the lines is closed on a later one of them. -/
def closesAll (inInterface : Bool) : List Text → Bool
  | [] => true
  | line :: rest =>
    (!(isCandidate inInterface line && isWrapped line) || rest.any (·.contains ')')) &&
      closesAll inInterface rest

/-- Lines with a closing parenthesis are joined, whatever follows them. -/
theorem exists_joinToClose {ls : List Text} (h : ls.any (·.contains ')') = true) :
    ∃ joined, ∀ more, joinToClose (ls ++ more) = some joined := by
  induction ls with
  | nil => cases h
  | cons line rest ih =>
    by_cases hclose : line.contains ')' = true
    · exact ⟨(line, 0), fun more => by rw [List.cons_append, joinToClose, if_pos hclose]⟩
    · rw [List.any_cons, Bool.eq_false_iff.mpr hclose, Bool.false_or] at h
      obtain ⟨⟨text, extra⟩, hrest⟩ := ih h
      refine ⟨(line ++ text, extra + 1), fun more => ?_⟩
      rw [List.cons_append, joinToClose, if_neg hclose, hrest, Option.map_some]

/-- Lines behind the first closing parenthesis have no part in a declaration. -/
theorem exists_signatureFrom {line : Text} {rest : List Text}
    (h : isWrapped line = true → rest.any (·.contains ')') = true) :
    ∃ raw extra, extra ≤ rest.length ∧
      ∀ more, signatureFrom line (rest ++ more) = .ok (raw, extra) := by
  by_cases hwrapped : isWrapped line = true
  · have hclose : (line :: rest).any (·.contains ')') = true := by
      rw [List.any_cons, h hwrapped, Bool.or_true]
    obtain ⟨⟨raw, extra⟩, hjoined⟩ := exists_joinToClose hclose
    have halone := hjoined []
    rw [List.append_nil] at halone
    obtain ⟨found, hfound, -⟩ := (joinToClose_eq_some halone).1.closing
    have hextra := (List.getElem?_eq_some_iff.mp hfound).1
    refine ⟨raw, extra, Nat.le_of_lt_succ hextra, fun more => ?_⟩
    rw [signatureFrom, if_pos hwrapped, joinWrapped, ← List.cons_append, hjoined]
  · exact ⟨line, 0, Nat.zero_le _, fun more => by rw [signatureFrom, if_neg hwrapped]⟩

/-- A body that closes what it opens is scanned as if the file ended with it. -/
theorem scanBody_append_end {inInterface : Bool} {body : List Text} {last : Text}
    (hbody : ∀ line ∈ body, endsBody line = false) (hclosed : closesAll inInterface body = true)
    (hlast : endsBody last = true) (after : List Text) (number skip : Nat)
    (hskip : skip ≤ body.length) :
    scanBody inInterface number skip (body ++ last :: after) =
      scanBody inInterface number skip body := by
  induction body generalizing number skip with
  | nil =>
    obtain rfl : skip = 0 := Nat.le_zero.mp hskip
    exact scanBody_end hlast after
  | cons line rest ih =>
    rw [closesAll, Bool.and_eq_true] at hclosed
    obtain ⟨hline, hrest⟩ := hclosed
    have hstep := ih (fun other hother => hbody other (List.mem_cons_of_mem line hother)) hrest
      (number + 1)
    have hend := hbody line List.mem_cons_self
    cases skip with
    | succ skip => exact hstep skip (Nat.le_of_succ_le_succ hskip)
    | zero =>
      rw [List.cons_append]
      cases hcandidate : isCandidate inInterface line with
      | false =>
        rw [scanBody_pass hend hcandidate, scanBody_pass hend hcandidate]
        exact hstep 0 (Nat.zero_le _)
      | true =>
        rw [scanBody_read hend hcandidate, scanBody_read hend hcandidate]
        obtain ⟨raw, extra, hextra, hraw⟩ := @exists_signatureFrom line rest (by
          intro hwrapped
          simpa [hcandidate, hwrapped] using hline)
        have halone := hraw []
        rw [List.append_nil] at halone
        rw [hraw, halone]
        simp only [bind, Except.bind, hstep extra hextra]

/-! ## 3. Bodies that do not -/

theorem exists_of_not_closesAll {inInterface : Bool} {body : List Text}
    (h : closesAll inInterface body = false) :
    ∃ before line after, body = before ++ line :: after ∧ isCandidate inInterface line = true ∧
      isWrapped line = true ∧ ∀ other ∈ line :: after, ')' ∉ other := by
  induction body with
  | nil => cases h
  | cons line rest ih =>
    rw [closesAll, Bool.and_eq_false_iff] at h
    rcases h with h | h
    · simp only [Bool.or_eq_false_iff, Bool.not_eq_false', Bool.and_eq_true, List.any_eq_false,
        List.contains_iff_mem] at h
      obtain ⟨⟨hcandidate, hwrapped⟩, hopen⟩ := h
      refine ⟨[], line, rest, rfl, hcandidate, hwrapped, fun other hother => ?_⟩
      rcases List.mem_cons.mp hother with rfl | hother
      · exact (isWrapped_iff.mp hwrapped).2
      · exact hopen other hother
    · obtain ⟨before, line', after, rfl, hfound⟩ := ih h
      exact ⟨line :: before, line', after, rfl, hfound⟩

/-- A body that leaves a declaration open is read beyond its end: some declaration starts before the
end, and is closed only at the end or behind it. -/
theorem Readings.exists_beyond {inInterface : Bool} {ls body rest : List Text} {start stop : Nat}
    {ranges : List LineRange} (h : Readings inInterface ls start stop ranges)
    (hsplit : ls.drop start = body ++ rest) (hbody : ∀ line ∈ body, endsBody line = false)
    (hopen : closesAll inInterface body = false) :
    ∃ r : LineRange, r.Closes ls ∧ r.first < start + body.length ∧ start + body.length ≤ r.last ∧
      r.last < stop := by
  have hstop : start + body.length ≤ stop := by
    refine Nat.le_of_not_lt fun hlt => ?_
    obtain ⟨line, hmem, hline⟩ := exists_getElem?_of_drop hsplit h.start_le hlt
    have hend := h.stops line hline
    rw [hbody line hmem] at hend
    cases hend
  obtain ⟨before, line, after, rfl, hcandidate, hwrapped, hnone⟩ := exists_of_not_closesAll hopen
  have hdrop : ls.drop (start + before.length) = (line :: after) ++ rest := by
    rw [← List.drop_drop, hsplit, List.append_assoc, List.drop_left]
  have hlength : start + (before ++ line :: after).length =
      start + before.length + (line :: after).length := by
    rw [List.length_append, Nat.add_assoc]
  have hline : ls[start + before.length]? = some line := (of_drop_eq_cons hdrop).1
  have hlater : start + before.length < start + (before ++ line :: after).length := by
    rw [hlength, List.length_cons]
    omega
  obtain ⟨r, hr, hcloses, hfirst, hlast⟩ : ∃ r ∈ ranges, r.Closes ls ∧
      r.first ≤ start + before.length ∧ start + before.length ≤ r.last := by
    rcases h.exists_read (Nat.le_add_right _ _) (Nat.lt_of_lt_of_le hlater hstop) hline
      (.inr hcandidate) with ⟨r, hr, hsame, hread⟩ | ⟨r, hr, first, hread, hbefore, hlast⟩
    · have hextent := hread.extent
      rw [if_pos hwrapped] at hextent
      exact ⟨r, hr, hextent, Nat.le_of_eq hsame, hsame ▸ hread.first_le⟩
    · have hcloses := hread.closes_of_lt (Nat.lt_of_lt_of_le hbefore hlast)
      exact ⟨r, hr, hcloses, Nat.le_of_lt hbefore, hlast⟩
  refine ⟨r, hcloses, Nat.lt_of_le_of_lt hfirst hlater, ?_, (h.within r hr).2⟩
  refine Nat.le_of_not_lt fun hwithin => ?_
  obtain ⟨found, hfound, hclose⟩ := hcloses.closing
  obtain ⟨other, hmem, hother⟩ := exists_getElem?_of_drop hdrop hlast (hlength ▸ hwithin)
  obtain rfl : found = other := Option.some.inj (hfound.symm.trans hother)
  exact hnone found hmem hclose

/-! ## 4. What stands behind a body -/

namespace LineRange

variable {ls : List Text} {r : LineRange}

theorem Closes.last_lt (h : r.Closes ls) : r.last < ls.length := by
  obtain ⟨line, hline, -⟩ := h.closing
  exact (List.getElem?_eq_some_iff.mp hline).1

theorem Closes.append (h : r.Closes ls) (more : List Text) : r.Closes (ls ++ more) := by
  have hget : ∀ k, k ≤ r.last → (ls ++ more)[k]? = ls[k]? := fun k hk =>
    List.getElem?_append_left (Nat.lt_of_le_of_lt hk h.last_lt)
  refine ⟨h.first_le, ?_, fun k line hfirst hlast hline => ?_⟩
  · rw [hget r.last (Nat.le_refl _)]
    exact h.closing
  · rw [hget k (Nat.le_of_lt hlast)] at hline
    exact h.before k line hfirst hlast hline

theorem member_append (h : r.last < ls.length) (more : List Text) :
    r.member (ls ++ more) = r.member ls := by
  rw [member, member, joined, joined, List.take_append_of_le_length h]

/-- No declaration is closed on an empty line. -/
theorem Closes.last_le {before : List Text} {last : Text}
    (h : r.Closes (before ++ [last, []])) : r.last ≤ before.length := by
  obtain ⟨line, hline, hclose⟩ := h.closing
  refine Nat.le_of_not_lt fun hlt => ?_
  have hlast : r.last = before.length + 1 := by
    have := h.last_lt
    rw [List.length_append, List.length_cons, List.length_cons, List.length_nil] at this
    omega
  have hempty : (before ++ [last, []])[before.length + 1]? = some [] := by simp
  rw [hlast, hempty] at hline
  cases hline
  cases hclose

end LineRange

/-- Where a text has lines, another text can go on behind them. -/
theorem exists_lines_append (text : Text) (n : Nat) :
    ∃ head, ∀ rest, lines (head ++ rest) = (lines text).take n ++ lines rest := by
  refine ⟨unlines ((text.splitOn '\n').take n), fun rest => ?_⟩
  have hnl : ∀ piece ∈ (text.splitOn '\n').take n, '\n' ∉ piece := fun piece hpiece =>
    (of_mem_splitOn (List.mem_of_mem_take hpiece)).1
  rw [lines, splitOn_unlines_append hnl, List.map_append, List.map_take]
  rfl

/-- A method for a test of where a scan goes on. -/
def probe : Text := "virtual f()".toList

namespace BodyLayout

variable {anchor : Text} {inInterface : Bool} {i start stop : Nat} {before after : List Text}
  {last : Text} {members : List Member} {ranges : List LineRange}

theorem exists_readings (h : BodyLayout anchor i start before last) {text : Text}
    (hlines : lines text = before ++ last :: after)
    (hscan : scanMembers text anchor inInterface = .ok members) :
    ∃ stop ranges, Readings inInterface (before ++ last :: after) start stop ranges ∧
      members = (ranges.filter (LineRange.isMethod (before ++ last :: after))).map
        (LineRange.member (before ++ last :: after)) := by
  rw [h.scanMembers_eq hlines] at hscan
  exact (scanBody_eq_ok_iff.mp hscan).exists_readings (h.drop_eq after) rfl

theorem exists_beyond (h : BodyLayout anchor i start before last)
    (hreadings : Readings inInterface (before ++ last :: after) start stop ranges)
    (hopen : closesAll inInterface (before.drop start) = false) :
    ∃ r : LineRange, r.Closes (before ++ last :: after) ∧ r.first < before.length ∧
      before.length ≤ r.last ∧ r.last < stop := by
  have hlength : start + (before.drop start).length = before.length := by
    rw [List.length_drop]
    exact Nat.add_sub_cancel' h.start_le
  have hbeyond := hreadings.exists_beyond (h.drop_eq after) h.inBody hopen
  rwa [hlength] at hbeyond

/-- With an empty line behind it, a body that leaves a declaration open ends with a line that closes
it. -/
theorem close_mem_last (h : BodyLayout anchor i start before last)
    (hreadings : Readings inInterface (before ++ [last, []]) start stop ranges)
    (hopen : closesAll inInterface (before.drop start) = false) : ')' ∈ last := by
  obtain ⟨r, hcloses, -, hbeyond, -⟩ := h.exists_beyond hreadings hopen
  obtain ⟨line, hline, hclose⟩ := hcloses.closing
  have hlast : (before ++ [last, []])[before.length]? = some last := by simp
  rw [Nat.le_antisymm hcloses.last_le hbeyond, hlast] at hline
  cases hline
  exact hclose

/-- If the last line closes it, the scan goes on with the line behind the body. -/
theorem probe_mem_filter (h : BodyLayout anchor i start before last)
    (hreadings : Readings inInterface (before ++ [last, probe]) start stop ranges)
    (hopen : closesAll inInterface (before.drop start) = false) (hclose : ')' ∈ last) :
    ⟨before.length + 1, before.length + 1⟩ ∈
      ranges.filter (LineRange.isMethod (before ++ [last, probe])) := by
  have hlast : (before ++ [last, probe])[before.length]? = some last := by simp
  have hprobe : (before ++ [last, probe])[before.length + 1]? = some probe := by simp
  -- A declaration that starts before the end is closed there, so the scan comes to the next line.
  have hreached : before.length + 1 < stop := by
    obtain ⟨r, -, -, hbeyond, hstop⟩ := h.exists_beyond hreadings hopen
    refine Nat.lt_of_le_of_ne (Nat.lt_of_le_of_lt hbeyond hstop) ?_
    rintro rfl
    exact absurd (hreadings.stops probe hprobe) (by decide +kernel)
  have hcandidate : isCandidate inInterface probe = true := by
    have hvirtual : hasWord virtualWord probe = true := by decide +kernel
    rw [isCandidate, hvirtual, Bool.or_true]
  obtain ⟨final, hcloses, hmember⟩ := hreadings.exists_closes
    (Nat.le_succ_of_le h.start_le) hreached hprobe hcandidate (by decide +kernel)
  obtain rfl : final = before.length + 1 := by
    refine Nat.le_antisymm (Nat.le_of_not_lt fun hlt => ?_) hcloses.first_le
    exact hcloses.before _ probe (Nat.le_refl _) hlt hprobe (by decide +kernel)
  have hmethod : isDestructor (LineRange.member (before ++ [last, probe])
      ⟨before.length + 1, before.length + 1⟩).text = false := by
    have hname : isDestructor (trim (eraseWord virtualWord probe)) = false := by decide +kernel
    rw [LineRange.member, LineRange.joined_single hprobe]
    exact hname
  refine (hmember hmethod).resolve_right ?_
  rintro ⟨r, line, hread, -, hfirst, hlater⟩
  have hcloses := hread.closes_of_lt (Nat.lt_of_lt_of_le hfirst hlater)
  exact hcloses.before _ last (Nat.le_of_lt_succ hfirst) hlater hlast hclose

/-- A body after which any text can follow, and the members stay the same, closes what it opens. -/
theorem closesAll_of_stable (h : BodyLayout anchor i start before last) {members : List Member}
    {head : Text} (hhead : ∀ rest, lines (head ++ rest) = before ++ last :: lines rest)
    (hstable : ∀ rest, scanMembers (head ++ rest) anchor inInterface = .ok members) :
    closesAll inInterface (before.drop start) = true := by
  rw [← Bool.not_eq_false]
  intro hopen
  obtain ⟨stop, ranges, hreadings, hmembers⟩ := h.exists_readings (hhead []) (hstable [])
  obtain ⟨stop', ranges', hreadings', hmembers'⟩ :=
    h.exists_readings (hhead probe) (hstable probe)
  have hclose := h.close_mem_last hreadings hopen
  have hprobe := h.probe_mem_filter hreadings' hopen hclose
  -- The member on the line behind the body is none if that line is empty.
  have hmem := hmembers' ▸ List.mem_map_of_mem hprobe
  rw [hmembers] at hmem
  obtain ⟨r, hr, heq⟩ := List.mem_map.mp hmem
  have hcloses := hreadings.closes hr
  have hfirst : r.first = before.length + 1 := Nat.succ.inj (congrArg Member.lineNumber heq)
  have hle := Nat.le_trans hcloses.first_le hcloses.last_le
  exact absurd (hfirst ▸ hle) (Nat.not_succ_le_self _)

/-- Whatever follows a body that closes what it opens, the scan is that of the lines before its
end. -/
theorem scanMembers_of_closesAll (h : BodyLayout anchor i start before last)
    (hclosed : closesAll inInterface (before.drop start) = true) {text : Text} {after : List Text}
    (hlines : lines text = before ++ last :: after) :
    scanMembers text anchor inInterface =
      scanBody inInterface (start + 1) 0 (before.drop start) := by
  rw [h.scanMembers_eq hlines]
  exact scanBody_append_end h.inBody hclosed h.ends after (start + 1) 0 (Nat.zero_le _)

theorem exists_ranges_of_closesAll (h : BodyLayout anchor i start before last)
    (hclosed : closesAll inInterface (before.drop start) = true) {text : Text} {after : List Text}
    (hlines : lines text = before ++ last :: after) {members : List Member}
    (hscan : scanMembers text anchor inInterface = .ok members) :
    ∃ ranges : List LineRange, members = ranges.map (LineRange.member (lines text)) ∧
      ∀ r ∈ ranges, r.Closes (lines text) ∧ r.last < before.length := by
  rw [h.scanMembers_of_closesAll hclosed hlines] at hscan
  obtain ⟨stop, ranges, hreadings, hmembers⟩ := (scanBody_eq_ok_iff.mp hscan).exists_readings rfl rfl
  refine ⟨_, hmembers.trans (List.map_congr_left fun r hr => ?_), fun r hr => ?_⟩
  · rw [hlines]
    exact (LineRange.member_append (hreadings.closes hr).last_lt _).symm
  · rw [hlines]
    exact ⟨(hreadings.closes hr).append _, (hreadings.closes hr).last_lt⟩

end BodyLayout

/-- A body that has no end is scanned only if it closes what it opens. -/
theorem closesAll_of_length_le {ls : List Text} {inInterface : Bool} {start stop : Nat}
    {ranges : List LineRange} (hreadings : Readings inInterface ls start stop ranges)
    (hend : ls.length ≤ bodyEnd ls start) : closesAll inInterface (bodyLines ls start) = true := by
  rw [← Bool.not_eq_false]
  intro hopen
  obtain ⟨r, hcloses, -, hbeyond, -⟩ := hreadings.exists_beyond
    List.takeWhile_append_dropWhile.symm (fun line => endsBody_of_mem_bodyLines) hopen
  exact absurd (Nat.le_trans hend hbeyond) (Nat.not_le.mpr hcloses.last_lt)

/-- A scan does not read beyond the end of the body exactly if the body closes what it opens: every
declaration that can start on one of its lines has a closing parenthesis on a later one. Then the
members come from lines before the end, and any other text with the same lines up to the end gives
the same members. -/
theorem scan_within_body_iff {text anchor : Text} {inInterface : Bool} {members : List Member}
    {i : Nat} (hscan : scanMembers text anchor inInterface = .ok members)
    (hanchor : findAnchor (lines text) anchor = .ok i) :
    closesAll inInterface (bodyLines (lines text) (bodyStart (lines text) i)) = true ↔
      (∃ ranges : List LineRange, members = ranges.map (LineRange.member (lines text)) ∧
        ∀ r ∈ ranges, r.Closes (lines text) ∧
          r.last < bodyEnd (lines text) (bodyStart (lines text) i)) ∧
      ∀ other, (lines other).take (bodyEnd (lines text) (bodyStart (lines text) i) + 1) =
          (lines text).take (bodyEnd (lines text) (bodyStart (lines text) i) + 1) →
        scanMembers other anchor inInterface = .ok members := by
  rcases Nat.lt_or_ge (bodyEnd (lines text) (bodyStart (lines text) i)) (lines text).length with
    hend | hend
  · obtain ⟨before, last, after, hlines, hlayout, hlength, hbody⟩ := exists_bodyLayout hanchor hend
    rw [← hbody, ← hlength]
    have htake : (lines text).take (before.length + 1) = before ++ [last] := by
      rw [hlines, List.append_cons]
      exact List.take_left' (by rw [List.length_append, List.length_singleton])
    constructor
    · intro hclosed
      refine ⟨hlayout.exists_ranges_of_closesAll hclosed hlines hscan, fun other hother => ?_⟩
      have hsplit : lines other = before ++ last :: (lines other).drop (before.length + 1) := by
        rw [List.append_cons, ← htake, ← hother, List.take_append_drop]
      rw [hlayout.scanMembers_of_closesAll hclosed hsplit, ← hscan,
        hlayout.scanMembers_of_closesAll hclosed hlines]
    · rintro ⟨-, hstable⟩
      obtain ⟨head, hhead⟩ := exists_lines_append text (before.length + 1)
      rw [htake] at hhead
      refine hlayout.closesAll_of_stable (fun rest => ?_) fun rest => hstable (head ++ rest) ?_
      · rw [hhead, ← List.append_cons]
      · rw [hhead, htake]
        exact List.take_left' (by rw [List.length_append, List.length_singleton])
  · obtain ⟨j, stop, ranges, hfound, hreadings, hmembers⟩ := readings_of_scanMembers hscan
    rw [hanchor] at hfound
    cases hfound
    refine ⟨fun _ => ⟨⟨_, hmembers, fun r hr => ?_⟩, fun other hother => ?_⟩,
      fun _ => closesAll_of_length_le hreadings hend⟩
    · exact ⟨hreadings.closes hr, Nat.lt_of_lt_of_le (hreadings.closes hr).last_lt hend⟩
    · -- There is nothing behind the last line, so the other text has the same lines.
      rw [List.take_of_length_le (Nat.le_succ_of_le hend)] at hother
      have hlength := congrArg List.length hother
      rw [List.length_take] at hlength
      rw [List.take_of_length_le (by omega)] at hother
      rw [scanMembers, hother, ← scanMembers, hscan]

/-- A body with a wrapped method, and the same body in a file without the class behind it. -/
theorem scan_within_body_wrapped :
    let head := "class A\n\x7b\n    virtual int f(int a,\n        int b);\n\x7d;\n".toList
    let next := "class B\n\x7b\n    virtual void Run();\n\x7d;\n".toList
    scanMembers (head ++ next) "class A".toList false =
        .ok [⟨3, "int f(int a,        int b);".toList⟩] ∧
      scanMembers head "class A".toList false =
        .ok [⟨3, "int f(int a,        int b);".toList⟩] := by
  intro head next
  have hscan : scanMembers (head ++ next) "class A".toList false =
      .ok [⟨3, "int f(int a,        int b);".toList⟩] := by rfl
  have hanchor : findAnchor (lines (head ++ next)) "class A".toList = .ok 0 := by rfl
  have hend : bodyEnd (lines (head ++ next)) (bodyStart (lines (head ++ next)) 0) = 4 := by rfl
  obtain ⟨-, hstable⟩ := (scan_within_body_iff hscan hanchor).mp (by decide +kernel)
  rw [hend] at hstable
  exact ⟨hscan, hstable head (by rfl)⟩

/-- The scan of a class whose destructor is closed on the line that also ends the class goes on with
the next class, and finds its method. Without the next class there is none. -/
theorem scan_beyond_body :
    let head := "class A\n\x7b\n    virtual ~A(\n    ) \x7b\x7d\x7d;\n".toList
    let next := "class B\n\x7b\n    virtual void Run();\n\x7d;\n".toList
    findAnchor (lines (head ++ next)) "class A".toList = .ok 0 ∧
      bodyEnd (lines (head ++ next)) (bodyStart (lines (head ++ next)) 0) = 3 ∧
      scanMembers (head ++ next) "class A".toList false = .ok [⟨7, "void Run();".toList⟩] ∧
      (lines head).take 4 = (lines (head ++ next)).take 4 ∧
      scanMembers head "class A".toList false = .ok [] := by
  intro head next
  exact ⟨by rfl, by rfl, by rfl, by rfl, by rfl⟩

end StubGen
