import StubGen.Proofs.Members

/-!
# Which lines a scan reads

A scan comes to some lines of a body and reads others together with an earlier one. The lines that it
reads as one declaration are a range, and the ranges show what a scan takes and what it leaves.

Results:

1. `joinToClose_eq_some`: lines are joined up to the first closing parenthesis.
2. `Readings.pass`, `Readings.read`: one step of a scan; `Scans.exists_readings`: a whole scan reads
   ranges that do not overlap, and no line outside of them can declare a member.
3. `exists_ranges_of_scanMembers`: the members are the ranges that declare a method other than a
   destructor, each once and in order, and every such line of the body is in one of the ranges.
-/

namespace StubGen

open Text

/-! ## 1. Ranges of lines -/

/-- Consecutive lines, by the indices of the first and the last one. -/
structure LineRange where
  first : Nat
  last : Nat
  deriving DecidableEq

/-- The line ends a body. -/
def endsBody (line : Text) : Bool := occursIn "\x7d;".toList line

namespace LineRange

/-- The lines of the range, joined. -/
def joined (r : LineRange) (ls : List Text) : Text := ((ls.take (r.last + 1)).drop r.first).flatten

/-- The last line of the range is the first one in it that has a closing parenthesis. -/
structure Closes (r : LineRange) (ls : List Text) : Prop where
  first_le : r.first ≤ r.last
  closing : ∃ line, ls[r.last]? = some line ∧ ')' ∈ line
  before : ∀ k line, r.first ≤ k → k < r.last → ls[k]? = some line → ')' ∉ line

/-- A scan that comes to the first line of the range reads the range as one declaration. -/
structure IsRead (inInterface : Bool) (ls : List Text) (r : LineRange) (line : Text) : Prop where
  found : ls[r.first]? = some line
  inBody : endsBody line = false
  candidate : isCandidate inInterface line = true
  extent : if isWrapped line then r.Closes ls else r.last = r.first

/-- The lines of the range as a member. -/
def member (ls : List Text) (r : LineRange) : Member :=
  ⟨r.first + 1, trim (eraseWord virtualWord (r.joined ls))⟩

/-- The lines of the range declare a method, and not a destructor. -/
def isMethod (ls : List Text) (r : LineRange) : Bool :=
  (r.member ls).text.contains '(' && !isDestructor (r.member ls).text

end LineRange

theorem virtualWord_ne_nil : virtualWord ≠ [] := by decide

theorem isWord_of_mem_virtualWord : ∀ c ∈ virtualWord, isWord c = true :=
  List.all_eq_true.mp (show virtualWord.all isWord = true by decide)

/-- Lines are joined up to the first one with a closing parenthesis. -/
theorem joinToClose_eq_some {ls : List Text} {raw : Text} {extra : Nat}
    (h : joinToClose ls = some (raw, extra)) :
    LineRange.Closes ⟨0, extra⟩ ls ∧ raw = (ls.take (extra + 1)).flatten := by
  induction ls generalizing raw extra with
  | nil => simp [joinToClose] at h
  | cons line rest ih =>
    rw [joinToClose] at h
    split at h
    · next hclose =>
      cases h
      refine ⟨⟨Nat.le_refl 0, ⟨line, rfl, List.contains_iff_mem.mp hclose⟩, fun k _ _ hk => ?_⟩, ?_⟩
      · exact absurd hk (Nat.not_lt_zero k)
      · simp
    · next hopen =>
      obtain ⟨⟨tail, more⟩, htail, heq⟩ := Option.map_eq_some_iff.mp h
      cases heq
      obtain ⟨hrest, rfl⟩ := ih htail
      refine ⟨⟨Nat.zero_le _, hrest.closing, fun k other _ hk hother => ?_⟩, ?_⟩
      · cases k with
        | zero =>
          cases hother
          exact fun hmem => hopen (List.contains_iff_mem.mpr hmem)
        | succ k => exact hrest.before k other (Nat.zero_le k) (Nat.lt_of_succ_lt_succ hk) hother
      · simp

namespace LineRange

variable {inInterface : Bool} {ls : List Text} {r : LineRange} {line : Text}

theorem Closes.of_drop {start extra : Nat} (h : Closes ⟨0, extra⟩ (ls.drop start)) :
    Closes ⟨start, start + extra⟩ ls := by
  obtain ⟨-, ⟨line, hline, hclose⟩, hbefore⟩ := h
  rw [List.getElem?_drop] at hline
  refine ⟨Nat.le_add_right start extra, ⟨line, hline, hclose⟩, fun k other hk hlast hother => ?_⟩
  refine hbefore (k - start) other (Nat.zero_le _) (Nat.sub_lt_left_of_lt_add hk hlast) ?_
  rwa [List.getElem?_drop, Nat.add_sub_cancel' hk]

/-- The first closing parenthesis is found from any line on that does not come after it. -/
theorem Closes.of_le {k : Nat} (h : r.Closes ls) (hfirst : r.first ≤ k) (hlast : k ≤ r.last) :
    Closes ⟨k, r.last⟩ ls :=
  ⟨hlast, h.closing, fun j other hj hbefore => h.before j other (Nat.le_trans hfirst hj) hbefore⟩

theorem closes_single {k : Nat} (h : ls[k]? = some line) (hclose : ')' ∈ line) :
    Closes ⟨k, k⟩ ls :=
  ⟨Nat.le_refl k, ⟨line, h, hclose⟩, fun _ _ hfirst hlast => absurd hfirst (Nat.not_le.mpr hlast)⟩

theorem joined_single {k : Nat} (h : ls[k]? = some line) : joined ⟨k, k⟩ ls = line := by
  have hdrop : (ls.drop k).head? = some line := by rw [List.head?_drop, h]
  obtain ⟨rest, hrest⟩ := List.head?_eq_some_iff.mp hdrop
  simp only [joined]
  rw [List.drop_take, hrest, Nat.add_sub_cancel_left]
  simp

theorem IsRead.first_le (h : r.IsRead inInterface ls line) : r.first ≤ r.last := by
  have hextent := h.extent
  split at hextent
  · exact hextent.first_le
  · exact Nat.le_of_eq hextent.symm

/-- Only a wrapped line is read together with others. -/
theorem IsRead.closes_of_lt (h : r.IsRead inInterface ls line) (hlt : r.first < r.last) :
    r.Closes ls := by
  have hextent := h.extent
  split at hextent
  · exact hextent
  · exact absurd hextent (Nat.ne_of_gt hlt)

/-- A declaration that opens a parameter list is read up to the closing parenthesis. -/
theorem IsRead.closes_of_open (h : r.IsRead inInterface ls line) (hopen : '(' ∈ r.joined ls) :
    r.Closes ls := by
  have hextent := h.extent
  split at hextent
  · exact hextent
  · next hwrapped =>
    obtain ⟨first, last⟩ := r
    cases hextent
    rw [joined_single h.found] at hopen
    rw [isWrapped_iff, not_and, Classical.not_not] at hwrapped
    exact closes_single h.found (hwrapped hopen)

theorem mem_joined {k : Nat} {c : Char} (hfirst : r.first ≤ k) (hlast : k ≤ r.last)
    (hline : ls[k]? = some line) (hc : c ∈ line) : c ∈ r.joined ls := by
  refine List.mem_flatten.mpr ⟨line, List.mem_of_getElem? (i := k - r.first) ?_, hc⟩
  rw [List.getElem?_drop, Nat.add_sub_cancel' hfirst, List.getElem?_take_of_lt (by omega), hline]

theorem open_mem_member (h : '(' ∈ r.joined ls) : '(' ∈ (r.member ls).text :=
  mem_trim (by decide) (mem_eraseWord isWord_of_mem_virtualWord (by decide) h)

theorem exists_mem_of_mem_joined {c : Char} (h : c ∈ r.joined ls) : ∃ line ∈ ls, c ∈ line := by
  obtain ⟨line, hline, hc⟩ := List.mem_flatten.mp h
  exact ⟨line, List.mem_of_mem_take (List.mem_of_mem_drop hline), hc⟩

theorem isRead_of_signatureFrom {start extra : Nat} {rest : List Text} {raw : Text}
    (hlines : ls.drop start = line :: rest) (hbody : endsBody line = false)
    (hcandidate : isCandidate inInterface line = true)
    (hraw : signatureFrom line rest = .ok (raw, extra)) :
    IsRead inInterface ls ⟨start, start + extra⟩ line ∧ raw = joined ⟨start, start + extra⟩ ls := by
  obtain ⟨hfound, -⟩ := of_drop_eq_cons hlines
  unfold signatureFrom at hraw
  split at hraw
  · next hwrapped =>
    unfold joinWrapped at hraw
    split at hraw
    · next found hjoin =>
      cases hraw
      rw [← hlines] at hjoin
      obtain ⟨hcloses, rfl⟩ := joinToClose_eq_some hjoin
      refine ⟨⟨hfound, hbody, hcandidate, ?_⟩, ?_⟩
      · rw [if_pos hwrapped]
        exact hcloses.of_drop
      · simp only [joined]
        rw [List.drop_take, Nat.add_assoc, Nat.add_sub_cancel_left]
    · cases hraw
  · next hwrapped =>
    cases hraw
    refine ⟨⟨hfound, hbody, hcandidate, ?_⟩, (joined_single hfound).symm⟩
    rw [if_neg hwrapped, Nat.add_zero]

end LineRange

/-! ## 2. Scans -/

/-- What a scan from the line `start` on does: it stops at the line `stop`, the ranges are what it
reads before, and no other line that it comes to declares a member or ends the body. -/
structure Readings (inInterface : Bool) (ls : List Text) (start stop : Nat)
    (ranges : List LineRange) : Prop where
  start_le : start ≤ stop
  stops : ∀ line, ls[stop]? = some line → endsBody line = true
  isRead : ∀ r ∈ ranges, ∃ line, r.IsRead inInterface ls line
  within : ∀ r ∈ ranges, start ≤ r.first ∧ r.last < stop
  ordered : ranges.Pairwise (·.last < ·.first)
  others : ∀ k line, start ≤ k → k < stop → ls[k]? = some line →
    (∃ r ∈ ranges, r.first ≤ k ∧ k ≤ r.last) ∨
      endsBody line = false ∧ isCandidate inInterface line = false

namespace Readings

variable {inInterface : Bool} {ls : List Text} {start stop : Nat} {ranges : List LineRange}
  {line : Text}

theorem stopped (h : ∀ line, ls[start]? = some line → endsBody line = true) :
    Readings inInterface ls start start [] where
  start_le := Nat.le_refl start
  stops := h
  isRead := nofun
  within := nofun
  ordered := .nil
  others _ _ hstart hstop := absurd hstart (Nat.not_le.mpr hstop)

theorem pass (hrest : Readings inInterface ls (start + 1) stop ranges)
    (hfound : ls[start]? = some line) (hbody : endsBody line = false)
    (hother : isCandidate inInterface line = false) :
    Readings inInterface ls start stop ranges where
  start_le := Nat.le_of_succ_le hrest.start_le
  stops := hrest.stops
  isRead := hrest.isRead
  within r hr := ⟨Nat.le_of_succ_le (hrest.within r hr).1, (hrest.within r hr).2⟩
  ordered := hrest.ordered
  others k other hstart hstop hk := by
    rcases Nat.eq_or_lt_of_le hstart with rfl | hlater
    · obtain rfl : line = other := Option.some.inj (hfound.symm.trans hk)
      exact .inr ⟨hbody, hother⟩
    · exact hrest.others k other hlater hstop hk

theorem read {r : LineRange} (hrest : Readings inInterface ls (r.last + 1) stop ranges)
    (hread : r.IsRead inInterface ls line) :
    Readings inInterface ls r.first stop (r :: ranges) where
  start_le := by
    have hfirst := hread.first_le
    have hlast := hrest.start_le
    omega
  stops := hrest.stops
  isRead := by
    intro s hs
    rcases List.mem_cons.mp hs with rfl | hs
    · exact ⟨line, hread⟩
    · exact hrest.isRead s hs
  within := by
    intro s hs
    rcases List.mem_cons.mp hs with rfl | hs
    · exact ⟨Nat.le_refl _, hrest.start_le⟩
    · have hfirst := hread.first_le
      have hlater := (hrest.within s hs).1
      exact ⟨by omega, (hrest.within s hs).2⟩
  ordered := List.pairwise_cons.mpr ⟨fun s hs => (hrest.within s hs).1, hrest.ordered⟩
  others k other hstart hstop hk := by
    rcases Nat.lt_or_ge r.last k with hlater | hinside
    · refine (hrest.others k other hlater hstop hk).imp_left ?_
      rintro ⟨s, hs, hwithin⟩
      exact ⟨s, List.mem_cons_of_mem r hs, hwithin⟩
    · exact .inl ⟨r, List.mem_cons_self, hstart, hinside⟩

end Readings

theorem LineRange.toList_memberText? (ls : List Text) (r : LineRange) :
    ((memberText? (r.joined ls)).map (Member.mk (r.first + 1))).toList =
      ([r].filter (isMethod ls)).map (member ls) := by
  by_cases hmethod : r.isMethod ls = true
  · have htext : memberText? (r.joined ls) = some (r.member ls).text := if_pos hmethod
    rw [htext, List.filter_cons_of_pos hmethod]
    rfl
  · have htext : memberText? (r.joined ls) = none := if_neg hmethod
    rw [htext, List.filter_cons_of_neg hmethod]
    rfl

/-- Every scan reads ranges, and its members are what they declare. -/
theorem Scans.exists_readings {inInterface : Bool} {number start : Nat} {body ls : List Text}
    {members : List Member} (h : Scans inInterface number body members)
    (hbody : ls.drop start = body) (hnumber : number = start + 1) :
    ∃ stop ranges, Readings inInterface ls start stop ranges ∧
      members = (ranges.filter (LineRange.isMethod ls)).map (LineRange.member ls) := by
  induction h generalizing start with
  | done number =>
    refine ⟨start, [], .stopped fun line hline => ?_, rfl⟩
    rw [← List.head?_drop, hbody] at hline
    cases hline
  | stop number rest hend =>
    refine ⟨start, [], .stopped fun line hline => ?_, rfl⟩
    rw [(of_drop_eq_cons hbody).1] at hline
    cases hline
    exact hend
  | pass hend hother hrest ih =>
    obtain ⟨hfound, htail⟩ := of_drop_eq_cons hbody
    obtain ⟨stop, ranges, hreadings, hmembers⟩ := ih htail (by rw [hnumber])
    exact ⟨stop, ranges, hreadings.pass hfound hend hother, hmembers⟩
  | @read number extra line raw rest members hend hcandidate hraw hrest ih =>
    obtain ⟨hfound, htail⟩ := of_drop_eq_cons hbody
    have hrest : ls.drop (start + extra + 1) = rest.drop extra := by
      rw [← htail, List.drop_drop]
      congr 1
      omega
    obtain ⟨stop, ranges, hreadings, hmembers⟩ := ih hrest (by omega)
    obtain ⟨hread, rfl⟩ := LineRange.isRead_of_signatureFrom hbody hend hcandidate hraw
    refine ⟨stop, ⟨start, start + extra⟩ :: ranges, hreadings.read hread, ?_⟩
    rw [← List.singleton_append, List.filter_append, List.map_append, ← hmembers, hnumber]
    exact congrArg (· ++ members) (LineRange.toList_memberText? ls ⟨start, start + extra⟩)

/-! ## 3. Members -/

/-- The line belongs to a declaration that starts on an earlier line of the body. -/
def Continues (inInterface : Bool) (ls : List Text) (start k : Nat) : Prop :=
  ∃ r line, LineRange.IsRead inInterface ls r line ∧ start ≤ r.first ∧ r.first < k ∧ k ≤ r.last

/-- A scan stops at the first line that ends the body and belongs to no declaration, or behind the
last line. -/
structure StopsAt (inInterface : Bool) (ls : List Text) (start stop : Nat) : Prop where
  start_le : start ≤ stop
  stops : ∀ line, ls[stop]? = some line → endsBody line = true
  before : ∀ k line, start ≤ k → k < stop → ls[k]? = some line → endsBody line = true →
    Continues inInterface ls start k

/-- What every text of a member is like. -/
structure IsMemberText (text : Text) : Prop where
  opens : '(' ∈ text
  oneLine : '\n' ∉ text
  plain : hasWord virtualWord text = false
  method : isDestructor text = false

section

variable {inInterface : Bool} {ls : List Text} {start stop k : Nat} {ranges : List LineRange}
  {line : Text}

/-- A line before the stop that can declare a member or ends the body is read: as the first line of a
declaration, or as a later one. -/
theorem Readings.exists_read (h : Readings inInterface ls start stop ranges) (hstart : start ≤ k)
    (hstop : k < stop) (hline : ls[k]? = some line)
    (hcome : endsBody line = true ∨ isCandidate inInterface line = true) :
    (∃ r ∈ ranges, r.first = k ∧ r.IsRead inInterface ls line) ∨
      ∃ r ∈ ranges, ∃ first, r.IsRead inInterface ls first ∧ r.first < k ∧ k ≤ r.last := by
  rcases h.others k line hstart hstop hline with ⟨r, hr, hfirst, hlast⟩ | ⟨hbody, hother⟩
  · obtain ⟨first, hread⟩ := h.isRead r hr
    rcases Nat.eq_or_lt_of_le hfirst with rfl | hlater
    · obtain rfl : first = line := Option.some.inj (hread.found.symm.trans hline)
      exact .inl ⟨r, hr, rfl, hread⟩
    · exact .inr ⟨r, hr, first, hread, hlater, hlast⟩
  · simp [hbody, hother] at hcome

theorem Readings.stopsAt (h : Readings inInterface ls start stop ranges) :
    StopsAt inInterface ls start stop := by
  refine ⟨h.start_le, h.stops, fun k line hstart hstop hline hend => ?_⟩
  rcases h.exists_read hstart hstop hline (.inl hend) with ⟨r, -, -, hread⟩ | ⟨r, hr, first, hread⟩
  · rw [hread.inBody] at hend
    cases hend
  · exact ⟨r, first, hread.1, (h.within r hr).1, hread.2⟩

/-- Members are on different lines. -/
theorem Readings.nodup_lineNumber (h : Readings inInterface ls start stop ranges) :
    (((ranges.filter (LineRange.isMethod ls)).map (LineRange.member ls)).map
      Member.lineNumber).Nodup := by
  rw [List.map_map, List.nodup_iff_pairwise_ne, List.pairwise_map]
  refine (h.ordered.filter _).imp_of_mem fun {r s} hr _ hlt heq => ?_
  obtain ⟨line, hread⟩ := h.isRead r (List.mem_filter.mp hr).1
  have hsame : r.first = s.first := Nat.succ.inj heq
  exact Nat.not_lt.mpr hread.first_le (hsame ▸ hlt)

/-- The lines of a member go up to the first closing parenthesis. -/
theorem Readings.closes (h : Readings inInterface ls start stop ranges) {r : LineRange}
    (hr : r ∈ ranges.filter (LineRange.isMethod ls)) : r.Closes ls := by
  obtain ⟨hmem, hmethod⟩ := List.mem_filter.mp hr
  obtain ⟨line, hread⟩ := h.isRead r hmem
  rw [LineRange.isMethod, Bool.and_eq_true, List.contains_iff_mem] at hmethod
  exact hread.closes_of_open (mem_of_mem_eraseWord (mem_of_mem_trim hmethod.1))

/-- A line before the stop that opens a parameter list and can declare a member is closed, and it is
the first line of a member, a destructor, or part of a declaration that starts earlier. -/
theorem Readings.exists_closes (h : Readings inInterface ls start stop ranges) (hstart : start ≤ k)
    (hstop : k < stop) (hline : ls[k]? = some line)
    (hcandidate : isCandidate inInterface line = true) (hopen : '(' ∈ line) :
    ∃ last, LineRange.Closes ⟨k, last⟩ ls ∧
      (isDestructor (LineRange.member ls ⟨k, last⟩).text = false →
        ⟨k, last⟩ ∈ ranges.filter (LineRange.isMethod ls) ∨ Continues inInterface ls start k) := by
  rcases h.exists_read hstart hstop hline (.inr hcandidate) with
    ⟨⟨first, last⟩, hr, rfl, hread⟩ | ⟨r, hr, first, hread, hlater, hlast⟩
  · have hjoined := LineRange.mem_joined (Nat.le_refl first) hread.first_le hline hopen
    refine ⟨last, hread.closes_of_open hjoined, fun hmethod => .inl ?_⟩
    refine List.mem_filter.mpr ⟨hr, ?_⟩
    rw [LineRange.isMethod, hmethod, Bool.not_false, Bool.and_true, List.contains_iff_mem]
    exact LineRange.open_mem_member hjoined
  · have hcloses := hread.closes_of_lt (Nat.lt_of_lt_of_le hlater hlast)
    refine ⟨r.last, hcloses.of_le (Nat.le_of_lt hlater) hlast, fun _ => .inr ?_⟩
    exact ⟨r, first, hread, (h.within r hr).1, hlater, hlast⟩

end

theorem newline_not_mem_line {text line : Text} (h : line ∈ lines text) : '\n' ∉ line := by
  obtain ⟨piece, hpiece, rfl⟩ := List.mem_map.mp h
  intro hnl
  rcases eq_dropReturn piece with heq | heq
  · exact (of_mem_splitOn hpiece).1 (heq ▸ hnl)
  · exact (of_mem_splitOn hpiece).1 (by rw [heq]; exact List.mem_append_left _ hnl)

/-- What the text of a member is like: it has no line feed because it comes from lines, and it has no
word `virtual` because erasing a word does not make a new one. -/
theorem isMemberText_of_isMethod {text : Text} {r : LineRange}
    (h : r.isMethod (lines text) = true) : IsMemberText (r.member (lines text)).text := by
  rw [LineRange.isMethod, Bool.and_eq_true, List.contains_iff_mem, Bool.not_eq_true'] at h
  refine ⟨h.1, fun hnl => ?_, ?_, h.2⟩
  · obtain ⟨line, hline, hmem⟩ :=
      LineRange.exists_mem_of_mem_joined (mem_of_mem_eraseWord (mem_of_mem_trim hnl))
    exact newline_not_mem_line hline hmem
  · exact hasWord_trim virtualWord_ne_nil isWord_of_mem_virtualWord
      (hasWord_eraseWord virtualWord_ne_nil isWord_of_mem_virtualWord _)

theorem lt_bodyStart (ls : List Text) (i : Nat) : i < bodyStart ls i := by
  rw [bodyStart]
  omega

theorem readings_of_scanMembers {text anchor : Text} {inInterface : Bool} {members : List Member}
    (h : scanMembers text anchor inInterface = .ok members) :
    ∃ i stop ranges, findAnchor (lines text) anchor = .ok i ∧
      Readings inInterface (lines text) (bodyStart (lines text) i) stop ranges ∧
      members = (ranges.filter (LineRange.isMethod (lines text))).map
        (LineRange.member (lines text)) := by
  simp only [scanMembers] at h
  split at h
  · cases h
  · next i hanchor =>
    obtain ⟨stop, ranges, hreadings, hmembers⟩ := (scanBody_eq_ok_iff.mp h).exists_readings rfl rfl
    exact ⟨i, stop, ranges, hanchor, hreadings, hmembers⟩

/-- The members of a body are ranges of its lines, in order and without a common line. Each range goes
from the line of the member to the first closing parenthesis, and the text of the member is what its
lines declare, without the word `virtual`. And no member is left out: a line before the stop that can
declare one, opens a parameter list and declares no destructor is the line of exactly one member, or
belongs to a declaration that starts earlier. -/
theorem exists_ranges_of_scanMembers {text anchor : Text} {inInterface : Bool}
    {members : List Member} (h : scanMembers text anchor inInterface = .ok members) :
    ∃ i stop, ∃ ranges : List LineRange, findAnchor (lines text) anchor = .ok i ∧
      i < bodyStart (lines text) i ∧
      StopsAt inInterface (lines text) (bodyStart (lines text) i) stop ∧
      members = ranges.map (LineRange.member (lines text)) ∧
      ranges.Pairwise (·.last < ·.first) ∧
      (∀ r ∈ ranges, bodyStart (lines text) i ≤ r.first ∧ r.last < stop ∧ r.Closes (lines text) ∧
        IsMemberText (r.member (lines text)).text) ∧
      ∀ k line, bodyStart (lines text) i ≤ k → k < stop → (lines text)[k]? = some line →
        isCandidate inInterface line = true → '(' ∈ line →
        ∃ last, LineRange.Closes ⟨k, last⟩ (lines text) ∧
          (isDestructor (LineRange.member (lines text) ⟨k, last⟩).text = false →
            (LineRange.member (lines text) ⟨k, last⟩ ∈ members ∧
              (members.map Member.lineNumber).count (k + 1) = 1) ∨
            Continues inInterface (lines text) (bodyStart (lines text) i) k) := by
  obtain ⟨i, stop, ranges, hanchor, hreadings, rfl⟩ := readings_of_scanMembers h
  refine ⟨i, stop, ranges.filter (LineRange.isMethod (lines text)), hanchor, lt_bodyStart _ i,
    hreadings.stopsAt, rfl, hreadings.ordered.filter _, fun r hr => ?_, ?_⟩
  · obtain ⟨hmem, hmethod⟩ := List.mem_filter.mp hr
    obtain ⟨hfirst, hlast⟩ := hreadings.within r hmem
    exact ⟨hfirst, hlast, hreadings.closes hr, isMemberText_of_isMethod hmethod⟩
  · intro k line hstart hstop hline hcandidate hopen
    obtain ⟨last, hcloses, hmember⟩ :=
      hreadings.exists_closes hstart hstop hline hcandidate hopen
    refine ⟨last, hcloses, fun hmethod => (hmember hmethod).imp_left fun hr => ?_⟩
    have hmem := List.mem_map_of_mem (f := LineRange.member (lines text)) hr
    have hnumber := List.mem_map_of_mem (f := Member.lineNumber) hmem
    exact ⟨hmem, hreadings.nodup_lineNumber.count.trans (if_pos hnumber)⟩

/-- A body with a destructor, a wrapped method that has the word `virtual` twice, and a field. -/
theorem exists_ranges_of_scanMembers_wrapped :
    let text := ("class A\n\x7b\n  virtual ~A();\n  virtual int f(int a,\n    virtual B b);\n" ++
      "  int c;\n\x7d;\n").toList
    let m : Member := ⟨4, "int f(int a,     B b);".toList⟩
    scanMembers text "class A".toList false = .ok [m] ∧ IsMemberText m.text ∧
      ∃ r : LineRange, m = r.member (lines text) ∧ 2 ≤ r.first ∧ r.Closes (lines text) := by
  intro text m
  have hscan : scanMembers text "class A".toList false = .ok [m] := by rfl
  have hfirst : findAnchor (lines text) "class A".toList = .ok 0 := by rfl
  obtain ⟨i, stop, ranges, hanchor, -, -, hmembers, -, hranges, -⟩ :=
    exists_ranges_of_scanMembers hscan
  rw [hfirst] at hanchor
  cases hanchor
  obtain ⟨r, hr, hm⟩ := List.mem_map.mp (hmembers ▸ List.mem_singleton_self m)
  obtain ⟨hstart, -, hcloses, htext⟩ := hranges r hr
  exact ⟨hscan, hm ▸ htext, r, hm.symm, hstart, hcloses⟩

end StubGen
