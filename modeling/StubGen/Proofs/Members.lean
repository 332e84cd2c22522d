import StubGen.Proofs.Declaration
import StubGen.Proofs.WholeWords
import StubGen.Proofs.Words
import StubGen.TestStub

/-!
# Members of a body and stubs for them

A mock reads all members of a body in one scan. A stub reads one declaration, from the line that
equals its anchor. For a member that is not written with `virtual`, both read the same.

Results:

1. `findAnchor_eq_ok_iff`: the line that an anchor means.
2. `scanBody_end`, `scanBody_pass`, `scanBody_read`: what a scan does with one line;
   `scanBody_eq_ok_iff`: a scan that succeeds follows the rules of `Scans`;
   `Scans.exists_readFrom`: every member is read from a line of the body.
3. `parse_of_parse_trim`: blanks around a declaration do not matter.
4. `generate_of_scanned`: the stub for the line of a member is the one for its scanned declaration.
-/

namespace StubGen

open Text

/-! ## 1. Anchors -/

/-- An anchor means the first line that equals it but for blanks at both ends. -/
theorem findAnchor_eq_ok_iff {ls : List Text} {anchor : Text} {i : Nat} :
    findAnchor ls anchor = .ok i ↔ trim anchor ≠ [] ∧ ∃ line, ls[i]? = some line ∧
      trim line = trim anchor ∧ ∀ earlier ∈ ls.take i, trim earlier ≠ trim anchor := by
  have hfirst : ls.findIdx? (trim · == trim anchor) = some i ↔ ∃ line, ls[i]? = some line ∧
      trim line = trim anchor ∧ ∀ earlier ∈ ls.take i, trim earlier ≠ trim anchor := by
    rw [List.findIdx?_eq_some_iff_getElem]
    constructor
    · rintro ⟨hi, hline, hearlier⟩
      refine ⟨ls[i], List.getElem?_eq_getElem hi, eq_of_beq hline, fun earlier hmem => ?_⟩
      obtain ⟨j, hj, rfl⟩ := List.mem_take_iff_getElem.mp hmem
      simpa using hearlier j (by omega)
    · rintro ⟨line, hget, hline, hearlier⟩
      obtain ⟨hi, rfl⟩ := List.getElem?_eq_some_iff.mp hget
      refine ⟨hi, beq_iff_eq.mpr hline, fun j hj => ?_⟩
      have hmem : ls[j] ∈ ls.take i := List.mem_take_iff_getElem.mpr ⟨j, by omega, rfl⟩
      simpa using hearlier _ hmem
  rw [← hfirst]
  unfold findAnchor
  by_cases hblank : trim anchor = []
  · simp [hblank]
  · cases hfind : ls.findIdx? (trim · == trim anchor) with
    | none => simp [hblank, hfind]
    | some j => simp [hblank, hfind]

/-! ## 2. Scans -/

/-- What a scan does from the line with the given number on: it ends with the lines or with the body,
it passes a line that declares no member, or it reads a declaration together with the lines that
belong to it. -/
inductive Scans (inInterface : Bool) : (number : Nat) → List Text → List Member → Prop where
  | done (number : Nat) : Scans inInterface number [] []
  | stop {line : Text} (number : Nat) (rest : List Text)
      (hend : occursIn "\x7d;".toList line = true) :
    Scans inInterface number (line :: rest) []
  | pass {number : Nat} {line : Text} {rest : List Text} {members : List Member}
      (hbody : occursIn "\x7d;".toList line = false)
      (hother : isCandidate inInterface line = false)
      (hrest : Scans inInterface (number + 1) rest members) :
    Scans inInterface number (line :: rest) members
  | read {number extra : Nat} {line raw : Text} {rest : List Text} {members : List Member}
      (hbody : occursIn "\x7d;".toList line = false)
      (hcandidate : isCandidate inInterface line = true)
      (hraw : signatureFrom line rest = .ok (raw, extra))
      (hrest : Scans inInterface (number + 1 + extra) (rest.drop extra) members) :
    Scans inInterface number (line :: rest)
      (((memberText? raw).map (Member.mk number)).toList ++ members)

section

variable {inInterface : Bool} {number : Nat} {ls : List Text} {members : List Member}

theorem scans_of_scanBody {skip : Nat} (h : scanBody inInterface number skip ls = .ok members) :
    Scans inInterface (number + skip) (ls.drop skip) members := by
  fun_induction scanBody inInterface number skip ls generalizing members with
  | case1 number skip =>
    cases h
    rw [List.drop_nil]
    exact .done _
  | case2 number skip line rest ih =>
    rw [List.drop_succ_cons, Nat.add_right_comm number 1 skip] at *
    exact ih h
  | case3 number line rest hend =>
    cases h
    exact .stop number rest hend
  | case4 | case5 => cases h
  | case6 number line rest hbody hcandidate raw extra hraw members hrest text htext ih =>
    cases h
    have hread := Scans.read (Bool.not_eq_true _ ▸ hbody) hcandidate hraw (ih hrest)
    rwa [htext] at hread
  | case7 number line rest hbody hcandidate raw extra hraw members hrest htext ih =>
    cases h
    have hread := Scans.read (Bool.not_eq_true _ ▸ hbody) hcandidate hraw (ih hrest)
    rwa [htext] at hread
  | case8 number line rest hbody hother ih =>
    exact .pass (Bool.not_eq_true _ ▸ hbody) (Bool.not_eq_true _ ▸ hother) (ih h)

/-- Lines that belong to a declaration are passed over. -/
theorem scanBody_skip (inInterface : Bool) (number skip : Nat) (ls : List Text) :
    scanBody inInterface number skip ls =
      scanBody inInterface (number + skip) 0 (ls.drop skip) := by
  induction ls generalizing number skip with
  | nil => rw [List.drop_nil, scanBody, scanBody]
  | cons line rest ih =>
    cases skip with
    | zero => rfl
    | succ skip => rw [scanBody, ih, List.drop_succ_cons, Nat.add_right_comm, Nat.add_assoc]

theorem scanBody_end {line : Text} (hend : occursIn "\x7d;".toList line = true) (rest : List Text) :
    scanBody inInterface number 0 (line :: rest) = .ok [] := by
  rw [scanBody, if_pos hend]

theorem scanBody_pass {line : Text} (hbody : occursIn "\x7d;".toList line = false)
    (hother : isCandidate inInterface line = false) (rest : List Text) :
    scanBody inInterface number 0 (line :: rest) = scanBody inInterface (number + 1) 0 rest := by
  rw [scanBody, if_neg (Bool.eq_false_iff.mp hbody), if_neg (Bool.eq_false_iff.mp hother)]

theorem scanBody_read {line : Text} (hbody : occursIn "\x7d;".toList line = false)
    (hcandidate : isCandidate inInterface line = true) (rest : List Text) :
    scanBody inInterface number 0 (line :: rest) = do
      let (raw, extra) ← signatureFrom line rest
      let members ← scanBody inInterface (number + 1) extra rest
      return ((memberText? raw).map (Member.mk number)).toList ++ members := by
  rw [scanBody, if_neg (Bool.eq_false_iff.mp hbody), if_pos hcandidate]
  cases signatureFrom line rest with
  | error e => rfl
  | ok signature =>
    obtain ⟨raw, extra⟩ := signature
    simp only [bind, Except.bind]
    cases scanBody inInterface (number + 1) extra rest with
    | error e => rfl
    | ok members =>
      cases memberText? raw with
      | none => rfl
      | some text => rfl

/-- A scan succeeds exactly as the rules say. -/
theorem scanBody_eq_ok_iff :
    scanBody inInterface number 0 ls = .ok members ↔ Scans inInterface number ls members := by
  refine ⟨scans_of_scanBody, fun h => ?_⟩
  induction h with
  | done number => rfl
  | stop number rest hend => exact scanBody_end hend rest
  | pass hbody hother hrest ih => rw [scanBody_pass hbody hother, ih]
  | @read number extra line raw rest members hbody hcandidate hraw hrest ih =>
    rw [scanBody_read hbody hcandidate, hraw]
    simp only [bind, Except.bind, scanBody_skip inInterface (number + 1) extra rest, ih]
    rfl

end

/-- The member is read from the line with the given index. Before blanks and the word `virtual` are
taken away from it, its declaration is `raw`. -/
structure Member.ReadFrom (m : Member) (ls : List Text) (index : Nat) (line raw : Text) : Prop where
  number : m.lineNumber = index + 1
  found : ls[index]? = some line
  signature : ∃ extra, signatureFrom line (ls.drop (index + 1)) = .ok (raw, extra)
  text : memberText? raw = some m.text

/-- Every member is read from one of the lines. -/
theorem Scans.exists_readFrom {inInterface : Bool} {number start : Nat} {body ls : List Text}
    {members : List Member} (h : Scans inInterface number body members)
    (hbody : ls.drop start = body) (hnumber : number = start + 1) {m : Member} (hm : m ∈ members) :
    ∃ index line raw, m.ReadFrom ls index line raw := by
  induction h generalizing start with
  | done number => exact absurd hm List.not_mem_nil
  | stop number rest hend => exact absurd hm List.not_mem_nil
  | pass hend hother hrest ih => exact ih (of_drop_eq_cons hbody).2 (by rw [hnumber]) hm
  | @read number extra line raw rest members hend hcandidate hraw hrest ih =>
    obtain ⟨hfound, htail⟩ := of_drop_eq_cons hbody
    rcases List.mem_append.mp hm with hm | hm
    · obtain ⟨text, htext, rfl⟩ := Option.map_eq_some_iff.mp (Option.mem_toList.mp hm)
      exact ⟨start, line, raw, hnumber, hfound, ⟨extra, by rw [htail, hraw]⟩, htext⟩
    · have hrest : ls.drop (start + 1 + extra) = rest.drop extra := by
        rw [← htail, List.drop_drop]
      exact ih hrest (by omega) hm

theorem exists_readFrom_of_scanMembers {text anchor : Text} {inInterface : Bool}
    {members : List Member} (h : scanMembers text anchor inInterface = .ok members) {m : Member}
    (hm : m ∈ members) : ∃ index line raw, m.ReadFrom (lines text) index line raw := by
  simp only [scanMembers] at h
  split at h
  · cases h
  · next i hanchor => exact (scanBody_eq_ok_iff.mp h).exists_readFrom rfl rfl hm

/-! ## 3. Blanks around a declaration -/

/-- A declaration that is read without the blanks around it is read with them. -/
theorem Declaration.parse_of_parse_trim {line : Text} {d : Declaration}
    (h : parse (trim line) = .ok d) : parse line = .ok d := by
  obtain ⟨before, after, hline, hbefore, -⟩ := exists_trim_append line
  obtain ⟨head, body, hsplit, hparts⟩ := parse_eq_ok_iff.mp h
  obtain ⟨rest, htrim, hhead, hbody⟩ := splitLine?_eq_some_iff.mp hsplit
  refine parse_eq_ok_iff.mpr ⟨before ++ head, body, ?_, ?_⟩
  · refine splitLine?_eq_some_iff.mpr ⟨rest ++ after, ?_, ?_, hbody⟩
    · rw [hline, htrim]
      simp only [List.append_assoc, List.cons_append]
    · intro hopen
      rcases List.mem_append.mp hopen with hopen | hopen
      · exact absurd (hbefore _ hopen) (by decide)
      · exact hhead hopen
  · rw [ofParts?_eq_some_iff] at hparts ⊢
    rw [words_append_of_blank hbefore]
    exact hparts

/-! ## 4. Stubs for members -/

theorem memberText?_eq_some_iff {raw text : Text} :
    memberText? raw = some text ↔
      text = trim (eraseWord virtualWord raw) ∧ '(' ∈ text ∧ isDestructor text = false := by
  simp only [memberText?, Option.ite_none_right_eq_some, Bool.and_eq_true, Bool.not_eq_true',
    List.contains_iff_mem, Option.some.injEq]
  constructor
  · rintro ⟨⟨hopen, hmethod⟩, rfl⟩
    exact ⟨rfl, hopen, hmethod⟩
  · rintro ⟨rfl, hopen, hmethod⟩
    exact ⟨⟨hopen, hmethod⟩, rfl⟩

theorem isWrapped_iff {line : Text} : isWrapped line = true ↔ '(' ∈ line ∧ ')' ∉ line := by
  rw [isWrapped, Bool.and_eq_true, List.contains_iff_mem, Bool.not_eq_true', ← Bool.not_eq_true,
    List.contains_iff_mem]

/-- The line on which a declaration starts opens its parameter list. -/
theorem open_mem_of_signatureFrom {line raw : Text} {rest : List Text} {extra : Nat}
    (h : signatureFrom line rest = .ok (raw, extra)) (hopen : '(' ∈ raw) : '(' ∈ line := by
  unfold signatureFrom at h
  split at h
  · next hwrapped => exact (isWrapped_iff.mp hwrapped).1
  · cases h
    exact hopen

namespace Member

variable {m : Member} {ls : List Text} {index : Nat} {line raw : Text}

theorem ReadFrom.text_eq_trim (h : m.ReadFrom ls index line raw)
    (hplain : hasWord virtualWord raw = false) : m.text = trim raw ∧ '(' ∈ raw := by
  obtain ⟨htext, hopen, -⟩ := memberText?_eq_some_iff.mp h.text
  rw [eraseWord_of_not_hasWord hplain] at htext
  rw [htext] at hopen
  exact ⟨htext, mem_of_mem_trim hopen⟩

/-- The line of a member is found by its own text, unless an equal line stands above it. -/
theorem ReadFrom.findAnchor_eq (h : m.ReadFrom ls index line raw)
    (hplain : hasWord virtualWord raw = false)
    (hfirst : ∀ earlier ∈ ls.take index, trim earlier ≠ trim line) :
    findAnchor ls line = .ok index := by
  obtain ⟨extra, hsignature⟩ := h.signature
  have hopen := open_mem_of_signatureFrom hsignature (h.text_eq_trim hplain).2
  refine findAnchor_eq_ok_iff.mpr ⟨?_, line, h.found, rfl, hfirst⟩
  exact List.ne_nil_of_mem (mem_trim (by decide) hopen)

/-- A member's declaration is what its text declares, marked as overridable. -/
theorem declaration_eq_ok {d : Declaration} (h : m.declaration = .ok d) :
    Declaration.parse m.text = .ok { d with overridable := false } := by
  unfold declaration at h
  cases hparse : Declaration.parse m.text with
  | error e =>
    rw [hparse] at h
    cases h
  | ok parsed =>
    rw [hparse] at h
    cases h
    rw [← Declaration.not_overridable hparse]

end Member

/-- The test stub for the line of a member is the stub for the declaration that the scan has read
there, if the member is written without `virtual` and no earlier line equals its own. -/
theorem TestStub.generate_of_scanned {text anchor : Text} {declarations : List Declaration}
    (hscan : scanDeclarations text anchor true = .ok declarations) :
    ∃ members, scanMembers text anchor true = .ok members ∧
      members.length = declarations.length ∧
      ∀ (k : Nat) m d, members[k]? = some m → declarations[k]? = some d →
        (∃ index line raw, m.ReadFrom (lines text) index line raw) ∧
        ∀ index line raw, m.ReadFrom (lines text) index line raw →
          hasWord virtualWord raw = false →
          (∀ earlier ∈ (lines text).take index, trim earlier ≠ trim line) →
          ∀ names existing, ∃ stub, generate names text line existing = .ok stub ∧
            stub.suite = (existing.bind lastSuite?).getD names.suiteName ∧
            stub.method = { d with overridable := false } ∧
            stub.render = render ⟨stub.suite, d⟩ := by
  obtain ⟨members, hmembers, hdeclarations⟩ := bind_eq_ok_iff.mp hscan
  obtain ⟨hlength, hread⟩ := getElem?_of_mapM hdeclarations
  refine ⟨members, hmembers, hlength, fun k m d hm hd => ⟨?_, ?_⟩⟩
  · exact exists_readFrom_of_scanMembers hmembers (List.mem_of_getElem? hm)
  · intro index line raw hfrom hplain hfirst names existing
    have hdeclared := Member.declaration_eq_ok (hread k m d hm hd)
    rw [(hfrom.text_eq_trim hplain).1] at hdeclared
    obtain ⟨extra, hsignature⟩ := hfrom.signature
    have hline : (lines text).getD index [] = line := by
      rw [List.getD_eq_getElem?_getD, hfrom.found, Option.getD_some]
    refine ⟨⟨(existing.bind lastSuite?).getD names.suiteName, { d with overridable := false }⟩, ?_,
      rfl, rfl, rfl⟩
    simp only [generate, bind_eq_ok_iff]
    refine ⟨index, hfrom.findAnchor_eq hplain hfirst, (raw, extra), ?_, _,
      Declaration.parse_of_parse_trim hdeclared, rfl⟩
    rw [hline, hsignature]

/-- The stub for a member whose parameters go on in the next line. -/
theorem TestStub.generate_of_scanned_wrapped :
    let text := "__interface IA\n\x7b\n  int run(int a,\n    B b) = 0;\n\x7d;\n".toList
    let d : Declaration := ⟨"int".toList, "run".toList,
      [⟨"int".toList, "a".toList⟩, ⟨"B".toList, "b".toList⟩], "(int a,    B b)".toList, true⟩
    scanDeclarations text "__interface IA".toList true = .ok [d] ∧
      ∀ names existing, ∃ stub, generate names text "  int run(int a,".toList existing = .ok stub ∧
        stub.suite = (existing.bind lastSuite?).getD names.suiteName ∧
        stub.method = { d with overridable := false } ∧ stub.render = render ⟨stub.suite, d⟩ := by
  intro text d
  have hscan : scanDeclarations text "__interface IA".toList true = .ok [d] := by rfl
  have hmembers : scanMembers text "__interface IA".toList true =
      .ok [⟨3, "int run(int a,    B b) = 0;".toList⟩] := by rfl
  have hfrom : Member.ReadFrom ⟨3, "int run(int a,    B b) = 0;".toList⟩ (lines text) 2
      "  int run(int a,".toList "  int run(int a,    B b) = 0;".toList :=
    ⟨rfl, by rfl, ⟨1, by rfl⟩, by rfl⟩
  obtain ⟨members, hfound, -, hstubs⟩ := generate_of_scanned hscan
  rw [hmembers] at hfound
  cases hfound
  exact ⟨hscan, (hstubs 0 _ d rfl rfl).2 2 _ _ hfrom (by decide +kernel) (by decide +kernel)⟩

end StubGen
