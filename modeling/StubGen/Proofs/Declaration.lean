import StubGen.Proofs.Plan

/-!
# What a declaration is read from

Results:

1. `splitLine?_eq_some_iff`: the two parentheses around which a line is cut.
2. `ofParts?_eq_some_iff`: which declaration the two parts give.
3. `parse_eq_ok_iff`: a line is read exactly if it can be cut and its parts give a declaration.
4. `open_not_mem_name`, `comma_not_mem_parameters`: characters that no part of a declaration holds.
-/

namespace StubGen

open Text

namespace Declaration

/-! ## 1. Parts of a line -/

theorem bne_of_not_mem {c : Char} {t : Text} (h : c ∉ t) : ∀ d ∈ t, (d != c) = true := by
  intro d hd
  rw [bne_iff_ne]
  rintro rfl
  exact h hd

theorem splitLine?_append_open {head : Text} (hhead : '(' ∉ head) (rest : Text) :
    splitLine? (head ++ '(' :: rest) =
      if rest.contains ')' then some (head, rest.takeWhile (· != ')')) else none := by
  rw [splitLine?, dropWhile_append_cons_of_stop (bne_of_not_mem hhead) (by decide),
    takeWhile_append_cons_of_stop (bne_of_not_mem hhead) (by decide)]

/-- A line is cut at its first opening parenthesis and at the first closing one after it. -/
theorem splitLine?_eq_some_iff {line head body : Text} :
    splitLine? line = some (head, body) ↔
      ∃ rest, line = head ++ '(' :: (body ++ ')' :: rest) ∧ '(' ∉ head ∧ ')' ∉ body := by
  constructor
  · intro h
    by_cases hopen : '(' ∈ line
    · obtain ⟨head', afterOpen, rfl, hhead⟩ := List.eq_append_cons_of_mem hopen
      rw [splitLine?_append_open hhead] at h
      split at h
      · next hclose =>
        obtain ⟨body', rest, rfl, hbody⟩ := List.eq_append_cons_of_mem (List.contains_iff_mem.mp hclose)
        rw [takeWhile_append_cons_of_stop (bne_of_not_mem hbody) (by decide)] at h
        cases h
        exact ⟨rest, rfl, hhead, hbody⟩
      · cases h
    · have hnone : line.dropWhile (· != '(') = [] := by
        rw [← List.append_nil line, List.dropWhile_append_of_pos (bne_of_not_mem hopen)]
        rfl
      rw [splitLine?, hnone] at h
      cases h
  · rintro ⟨rest, rfl, hhead, hbody⟩
    rw [splitLine?_append_open hhead, if_pos (by simp),
      takeWhile_append_cons_of_stop (bne_of_not_mem hbody) (by decide)]

/-! ## 2. Declarations -/

theorem ofParts?_eq_some_iff {head body : Text} {d : Declaration} :
    ofParts? head body = some d ↔
      ∃ qualified, (words head).getLast? = some qualified ∧ stripScope qualified ≠ [] ∧
        d = ⟨[' '].intercalate (words head).dropLast, stripScope qualified, Parameter.parseList body,
          '(' :: body ++ [')'], false⟩ := by
  simp only [ofParts?, Option.bind_eq_bind, Option.bind_eq_some_iff]
  constructor
  · rintro ⟨qualified, hlast, h⟩
    split at h
    · cases h
    · next hname =>
      cases h
      exact ⟨qualified, hlast, by simpa using hname, rfl⟩
  · rintro ⟨qualified, hlast, hname, rfl⟩
    exact ⟨qualified, hlast, if_neg (by simpa using hname)⟩

theorem parse_eq_ok_iff {line : Text} {d : Declaration} :
    parse line = .ok d ↔
      ∃ head body, splitLine? line = some (head, body) ∧ ofParts? head body = some d := by
  have hparse : parse line = .ok d ↔ parse? line = some d := by
    unfold parse
    cases parse? line with
    | none => simp
    | some _ => simp
  rw [hparse, parse?, Option.bind_eq_bind, Option.bind_eq_some_iff, Prod.exists]

theorem not_overridable {line : Text} {d : Declaration} (h : parse line = .ok d) :
    d.overridable = false := by
  obtain ⟨head, body, -, hparts⟩ := parse_eq_ok_iff.mp h
  obtain ⟨qualified, -, -, rfl⟩ := ofParts?_eq_some_iff.mp hparts
  rfl

/-! ## 3. What the parts of a declaration do not hold -/

theorem stripScope_isSuffix (name : Text) : stripScope name <:+ name := by
  unfold stripScope
  cases h : afterLast? "::".toList name with
  | none => exact List.suffix_rfl
  | some rest => exact suffix_of_afterLast? h

theorem mem_of_mem_words {t word : Text} (h : word ∈ words t) {c : Char} (hc : c ∈ word) : c ∈ t :=
  (of_mem_splitOnP (List.mem_filter.mp h).1 c hc).1

theorem open_not_mem_name {line : Text} {d : Declaration} (h : parse line = .ok d) :
    '(' ∉ d.name := by
  obtain ⟨head, body, hsplit, hparts⟩ := parse_eq_ok_iff.mp h
  obtain ⟨rest, -, hhead, -⟩ := splitLine?_eq_some_iff.mp hsplit
  obtain ⟨qualified, hlast, -, rfl⟩ := ofParts?_eq_some_iff.mp hparts
  intro hmem
  exact hhead (mem_of_mem_words (List.mem_of_getLast? hlast)
    ((stripScope_isSuffix qualified).subset hmem))

end Declaration

theorem Parameter.comma_not_mem_ofPiece {piece : Text} (h : ',' ∉ piece) :
    ',' ∉ (ofPiece piece).typeName ∧ ',' ∉ (ofPiece piece).name := by
  unfold ofPiece
  split
  · have hbefore := List.rdropWhile_prefix (!isBlank ·) piece
    exact ⟨fun hmem => h (hbefore.subset ((List.rdropWhile_prefix isBlank _).subset hmem)),
      fun hmem => h ((List.rtakeWhile_suffix (!isBlank ·) piece).subset hmem)⟩
  · exact ⟨h, List.not_mem_nil⟩

theorem Parameter.comma_not_mem_parseList {body : Text} {p : Parameter} (h : p ∈ parseList body) :
    ',' ∉ p.typeName ∧ ',' ∉ p.name := by
  unfold parseList at h
  split at h
  · exact absurd h List.not_mem_nil
  · obtain ⟨trimmed, htrimmed, rfl⟩ := List.mem_map.mp h
    obtain ⟨piece, hpiece, rfl⟩ := List.mem_map.mp (List.mem_filter.mp htrimmed).1
    exact comma_not_mem_ofPiece fun hmem => (of_mem_splitOn hpiece).1 (mem_of_mem_trim hmem)

theorem Declaration.comma_not_mem_parameters {line : Text} {d : Declaration}
    (h : parse line = .ok d) {p : Parameter} (hp : p ∈ d.parameters) :
    ',' ∉ p.typeName ∧ ',' ∉ p.name := by
  obtain ⟨head, body, -, hparts⟩ := parse_eq_ok_iff.mp h
  obtain ⟨qualified, -, -, rfl⟩ := ofParts?_eq_some_iff.mp hparts
  exact Parameter.comma_not_mem_parseList hp

end StubGen
