import StubGen.Proofs.Members

/-!
# The grammar of declarations

A declaration is a head, a parameter list in parentheses and any rest of the line. The head consists
of the words of the return type and of a last word that carries the name, perhaps behind scopes.

Results:

1. `afterLast?_eq_some_iff`, `stripScope_eq_iff`: the name that a word carries.
2. `parse_accepts_grammar`: exactly the lines of the grammar are read, and neither the blanks of the
   head nor the scopes nor the rest of the line change what is read.
3. `parse_render`: a declaration that was read from a line or from the body of a class is read back
   from its own text.
-/

namespace StubGen

open Text

/-! ## 1. Names and their scopes -/

namespace Text

theorem afterLast?_eq_none_iff {mark t : Text} : afterLast? mark t = none ↔ ¬ mark <:+: t := by
  induction t with
  | nil => rw [afterLast?, stripStart?_eq_none_iff, List.infix_nil, List.prefix_nil]
  | cons c t ih =>
    rw [afterLast?, List.infix_cons_iff, not_or]
    cases hfound : afterLast? mark t with
    | some found =>
      constructor
      · intro h
        cases h
      · rintro ⟨-, hrest⟩
        rw [ih.mpr hrest] at hfound
        cases hfound
    | none => rw [stripStart?_eq_none_iff, and_iff_left (ih.mp hfound)]

/-- The last occurrence of a mark is the one behind whose first character no other begins. -/
theorem afterLast?_eq_some_iff {mark t rest : Text} (hmark : mark ≠ []) :
    afterLast? mark t = some rest ↔
      ∃ before, t = before ++ (mark ++ rest) ∧ ¬ mark <:+: (mark ++ rest).tail := by
  induction t with
  | nil =>
    rw [afterLast?, stripStart?_eq_some_iff]
    constructor
    · intro h
      exact absurd (List.append_eq_nil_iff.mp h.symm).1 hmark
    · rintro ⟨before, h, -⟩
      exact absurd (List.append_eq_nil_iff.mp (List.append_eq_nil_iff.mp h.symm).2).1 hmark
  | cons c t ih =>
    rw [afterLast?]
    cases hfound : afterLast? mark t with
    | some found =>
      rw [hfound] at ih
      rw [ih]
      constructor
      · rintro ⟨before, rfl, hlast⟩
        exact ⟨c :: before, rfl, hlast⟩
      · rintro ⟨before, heq, hlast⟩
        cases before with
        | nil =>
          -- The mark at the very start is not the last one, since there is one in `t`.
          rw [List.nil_append] at heq
          rw [← heq, List.tail_cons] at hlast
          rw [afterLast?_eq_none_iff.mpr hlast] at hfound
          cases hfound
        | cons b before =>
          obtain ⟨-, rfl⟩ := List.cons.inj heq
          exact ⟨before, rfl, hlast⟩
    | none =>
      have hnot := afterLast?_eq_none_iff.mp hfound
      rw [stripStart?_eq_some_iff]
      constructor
      · intro heq
        refine ⟨[], heq, ?_⟩
        rwa [← heq]
      · rintro ⟨before, heq, -⟩
        cases before with
        | nil => exact heq
        | cons b before =>
          obtain ⟨-, rfl⟩ := List.cons.inj heq
          exact absurd ⟨before, rest, List.append_assoc before mark rest⟩ hnot

end Text

namespace Declaration

/-- The word carries the name: all of it if it has no scopes, else what follows the last `::`. Behind
the first colon of the last `::` no other `::` begins, also not with its second colon. -/
inductive Names : (word name : Text) → Prop where
  | bare {name : Text} (h : ¬ "::".toList <:+: name) : Names name name
  | qualified (scope : Text) {name : Text} (h : ¬ "::".toList <:+: ':' :: name) :
    Names (scope ++ ("::".toList ++ name)) name

theorem stripScope_eq_iff {word name : Text} : stripScope word = name ↔ Names word name := by
  have hmark : "::".toList ≠ [] := by decide
  rw [stripScope]
  cases hlast : afterLast? "::".toList word with
  | none =>
    have hnot := afterLast?_eq_none_iff.mp hlast
    constructor
    · rintro rfl
      exact .bare hnot
    · rintro (h | ⟨scope, h⟩)
      · rfl
      · exact absurd ⟨scope, name, List.append_assoc _ _ _⟩ hnot
  | some found =>
    obtain ⟨scope, hword, hnone⟩ := (afterLast?_eq_some_iff hmark).mp hlast
    constructor
    · rintro rfl
      rw [hword]
      exact .qualified scope hnone
    · rintro (h | ⟨scope', h⟩)
      · exact absurd ⟨scope, found, by rw [hword, List.append_assoc]⟩ h
      · have hsame := (afterLast?_eq_some_iff hmark).mpr ⟨scope', rfl, h⟩
        rw [hlast] at hsame
        exact Option.some.inj hsame

theorem Names.no_scope {word name : Text} (h : Names word name) : ¬ "::".toList <:+: name := by
  cases h with
  | bare h => exact h
  | qualified scope h => exact fun hin => h (List.infix_cons hin)

theorem Names.isSuffix {word name : Text} (h : Names word name) : name <:+ word := by
  rw [← stripScope_eq_iff.mpr h]
  exact stripScope_isSuffix word

/-! ## 2. The grammar -/

/-- The text is the head of a declaration: the words of the return type and one that carries the
name, with blanks between them and perhaps around them. -/
def IsHead (head : Text) (types : List Text) (name : Text) : Prop :=
  '(' ∉ head ∧ ∃ word, Spaced (types ++ [word]) head ∧ Names word name

/-- The line declares the method. -/
inductive Declares : (line : Text) → Declaration → Prop where
  | intro {head body name : Text} {types : List Text} (hhead : IsHead head types name)
      (hname : name ≠ []) (hbody : ')' ∉ body) (tail : Text) :
    Declares (head ++ '(' :: (body ++ ')' :: tail))
      ⟨[' '].intercalate types, name, Parameter.parseList body, '(' :: body ++ [')'], false⟩

theorem parse_eq_ok_iff_declares {line : Text} {d : Declaration} :
    parse line = .ok d ↔ Declares line d := by
  rw [parse_eq_ok_iff]
  constructor
  · rintro ⟨head, body, hsplit, hparts⟩
    obtain ⟨tail, rfl, hhead, hbody⟩ := splitLine?_eq_some_iff.mp hsplit
    obtain ⟨word, hlast, hname, rfl⟩ := ofParts?_eq_some_iff.mp hparts
    obtain ⟨types, hwords⟩ := List.getLast?_eq_some_iff.mp hlast
    rw [hwords, List.dropLast_concat]
    exact .intro ⟨hhead, word, words_eq_iff.mp hwords, stripScope_eq_iff.mp rfl⟩ hname hbody tail
  · rintro @⟨head, body, name, types, ⟨hopen, word, hspaced, hnames⟩, hname, hbody, tail⟩
    obtain rfl := stripScope_eq_iff.mpr hnames
    refine ⟨head, body, splitLine?_eq_some_iff.mpr ⟨tail, rfl, hopen, hbody⟩, ?_⟩
    refine ofParts?_eq_some_iff.mpr ⟨word, ?_, hname, ?_⟩
    · rw [hspaced.words_eq, List.getLast?_concat]
    · rw [hspaced.words_eq, List.dropLast_concat]

/-- Exactly the lines of the grammar are read, others are reported trimmed, and the name that is read
has no scope. What is read depends on the words of the return type, the name and the parameter list
only: not on the blanks of the head, not on the scopes of the name, and not on what follows the
list. -/
theorem parse_accepts_grammar :
    (∀ line d, parse line = .ok d ↔ Declares line d) ∧
    (∀ line e, parse line = .error e ↔
      (¬ ∃ d, Declares line d) ∧ e = .malformedSignature (trim line)) ∧
    (∀ line d, Declares line d → ¬ "::".toList <:+: d.name) ∧
    ∀ head head' body name types, IsHead head types name → IsHead head' types name → name ≠ [] →
      ')' ∉ body → ∀ tail tail', ∃ d, parse (head ++ '(' :: (body ++ ')' :: tail)) = .ok d ∧
        parse (head' ++ '(' :: (body ++ ')' :: tail')) = .ok d := by
  refine ⟨fun line d => parse_eq_ok_iff_declares, fun line e => ?_, ?_, ?_⟩
  · simp only [← parse_eq_ok_iff_declares]
    constructor
    · intro herror
      refine ⟨?_, (parse_eq_error_iff.mp herror).2⟩
      rintro ⟨d, hd⟩
      rw [hd] at herror
      cases herror
    · rintro ⟨hnone, rfl⟩
      cases hparse : parse line with
      | error e => rw [(parse_eq_error_iff.mp hparse).2]
      | ok d => exact absurd ⟨d, hparse⟩ hnone
  · rintro _ _ ⟨⟨-, word, -, hnames⟩, -, -, -⟩
    exact hnames.no_scope
  · intro head head' body name types hhead hhead' hname hbody tail tail'
    exact ⟨_, parse_eq_ok_iff_declares.mpr (.intro hhead hname hbody tail),
      parse_eq_ok_iff_declares.mpr (.intro hhead' hname hbody tail')⟩

/-- A name behind odd colons and a parameter list with a parenthesis in it. -/
theorem parse_accepts_grammar_colons :
    let head := " const\u3000int\tA:::f ".toList
    let head' := "const int f".toList
    let types := ["const".toList, "int".toList]
    let d : Declaration := ⟨"const int".toList, ['f'], [⟨"X(*g".toList, []⟩], "(X(*g)".toList, false⟩
    (IsHead head types ['f'] ∧ IsHead head' types ['f']) ∧
      parse (head ++ '(' :: ("X(*g".toList ++ ')' :: "(int)) = 0;".toList)) = .ok d ∧
      parse (head' ++ '(' :: ("X(*g".toList ++ ')' :: [])) = .ok d := by
  intro head head' types d
  have hhead : IsHead head types ['f'] :=
    ⟨by decide +kernel, "A:::f".toList, words_eq_iff.mp (by decide +kernel),
      .qualified "A:".toList (by decide +kernel)⟩
  have hhead' : IsHead head' types ['f'] :=
    ⟨by decide +kernel, ['f'], words_eq_iff.mp (by decide +kernel), .bare (by decide +kernel)⟩
  obtain ⟨-, -, -, hsame⟩ := parse_accepts_grammar
  obtain ⟨read, hread, hread'⟩ := hsame head head' "X(*g".toList ['f'] types hhead hhead'
    (by decide) (by decide) "(int)) = 0;".toList []
  have hd : parse (head' ++ '(' :: ("X(*g".toList ++ ')' :: [])) = .ok d := by rfl
  rw [hd] at hread'
  cases hread'
  exact ⟨⟨hhead, hhead'⟩, hread, hd⟩

/-! ## 3. Reading a declaration back -/

/-- The head as it is rendered is one with the same words and the same name. -/
theorem IsHead.render {head name : Text} {types : List Text} (h : IsHead head types name)
    (hname : name ≠ []) :
    IsHead (if [' '].intercalate types = [] then name else [' '].intercalate types ++ ' ' :: name)
      types name := by
  obtain ⟨hopen, word, hspaced, hnames⟩ := h
  have htokens := hspaced.isToken
  have hword : IsToken name :=
    ⟨hname, fun c hc => (htokens word (by simp)).noBlank c (hnames.isSuffix.subset hc)⟩
  have htypes : words ([' '].intercalate types) = types :=
    words_intercalate fun w hw => htokens w (List.mem_append_left _ hw)
  have hhead : ∀ w ∈ types ++ [word], ∀ c ∈ w, c ∈ head := by
    rw [← hspaced.words_eq]
    exact fun w hw c hc => mem_of_mem_words hw hc
  have hopenName : '(' ∉ name := fun hc => hopen (hhead word (by simp) _ (hnames.isSuffix.subset hc))
  split
  · next hnone =>
    -- The words of the joined text are the types again, so there are none of them.
    rw [hnone] at htypes
    subst htypes
    exact ⟨hopenName, name, words_eq_iff.mp (words_of_isToken hword), .bare hnames.no_scope⟩
  · refine ⟨?_, name, words_eq_iff.mp ?_, .bare hnames.no_scope⟩
    · rw [List.mem_append, List.mem_cons, not_or, not_or]
      refine ⟨fun hc => ?_, by decide, hopenName⟩
      rcases of_mem_intercalate hc with hc | ⟨w, hw, hc⟩
      · exact absurd hc (by decide)
      · exact hopen (hhead w (List.mem_append_left _ hw) _ hc)
    · rw [words_append_cons (by decide), htypes, words_of_isToken hword]

theorem Declares.render {line : Text} {d : Declaration} (h : Declares line d) :
    Declares d.render d := by
  obtain @⟨head, body, name, types, hhead, hname, hbody, tail⟩ := h
  have hrendered := Declares.intro (hhead.render hname) hname hbody []
  simp only [Declaration.render, List.isEmpty_iff]
  split at hrendered
  · next hnone =>
    rw [if_pos hnone]
    exact hrendered
  · next hsome =>
    rw [if_neg hsome]
    exact hrendered

theorem parameterBody_eq {line : Text} {d : Declaration} (h : Declares line d) :
    Parameter.parseList d.parameterBody = d.parameters ∧
      '(' :: d.parameterBody ++ [')'] = d.parameterText := by
  obtain @⟨head, body, name, types, -, -, -, tail⟩ := h
  have hopen : stripStart? ['('] ('(' :: body ++ [')']) = some (body ++ [')']) :=
    stripStart?_eq_some_iff.mpr rfl
  have hclose : stripEnd? [')'] (body ++ [')']) = some body := stripEnd?_eq_some_iff.mpr rfl
  simp only [parameterBody, hopen, Option.bind_some, hclose, Option.getD_some, and_self]

/-- A declaration that was read from a line is read back from its own text, and so is its parameter
list. The same holds of one that was read from a class or an interface, but that its own text does
not say that it can be overridden. -/
theorem parse_render :
    (∀ line d, parse line = .ok d → parse d.render = .ok d ∧
      Parameter.parseList d.parameterBody = d.parameters ∧
      '(' :: d.parameterBody ++ [')'] = d.parameterText) ∧
    ∀ text anchor inInterface ds, scanDeclarations text anchor inInterface = .ok ds →
      ∀ d ∈ ds, parse d.render = .ok { d with overridable := false } ∧
        Parameter.parseList d.parameterBody = d.parameters ∧
        '(' :: d.parameterBody ++ [')'] = d.parameterText := by
  have hline : ∀ line d, parse line = .ok d → parse d.render = .ok d ∧
      Parameter.parseList d.parameterBody = d.parameters ∧
      '(' :: d.parameterBody ++ [')'] = d.parameterText := by
    intro line d h
    have hdeclares := parse_eq_ok_iff_declares.mp h
    exact ⟨parse_eq_ok_iff_declares.mpr hdeclares.render, parameterBody_eq hdeclares⟩
  refine ⟨hline, fun text anchor inInterface ds hscan d hd => ?_⟩
  obtain ⟨members, -, hds⟩ := bind_eq_ok_iff.mp hscan
  obtain ⟨m, -, hm⟩ := exists_of_mem_mapM hds hd
  exact hline m.text { d with overridable := false } (Member.declaration_eq_ok hm)

/-- A name with a colon at its end and without a return type, and a wrapped member of a class. -/
theorem parse_render_wrapped :
    let line := " ::g:( void ) const".toList
    let d : Declaration := ⟨[], "g:".toList, [], "( void )".toList, false⟩
    let text := "class A \x7b\n  virtual\tint  run(int a,\n    B b) = 0;\n\x7d;\n".toList
    let m : Declaration := ⟨"int".toList, "run".toList,
      [⟨"int".toList, ['a']⟩, ⟨['B'], ['b']⟩], "(int a,    B b)".toList, true⟩
    (parse line = .ok d ∧ parse "g:( void )".toList = .ok d) ∧
      scanDeclarations text "class A \x7b".toList false = .ok [m] ∧
      parse "int run(int a,    B b)".toList = .ok { m with overridable := false } := by
  intro line d text m
  have hline : parse line = .ok d := by rfl
  have hscan : scanDeclarations text "class A \x7b".toList false = .ok [m] := by rfl
  have hback := (parse_render.1 line d hline).1
  have hscanned := (parse_render.2 text _ false [m] hscan m List.mem_cons_self).1
  exact ⟨⟨hline, hback⟩, hscan, hscanned⟩

end Declaration

end StubGen
