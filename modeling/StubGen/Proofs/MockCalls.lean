import StubGen.Mock
import StubGen.Proofs.Grammar
import StubGen.Proofs.Readings

/-!
# The calls of a mock class

A mock class has one macro call per member, and pastes into it what the member's line says. Who reads
the call again cuts its arguments at the commas that no parenthesis encloses.

Results:

1. `MacroCall.read?_append`: an argument is read whole, whatever it encloses in parentheses;
   `MacroCall.arguments?_render`: the arguments of a call are read back.
2. `Declares.mem_head_of_mem_name`, `Declares.exists_eq_append`: where the parts of a declaration
   stand on its line.
3. `Mock.generate_calls`: the lines of a mock class, and the four arguments of each call.
-/

namespace StubGen

open Text

/-! ## 1. Macro calls -/

/-- A macro call from inside its parentheses on: there is always a first argument. -/
structure MacroCall where
  first : Text
  others : List Text
  /-- What follows the parenthesis that closes the call. -/
  after : Text
  deriving DecidableEq

namespace MacroCall

/-- The number of parentheses that are open in an argument behind a character, given how many are
open in front of it. There is none for a character that ends the argument. -/
def within? (depth : Nat) (c : Char) : Option Nat :=
  if c = '(' then some (depth + 1)
  else if c = ')' then if depth = 0 then none else some (depth - 1)
  else if c = ',' then if depth = 0 then none else some depth
  else some depth

/-- Reads a call from inside an argument on, where so many parentheses are open. -/
def read? : (depth : Nat) → Text → Option MacroCall
  | _, [] => none
  | depth, c :: rest =>
    match within? depth c with
    | some next => (read? next rest).map fun call => { call with first := c :: call.first }
    | none =>
      if c = ',' then (read? 0 rest).map fun call => ⟨[], call.first :: call.others, call.after⟩
      else some ⟨[], [], rest⟩

/-- The arguments of the call that is all of the line, but for the semicolon at its end. -/
def arguments? (name line : Text) : Option (List Text) := do
  let inside ← stripStart? (name ++ ['(']) line
  let call ← read? 0 inside
  if call.after = [';'] then some (call.first :: call.others) else none

/-- The call as it is written. -/
def render (name : Text) (arguments : List Text) : Text :=
  name ++ '(' :: ([','].intercalate arguments ++ ");".toList)

/-- The number of parentheses that are open behind a text within one argument. -/
def follow? (depth : Nat) (t : Text) : Option Nat := t.foldlM within? depth

/-- The text is one argument: no comma and no closing parenthesis in it would end it early, and it
closes what it opens. -/
def IsArgument (t : Text) : Prop := follow? 0 t = some 0

theorem follow?_cons_eq_some_iff {depth last : Nat} {c : Char} {t : Text} :
    follow? depth (c :: t) = some last ↔
      ∃ next, within? depth c = some next ∧ follow? next t = some last := by
  rw [follow?, List.foldlM_cons]
  exact Option.bind_eq_some_iff

theorem follow?_append_eq_some_iff {depth last : Nat} {s t : Text} :
    follow? depth (s ++ t) = some last ↔
      ∃ next, follow? depth s = some next ∧ follow? next t = some last := by
  rw [follow?, List.foldlM_append]
  exact Option.bind_eq_some_iff

/-- A text without parentheses leaves the depth as it is. Outside of all parentheses it must not have
a comma either. -/
theorem follow?_of_plain {depth : Nat} {t : Text} (hopen : '(' ∉ t) (hclose : ')' ∉ t)
    (hcomma : depth = 0 → ',' ∉ t) : follow? depth t = some depth := by
  induction t with
  | nil => rfl
  | cons c t ih =>
    simp only [List.mem_cons, not_or] at hopen hclose hcomma
    refine follow?_cons_eq_some_iff.mpr ⟨depth, ?_, ih hopen.2 hclose.2 fun h => (hcomma h).2⟩
    rw [within?, if_neg (Ne.symm hopen.1), if_neg (Ne.symm hclose.1)]
    split
    · next hc => exact if_neg fun hzero => (hcomma hzero).1 hc.symm
    · rfl

theorem isArgument_of_plain {t : Text} (hopen : '(' ∉ t) (hclose : ')' ∉ t) (hcomma : ',' ∉ t) :
    IsArgument t :=
  follow?_of_plain hopen hclose fun _ => hcomma

/-- A list in parentheses is one argument, with all its commas. -/
theorem isArgument_enclosed {body : Text} (hopen : '(' ∉ body) (hclose : ')' ∉ body) :
    IsArgument ('(' :: body ++ [')']) := by
  refine follow?_append_eq_some_iff.mpr ⟨1, follow?_cons_eq_some_iff.mpr ⟨1, rfl, ?_⟩, rfl⟩
  exact follow?_of_plain hopen hclose nofun

/-- What stays within an argument is only put in front of what is read behind it. -/
theorem read?_append {depth next : Nat} {s : Text} (h : follow? depth s = some next) (t : Text) :
    read? depth (s ++ t) =
      (read? next t).map fun call => { call with first := s ++ call.first } := by
  induction s generalizing depth with
  | nil =>
    cases h
    exact Option.map_id'.symm
  | cons c s ih =>
    obtain ⟨inner, hwithin, hrest⟩ := follow?_cons_eq_some_iff.mp h
    rw [List.cons_append, read?, hwithin]
    simp only [ih hrest, Option.map_map, Function.comp_def, List.cons_append]

/-- Arguments are read back one by one, up to the parenthesis that closes the call. -/
theorem read?_intercalate {first : Text} {others : List Text} (hfirst : IsArgument first)
    (hothers : ∀ a ∈ others, IsArgument a) (after : Text) :
    read? 0 ([','].intercalate (first :: others) ++ ')' :: after) =
      some ⟨first, others, after⟩ := by
  induction others generalizing first with
  | nil =>
    have hclose : read? 0 (')' :: after) = some ⟨[], [], after⟩ := rfl
    rw [List.intercalate_singleton, read?_append hfirst, hclose, Option.map_some, List.append_nil]
  | cons second others ih =>
    obtain ⟨hsecond, hothers⟩ := List.forall_mem_cons.mp hothers
    have hcomma : ∀ t, read? 0 (',' :: t) =
        (read? 0 t).map fun call => ⟨[], call.first :: call.others, call.after⟩ := fun t => rfl
    rw [List.intercalate_cons_cons, List.append_assoc, List.append_assoc, List.singleton_append,
      read?_append hfirst, hcomma, ih hsecond hothers, Option.map_some, Option.map_some,
      List.append_nil]

/-- The arguments of a call are read back as they are written. -/
theorem arguments?_render (name : Text) {first : Text} {others : List Text}
    (h : ∀ a ∈ first :: others, IsArgument a) :
    arguments? name (render name (first :: others)) = some (first :: others) := by
  obtain ⟨hfirst, hothers⟩ := List.forall_mem_cons.mp h
  have hinside : stripStart? (name ++ ['(']) (render name (first :: others)) =
      some ([','].intercalate (first :: others) ++ ')' :: [';']) := by
    rw [stripStart?_eq_some_iff, List.append_assoc]
    rfl
  rw [arguments?, hinside]
  simp only [Option.bind_eq_bind, Option.bind_some, read?_intercalate hfirst hothers, if_pos]

end MacroCall

/-! ## 2. The parts of a declaration on its line -/

namespace Declaration.Declares

variable {line : Text} {d : Declaration} {c : Char}

/-- The parameter list follows the head. -/
theorem exists_eq_append (h : Declares line d) :
    ∃ tail, line = line.takeWhile (· != '(') ++ (d.parameterText ++ tail) := by
  obtain @⟨head, body, name, types, hhead, -, -, tail⟩ := h
  refine ⟨tail, ?_⟩
  rw [takeWhile_append_cons_of_stop (bne_of_not_mem hhead.1) (by decide)]
  simp only [List.cons_append, List.append_assoc, List.nil_append]

theorem mem_head_of_mem_name (h : Declares line d) (hc : c ∈ d.name) :
    c ∈ line.takeWhile (· != '(') := by
  obtain @⟨head, body, name, types, ⟨hopen, word, hspaced, hnames⟩, -, -, tail⟩ := h
  rw [takeWhile_append_cons_of_stop (bne_of_not_mem hopen) (by decide)]
  have hword : word ∈ words head := by
    rw [hspaced.words_eq]
    exact List.mem_concat_self
  exact mem_of_mem_words hword (hnames.isSuffix.subset hc)

theorem mem_head_of_mem_leadingReturnWord (h : Declares line d) (hc : c ∈ d.leadingReturnWord) :
    c ∈ line.takeWhile (· != '(') := by
  obtain @⟨head, body, name, types, ⟨hopen, word, hspaced, -⟩, -, -, tail⟩ := h
  rw [takeWhile_append_cons_of_stop (bne_of_not_mem hopen) (by decide)]
  have htypes : words ([' '].intercalate types) = types :=
    words_intercalate fun w hw => hspaced.isToken w (List.mem_append_left _ hw)
  unfold leadingReturnWord at hc
  rw [htypes] at hc
  cases types with
  | nil => exact absurd hc List.not_mem_nil
  | cons first types =>
    have hfirst : first ∈ words head := by
      rw [hspaced.words_eq]
      exact List.mem_cons_self
    exact mem_of_mem_words hfirst hc

theorem close_not_mem_parameterBody (h : Declares line d) : ')' ∉ d.parameterBody := by
  have htext := (parameterBody_eq h).2
  obtain @⟨head, body, name, types, -, -, hbody, tail⟩ := h
  rwa [List.append_cancel_right (List.cons.inj htext).2]

end Declaration.Declares

/-! ## 3. Mock classes -/

namespace Mock

def mockMacro : Text := "MOCK_METHOD".toList

/-- The arguments of the call that mocks a method. -/
def methodArguments (d : Declaration) : List Text :=
  [d.leadingReturnWord, d.name, d.parameterText, "(override)".toList]

def classLine (m : Mock) : Text := "class ".toList ++ m.name ++ " : public ".toList ++ m.base

/-- The lines of the section with the mocked methods. -/
def sectionLines (m : Mock) : List Text :=
  if m.methods.isEmpty then [] else "public:".toList :: m.methods.map methodLine

/-- A mocked method is one call with four arguments. -/
theorem methodLine_eq_render (d : Declaration) :
    methodLine d = MacroCall.render mockMacro (methodArguments d) := by
  have hopen : "MOCK_METHOD(".toList = mockMacro ++ ['('] := by decide
  have hclose : ",(override));".toList = [','] ++ ("(override)".toList ++ ");".toList) := by decide
  unfold methodLine MacroCall.render methodArguments
  simp only [hopen, hclose, List.intercalate_cons_cons, List.intercalate_singleton,
    List.append_assoc, List.cons_append, List.nil_append]

/-- A mock class consists of whole lines and an empty one at its end. -/
theorem render_eq_unlines (m : Mock) :
    m.render =
      unlines (m.classLine :: ['\x7b'] :: (m.sectionLines ++ ["\x7d;".toList])) ++ ['\n'] := by
  have hopen : "\n\x7b\n".toList = '\n' :: ['\x7b', '\n'] := by decide
  have hclose : "\x7d;\n\n".toList = "\x7d;".toList ++ ['\n', '\n'] := by decide
  have hpublic : "public:\n".toList = "public:".toList ++ ['\n'] := by decide
  have hsection : methodSection m.methods = unlines m.sectionLines := by
    unfold methodSection sectionLines
    split
    · rfl
    · rw [hpublic, unlines_cons, unlines, List.flatMap_map, List.append_assoc,
        List.singleton_append]
  unfold render classLine
  simp only [hsection, hopen, hclose, unlines_cons, unlines_append, unlines_nil, List.append_assoc,
    List.cons_append, List.nil_append]

theorem newline_not_mem_sectionLines {m : Mock} (h : ∀ d ∈ m.methods, '\n' ∉ methodLine d) :
    ∀ line ∈ m.sectionLines, '\n' ∉ line := by
  unfold sectionLines
  split
  · exact nofun
  · refine List.forall_mem_cons.mpr ⟨by decide, fun line hline => ?_⟩
    obtain ⟨d, hd, rfl⟩ := List.mem_map.mp hline
    exact h d hd

/-- The lines of a mock class, where none of its names and calls goes on in another line. -/
theorem splitOn_render {m : Mock} (hname : '\n' ∉ m.name) (hbase : '\n' ∉ m.base)
    (hmethods : ∀ d ∈ m.methods, '\n' ∉ methodLine d) :
    m.render.splitOn '\n' =
      m.classLine :: ['\x7b'] :: (m.sectionLines ++ ["\x7d;".toList, [], []]) := by
  have hclass : '\n' ∉ m.classLine := by
    unfold classLine
    simp only [List.mem_append, not_or]
    exact ⟨⟨⟨by decide, hname⟩, by decide⟩, hbase⟩
  have hlines : ∀ line ∈ m.classLine :: ['\x7b'] :: (m.sectionLines ++ ["\x7d;".toList]),
      '\n' ∉ line := by
    refine List.forall_mem_cons.mpr ⟨hclass, List.forall_mem_cons.mpr ⟨by decide, ?_⟩⟩
    refine List.forall_mem_append.mpr ⟨newline_not_mem_sectionLines hmethods, ?_⟩
    exact List.forall_mem_singleton.mpr (by decide)
  have hlast : ['\n'].splitOn '\n' = [[], []] := rfl
  rw [render_eq_unlines, splitOn_unlines_append hlines, hlast]
  simp only [List.cons_append, List.append_assoc, List.nil_append]

end Mock

theorem SourceNames.mem_of_mem_mockName {names : SourceNames} {ofInterface : Bool} {c : Char}
    (h : c ∈ names.mockName ofInterface) : c ∈ names.className ∨ c ∈ "Mock".toList := by
  refine (List.mem_append.mp h).imp_left fun hc => ?_
  unfold mockStem at hc
  split at hc
  · next next rest hname =>
    rw [hname]
    split at hc
    · exact List.mem_cons_of_mem _ hc
    · exact hc
  · exact hc

namespace Member

variable {m : Member} {d : Declaration}

/-- What stands before the parameter list. -/
def head (m : Member) : Text := m.text.takeWhile (· != '(')

theorem declares (h : m.declaration = .ok d) :
    Declaration.Declares m.text { d with overridable := false } :=
  Declaration.parse_eq_ok_iff_declares.mp (declaration_eq_ok h)

/-- The call for a member that is on one line is on one line, too. -/
theorem newline_not_mem_methodLine (h : m.declaration = .ok d) (hline : '\n' ∉ m.text) :
    '\n' ∉ Mock.methodLine d := by
  obtain ⟨tail, htext⟩ := (declares h).exists_eq_append
  have hhead : '\n' ∉ m.text.takeWhile (· != '(') :=
    fun hc => hline ((List.takeWhile_prefix _).subset hc)
  have hparameters : '\n' ∉ d.parameterText := by
    intro hc
    rw [htext] at hline
    exact hline (List.mem_append_right _ (List.mem_append_left _ hc))
  unfold Mock.methodLine
  simp only [List.mem_append, not_or]
  refine ⟨⟨⟨⟨⟨⟨by decide, ?_⟩, by decide⟩, ?_⟩, by decide⟩, hparameters⟩, by decide⟩
  · exact fun hc => hhead ((declares h).mem_head_of_mem_leadingReturnWord hc)
  · exact fun hc => hhead ((declares h).mem_head_of_mem_name hc)

/-- The call for a member has the four arguments, if no comma and no parenthesis of the member's line
can be taken for one of the call. -/
theorem arguments?_methodLine (h : m.declaration = .ok d) (hcomma : ',' ∉ m.head)
    (hclose : ')' ∉ m.head) (hbody : '(' ∉ d.parameterBody) :
    MacroCall.arguments? Mock.mockMacro (Mock.methodLine d) = some (Mock.methodArguments d) := by
  have hopen : '(' ∉ m.head := by
    intro hc
    exact absurd (List.all_eq_true.mp List.all_takeWhile '(' hc) (by decide)
  have hplain : ∀ part : Text, (∀ c ∈ part, c ∈ m.head) → MacroCall.IsArgument part :=
    fun part hpart => MacroCall.isArgument_of_plain (fun hc => hopen (hpart _ hc))
      (fun hc => hclose (hpart _ hc)) (fun hc => hcomma (hpart _ hc))
  rw [Mock.methodLine_eq_render]
  refine MacroCall.arguments?_render _ fun a ha => ?_
  simp only [List.mem_cons, List.not_mem_nil, or_false] at ha
  rcases ha with rfl | rfl | rfl | rfl
  · exact hplain _ fun c hc => (declares h).mem_head_of_mem_leadingReturnWord hc
  · exact hplain _ fun c hc => (declares h).mem_head_of_mem_name hc
  · have htext : '(' :: d.parameterBody ++ [')'] = d.parameterText :=
      (Declaration.parameterBody_eq (declares h)).2
    rw [← htext]
    exact MacroCall.isArgument_enclosed hbody (declares h).close_not_mem_parameterBody
  · rfl

end Member

theorem newline_not_mem_text_of_scanMembers {text anchor : Text} {inInterface : Bool}
    {members : List Member} (h : scanMembers text anchor inInterface = .ok members) {m : Member}
    (hm : m ∈ members) : '\n' ∉ m.text := by
  obtain ⟨i, stop, ranges, -, -, rfl⟩ := readings_of_scanMembers h
  obtain ⟨r, hr, rfl⟩ := List.mem_map.mp hm
  exact (isMemberText_of_isMethod (List.mem_filter.mp hr).2).oneLine

/-- The lines of a mock class are the line with the names, the opening brace, the section with one
call per scanned member, in order, the closing brace and an empty line. The call for a member has
exactly four arguments: the first word of the return type, the name, the parameter list as written,
and that it overrides; unless the member's head has a comma or a closing parenthesis or its parameter
list another opening one. -/
theorem Mock.generate_calls {names : SourceNames} {header anchor : Text} {mock : Mock}
    (h : generate names header anchor = .ok mock) (hname : '\n' ∉ names.className) :
    ∃ members, scanMembers header anchor (isInterfaceAnchor anchor) = .ok members ∧
      members.mapM Member.declaration = .ok mock.methods ∧
      mock.render.splitOn '\n' =
        ("class ".toList ++ names.mockName (isInterfaceAnchor anchor) ++ " : public ".toList ++
          names.className) ::
        ['\x7b'] ::
        ((if members.isEmpty then [] else "public:".toList :: mock.methods.map methodLine) ++
          ["\x7d;".toList, [], []]) ∧
      "\x7d;\n\n".toList <:+ mock.render ∧
      ∀ m ∈ members, ∀ d, m.declaration = .ok d →
        (∃ tail, m.text = m.head ++ (d.parameterText ++ tail)) ∧
        (',' ∉ m.head → ')' ∉ m.head → '(' ∉ d.parameterBody →
          MacroCall.arguments? "MOCK_METHOD".toList (methodLine d) =
            some [d.leadingReturnWord, d.name, d.parameterText, "(override)".toList]) := by
  obtain ⟨methods, hscan, hmock⟩ := bind_eq_ok_iff.mp h
  cases hmock
  obtain ⟨members, hmembers, hmethods⟩ := bind_eq_ok_iff.mp hscan
  refine ⟨members, hmembers, hmethods, ?_, ⟨_, rfl⟩, fun m hm d hd => ⟨?_, ?_⟩⟩
  · have hcalls : ∀ d ∈ methods, '\n' ∉ methodLine d := by
      intro d hd
      obtain ⟨m, hm, hdeclared⟩ := exists_of_mem_mapM hmethods hd
      exact m.newline_not_mem_methodLine hdeclared (newline_not_mem_text_of_scanMembers hmembers hm)
    have hmock : '\n' ∉ names.mockName (isInterfaceAnchor anchor) := by
      intro hc
      rcases names.mem_of_mem_mockName hc with hc | hc
      · exact hname hc
      · exact absurd hc (by decide)
    have hempty : members.isEmpty = methods.isEmpty := by
      rw [Bool.eq_iff_iff, List.isEmpty_iff_length_eq_zero, List.isEmpty_iff_length_eq_zero,
        (getElem?_of_mapM hmethods).1]
    rw [splitOn_render hmock hname hcalls, hempty]
    rfl
  · exact (Member.declares hd).exists_eq_append
  · exact Member.arguments?_methodLine hd

/-- An interface with a wrapped method that has two parameters, and with a destructor. -/
theorem Mock.generate_calls_wrapped :
    let names := SourceNames.ofPath "src/IA.h".toList
    let header := ("__interface IA\n\x7b\n  const B& run(int a,\n    B b) = 0;\n" ++
      "  virtual ~IA();\n\x7d;\n").toList
    let d : Declaration := ⟨"const B&".toList, "run".toList,
      [⟨"int".toList, ['a']⟩, ⟨['B'], ['b']⟩], "(int a,    B b)".toList, true⟩
    let call := "MOCK_METHOD(const,run,(int a,    B b),(override));".toList
    generate names header "__interface IA".toList = .ok ⟨"AMock".toList, "IA".toList, [d]⟩ ∧
      (render ⟨"AMock".toList, "IA".toList, [d]⟩).splitOn '\n' =
        ["class AMock : public IA".toList, ['\x7b'], "public:".toList, call, "\x7d;".toList, [], []] ∧
      MacroCall.arguments? "MOCK_METHOD".toList call =
        some ["const".toList, "run".toList, "(int a,    B b)".toList, "(override)".toList] := by
  intro names header d call
  have hmock : generate names header "__interface IA".toList =
      .ok ⟨"AMock".toList, "IA".toList, [d]⟩ := by rfl
  have hmembers : scanMembers header "__interface IA".toList true =
      .ok [⟨3, "const B& run(int a,    B b) = 0;".toList⟩] := by rfl
  obtain ⟨members, hscan, -, hlines, -, hcalls⟩ := generate_calls hmock (by decide)
  have hinterface : isInterfaceAnchor "__interface IA".toList = true := by decide
  rw [hinterface, hmembers] at hscan
  cases hscan
  have hcall := (hcalls _ List.mem_cons_self d (by rfl)).2 (by decide +kernel) (by decide +kernel)
    (by decide +kernel)
  have hline : methodLine d = call := by decide +kernel
  have hclass : "class ".toList ++ names.mockName true ++ " : public ".toList ++ names.className =
      "class AMock : public IA".toList := by decide +kernel
  rw [hline] at hcall
  simp only [hinterface, hclass, hline, List.isEmpty_cons, Bool.false_eq_true, if_false,
    List.map_cons, List.map_nil, List.cons_append, List.nil_append] at hlines
  exact ⟨hmock, hlines, hcall⟩

end StubGen
