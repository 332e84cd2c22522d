import StubGen.Preferences.Format
import StubGen.Proofs.Text

/-!
# Reading back a preference file

Results:

1. `lexFrom_escape`: what stands for a character between quotes is read as that character.
2. `lexFrom_quote`, `lexFrom_renderEntry`: so quoted texts and entries are read as their tokens.
3. `read?_render`: a preference file that was written is read as the entries that it was written for,
   whatever characters they hold.
-/

namespace StubGen.Preferences.Format

open Text

/-! ## 1. Characters -/

/-- A character that completes no token only moves the lexer on. -/
theorem lexFrom_of_silent {mode next : Mode} {c : Char} (h : step mode c = some ([], next))
    (rest : Text) : lexFrom mode (c :: rest) = lexFrom next rest := by
  simp only [lexFrom, h, List.nil_append, Option.map_id']

theorem lexFrom_of_token {mode next : Mode} {c : Char} {token : Token}
    (h : step mode c = some ([token], next)) (rest : Text) :
    lexFrom mode (c :: rest) = (lexFrom next rest).map (token :: ·) := by
  rw [lexFrom, h]
  rfl

/-- A character is written as a backslash and a letter, by its number, or as it is. -/
theorem escape_cases (c : Char) :
    (∃ letter, escape c = ['\\', letter] ∧ letter ≠ 'u' ∧ escapes.lookup letter = some c) ∨
    (c.toNat < 0x20 ∧
      escape c = ['\\', 'u', '0', '0', hexDigit (c.toNat / 16), hexDigit (c.toNat % 16)]) ∨
    (c ≠ '"' ∧ c ≠ '\\' ∧ 0x20 ≤ c.toNat ∧ escape c = [c]) := by
  by_cases hquote : c = '"'
  · subst hquote
    exact .inl ⟨'"', by decide, by decide, by decide⟩
  by_cases hslash : c = '\\'
  · subst hslash
    exact .inl ⟨'\\', by decide, by decide, by decide⟩
  by_cases hback : c = '\x08'
  · subst hback
    exact .inl ⟨'b', by decide, by decide, by decide⟩
  by_cases hfeed : c = '\x0C'
  · subst hfeed
    exact .inl ⟨'f', by decide, by decide, by decide⟩
  by_cases hline : c = '\n'
  · subst hline
    exact .inl ⟨'n', by decide, by decide, by decide⟩
  by_cases hreturn : c = '\r'
  · subst hreturn
    exact .inl ⟨'r', by decide, by decide, by decide⟩
  by_cases htab : c = '\t'
  · subst htab
    exact .inl ⟨'t', by decide, by decide, by decide⟩
  right
  have hplain : escape c = if c.toNat < 0x20 then
      "\\u00".toList ++ [hexDigit (c.toNat / 16), hexDigit (c.toNat % 16)] else [c] := by
    unfold escape
    simp only [beq_iff_eq, hquote, hslash, hback, hfeed, hline, hreturn, htab, if_false]
  by_cases hcontrol : c.toNat < 0x20
  · exact .inl ⟨hcontrol, by rw [hplain, if_pos hcontrol]; rfl⟩
  · exact .inr ⟨hquote, hslash, by omega, by rw [hplain, if_neg hcontrol]⟩

theorem hexValue?_hexDigit : ∀ n < 16, hexValue? (hexDigit n) = some n := by
  decide +kernel

/-- What stands for a character between quotes is read as that character. -/
theorem lexFrom_escape (read : Text) (c : Char) (rest : Text) :
    lexFrom (.inside read) (escape c ++ rest) = lexFrom (.inside (c :: read)) rest := by
  have hbackslash : step (.inside read) '\\' = some ([], .escaped read) := rfl
  rcases escape_cases c with ⟨letter, hescape, hletter, hmeant⟩ | ⟨hcontrol, hescape⟩ |
    ⟨hquote, hslash, hvisible, hescape⟩
  · have hstep : step (.escaped read) letter = some ([], .inside (c :: read)) := by
      simp only [step, beq_iff_eq, hletter, if_false, hmeant, Option.map_some]
    rw [hescape, List.cons_append, List.singleton_append, lexFrom_of_silent hbackslash,
      lexFrom_of_silent hstep]
  · have hnumbered : step (.escaped read) 'u' = some ([], .numbered read 4 0 none) := rfl
    have hzero : step (.numbered read 4 0 none) '0' = some ([], .numbered read 3 0 none) := rfl
    have hzero' : step (.numbered read 3 0 none) '0' = some ([], .numbered read 2 0 none) := rfl
    have hhigh : step (.numbered read 2 0 none) (hexDigit (c.toNat / 16)) =
        some ([], .numbered read 1 (c.toNat / 16) none) := by
      rw [step, hexValue?_hexDigit _ (by omega)]
      simp
    have hlow : step (.numbered read 1 (c.toNat / 16) none) (hexDigit (c.toNat % 16)) =
        some ([], .inside (c :: read)) := by
      have hvalue : c.toNat / 16 * 16 + c.toNat % 16 = c.toNat := by omega
      rw [step, hexValue?_hexDigit _ (by omega)]
      simp only [hvalue, numberedDone, Nat.le_refl, if_true]
      rw [if_neg (by omega), if_neg (by omega), Char.ofNat_toNat]
      rfl
    rw [hescape]
    simp only [List.cons_append, List.nil_append]
    rw [lexFrom_of_silent hbackslash, lexFrom_of_silent hnumbered, lexFrom_of_silent hzero,
      lexFrom_of_silent hzero', lexFrom_of_silent hhigh, lexFrom_of_silent hlow]
  · have hstep : step (.inside read) c = some ([], .inside (c :: read)) := by
      simp only [step, beq_iff_eq, hquote, hslash, if_false]
      rw [if_neg (by omega)]
    rw [hescape, List.singleton_append, lexFrom_of_silent hstep]

theorem lexFrom_flatMap_escape (read t rest : Text) :
    lexFrom (.inside read) (t.flatMap escape ++ rest) =
      lexFrom (.inside (t.reverse ++ read)) rest := by
  induction t generalizing read with
  | nil => rfl
  | cons c t ih =>
    rw [List.flatMap_cons, List.append_assoc, lexFrom_escape, ih, List.reverse_cons,
      List.append_assoc, List.singleton_append]

/-! ## 2. Entries -/

theorem lexFrom_quote (t rest : Text) :
    lexFrom .outside (quote t ++ rest) = (lexFrom .outside rest).map (.string t :: ·) := by
  have hopening : step .outside '"' = some ([], .inside []) := rfl
  have hclosing : step (.inside t.reverse) '"' = some ([.string t], .outside) := by
    rw [step, List.reverse_reverse]
    rfl
  rw [quote, List.cons_append, List.cons_append, List.append_assoc, lexFrom_of_silent hopening,
    lexFrom_flatMap_escape, List.append_nil, List.singleton_append, lexFrom_of_token hclosing]

theorem lexFrom_space (rest : Text) : lexFrom .outside (' ' :: rest) = lexFrom .outside rest :=
  lexFrom_of_silent rfl rest

theorem lexFrom_newline (rest : Text) : lexFrom .outside ('\n' :: rest) = lexFrom .outside rest :=
  lexFrom_of_silent rfl rest

theorem lexFrom_colon (rest : Text) :
    lexFrom .outside (':' :: rest) = (lexFrom .outside rest).map (.colon :: ·) :=
  lexFrom_of_token rfl rest

theorem lexFrom_separator (rest : Text) :
    lexFrom .outside (",\n".toList ++ rest) = (lexFrom .outside rest).map (.comma :: ·) := by
  have hseparator : ",\n".toList = [',', '\n'] := by decide
  have hcomma : step .outside ',' = some ([.comma], .outside) := rfl
  rw [hseparator, List.cons_append, List.singleton_append, lexFrom_of_token hcomma,
    lexFrom_newline]

theorem lexFrom_renderEntry (entry : Text × Text) (rest : Text) :
    lexFrom .outside (renderEntry entry ++ rest) =
      (lexFrom .outside rest).map (.string entry.1 :: .colon :: .string entry.2 :: ·) := by
  have hindent : "  ".toList = [' ', ' '] := by decide
  have hcolon : ": ".toList = [':', ' '] := by decide
  have hassoc : ∀ indent colon : Text,
      indent ++ quote entry.1 ++ colon ++ quote entry.2 ++ rest =
        indent ++ (quote entry.1 ++ (colon ++ (quote entry.2 ++ rest))) := by
    intro indent colon
    simp only [List.append_assoc]
  rw [renderEntry, hassoc, hindent, hcolon]
  simp only [List.cons_append, List.nil_append, lexFrom_space, lexFrom_colon, lexFrom_quote,
    Option.map_map, Function.comp_def]

/-- The tokens of an object after its opening brace. -/
def tokensOf : List (Text × Text) → List Token
  | [] => [.closing]
  | [entry] => [.string entry.1, .colon, .string entry.2, .closing]
  | entry :: next :: rest =>
    .string entry.1 :: .colon :: .string entry.2 :: .comma :: tokensOf (next :: rest)

theorem lexFrom_entries (entry : Text × Text) (rest : List (Text × Text)) :
    lexFrom .outside (",\n".toList.intercalate ((entry :: rest).map renderEntry) ++ ['\n', '\x7d']) =
      some (tokensOf (entry :: rest)) := by
  have hclosing : lexFrom .outside ['\n', '\x7d'] = some [.closing] := rfl
  induction rest generalizing entry with
  | nil =>
    rw [List.map_singleton, List.intercalate_singleton, lexFrom_renderEntry, hclosing]
    rfl
  | cons next rest ih =>
    rw [List.map_cons, List.map_cons, List.intercalate_cons_cons, ← List.map_cons, List.append_assoc,
      List.append_assoc, lexFrom_renderEntry, lexFrom_separator, ih]
    rfl

/-! ## 3. Files -/

theorem readEntries_tokensOf (entry : Text × Text) (rest : List (Text × Text)) :
    readEntries (tokensOf (entry :: rest)) = some (entry :: rest) := by
  induction rest generalizing entry with
  | nil => rfl
  | cons next rest ih => rw [tokensOf, readEntries, ih, Option.map_some]

/-- A written preference file is read as the entries that it was written for. -/
theorem read?_render (entries : List (Text × Text)) : read? (render entries) = some entries := by
  cases entries with
  | nil => rfl
  | cons entry rest =>
    have hopening : "\x7b\n".toList = ['\x7b', '\n'] := by decide
    have hclosing : "\n\x7d".toList = ['\n', '\x7d'] := by decide
    have hrender : render (entry :: rest) = '\x7b' :: '\n' ::
        (",\n".toList.intercalate ((entry :: rest).map renderEntry) ++ ['\n', '\x7d']) := by
      rw [render, if_neg (by simp), hopening, hclosing]
      rfl
    have hbrace : step .outside '\x7b' = some ([.opening], .outside) := rfl
    have hlex : lexFrom .outside (render (entry :: rest)) =
        some (.opening :: tokensOf (entry :: rest)) := by
      rw [hrender, lexFrom_of_token hbrace, lexFrom_newline, lexFrom_entries]
      rfl
    obtain ⟨more, htrim⟩ := exists_trim_cons (by decide : isBlank '\x7b' = false)
      ('\n' :: (",\n".toList.intercalate ((entry :: rest).map renderEntry) ++ ['\n', '\x7d']))
    have hobject : readObject (.opening :: tokensOf (entry :: rest)) =
        readEntries (tokensOf (entry :: rest)) := by
      cases rest with
      | nil => rfl
      | cons next rest => rfl
    rw [read?, hlex, hrender, htrim, List.isEmpty_cons, if_neg Bool.false_ne_true, Option.bind_some,
      hobject, readEntries_tokensOf]

end StubGen.Preferences.Format
