import Mathlib.Data.List.DropRight
import StubGen.EndRun

/-!
# Lists, answers and programs

Facts that the standard library does not have about what this library is made of: lists that are cut
into runs and pieces, association lists, steps that can fail, and programs on a state.

Results:

1. `of_mem_splitOnP`, `flatten_splitOnP`: a piece holds elements of the list, and none at which it
   is cut; the pieces together hold all the others.
2. `splitOn_eq_cons_iff`: the pieces around one element are what it joins.
3. `lookup_filter_bne`: removing a key from an association list concerns that key only.
4. `bind_eq_ok_iff`: two steps succeed exactly if each does.
5. `runOn_bind`: a program on a state goes on from where its first part ends.
-/

namespace StubGen

/-! ## Runs -/

theorem takeWhile_append_cons_of_stop {α : Type} {p : α → Bool} {run : List α} {stop : α}
    (hrun : ∀ a ∈ run, p a = true) (hstop : p stop = false) (rest : List α) :
    (run ++ stop :: rest).takeWhile p = run := by
  rw [List.takeWhile_append_of_pos hrun, List.takeWhile_cons_of_neg (by simp [hstop]),
    List.append_nil]

theorem dropWhile_append_cons_of_stop {α : Type} {p : α → Bool} {run : List α} {stop : α}
    (hrun : ∀ a ∈ run, p a = true) (hstop : p stop = false) (rest : List α) :
    (run ++ stop :: rest).dropWhile p = stop :: rest := by
  rw [List.dropWhile_append_of_pos hrun, List.dropWhile_cons_of_neg (by simp [hstop])]

/-- The final run of a list is the one that Mathlib cuts off. -/
theorem endRun_eq_rtakeWhile {α : Type} (p : α → Bool) (l : List α) :
    endRun p l = l.rtakeWhile p := rfl

theorem beforeEndRun_eq_rdropWhile {α : Type} (p : α → Bool) (l : List α) :
    beforeEndRun p l = l.rdropWhile p := rfl

/-- What stands before the final run does not end with an element of it. -/
theorem getLast?_rdropWhile {α : Type} {p : α → Bool} {l : List α} {a : α}
    (h : (l.rdropWhile p).getLast? = some a) : p a = false := by
  obtain ⟨hne, rfl⟩ := List.mem_getLast?_eq_getLast h
  exact Bool.eq_false_iff.mpr (List.rdropWhile_last_not p l hne)

/-- What satisfies `p` at the end of a list belongs to its final run. -/
theorem rdropWhile_append_of_forall {α : Type} {p : α → Bool} {run : List α}
    (h : ∀ a ∈ run, p a = true) (l : List α) : (l ++ run).rdropWhile p = l.rdropWhile p := by
  have hrun : ∀ a ∈ run.reverse, p a = true := fun a ha => h a (List.mem_reverse.mp ha)
  rw [List.rdropWhile, List.reverse_append, List.dropWhile_append_of_pos hrun]
  rfl

/-- A final run starts behind the last element that does not belong to it. -/
theorem rtakeWhile_append_cons {α : Type} {p : α → Bool} {run : List α} {stop : α}
    (hrun : ∀ a ∈ run, p a = true) (hstop : p stop = false) (front : List α) :
    (front ++ stop :: run).rtakeWhile p = run ∧
      (front ++ stop :: run).rdropWhile p = front ++ [stop] := by
  have hbefore : (front ++ stop :: run).rdropWhile p = front ++ [stop] := by
    rw [List.append_cons, rdropWhile_append_of_forall hrun,
      List.rdropWhile_concat_neg p front stop (by simp [hstop])]
  have hsplit : (front ++ stop :: run).rdropWhile p ++ (front ++ stop :: run).rtakeWhile p =
      front ++ stop :: run := List.rdropWhile_append_rtakeWhile
  rw [hbefore, List.append_assoc] at hsplit
  exact ⟨(List.cons.inj (List.append_cancel_left hsplit)).2, hbefore⟩

theorem exists_append_cons_rtakeWhile {α : Type} {p : α → Bool} {l : List α}
    (h : l.rdropWhile p ≠ []) :
    ∃ front stop, p stop = false ∧ l.rdropWhile p = front ++ [stop] ∧
      l = front ++ stop :: l.rtakeWhile p := by
  have hsplit : l.rdropWhile p ++ l.rtakeWhile p = l := List.rdropWhile_append_rtakeWhile
  rcases List.eq_nil_or_concat (l.rdropWhile p) with hnil | ⟨front, stop, hfront⟩
  · exact absurd hnil h
  · rw [List.concat_eq_append] at hfront
    rw [hfront, List.append_assoc] at hsplit
    refine ⟨front, stop, getLast?_rdropWhile (l := l) ?_, hfront, hsplit.symm⟩
    rw [hfront, List.getLast?_concat]

/-- A list whose last element does not satisfy `p` has a stretch without such elements at its end,
behind nothing or such an element. -/
theorem exists_append_of_getLast? {α : Type} {p : α → Bool} {l : List α} {a : α}
    (hlast : l.getLast? = some a) (ha : p a = false) :
    ∃ front back, l = front ++ back ∧ (∀ b ∈ front.getLast?, p b = true) ∧ back ≠ [] ∧
      ∀ b ∈ back, p b = false := by
  refine ⟨l.rdropWhile (!p ·), l.rtakeWhile (!p ·),
    List.rdropWhile_append_rtakeWhile.symm, fun b hb => ?_, fun hnil => ?_, fun b hb => ?_⟩
  · simpa using getLast?_rdropWhile hb
  · obtain ⟨hne, rfl⟩ := List.mem_getLast?_eq_getLast hlast
    exact List.rtakeWhile_eq_nil_iff.mp hnil hne (by simp [ha])
  · simpa using List.mem_rtakeWhile_imp hb

/-- A list that goes on with an element from an index on has it there. -/
theorem of_drop_eq_cons {α : Type} {l rest : List α} {i : Nat} {a : α} (h : l.drop i = a :: rest) :
    l[i]? = some a ∧ l.drop (i + 1) = rest := by
  rw [← List.head?_drop, ← List.tail_drop, h]
  exact ⟨rfl, rfl⟩

/-- The elements of a stretch that starts at an index. -/
theorem exists_getElem?_of_drop {α : Type} {l part rest : List α} {i j : Nat}
    (h : l.drop i = part ++ rest) (hfrom : i ≤ j) (hto : j < i + part.length) :
    ∃ a ∈ part, l[j]? = some a := by
  have hj : j - i < part.length := by omega
  refine ⟨part[j - i], List.getElem_mem hj, ?_⟩
  rw [← List.getElem?_eq_getElem hj, ← List.getElem?_append_left hj, ← h, List.getElem?_drop,
    Nat.add_sub_cancel' hfrom]

/-! ## Splits -/

section Splits

variable {α : Type} {p : α → Bool}

/-- A stretch without a cut is in front of the first piece. -/
theorem splitOnP_append_of_forall {a b first : List α} {others : List (List α)}
    (hb : b.splitOnP p = first :: others) (ha : ∀ x ∈ a, p x = false) :
    (a ++ b).splitOnP p = (a ++ first) :: others := by
  induction a with
  | nil => exact hb
  | cons x a ih =>
    have hx : p x = false := ha x List.mem_cons_self
    rw [List.cons_append, List.splitOnP_cons_eq_if_modifyHead, if_neg (by simp [hx]),
      ih fun y hy => ha y (List.mem_cons_of_mem x hy)]
    rfl

theorem splitOnP_cons_of_neg {x : α} {l first : List α} {others : List (List α)}
    (hl : l.splitOnP p = first :: others) (hx : p x = false) :
    (x :: l).splitOnP p = (x :: first) :: others :=
  splitOnP_append_of_forall hl (List.forall_mem_singleton.mpr hx)

/-- What follows the last cut is the last piece. -/
theorem getLast?_splitOnP_append {front back : List α} (hfront : ∀ a ∈ front.getLast?, p a = true)
    (hback : ∀ a ∈ back, p a = false) : ((front ++ back).splitOnP p).getLast? = some back := by
  rcases List.eq_nil_or_concat front with rfl | ⟨init, a, rfl⟩
  · rw [List.nil_append, List.splitOnP_eq_singleton hback, List.getLast?_singleton]
  · have ha : p a = true := hfront a (by simp)
    rw [List.concat_eq_append, List.append_assoc, List.singleton_append,
      List.splitOnP_append_cons init back ha, List.splitOnP_eq_singleton hback,
      List.getLast?_concat]

/-- A piece holds elements of the list, and none at which it is cut. -/
theorem of_mem_splitOnP {l piece : List α} (h : piece ∈ l.splitOnP p) :
    ∀ a ∈ piece, a ∈ l ∧ p a = false := by
  induction l generalizing piece with
  | nil =>
    rw [List.splitOnP_nil, List.mem_singleton] at h
    simp [h]
  | cons x rest ih =>
    obtain ⟨first, others, hrest⟩ := List.exists_cons_of_ne_nil (List.splitOnP_ne_nil p rest)
    rw [hrest] at ih
    rw [List.splitOnP_cons_eq_if_modifyHead, hrest] at h
    split at h
    · rcases List.mem_cons.mp h with rfl | h
      · simp
      · exact fun a ha => ⟨List.mem_cons_of_mem x (ih h a ha).1, (ih h a ha).2⟩
    · next hx =>
      rcases List.mem_cons.mp h with rfl | h
      · intro a ha
        rcases List.mem_cons.mp ha with rfl | ha
        · exact ⟨List.mem_cons_self, by simpa using hx⟩
        · obtain ⟨hmem, hp⟩ := ih List.mem_cons_self a ha
          exact ⟨List.mem_cons_of_mem x hmem, hp⟩
      · intro a ha
        obtain ⟨hmem, hp⟩ := ih (List.mem_cons_of_mem first h) a ha
        exact ⟨List.mem_cons_of_mem x hmem, hp⟩

/-- The pieces together are the list without its cuts. -/
theorem flatten_splitOnP (p : α → Bool) (l : List α) :
    (l.splitOnP p).flatten = l.filter (!p ·) := by
  induction l with
  | nil => rfl
  | cons x l ih =>
    cases hx : p x with
    | true =>
      rw [List.splitOnP_cons_eq_if_modifyHead, if_pos hx, List.flatten_cons, ih,
        List.filter_cons_of_neg (by simp [hx]), List.nil_append]
    | false =>
      obtain ⟨first, others, hl⟩ := List.exists_cons_of_ne_nil (List.splitOnP_ne_nil p l)
      rw [hl, List.flatten_cons] at ih
      rw [splitOnP_cons_of_neg hl hx, List.flatten_cons, List.cons_append, ih,
        List.filter_cons_of_pos (by simp [hx])]

theorem flatten_splitOn [BEq α] (s : α) (l : List α) : (l.splitOn s).flatten = l.filter (· != s) :=
  flatten_splitOnP (· == s) l

theorem intercalate_cons_eq_flatMap (s : α) (first : List α) (others : List (List α)) :
    [s].intercalate (first :: others) = first ++ others.flatMap (s :: ·) := by
  induction others generalizing first with
  | nil => rw [List.intercalate_singleton, List.flatMap_nil, List.append_nil]
  | cons next others ih =>
    rw [List.intercalate_cons_cons, ih, List.flatMap_cons, List.append_assoc]
    rfl

variable [BEq α] [LawfulBEq α] {s : α}

theorem splitOn_append_of_not_mem {a b first : List α} {others : List (List α)}
    (hb : b.splitOn s = first :: others) (ha : s ∉ a) :
    (a ++ b).splitOn s = (a ++ first) :: others :=
  splitOnP_append_of_forall hb fun _ hx => beq_eq_false_iff_ne.mpr fun h => ha (h ▸ hx)

theorem splitOn_cons_of_ne {x : α} {l first : List α} {others : List (List α)}
    (hl : l.splitOn s = first :: others) (hx : x ≠ s) :
    (x :: l).splitOn s = (x :: first) :: others :=
  splitOnP_cons_of_neg hl (beq_eq_false_iff_ne.mpr hx)

/-- A piece holds elements of the list, and not the one at which it is cut. -/
theorem of_mem_splitOn {l piece : List α} (h : piece ∈ l.splitOn s) :
    s ∉ piece ∧ ∀ a ∈ piece, a ∈ l :=
  ⟨fun hs => absurd (of_mem_splitOnP h s hs).2 (by simp), fun a ha => (of_mem_splitOnP h a ha).1⟩

/-- Where one element cuts a list, its pieces are the stretches without that element that are joined
with it. -/
theorem splitOn_eq_cons_iff {l first : List α} {others : List (List α)} :
    l.splitOn s = first :: others ↔
      (∀ piece ∈ first :: others, s ∉ piece) ∧ l = first ++ others.flatMap (s :: ·) := by
  rw [← intercalate_cons_eq_flatMap]
  constructor
  · intro h
    rw [← h]
    exact ⟨fun piece hpiece => (of_mem_splitOn hpiece).1, (List.intercalate_splitOn s).symm⟩
  · rintro ⟨hplain, rfl⟩
    exact List.splitOn_intercalate s hplain (List.cons_ne_nil first others)

/-- A list with one piece has no cut. -/
theorem eq_of_splitOn_eq_singleton {l piece : List α} (h : l.splitOn s = [piece]) : piece = l := by
  rw [(splitOn_eq_cons_iff.mp h).2, List.flatMap_nil, List.append_nil]

/-- The last pieces of a list stand at its end, behind nothing or a cut. -/
theorem splitOn_eq_append_cons_iff {l piece : List α} {others : List (List α)} :
    (∃ init, l.splitOn s = init ++ piece :: others) ↔
      (∀ q ∈ piece :: others, s ∉ q) ∧
        ∃ front, (∀ a ∈ front.getLast?, a = s) ∧ l = front ++ (piece ++ others.flatMap (s :: ·)) := by
  constructor
  · rintro ⟨init, h⟩
    refine ⟨fun q hq => ?_, ?_⟩
    · have hmem : q ∈ l.splitOn s := h ▸ List.mem_append_right init hq
      exact (of_mem_splitOn hmem).1
    · cases init with
      | nil => exact ⟨[], nofun, (splitOn_eq_cons_iff.mp h).2⟩
      | cons first init =>
        refine ⟨first ++ init.flatMap (s :: ·) ++ [s], ?_, ?_⟩
        · rw [List.getLast?_concat]
          rintro a ⟨⟩
          rfl
        · rw [(splitOn_eq_cons_iff.mp h).2]
          simp
  · rintro ⟨hplain, front, hfront, rfl⟩
    have hback := splitOn_eq_cons_iff.mpr ⟨hplain, rfl⟩
    rcases List.eq_nil_or_concat front with rfl | ⟨init, a, rfl⟩
    · exact ⟨[], hback⟩
    · have ha : a = s := hfront a (by simp)
      rw [ha, List.concat_eq_append, List.append_assoc, List.singleton_append,
        List.splitOn_append_cons_self, hback]
      exact ⟨_, rfl⟩

end Splits

/-! ## Association lists -/

theorem lookup_cons_ite {α β : Type} [BEq α] (k a : α) (v : β) (rest : List (α × β)) :
    ((k, v) :: rest).lookup a = if a == k then some v else rest.lookup a := by
  rw [List.lookup_cons]
  cases a == k with
  | true => rfl
  | false => rfl

/-- Removing a key from an association list changes what is found for that key only. -/
theorem lookup_filter_bne {α β : Type} [BEq α] [LawfulBEq α] (l : List (α × β)) (a b : α) :
    (l.filter (·.1 != a)).lookup b = if b == a then none else l.lookup b := by
  induction l with
  | nil => simp
  | cons entry rest ih =>
    obtain ⟨k, v⟩ := entry
    by_cases hk : k = a
    · subst hk
      rw [List.filter_cons_of_neg (by simp), ih, lookup_cons_ite]
      split <;> rfl
    · rw [List.filter_cons_of_pos (by simp [hk]), lookup_cons_ite, lookup_cons_ite, ih]
      by_cases hb : b = k
      · subst hb
        simp [hk]
      · simp [hb]

/-! ## Steps that can fail -/

/-- Two steps succeed exactly if each does. -/
theorem bind_eq_ok_iff {ε α β : Type} {x : Except ε α} {f : α → Except ε β} {b : β} :
    (x >>= f) = .ok b ↔ ∃ a, x = .ok a ∧ f a = .ok b := by
  cases x with
  | error e => simp [bind, Except.bind]
  | ok a => simp [bind, Except.bind]

/-- A step that succeeds on all elements of a list gives one result for each. -/
theorem getElem?_of_mapM {ε α β : Type} {f : α → Except ε β} {l : List α} {results : List β}
    (h : l.mapM f = .ok results) :
    l.length = results.length ∧
      ∀ (k : Nat) a b, l[k]? = some a → results[k]? = some b → f a = .ok b := by
  induction l generalizing results with
  | nil =>
    cases h
    exact ⟨rfl, fun k a b ha => by simp at ha⟩
  | cons first rest ih =>
    rw [List.mapM_cons] at h
    obtain ⟨result, hfirst, h⟩ := bind_eq_ok_iff.mp h
    obtain ⟨others, hrest, hresults⟩ := bind_eq_ok_iff.mp h
    cases hresults
    obtain ⟨hlength, hget⟩ := ih hrest
    refine ⟨congrArg (· + 1) hlength, fun k a b ha hb => ?_⟩
    cases k with
    | zero =>
      cases ha
      cases hb
      exact hfirst
    | succ k => exact hget k a b ha hb

theorem exists_of_mem_mapM {ε α β : Type} {f : α → Except ε β} {l : List α} {results : List β}
    (h : l.mapM f = .ok results) {b : β} (hb : b ∈ results) : ∃ a ∈ l, f a = .ok b := by
  obtain ⟨hlength, hget⟩ := getElem?_of_mapM h
  obtain ⟨k, hk⟩ := List.getElem?_of_mem hb
  obtain ⟨hlt, -⟩ := List.getElem?_eq_some_iff.mp hk
  have ha := List.getElem?_eq_getElem (hlength ▸ hlt)
  exact ⟨_, List.mem_of_getElem? ha, hget k _ b ha hk⟩

/-! ## Programs on a state -/

section Programs

variable {σ ε α β : Type}

/-- What a program answers on a state, and the state that it leaves. -/
def runOn (s : σ) (program : ExceptT ε (StateM σ) α) : Except ε α × σ :=
  StateT.run (ExceptT.run program) s

/-- What follows a program runs on the state that it leaves, if it succeeds. -/
theorem runOn_bind (s : σ) (x : ExceptT ε (StateM σ) α) (f : α → ExceptT ε (StateM σ) β) :
    runOn s (x >>= f) = match runOn s x with
      | (.ok a, after) => runOn after (f a)
      | (.error e, after) => (.error e, after) := by
  show StateT.run (ExceptT.run (x >>= f)) s = _
  simp only [runOn, ExceptT.run_bind, StateT.run_bind]
  rcases StateT.run x.run s with ⟨e | a, after⟩
  · rfl
  · rfl

theorem runOn_pure (s : σ) (a : α) :
    runOn s (pure a : ExceptT ε (StateM σ) α) = (.ok a, s) := rfl

theorem runOn_answer (s : σ) (answer : Except ε α) :
    runOn s (ExceptT.mk (pure answer)) = (answer, s) := rfl

end Programs

end StubGen
