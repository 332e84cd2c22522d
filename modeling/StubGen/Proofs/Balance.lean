import StubGen.Proofs.Placement

/-!
# Balanced braces

Placement never matches braces: it counts lines that open namespaces from the top and closing braces
from the bottom. Whether the text that it leaves is balanced is decided by what it overwrites.

Results:

1. `depth?_eq_some_iff`: what following the braces of a text says about its prefixes;
   `depth?_add`: a text does not see how deep it stands.
2. `balanced_apply`: in front of a suite a balanced block keeps a balanced text balanced; inside
   namespaces it does so exactly if no brace is opened in the part that is overwritten.
-/

namespace StubGen

/-! ## 1. Depth -/

namespace Text

def opener : Char := '\x7b'

/-- The number of open braces behind a character, given how many are open in front of it. There is
none for a closing brace where none is open. -/
def depthStep? (depth : Nat) (c : Char) : Option Nat :=
  if c = opener then some (depth + 1)
  else if c = Placement.closer then if depth = 0 then none else some (depth - 1)
  else some depth

/-- The number of open braces behind a text, given how many are open in front of it. -/
def depth? (depth : Nat) (t : Text) : Option Nat := t.foldlM depthStep? depth

/-- The running count of opened less closed braces never becomes negative and ends at zero. -/
def Balanced (t : Text) : Prop := depth? 0 t = some 0

instance (t : Text) : Decidable (Balanced t) := inferInstanceAs (Decidable (depth? 0 t = some 0))

theorem depthStep?_eq_some_iff {depth next : Nat} {c : Char} :
    depthStep? depth c = some next ↔
      next + (if c == Placement.closer then 1 else 0) = depth + (if c == opener then 1 else 0) := by
  simp only [depthStep?, beq_iff_eq]
  by_cases hopen : c = opener
  · subst hopen
    simp [show opener ≠ Placement.closer by decide, eq_comm]
  · by_cases hclose : c = Placement.closer
    · subst hclose
      rw [if_neg hopen, if_pos rfl, if_pos rfl, if_neg hopen]
      cases depth with
      | zero => simp
      | succ depth => simp [eq_comm]
    · simp [hopen, hclose, eq_comm]

theorem depth?_cons_eq_some_iff {depth last : Nat} {c : Char} {t : Text} :
    depth? depth (c :: t) = some last ↔
      ∃ next, depthStep? depth c = some next ∧ depth? next t = some last := by
  rw [depth?, List.foldlM_cons]
  exact Option.bind_eq_some_iff

/-- A second part starts at the depth at which the first one ends. -/
theorem depth?_append_eq_some_iff {depth last : Nat} {s t : Text} :
    depth? depth (s ++ t) = some last ↔
      ∃ next, depth? depth s = some next ∧ depth? next t = some last := by
  rw [depth?, List.foldlM_append]
  exact Option.bind_eq_some_iff

/-- A text can be followed exactly if no prefix of it closes more braces than are open, and the depth
changes by what the text opens less what it closes. -/
theorem depth?_eq_some_iff {depth last : Nat} {t : Text} :
    depth? depth t = some last ↔
      (∀ p, p <+: t → p.count Placement.closer ≤ depth + p.count opener) ∧
        last + t.count Placement.closer = depth + t.count opener := by
  induction t generalizing depth with
  | nil => simp [depth?, eq_comm]
  | cons c t ih =>
    rw [depth?_cons_eq_some_iff]
    simp only [List.count_cons]
    constructor
    · rintro ⟨next, hstep, hrest⟩
      rw [depthStep?_eq_some_iff] at hstep
      obtain ⟨hnever, htotal⟩ := ih.mp hrest
      refine ⟨fun p hp => ?_, by omega⟩
      rcases List.prefix_cons_iff.mp hp with rfl | ⟨q, rfl, hq⟩
      · simp
      · have := hnever q hq
        simp only [List.count_cons]
        omega
    · rintro ⟨hnever, htotal⟩
      have hrest : ∀ q, q <+: t → q.count Placement.closer +
          (if c == Placement.closer then 1 else 0) ≤
            depth + (q.count opener + if c == opener then 1 else 0) := by
        intro q hq
        have := hnever (c :: q) (List.cons_prefix_cons.mpr ⟨rfl, hq⟩)
        rwa [List.count_cons, List.count_cons] at this
      -- The prefix that is only this character says that there is a depth behind it.
      have hfirst := hrest [] List.nil_prefix
      simp only [List.count_nil] at hfirst
      refine ⟨depth + (if c == opener then 1 else 0) - if c == Placement.closer then 1 else 0,
        depthStep?_eq_some_iff.mpr (by omega), ih.mpr ⟨fun q hq => ?_, by omega⟩⟩
      have := hrest q hq
      omega

theorem depth?_add {depth last : Nat} {t : Text} (h : depth? depth t = some last) (more : Nat) :
    depth? (depth + more) t = some (last + more) := by
  rw [depth?_eq_some_iff] at h ⊢
  obtain ⟨hnever, htotal⟩ := h
  refine ⟨fun p hp => ?_, by omega⟩
  have := hnever p hp
  omega

/-- A balanced text leaves the depth as it is, wherever it stands. -/
theorem Balanced.depth?_eq {t : Text} (h : Balanced t) (depth : Nat) : depth? depth t = some depth := by
  have hadd := depth?_add h depth
  rwa [Nat.zero_add] at hadd

/-- As many closing braces as are open close all of them, and no other number does. -/
theorem depth?_closers_eq_zero_iff {depth count : Nat} :
    depth? depth (List.replicate count [Placement.closer, '\n']).flatten = some 0 ↔
      depth = count := by
  have hclose : ∀ n, depth? n (List.replicate n [Placement.closer, '\n']).flatten = some 0 := by
    intro n
    induction n with
    | zero => rfl
    | succ n ih =>
      rw [List.replicate_succ, List.flatten_cons, depth?_append_eq_some_iff]
      exact ⟨n, rfl, ih⟩
  refine ⟨fun h => ?_, fun h => h ▸ hclose depth⟩
  have hthis := (depth?_eq_some_iff.mp h).2
  have hall := (depth?_eq_some_iff.mp (hclose count)).2
  rw [Placement.count_closers] at hthis hall
  omega

end Text

/-! ## 2. Balance around a block -/

namespace Placement

open Text

variable {before after block : Text}

theorem balanced_insert (ht : Balanced (before ++ after)) (hblock : Balanced block) :
    Balanced (before ++ block ++ after) := by
  obtain ⟨depth, hbefore, hafter⟩ := depth?_append_eq_some_iff.mp ht
  rw [List.append_assoc]
  refine depth?_append_eq_some_iff.mpr ⟨depth, hbefore, ?_⟩
  exact depth?_append_eq_some_iff.mpr ⟨depth, hblock.depth?_eq depth, hafter⟩

/-- Closing braces in the place of a part that closes as many balance the text exactly if that part
opens none. -/
theorem balanced_append_closers_iff (ht : Balanced (before ++ after)) (hblock : Balanced block) :
    Balanced (before ++ block ++ (List.replicate (after.count closer) [closer, '\n']).flatten) ↔
      opener ∉ after := by
  obtain ⟨depth, hbefore, hafter⟩ := depth?_append_eq_some_iff.mp ht
  have hclosed := (depth?_eq_some_iff.mp hafter).2
  rw [List.append_assoc, ← List.count_eq_zero]
  constructor
  · intro hbalanced
    obtain ⟨reached, hsame, hrest⟩ := depth?_append_eq_some_iff.mp hbalanced
    obtain rfl : depth = reached := Option.some.inj (hbefore.symm.trans hsame)
    obtain ⟨inner, hinner, hend⟩ := depth?_append_eq_some_iff.mp hrest
    obtain rfl : depth = inner := Option.some.inj ((hblock.depth?_eq depth).symm.trans hinner)
    have hwritten := depth?_closers_eq_zero_iff.mp hend
    omega
  · intro hnone
    obtain rfl : depth = after.count closer := by omega
    refine depth?_append_eq_some_iff.mpr ⟨_, hbefore, ?_⟩
    exact depth?_append_eq_some_iff.mpr ⟨_, hblock.depth?_eq _, depth?_closers_eq_zero_iff.mpr rfl⟩

/-- A balanced block in a balanced text: in front of a suite the text stays balanced; inside
namespaces it does so exactly if the part that is overwritten opens no brace. -/
theorem balanced_apply {t : Text} {kind : BlockKind} {point : InsertionPoint} (ht : Balanced t)
    (hblock : Balanced block) (hplace : locate t kind = .ok point) :
    (point.mode = .beforeSuite → Balanced (apply t point block)) ∧
    (point.mode = .insideNamespaces →
      (Balanced (apply t point block) ↔ opener ∉ dropBytes point.offset t)) := by
  rcases locate_eq_ok hplace with ⟨offset, hoffset, rfl⟩ | ⟨offset, hoffset, rfl⟩
  · obtain ⟨before, after, rfl, rfl⟩ := beforeSuite?_isBoundary hoffset
    refine ⟨fun _ => ?_, nofun⟩
    rw [apply_beforeSuite]
    exact balanced_insert ht hblock
  · obtain ⟨before, after, hsplit, rfl, hcount, -⟩ := insideClosers_eq_ok_iff.mp hoffset
    refine ⟨nofun, fun _ => ?_⟩
    rw [← hcount, hsplit, apply_insideNamespaces, dropBytes_byteSize_append]
    exact balanced_append_closers_iff (hsplit ▸ ht) hblock

/-- The last two braces of the text are those of the function behind its namespaces and of the outer
namespace, so the function's opening brace is overwritten. With one namespace, only the function's
own closing brace is. In front of a suite nothing is overwritten. -/
theorem balanced_apply_trailing_function :
    ¬ Balanced (apply "namespace a \x7b\nnamespace b \x7b \x7d\n\x7d\nvoid f() \x7b \x7d\n".toList
      ⟨30, 2, .insideNamespaces⟩ "int g() \x7b \x7d\n".toList) ∧
    Balanced (apply "namespace a \x7b\n\x7d\nvoid f() \x7b \x7d\n".toList ⟨27, 1, .insideNamespaces⟩
      "int g() \x7b \x7d\n".toList) ∧
    Balanced (apply "void f() \x7b \x7d\nTYPED_TEST_SUITE(A, B);\n".toList ⟨0, 0, .beforeSuite⟩
      "int g() \x7b \x7d\n".toList) := by
  have hblock : Balanced "int g() \x7b \x7d\n".toList := by decide +kernel
  refine ⟨fun h => ?_, ?_, ?_⟩
  · have hplace : locate "namespace a \x7b\nnamespace b \x7b \x7d\n\x7d\nvoid f() \x7b \x7d\n".toList
        .test = .ok ⟨30, 2, .insideNamespaces⟩ := by rfl
    exact absurd (((balanced_apply (by decide +kernel) hblock hplace).2 rfl).mp h) (by decide +kernel)
  · have hplace : locate "namespace a \x7b\n\x7d\nvoid f() \x7b \x7d\n".toList .test =
        .ok ⟨27, 1, .insideNamespaces⟩ := by rfl
    exact ((balanced_apply (by decide +kernel) hblock hplace).2 rfl).mpr (by decide +kernel)
  · have hplace : locate "void f() \x7b \x7d\nTYPED_TEST_SUITE(A, B);\n".toList .mock =
        .ok ⟨0, 0, .beforeSuite⟩ := by rfl
    exact (balanced_apply (by decide +kernel) hblock hplace).1 rfl

end Placement

end StubGen
