import StubGen.Proofs.Placement

/-!
# Appending again and again

A block goes in front of closing braces that are written again after it, so the next block has to
find its place in a text that the block itself has changed. A block can hold anything: braces, lines
that open namespaces, words that end the opening part. None of it matters once the text in front of
the place has content: the count of namespaces stops there, and the braces are counted from the end.

Results:

1. `locate_closed`: a text with content that is closed has its place at the end of what is closed.
2. `place_closed`: a block that is placed there leaves a closed text again.
3. `placeAll_closed`: so the blocks of a run stand one behind the other.
4. `append_stable`: on every file with content in front of the place, appending moves the place by the
   size of the block and changes nothing else about it, and a run of blocks is placed like one block.
-/

namespace StubGen.Placement

open Text

/-- The text with a closing brace behind it for each namespace that it opens. -/
def closed (before : Text) : Text :=
  before ++ (List.replicate (leadingNamespaces before) [closer, '\n']).flatten

/-- The place at the end of what is closed. -/
def endOf (before : Text) : InsertionPoint :=
  ⟨byteSize before, leadingNamespaces before, .insideNamespaces⟩

section

variable {before : Text}

/-! ## 1. The place of a block -/

/-- What has content is found again in front of its own closing braces. -/
theorem locate_closed (h : hasContent before = true) :
    locate (closed before) .test = .ok (endOf before) := by
  have hcount : leadingNamespaces (closed before) = leadingNamespaces before :=
    leadingNamespaces_append_of_hasContent h _
  refine locateInside_eq_ok_iff.mpr ⟨byteSize before, ?_, ?_⟩
  · rw [hcount]
    exact insideClosers_append_closers before (leadingNamespaces before)
  · rw [hcount, endOf]

/-- A place with content in front of it is the end of what is there, whatever follows it. -/
theorem eq_endOf_of_locate {t : Text} {point : InsertionPoint} (hplace : locate t .test = .ok point)
    (hcontent : hasContent (takeBytes point.offset t) = true) :
    ∃ after, t = takeBytes point.offset t ++ after ∧ point = endOf (takeBytes point.offset t) := by
  obtain ⟨offset, hoffset, rfl⟩ := locateInside_eq_ok_iff.mp hplace
  obtain ⟨before, after, rfl, rfl, -⟩ := insideClosers_eq_ok_iff.mp hoffset
  rw [takeBytes_byteSize_append] at hcontent ⊢
  refine ⟨after, rfl, ?_⟩
  rw [endOf, leadingNamespaces_append_of_hasContent hcontent]

/-! ## 2. One block -/

/-- At the end of what is there, a block takes the place of everything that follows. -/
theorem apply_endOf (h : hasContent before = true) (after block : Text) :
    apply (before ++ after) (endOf before) block = closed (before ++ block) := by
  rw [endOf, apply_insideNamespaces, closed, leadingNamespaces_append_of_hasContent h]

theorem place_of_locate {t : Text} {point : InsertionPoint} (h : locate t .test = .ok point)
    (block : Text) : place t ⟨.test, block⟩ = .ok (point, apply t point block) := by
  rw [place, h]
  rfl

/-- A block that is placed in a closed text leaves a closed text. -/
theorem place_closed (h : hasContent before = true) (block : Text) :
    place (closed before) ⟨.test, block⟩ = .ok (endOf before, closed (before ++ block)) := by
  rw [place_of_locate (locate_closed h), closed, apply_endOf h]

/-! ## 3. Blocks one after the other -/

/-- The blocks of a run all find a place, and stand one behind the other. -/
theorem placeAll_closed (h : hasContent before = true) (blocks : List Text) :
    (∀ answer ∈ placeAll (closed before) (blocks.map (Block.mk .test)), answer.isOk = true) ∧
    finalText (closed before) (placeAll (closed before) (blocks.map (Block.mk .test))) =
      closed (before ++ blocks.flatten) := by
  induction blocks generalizing before with
  | nil =>
    rw [List.flatten_nil, List.append_nil]
    exact ⟨by simp [placeAll], rfl⟩
  | cons block blocks ih =>
    obtain ⟨hanswers, htext⟩ := ih (hasContent_append h block)
    rw [List.map_cons, placeAll_cons_ok (place_closed h block), finalText_cons_ok, htext,
      List.flatten_cons, List.append_assoc]
    refine ⟨fun answer hanswer => ?_, rfl⟩
    rcases List.mem_cons.mp hanswer with rfl | hanswer
    · rfl
    · exact hanswers answer hanswer

/-! ## 4. Any file -/

/-- Where the text in front of a place has content, a block of any text moves the place by its size
and keeps its number of closing braces and its mode. So a run of blocks, each placed in the text that
the one before it left, gives the same text as their concatenation placed at once: what was in front
of the place, the blocks, and the closing braces. The run has a first block: without one nothing is
written, and what followed the last brace stays. -/
theorem append_stable {t : Text} {point : InsertionPoint} (hplace : locate t .test = .ok point)
    (hcontent : hasContent (takeBytes point.offset t) = true) :
    (∀ block, locate (apply t point block) .test =
      .ok ⟨point.offset + byteSize block, point.closers, point.mode⟩) ∧
    ∀ first rest,
      (∀ answer ∈ placeAll t ((first :: rest).map (Block.mk .test)), answer.isOk = true) ∧
      finalText t (placeAll t ((first :: rest).map (Block.mk .test))) =
        apply t point (first :: rest).flatten ∧
      apply t point (first :: rest).flatten =
        takeBytes point.offset t ++ (first :: rest).flatten ++
          (List.replicate point.closers [closer, '\n']).flatten := by
  obtain ⟨after, ht, hpoint⟩ := eq_endOf_of_locate hplace hcontent
  have happly : ∀ block, apply t point block = closed (takeBytes point.offset t ++ block) := by
    intro block
    have hend := apply_endOf hcontent after block
    rwa [← ht, ← hpoint] at hend
  have hcount : ∀ block, leadingNamespaces (takeBytes point.offset t ++ block) = point.closers := by
    intro block
    rw [leadingNamespaces_append_of_hasContent hcontent]
    exact (congrArg InsertionPoint.closers hpoint).symm
  refine ⟨fun block => ?_, fun first rest => ⟨?_, ?_, ?_⟩⟩
  · have hsize : byteSize (takeBytes point.offset t) = point.offset :=
      (congrArg InsertionPoint.offset hpoint).symm
    have hmode : point.mode = .insideNamespaces := congrArg InsertionPoint.mode hpoint
    rw [happly, locate_closed (hasContent_append hcontent block), endOf, byteSize_append, hsize,
      hcount, hmode]
  · intro answer hanswer
    rw [List.map_cons, placeAll_cons_ok (place_of_locate hplace first), happly] at hanswer
    rcases List.mem_cons.mp hanswer with rfl | hanswer
    · rfl
    · exact (placeAll_closed (hasContent_append hcontent first) rest).1 answer hanswer
  · rw [List.map_cons, placeAll_cons_ok (place_of_locate hplace first), finalText_cons_ok, happly,
      (placeAll_closed (hasContent_append hcontent first) rest).2, happly, List.flatten_cons,
      List.append_assoc]
  · rw [happly, closed, hcount]

/-- The text opens a namespace on the line that is cut, and the blocks are a brace and a namespace:
the place moves on behind them, and what followed the last brace is gone. -/
theorem append_stable_cut_line :
    locate "namespace n \x7b class A; \x7d // n".toList .test = .ok ⟨23, 1, .insideNamespaces⟩ ∧
    locate (apply "namespace n \x7b class A; \x7d // n".toList ⟨23, 1, .insideNamespaces⟩
      "\x7d\nnamespace é \x7b".toList) .test = .ok ⟨39, 1, .insideNamespaces⟩ ∧
    finalText "namespace n \x7b class A; \x7d // n".toList
      (placeAll "namespace n \x7b class A; \x7d // n".toList
        (["\x7d\n".toList, "namespace é \x7b".toList].map (Block.mk .test))) =
      "namespace n \x7b class A; \x7d\nnamespace é \x7b\x7d\n".toList := by
  have hplace : locate "namespace n \x7b class A; \x7d // n".toList .test =
      .ok ⟨23, 1, .insideNamespaces⟩ := by rfl
  obtain ⟨hmoves, hrun⟩ := append_stable hplace (by decide +kernel)
  refine ⟨hplace, hmoves _, ?_⟩
  obtain ⟨-, hfinal, happly⟩ := hrun "\x7d\n".toList ["namespace é \x7b".toList]
  rw [hfinal, happly]
  decide +kernel

end

end StubGen.Placement
