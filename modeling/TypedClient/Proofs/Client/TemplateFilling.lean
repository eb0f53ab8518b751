import TypedClient.Proofs.Client.TemplateDraft

/-!
# Filling a template

A filled template is its source with each line replaced by itself: a line with the
removal tag is left out, a line with a mark gives way to the part for its place, and
every other line stays. The draft that reads the source keeps to that after every line,
whatever lines are still pending. What is put in ends in a line feed, so each line that
stays starts a line of the result.
-/

namespace TypedClient.Client

variable (part : Slot → String)

/-- A text as it stands on lines of its own: a line feed follows unless it is empty or ends in
one. -/
def onOwnLines (text : List Char) : List Char :=
  if text ≠ [] ∧ ¬ ['\n'] <:+ text then text ++ ['\n'] else text

/-- What stands in place of a line that is kept, given the parts. -/
def inPlaceOf (line : List Char) : List Char :=
  match Slot.all.find? fun slot => slot.Marks line with
  | none => line
  | some slot => onOwnLines (part slot).toList

/-- Whether a line starts after a text. -/
def StartsLine (text : List Char) : Prop :=
  text = [] ∨ ['\n'] <:+ text

/-- The characters of a part of a template that is filled. -/
def filledSegment : Segment → List Char
  | .text run => run.toList
  | .slot place => (Template.closed (part place)).toList

/-! ### Parts that are put in -/

theorem toList_closed (text : String) : (Template.closed text).toList = onOwnLines text.toList := by
  rw [Template.closed, onOwnLines]
  cases hlast : text.toList.getLast? with
  | none =>
    rw [List.getLast?_eq_none_iff] at hlast
    simp [hlast]
  | some c =>
    obtain ⟨front, hfront⟩ := List.getLast?_eq_some_iff.mp hlast
    have hends : ['\n'] <:+ text.toList ↔ c = '\n' := by
      rw [hfront]
      constructor
      · rintro ⟨before, he⟩
        simpa using (List.append_inj' he rfl).2.symm
      · rintro rfl
        exact List.suffix_append front _
    by_cases hc : c = '\n'
    · subst hc
      simp [hends]
    · have hne : text.toList ≠ [] := by simp [hfront]
      rw [if_pos ⟨hne, mt hends.mp hc⟩]
      split
      · next he => exact absurd he (by simp)
      · next he => exact absurd (Option.some.inj he) hc
      · rw [String.toList_append]
        rfl

theorem startsLine_onOwnLines {text front : List Char} (h : StartsLine front) :
    StartsLine (front ++ onOwnLines text) := by
  rw [onOwnLines]
  split
  · next ht =>
    right
    rw [← List.append_assoc]
    exact List.suffix_append _ _
  · next ht =>
    by_cases hne : text = []
    · rwa [hne, List.append_nil]
    · right
      have hends : ['\n'] <:+ text := by
        by_contra hends
        exact ht ⟨hne, hends⟩
      exact hends.trans (List.suffix_append _ _)

theorem toList_fill (t : Template) :
    (t.fill part).toList = t.segments.flatMap (filledSegment part) := by
  rw [Template.fill, String.toList_join, List.flatMap_map]
  congr 1
  funext segment
  cases segment <;> rfl

/-! ### What a draft stands for -/

namespace Draft

/-- The pending lines stand after the parts that are closed. -/
theorem filled_flushed (d : Draft) :
    d.flushed.flatMap (filledSegment part) =
      d.segments.flatMap (filledSegment part) ++ d.pending.toList := by
  rw [flushed]
  split
  · next h =>
    rw [String.isEmpty_iff] at h
    rw [h, String.toList_empty, List.append_nil]
  · rw [List.flatMap_append, List.flatMap_singleton]
    rfl

/-- Taking a line adds what stands in its place. -/
theorem filled_addLine {d next : Draft} {number : Nat} {line : List Char}
    (h : d.addLine number line = .ok next) :
    next.flushed.flatMap (filledSegment part) =
      d.flushed.flatMap (filledSegment part) ++ (untagged [line]).flatMap (inPlaceOf part) := by
  have hfind : (Slot.all.find? fun slot => slot.Marks line) = (slotsOn line).head? := by
    rw [slotsOn, List.head?_filter]
    congr 1
    funext slot
    rw [Bool.eq_iff_iff, decide_eq_true_eq, Text.contains_iff_infix]
    rfl
  rcases addLine_cases h with ⟨ht, rfl⟩ | ⟨ht, hs, rfl⟩ | ⟨ht, slot, hs, -, rfl⟩
  · rw [untagged_cons_of_isTagged [] ht]
    exact (List.append_nil _).symm
  · have hline : inPlaceOf part line = line := by
      rw [inPlaceOf, hfind, hs]
      rfl
    rw [untagged_cons_of_not_isTagged [] ht, filled_flushed, filled_flushed, List.flatMap_cons,
      hline, String.toList_append, String.toList_ofList, List.append_assoc]
    simp [untagged]
  · have hline : inPlaceOf part line = onOwnLines (part slot).toList := by
      rw [inPlaceOf, hfind, hs]
      rfl
    have hslot : filledSegment part (.slot slot) = inPlaceOf part line := by
      rw [filledSegment, toList_closed, hline]
    rw [untagged_cons_of_not_isTagged [] ht, filled_flushed, List.flatMap_append,
      List.flatMap_singleton, hslot, List.flatMap_cons]
    simp [untagged]

/-- A run adds what stands in the place of each line that is kept. -/
theorem filled_addLines {d final : Draft} {number : Nat} {lines : List (List Char)}
    (h : d.addLines number lines = .ok final) :
    final.flushed.flatMap (filledSegment part) =
      d.flushed.flatMap (filledSegment part) ++ (untagged lines).flatMap (inPlaceOf part) := by
  induction lines generalizing d number with
  | nil =>
    obtain rfl := Except.ok.inj h
    exact (List.append_nil _).symm
  | cons line rest ih =>
    obtain ⟨next, hnext, hrest⟩ := addLines_cons_eq_ok_iff.mp h
    have hsplit : untagged (line :: rest) = untagged [line] ++ untagged rest := by
      rw [← List.singleton_append, untagged, List.filter_append]
      rfl
    rw [ih hrest, filled_addLine part hnext, hsplit, List.flatMap_append, List.append_assoc]

end Draft

/-! ### Lines of the result -/

/-- After lines that have their ends a line starts, whatever has been put in their places. -/
theorem startsLine_flatMap {before : List (List Char)}
    (h : ∀ line ∈ before, ∃ front, line = front ++ ['\n']) :
    StartsLine (before.flatMap (inPlaceOf part)) := by
  induction before using List.reverseRecOn with
  | nil => exact Or.inl rfl
  | append_singleton before line ih =>
    rw [List.flatMap_append, List.flatMap_singleton, inPlaceOf]
    split
    · right
      obtain ⟨front, rfl⟩ := h line (by simp)
      exact (List.suffix_append front _).trans (List.suffix_append _ _)
    · exact startsLine_onOwnLines (ih fun line hline => h line (by simp [hline]))

/-- A template that has been read from a source is filled line by line: the result is what stands in
the place of each line that is kept, in order. Each line without a mark stands in it as it is, at
the start of a line. -/
theorem fill_of_parse {source : String} {t : Template} (h : Template.parse source = .ok t) :
    (t.fill part).toList = (keptLines source).flatMap (inPlaceOf part) ∧
      ∀ before line after, keptLines source = before ++ line :: after →
        (∀ slot : Slot, ¬ slot.Marks line) →
        (t.fill part).toList =
            before.flatMap (inPlaceOf part) ++ line ++ after.flatMap (inPlaceOf part) ∧
          StartsLine (before.flatMap (inPlaceOf part)) := by
  obtain ⟨final, hfinal, -, rfl⟩ := Template.parse_eq_ok_iff.mp h
  have hfill : (Template.fill ⟨final.flushed⟩ part).toList =
      (keptLines source).flatMap (inPlaceOf part) := by
    rw [toList_fill, Draft.filled_addLines part hfinal]
    rfl
  refine ⟨hfill, fun before line after hkept hunmarked => ?_⟩
  have hline : inPlaceOf part line = line := by
    have hnone : (Slot.all.find? fun slot => slot.Marks line) = none := by
      rw [List.find?_eq_none]
      simp [hunmarked]
    rw [inPlaceOf, hnone]
  constructor
  · rw [hfill, hkept, List.flatMap_append, List.flatMap_cons, hline, List.append_assoc]
  · have hlines : Text.AreLines (before ++ line :: after) :=
      hkept ▸ (Text.areLines_linesKeepingEnds source.toList).filter _
    exact startsLine_flatMap part hlines.ends_of_append

/-- A source with a line for checking only, and a last line without an end. -/
def pageSource : String :=
  "//** REQUEST TYPES **//\n// @ts-nocheck /* @generator-remove */\nclass A \x7b\n" ++
    "\t//** METHODS **//\n\x7d\n//** RESPONSE TYPES **//\nexport default A;"

/-- Parts of which one has a mark in it, one lacks its last line feed and one is empty. -/
def pagePart : Slot → String
  | .methods => "\t// //** REQUEST TYPES **//\n\tb() \x7b\x7d"
  | .requestTypes => ""
  | .responseTypes => "type R = /* @generator-remove */ 1;\n"

/-- The template of that source, filled with these parts. -/
theorem fill_of_parse_pageSource :
    ∃ t, Template.parse pageSource = .ok t ∧
      (t.fill pagePart).toList = (keptLines pageSource).flatMap (inPlaceOf pagePart) ∧
      t.fill pagePart = "class A \x7b\n\t// //** REQUEST TYPES **//\n\tb() \x7b\x7d\n\x7d\n" ++
        "type R = /* @generator-remove */ 1;\nexport default A;" := by
  have hparse : Template.parse pageSource =
      .ok ⟨[.slot .requestTypes, .text "class A \x7b\n", .slot .methods, .text "\x7d\n",
        .slot .responseTypes, .text "export default A;"]⟩ := by decide +kernel
  exact ⟨_, hparse, (fill_of_parse pagePart hparse).1, by decide +kernel⟩

end TypedClient.Client
