import TypedClient.Proofs.Client.TemplateDraft

/-!
# Marks of a template

A source is read as a template exactly if each mark stands on one of the lines that are
kept and no line has the marks of two places. The lines are only asked whether they have
a mark: one that has the same mark twice passes, although the mark then stands twice in
the source. Exactly there the marks of a template are not what they should be, each
once in the text that is left.
-/

namespace TypedClient.Client

/-- Whether no line that is kept has the marks of two places. -/
def MarksApart (source : String) : Prop :=
  ∀ line ∈ keptLines source, ∀ s t : Slot, s.Marks line → t.Marks line → s = t

/-- Whether each mark stands once in the text that is left of a source, and no line has the marks of
two places. -/
structure MarkedOnce (source : String) : Prop where
  /-- A mark stands at one place of the text. -/
  once : ∀ slot : Slot, Text.occurrences slot.marker.toList (keptLines source).flatten = 1
  /-- The marks stand on different lines. -/
  apart : MarksApart source

/-- Whether each mark stands on one line of those that are left of a source, and no line has the
marks of two places. -/
structure MarkedOnLines (source : String) : Prop where
  /-- A mark stands on one line. -/
  once : ∀ slot : Slot, (keptLines source).countP (fun line => slot.Marks line) = 1
  /-- The marks stand on different lines. -/
  apart : MarksApart source

/-- Whether a line that is kept has one mark twice. -/
def RepeatsMark (source : String) : Prop :=
  ∃ line ∈ keptLines source, ∃ slot : Slot, 1 < Text.occurrences slot.marker.toList line

/-! ### Marks on lines -/

/-- A place is found once for each line that has its mark. -/
theorem count_marksOf (slot : Slot) (lines : List (List Char)) :
    (marksOf lines).count slot = (untagged lines).countP fun line => slot.Marks line := by
  rw [marksOf]
  induction untagged lines with
  | nil => rfl
  | cons line rest ih =>
    have hline : (slotsOn line).count slot = if slot.Marks line then 1 else 0 := by
      rw [(nodup_slotsOn line).count]
      simp only [mem_slotsOn]
    rw [List.flatMap_cons, List.count_append, ih, hline, List.countP_cons, Nat.add_comm]
    simp only [decide_eq_true_eq]

theorem exists_parse_iff (source : String) :
    (∃ t, Template.parse source = .ok t) ↔ MarkedOnLines source := by
  have hempty : Draft.empty.slots.Nodup := List.nodup_nil
  have hrun := Draft.exists_addLines_iff 1 (Text.linesKeepingEnds source.toList) hempty
  have hslots : Draft.empty.slots = [] := rfl
  rw [hslots, List.nil_append, List.nodup_iff_count_le_one] at hrun
  have happart : (∀ line ∈ keptLines source, (slotsOn line).length ≤ 1) ↔ MarksApart source :=
    forall₂_congr fun _ _ => length_slotsOn_le_one_iff
  constructor
  · rintro ⟨t, ht⟩
    obtain ⟨final, hfinal, hall, -⟩ := Template.parse_eq_ok_iff.mp ht
    obtain ⟨hlines, hle⟩ := hrun.mp ⟨final, hfinal⟩
    refine ⟨fun slot => ?_, happart.mp hlines⟩
    have hmem : slot ∈ marksOf (Text.linesKeepingEnds source.toList) := by
      have h := hall slot
      rwa [Draft.slots_addLines hfinal, hslots, List.nil_append] at h
    have hpos := List.count_pos_iff.mpr hmem
    have hone := hle slot
    have hcount := count_marksOf slot (Text.linesKeepingEnds source.toList)
    rw [keptLines]
    omega
  · intro h
    have hcount (slot : Slot) : (marksOf (Text.linesKeepingEnds source.toList)).count slot = 1 :=
      (count_marksOf slot _).trans (h.once slot)
    obtain ⟨final, hfinal⟩ := hrun.mpr ⟨happart.mpr h.apart, fun slot => (hcount slot).le⟩
    refine ⟨_, Template.parse_eq_ok_iff.mpr ⟨final, hfinal, fun slot => ?_, rfl⟩⟩
    rw [Draft.slots_addLines hfinal, hslots, List.nil_append, ← List.count_pos_iff, hcount slot]
    exact Nat.one_pos

/-! ### Marks in the text -/

/-- Numbers add up to one if one of them is not zero and none is greater than one. -/
private theorem sum_map_eq_one_iff {α : Type} (f : α → Nat) (entries : List α) :
    (entries.map f).sum = 1 ↔
      entries.countP (fun a => 0 < f a) = 1 ∧ ∀ a ∈ entries, f a ≤ 1 := by
  have hsum (h : ∀ a ∈ entries, f a ≤ 1) :
      (entries.map f).sum = entries.countP fun a => 0 < f a := by
    induction entries with
    | nil => rfl
    | cons a rest ih =>
      rw [List.forall_mem_cons] at h
      rw [List.map_cons, List.sum_cons, ih h.2, List.countP_cons, Nat.add_comm]
      have hle := h.1
      simp only [decide_eq_true_eq]
      split <;> omega
  constructor
  · intro h
    have hle : ∀ a ∈ entries, f a ≤ 1 := fun a ha =>
      h ▸ List.le_sum_of_mem (List.mem_map_of_mem ha)
    exact ⟨(hsum hle).symm.trans h, hle⟩
  · rintro ⟨hcount, hle⟩
    exact (hsum hle).trans hcount

/-- A mark stands once in the text that is left if it stands on one line, and once there. -/
theorem occurrences_marker_eq_one_iff (source : String) (slot : Slot) :
    Text.occurrences slot.marker.toList (keptLines source).flatten = 1 ↔
      (keptLines source).countP (fun line => slot.Marks line) = 1 ∧
        ∀ line ∈ keptLines source, Text.occurrences slot.marker.toList line ≤ 1 := by
  have hlines : Text.AreLines (keptLines source) :=
    (Text.areLines_linesKeepingEnds source.toList).filter _
  have hfeed : '\n' ∉ slot.marker.toList := by cases slot <;> decide
  have hne : slot.marker.toList ≠ [] := by cases slot <;> decide
  have hmarks : (keptLines source).countP (fun line =>
        0 < Text.occurrences slot.marker.toList line) =
      (keptLines source).countP fun line => slot.Marks line := by
    refine List.countP_congr fun line _ => ?_
    rw [decide_eq_true_eq, decide_eq_true_eq]
    exact Text.occurrences_pos_iff
  rw [hlines.occurrences_flatten hfeed hne, sum_map_eq_one_iff, hmarks]

theorem markedOnce_iff (source : String) :
    MarkedOnce source ↔ MarkedOnLines source ∧ ¬ RepeatsMark source := by
  have hrepeats : ¬ RepeatsMark source ↔ ∀ line ∈ keptLines source, ∀ slot : Slot,
      Text.occurrences slot.marker.toList line ≤ 1 := by
    simp [RepeatsMark]
  rw [hrepeats]
  constructor
  · intro h
    have hboth (slot : Slot) := (occurrences_marker_eq_one_iff source slot).mp (h.once slot)
    exact ⟨⟨fun slot => (hboth slot).1, h.apart⟩, fun line hline slot => (hboth slot).2 line hline⟩
  · rintro ⟨h, hle⟩
    refine ⟨fun slot => ?_, h.apart⟩
    exact (occurrences_marker_eq_one_iff source slot).mpr
      ⟨h.once slot, fun line hline => hle line hline slot⟩

/-- A source is read as a template exactly if each mark stands on one line of those that are left
and no line has the marks of two places. That is the same as each mark standing once in the text
that is left, on a line of its own, except where the source is read although a line has one mark
twice. -/
theorem parse_succeeds_iff (source : String) :
    ((∃ t, Template.parse source = .ok t) ↔ MarkedOnLines source) ∧
      (((∃ t, Template.parse source = .ok t) ↔ MarkedOnce source) ↔
        ¬ ((∃ t, Template.parse source = .ok t) ∧ RepeatsMark source)) := by
  refine ⟨exists_parse_iff source, ?_⟩
  rw [markedOnce_iff, exists_parse_iff]
  constructor
  · rintro h ⟨hlines, hrepeats⟩
    exact (h.mp hlines).2 hrepeats
  · intro h
    exact ⟨fun hlines => ⟨hlines, fun hrepeats => h ⟨hlines, hrepeats⟩⟩, And.left⟩

/-- A source with a line that has the mark of the methods twice. -/
def doubledSource : String :=
  "//** METHODS **// //** METHODS **//\n//** REQUEST TYPES **//\n//** RESPONSE TYPES **//\n"

/-- It is read as a template, although the mark stands twice in it. -/
theorem doubledSource_parses :
    ¬ ((∃ t, Template.parse doubledSource = .ok t) ↔ MarkedOnce doubledSource) := by
  have hparse : Template.parse doubledSource =
      .ok ⟨[.slot .methods, .slot .requestTypes, .slot .responseTypes]⟩ := by decide +kernel
  intro h
  have honce := (h.mp ⟨_, hparse⟩).once .methods
  exact absurd honce (by decide +kernel)

end TypedClient.Client
