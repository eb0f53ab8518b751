import TypedClient.Client.Template
import TypedClient.Proofs.Text.Occurrences

/-!
# Drafts of templates

A line does one of three things to a draft: with the removal tag it is dropped, without
a mark it joins the pending lines, and with one mark of a place that is still free it
closes them. A run takes all lines exactly if no line that is kept has two marks and
no place is marked on two of them or was found before.
-/

namespace TypedClient.Client

/-- Whether a line has the removal tag. -/
def IsTagged (line : List Char) : Prop :=
  removalTag.toList <:+: line

instance (line : List Char) : Decidable (IsTagged line) :=
  inferInstanceAs (Decidable (removalTag.toList <:+: line))

/-- Whether a line has the mark of a place. -/
def Slot.Marks (slot : Slot) (line : List Char) : Prop :=
  slot.marker.toList <:+: line

instance (slot : Slot) (line : List Char) : Decidable (slot.Marks line) :=
  inferInstanceAs (Decidable (slot.marker.toList <:+: line))

/-- The lines without the removal tag. -/
def untagged (lines : List (List Char)) : List (List Char) :=
  lines.filter fun line => ¬ IsTagged line

/-- The lines of a source that are not dropped, with their ends. -/
def keptLines (source : String) : List (List Char) :=
  untagged (Text.linesKeepingEnds source.toList)

theorem isRemoved_iff {line : List Char} : isRemoved line = true ↔ IsTagged line :=
  Text.contains_iff_infix

/-! ### Marks of a line -/

theorem Slot.mem_all (slot : Slot) : slot ∈ Slot.all := by
  cases slot <;> decide

theorem mem_slotsOn {slot : Slot} {line : List Char} : slot ∈ slotsOn line ↔ slot.Marks line := by
  rw [slotsOn, List.mem_filter, and_iff_right slot.mem_all, Text.contains_iff_infix, Slot.Marks]

theorem nodup_slotsOn (line : List Char) : (slotsOn line).Nodup :=
  List.Nodup.filter _ (by decide)

theorem length_slotsOn_le_one_iff {line : List Char} :
    (slotsOn line).length ≤ 1 ↔ ∀ s t : Slot, s.Marks line → t.Marks line → s = t := by
  simp only [← mem_slotsOn]
  have hnodup := nodup_slotsOn line
  generalize slotsOn line = found at hnodup ⊢
  cases found with
  | nil => simp
  | cons first others =>
    cases others with
    | nil => simp
    | cons second others =>
      refine iff_of_false (by simp) fun h => ?_
      obtain rfl := h first second (by simp) (by simp)
      simp at hnodup

/-- The places marked on the lines that are kept, in order. -/
def marksOf (lines : List (List Char)) : List Slot :=
  (untagged lines).flatMap slotsOn

section Untagged

variable {line : List Char} (rest : List (List Char))

theorem untagged_cons_of_isTagged (h : IsTagged line) : untagged (line :: rest) = untagged rest :=
  List.filter_cons_of_neg (by simpa using h)

theorem untagged_cons_of_not_isTagged (h : ¬ IsTagged line) :
    untagged (line :: rest) = line :: untagged rest :=
  List.filter_cons_of_pos (by simpa using h)

end Untagged

namespace Draft

/-- The places found. -/
def slots (d : Draft) : List Slot :=
  d.seen.map Prod.fst

theorem lineOf?_eq_none_iff {d : Draft} {slot : Slot} : d.lineOf? slot = none ↔ slot ∉ d.slots := by
  rw [lineOf?, Option.map_eq_none_iff, List.find?_eq_none, slots, List.mem_map]
  constructor
  · rintro h ⟨entry, hm, rfl⟩
    exact h entry hm (beq_self_eq_true _)
  · intro h entry hm he
    exact h ⟨entry, hm, eq_of_beq he⟩

/-! ### One line -/

section Line

variable (d : Draft) (number : Nat) {line : List Char}

/-- A line with the removal tag changes nothing. -/
theorem addLine_of_isTagged (h : IsTagged line) : d.addLine number line = .ok d := by
  rw [addLine, if_pos (isRemoved_iff.mpr h)]

variable (h : ¬ IsTagged line)
include h

/-- A line without a mark joins the pending lines. -/
theorem addLine_of_unmarked (hs : slotsOn line = []) :
    d.addLine number line = .ok { d with pending := d.pending ++ String.ofList line } := by
  rw [addLine, if_neg (mt isRemoved_iff.mp h), hs]

/-- A line with the mark of a free place closes the pending lines. -/
theorem addLine_of_marked {slot : Slot} (hs : slotsOn line = [slot]) (hf : slot ∉ d.slots) :
    d.addLine number line =
      .ok ⟨d.flushed ++ [.slot slot], "", d.seen ++ [(slot, number)]⟩ := by
  rw [addLine, if_neg (mt isRemoved_iff.mp h), hs]
  dsimp only
  rw [lineOf?_eq_none_iff.mpr hf]

/-- A second line for a place is refused. -/
theorem addLine_of_found {slot : Slot} (hs : slotsOn line = [slot]) (hf : slot ∈ d.slots) :
    ∃ first, d.lineOf? slot = some first ∧
      d.addLine number line = .error (.duplicate slot first number) := by
  have hsome : d.lineOf? slot ≠ none := fun he => lineOf?_eq_none_iff.mp he hf
  obtain ⟨first, hfirst⟩ := Option.ne_none_iff_exists'.mp hsome
  refine ⟨first, hfirst, ?_⟩
  rw [addLine, if_neg (mt isRemoved_iff.mp h), hs]
  dsimp only
  rw [hfirst]

/-- A line with two marks is refused. -/
theorem addLine_of_crowded (hs : 1 < (slotsOn line).length) :
    d.addLine number line = .error (.crowded number) := by
  rw [addLine, if_neg (mt isRemoved_iff.mp h)]
  split
  · next he => simp [he] at hs
  · next slot he => simp [he] at hs
  · rfl

end Line

/-- What a line that is taken has done to a draft. -/
theorem addLine_cases {d next : Draft} {number : Nat} {line : List Char}
    (h : d.addLine number line = .ok next) :
    (IsTagged line ∧ next = d) ∨
    (¬ IsTagged line ∧ slotsOn line = [] ∧
      next = { d with pending := d.pending ++ String.ofList line }) ∨
    (¬ IsTagged line ∧ ∃ slot, slotsOn line = [slot] ∧ slot ∉ d.slots ∧
      next = ⟨d.flushed ++ [.slot slot], "", d.seen ++ [(slot, number)]⟩) := by
  by_cases ht : IsTagged line
  · rw [addLine_of_isTagged d number ht] at h
    exact Or.inl ⟨ht, (Except.ok.inj h).symm⟩
  · right
    match hs : slotsOn line with
    | [] =>
      rw [addLine_of_unmarked d number ht hs] at h
      exact Or.inl ⟨ht, rfl, (Except.ok.inj h).symm⟩
    | [slot] =>
      by_cases hf : slot ∈ d.slots
      · obtain ⟨first, -, he⟩ := addLine_of_found d number ht hs hf
        rw [he] at h
        exact absurd h (by simp)
      · rw [addLine_of_marked d number ht hs hf] at h
        exact Or.inr ⟨ht, slot, rfl, hf, (Except.ok.inj h).symm⟩
    | _ :: _ :: _ =>
      rw [addLine_of_crowded d number ht (by simp [hs])] at h
      exact absurd h (by simp)

/-! ### All lines -/

/-- A run that takes a line goes on with what the line has made of the draft. -/
theorem addLines_cons_eq_ok_iff {d final : Draft} {number : Nat} {line : List Char}
    {rest : List (List Char)} :
    d.addLines number (line :: rest) = .ok final ↔
      ∃ next, d.addLine number line = .ok next ∧ next.addLines (number + 1) rest = .ok final := by
  rw [addLines]
  cases d.addLine number line with
  | error e => simp
  | ok next => simp

/-- A run finds the places marked on the lines that are kept. -/
theorem slots_addLines {d final : Draft} {number : Nat} {lines : List (List Char)}
    (h : d.addLines number lines = .ok final) : final.slots = d.slots ++ marksOf lines := by
  induction lines generalizing d number with
  | nil =>
    obtain rfl := Except.ok.inj h
    simp [marksOf, untagged]
  | cons line rest ih =>
    obtain ⟨next, hnext, hrest⟩ := addLines_cons_eq_ok_iff.mp h
    rw [ih hrest, marksOf, marksOf]
    rcases addLine_cases hnext with ⟨ht, rfl⟩ | ⟨ht, hs, rfl⟩ | ⟨ht, slot, hs, -, rfl⟩
    · rw [untagged_cons_of_isTagged rest ht]
    · rw [untagged_cons_of_not_isTagged rest ht, List.flatMap_cons, hs, List.nil_append]
      rfl
    · rw [untagged_cons_of_not_isTagged rest ht, List.flatMap_cons, hs, ← List.append_assoc]
      simp [slots]

/-- A run takes all lines exactly if no line that is kept has two marks, and no place is marked
twice or has been found before. -/
theorem exists_addLines_iff {d : Draft} (number : Nat) (lines : List (List Char))
    (hd : d.slots.Nodup) :
    (∃ final, d.addLines number lines = .ok final) ↔
      (∀ line ∈ untagged lines, (slotsOn line).length ≤ 1) ∧
        (d.slots ++ marksOf lines).Nodup := by
  induction lines generalizing d number with
  | nil => simp [addLines, untagged, marksOf, hd]
  | cons line rest ih =>
    have hstep : (∃ final, d.addLines number (line :: rest) = .ok final) ↔
        ∃ next, d.addLine number line = .ok next ∧
          ∃ final, next.addLines (number + 1) rest = .ok final := by
      simp only [addLines_cons_eq_ok_iff]
      exact ⟨fun ⟨final, next, hn, hf⟩ => ⟨next, hn, final, hf⟩,
        fun ⟨next, hn, final, hf⟩ => ⟨final, next, hn, hf⟩⟩
    rw [hstep, marksOf]
    by_cases ht : IsTagged line
    · rw [untagged_cons_of_isTagged rest ht, addLine_of_isTagged d number ht]
      simpa [marksOf] using ih (number + 1) hd
    · rw [untagged_cons_of_not_isTagged rest ht, List.forall_mem_cons, List.flatMap_cons,
        ← List.append_assoc]
      match hs : slotsOn line with
      | [] =>
        rw [addLine_of_unmarked d number ht hs]
        have hslots : Draft.slots { d with pending := d.pending ++ String.ofList line } = d.slots :=
          rfl
        have hrest :=
          ih (d := { d with pending := d.pending ++ String.ofList line }) (number + 1) hd
        rw [hslots] at hrest
        simpa [marksOf] using hrest
      | [slot] =>
        by_cases hf : slot ∈ d.slots
        · obtain ⟨first, -, he⟩ := addLine_of_found d number ht hs hf
          rw [he]
          refine iff_of_false (by simp) fun h => ?_
          have hfound := (List.nodup_append.mp h.2).1
          exact (List.nodup_append.mp hfound).2.2 slot hf slot List.mem_cons_self rfl
        · rw [addLine_of_marked d number ht hs hf]
          have hslots : Draft.slots ⟨d.flushed ++ [.slot slot], "", d.seen ++ [(slot, number)]⟩ =
              d.slots ++ [slot] := by simp [slots]
          have hnodup : (d.slots ++ [slot]).Nodup := by
            rw [List.nodup_append]
            exact ⟨hd, List.nodup_singleton _, fun a ha b hb he =>
              hf (List.mem_singleton.mp hb ▸ he ▸ ha)⟩
          have hrest := ih (number + 1) (hslots ▸ hnodup)
          rw [hslots] at hrest
          simpa [marksOf] using hrest
      | first :: second :: others =>
        rw [addLine_of_crowded d number ht (by simp [hs])]
        exact iff_of_false (by simp) fun h => absurd h.1.1 (by simp)

/-- A draft makes a template if all places have been found: the one of its parts. -/
theorem finish_eq_ok_iff {d : Draft} {t : Template} :
    d.finish = .ok t ↔ (∀ slot : Slot, slot ∈ d.slots) ∧ t = ⟨d.flushed⟩ := by
  have hall : (Slot.all.find? fun slot => (d.lineOf? slot).isNone) = none ↔
      ∀ slot : Slot, slot ∈ d.slots := by
    rw [List.find?_eq_none]
    simp [lineOf?_eq_none_iff, Slot.mem_all]
  rw [finish]
  split
  · next slot hfind =>
    refine iff_of_false (by simp) fun h => ?_
    rw [hall.mpr h.1] at hfind
    exact absurd hfind (by simp)
  · next hfind =>
    rw [and_iff_right (hall.mp hfind), Except.ok.injEq, eq_comm]

end Draft

/-- A source is read as the parts of the draft that has taken all its lines. -/
theorem Template.parse_eq_ok_iff {source : String} {t : Template} :
    Template.parse source = .ok t ↔
      ∃ final, Draft.empty.addLines 1 (Text.linesKeepingEnds source.toList) = .ok final ∧
        (∀ slot : Slot, slot ∈ final.slots) ∧ t = ⟨final.flushed⟩ := by
  rw [Template.parse]
  cases Draft.empty.addLines 1 (Text.linesKeepingEnds source.toList) with
  | error e => simp
  | ok draft => simp [Draft.finish_eq_ok_iff]

end TypedClient.Client
