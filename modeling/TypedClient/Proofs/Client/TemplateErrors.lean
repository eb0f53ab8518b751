import TypedClient.Proofs.Client.TemplateDraft
import TypedClient.Proofs.Text.LineNumbers

/-!
# Errors of a template

A source that is refused has a fault, and the error names the first: a line with the marks
of two places, or a line with a mark that a line before it has. Only if there is no such
line does the error name a place that is marked nowhere. Lines with the removal tag have
no faults, but they are counted.
-/

namespace TypedClient.Client

/-! ### Faults -/

section Faults

variable (source : String)

/-- Whether the line of a source with a number is kept and has the mark of a place. -/
def MarkedAt (slot : Slot) (number : Nat) : Prop :=
  ∃ line, Text.IsLineAt source.toList number line ∧ ¬ IsTagged line ∧ slot.Marks line

/-- Whether the line with a number has the marks of two places. -/
def CrowdedAt (number : Nat) : Prop :=
  ∃ s t : Slot, s ≠ t ∧ MarkedAt source s number ∧ MarkedAt source t number

/-- Whether the line with a number has a mark that a line before it has. -/
def RepeatedAt (number : Nat) : Prop :=
  ∃ slot earlier, earlier < number ∧ MarkedAt source slot earlier ∧ MarkedAt source slot number

/-- Whether the line with a number has a fault. -/
def FaultyAt (number : Nat) : Prop :=
  CrowdedAt source number ∨ RepeatedAt source number

/-- What an error says of a source. -/
inductive NamesFirstFault : TemplateError → Prop where
  /-- The first line with a fault has the marks of two places. -/
  | crowded {number : Nat} (h : CrowdedAt source number)
      (hfirst : ∀ n < number, ¬ FaultyAt source n) : NamesFirstFault (.crowded number)
  /-- The first line with a fault has one mark, and of the lines before it one has this mark. -/
  | duplicate {slot : Slot} {first second : Nat} (hlt : first < second)
      (hmarked : MarkedAt source slot first) (h : MarkedAt source slot second)
      (honly : ∀ n < second, MarkedAt source slot n → n = first)
      (hsingle : ¬ CrowdedAt source second)
      (hfirst : ∀ n < second, ¬ FaultyAt source n) :
      NamesFirstFault (.duplicate slot first second)
  /-- No line has a fault, and of the places that are marked on no line this comes first. -/
  | missing {slot : Slot} {before after : List Slot} (h : ∀ n, ¬ MarkedAt source slot n)
      (hall : Slot.all = before ++ slot :: after)
      (hothers : ∀ other ∈ before, ∃ n, MarkedAt source other n)
      (hnone : ∀ n, ¬ FaultyAt source n) : NamesFirstFault (.missing slot)

end Faults

section Marks

variable {source : String} {slot : Slot} {i : Nat} {line : List Char}

theorem markedAt_iff {number : Nat} :
    MarkedAt source slot number ↔ ∃ i line, (Text.linesKeepingEnds source.toList)[i]? = some line ∧
      number = i + 1 ∧ ¬ IsTagged line ∧ slot.Marks line := by
  simp only [MarkedAt, Text.isLineAt_iff]
  constructor
  · rintro ⟨line, ⟨i, hi, hn⟩, h⟩
    exact ⟨i, line, hi, hn, h⟩
  · rintro ⟨i, line, hi, hn, h⟩
    exact ⟨line, ⟨i, hi, hn⟩, h⟩

/-- The marks at the number of a line are those of the line, if it is kept. -/
theorem markedAt_succ_iff (hi : (Text.linesKeepingEnds source.toList)[i]? = some line) :
    MarkedAt source slot (i + 1) ↔ ¬ IsTagged line ∧ slot.Marks line := by
  rw [markedAt_iff]
  constructor
  · rintro ⟨j, other, hj, hn, h⟩
    obtain rfl : i = j := by omega
    obtain rfl : line = other := Option.some.inj (hi.symm.trans hj)
    exact h
  · exact fun h => ⟨i, line, hi, rfl, h⟩

theorem crowdedAt_succ_iff (hi : (Text.linesKeepingEnds source.toList)[i]? = some line) :
    CrowdedAt source (i + 1) ↔ ¬ IsTagged line ∧ 1 < (slotsOn line).length := by
  rw [← Nat.not_le, length_slotsOn_le_one_iff]
  simp only [CrowdedAt, markedAt_succ_iff hi]
  push Not
  constructor
  · rintro ⟨s, t, hne, ⟨ht, hs⟩, -, htm⟩
    exact ⟨ht, s, t, hs, htm, hne⟩
  · rintro ⟨ht, s, t, hs, htm, hne⟩
    exact ⟨s, t, hne, ⟨ht, hs⟩, ht, htm⟩

/-- A line that is not crowded has one mark. -/
theorem slotsOn_eq_singleton (hi : (Text.linesKeepingEnds source.toList)[i]? = some line)
    (hc : ¬ CrowdedAt source (i + 1)) (hm : MarkedAt source slot (i + 1)) :
    slotsOn line = [slot] := by
  obtain ⟨ht, hline⟩ := (markedAt_succ_iff hi).mp hm
  rw [crowdedAt_succ_iff hi, and_iff_right ht, Nat.not_lt] at hc
  rw [← mem_slotsOn] at hline
  obtain ⟨found, hfound⟩ :=
    List.length_eq_one_iff.mp (Nat.le_antisymm hc (List.length_pos_of_mem hline))
  rw [hfound, List.mem_singleton] at hline
  rw [hfound, hline]

theorem not_markedAt_zero : ¬ MarkedAt source slot 0 := by
  rw [markedAt_iff]
  rintro ⟨i, line, -, hn, -⟩
  omega

theorem not_markedAt_succ_of_none (hi : (Text.linesKeepingEnds source.toList)[i]? = none) :
    ¬ MarkedAt source slot (i + 1) := by
  rw [markedAt_iff]
  rintro ⟨j, line, hj, hn, -⟩
  obtain rfl : i = j := by omega
  rw [hi] at hj
  contradiction

/-- Only a line has a mark, so its number is at most that of the lines. -/
theorem exists_line_of_markedAt {number : Nat} (h : MarkedAt source slot number) :
    ∃ i line, (Text.linesKeepingEnds source.toList)[i]? = some line ∧ number = i + 1 ∧
      i < (Text.linesKeepingEnds source.toList).length := by
  obtain ⟨i, line, hi, hn, -⟩ := markedAt_iff.mp h
  exact ⟨i, line, hi, hn, (List.getElem?_eq_some_iff.mp hi).1⟩

theorem exists_markedAt_of_faultyAt {number : Nat} (h : FaultyAt source number) :
    ∃ slot, MarkedAt source slot number := by
  rcases h with ⟨slot, -, -, hm, -⟩ | ⟨slot, -, -, -, hm⟩
  · exact ⟨slot, hm⟩
  · exact ⟨slot, hm⟩

/-- Among lines without a fault no two have one mark. -/
theorem eq_of_markedAt {m n : Nat} (h : ∀ k ≤ i, ¬ FaultyAt source k) (hmi : m ≤ i) (hni : n ≤ i)
    (hm : MarkedAt source slot m) (hn : MarkedAt source slot n) : m = n := by
  rcases Nat.lt_trichotomy m n with hlt | heq | hlt
  · exact absurd (Or.inr ⟨slot, m, hlt, hm, hn⟩) (h n hni)
  · exact heq
  · exact absurd (Or.inr ⟨slot, n, hlt, hn, hm⟩) (h m hmi)

end Marks

namespace Draft

/-! ### One line -/

section Line

variable {d next : Draft} {number : Nat} {line : List Char} {slot : Slot}

/-- Taking a line adds its marks under its number. -/
theorem mem_seen_addLine (h : d.addLine number line = .ok next) {n : Nat} :
    (slot, n) ∈ next.seen ↔
      (slot, n) ∈ d.seen ∨ n = number ∧ ¬ IsTagged line ∧ slot.Marks line := by
  rw [← mem_slotsOn]
  rcases addLine_cases h with ⟨ht, rfl⟩ | ⟨ht, hs, rfl⟩ | ⟨ht, found, hs, -, rfl⟩
  · simp [ht]
  · simp [hs]
  · simp only [hs, List.mem_append, List.mem_singleton, Prod.mk.injEq, ht, not_false_iff, true_and]
    rw [and_comm (a := slot = found)]

theorem mem_seen_of_lineOf? {first : Nat} (h : d.lineOf? slot = some first) :
    (slot, first) ∈ d.seen := by
  rw [lineOf?, Option.map_eq_some_iff] at h
  obtain ⟨entry, hf, rfl⟩ := h
  have hslot := List.find?_some hf
  obtain rfl : entry.1 = slot := eq_of_beq hslot
  exact List.mem_of_find?_eq_some hf

theorem isSome_lineOf?_iff : (d.lineOf? slot).isSome = true ↔ slot ∈ d.slots := by
  rw [Option.isSome_iff_ne_none, Ne, lineOf?_eq_none_iff, not_not]

/-- A line is refused for two marks, or for one that has been found before. -/
theorem addLine_eq_error_iff {e : TemplateError} :
    d.addLine number line = .error e ↔ ¬ IsTagged line ∧
      (1 < (slotsOn line).length ∧ e = .crowded number ∨
        ∃ slot first, slotsOn line = [slot] ∧ d.lineOf? slot = some first ∧
          e = .duplicate slot first number) := by
  by_cases ht : IsTagged line
  · rw [addLine_of_isTagged d number ht]
    simp [ht]
  · rw [and_iff_right ht]
    match hs : slotsOn line with
    | [] =>
      rw [addLine_of_unmarked d number ht hs]
      simp
    | [slot] =>
      by_cases hf : slot ∈ d.slots
      · obtain ⟨first, hfirst, he⟩ := addLine_of_found d number ht hs hf
        rw [he]
        simp [hfirst, eq_comm]
      · rw [addLine_of_marked d number ht hs hf]
        simp [lineOf?_eq_none_iff.mpr hf]
    | _ :: _ :: _ =>
      rw [addLine_of_crowded d number ht (by simp [hs])]
      simp [eq_comm]

end Line

/-! ### The first lines -/

theorem addLines_concat_eq_ok_iff {d final : Draft} {number : Nat} {before : List (List Char)}
    {line : List Char} :
    d.addLines number (before ++ [line]) = .ok final ↔
      ∃ next, d.addLines number before = .ok next ∧
        next.addLine (number + before.length) line = .ok final := by
  induction before generalizing d number with
  | nil => simp [addLines_cons_eq_ok_iff, addLines.eq_1]
  | cons first before ih =>
    have hnumber : number + (first :: before).length = number + 1 + before.length := by
      rw [List.length_cons, ← Nat.add_assoc, Nat.add_right_comm]
    simp only [List.cons_append, addLines_cons_eq_ok_iff, ih, hnumber]
    constructor
    · rintro ⟨mid, hmid, next, hnext, hfinal⟩
      exact ⟨next, ⟨mid, hmid, hnext⟩, hfinal⟩
    · rintro ⟨next, ⟨mid, hmid, hnext⟩, hfinal⟩
      exact ⟨mid, hmid, next, hnext, hfinal⟩

theorem addLines_cons_eq_error_iff {d : Draft} {number : Nat} {line : List Char}
    {rest : List (List Char)} {e : TemplateError} :
    d.addLines number (line :: rest) = .error e ↔
      d.addLine number line = .error e ∨
        ∃ next, d.addLine number line = .ok next ∧ next.addLines (number + 1) rest = .error e := by
  rw [addLines]
  cases d.addLine number line with
  | error refused => simp
  | ok next => simp

/-- A run that is refused has taken some lines and is refused at the next. -/
theorem addLines_eq_error_iff {d : Draft} {number : Nat} {lines : List (List Char)}
    {e : TemplateError} :
    d.addLines number lines = .error e ↔
      ∃ i line next, lines[i]? = some line ∧ d.addLines number (lines.take i) = .ok next ∧
        next.addLine (number + i) line = .error e := by
  induction lines generalizing d number with
  | nil => simp [addLines]
  | cons first rest ih =>
    rw [addLines_cons_eq_error_iff]
    constructor
    · rintro (he | ⟨mid, hmid, hrest⟩)
      · exact ⟨0, first, d, rfl, rfl, he⟩
      · obtain ⟨i, line, next, hi, htaken, he⟩ := ih.mp hrest
        rw [Nat.add_right_comm] at he
        exact ⟨i + 1, line, next, hi, addLines_cons_eq_ok_iff.mpr ⟨mid, hmid, htaken⟩, he⟩
    · rintro ⟨i, line, next, hi, htaken, he⟩
      cases i with
      | zero =>
        obtain rfl := Option.some.inj hi
        obtain rfl := Except.ok.inj htaken
        exact Or.inl he
      | succ i =>
        obtain ⟨mid, hmid, htaken⟩ := addLines_cons_eq_ok_iff.mp htaken
        rw [← Nat.add_assoc, Nat.add_right_comm] at he
        exact Or.inr ⟨mid, hmid, ih.mpr ⟨i, line, next, hi, htaken, he⟩⟩

/-- Whether a draft has taken the first lines of a source. -/
def HasTaken (d : Draft) (source : String) (count : Nat) : Prop :=
  empty.addLines 1 ((Text.linesKeepingEnds source.toList).take count) = .ok d

section Taken

variable {source : String} {i : Nat} {line : List Char} {d final : Draft}

theorem hasTaken_zero_iff : d.HasTaken source 0 ↔ empty = d := by
  rw [HasTaken, List.take_zero, addLines, Except.ok.injEq]

theorem hasTaken_succ_of_none (hi : (Text.linesKeepingEnds source.toList)[i]? = none) :
    d.HasTaken source (i + 1) ↔ d.HasTaken source i := by
  rw [HasTaken, HasTaken, List.take_add_one, hi]
  simp

theorem hasTaken_succ_of_some (hi : (Text.linesKeepingEnds source.toList)[i]? = some line) :
    final.HasTaken source (i + 1) ↔
      ∃ d : Draft, d.HasTaken source i ∧ d.addLine (i + 1) line = .ok final := by
  have hlength : ((Text.linesKeepingEnds source.toList).take i).length = i := by
    rw [List.length_take, Nat.min_eq_left (List.getElem?_eq_some_iff.mp hi).1.le]
  rw [HasTaken, List.take_add_one, hi, Option.toList_some, addLines_concat_eq_ok_iff, hlength,
    Nat.add_comm 1 i]
  rfl

/-- A draft knows the marks of the lines that it has taken. -/
theorem HasTaken.mem_seen_iff (h : d.HasTaken source i) {slot : Slot} {n : Nat} :
    (slot, n) ∈ d.seen ↔ MarkedAt source slot n ∧ n ≤ i := by
  induction i generalizing d with
  | zero =>
    obtain rfl := hasTaken_zero_iff.mp h
    refine iff_of_false (by simp [empty]) ?_
    rintro ⟨hm, hn⟩
    obtain rfl := Nat.le_zero.mp hn
    exact not_markedAt_zero hm
  | succ i ih =>
    cases hi : (Text.linesKeepingEnds source.toList)[i]? with
    | none =>
      rw [ih ((hasTaken_succ_of_none hi).mp h)]
      refine and_congr_right fun hm => ⟨Nat.le_succ_of_le, fun hn => ?_⟩
      rcases Nat.le_succ_iff.mp hn with hn | rfl
      · exact hn
      · exact absurd hm (not_markedAt_succ_of_none hi)
    | some line =>
      obtain ⟨before, hbefore, hline⟩ := (hasTaken_succ_of_some hi).mp h
      rw [mem_seen_addLine hline, ih hbefore, ← markedAt_succ_iff hi, Nat.le_succ_iff, and_or_left]
      refine or_congr_right ⟨?_, ?_⟩
      · rintro ⟨rfl, hm⟩
        exact ⟨hm, rfl⟩
      · rintro ⟨hm, rfl⟩
        exact ⟨rfl, hm⟩

theorem HasTaken.mem_slots_iff (h : d.HasTaken source i) {slot : Slot} :
    slot ∈ d.slots ↔ ∃ n ≤ i, MarkedAt source slot n := by
  rw [slots, List.mem_map]
  constructor
  · rintro ⟨⟨_, n⟩, hm, rfl⟩
    obtain ⟨hm, hn⟩ := h.mem_seen_iff.mp hm
    exact ⟨n, hn, hm⟩
  · rintro ⟨n, hn, hm⟩
    exact ⟨(slot, n), h.mem_seen_iff.mpr ⟨hm, hn⟩, rfl⟩

/-- The next line is refused if it has a fault. -/
theorem HasTaken.exists_error_iff (h : d.HasTaken source i)
    (hi : (Text.linesKeepingEnds source.toList)[i]? = some line) :
    (∃ e, d.addLine (i + 1) line = .error e) ↔ FaultyAt source (i + 1) := by
  constructor
  · rintro ⟨e, he⟩
    obtain ⟨ht, ⟨hs, -⟩ | ⟨slot, first, hs, hfirst, -⟩⟩ := addLine_eq_error_iff.mp he
    · exact Or.inl ((crowdedAt_succ_iff hi).mpr ⟨ht, hs⟩)
    · obtain ⟨hm, hn⟩ := h.mem_seen_iff.mp (mem_seen_of_lineOf? hfirst)
      have hline : slot.Marks line := by simp [← mem_slotsOn, hs]
      refine Or.inr ⟨slot, first, Nat.lt_succ_of_le hn, hm, ?_⟩
      exact (markedAt_succ_iff hi).mpr ⟨ht, hline⟩
  · intro hfault
    by_cases hc : CrowdedAt source (i + 1)
    · obtain ⟨ht, hs⟩ := (crowdedAt_succ_iff hi).mp hc
      exact ⟨_, addLine_of_crowded d (i + 1) ht hs⟩
    · obtain ⟨slot, earlier, hlt, hearlier, hm⟩ := hfault.resolve_left hc
      obtain ⟨ht, -⟩ := (markedAt_succ_iff hi).mp hm
      have hfound := h.mem_slots_iff.mpr ⟨earlier, Nat.le_of_lt_succ hlt, hearlier⟩
      obtain ⟨first, -, he⟩ := addLine_of_found d (i + 1) ht (slotsOn_eq_singleton hi hc hm) hfound
      exact ⟨_, he⟩

/-- The first lines are taken if none of them has a fault. -/
theorem exists_hasTaken_iff :
    (∃ d : Draft, d.HasTaken source i) ↔ ∀ n ≤ i, ¬ FaultyAt source n := by
  induction i with
  | zero =>
    refine iff_of_true ⟨empty, hasTaken_zero_iff.mpr rfl⟩ fun n hn => ?_
    obtain rfl := Nat.le_zero.mp hn
    exact fun hf => (exists_markedAt_of_faultyAt hf).elim fun _ => not_markedAt_zero
  | succ i ih =>
    have hsplit : (∀ n ≤ i + 1, ¬ FaultyAt source n) ↔
        (∀ n ≤ i, ¬ FaultyAt source n) ∧ ¬ FaultyAt source (i + 1) := by
      constructor
      · exact fun h => ⟨fun n hn => h n (Nat.le_succ_of_le hn), h _ le_rfl⟩
      · rintro ⟨h, hlast⟩ n hn
        rcases Nat.le_succ_iff.mp hn with hn | rfl
        · exact h n hn
        · exact hlast
    rw [hsplit, ← ih]
    cases hi : (Text.linesKeepingEnds source.toList)[i]? with
    | none =>
      simp only [hasTaken_succ_of_none hi]
      refine (and_iff_left fun hf => ?_).symm
      obtain ⟨slot, hm⟩ := exists_markedAt_of_faultyAt hf
      exact not_markedAt_succ_of_none hi hm
    | some line =>
      simp only [hasTaken_succ_of_some hi]
      constructor
      · rintro ⟨final, d, hd, hline⟩
        refine ⟨⟨d, hd⟩, fun hfault => ?_⟩
        obtain ⟨e, he⟩ := (hd.exists_error_iff hi).mpr hfault
        rw [hline] at he
        contradiction
      · rintro ⟨⟨d, hd⟩, hfault⟩
        cases hline : d.addLine (i + 1) line with
        | error e => exact absurd ((hd.exists_error_iff hi).mp ⟨e, hline⟩) hfault
        | ok final => exact ⟨final, d, hd, hline⟩

/-- All lines are taken if none has a fault, and then all marks have been found. -/
theorem exists_hasTaken_length_iff :
    (∃ d : Draft, d.HasTaken source (Text.linesKeepingEnds source.toList).length) ↔
      ∀ n, ¬ FaultyAt source n := by
  rw [exists_hasTaken_iff]
  refine ⟨fun h n hf => ?_, fun h n _ => h n⟩
  obtain ⟨slot, hm⟩ := exists_markedAt_of_faultyAt hf
  obtain ⟨i, -, -, rfl, hlt⟩ := exists_line_of_markedAt hm
  exact h (i + 1) hlt hf

theorem HasTaken.mem_slots_iff_of_length {slot : Slot}
    (h : d.HasTaken source (Text.linesKeepingEnds source.toList).length) :
    slot ∈ d.slots ↔ ∃ n, MarkedAt source slot n := by
  rw [h.mem_slots_iff]
  refine exists_congr fun n => and_iff_right_of_imp fun hm => ?_
  obtain ⟨i, -, -, rfl, hlt⟩ := exists_line_of_markedAt hm
  exact hlt

end Taken

/-- A draft of all lines is refused for the first of the places that have not been found. -/
theorem finish_eq_error_iff {d : Draft} {e : TemplateError} :
    d.finish = .error e ↔
      ∃ slot before after, slot ∉ d.slots ∧ Slot.all = before ++ slot :: after ∧
        (∀ other ∈ before, other ∈ d.slots) ∧ e = .missing slot := by
  have hfirst (slot : Slot) : (Slot.all.find? fun s => (d.lineOf? s).isNone) = some slot ↔
      slot ∉ d.slots ∧ ∃ before after, Slot.all = before ++ slot :: after ∧
        ∀ other ∈ before, other ∈ d.slots := by
    rw [List.find?_eq_some_iff_append, Option.isNone_iff_eq_none, lineOf?_eq_none_iff]
    simp [isSome_lineOf?_iff]
  rw [finish]
  split
  · next slot hfind =>
    obtain ⟨hslot, before, after, hall, hothers⟩ := (hfirst slot).mp hfind
    rw [Except.error.injEq]
    constructor
    · rintro rfl
      exact ⟨slot, before, after, hslot, hall, hothers, rfl⟩
    · rintro ⟨other, before, after, hother, hall, hothers, rfl⟩
      have hsame := (hfirst other).mpr ⟨hother, before, after, hall, hothers⟩
      rw [Option.some.inj (hfind.symm.trans hsame)]
  · next hfind =>
    refine iff_of_false (by simp) ?_
    rintro ⟨other, before, after, hother, hall, hothers, -⟩
    rw [(hfirst other).mpr ⟨hother, before, after, hall, hothers⟩] at hfind
    contradiction

end Draft

/-! ### The first fault -/

/-- A source is refused at a line, or when all its lines have been taken. -/
theorem Template.parse_eq_error_iff_exists {source : String} {e : TemplateError} :
    Template.parse source = .error e ↔
      (∃ i line, ∃ d : Draft, (Text.linesKeepingEnds source.toList)[i]? = some line ∧
        d.HasTaken source i ∧ d.addLine (i + 1) line = .error e) ∨
      ∃ d : Draft, d.HasTaken source (Text.linesKeepingEnds source.toList).length ∧
        d.finish = .error e := by
  have hlines : Draft.empty.addLines 1 (Text.linesKeepingEnds source.toList) = .error e ↔ _ :=
    Draft.addLines_eq_error_iff
  simp only [Nat.add_comm 1] at hlines
  simp only [Draft.HasTaken, List.take_length]
  rw [← hlines, Template.parse]
  cases Draft.empty.addLines 1 (Text.linesKeepingEnds source.toList) with
  | error refused => simp
  | ok d => simp

section Faults

variable {source : String} {e : TemplateError}

/-- The line at which a source is refused is its first with a fault. -/
theorem namesFirstFault_of_addLine {i : Nat} {line : List Char} {d : Draft}
    (hi : (Text.linesKeepingEnds source.toList)[i]? = some line) (hd : d.HasTaken source i)
    (he : d.addLine (i + 1) line = .error e) : NamesFirstFault source e := by
  have hnone := Draft.exists_hasTaken_iff.mp ⟨d, hd⟩
  have hfirst : ∀ n < i + 1, ¬ FaultyAt source n := fun n hn => hnone n (Nat.le_of_lt_succ hn)
  obtain ⟨ht, ⟨hs, rfl⟩ | ⟨slot, first, hs, hfound, rfl⟩⟩ := Draft.addLine_eq_error_iff.mp he
  · exact .crowded ((crowdedAt_succ_iff hi).mpr ⟨ht, hs⟩) hfirst
  · obtain ⟨hm, hle⟩ := hd.mem_seen_iff.mp (Draft.mem_seen_of_lineOf? hfound)
    have hline : slot.Marks line := by simp [← mem_slotsOn, hs]
    have hsingle : ¬ CrowdedAt source (i + 1) := by simp [crowdedAt_succ_iff hi, hs]
    refine .duplicate (Nat.lt_succ_of_le hle) hm ((markedAt_succ_iff hi).mpr ⟨ht, hline⟩) ?_ hsingle
      hfirst
    exact fun n hn hother => eq_of_markedAt hnone (Nat.le_of_lt_succ hn) hle hother hm

/-- A source that is refused when all lines have been taken has no line with a fault. -/
theorem namesFirstFault_of_finish {d : Draft}
    (hd : d.HasTaken source (Text.linesKeepingEnds source.toList).length)
    (he : d.finish = .error e) : NamesFirstFault source e := by
  obtain ⟨slot, before, after, hslot, hall, hothers, rfl⟩ := Draft.finish_eq_error_iff.mp he
  refine .missing ?_ hall ?_ (Draft.exists_hasTaken_length_iff.mp ⟨d, hd⟩)
  · rwa [hd.mem_slots_iff_of_length, not_exists] at hslot
  · exact fun other ho => hd.mem_slots_iff_of_length.mp (hothers other ho)

/-- The lines before one are taken if none of them has a fault. -/
theorem exists_hasTaken_of_markedAt {slot : Slot} {number : Nat} (hm : MarkedAt source slot number)
    (hfirst : ∀ n < number, ¬ FaultyAt source n) :
    ∃ i line, ∃ d : Draft, (Text.linesKeepingEnds source.toList)[i]? = some line ∧
      number = i + 1 ∧ ¬ IsTagged line ∧ d.HasTaken source i := by
  obtain ⟨i, line, hi, rfl, ht, -⟩ := markedAt_iff.mp hm
  obtain ⟨d, hd⟩ := Draft.exists_hasTaken_iff.mpr fun n hn => hfirst n (Nat.lt_succ_of_le hn)
  exact ⟨i, line, d, hi, rfl, ht, hd⟩

end Faults

/-- A source is refused exactly for its first fault: for the first line that has the marks of two
places or a mark that a line before it has, or else for the first place that is marked nowhere. -/
theorem Template.parse_eq_error_iff (source : String) (e : TemplateError) :
    Template.parse source = .error e ↔ NamesFirstFault source e := by
  rw [Template.parse_eq_error_iff_exists]
  constructor
  · rintro (⟨i, line, d, hi, hd, he⟩ | ⟨d, hd, he⟩)
    · exact namesFirstFault_of_addLine hi hd he
    · exact namesFirstFault_of_finish hd he
  · intro h
    cases h with
    | crowded hc hfirst =>
      have hmarked := hc
      obtain ⟨slot, -, -, hm, -⟩ := hmarked
      obtain ⟨i, line, d, hi, rfl, ht, hd⟩ := exists_hasTaken_of_markedAt hm hfirst
      have hs := ((crowdedAt_succ_iff hi).mp hc).2
      exact Or.inl ⟨i, line, d, hi, hd, Draft.addLine_of_crowded d (i + 1) ht hs⟩
    | @duplicate slot first second hlt hearlier hm honly hsingle hfirst =>
      obtain ⟨i, line, d, hi, rfl, ht, hd⟩ := exists_hasTaken_of_markedAt hm hfirst
      have hslots := hd.mem_slots_iff.mpr ⟨first, Nat.le_of_lt_succ hlt, hearlier⟩
      obtain ⟨found, hfound, he⟩ := Draft.addLine_of_found d (i + 1) ht
        (slotsOn_eq_singleton hi hsingle hm) hslots
      obtain ⟨hfound, hle⟩ := hd.mem_seen_iff.mp (Draft.mem_seen_of_lineOf? hfound)
      obtain rfl := honly found (Nat.lt_succ_of_le hle) hfound
      exact Or.inl ⟨i, line, d, hi, hd, he⟩
    | missing habsent hall hothers hnone =>
      obtain ⟨d, hd⟩ := Draft.exists_hasTaken_length_iff.mpr hnone
      refine Or.inr ⟨d, hd, Draft.finish_eq_error_iff.mpr ⟨_, _, _, ?_, hall, ?_, rfl⟩⟩
      · rwa [hd.mem_slots_iff_of_length, not_exists]
      · exact fun other ho => hd.mem_slots_iff_of_length.mpr (hothers other ho)

/-- A line with the removal tag is passed over, but it has a number. -/
example : Template.parse
    "//** METHODS **//\n// //** METHODS **// /* @generator-remove */\n//** METHODS **//\n" =
      .error (.duplicate .methods 1 3) := by decide +kernel

end TypedClient.Client
