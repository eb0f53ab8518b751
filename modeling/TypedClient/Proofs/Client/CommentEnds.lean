import TypedClient.Proofs.Client.CommentReading
import TypedClient.Proofs.Client.Routing

/-!
# Where comments end

No text that is written into a comment ends it. A star stands right before a slash in
none of its lines but the last, and no line starts with a slash, so the first place at
which a comment could end is the end of its last line. That holds of the comment before
a method, with a line for each argument, and of every comment block.
-/

namespace TypedClient.Client

open TypedClient.Api (Endpoint Resolver)

theorem leavesOpen_of_slash_not_mem {text : String} (h : '/' ∉ text.toList) : LeavesOpen text :=
  fun hin => h (hin.subset (by decide))

/-- The end of a line keeps a star before it from a slash after it. -/
theorem LeavesOpen.intercalate {lines : List String} (h : ∀ line ∈ lines, LeavesOpen line) :
    LeavesOpen ("\n".intercalate lines) := by
  induction lines with
  | nil => decide
  | cons line lines ih =>
    have hline := h line List.mem_cons_self
    have hrest := ih fun other ho => h other (List.mem_cons_of_mem line ho)
    by_cases hne : lines = []
    · subst hne
      rwa [String.intercalate_singleton]
    · rw [String.intercalate_cons_of_ne_nil hne]
      have hend : LeavesOpen (line ++ "\n") := hline.append (by decide) fun _ => by decide
      exact hend.append hrest fun hstar => by simp at hstar

/-! ### Lines of a comment -/

/-- A word has no slash in it. -/
theorem leavesOpen_of_inIdentifier {text : String} (h : ∀ c ∈ text.toList, inIdentifier c = true) :
    LeavesOpen text :=
  leavesOpen_of_slash_not_mem fun hc => absurd (h '/' hc) (by decide)

theorem leavesOpen_argumentLine {a : Argument} (h : isBinding a.binding = true) :
    LeavesOpen (Method.argumentLine a) := by
  have hword : ∀ c ∈ a.binding.toList, inIdentifier c = true :=
    fun c hc => inIdentifier_of_mem_identifier (isBinding_iff.mp h).1 hc
  have hfront : LeavesOpen " * @param " := by decide
  have hname : LeavesOpen (" * @param " ++ a.binding) :=
    hfront.append (leavesOpen_of_inIdentifier hword) fun hstar => absurd hstar (by decide)
  rw [Method.argumentLine, commentSummary?]
  split
  · exact hname.append (by decide) fun _ => by decide
  · have hblank : LeavesOpen " " := by decide
    refine hname.append (hblank.append (leavesOpen_keepOpen _) fun hstar => ?_) fun _ => by simp
    exact absurd hstar (by decide)

theorem leavesOpen_indent_append {level : Nat} {line : String} (h : LeavesOpen line) :
    LeavesOpen (indent level ++ line) := by
  have htab : ∀ c ∈ (indent level).toList, c = '\t' := by
    intro c hc
    rw [Script.toList_indent] at hc
    exact List.eq_of_mem_replicate hc
  have hindent : LeavesOpen (indent level) :=
    leavesOpen_of_slash_not_mem fun hc => absurd (htab '/' hc) (by decide)
  exact hindent.append h fun hstar =>
    absurd (htab '*' (List.mem_of_getLast? hstar)) (by decide)

/-! ### The last line -/

/-- The lines stand at the start of a text, and the first place in it at which a comment could
end is the end of the last of them. -/
def EndsComment (lines : List String) (text : String) : Prop :=
  ∃ before, before ++ commentEnd = ("\n".intercalate lines).toList ∧
    Text.IsFirst commentEnd before text.toList

theorem intercalate_concat_append (front : List String) (a b : String) :
    "\n".intercalate (front ++ [a ++ b]) = "\n".intercalate (front ++ [a]) ++ b := by
  by_cases hne : front = []
  · subst hne
    rw [List.nil_append, List.nil_append, String.intercalate_singleton,
      String.intercalate_singleton]
  · rw [String.intercalate_append_of_ne_nil hne (List.cons_ne_nil _ _),
      String.intercalate_append_of_ne_nil hne (List.cons_ne_nil _ _),
      String.intercalate_singleton, String.intercalate_singleton]
    simp only [String.append_assoc]

theorem exists_intercalate_append {lines : List String} (hne : lines ≠ [])
    (rest : List String) :
    ∃ tail, "\n".intercalate (lines ++ rest) = "\n".intercalate lines ++ tail := by
  by_cases hrest : rest = []
  · exact ⟨"", by rw [hrest, List.append_nil, String.append_empty]⟩
  · exact ⟨"\n" ++ "\n".intercalate rest, by
      rw [String.intercalate_append_of_ne_nil hne hrest, String.append_assoc]⟩

/-- Lines that end no comment, and then the one that ends it. -/
theorem endsComment_of_leavesOpen {front : List String} {margin : String}
    (hf : ∀ line ∈ front, LeavesOpen line) (hm : LeavesOpen margin) (rest : List String) :
    EndsComment (front ++ [margin ++ "*/"])
      ("\n".intercalate (front ++ [margin ++ "*/"] ++ rest)) := by
  have hopen : LeavesOpen ("\n".intercalate (front ++ [margin])) :=
    LeavesOpen.intercalate fun line hl => by
      rcases List.mem_append.mp hl with hl | hl
      · exact hf line hl
      · exact List.mem_singleton.mp hl ▸ hm
  have hlines := intercalate_concat_append front margin "*/"
  have hne : front ++ [margin ++ "*/"] ≠ [] := by simp
  obtain ⟨tail, htail⟩ := exists_intercalate_append hne rest
  refine ⟨("\n".intercalate (front ++ [margin])).toList, ?_, ?_⟩
  · rw [hlines, String.toList_append]
    rfl
  · rw [htail, hlines, String.toList_append, String.toList_append]
    exact Text.isFirst_append (by decide) hopen

/-- The lines of the comment before a method but the last. -/
def Method.openLines (m : Method) : List String :=
  m.commentLines.dropLast

theorem Method.commentLines_eq (m : Method) : m.commentLines = m.openLines ++ [" */"] := by
  rw [Method.openLines, Method.commentLines, List.dropLast_append_of_ne_nil (List.cons_ne_nil _ _)]
  rw [List.append_assoc _ (List.dropLast _)]
  rfl

theorem Method.argumentLines_infix (m : Method) :
    m.arguments.map Method.argumentLine <:+: m.openLines := by
  rw [Method.openLines, Method.commentLines, List.dropLast_append_of_ne_nil (List.cons_ne_nil _ _)]
  exact List.infix_append _ _ _

theorem Method.leavesOpen_of_mem_openLines {m : Method} (hname : IsWord m.name)
    (hbinding : ∀ a ∈ m.arguments, isBinding a.binding = true) {line : String}
    (h : line ∈ m.openLines) : LeavesOpen line := by
  rw [Method.openLines, Method.commentLines,
    List.dropLast_append_of_ne_nil (List.cons_ne_nil _ _)] at h
  simp only [List.dropLast_cons_cons, List.dropLast_singleton, List.mem_append, List.mem_cons,
    List.not_mem_nil, or_false] at h
  rcases h with ((((rfl | rfl) | hbody) | rfl) | harg) | rfl | rfl
  · decide
  · have hfront : LeavesOpen " * " := by decide
    exact hfront.append (leavesOpen_of_inIdentifier hname.2) fun hstar => absurd hstar (by decide)
  · split at hbody
    · exact absurd hbody List.not_mem_nil
    · rcases List.mem_cons.mp hbody with rfl | hbody
      · decide
      · exact (leavesOpen_of_mem_commentBody hbody).1
  · decide
  · obtain ⟨a, ha, rfl⟩ := List.mem_map.mp harg
    exact leavesOpen_argumentLine (hbinding a ha)
  · decide +kernel
  · decide +kernel

/-- The comment before a method is left at its last line. -/
theorem Method.endsComment_commentLines {m : Method} (hname : IsWord m.name)
    (hbinding : ∀ a ∈ m.arguments, isBinding a.binding = true) :
    EndsComment m.commentLines m.text := by
  have hlast : " */" = " " ++ "*/" := rfl
  have hcomment : m.commentLines = m.openLines ++ [" " ++ "*/"] := by
    rw [m.commentLines_eq, hlast]
  have hlines : m.lines = m.openLines ++ [" " ++ "*/"] ++
      (m.signatures ++ [m.headLine] ++ m.bodyLines) := by
    rw [Method.lines, hcomment]
    simp only [List.append_assoc]
  have hopen : ∀ line ∈ m.openLines, LeavesOpen line :=
    fun line hl => leavesOpen_of_mem_openLines hname hbinding hl
  rw [hcomment, Method.text, hlines]
  exact endsComment_of_leavesOpen hopen (by decide) _

/-- A comment block is left at its last line. -/
theorem endsComment_commentBlock {description : Option String} (level : Nat)
    (h : commentBlock description level ≠ []) :
    EndsComment (commentBlock description level)
      ("\n".intercalate (commentBlock description level)) := by
  have hopen : ∀ line ∈ (["/**"] ++ commentBody description).map (indent level ++ ·),
      LeavesOpen line := by
    intro line hl
    obtain ⟨text, htext, rfl⟩ := List.mem_map.mp hl
    apply leavesOpen_indent_append
    rcases List.mem_cons.mp htext with rfl | hbody
    · decide
    · exact (leavesOpen_of_mem_commentBody hbody).1
  have hmargin : LeavesOpen (indent level ++ " ") := leavesOpen_indent_append (by decide)
  have hends := endsComment_of_leavesOpen hopen hmargin []
  have hlines : commentBlock description level =
      (["/**"] ++ commentBody description).map (indent level ++ ·) ++
        [indent level ++ " " ++ "*/"] := by
    rw [commentBlock] at h ⊢
    split
    · next hbody => exact absurd (by rw [hbody]) h
    · rw [List.map_append, List.map_singleton, String.append_assoc]
      rfl
  rwa [List.append_nil, ← hlines] at hends

/-! ### Blank descriptions -/

/-- There is no comment block for a description if and only if it is blank. -/
theorem commentBlock_eq_nil_iff {description : Option String} {level : Nat} :
    commentBlock description level = [] ↔
      ∀ c ∈ (description.getD "").toList, Text.isBlank c = true := by
  have hbody : commentBody description = [] ↔ Text.trim (description.getD "").toList = [] := by
    rw [commentBody, List.map_eq_nil_iff, Text.lines_eq_nil_iff]
  rw [← Text.trim_eq_nil_iff, ← hbody, commentBlock]
  split
  · next h => simp [h]
  · next h => simpa using h

/-- No description ends the comment that it is in. In the text of a method the first place at
which a comment could end is the end of the last line of the comment before it, after the lines
about its arguments; in a comment block it is the end of the last line, and only a blank
description has no block. -/
theorem comments_end_last [NameStyle] (r : Resolver) (endpoint : Endpoint)
    (description : Option String) (level : Nat) :
    let m := (compile r endpoint).1.method
    let block := commentBlock description level
    (m.commentLines = m.openLines ++ [" */"] ∧
      m.arguments.map Method.argumentLine <:+: m.openLines ∧
      EndsComment m.commentLines m.text) ∧
    ((∃ c ∈ (description.getD "").toList, Text.isBlank c = false) ↔ block ≠ []) ∧
    (block ≠ [] → EndsComment block ("\n".intercalate block)) := by
  intro m block
  have hreadable : m.IsReadable := isReadable_compile r endpoint
  refine ⟨⟨m.commentLines_eq, m.argumentLines_infix, ?_⟩, ?_, ?_⟩
  · exact Method.endsComment_commentLines hreadable.name hreadable.binding
  · rw [ne_eq, commentBlock_eq_nil_iff]
    simp
  · exact endsComment_commentBlock level

end TypedClient.Client
