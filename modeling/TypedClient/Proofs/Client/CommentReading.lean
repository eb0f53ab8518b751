import TypedClient.Proofs.Script.Scanning
import TypedClient.Proofs.Text.Occurrences

/-!
# Reading comment blocks

Whatever a description says, the block for it is one comment: none of its lines ends
the comment, because a star and a slash are kept apart, and its last line does. So the
block has no tokens, and it leaves the reader between tokens. None of its lines has a
line feed in it.
-/

namespace TypedClient.Client

open TypedClient.Script

/-! ### Texts that leave a comment open -/

/-- The two characters that end a comment. -/
def commentEnd : List Char := ['*', '/']

/-- Whether nothing in a text ends a comment. -/
def LeavesOpen (text : String) : Prop :=
  ¬ commentEnd <:+: text.toList

instance (text : String) : Decidable (LeavesOpen text) :=
  inferInstanceAs (Decidable (¬ commentEnd <:+: text.toList))

theorem LeavesOpen.append {a b : String} (ha : LeavesOpen a) (hb : LeavesOpen b)
    (h : a.toList.getLast? = some '*' → b.toList.head? ≠ some '/') : LeavesOpen (a ++ b) := by
  rw [LeavesOpen, String.toList_append]
  exact Text.not_pair_infix_append ha hb h

theorem head?_keepOpen (text : List Char) : (keepOpen text).head? = text.head? := by
  fun_cases keepOpen text <;> rfl

theorem getLast?_keepOpen (text : List Char) : (keepOpen text).getLast? = text.getLast? := by
  fun_induction keepOpen text with
  | case1 => rfl
  | case2 c => rfl
  | case3 rest ih => simp [List.getLast?_cons, ih]
  | case4 c rest hone hpair ih => simp [List.getLast?_cons, ih]

/-- What keeps stars and slashes apart ends no comment. -/
theorem leavesOpen_keepOpen (text : List Char) : LeavesOpen (String.ofList (keepOpen text)) := by
  rw [LeavesOpen, String.toList_ofList, commentEnd, Text.not_pair_infix_iff]
  fun_induction keepOpen text with
  | case1 => exact .nil
  | case2 c => exact .singleton c
  | case3 rest ih =>
    have hslash : List.IsChain (fun c d => ¬(c = '*' ∧ d = '/')) ('/' :: keepOpen rest) :=
      ih.cons fun d _ hd => absurd hd.1 (by decide)
    exact .cons_cons (by decide) (.cons_cons (by decide) hslash)
  | case4 c rest hone hpair ih =>
    refine ih.cons fun d hd => ?_
    rintro ⟨rfl, rfl⟩
    rw [head?_keepOpen] at hd
    cases rest with
    | nil => simp at hd
    | cons e rest => exact hpair rest rfl (by simpa using hd)

/-- Each line of a comment starts with a blank and a star, and ends no comment. -/
theorem leavesOpen_of_mem_commentBody {description : Option String} {line : String}
    (h : line ∈ commentBody description) :
    LeavesOpen line ∧ line.toList.head? = some ' ' := by
  rw [commentBody, List.mem_map] at h
  obtain ⟨piece, -, rfl⟩ := h
  split
  · decide
  · have hfront : LeavesOpen " * " := by decide
    refine ⟨hfront.append (leavesOpen_keepOpen _) fun hstar => absurd hstar (by decide), ?_⟩
    rw [String.toList_append]
    rfl

/-! ### Reading a comment -/

/-- In a comment only a slash after a star is more than a character of it. -/
theorem scan_comment {star : Bool} {c : Char} (h : star = true → c ≠ '/') :
    Mode.scan (.comment star) c = some ([], .comment (c == '*')) := by
  have hopen : ¬(star = true ∧ c = '/') := fun hc => h hc.1 hc.2
  show Mode.step (.comment star) c = _
  rw [Mode.step, if_neg hopen]

/-- A text that ends no comment, and does not go on where one could end, is read as a part of the
comment that it is in. -/
theorem feed_comment {text : List Char} {star : Bool} (ho : ¬ commentEnd <:+: text)
    (h : star = true → text.head? ≠ some '/') :
    ∃ last, feed Mode.scan (.comment star) text = some ([], .comment last) := by
  rw [commentEnd, Text.not_pair_infix_iff] at ho
  induction text generalizing star with
  | nil => exact ⟨star, rfl⟩
  | cons c rest ih =>
    obtain ⟨hnext, hrest⟩ := List.isChain_cons.mp ho
    have hc : star = true → c ≠ '/' := fun hs he => h hs (by rw [he]; rfl)
    have hslash : (c == '*') = true → rest.head? ≠ some '/' :=
      fun hstar he => hnext '/' he ⟨by simpa using hstar, rfl⟩
    obtain ⟨last, hlast⟩ := ih hrest hslash
    exact ⟨last, by rw [feed_cons (scan_comment hc), hlast]; rfl⟩

/-- Keeping stars and slashes apart brings in no line feed. -/
theorem lineFeed_not_mem_keepOpen {text : List Char} (h : '\n' ∉ text) : '\n' ∉ keepOpen text := by
  fun_induction keepOpen text with
  | case1 => exact h
  | case2 c => exact h
  | case3 rest ih =>
    simp only [List.mem_cons, not_or] at h ⊢
    exact ⟨h.1, by decide, h.2.1, ih h.2.2⟩
  | case4 c rest hone hpair ih =>
    rw [List.mem_cons, not_or] at h ⊢
    exact ⟨h.1, ih h.2⟩

/-! ### Lines in a comment -/

/-- A text that does not end the comment that it is in. -/
def Stays (text : String) : Prop :=
  ∀ star, ∃ last, feed Mode.scan (.comment star) text.toList = some ([], .comment last)

/-- A text that ends the comment that it is in, and after which the reader is between tokens. -/
def Closes (text : String) : Prop :=
  ∀ star, feed Mode.scan (.comment star) text.toList = some ([], .blank)

theorem Stays.append {a b : String} (ha : Stays a) (hb : Stays b) : Stays (a ++ b) := by
  intro star
  obtain ⟨mid, hmid⟩ := ha star
  obtain ⟨last, hlast⟩ := hb mid
  exact ⟨last, by rw [String.toList_append]; exact feed_append hmid hlast⟩

theorem Stays.closes {a b : String} (ha : Stays a) (hb : Closes b) : Closes (a ++ b) := by
  intro star
  obtain ⟨mid, hmid⟩ := ha star
  rw [String.toList_append]
  exact feed_append hmid (hb mid)

theorem stays_indent (level : Nat) : Stays (indent level) := by
  intro star
  rw [toList_indent]
  induction level generalizing star with
  | zero => exact ⟨star, rfl⟩
  | succ n ih =>
    obtain ⟨last, hlast⟩ := ih false
    have htab : Mode.scan (.comment star) '\t' = some ([], .comment false) :=
      scan_comment fun _ => by decide
    exact ⟨last, by rw [List.replicate_succ, feed_cons htab, hlast]; rfl⟩

theorem stays_of_mem_commentBody {description : Option String} {line : String}
    (h : line ∈ commentBody description) : Stays line := by
  obtain ⟨hopen, hhead⟩ := leavesOpen_of_mem_commentBody h
  exact fun star => feed_comment hopen fun _ => by simp [hhead]

/-- Lines in a comment, and the one that ends it. -/
theorem closes_lines {texts : List String} {last : String} (h : ∀ text ∈ texts, Stays text)
    (hlast : Closes last) : Closes ("\n".intercalate (texts ++ [last])) := by
  induction texts with
  | nil =>
    rw [List.nil_append, String.intercalate_singleton]
    exact hlast
  | cons text texts ih =>
    have hrest := ih fun other ho => h other (List.mem_cons_of_mem text ho)
    have hfeed : Stays "\n" := fun star => ⟨false, by cases star <;> rfl⟩
    rw [List.cons_append, String.intercalate_cons_of_ne_nil (by simp)]
    exact ((h text List.mem_cons_self).append hfeed).closes hrest

/-- A comment block has no tokens. -/
theorem isBlock_commentBlock (description : Option String) (level : Nat) :
    IsBlock ("\n".intercalate (commentBlock description level)) [] := by
  rw [commentBlock]
  split
  · exact isBlock_empty
  · have hbody : ∀ text ∈ (commentBody description).map (indent level ++ ·), Stays text := by
      intro text ht
      obtain ⟨line, hline, rfl⟩ := List.mem_map.mp ht
      exact (stays_indent level).append (stays_of_mem_commentBody hline)
    have hend : Closes " */" := by
      intro star
      cases star <;> rfl
    have hrest := closes_lines hbody ((stays_indent level).closes hend)
    have hopen : feed Mode.scan .blank "/**\n".toList = some ([], .comment false) := rfl
    have hinner := feed_append hopen (hrest false)
    rw [← String.toList_append] at hinner
    have hall := (isBlock_indent level).append hinner
    have htext : "\n".intercalate
        ((["/**"] ++ commentBody description ++ [" */"]).map (indent level ++ ·)) =
        indent level ++ ("/**\n" ++
          "\n".intercalate ((commentBody description).map (indent level ++ ·) ++
            [indent level ++ " */"])) := by
      have hjoin : "/**\n" = "/**" ++ "\n" := rfl
      rw [List.map_append, List.map_append, List.map_singleton, List.map_singleton,
        List.append_assoc, List.singleton_append, String.intercalate_cons_of_ne_nil (by simp),
        hjoin]
      simp only [String.append_assoc]
    rw [htext]
    exact hall

/-! ### Line feeds -/

theorem isLine_indent (level : Nat) : Text.IsLine (indent level) := by
  intro h
  rw [toList_indent] at h
  exact absurd (List.mem_replicate.mp h).2 (by decide)

theorem isLine_of_mem_commentBody {description : Option String} {line : String}
    (h : line ∈ commentBody description) : Text.IsLine line := by
  rw [commentBody, List.mem_map] at h
  obtain ⟨piece, hpiece, rfl⟩ := h
  have hkept : '\n' ∉ keepOpen (Text.trimEnd piece) :=
    lineFeed_not_mem_keepOpen fun hc =>
      Text.lineFeed_not_mem_of_mem_lines hpiece (Text.mem_of_mem_trimEnd hc)
  split
  · decide
  · have hfront : Text.IsLine " * " := by decide
    have hwords : Text.IsLine (String.ofList (keepOpen (Text.trimEnd piece))) := by
      rw [Text.IsLine, String.toList_ofList]
      exact hkept
    exact hfront.append hwords

theorem isLine_of_mem_commentBlock {description : Option String} {level : Nat} {line : String}
    (h : line ∈ commentBlock description level) : Text.IsLine line := by
  rw [commentBlock] at h
  split at h
  · exact absurd h List.not_mem_nil
  · obtain ⟨text, htext, rfl⟩ := List.mem_map.mp h
    apply (isLine_indent level).append
    rcases List.mem_append.mp htext with htext | hend
    · rcases List.mem_append.mp htext with hopen | hbody
      · obtain rfl := List.mem_singleton.mp hopen
        decide
      · exact isLine_of_mem_commentBody hbody
    · obtain rfl := List.mem_singleton.mp hend
      decide

end TypedClient.Client
