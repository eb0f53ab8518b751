import TypedClient.Client.Transliteration
import TypedClient.Proofs.Naming.Words
import TypedClient.Proofs.Text.Occurrences
import TypedClient.Proofs.Text.Runs

/-!
# The normal form of slugs

A slug is made of the characters of identifiers, has no underscore at either end and no
two side by side. The texts of this form are those that are their own slugs, so a slug is
not changed by making a slug of it. All this holds of any transliteration that leaves
ASCII as it is. Masking every character and collapsing the underscores afterwards is the
same as replacing whole runs, first of what no identifier has and then of underscores.
-/

namespace TypedClient.Client

/-! ### Replacing runs -/

/-- The text with one underscore for each run of characters of a kind. -/
def replaceRuns (p : Char → Bool) : List Char → List Char
  | [] => []
  | c :: rest =>
    if p c then '_' :: replaceRuns p (rest.dropWhile p) else c :: replaceRuns p rest
termination_by text => text.length
decreasing_by
  · exact Nat.lt_succ_of_le (List.length_dropWhile_le p rest)
  · exact Nat.lt_succ_self rest.length

section Runs

variable {p q : Char → Bool} {c : Char}

@[simp] theorem replaceRuns_nil : replaceRuns p [] = [] := by
  rw [replaceRuns]

theorem replaceRuns_cons_of_pos (h : p c = true) (rest : List Char) :
    replaceRuns p (c :: rest) = '_' :: replaceRuns p (rest.dropWhile p) := by
  rw [replaceRuns, if_pos h]

theorem replaceRuns_cons_of_neg (h : ¬ p c = true) (rest : List Char) :
    replaceRuns p (c :: rest) = c :: replaceRuns p rest := by
  rw [replaceRuns, if_neg h]

private theorem dropWhile_dropWhile_or (text : List Char) :
    (text.dropWhile p).dropWhile (fun c => p c || q c) = text.dropWhile fun c => p c || q c := by
  induction text with
  | nil => rfl
  | cons c rest ih =>
    by_cases h : p c = true
    · rw [List.dropWhile_cons_of_pos h, ih, List.dropWhile_cons_of_pos (by simp [h])]
    · rw [List.dropWhile_cons_of_neg h]

/-- What the first replacement leaves of a run of both kinds is a run of the second kind. -/
private theorem dropWhile_replaceRuns (hq : q '_' = true) (text : List Char) :
    (replaceRuns p text).dropWhile q = replaceRuns p (text.dropWhile fun c => p c || q c) := by
  fun_induction replaceRuns p text with
  | case1 => simp
  | case2 c rest h ih =>
    rw [List.dropWhile_cons_of_pos hq, ih, dropWhile_dropWhile_or,
      List.dropWhile_cons_of_pos (by simp [h])]
  | case3 c rest h ih =>
    by_cases hc : q c = true
    · rw [List.dropWhile_cons_of_pos hc, ih, List.dropWhile_cons_of_pos (by simp [hc])]
    · rw [List.dropWhile_cons_of_neg hc, List.dropWhile_cons_of_neg (by simp [h, hc]),
        replaceRuns_cons_of_neg h]

/-- Replacing the runs of a kind and then those of another that has the underscore is replacing
the runs of both kinds together. -/
theorem replaceRuns_replaceRuns (hq : q '_' = true) (text : List Char) :
    replaceRuns q (replaceRuns p text) = replaceRuns (fun c => p c || q c) text := by
  -- the runs of both kinds together are the longest, so the induction follows them
  fun_induction replaceRuns (fun c => p c || q c) text with
  | case1 => simp
  | case2 c rest h ih =>
    by_cases hp : p c = true
    · rw [replaceRuns_cons_of_pos hp, replaceRuns_cons_of_pos hq, dropWhile_replaceRuns hq,
        dropWhile_dropWhile_or, ih]
    · have hc : q c = true := by simpa [hp] using h
      rw [replaceRuns_cons_of_neg hp, replaceRuns_cons_of_pos hc, dropWhile_replaceRuns hq, ih]
  | case3 c rest h ih =>
    rw [Bool.or_eq_true, not_or] at h
    rw [replaceRuns_cons_of_neg h.1, replaceRuns_cons_of_neg h.2, ih]

end Runs

/-! ### One pass -/

theorem collapse_eq_replaceRuns (text : List Char) :
    collapse text = replaceRuns (· == '_') text := by
  fun_induction collapse text with
  | case1 => simp
  | case2 c =>
    by_cases hc : c = '_'
    · rw [hc, replaceRuns_cons_of_pos rfl, List.dropWhile_nil, replaceRuns_nil]
    · rw [replaceRuns_cons_of_neg (by simpa using hc), replaceRuns_nil]
  | case3 c d rest h ih =>
    obtain ⟨rfl, rfl⟩ : c = '_' ∧ d = '_' := by simpa using h
    rw [ih, replaceRuns_cons_of_pos rfl, replaceRuns_cons_of_pos rfl,
      List.dropWhile_cons_of_pos rfl]
  | case4 c d rest h ih =>
    by_cases hc : c = '_'
    · have hd : ¬ d = '_' := by simpa [hc] using h
      have hdrop : (d :: rest).dropWhile (· == '_') = d :: rest :=
        List.dropWhile_cons_of_neg (by simpa using hd)
      rw [hc, replaceRuns_cons_of_pos rfl (d :: rest), hdrop, ih]
    · rw [ih, replaceRuns_cons_of_neg (by simpa using hc) (d :: rest)]

theorem mask_cons_of_inWord {c : Char} (h : inWord c = true) (rest : List Char) :
    mask (c :: rest) = c :: mask rest := by
  rw [mask, List.map_cons, ← mask, if_pos (inWord_iff.mp h).1]

/-- An underscore is masked as one, too. -/
theorem mask_cons_of_not_inWord {c : Char} (h : ¬ inWord c = true) (rest : List Char) :
    mask (c :: rest) = '_' :: mask rest := by
  rw [mask, List.map_cons, ← mask]
  split
  · next hi =>
    have hu : c = '_' := by simpa [inWord, hi] using h
    rw [hu]
  · rfl

private theorem dropWhile_mask (text : List Char) :
    (mask text).dropWhile (· == '_') = mask (text.dropWhile fun c => !inWord c) := by
  induction text with
  | nil => rfl
  | cons c rest ih =>
    by_cases h : inWord c = true
    · have hu : c ≠ '_' := (inWord_iff.mp h).2
      rw [List.dropWhile_cons_of_neg (by simp [h]), mask_cons_of_inWord h,
        List.dropWhile_cons_of_neg (by simpa using hu)]
    · rw [mask_cons_of_not_inWord h, List.dropWhile_cons_of_pos rfl, ih,
        List.dropWhile_cons_of_pos (by simpa using h)]

/-- Collapsing a masked text leaves one underscore for each run of what no word has. -/
theorem replaceRuns_mask (text : List Char) :
    replaceRuns (· == '_') (mask text) = replaceRuns (fun c => !inWord c) text := by
  fun_induction replaceRuns (fun c => !inWord c) text with
  | case1 => rw [mask, List.map_nil, replaceRuns_nil]
  | case2 c rest h ih =>
    have hc : ¬ inWord c = true := by simpa using h
    rw [mask_cons_of_not_inWord hc, replaceRuns_cons_of_pos rfl, dropWhile_mask, ih]
  | case3 c rest h ih =>
    have hc : inWord c = true := by simpa using h
    have hu : c ≠ '_' := (inWord_iff.mp hc).2
    rw [mask_cons_of_inWord hc, replaceRuns_cons_of_neg (by simpa using hu), ih]

/-- Masking characters and collapsing underscores replaces the runs of what no identifier has, and
then the runs of underscores. -/
theorem collapse_mask (text : List Char) :
    collapse (mask text) =
      replaceRuns (· == '_') (replaceRuns (fun c => !inIdentifier c) text) := by
  have hkind : (fun c => !inWord c) = fun c => !inIdentifier c || c == '_' := by
    funext c
    rw [inWord, Bool.not_and, bne, Bool.not_not]
  calc collapse (mask text)
      = replaceRuns (· == '_') (mask text) := collapse_eq_replaceRuns (mask text)
    _ = replaceRuns (fun c => !inWord c) text := replaceRuns_mask text
    _ = replaceRuns (fun c => !inIdentifier c || c == '_') text := by rw [hkind]
    _ = replaceRuns (· == '_') (replaceRuns (fun c => !inIdentifier c) text) :=
      (replaceRuns_replaceRuns rfl text).symm

/-! ### The normal form -/

/-- The normal form of slugs. -/
structure IsSlug (text : List Char) : Prop where
  /-- It is made of the characters of identifiers. -/
  inIdentifier_of_mem : ∀ c ∈ text, inIdentifier c = true
  /-- It does not start with an underscore. -/
  head?_ne : text.head? ≠ some '_'
  /-- It does not end in one. -/
  getLast?_ne : text.getLast? ≠ some '_'
  /-- No two underscores stand side by side. -/
  not_pair_infix : ¬ ['_', '_'] <:+: text

private theorem any_underscore_eq_false {c : Option Char} :
    c.any (· == '_') = false ↔ c ≠ some '_' := by
  cases c with
  | none => simp
  | some d => simp

/-- What becomes of a text is in normal form. -/
theorem isSlug_tidy (text : List Char) : IsSlug (tidy text) where
  inIdentifier_of_mem _ h := inIdentifier_of_mem_tidy h
  head?_ne := any_underscore_eq_false.mp (Text.head?_dropEnds_any _ _)
  getLast?_ne := any_underscore_eq_false.mp (Text.getLast?_dropEnds_any _ _)
  not_pair_infix := Text.not_pair_infix_iff.mpr (isChain_tidy text)

theorem mask_eq_self {text : List Char} (h : ∀ c ∈ text, inIdentifier c = true) :
    mask text = text := by
  rw [mask, List.map_congr_left fun c hc => if_pos (h c hc), List.map_id']

theorem collapse_eq_self {text : List Char} (h : text.IsChain NotBothUnderscores) :
    collapse text = text := by
  fun_induction collapse text with
  | case1 => rfl
  | case2 c => rfl
  | case3 c d rest hb ih => exact absurd (by simpa using hb) (List.isChain_cons_cons.mp h).1
  | case4 c d rest hb ih => rw [ih h.tail]

/-- A text in normal form stays as it is. -/
theorem tidy_eq_self {text : List Char} (h : IsSlug text) : tidy text = text := by
  have hmask : mask text = text := mask_eq_self h.inIdentifier_of_mem
  have hcollapse : collapse text = text :=
    collapse_eq_self (Text.not_pair_infix_iff.mp h.not_pair_infix)
  rw [tidy, hmask, hcollapse]
  exact Text.dropEnds_eq_self (any_underscore_eq_false.mpr h.head?_ne)
    (any_underscore_eq_false.mpr h.getLast?_ne)

/-! ### Any transliteration -/

/-- A way to spell texts in ASCII. That what it gives is ASCII plays no part: what no identifier
has is masked afterwards. -/
structure Transliteration where
  /-- A text as it is spelled. -/
  spell : List Char → List Char
  /-- Text in ASCII is spelled as it is. -/
  spell_of_ascii : ∀ text : List Char, (∀ c ∈ text, c.toNat < 0x80) → spell text = text

/-- The transliteration of names in a client. -/
def clientTransliteration : Transliteration where
  spell := toAscii
  spell_of_ascii _ h := toAscii_of_ascii h

/-- A function makes slugs of texts, once these are spelled. -/
structure MakesSlugs (spell slugOf : List Char → List Char) : Prop where
  /-- Runs of what no identifier has are replaced, then runs of underscores, and then underscores
  are dropped at the ends. -/
  eq_dropEnds (text : List Char) :
    slugOf text = Text.dropEnds (· == '_')
      (replaceRuns (· == '_') (replaceRuns (fun c => !inIdentifier c) (spell text)))
  /-- All that it gives is in normal form. -/
  isSlug (text : List Char) : IsSlug (slugOf text)
  /-- What it leaves as it is are the texts in normal form. -/
  eq_self_iff (text : List Char) : slugOf text = text ↔ IsSlug text
  /-- It changes nothing the second time. -/
  idempotent (text : List Char) : slugOf (slugOf text) = slugOf text

namespace Transliteration

variable (t : Transliteration)

/-- The style that spells names in this way. -/
@[reducible] def style : NameStyle :=
  .ofSpelling t.spell

/-- The slug of a text in this style. -/
def slug (text : List Char) : List Char :=
  letI := t.style
  Client.slug text

theorem slug_eq (text : List Char) : t.slug text = tidy (t.spell text) := rfl

/-- A text in normal form is ASCII, so it is not spelled otherwise. -/
theorem slug_eq_self {text : List Char} (h : IsSlug text) : t.slug text = text := by
  have hspell : t.spell text = text :=
    t.spell_of_ascii text fun c hc => lt_of_inIdentifier (h.inIdentifier_of_mem c hc)
  rw [slug_eq, hspell, tidy_eq_self h]

theorem isSlug_slug (text : List Char) : IsSlug (t.slug text) := by
  rw [slug_eq]
  exact isSlug_tidy (t.spell text)

theorem makesSlugs : MakesSlugs t.spell t.slug where
  eq_dropEnds text := by rw [slug_eq, tidy, collapse_mask]
  isSlug := t.isSlug_slug
  eq_self_iff text := by
    constructor
    · intro h
      rw [← h]
      exact t.isSlug_slug text
    · exact t.slug_eq_self
  idempotent text := t.slug_eq_self (t.isSlug_slug text)

end Transliteration

/-- The slugs of a client are in normal form, whatever texts they are made of, and so they would be
with any other transliteration. -/
theorem makesSlugs_in_every_transliteration :
    MakesSlugs toAscii (@slug usualStyle) ∧ ∀ t : Transliteration, MakesSlugs t.spell t.slug :=
  ⟨clientTransliteration.makesSlugs, Transliteration.makesSlugs⟩

/-- A run of what is replaced may have underscores in it, and may be all of a text. -/
example :
    letI := usualStyle
    ["h\u00E9llo w\u00F6rld", "__a--b__", "-_-"].map (fun text => slug text.toList) =
      ["hello_world".toList, "a_b".toList, []] := by decide +kernel

end TypedClient.Client
