import TypedClient.Api.MediaType
import TypedClient.Proofs.Text.Runs

/-!
# The grammar of media types

A media type is a type, a slash and a subtype, whose suffix follows its last plus sign;
then parameters, each after a semicolon, and blanks between them. A text is read as a
media type exactly if the grammar writes the media type so, and the grammar writes each
text in one way at most.
-/

namespace TypedClient.Api.MediaType

/-! ### Grammar -/

/-- What follows the opening quote of a value, up to the quote that ends it. -/
inductive IsQuoted : List Char → Prop
  /-- The quote that ends it. -/
  | close : IsQuoted ['"']
  /-- Any character after a backslash. -/
  | escaped (c : Char) {rest : List Char} (h : IsQuoted rest) : IsQuoted ('\\' :: c :: rest)
  /-- Another character; a line feed is none of them. -/
  | plain {c : Char} {rest : List Char} (hc : c ∉ ['"', '\\', '\n']) (h : IsQuoted rest) :
    IsQuoted (c :: rest)

/-- The value of a parameter. -/
inductive IsValue : List Char → Prop
  /-- A run of characters of names, of which there may be none. -/
  | bare {run : List Char} (h : ∀ c ∈ run, inName c = true) : IsValue run
  /-- A text in quotes. -/
  | quoted {text : List Char} (h : IsQuoted text) : IsValue ('"' :: text)

/-- Whether there are but blanks between the parts of a media type. -/
def AreSpaces (text : List Char) : Prop :=
  ∀ c ∈ text, isSpace c = true

/-- The parameters of a media type with the blanks around them. -/
inductive AreParameters : List Char → Prop
  /-- None. -/
  | done {spaces : List Char} (h : AreSpaces spaces) : AreParameters spaces
  /-- A semicolon after the last of them. -/
  | semicolon {before after : List Char} (hb : AreSpaces before) (ha : AreSpaces after) :
    AreParameters (before ++ ';' :: after)
  /-- A parameter before others. -/
  | parameter {before after name value rest : List Char} (hb : AreSpaces before)
    (ha : AreSpaces after) (hn : isName name = true) (hv : IsValue value)
    (hr : AreParameters rest) :
    AreParameters (before ++ ';' :: (after ++ (name ++ '=' :: (value ++ rest))))

/-- The text of a suffix with the plus sign before it. -/
def suffixText : Option String → List Char
  | none => []
  | some suffix => '+' :: suffix.toList

/-- The text of a media type without parameters. -/
def essence (m : MediaType) : List Char :=
  m.type.toList ++ '/' :: (m.subtype.toList ++ suffixText m.suffix)

/-- Whether a media type is made of names, and its suffix is what follows the last plus sign. -/
structure IsWellFormed (m : MediaType) : Prop where
  /-- The type is a name. -/
  type : isName m.type.toList = true
  /-- The subtype is a name. -/
  subtype : isName m.subtype.toList = true
  /-- A subtype without a suffix has no plus sign. -/
  plain : m.suffix = none → '+' ∉ m.subtype.toList
  /-- A suffix is allowed as one and has no plus sign. -/
  suffix : ∀ suffix, m.suffix = some suffix → isSuffix suffix.toList = true ∧
    (∀ c ∈ suffix.toList, inName c = true) ∧ '+' ∉ suffix.toList

/-- Whether a text is a media type with parameters. -/
def IsWritten (m : MediaType) (text : List Char) : Prop :=
  m.IsWellFormed ∧ ∃ parameters, AreParameters parameters ∧ text = m.essence ++ parameters

/-! ### Values -/

theorem inName_of_isName {name : List Char} (h : isName name = true) {c : Char} (hc : c ∈ name) :
    inName c = true := by
  simp only [isName, Bool.and_eq_true] at h
  exact List.all_eq_true.mp h.1.2 c hc

theorem afterQuote?_of_isQuoted {quoted : List Char} (h : IsQuoted quoted) (rest : List Char) :
    afterQuote? (quoted ++ rest) = some rest := by
  induction h with
  | close => rfl
  | escaped c h ih => exact ih
  | @plain c text hc h ih =>
    simp only [List.mem_cons, List.not_mem_nil, or_false, not_or] at hc
    rw [List.cons_append, afterQuote?.eq_3 _ _ (fun _ _ he => absurd he hc.2.1), if_neg hc.1,
      if_neg hc.2.2, ih]

theorem exists_of_afterQuote? {text rest : List Char} (h : afterQuote? text = some rest) :
    ∃ quoted, IsQuoted quoted ∧ text = quoted ++ rest := by
  fun_induction afterQuote? text with
  | case1 => cases h
  | case2 c text ih =>
    obtain ⟨quoted, hq, rfl⟩ := ih h
    exact ⟨_, .escaped c hq, rfl⟩
  | case3 text hescape =>
    obtain rfl := Option.some.inj h
    exact ⟨_, .close, rfl⟩
  | case4 text hescape hquote => cases h
  | case5 c text hescape hquote hfeed ih =>
    obtain ⟨quoted, hq, rfl⟩ := ih h
    have hslash : c ≠ '\\' := by
      rintro rfl
      cases hq <;> exact hescape _ _ rfl rfl
    exact ⟨c :: quoted, .plain (by simp [hquote, hslash, hfeed]) hq, rfl⟩

/-! ### Parameters -/

/-- No blank is a character of a name or a quote. -/
theorem inName_of_isSpace {c : Char} (h : isSpace c = true) : (inName c || c == '"') = false := by
  rw [isSpace, Bool.or_eq_true, beq_iff_eq, beq_iff_eq] at h
  rcases h with rfl | rfl <;> decide

theorem exists_cons_of_isName {name : List Char} (h : isName name = true) :
    ∃ c rest, name = c :: rest ∧ isSpace c = false := by
  cases name with
  | nil => cases h
  | cons c rest =>
    refine ⟨c, rest, rfl, ?_⟩
    have hc := inName_of_isName h List.mem_cons_self
    by_contra hspace
    have hnot := inName_of_isSpace (by simpa using hspace)
    rw [hc] at hnot
    cases hnot

/-- Parameters go on neither with a character of a name nor with a quote. -/
theorem AreParameters.head?_any {text : List Char} (h : AreParameters text) :
    text.head?.any (fun c => inName c || c == '"') = false := by
  have hbefore {before rest : List Char} (hb : AreSpaces before) :
      (before ++ ';' :: rest).head?.any (fun c => inName c || c == '"') = false := by
    cases before with
    | nil => rfl
    | cons c before => exact inName_of_isSpace (hb c List.mem_cons_self)
  cases h with
  | done h =>
    cases text with
    | nil => rfl
    | cons c spaces => exact inName_of_isSpace (h c List.mem_cons_self)
  | semicolon hb ha => exact hbefore hb
  | parameter hb ha hn hv hr => exact hbefore hb

theorem areParameters_of_isBlankEnd {text : List Char} (h : isBlankEnd text = true) :
    AreParameters text := by
  obtain ⟨spaces, rest, rfl, hspaces, hrest⟩ := Text.exists_run_append isSpace text
  rw [isBlankEnd, Text.dropWhile_append hspaces hrest] at h
  split at h
  · rw [List.append_nil]
    exact .done hspaces
  · exact .semicolon hspaces (List.all_eq_true.mp h)
  · cases h

/-- A parameter is passed over, if what follows it does not go on with its value. -/
theorem afterParameter?_of_isValue {before after name value rest : List Char}
    (hb : AreSpaces before) (ha : AreSpaces after) (hn : isName name = true) (hv : IsValue value)
    (hr : rest.head?.any (fun c => inName c || c == '"') = false) :
    afterParameter? (before ++ ';' :: (after ++ (name ++ '=' :: (value ++ rest)))) = some rest := by
  have hname : (name ++ '=' :: (value ++ rest)).head?.any isSpace = false := by
    obtain ⟨c, others, rfl, hc⟩ := exists_cons_of_isName hn
    exact hc
  have hinName : ∀ c ∈ name, inName c = true := fun _ => inName_of_isName hn
  have hnamed : (after ++ (name ++ '=' :: (value ++ rest))).dropWhile isSpace =
      name ++ '=' :: (value ++ rest) := Text.dropWhile_append ha hname
  have htake : (name ++ '=' :: (value ++ rest)).takeWhile inName = name :=
    Text.takeWhile_append hinName rfl
  have hdrop : (name ++ '=' :: (value ++ rest)).dropWhile inName = '=' :: (value ++ rest) :=
    Text.dropWhile_append hinName rfl
  have hsemicolon : (before ++ ';' :: (after ++ (name ++ '=' :: (value ++ rest)))).dropWhile
      isSpace = ';' :: (after ++ (name ++ '=' :: (value ++ rest))) :=
    Text.dropWhile_append hb rfl
  simp only [afterParameter?, hsemicolon, hnamed, htake, hdrop, hn, if_true]
  cases hv with
  | quoted hquoted => exact afterQuote?_of_isQuoted hquoted rest
  | bare hrun =>
    have hstop : rest.head?.any inName = false ∧ ∀ others, rest ≠ '"' :: others := by
      cases rest with
      | nil => exact ⟨rfl, fun _ => by simp⟩
      | cons c rest =>
        obtain ⟨hc, hquote⟩ := by simpa using hr
        exact ⟨hc, fun _ he => hquote (List.cons.inj he).1⟩
    have hstart : ∀ others, value ++ rest ≠ '"' :: others := by
      cases value with
      | nil => exact hstop.2
      | cons c value =>
        intro others he
        rw [(List.cons.inj he).1] at hrun
        exact absurd (hrun '"' List.mem_cons_self) (by decide)
    split
    · next others he => exact absurd (List.cons.inj he).2 (hstart others)
    · next text _ he =>
      obtain rfl : value ++ rest = text := (List.cons.inj he).2
      rw [Text.dropWhile_append hrun hstop.1]
    · next hother => exact absurd rfl (hother _)

/-- What is passed over is a parameter. -/
theorem exists_of_afterParameter? {text rest : List Char} (h : afterParameter? text = some rest) :
    ∃ before after name value, AreSpaces before ∧ AreSpaces after ∧ isName name = true ∧
      IsValue value ∧ text = before ++ ';' :: (after ++ (name ++ '=' :: (value ++ rest))) := by
  obtain ⟨before, tail, rfl, hb, htail⟩ := Text.exists_run_append isSpace text
  rw [afterParameter?, Text.dropWhile_append hb htail] at h
  split at h
  · next tail =>
    obtain ⟨after, named, rfl, ha, hnamed⟩ := Text.exists_run_append isSpace tail
    obtain ⟨name, last, rfl, hname, hlast⟩ := Text.exists_run_append inName named
    rw [Text.dropWhile_append ha hnamed] at h
    dsimp only at h
    rw [Text.takeWhile_append hname hlast, Text.dropWhile_append hname hlast] at h
    split at h
    · next hn =>
      refine ⟨before, after, name, ?_⟩
      split at h
      · next value =>
        obtain ⟨quoted, hquoted, rfl⟩ := exists_of_afterQuote? h
        exact ⟨'"' :: quoted, hb, ha, hn, .quoted hquoted, rfl⟩
      · next value _ =>
        obtain ⟨run, others, rfl, hrun, hothers⟩ := Text.exists_run_append inName value
        rw [Text.dropWhile_append hrun hothers] at h
        obtain rfl := Option.some.inj h
        exact ⟨run, hb, ha, hn, .bare hrun, rfl⟩
      · cases h
    · cases h
  · cases h

/-- What is taken for parameters are parameters, whatever the number of them that may be read. -/
theorem areParameters_sound {count : Nat} {text : List Char} (h : areParameters count text = true) :
    AreParameters text := by
  induction count generalizing text with
  | zero => exact areParameters_of_isBlankEnd h
  | succ count ih =>
    rw [areParameters, Bool.or_eq_true] at h
    rcases h with h | h
    · exact areParameters_of_isBlankEnd h
    · split at h
      · next rest hrest =>
        obtain ⟨before, after, name, value, hb, ha, hn, hv, rfl⟩ := exists_of_afterParameter? hrest
        exact .parameter hb ha hn hv (ih h)
      · cases h

/-- Parameters are read if as many may be read as there are characters. -/
theorem areParameters_complete {count : Nat} {text : List Char} (h : AreParameters text)
    (hc : text.length ≤ count) : areParameters count text = true := by
  have hblank : ∀ {text}, isBlankEnd text = true → ∀ count, areParameters count text = true := by
    intro text h count
    cases count with
    | zero => exact h
    | succ count => rw [areParameters, h, Bool.true_or]
  induction h generalizing count with
  | @done spaces h =>
    apply hblank
    rw [isBlankEnd, List.dropWhile_eq_nil_iff.mpr h]
  | @semicolon before after hb ha =>
    apply hblank
    have hsemicolon : (before ++ ';' :: after).dropWhile isSpace = ';' :: after :=
      Text.dropWhile_append hb rfl
    simp only [isBlankEnd, hsemicolon]
    exact List.all_eq_true.mpr ha
  | @parameter before after name value rest hb ha hn hv hr ih =>
    cases count with
    | zero => simp at hc
    | succ count =>
      have hlength : rest.length ≤ count := by
        simp only [List.length_append, List.length_cons] at hc
        omega
      rw [areParameters, afterParameter?_of_isValue hb ha hn hv hr.head?_any]
      simp only [ih hlength, Bool.or_true]

/-! ### Media types -/

theorem splitSuffix_of_not_mem {text : List Char} (h : '+' ∉ text) :
    splitSuffix text = (text, none) := by
  rw [splitSuffix, if_neg (by simpa using h)]

theorem splitSuffix_append {back : List Char} (front : List Char) (h : '+' ∉ back) :
    splitSuffix (front ++ '+' :: back) = (front, some back) := by
  have hback : ∀ c ∈ back.reverse, (c != '+') = true := by
    intro c hc
    rw [bne_iff_ne]
    rintro rfl
    exact h (List.mem_reverse.mp hc)
  have hreverse : (front ++ '+' :: back).reverse = back.reverse ++ '+' :: front.reverse := by simp
  have hdrop : (back.reverse ++ '+' :: front.reverse).dropWhile (· != '+') = '+' :: front.reverse :=
    Text.dropWhile_append hback rfl
  have htake : (back.reverse ++ '+' :: front.reverse).takeWhile (· != '+') = back.reverse :=
    Text.takeWhile_append hback rfl
  simp only [splitSuffix, hreverse, hdrop, htake]
  simp

/-- A subtype has no plus sign, or it has a last one. -/
theorem splitSuffix_cases (text : List Char) :
    ('+' ∉ text ∧ splitSuffix text = (text, none)) ∨
      ∃ front back, text = front ++ '+' :: back ∧ '+' ∉ back ∧
        splitSuffix text = (front, some back) := by
  by_cases h : '+' ∈ text
  · obtain ⟨back, front, htext, hback⟩ := List.eq_append_cons_of_mem (List.mem_reverse.mpr h)
    have hplus : '+' ∉ back.reverse := by simpa using hback
    have hsplit : text = front.reverse ++ '+' :: back.reverse := by
      rw [← List.reverse_reverse text, htext]
      simp
    rw [hsplit]
    exact .inr ⟨front.reverse, back.reverse, rfl, hplus, splitSuffix_append _ hplus⟩
  · exact .inl ⟨h, splitSuffix_of_not_mem h⟩

theorem bne_slash_of_isName {name : List Char} (h : isName name = true) :
    ∀ c ∈ name, (c != '/') = true := by
  intro c hc
  rw [bne_iff_ne]
  rintro rfl
  exact absurd (inName_of_isName h hc) (by decide)

namespace IsWellFormed

variable {m : MediaType} (h : m.IsWellFormed)
include h

theorem inName_suffixed :
    ∀ c ∈ m.subtype.toList ++ suffixText m.suffix, inName c = true := by
  intro c hc
  rcases List.mem_append.mp hc with hc | hc
  · exact inName_of_isName h.subtype hc
  · cases hs : m.suffix with
    | none =>
      rw [hs] at hc
      cases hc
    | some suffix =>
      rw [hs] at hc
      rcases List.mem_cons.mp hc with rfl | hc
      · decide
      · exact (h.suffix suffix hs).2.1 c hc

/-- The parts around the last plus sign are those that were put around it. -/
theorem splitSuffix_suffixed :
    splitSuffix (m.subtype.toList ++ suffixText m.suffix) =
      (m.subtype.toList, m.suffix.map String.toList) := by
  cases hs : m.suffix with
  | none =>
    rw [suffixText, List.append_nil, splitSuffix_of_not_mem (h.plain hs), Option.map_none]
  | some suffix =>
    rw [suffixText, splitSuffix_append _ (h.suffix suffix hs).2.2, Option.map_some]

end IsWellFormed

/-- What the grammar writes is read as the media type. -/
theorem parse?_of_isWritten {m : MediaType} {text : List Char} (h : m.IsWritten text) :
    parse? text = some m := by
  obtain ⟨hm, parameters, hp, rfl⟩ := h
  have hstop : parameters.head?.any inName = false := by
    have hhead := hp.head?_any
    cases parameters with
    | nil => rfl
    | cons c rest =>
      obtain ⟨hc, -⟩ := by simpa using hhead
      exact hc
  have htext : m.essence ++ parameters = m.type.toList ++
      '/' :: ((m.subtype.toList ++ suffixText m.suffix) ++ parameters) := by
    rw [essence, List.append_assoc, List.cons_append]
  have htype : (m.essence ++ parameters).takeWhile (· != '/') = m.type.toList := by
    rw [htext]
    exact Text.takeWhile_append (bne_slash_of_isName hm.type) rfl
  have hrest : (m.essence ++ parameters).dropWhile (· != '/') =
      '/' :: ((m.subtype.toList ++ suffixText m.suffix) ++ parameters) := by
    rw [htext]
    exact Text.dropWhile_append (bne_slash_of_isName hm.type) rfl
  have hsuffix : ((m.suffix.map String.toList).map isSuffix).getD true = true := by
    cases hs : m.suffix with
    | none => rfl
    | some suffix => exact (hm.suffix suffix hs).1
  have hparameters : areParameters (m.essence ++ parameters).length parameters = true :=
    areParameters_complete hp (by simp)
  simp only [parse?, htype, hrest, Text.takeWhile_append hm.inName_suffixed hstop,
    Text.dropWhile_append hm.inName_suffixed hstop, hm.splitSuffix_suffixed, hm.type, hm.subtype,
    hsuffix, hparameters]
  simp [Option.map_map]

/-- The media type of a type and a subtype that is cut at its last plus sign. -/
def ofRuns (type run : List Char) : MediaType :=
  ⟨String.ofList type, String.ofList (splitSuffix run).1, (splitSuffix run).2.map String.ofList⟩

/-- Cutting a subtype loses nothing. -/
theorem essence_ofRuns (type run : List Char) : (ofRuns type run).essence = type ++ '/' :: run := by
  rcases splitSuffix_cases run with ⟨-, hs⟩ | ⟨front, back, rfl, -, hs⟩
  · simp [essence, ofRuns, hs, suffixText]
  · simp [essence, ofRuns, hs, suffixText]

theorem isWellFormed_ofRuns {type run : List Char} (ht : isName type = true)
    (hrun : ∀ c ∈ run, inName c = true) (hs : isName (splitSuffix run).1 = true)
    (hx : ((splitSuffix run).2.map isSuffix).getD true = true) :
    (ofRuns type run).IsWellFormed where
  type := by rwa [ofRuns, String.toList_ofList]
  subtype := by rwa [ofRuns, String.toList_ofList]
  plain := by
    intro hnone
    rcases splitSuffix_cases run with ⟨hplus, hsplit⟩ | ⟨front, back, rfl, -, hsplit⟩
    · rwa [ofRuns, String.toList_ofList, hsplit]
    · rw [ofRuns, hsplit] at hnone
      cases hnone
  suffix := by
    intro suffix hsome
    rcases splitSuffix_cases run with ⟨-, hsplit⟩ | ⟨front, back, rfl, hplus, hsplit⟩
    · rw [ofRuns, hsplit] at hsome
      cases hsome
    · rw [ofRuns, hsplit] at hsome
      rw [hsplit] at hx
      obtain rfl := Option.some.inj hsome
      rw [String.toList_ofList]
      refine ⟨hx, fun c hc => ?_, hplus⟩
      exact hrun c (List.mem_append_right _ (List.mem_cons_of_mem _ hc))

/-- What is read as a media type is written so by the grammar. -/
theorem isWritten_of_parse? {m : MediaType} {text : List Char} (h : parse? text = some m) :
    m.IsWritten text := by
  obtain ⟨type, tail, rfl, htype, htail⟩ := Text.exists_run_append (· != '/') text
  simp only [parse?, Text.takeWhile_append htype htail, Text.dropWhile_append htype htail] at h
  split at h
  · cases h
  · next slash rest =>
    obtain rfl : slash = '/' := by simpa using htail
    obtain ⟨run, parameters, rfl, hrun, hstop⟩ := Text.exists_run_append inName rest
    rw [Text.takeWhile_append hrun hstop, Text.dropWhile_append hrun hstop] at h
    split at h
    · next hall =>
      obtain rfl : ofRuns type run = m := Option.some.inj h
      simp only [Bool.and_eq_true] at hall
      obtain ⟨⟨⟨hname, hsubtype⟩, hsuffix⟩, hparameters⟩ := hall
      refine ⟨isWellFormed_ofRuns hname hrun hsubtype hsuffix, parameters,
        areParameters_sound hparameters, ?_⟩
      rw [essence_ofRuns, List.append_assoc, List.cons_append]
    · cases h

theorem parse?_eq_some_iff {m : MediaType} {text : List Char} :
    parse? text = some m ↔ m.IsWritten text :=
  ⟨isWritten_of_parse?, parse?_of_isWritten⟩

example : parse? "application/vnd.api+json ; v=\"1;0\";".toList =
    some ⟨"application", "vnd.api", some "json"⟩ := by decide

/-- The grammar writes each text in one way at most. -/
theorem IsWritten.unique {m other : MediaType} {text : List Char} (h : m.IsWritten text)
    (ho : other.IsWritten text) : m = other := by
  have hread := parse?_of_isWritten h
  rw [parse?_of_isWritten ho] at hread
  exact (Option.some.inj hread).symm

end TypedClient.Api.MediaType
