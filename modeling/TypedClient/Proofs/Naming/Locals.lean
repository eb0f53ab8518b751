import TypedClient.Client.Binding
import TypedClient.Proofs.Naming.Words

/-!
# The locals of arguments

A name that may name a local still may with underscores in front. The binding for a
key may name one in any style, whatever the key is, and bindings that are chosen one
after the other are distinct and are none of the names that were taken from the start.
-/

namespace TypedClient.Client

/-! ### Names of locals -/

theorem inIdentifier_of_startsIdentifier {c : Char} (h : startsIdentifier c = true) :
    inIdentifier c = true := by
  simp only [startsIdentifier, Bool.or_eq_true] at h
  simp only [inIdentifier, Char.isAlphanum, Bool.or_eq_true]
  rcases h with (h | h) | h
  · exact Or.inl (Or.inl (Or.inl h))
  · exact Or.inl (Or.inr h)
  · exact Or.inr h

/-- An identifier is made of the characters of identifiers. -/
theorem inIdentifier_of_mem_identifier {text : List Char} (h : isIdentifier text = true) {c : Char}
    (hc : c ∈ text) : inIdentifier c = true := by
  cases text with
  | nil => simp at hc
  | cons d rest =>
    rw [isIdentifier, Bool.and_eq_true, List.all_eq_true] at h
    rcases List.mem_cons.mp hc with rfl | hc
    · exact inIdentifier_of_startsIdentifier h.1
    · exact h.2 c hc

/-- An identifier stays one with more characters of identifiers after it. -/
theorem isIdentifier_append {front text : List Char} (hf : isIdentifier front = true)
    (ht : ∀ c ∈ text, inIdentifier c = true) : isIdentifier (front ++ text) = true := by
  cases front with
  | nil => simp [isIdentifier] at hf
  | cons c rest =>
    rw [isIdentifier, Bool.and_eq_true] at hf
    rw [List.cons_append, isIdentifier, List.all_append, hf.1, hf.2, List.all_eq_true.mpr ht]
    rfl

theorem toList_underscore_append (text : String) : ("_" ++ text).toList = '_' :: text.toList := by
  rw [String.toList_append]
  rfl

theorem isIdentifier_underscore {text : List Char} (h : ∀ c ∈ text, inIdentifier c = true) :
    isIdentifier ('_' :: text) = true := by
  rw [isIdentifier, Bool.and_eq_true, List.all_eq_true]
  exact ⟨by decide, h⟩

/-- Characters of identifiers are an identifier if the first one is no digit. -/
theorem isIdentifier_of_not_startsWithDigit {text : List Char}
    (h : ∀ c ∈ text, inIdentifier c = true) (hne : text ≠ [])
    (hd : ¬ startsWithDigit text = true) : isIdentifier text = true := by
  cases text with
  | nil => exact absurd rfl hne
  | cons c rest =>
    obtain ⟨hc, hr⟩ := List.forall_mem_cons.mp h
    have hd' : c.isDigit = false := by simpa [startsWithDigit] using hd
    rw [isIdentifier, Bool.and_eq_true, List.all_eq_true]
    refine ⟨?_, hr⟩
    simpa [inIdentifier, Char.isAlphanum, hd', startsIdentifier] using hc

theorem isBinding_iff {name : String} :
    isBinding name = true ↔ isIdentifier name.toList = true ∧ name ∉ reservedWords := by
  simp [isBinding]

/-- No reserved word starts with an underscore. -/
theorem head?_reservedWord {word : String} (h : word ∈ reservedWords) :
    word.toList.head? ≠ some '_' := by
  have hall : reservedWords.all fun word => word.toList.head? != some '_' := by decide
  rw [List.all_eq_true] at hall
  simpa using hall word h

/-- Characters of identifiers may name a local with an underscore in front. -/
theorem isBinding_underscore {text : String} (h : ∀ c ∈ text.toList, inIdentifier c = true) :
    isBinding ("_" ++ text) = true := by
  rw [isBinding_iff, toList_underscore_append]
  refine ⟨isIdentifier_underscore h, fun hr => ?_⟩
  have hh := head?_reservedWord hr
  rw [toList_underscore_append] at hh
  exact hh rfl

/-- What may name a local may with an underscore in front. -/
theorem isBinding_underscore_of_isBinding {name : String} (h : isBinding name = true) :
    isBinding ("_" ++ name) = true :=
  isBinding_underscore fun _ hc => inIdentifier_of_mem_identifier (isBinding_iff.mp h).1 hc

/-- The joined words of a text are made of the characters of identifiers. -/
theorem inIdentifier_of_mem_words [NameStyle] (text : List Char) :
    ∀ c ∈ NameStyle.camelCase (slug text), inIdentifier c = true :=
  NameStyle.camelCase_inIdentifier _ fun _ hc => inIdentifier_of_mem_tidy hc

/-- Every key has a name for a local. -/
theorem isBinding_bindingName [NameStyle] (key : String) : isBinding (bindingName key) = true := by
  rw [bindingName]
  split
  · assumption
  · dsimp only
    have hi : ∀ c ∈ NameStyle.camelCase (slug key.toList), inIdentifier c = true :=
      inIdentifier_of_mem_words key.toList
    split
    · decide
    · next hne =>
      split
      · exact isBinding_underscore (by simpa using hi)
      · next hr =>
        rw [Bool.or_eq_true, not_or] at hr
        rw [isBinding_iff, String.toList_ofList]
        refine ⟨isIdentifier_of_not_startsWithDigit hi ?_ hr.2, by simpa using hr.1⟩
        exact fun hnil => hne (List.isEmpty_iff.mpr hnil)

/-! ### Free names -/

/-- A free name is a name with underscores in front, and is free. -/
theorem freshen_spec (taken : List String) (name : String) :
    (∃ n, freshen taken name = String.ofList (List.replicate n '_') ++ name) ∧
      freshen taken name ∉ taken := by
  fun_induction freshen taken name with
  | case1 taken name h ih =>
    obtain ⟨⟨n, hn⟩, hfree⟩ := ih
    have hs : freshen (taken.erase name) ("_" ++ name) =
        String.ofList (List.replicate (n + 1) '_') ++ name := by
      rw [hn, ← String.append_assoc, List.replicate_succ', String.ofList_append]
    refine ⟨⟨n + 1, hs⟩, ?_⟩
    have hne : freshen (taken.erase name) ("_" ++ name) ≠ name := by
      intro he
      have hl := congrArg (fun s => s.toList.length) (hs.symm.trans he)
      simp at hl
    rwa [List.mem_erase_of_ne hne] at hfree
  | case2 taken name h => exact ⟨⟨0, by simp⟩, h⟩

theorem freshen_not_mem (taken : List String) (name : String) : freshen taken name ∉ taken :=
  (freshen_spec taken name).2

/-- A free name may name a local if the name may. -/
theorem isBinding_freshen {name : String} (h : isBinding name = true) (taken : List String) :
    isBinding (freshen taken name) = true := by
  fun_induction freshen taken name with
  | case1 taken name hm ih => exact ih (isBinding_underscore_of_isBinding h)
  | case2 taken name hm => exact h

variable [NameStyle]

@[simp] theorem length_freeBindings (taken keys : List String) :
    (freeBindings taken keys).length = keys.length := by
  induction keys generalizing taken with
  | nil => rfl
  | cons key rest ih => rw [freeBindings, List.length_cons, ih, List.length_cons]

/-- Every binding may name a local. -/
theorem isBinding_of_mem_freeBindings {taken keys : List String} {name : String}
    (h : name ∈ freeBindings taken keys) : isBinding name = true := by
  induction keys generalizing taken with
  | nil => simp [freeBindings] at h
  | cons key rest ih =>
    rw [freeBindings, List.mem_cons] at h
    rcases h with rfl | h
    · exact isBinding_freshen (isBinding_bindingName key) taken
    · exact ih h

/-- No binding is one of the names that were taken from the start. -/
theorem not_mem_of_mem_freeBindings {taken keys : List String} {name : String}
    (h : name ∈ freeBindings taken keys) : name ∉ taken := by
  induction keys generalizing taken with
  | nil => simp [freeBindings] at h
  | cons key rest ih =>
    rw [freeBindings, List.mem_cons] at h
    rcases h with rfl | h
    · exact freshen_not_mem taken _
    · exact fun hm => ih h (List.mem_cons_of_mem _ hm)

/-- No two bindings are the same. -/
theorem nodup_freeBindings (taken keys : List String) : (freeBindings taken keys).Nodup := by
  induction keys generalizing taken with
  | nil => exact List.nodup_nil
  | cons key rest ih =>
    rw [freeBindings, List.nodup_cons]
    exact ⟨fun hm => not_mem_of_mem_freeBindings hm List.mem_cons_self, ih _⟩

end TypedClient.Client
