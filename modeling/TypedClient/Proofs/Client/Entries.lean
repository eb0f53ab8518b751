import TypedClient.Client.Method
import TypedClient.Proofs.Naming.Locals
import TypedClient.Proofs.Script.Object

/-!
# Reading entries

An entry that ties a key to a local is read back as that key with that local, whether
it is written with the key or not: in an object as a property that has the value of
the local, and in a pattern as a property that is taken into it.
-/

namespace TypedClient.Client

open TypedClient.Script

/-- The token of a key. -/
def keyToken (name : String) : Token :=
  if isIdentifier name.toList then .word name else .string name

/-- The tokens of an entry. -/
def entryTokens (key binding : String) : List Token :=
  if key = binding then [.word binding] else [keyToken key, .mark ':', .word binding]

theorem ne_empty_of_isIdentifier {text : String} (h : isIdentifier text.toList = true) :
    text ≠ "" := by
  rintro rfl
  exact absurd h (by decide)

theorem tokens_identifier {text : String} (h : isIdentifier text.toList = true) :
    tokens text = some [.word text] :=
  tokens_word (ne_empty_of_isIdentifier h) fun _ hc => inIdentifier_of_mem_identifier h hc

/-- A key is one token. -/
theorem tokens_keyText (name : String) : tokens (keyText name) = some [keyToken name] := by
  rw [keyText, keyToken]
  split
  · next h => exact tokens_identifier h
  · exact tokens_quoted name

theorem tokens_entryText (key : String) {binding : String} (h : isBinding binding = true) :
    tokens (entryText key binding) = some (entryTokens key binding) := by
  have hb := tokens_identifier (isBinding_iff.mp h).1
  rw [entryText, entryTokens]
  split
  · exact hb
  · exact tokens_separated (by decide) (tokens_keyText key)
      (show tokens ": " = some [.mark ':'] by decide) hb

private theorem isPlain_keyToken (name : String) : (keyToken name).isPlain = true := by
  rw [keyToken]
  split
  · exact Token.isPlain_word name
  · exact Token.isPlain_string name

theorem isPlain_of_mem_entryTokens {key binding : String} {t : Token}
    (h : t ∈ entryTokens key binding) : t.isPlain = true := by
  rw [entryTokens] at h
  split at h
  · obtain rfl := List.mem_singleton.mp h
    rfl
  · rcases List.mem_cons.mp h with rfl | h
    · exact isPlain_keyToken key
    · rcases List.mem_cons.mp h with rfl | h
      · rfl
      · obtain rfl := List.mem_singleton.mp h
        rfl

theorem isEntry_entryTokens (key binding : String) : IsEntry (entryTokens key binding) := by
  refine isEntry_of_isPlain ?_ fun t ht => isPlain_of_mem_entryTokens ht
  rw [entryTokens]
  split <;> simp

/-- The property of an entry has the value of the local. -/
theorem property?_entryTokens (key : String) {binding : String} (h : isBinding binding = true) :
    property? (entryTokens key binding) = some (key, [.word binding]) := by
  rw [entryTokens]
  split
  · next he => rw [property?, if_pos h, he]
  · rw [keyToken]
    split
    · next hi => rw [property?, if_pos ⟨hi, List.cons_ne_nil _ _⟩]
    · rw [property?, if_pos (List.cons_ne_nil _ _)]

/-- An entry takes the property of the key into the local. -/
theorem taken?_entryTokens (key : String) {binding : String} (h : isBinding binding = true) :
    taken? (entryTokens key binding) = some (key, binding) := by
  have hp := property?_entryTokens key h
  rw [taken?]
  · rw [hp]
    dsimp only
    rw [if_pos h]
  · intro name fallback he
    rw [entryTokens] at he
    split at he
    · simp at he
    · simp at he

end TypedClient.Client
