import TypedClient.Proofs.Client.MethodReading
import TypedClient.Proofs.Script.OpenRecord

/-!
# Reading signatures

A signature of a method is read back from its text: whether the options may be left out,
the type of the request, and the property that it has beside those of its type. In the
implementation, what the options are taken apart as is followed by their type and, if
they may be left out, by an empty object that stands in for them.
-/

namespace TypedClient.Client

open TypedClient.Script

/-- A signature of a method. -/
structure Signature where
  /-- The name of the method. -/
  name : String
  /-- Whether the options may be left out. -/
  isOptional : Bool
  /-- The name of the type of the request. -/
  request : String
  /-- The property that the options have beside those of the request. -/
  flag : MemberHead
  /-- The name of the type of that property. -/
  flagType : String
  /-- The tokens of the type of the result. -/
  result : List Token

/-- The tokens of a signature. -/
def Signature.tokens (s : Signature) : List Token :=
  Token.word "public" :: Token.word s.name :: Token.mark '(' :: Token.word "options" ::
    (optionalTokens s.isOptional ++ Token.mark ':' :: Token.word s.request :: Token.mark '&' ::
      Token.mark '\x7b' :: Token.word s.flag.key :: (optionalTokens s.flag.isOptional ++
        Token.mark ':' :: Token.word s.flagType :: Token.mark '\x7d' :: Token.mark ')' ::
          Token.mark ':' :: Token.word "Promise" :: Token.mark '<' ::
            (s.result ++ [Token.mark '>', Token.mark ';'])))

/-- Whether the tokens of a text are those of a signature. -/
def IsSignature (text : String) (s : Signature) : Prop :=
  Script.tokens text = some s.tokens

/-- The name of the type of what a function takes apart, and whether an empty object stands in for
that when it is left out. -/
def options? (script : String) : Option (String × Bool) :=
  (tokens script).bind fun ts =>
    (afterOpening ts).bind fun ts =>
      (entriesFrom 0 [] ts).bind fun (_, ts) =>
        match ts with
        | .mark ':' :: .word request :: .mark ')' :: _ => some (request, false)
        | .mark ':' :: .word request :: .mark '=' :: .mark '\x7b' :: .mark '\x7d' ::
            .mark ')' :: _ => some (request, true)
        | _ => none

/-- Tokens are those of one signature at most. -/
theorem Signature.tokens_injective {s s' : Signature} (h : s.tokens = s'.tokens) : s = s' := by
  obtain ⟨name, isOptional, request, ⟨key, isFlagOptional⟩, flagType, result⟩ := s
  obtain ⟨name', isOptional', request', ⟨key', isFlagOptional'⟩, flagType', result'⟩ := s'
  simp only [tokens, List.cons.injEq, Token.word.injEq, true_and] at h
  obtain ⟨rfl, hoptions⟩ := h
  obtain ⟨rfl, hrequest⟩ := optionalTokens_append_inj hoptions
  simp only [List.cons.injEq, Token.word.injEq, true_and] at hrequest
  obtain ⟨rfl, rfl, hflag⟩ := hrequest
  obtain ⟨rfl, htype⟩ := optionalTokens_append_inj hflag
  simp only [List.cons.injEq, Token.word.injEq, true_and, List.append_cancel_right_eq] at htype
  obtain ⟨rfl, rfl⟩ := htype
  rfl

theorem isSignature_iff {text : String} {s : Signature} (h : IsSignature text s)
    (other : Signature) : IsSignature text other ↔ other = s := by
  constructor
  · intro hother
    exact Signature.tokens_injective (Option.some.inj (hother.symm.trans h))
  · rintro rfl
    exact h

namespace Method

/-- A method is written as its comment, its signatures and its implementation. -/
theorem text_eq (m : Method) :
    m.text = "\n".intercalate (m.commentLines ++ m.signatures ++ [m.implementation]) := by
  have hfront : m.commentLines ++ m.signatures ≠ [] := by simp [signatures]
  rw [text, lines, List.append_assoc, List.singleton_append,
    String.intercalate_append_of_ne_nil hfront (List.cons_ne_nil _ _),
    String.intercalate_append_of_ne_nil hfront (List.cons_ne_nil _ _),
    String.intercalate_singleton, implementation]

theorem signature_eq (m : Method) (isOptional : Bool) (flag answer : String) :
    m.signature isOptional flag answer =
      "public " ++ m.name ++ "(options" ++ (if isOptional then "?" else "") ++ ": " ++
        m.request.name ++ " & \x7b " ++ returnAxiosKey ++ flag ++ " \x7d): Promise<" ++ answer ++
        ">;" := rfl

section Readable

variable {m : Method} (h : m.IsReadable)
include h

/-- A signature is read back from its text, given the tokens of its flag and of its answer. -/
theorem isSignature_signature {isOptional : Bool} {flag answer type : String} {head : MemberHead}
    {ts : List Token}
    (hflag : tokens (" & \x7b " ++ returnAxiosKey ++ flag ++ " \x7d): Promise<") =
      some (Token.mark '&' :: Token.mark '\x7b' :: Token.word head.key ::
        (optionalTokens head.isOptional ++ [Token.mark ':', Token.word type, Token.mark '\x7d',
          Token.mark ')', Token.mark ':', Token.word "Promise", Token.mark '<'])))
    (hanswer : tokens answer = some ts) :
    IsSignature (m.signature isOptional flag answer)
      ⟨m.name, isOptional, m.request.name, head, type, ts⟩ := by
  have hpublic : tokens "public " = some [.word "public"] := by decide
  have hoptions : tokens ("(options" ++ (if isOptional then "?" else "") ++ ": ") =
      some (Token.mark '(' :: Token.word "options" :: optionalTokens isOptional ++
        [Token.mark ':']) := by
    cases isOptional <;> decide
  have hseparates :
      separates ("(options" ++ (if isOptional then "?" else "") ++ ": ") = true := by
    cases isOptional <;> decide
  have hstart : startsWithWord (" & \x7b " ++ returnAxiosKey ++ flag ++ " \x7d): Promise<") =
      false := by
    rw [String.append_assoc, String.append_assoc, startsWithWord_append (by decide)]
    decide
  have hlast (front : String) : endsInWord (front ++
      (" & \x7b " ++ returnAxiosKey ++ flag ++ " \x7d): Promise<")) = false := by
    rw [← String.append_assoc, endsInWord_append _ (by decide)]
    decide
  have hend : tokens ">;" = some [.mark '>', .mark ';'] := by decide
  have hname := tokens_append hpublic (tokens_word h.name.1 h.name.2) (Or.inl (by decide))
  have hrequest := tokens_separated hseparates hname hoptions
    (tokens_word h.request.1 h.request.2)
  have hpromise := tokens_append hrequest hflag (Or.inr hstart)
  have hresult := tokens_append hpromise hanswer (Or.inl (hlast _))
  have hall := tokens_append hresult hend (Or.inr (by decide))
  simp only [String.append_assoc] at hall
  rw [IsSignature, signature_eq, Signature.tokens]
  simp only [String.append_assoc]
  rw [hall]
  simp only [List.append_assoc, List.cons_append, List.nil_append]

/-- The signatures are read back: for the answer taken out of its envelope, for the answer in it,
and for either. -/
theorem areSignatures_signatures :
    List.Forall₂ IsSignature m.signatures [
      ⟨m.name, m.optionsOptional, m.request.name, ⟨returnAxiosKey, true⟩, "false", m.bareTokens⟩,
      ⟨m.name, false, m.request.name, ⟨returnAxiosKey, false⟩, "true", m.envelopedTokens⟩,
      ⟨m.name, m.optionsOptional, m.request.name, ⟨returnAxiosKey, true⟩, "boolean",
        m.eitherTokens⟩] := by
  refine .cons ?_ (.cons ?_ (.cons ?_ .nil))
  · exact isSignature_signature h (by decide) (tokens_bare h)
  · exact isSignature_signature h (by decide) (tokens_enveloped h)
  · exact isSignature_signature h (by decide) (tokens_either h)

/-- The implementation takes options of the type of the request, which an empty object stands in for
if they may be left out. -/
theorem options?_implementation {items : List TemplateItem}
    (hroute : readTemplate m.route.toList = some items) :
    options? m.implementation = some (m.request.name, m.optionsOptional) := by
  obtain ⟨rest, ht⟩ := tokens_implementation h hroute
  have hname : Token.mark '(' ∉ m.nameTokens := by simp [nameTokens]
  rw [options?, ht, Option.bind_some, afterOpening_append hname, Option.bind_some,
    entriesFrom_intercalate fun e he => isEntry_of_mem_patternTokens he, Option.bind_some]
  dsimp only
  rw [answerTokens]
  cases m.optionsOptional <;> rfl

end Readable

end Method

end TypedClient.Client
