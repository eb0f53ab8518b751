import TypedClient.Proofs.Client.Entries

/-!
# Reading methods

The implementation of a method is read back from its text: the pattern that takes a
request apart, and the object that is sent to the service. What they are follows from
the arguments of the method and from whether it has a body.
-/

namespace TypedClient.Client

open TypedClient.Script

/-- Whether a text is a word. -/
def IsWord (text : String) : Prop :=
  text ≠ "" ∧ ∀ c ∈ text.toList, inIdentifier c = true

/-- A method whose names are words and whose bindings may name locals. -/
structure Method.IsReadable (m : Method) : Prop where
  /-- The name of the method is a word. -/
  name : IsWord m.name
  /-- The name of its request is a word. -/
  request : IsWord m.request.name
  /-- The name of its response is a word. -/
  response : IsWord m.response.name
  /-- The bindings may name locals. -/
  binding : ∀ a ∈ m.arguments, isBinding a.binding = true

namespace Method

/-- The implementation of a method: its lines after the comment and the signatures. -/
def implementation (m : Method) : String :=
  "\n".intercalate (m.headLine :: m.bodyLines)

/-! ### The tokens of an implementation -/

/-- The tokens of the entry that takes the rest of a request. -/
def restTokens : List Token :=
  [.mark '.', .mark '.', .mark '.', .word bodyLocal]

/-- The tokens of the entries of the pattern. -/
def patternTokens (m : Method) : List (List Token) :=
  m.arguments.map (fun a => entryTokens a.key a.binding) ++
    [[Token.word requestOptionsKey],
      [Token.word returnAxiosKey, Token.mark '=', Token.word "false"]] ++
    (if m.hasBody then [restTokens] else [])

/-- The tokens of the entries of the object with the query parameters. -/
def sentTokens (m : Method) : List (List Token) :=
  m.arguments.map fun a => entryTokens a.serviceName a.binding

/-- The tokens of the object with the query parameters. -/
def paramsTokens (m : Method) : List Token :=
  .mark '\x7b' :: ([Token.mark ','].intercalate m.sentTokens ++ [Token.mark '\x7d'])

/-- The tokens of the entries of the call, whose route says `items`. -/
def callTokens (m : Method) (items : List TemplateItem) : List (List Token) :=
  [[Token.word "method", Token.mark ':', Token.string m.verb.upper],
      [Token.word "url", Token.mark ':', Token.template items]] ++
    (if m.hasBody then [[Token.word "data", Token.mark ':', Token.word bodyLocal]] else []) ++
    (if m.arguments.isEmpty then []
      else [Token.word "params" :: Token.mark ':' :: m.paramsTokens])

/-- The tokens of the type of an answer that is taken out of its envelope. -/
def bareTokens (m : Method) : List Token :=
  [.word m.response.name, .mark '[', .string "results", .mark ']']

/-- The tokens of the type of an answer in its envelope. -/
def envelopedTokens (m : Method) : List Token :=
  [.word "AxiosResponse", .mark '<', .word m.response.name, .mark '>']

/-- The tokens of the type of an answer of either kind. -/
def eitherTokens (m : Method) : List Token :=
  [.word m.response.name, .mark '[', .string "results", .mark ']', .mark '|',
    .word "AxiosResponse", .mark '<', .word m.response.name, .mark '>']

/-- The tokens after the pattern. -/
def answerTokens (m : Method) : List Token :=
  .mark ':' :: .word m.request.name ::
    ((if m.optionsOptional then [Token.mark '=', Token.mark '\x7b', Token.mark '\x7d']
      else []) ++
      .mark ')' :: .mark ':' :: .word "Promise" :: .mark '<' :: (m.eitherTokens ++
        [Token.mark '>', Token.mark '\x7b']))

/-- The tokens before the pattern. -/
def nameTokens (m : Method) : List Token :=
  [.word "public", .word "async", .word m.name]

/-- The tokens before the call. -/
def callFront (m : Method) : List Token :=
  [.word "const", .word resultsLocal, .mark '=', .word "await", .word "this", .mark '.',
    .word "api", .mark '<', .word m.response.name, .mark '>']

theorem headLine_eq (m : Method) :
    m.headLine =
      "public async " ++ m.name ++ "(\x7b " ++ ", ".intercalate m.patternEntries ++ " \x7d: " ++
        m.request.name ++ (if m.optionsOptional then " = \x7b\x7d" else "") ++ "): Promise<" ++
        m.either ++ "> \x7b" := rfl

section Readable

variable {m : Method} (h : m.IsReadable)
include h

theorem tokens_patternEntries :
    AreRead m.patternEntries m.patternTokens := by
  rw [patternEntries, patternTokens]
  refine (AreRead.append ?_ ?_).append ?_
  · exact areRead_map fun a ha => tokens_entryText a.key (h.binding a ha)
  · exact .cons (by decide) (.cons (by decide) .nil)
  · split
    · exact .cons (by decide) .nil
    · exact .nil

theorem tokens_params :
    tokens (", ".intercalate (m.arguments.map Argument.sent)) =
      some ([Token.mark ','].intercalate m.sentTokens) := by
  refine tokens_intercalate (by decide) (by decide) ?_
  exact areRead_map fun a ha => tokens_entryText a.serviceName (h.binding a ha)

theorem tokens_callEntries {items : List TemplateItem}
    (hroute : readTemplate m.route.toList = some items) :
    AreRead m.callEntries (m.callTokens items) := by
  rw [callEntries, callTokens]
  refine (AreRead.append ?_ ?_).append ?_
  · refine .cons ?_ (.cons ?_ .nil)
    · cases m.verb <;> decide
    · have hfront : "url: \x60" = "url: " ++ "\x60" := by decide
      have hurl : tokens "url: " = some [.word "url", .mark ':'] := by decide
      have hall := tokens_append hurl (tokens_template hroute) (Or.inl (by decide))
      rw [hfront, String.append_assoc, String.append_assoc]
      rwa [String.append_assoc] at hall
  · split
    · exact .cons (by decide) .nil
    · exact .nil
  · split
    · exact .nil
    · have hopen : tokens "params: \x7b " = some [.word "params", .mark ':', .mark '\x7b'] := by
        decide
      have hclose : tokens " \x7d" = some [.mark '\x7d'] := by decide
      have hinner := tokens_append hopen (tokens_params h) (Or.inl (by decide))
      exact .cons (tokens_append hinner hclose (Or.inr (by decide))) .nil

theorem tokens_bare : tokens m.bare = some m.bareTokens := by
  have hresults : tokens "['results']" = some [.mark '[', .string "results", .mark ']'] := by
    decide
  exact tokens_append (tokens_word h.response.1 h.response.2) hresults (Or.inr (by decide))

theorem tokens_enveloped : tokens m.enveloped = some m.envelopedTokens := by
  have hopen : tokens "AxiosResponse<" = some [.word "AxiosResponse", .mark '<'] := by
    decide
  have hclose : tokens ">" = some [.mark '>'] := by decide
  have hname := tokens_append hopen (tokens_word h.response.1 h.response.2)
    (Or.inl (by decide))
  exact tokens_append hname hclose (Or.inr (by decide))

theorem tokens_either : tokens m.either = some m.eitherTokens := by
  have hbar : tokens " | " = some [.mark '|'] := by decide
  exact tokens_separated (by decide) (tokens_bare h) hbar (tokens_enveloped h)

theorem tokens_headLine :
    tokens m.headLine =
      some (m.nameTokens ++ Token.mark '(' :: Token.mark '\x7b' ::
        ([Token.mark ','].intercalate m.patternTokens ++ Token.mark '\x7d' :: m.answerTokens)) := by
  have hpublic : tokens "public async " = some [.word "public", .word "async"] := by
    decide
  have hopen : tokens "(\x7b " = some [.mark '(', .mark '\x7b'] := by decide
  have hcomma : tokens ", " = some [.mark ','] := by decide
  have hclose : tokens " \x7d: " = some [.mark '\x7d', .mark ':'] := by decide
  have hpromise : tokens "): Promise<" =
      some [.mark ')', .mark ':', .word "Promise", .mark '<'] := by decide
  have hbrace : tokens "> \x7b" = some [.mark '>', .mark '\x7b'] := by decide
  have hdefault : tokens (if m.optionsOptional then " = \x7b\x7d" else "") =
      some (if m.optionsOptional then [.mark '=', .mark '\x7b', .mark '\x7d'] else []) := by
    split
    · decide
    · rfl
  have hstart : startsWithWord (if m.optionsOptional then " = \x7b\x7d" else "") = false := by
    split
    · decide
    · rfl
  have hname := tokens_append hpublic (tokens_word h.name.1 h.name.2) (Or.inl (by decide))
  have hentries := tokens_separated (by decide) hname hopen
    (tokens_intercalate (by decide) hcomma (tokens_patternEntries h))
  have hrequest := tokens_separated (by decide) hentries hclose
    (tokens_word h.request.1 h.request.2)
  have hoptional := tokens_append hrequest hdefault (Or.inr hstart)
  have hanswer := tokens_separated (by decide) hoptional hpromise (tokens_either h)
  have hall := tokens_append hanswer hbrace (Or.inr (by decide))
  rw [headLine_eq, hall, nameTokens, answerTokens]
  simp only [List.append_assoc, List.cons_append, List.nil_append]

theorem tokens_callLine :
    tokens (indent 1 ++ "const " ++ resultsLocal ++ " = await this.api<" ++ m.response.name ++
        ">(\x7b") =
      some (m.callFront ++ [Token.mark '(', Token.mark '\x7b']) := by
  have hfront : tokens (indent 1 ++ "const " ++ resultsLocal ++ " = await this.api<") =
      some [.word "const", .word resultsLocal, .mark '=', .word "await", .word "this", .mark '.',
        .word "api", .mark '<'] := by decide
  have hopen : tokens ">(\x7b" = some [.mark '>', .mark '(', .mark '\x7b'] := by decide
  have hname := tokens_append hfront (tokens_word h.response.1 h.response.2)
    (Or.inl (by decide))
  rw [tokens_append hname hopen (Or.inr (by decide)), callFront]
  rfl

end Readable

/-- Lines with commas have the tokens of all lines, with a comma between each and the next. -/
theorem tokens_withCommas {texts : List String} {parts : List (List Token)}
    (ht : AreRead texts parts) :
    ∃ lines, AreRead (withCommas texts) lines ∧
      lines.flatten = [Token.mark ','].intercalate parts := by
  induction ht with
  | nil => exact ⟨[], .nil, rfl⟩
  | @cons text part texts parts hfirst hrest ih =>
    cases hrest with
    | nil => exact ⟨[part], .cons hfirst .nil, by simp⟩
    | cons =>
      obtain ⟨lines, hlines, hflatten⟩ := ih
      have hcomma : tokens "," = some [.mark ','] := by decide
      refine ⟨(part ++ [Token.mark ',']) :: lines, .cons ?_ hlines, ?_⟩
      · exact tokens_append hfirst hcomma (Or.inr (by decide))
      · rw [List.flatten_cons, hflatten, List.intercalate_cons_cons]

private theorem intercalate_nothing (parts : List (List Token)) :
    [].intercalate parts = parts.flatten := by
  induction parts with
  | nil => rfl
  | cons part parts ih =>
    cases parts with
    | nil => simp
    | cons => rw [List.intercalate_cons_cons, ih, List.append_nil, ← List.flatten_cons]

/-- Lines have the tokens of all of them. -/
theorem tokens_lines {texts : List String} {parts : List (List Token)} (ht : AreRead texts parts) :
    tokens ("\n".intercalate texts) = some parts.flatten := by
  have hfeed : tokens "\n" = some [] := by decide
  rw [tokens_intercalate (by decide) hfeed ht, intercalate_nothing]

/-- The tokens of an implementation: the pattern, and the object of the call. -/
theorem tokens_implementation {m : Method} (h : m.IsReadable) {items : List TemplateItem}
    (hroute : readTemplate m.route.toList = some items) :
    ∃ rest, tokens m.implementation =
      some (m.nameTokens ++ Token.mark '(' :: Token.mark '\x7b' ::
        ([Token.mark ','].intercalate m.patternTokens ++ Token.mark '\x7d' ::
          (m.answerTokens ++ m.callFront ++ Token.mark '(' :: Token.mark '\x7b' ::
            ([Token.mark ','].intercalate (m.callTokens items) ++
              Token.mark '\x7d' :: rest)))) := by
  have hentries : AreRead (m.callEntries.map (indent 2 ++ ·)) (m.callTokens items) := by
    rw [AreRead, List.forall₂_map_left_iff]
    refine (tokens_callEntries h hroute).imp fun text part hpart => ?_
    have hindent : tokens (indent 2) = some [] := by decide
    exact tokens_append hindent hpart (Or.inl (by decide))
  obtain ⟨lines, hlines, hcalls⟩ := tokens_withCommas hentries
  have hclose : tokens (indent 1 ++ "\x7d, " ++ requestOptionsKey ++ ");") =
      some [.mark '\x7d', .mark ',', .word requestOptionsKey, .mark ')', .mark ';'] := by
    decide
  obtain ⟨answer, hanswer⟩ : ∃ ts, tokens (indent 1 ++ "return " ++ returnAxiosKey ++
      " ? results : (typeof results.data === 'object' ? results.data.results : results.data);") =
      some ts := Option.isSome_iff_exists.mp (by decide)
  have hend : tokens "\x7d" = some [.mark '\x7d'] := by decide
  have hnothing : tokens "" = some [] := rfl
  have hends : AreRead _ _ := .cons hclose (.cons hnothing (.cons hanswer (.cons hend .nil)))
  have hcall : AreRead _ _ := .cons (tokens_callLine h) .nil
  have hbody := (hcall.append hlines).append hends
  have hall := tokens_lines (.cons (tokens_headLine h) hbody)
  refine ⟨.mark ',' :: .word requestOptionsKey :: .mark ')' :: .mark ';' ::
    (answer ++ [Token.mark '\x7d']), ?_⟩
  rw [implementation, bodyLines, hall]
  simp only [List.flatten_cons, List.flatten_append, List.flatten_nil, hcalls, List.append_assoc,
    List.cons_append, List.nil_append]

/-! ### Reading an implementation -/

/-- The pattern of a method: each argument is taken from its key, and the rest is the body. -/
def requestPattern (m : Method) : Pattern where
  entries := m.arguments.map (fun a => (a.key, a.binding)) ++
    [(requestOptionsKey, requestOptionsKey), (returnAxiosKey, returnAxiosKey)]
  rest := if m.hasBody then some bodyLocal else none

/-- The properties of the call of a method whose route says `items`. -/
def callProperties (m : Method) (items : List TemplateItem) : List (String × List Token) :=
  [("method", [Token.string m.verb.upper]), ("url", [Token.template items])] ++
    (if m.hasBody then [("data", [Token.word bodyLocal])] else []) ++
    (if m.arguments.isEmpty then [] else [("params", m.paramsTokens)])

section Properties

variable (m : Method) (items : List TemplateItem)

theorem map_fst_callProperties :
    (m.callProperties items).map Prod.fst =
      ["method", "url"] ++ (if m.hasBody then ["data"] else []) ++
        (if m.arguments.isEmpty then [] else ["params"]) := by
  rw [callProperties]
  split <;> split <;> rfl

theorem lookup_data :
    (m.callProperties items).lookup "data" =
      if m.hasBody then some [.word bodyLocal] else none := by
  rw [callProperties]
  split <;> split <;> simp [List.lookup]

theorem lookup_params :
    (m.callProperties items).lookup "params" =
      if m.arguments.isEmpty then none else some m.paramsTokens := by
  rw [callProperties]
  split <;> split <;> simp [List.lookup]

end Properties

theorem isEntry_of_mem_patternTokens {m : Method} {entry : List Token}
    (h : entry ∈ m.patternTokens) : IsEntry entry := by
  rw [patternTokens, List.mem_append, List.mem_append] at h
  rcases h with (h | h) | h
  · obtain ⟨a, -, rfl⟩ := List.mem_map.mp h
    exact isEntry_entryTokens a.key a.binding
  · rcases List.mem_cons.mp h with rfl | h
    · exact isEntry_of_isPlain (List.cons_ne_nil _ _) (by simp)
    · obtain rfl := List.mem_singleton.mp h
      exact isEntry_of_isPlain (List.cons_ne_nil _ _) (by decide)
  · split at h
    · obtain rfl := List.mem_singleton.mp h
      exact isEntry_of_isPlain (List.cons_ne_nil _ _) (by decide)
    · exact absurd h List.not_mem_nil

theorem isEntry_of_mem_callTokens {m : Method} {items : List TemplateItem} {entry : List Token}
    (h : entry ∈ m.callTokens items) : IsEntry entry := by
  rw [callTokens, List.mem_append, List.mem_append] at h
  rcases h with (h | h) | h
  · rcases List.mem_cons.mp h with rfl | h
    · exact isEntry_of_isPlain (List.cons_ne_nil _ _) (by simp)
    · obtain rfl := List.mem_singleton.mp h
      exact isEntry_of_isPlain (List.cons_ne_nil _ _) (by simp)
  · split at h
    · obtain rfl := List.mem_singleton.mp h
      exact isEntry_of_isPlain (List.cons_ne_nil _ _) (by simp)
    · exact absurd h List.not_mem_nil
  · split at h
    · exact absurd h List.not_mem_nil
    · obtain rfl := List.mem_singleton.mp h
      have hfront : ∀ t ∈ [Token.word "params", Token.mark ':'], t.isPlain = true := by
        simp
      refine isEntry_object hfront fun t ht => ?_
      rcases mem_intercalate_comma ht with rfl | ⟨e, he, ht⟩
      · exact ⟨by decide, by decide⟩
      · obtain ⟨a, -, rfl⟩ := List.mem_map.mp he
        exact Token.not_bracket_of_isPlain (isPlain_of_mem_entryTokens ht)

/-- The pattern of a method takes each argument from its key. -/
theorem pattern?_patternTokens {m : Method} (h : m.IsReadable) :
    pattern? m.patternTokens = some m.requestPattern := by
  have harguments : (m.arguments.map fun a => entryTokens a.key a.binding).mapM taken? =
      some (m.arguments.map fun a => (a.key, a.binding)) :=
    mapM_map_eq_some fun a ha => taken?_entryTokens a.key (h.binding a ha)
  have hoptions : [[Token.word requestOptionsKey],
      [Token.word returnAxiosKey, Token.mark '=', Token.word "false"]].mapM taken? =
      some [(requestOptionsKey, requestOptionsKey), (returnAxiosKey, returnAxiosKey)] := by
    decide
  rw [pattern?, patternTokens, requestPattern]
  by_cases hb : m.hasBody = true
  · have hrest : rest? restTokens = some bodyLocal := by decide
    rw [if_pos hb, if_pos hb, List.getLast?_concat, Option.bind_some, hrest]
    dsimp only
    rw [List.dropLast_concat, List.mapM_append, harguments, hoptions]
    rfl
  · rw [if_neg hb, if_neg hb, List.append_nil]
    have hlast : rest? [Token.word returnAxiosKey, Token.mark '=', Token.word "false"] = none := rfl
    rw [List.getLast?_append_of_ne_nil _ (by simp), List.getLast?_cons_cons,
      List.getLast?_singleton, Option.bind_some, hlast]
    dsimp only
    rw [List.mapM_append, harguments, hoptions]
    rfl

theorem mapM_property?_callTokens (m : Method) (items : List TemplateItem) :
    (m.callTokens items).mapM property? = some (m.callProperties items) := by
  have hmethod : property? [.word "method", .mark ':', .string m.verb.upper] =
      some ("method", [.string m.verb.upper]) := by
    rw [property?, if_pos ⟨by decide, List.cons_ne_nil _ _⟩]
  have hurl : property? [.word "url", .mark ':', .template items] =
      some ("url", [.template items]) := by
    rw [property?, if_pos ⟨by decide, List.cons_ne_nil _ _⟩]
  have hdata : property? [.word "data", .mark ':', .word bodyLocal] =
      some ("data", [.word bodyLocal]) := by
    rw [property?, if_pos ⟨by decide, List.cons_ne_nil _ _⟩]
  have hparams : property? (.word "params" :: .mark ':' :: m.paramsTokens) =
      some ("params", m.paramsTokens) := by
    rw [property?, if_pos ⟨by decide, List.cons_ne_nil _ _⟩]
  have hfirst : [[Token.word "method", Token.mark ':', Token.string m.verb.upper],
      [Token.word "url", Token.mark ':', Token.template items]].mapM property? =
      some [("method", [Token.string m.verb.upper]), ("url", [Token.template items])] := by
    rw [List.mapM_cons, hmethod, List.mapM_cons, hurl]
    rfl
  have hsecond : (if m.hasBody then [[Token.word "data", Token.mark ':', Token.word bodyLocal]]
      else []).mapM property? =
      some (if m.hasBody then [("data", [Token.word bodyLocal])] else []) := by
    split
    · rw [List.mapM_cons, hdata]
      rfl
    · rfl
  have hthird : (if m.arguments.isEmpty then []
      else [Token.word "params" :: Token.mark ':' :: m.paramsTokens]).mapM property? =
      some (if m.arguments.isEmpty then [] else [("params", m.paramsTokens)]) := by
    split
    · rfl
    · rw [List.mapM_cons, hparams]
      rfl
  rw [callTokens, callProperties, List.mapM_append, List.mapM_append, hfirst, hsecond, hthird]
  rfl

/-- The object with the query parameters sends each argument under the name that the service
knows. -/
theorem object?_paramsTokens {m : Method} (h : m.IsReadable) :
    object? m.paramsTokens =
      some (m.arguments.map fun a => (a.serviceName, [Token.word a.binding])) := by
  have hentries : ∀ e ∈ m.sentTokens, IsEntry e := by
    intro e he
    obtain ⟨a, -, rfl⟩ := List.mem_map.mp he
    exact isEntry_entryTokens a.serviceName a.binding
  rw [paramsTokens, object?, entriesFrom_intercalate hentries]
  exact mapM_map_eq_some fun a ha => property?_entryTokens a.serviceName (h.binding a ha)

/-- The implementation of a method is read back from its text. -/
theorem caller?_implementation {m : Method} (h : m.IsReadable) {items : List TemplateItem}
    (hroute : readTemplate m.route.toList = some items) :
    caller? m.implementation = some ⟨m.requestPattern, m.callProperties items⟩ := by
  obtain ⟨rest, ht⟩ := tokens_implementation h hroute
  have hname : Token.mark '(' ∉ m.nameTokens := by simp [nameTokens]
  have hfront : Token.mark '(' ∉ m.answerTokens ++ m.callFront := by
    rw [answerTokens, eitherTokens, callFront]
    split <;> simp
  rw [caller?, ht, Option.bind_some, afterOpening_append hname, Option.bind_some,
    entriesFrom_intercalate fun e he => isEntry_of_mem_patternTokens he, Option.bind_some]
  dsimp only
  rw [afterOpening_append hfront, Option.bind_some,
    entriesFrom_intercalate fun e he => isEntry_of_mem_callTokens he, Option.bind_some]
  dsimp only
  rw [pattern?_patternTokens h, Option.bind_some, mapM_property?_callTokens, Option.map_some]

end Method

end TypedClient.Client
