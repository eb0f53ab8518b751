import TypedClient.Json.Shape

/-!
# Reading a text of a given shape

`Shape.read` reads the value that starts the tokens and checks its form as it
goes: the first fault in the text is the one reported, whether the text is broken
there or has another form. Members that the shape does not name are passed over.
-/

namespace TypedClient.Json

/-- Reads a value at a place. -/
abbrev Reader (α : Type) : Type :=
  Place → (ts : List Token) → Except Fault (Taken α ts)

/-- What was taken after a first token. -/
def Taken.afterOne {α : Type} {token : Token} {rest : List Token} (taken : Taken α rest) :
    Taken α (token :: rest) :=
  ⟨taken.value, taken.rest, by have := taken.shorter; simp only [List.length_cons]; omega⟩

/-- What was taken after something else. -/
def Taken.after {α β : Type} {ts : List Token} (first : Taken β ts) (taken : Taken α first.rest) :
    Taken α ts :=
  ⟨taken.value, taken.rest, by have := taken.shorter; have := first.shorter; omega⟩

/-- What was taken, with another result. -/
def Taken.map {α β : Type} {ts : List Token} (f : α → β) (taken : Taken α ts) : Taken β ts :=
  ⟨f taken.value, taken.rest, taken.shorter⟩

/-- A result together with the first token alone. -/
def Taken.one {α : Type} (value : α) {token : Token} {rest : List Token} :
    Taken α (token :: rest) :=
  ⟨value, rest, by simp⟩

/-- The fault of a value of another kind than the one wanted. A bracket is not counted. -/
def wrongKind (wanted : String) (place : Place) (token : Token) : Fault :=
  let mismatch (found : Found) : Fault := place.fault (.wrongKind found wanted) token.stop
  match token.lexeme with
  | .null => mismatch .null
  | .bool b => mismatch (.bool b)
  | .number (.ok n) => mismatch (.number n)
  | .number (.error e) => place.carried e
  | .string (.ok s) => mismatch (.string s)
  | .string (.error e) => place.carried e
  | .broken kept _ => place.carried kept
  | .brokenString kept _ => place.carried kept
  | .arrayOpen => place.fault (.wrongKind .array wanted) token.start
  | .objectOpen => place.fault (.wrongKind .object wanted) token.start
  | _ => place.peeked .valueExpected token

/-- Reads a value of one token. -/
def readToken {α : Type} (wanted : String) (accept : Lexeme → Option α) : Reader α
  | place, [] => .error (place.ended .endInValue)
  | place, token :: _ =>
    match accept token.lexeme with
    | some value => .ok (.one value)
    | none => .error (wrongKind wanted place token)

/-- Reads a string. -/
def readText : Reader String :=
  readToken "a string" fun
    | .string (.ok s) => some s
    | _ => none

/-- Reads a truth value. -/
def readFlag : Reader Bool :=
  readToken "a boolean" fun
    | .bool b => some b
    | _ => none

/-- Takes the colon after a name. -/
def readColon : Reader Unit
  | place, [] => .error (place.ended .endInObject)
  | place, token :: _ =>
    match token.lexeme with
    | .colon => .ok (.one ())
    | _ => .error (place.peeked .colonExpected token)

/-- Reads a value, or `null` for none. -/
def readOptional {α : Type} (inner : Reader α) : Reader (Option α)
  | place, [] => (inner place []).map (·.map some)
  | place, token :: rest =>
    match token.lexeme with
    | .null => .ok (.one none)
    | _ => (inner place (token :: rest)).map (·.map some)

/-- Reads the items of an array whose bracket has been taken, and the bracket that ends it. `index`
counts the items before, which `read` holds, last first. -/
def readItems {α : Type} (item : Reader α) (place : Place) (index : Nat) (read : List α) :
    (ts : List Token) → Except Fault (Taken (List α) ts)
  | [] => .error (place.ended .endInArray)
  | token :: rest =>
    match token.lexeme, index with
    | .arrayClose, _ => .ok (.one read.reverse)
    | .comma, _ + 1 =>
      match rest with
      | [] => .error (place.ended .endInValue)
      | next :: more =>
        match next.lexeme with
        | .arrayClose => .error (place.peeked .trailingComma next)
        | _ =>
          match item (place.inside (.item index)) (next :: more) with
          | .error fault => .error fault
          | .ok taken =>
            match readItems item place (index + 1) (taken.value :: read) taken.rest with
            | .error fault => .error fault
            | .ok items => .ok (Taken.afterOne (taken.after items))
    | _, 0 =>
      match item (place.inside (.item 0)) (token :: rest) with
      | .error fault => .error fault
      | .ok taken =>
        match readItems item place 1 (taken.value :: read) taken.rest with
        | .error fault => .error fault
        | .ok items => .ok (taken.after items)
    | _, _ + 1 => .error (place.peeked .itemEndExpected token)
termination_by ts => ts.length
decreasing_by
  all_goals
    have := taken.shorter
    simp only [List.length_cons] at *
    omega

/-- Reads an array. -/
def readList {α : Type} (item : Reader α) : Reader (List α)
  | place, [] => .error (place.ended .endInValue)
  | place, token :: rest =>
    match token.lexeme with
    | .arrayOpen =>
      if maxDepth ≤ place.depth then .error (place.peeked .tooDeep token)
      else (readItems item place 0 [] rest).map (·.afterOne)
    | _ => .error (wrongKind "a sequence" place token)

/-- What a member of an object adds to what was read before, given the tokens after its name. -/
abbrev MemberReader (σ : Type) : Type :=
  String → σ → Place → (ts : List Token) → Except Fault (Taken σ ts)

/-- The name of a member, at the place of the object. -/
def readName (place : Place) (token : Token) : Except Fault String :=
  let member := place.inside .unknown
  match token.lexeme with
  | .string (.ok name) => .ok name
  | .string (.error e) => .error (member.carried e)
  | .brokenString kept _ => .error (member.carried kept)
  | _ => .error (member.peeked .nameExpected token)

/-- Reads the members of an object whose brace has been taken, and the brace that ends it. The
result comes with the end of that brace. -/
def readMembers {σ : Type} (visit : MemberReader σ) (place : Place) (first : Bool) (state : σ) :
    (ts : List Token) → Except Fault (Taken (σ × Nat) ts)
  | [] => .error ((place.inside .unknown).ended .endInObject)
  | token :: rest =>
    match token.lexeme, first with
    | .objectClose, _ => .ok (.one (state, token.stop))
    | .comma, false =>
      match rest with
      | [] => .error ((place.inside .unknown).ended .endInValue)
      | next :: more =>
        match next.lexeme with
        | .objectClose => .error ((place.inside .unknown).peeked .trailingComma next)
        | _ =>
          match readName place next with
          | .error fault => .error fault
          | .ok name =>
            match visit name state place more with
            | .error fault => .error fault
            | .ok taken =>
              match readMembers visit place false taken.value taken.rest with
              | .error fault => .error fault
              | .ok members => .ok (Taken.afterOne (Taken.afterOne (taken.after members)))
    | _, true =>
      match readName place token with
      | .error fault => .error fault
      | .ok name =>
        match visit name state place rest with
        | .error fault => .error fault
        | .ok taken =>
          match readMembers visit place false taken.value taken.rest with
          | .error fault => .error fault
          | .ok members => .ok (Taken.afterOne (taken.after members))
    | _, false => .error ((place.inside .unknown).peeked .memberEndExpected token)
termination_by ts => ts.length
decreasing_by
  all_goals
    have := taken.shorter
    simp only [List.length_cons] at *
    omega

/-- Reads the colon and the value of a member. -/
def readMember {α : Type} (value : Reader α) (name : String) (place : Place) (ts : List Token) :
    Except Fault (Taken α ts) :=
  match readColon place ts with
  | .error fault => .error fault
  | .ok colon =>
    match value (place.inside (.member name)) colon.rest with
    | .error fault => .error fault
    | .ok taken => .ok (colon.after taken)

/-- Reads an object as a map: of two members of one name the later value counts, at the place of
the earlier. -/
def readMap {α : Type} (value : Reader α) : Reader (List (String × α))
  | place, [] => .error (place.ended .endInValue)
  | place, token :: rest =>
    match token.lexeme with
    | .objectOpen =>
      if maxDepth ≤ place.depth then .error (place.peeked .tooDeep token)
      else
        let visit : MemberReader (List (String × α)) := fun name read place ts =>
          (readMember value name place ts).map (·.map fun v => insert name v read)
        (readMembers visit place true [] rest).map fun taken => (taken.map Prod.fst).afterOne
    | _ => .error (wrongKind "a map" place token)

/-- The fault of a word that is none of those allowed. -/
def findWord (words : List String) (word : String) (place : Place) (token : Token) :
    Except Fault (Fin words.length) :=
  match words.findFinIdx? (· == word) with
  | some index => .ok index
  | none => .error (place.fault (.unknownChoice word words) token.stop)

/-- Reads one of some words, alone or as the name of the only member of an object. -/
def readChoice (words : List String) : Reader (Fin words.length)
  | place, [] => .error (place.ended .endInValue)
  | place, token :: rest =>
    match token.lexeme with
    | .string (.ok word) =>
      match findWord words word place token with
      | .error fault => .error fault
      | .ok index => .ok (.one index)
    | .string (.error e) => .error (place.carried e)
    | .brokenString kept _ => .error (place.carried kept)
    | .objectOpen =>
      if maxDepth ≤ place.depth then .error (place.peeked .tooDeep token)
      else
        match rest with
        | [] => .error (place.ended .endInObject)
        | name :: more =>
          match name.lexeme with
          | .string (.ok word) =>
            match findWord words word place name with
            | .error fault => .error fault
            | .ok index =>
              match readMember (readToken "unit" fun | .null => some () | _ => none) word place
                  more with
              | .error fault => .error fault
              | .ok taken =>
                match h : taken.rest with
                | [] => .error (place.ended .endInObject)
                | last :: left =>
                  match last.lexeme with
                  | .objectClose => .ok ⟨index, left, by
                      have := taken.shorter
                      simp only [h, List.length_cons] at this ⊢
                      omega⟩
                  | _ => .error (place.fault .valueExpected last.start)
          | .string (.error e) => .error (place.carried e)
          | .brokenString kept _ => .error (place.carried kept)
          | .objectClose => .error (place.peeked .valueExpected name)
          | _ => .error (place.peeked .nameExpected name)
    | _ => .error (place.peeked .valueExpected token)

/-- Takes the bracket that ends an array in place of an object. -/
def readArrayEnd : Reader Unit
  | place, [] => .error (place.ended .endInArray)
  | place, token :: rest =>
    match token.lexeme with
    | .arrayClose => .ok (.one ())
    | .comma =>
      match rest with
      | [] => .error (place.ended .trailingText)
      | next :: _ =>
        match next.lexeme with
        | .arrayClose => .error (place.peeked .trailingComma next)
        | _ => .error (place.peeked .trailingText next)
    | _ => .error (place.peeked .trailingText token)

/-- The number of bytes taken into account once the rest of an object has been given up: up to the
next token, or with it if it is the closing brace. -/
def givenUpAt (place : Place) : List Token → Nat
  | [] => place.textEnd
  | token :: _ =>
    match token.lexeme with
    | .objectClose => token.stop
    | _ => token.start

/-- What the first of some tokens is. -/
inductive NextItem (ts : List Token) where
  /-- The end of the array. -/
  | close (stop : Nat)
  /-- The tokens of an item: all of them, or those after a comma. -/
  | item (rest : List Token) (short : rest.length ≤ ts.length)

/-- Looks for the next item of an array in place of an object. -/
def nextItem (place : Place) (index : Nat) (ts : List Token) : Except Fault (NextItem ts) :=
  match ts, index with
  | [], _ => .error (place.ended .endInArray)
  | token :: rest, index =>
    match token.lexeme, index with
    | .arrayClose, _ => .ok (.close token.stop)
    | .comma, _ + 1 =>
      match rest with
      | [] => .error (place.ended .endInValue)
      | next :: more =>
        match next.lexeme with
        | .arrayClose => .error (place.peeked .trailingComma next)
        | _ => .ok (.item (next :: more) (by simp))
    | _, 0 => .ok (.item (token :: rest) (by simp))
    | _, _ + 1 => .error (place.peeked .itemEndExpected token)

/-- What was read of some tokens, with the tokens after it. -/
structure Left (α : Type) (ts : List Token) where
  /-- What was read. -/
  value : α
  /-- The tokens after it. -/
  rest : List Token
  /-- Nothing was added. -/
  short : rest.length ≤ ts.length

mutual
/-- Reads a value of a shape. -/
def Shape.read : (shape : Shape) → Reader shape.Carrier
  | .text => readText
  | .flag => readFlag
  | .any => readAny
  | .optional inner => readOptional inner.read
  | .list item => readList item.read
  | .map value => readMap value.read
  | .choice words _ => readChoice words
  | .record name fields => fun place ts =>
    match ts with
    | [] => .error (place.ended .endInValue)
    | token :: rest =>
      match token.lexeme with
      | .objectOpen =>
        if maxDepth ≤ place.depth then .error (place.peeked .tooDeep token)
        else
          match readMembers fields.readInto place true fields.noSlots rest with
          | .error fault => .error fault
          | .ok taken =>
            match fields.fill taken.value.1 with
            | .error missing => .error (place.fault (.missingMember missing) taken.value.2)
            | .ok values => .ok (Taken.afterOne (taken.map fun _ => values))
      | .arrayOpen =>
        if maxDepth ≤ place.depth then .error (place.peeked .tooDeep token)
        else
          match fields.readItems (fields.wantedLength name) 0 place rest with
          | .error fault => .error fault
          | .ok left =>
            match readArrayEnd place left.rest with
            | .error fault => .error fault
            | .ok close => .ok ⟨left.value, close.rest, by
                have := close.shorter
                have := left.short
                simp only [List.length_cons]
                omega⟩
      | _ => .error (wrongKind ("struct " ++ name) place token)
/-- Reads the member of a name into its place. A member of another name is passed over. -/
def Fields.readInto : (fields : Fields) → MemberReader fields.Slots
  | .done, name, slots, place, ts =>
    readMember (fun inner ts => (skip inner.textEnd ts).mapError inner.carried) name place ts
      |>.map (·.map fun _ => slots)
  | .field key _ shape rest, name, (slot, slots), place, ts =>
    if key = name then
      match slot with
      | some _ => .error (place.fault (.repeatedMember name) (givenUpAt place ts))
      | none => (readMember shape.read name place ts).map (·.map fun v => (some v, slots))
    else (rest.readInto name slots place ts).map (·.map fun filled => (slot, filled))
/-- Reads the values of an array in place of an object. -/
def Fields.readItems : (fields : Fields) → (wanted : String) → (index : Nat) → Place →
    (ts : List Token) → Except Fault (Left fields.Carrier ts)
  | .done, _, _, _, ts => .ok ⟨(), ts, Nat.le_refl _⟩
  | .field _ required shape rest, wanted, index, place, ts =>
    match nextItem place index ts with
    | .error fault => .error fault
    | .ok (.close stop) =>
      if required then .error (place.fault (.tooShort index wanted) stop)
      else
        match rest.readItems wanted (index + 1) place ts with
        | .error fault => .error fault
        | .ok left => .ok ⟨(shape.missing, left.value), left.rest, left.short⟩
    | .ok (.item items short) =>
      match shape.read (place.inside (.item index)) items with
      | .error fault => .error fault
      | .ok taken =>
        match rest.readItems wanted (index + 1) place taken.rest with
        | .error fault => .error fault
        | .ok left => .ok ⟨(taken.value, left.value), left.rest, by
            have := taken.shorter
            have := left.short
            omega⟩
end

/-- Reads the value that starts a text. What follows the value is not looked at. -/
def Shape.readText (shape : Shape) (bytes : List UInt8) : Except Fault shape.Carrier :=
  (shape.read (.root bytes.length) (tokens bytes)).map (·.value)

/-- Reads a text that holds one value and nothing after it. -/
def Shape.readWhole (shape : Shape) (bytes : List UInt8) : Except Fault shape.Carrier :=
  let place := Place.root bytes.length
  match shape.read place (tokens bytes) with
  | .error fault => .error fault
  | .ok taken =>
    match taken.rest with
    | [] => .ok taken.value
    | token :: _ => .error (place.peeked .trailingText token)

end TypedClient.Json
