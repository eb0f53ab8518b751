import TypedClient.Json.Consume

/-!
# Passing over a value

A member that no reader asks for is passed over: its tokens must form a value, but
its numbers may be of any size, its strings may hold any escapes and bytes, and it
may be as deep as it likes. The state is the stack of open brackets and what the
next token has to be.
-/

namespace TypedClient.Json

/-- An open bracket. -/
inductive Bracket where
  /-- A square bracket. -/
  | array
  /-- A brace. -/
  | object
  deriving DecidableEq

/-- The fault of the text ending inside a bracket. -/
def Bracket.endProblem : Bracket → Problem
  | .array => .endInArray
  | .object => .endInObject

/-- What the next token of a skipped value has to be. -/
inductive SkipExpects where
  /-- A value. -/
  | value
  /-- A value, or the end of the array, which was just opened. -/
  | firstItem
  /-- The name of a member, or the end of the object, which was just opened. -/
  | firstName
  /-- The name of a member after a comma. -/
  | nextName
  /-- The colon after a name. -/
  | colon
  /-- A comma, or the end of the innermost bracket. -/
  | separator
  deriving DecidableEq

/-- What is expected next, and the open brackets, innermost first. -/
abbrev SkipState := SkipExpects × List Bracket

namespace Skip

/-- What happens after a value inside the open brackets. -/
def completed : List Bracket → Outcome SkipState Unit (Problem × Nat)
  | [] => .done ()
  | frame :: outer => .more (.separator, frame :: outer)

/-- The step where a value is expected. -/
def valueStep (fresh : Bool) (stack : List Bracket) (token : Token) :
    Outcome SkipState Unit (Problem × Nat) :=
  match token.lexeme with
  | .null | .bool _ | .number _ | .string _ => completed stack
  | .broken _ skipped => .failed skipped
  | .brokenString _ skipped => .failed skipped
  | .arrayOpen => .more (.firstItem, .array :: stack)
  | .objectOpen => .more (.firstName, .object :: stack)
  | .arrayClose =>
    if fresh then completed stack.tail else .failed (.valueExpected, token.start + 1)
  | _ => .failed (.valueExpected, token.start + 1)

/-- The step where the name of a member is expected. -/
def nameStep (fresh : Bool) (stack : List Bracket) (token : Token) :
    Outcome SkipState Unit (Problem × Nat) :=
  match token.lexeme with
  | .string _ => .more (.colon, stack)
  | .brokenString _ skipped => .failed skipped
  | .objectClose =>
    if fresh then completed stack.tail else .failed (.nameExpected, token.start + 1)
  | _ => .failed (.nameExpected, token.start + 1)

/-- The step where a comma or the end of the innermost bracket is expected. -/
def separatorStep (stack : List Bracket) (token : Token) :
    Outcome SkipState Unit (Problem × Nat) :=
  match stack, token.lexeme with
  | .array :: _, .comma => .more (.value, stack)
  | .object :: _, .comma => .more (.nextName, stack)
  | .array :: outer, .arrayClose => completed outer
  | .object :: outer, .objectClose => completed outer
  | .object :: _, _ => .failed (.memberEndExpected, token.start + 1)
  | _, _ => .failed (.itemEndExpected, token.start + 1)

/-- The step of passing over a value. -/
def step : SkipState → Token → Outcome SkipState Unit (Problem × Nat)
  | (.value, stack), token => valueStep false stack token
  | (.firstItem, stack), token => valueStep true stack token
  | (.firstName, stack), token => nameStep true stack token
  | (.nextName, stack), token => nameStep false stack token
  | (.colon, stack), token =>
    match token.lexeme with
    | .colon => .more (.value, stack)
    | _ => .failed (.colonExpected, token.start + 1)
  | (.separator, stack), token => separatorStep stack token

/-- The fault of a text of `textEnd` bytes that ends inside a skipped value. -/
def atEnd (textEnd : Nat) : SkipState → Problem × Nat
  | (.value, _) => (.endInValue, textEnd)
  | (.firstItem, _) => (.endInArray, textEnd)
  | (.separator, frame :: _) => (frame.endProblem, textEnd)
  | _ => (.endInObject, textEnd)

end Skip

/-- Passes over the value that starts the tokens of a text of `textEnd` bytes. -/
def skip (textEnd : Nat) (ts : List Token) : Except (Problem × Nat) (Taken Unit ts) :=
  consumeTaken Skip.step (Skip.atEnd textEnd) (.value, []) ts

end TypedClient.Json
