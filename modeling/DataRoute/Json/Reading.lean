import DataRoute.Json.Token

/-! # Reading JSON texts

`Json.read?` is one walk over the tokens of a text. The containers that are open form a stack of
frames, so the depth of nesting is the height of the stack; at most 127 containers may be open
at once. Of two members with one key the later one counts. -/

namespace DataRoute.Json

/-- A container that is open: the items of an array so far, in reverse, or the members of an
object so far with the key that waits for its value. -/
inductive Frame where
  | array (items : List Json)
  | object (members : Members) (key : String)

/-- What may come next. -/
inductive Awaiting where
  | value (stack : List Frame)
  | itemOrEnd (stack : List Frame)
  | keyOrEnd (stack : List Frame)
  | key (members : Members) (stack : List Frame)
  | colon (members : Members) (key : String) (stack : List Frame)
  | separator (value : Json) (stack : List Frame)

/-- The number of containers that may be open at once. -/
def depthLimit : Nat := 127

/-- The token that begins a value. -/
def Awaiting.begin (stack : List Frame) : Token → Option Awaiting
  | .scalar v => some (.separator v stack)
  | .openArray => if stack.length < depthLimit then some (.itemOrEnd stack) else none
  | .openObject => if stack.length < depthLimit then some (.keyOrEnd stack) else none
  | _ => none

/-- One more token. -/
def Awaiting.step : Awaiting → Token → Option Awaiting
  | .value stack, token => begin stack token
  | .itemOrEnd stack, .closeArray => some (.separator (.array []) stack)
  | .itemOrEnd stack, token => begin (.array [] :: stack) token
  | .keyOrEnd stack, .closeObject => some (.separator (.object []) stack)
  | .keyOrEnd stack, .scalar (.text k) => some (.colon [] k stack)
  | .key members stack, .scalar (.text k) => some (.colon members k stack)
  | .colon members k stack, .colon => some (.value (.object members k :: stack))
  | .separator v (.array items :: stack), .comma => some (.value (.array (v :: items) :: stack))
  | .separator v (.array items :: stack), .closeArray =>
    some (.separator (.array (v :: items).reverse) stack)
  | .separator v (.object members k :: stack), .comma => some (.key (members.insert k v) stack)
  | .separator v (.object members k :: stack), .closeObject =>
    some (.separator (.object (members.insert k v)) stack)
  | _, _ => none

/-- The value that a list of tokens stands for. -/
def ofTokens? (state : Awaiting) : List Token → Option Json
  | [] => match state with
    | .separator v [] => some v
    | _ => none
  | token :: rest => match state.step token with
    | some next => ofTokens? next rest
    | none => none

/-- The value of a JSON text, if it is one. -/
def read? (source : String) : Option Json := (tokens? source).bind (ofTokens? (.value []))

end DataRoute.Json
