import FailureReplay.Diagnostics
import FailureReplay.Literal.LevelTree
import FailureReplay.Literal.LinkedList
import FailureReplay.Literal.Quote
import FailureReplay.Payload

/-!
# Argument literals

Each token of a payload is turned into a source literal as its declared
parameter type directs. A token that does not fit its type is passed through and
a warning is recorded; surplus tokens or types are ignored.
-/

namespace FailureReplay.Argument

/-- A literal and the warning raised while writing it. -/
structure Encoded where
  literal : Text
  warning? : Option Warning
  deriving DecidableEq, Repr

/-- Whether arrays of this element type can be written as arguments. -/
def supportedElement : DeclaredType → Bool
  | .text => true
  | .primitive kind => kind != .char
  | _ => false

def arrayLiteral (element : DeclaredType) (inner : Text) : Text :=
  match element with
  | .text => Literal.textArray inner
  | _ => Literal.arrayOf element.render (Text.trim inner)

def encodeArray (position : Nat) (element : DeclaredType) (token : Text) : Encoded :=
  if supportedElement element then
    match Text.enclosed? '[' ']' token with
    | some inner => ⟨arrayLiteral element inner, none⟩
    | none =>
      ⟨token, some (.malformedArgument position (DeclaredType.array element).render token
        "expected a bracketed list".toList)⟩
  else ⟨token, some (.unsupportedParameter position (DeclaredType.array element).render token)⟩

/-- A call of one of the harness's decoders on a token. -/
def decoderCall (decoder : String) (token : Text) : Text :=
  decoder.toList ++ "(\"".toList ++ token ++ "\")".toList

/-- The warning for a literal that could not be decoded. -/
def rejected? {α : Type} (position : Nat) (type : DeclaredType) (token : Text) :
    Except Literal.Error α → Option Warning
  | .ok _ => none
  | .error e => some (.malformedArgument position type.render token e.message)

def encodeOne (placeholder : Text) (position : Nat) (type : DeclaredType) (token : Text) :
    Encoded :=
  match type with
  | .text => ⟨Literal.quote (Literal.unquote token), none⟩
  | .primitive .char => ⟨Literal.character token, none⟩
  | .primitive _ => ⟨token, none⟩
  | .linkedList =>
    ⟨decoderCall "deserializeListNode" token,
      rejected? position type token (LinkedList.parse token)⟩
  | .tree =>
    ⟨decoderCall "deserializeTreeNode" token,
      rejected? position type token (LevelTree.parse placeholder token)⟩
  | .array element => encodeArray position element token
  | .void | .other _ => ⟨token, some (.unsupportedParameter position type.render token)⟩

/-- Write the literals of tokens matched with their types, counted from `position`, and record the
warnings raised on the way. -/
def writeFrom (placeholder : Text) (position : Nat) :
    List DeclaredType → List Text → Diagnostics → List Text × Diagnostics
  | type :: types, token :: tokens, d =>
    let encoded := encodeOne placeholder position type token
    let (rest, d) := writeFrom placeholder (position + 1) types tokens
      (d.recordAny encoded.warning?)
    (encoded.literal :: rest, d)
  | _, _, d => ([], d)

def write (placeholder : Text) (types : List DeclaredType) (payload : Text) (d : Diagnostics) :
    List Text × Diagnostics :=
  writeFrom placeholder 0 types (Payload.tokens payload) d

/-! ## Literals with their warnings -/

/-- The literals of tokens matched with their types, counted from `position`. -/
def encodeFrom (placeholder : Text) (position : Nat) :
    List DeclaredType → List Text → List Encoded
  | type :: types, token :: tokens =>
    encodeOne placeholder position type token :: encodeFrom placeholder (position + 1) types tokens
  | _, _ => []

def encode (placeholder : Text) (types : List DeclaredType) (payload : Text) : List Encoded :=
  encodeFrom placeholder 0 types (Payload.tokens payload)

def literals (es : List Encoded) : List Text := es.map Encoded.literal

/-- The warnings alone, by position. -/
def warnings (es : List Encoded) : List Warning := es.filterMap Encoded.warning?

end FailureReplay.Argument
