import SwaggerService.Json.Token

/-! # Reading JSON

A reader takes one token after the other. It keeps the lists and objects that are still open on a stack,
so that the nesting of a text is the height of that stack. -/

namespace SwaggerService.Json

/-- A list or an object that is still open. The items of a list are newest first; an object waits for
the value of a key. -/
inductive Frame where
  | list (items : List Json)
  | field (fields : List (String × Json)) (key : String)
  deriving Repr

/-- What a reader waits for. -/
inductive Reading where
  | value (stack : List Frame)
  | firstItem (stack : List Frame)
  | nextItem (items : List Json) (stack : List Frame)
  | itemEnd (items : List Json) (stack : List Frame)
  | firstKey (stack : List Frame)
  | nextKey (fields : List (String × Json)) (stack : List Frame)
  | colon (fields : List (String × Json)) (key : String) (stack : List Frame)
  | fieldEnd (fields : List (String × Json)) (stack : List Frame)
  | complete (value : Json)
  deriving Repr

namespace Reading

/-- Puts a finished value where it belongs. -/
def give (v : Json) : List Frame → Reading
  | [] => .complete v
  | .list items :: stack => .itemEnd (v :: items) stack
  | .field fields key :: stack => .fieldEnd (Entries.put key v fields) stack

/-- Starts a value. At most `limit` lists and objects may be open. -/
def start (limit : Nat) (stack : List Frame) : Token → Except SyntaxFault Reading
  | .scalar v => .ok (give v stack)
  | .string text => .ok (give (.string text) stack)
  | .listOpen => if limit ≤ stack.length then .error .tooDeep else .ok (.firstItem stack)
  | .objectOpen => if limit ≤ stack.length then .error .tooDeep else .ok (.firstKey stack)
  | .finish => .error .unfinishedValue
  | .broken _ fault => .error fault
  | _ => .error .expectedValue

/-- Reads a key of an object. -/
def key (fields : List (String × Json)) (stack : List Frame) : Token → Except SyntaxFault Reading
  | .string text => .ok (.colon fields text stack)
  | .broken true fault => .error fault
  | _ => .error .keyNotString

/-- Takes one token. -/
def step (limit : Nat) : Reading → Token → Except SyntaxFault Reading
  | .value stack, token => start limit stack token
  | .firstItem stack, .listClose => .ok (give (.list []) stack)
  | .firstItem _, .finish => .error .unfinishedList
  | .firstItem stack, token => start limit (.list [] :: stack) token
  | .nextItem _ _, .listClose => .error .trailingComma
  | .nextItem items stack, token => start limit (.list items :: stack) token
  | .itemEnd items stack, .listClose => .ok (give (.list items.reverse) stack)
  | .itemEnd items stack, .comma => .ok (.nextItem items stack)
  | .itemEnd _ _, .finish => .error .unfinishedList
  | .itemEnd _ _, _ => .error .expectedListEnd
  | .firstKey stack, .objectClose => .ok (give (.object []) stack)
  | .firstKey _, .finish => .error .unfinishedObject
  | .firstKey stack, token => key [] stack token
  | .nextKey _ _, .objectClose => .error .trailingComma
  | .nextKey _ _, .finish => .error .unfinishedValue
  | .nextKey fields stack, token => key fields stack token
  | .colon fields key stack, .colon => .ok (.value (.field fields key :: stack))
  | .colon _ _ _, .finish => .error .unfinishedObject
  | .colon _ _ _, _ => .error .expectedColon
  | .fieldEnd fields stack, .objectClose => .ok (give (.object fields) stack)
  | .fieldEnd fields stack, .comma => .ok (.nextKey fields stack)
  | .fieldEnd _ _, .finish => .error .unfinishedObject
  | .fieldEnd _ _, _ => .error .expectedObjectEnd
  | .complete v, .finish => .ok (.complete v)
  | .complete _, _ => .error .trailingCharacters

end Reading

/-- Reads a text in which at most `limit` lists and objects are open at a time. -/
def read (limit : Nat) (text : String) : Except SyntaxFault Json := do
  match ← (tokens text.toList).foldlM (Reading.step limit) (.value []) with
  | .complete value => return value
  | _ => throw .unfinishedValue

/-- The deepest nesting of lists and objects in a document. -/
def maxNesting : Nat := 127

/-- Reads a document. -/
def parse (text : String) : Except SyntaxFault Json := read maxNesting text

end SwaggerService.Json
