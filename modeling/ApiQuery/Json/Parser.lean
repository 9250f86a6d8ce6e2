/-
  ApiQuery.Json.Parser — JSON values from their tokens.

  The parser is a stack machine over the tokens. The stack holds the containers that wait
  for one of their values; it may hold `maxDepth` of them, so deeper texts are refused. A
  repeated key keeps its place and takes the last value.
-/

import ApiQuery.Json.Token
import ApiQuery.Json.Numeral

namespace ApiQuery.Json

/-- How deep arrays and objects may nest. -/
def maxDepth : Nat := 127

/-- A container that waits for a value; an array's items are kept last first. -/
inductive Frame where
  | arr (before : List Json)
  | obj (before : List (String × Json)) (key : String)

inductive Parser where
  /-- A value must follow. -/
  | value (stack : List Frame)
  /-- Just inside an array: a value or its end. -/
  | first (stack : List Frame)
  /-- Just inside an object: a key or its end. -/
  | member (stack : List Frame)
  /-- After a comma in an object. -/
  | key (stack : List Frame) (before : List (String × Json))
  | colon (stack : List Frame) (before : List (String × Json)) (key : String)
  /-- A value has been read in the place that the stack waits for. -/
  | filled (stack : List Frame) (v : Json)

def word? (cs : List Char) : Option Json :=
  if cs = ['n', 'u', 'l', 'l'] then some .null
  else if cs = ['t', 'r', 'u', 'e'] then some (.bool true)
  else if cs = ['f', 'a', 'l', 's', 'e'] then some (.bool false)
  else (Numeral.read? cs).map .num

/-- The first token of a value. -/
def Parser.begin (stack : List Frame) : Token → Option Parser
  | .word cs => (word? cs).map (.filled stack)
  | .str s => some (.filled stack (.str (String.ofList s)))
  | .openArr => if stack.length < maxDepth then some (.first stack) else none
  | .openObj => if stack.length < maxDepth then some (.member stack) else none
  | _ => none

def Parser.step : Parser → Token → Option Parser
  | .value stack, t => begin stack t
  | .first stack, .closeArr => some (.filled stack (.arr []))
  | .first stack, t => begin (.arr [] :: stack) t
  | .member stack, .closeObj => some (.filled stack (.obj []))
  | .member stack, .str k => some (.colon stack [] (String.ofList k))
  | .key stack before, .str k => some (.colon stack before (String.ofList k))
  | .colon stack before k, .colon => some (.value (.obj before k :: stack))
  | .filled (.arr before :: stack) v, .comma => some (.value (.arr (v :: before) :: stack))
  | .filled (.arr before :: stack) v, .closeArr => some (.filled stack (.arr (v :: before).reverse))
  | .filled (.obj before k :: stack) v, .comma => some (.key stack (put k v before))
  | .filled (.obj before k :: stack) v, .closeObj => some (.filled stack (.obj (put k v before)))
  | _, _ => none

def Parser.finish : Parser → Option Json
  | .filled [] v => some v
  | _ => none

def ofTokens? (ts : List Token) : Option Json := do
  (← ts.foldlM Parser.step (.value [])).finish

/-- The value that the whole text denotes. -/
def parse (s : String) : Option Json := tokens? s.toList >>= ofTokens?

end ApiQuery.Json
