import DocStore.Double.Text
import DocStore.OrderedMap
/-!
# JSON

A JSON tree keeps integers apart from doubles and the members of an object in order. `Json.print`
writes the compact text: no blanks, and only quotes, backslashes and control characters escaped.
-/

namespace DocStore

/-- A JSON value. -/
inductive Json where
  | null
  | bool (flag : Bool)
  | int (n : Int)
  | double (x : Double)
  | string (text : String)
  | array (items : List Json)
  | object (members : List (String × Json))
  deriving Inhabited

namespace Json

/-- The four hexadecimal digits of a control character. -/
def unicodeEscape (n : Nat) : List Char :=
  let digit (k : Nat) : Char := if k < 10 then Char.ofNat (48 + k) else Char.ofNat (87 + k)
  ['\\', 'u', '0', '0', digit (n / 16), digit (n % 16)]

def escapeChar (c : Char) : List Char :=
  if c = '"' then ['\\', '"']
  else if c = '\\' then ['\\', '\\']
  else if c = '\n' then ['\\', 'n']
  else if c = '\r' then ['\\', 'r']
  else if c = '\t' then ['\\', 't']
  else if c.toNat = 8 then ['\\', 'b']
  else if c.toNat = 12 then ['\\', 'f']
  else if c.toNat < 32 then unicodeEscape c.toNat
  else [c]

/-- A text in quotes. -/
def quoted (text : String) : String :=
  "\"" ++ String.ofList (text.toList.flatMap escapeChar) ++ "\""

mutual

/-- The compact text of a tree. -/
def print : Json → String
  | .null => "null"
  | .bool flag => if flag then "true" else "false"
  | .int n => toString n
  | .double x => x.scientific
  | .string text => quoted text
  | .array items => "[" ++ printItems items ++ "]"
  | .object members => "\x7b" ++ printMembers members ++ "\x7d"

def printItems : List Json → String
  | [] => ""
  | [item] => print item
  | item :: items => print item ++ "," ++ printItems items

def printMembers : List (String × Json) → String
  | [] => ""
  | [(key, item)] => quoted key ++ ":" ++ print item
  | (key, item) :: members => quoted key ++ ":" ++ print item ++ "," ++ printMembers members

end

end Json

end DocStore
