import Jadn.Json
import Jadn.Numeral
import Jadn.Binary64.Shortest

/-!
The compact text of a JSON value: no blanks, members in order, characters written as they
are except quotes, backslashes and control characters.
-/

namespace Jadn.Json

def escapeChar (c : Char) : List Char :=
  if c = '\"' then ['\\', '\"']
  else if c = '\\' then ['\\', '\\']
  else if c = '\n' then ['\\', 'n']
  else if c = '\r' then ['\\', 'r']
  else if c = '\t' then ['\\', 't']
  else if c = '\x08' then ['\\', 'b']
  else if c = '\x0c' then ['\\', 'f']
  else if c.toNat < 0x20 then
    ['\\', 'u', '0', '0', Numeral.hexChar (c.toNat / 16), Numeral.hexChar (c.toNat % 16)]
  else [c]

def quote (s : String) : String :=
  "\"" ++ String.ofList (s.toList.flatMap escapeChar) ++ "\""

mutual

def text : Json → String
  | .null => "null"
  | .bool b => if b then "true" else "false"
  | .int n => toString n
  | .real x => x.toText .json
  | .str s => quote s
  | .arr [] => "[]"
  | .arr (x :: xs) => "[" ++ text x ++ textItems xs
  | .obj [] => "\x7b\x7d"
  | .obj ((k, v) :: ms) => "\x7b" ++ quote k ++ ":" ++ text v ++ textMembers ms

/-- The items after the first, and the closing bracket. -/
def textItems : List Json → String
  | [] => "]"
  | x :: xs => "," ++ text x ++ textItems xs

/-- The members after the first, and the closing brace. -/
def textMembers : List (String × Json) → String
  | [] => "\x7d"
  | (k, v) :: ms => "," ++ quote k ++ ":" ++ text v ++ textMembers ms

end

end Jadn.Json
