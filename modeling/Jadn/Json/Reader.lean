import Jadn.Json.Number

/-!
Reading JSON text.

The text is cut into tokens by a machine that takes one character at a time, and the tokens
are assembled by a machine that keeps the containers still open; a limit on how many may be
open bounds the nesting. A repeated key keeps its first place and takes its last value.
-/

namespace Jadn.Json

inductive Token where
  | openArray
  | closeArray
  | openObject
  | closeObject
  | colon
  | comma
  | scalar (value : Json)

/-- What the characters read last belong to; characters so far are in reverse. -/
inductive Pending where
  | nothing
  | word (letters : List Char)
  | number (literal : List Char)
  | string (done : List Char)
  | escape (done : List Char)
  /-- Inside the four digits of a unit, after a high surrogate if there was one. -/
  | unit (done : List Char) (high : Option Nat) (count : Nat) (value : Nat)
  /-- After a high surrogate: only the escape of a low one may follow. -/
  | low (done : List Char) (high : Nat)
  | lowEscape (done : List Char) (high : Nat)

structure Lexer where
  /-- The tokens read, last one first. -/
  tokens : List Token
  pending : Pending

namespace Lexer

def start : Lexer := ⟨[], .nothing⟩

def emit (l : Lexer) (t : Token) : Lexer := ⟨t :: l.tokens, .nothing⟩

def isBlank (c : Char) : Bool := c == ' ' || c == '\t' || c == '\n' || c == '\r'

def isNumberChar (c : Char) : Bool :=
  Numeral.isDigit c || c == '-' || c == '+' || c == '.' || c == 'e' || c == 'E'

/-- A character where no token is open. -/
def begin (l : Lexer) (c : Char) : Option Lexer :=
  if isBlank c then some l
  else match c with
    | '[' => some (l.emit .openArray)
    | ']' => some (l.emit .closeArray)
    | '\x7b' => some (l.emit .openObject)
    | '\x7d' => some (l.emit .closeObject)
    | ':' => some (l.emit .colon)
    | ',' => some (l.emit .comma)
    | '\"' => some { l with pending := .string [] }
    | c =>
      if c == '-' || Numeral.isDigit c then some { l with pending := .number [c] }
      else if 'a' ≤ c ∧ c ≤ 'z' then some { l with pending := .word [c] }
      else none

/-- Ends a word or number token. -/
def finish (l : Lexer) : Option Lexer :=
  match l.pending with
  | .nothing => some l
  | .word letters =>
    match String.ofList letters.reverse with
    | "null" => some (l.emit (.scalar .null))
    | "true" => some (l.emit (.scalar (.bool true)))
    | "false" => some (l.emit (.scalar (.bool false)))
    | _ => none
  | .number literal => (Json.number literal.reverse).map fun v => l.emit (.scalar v)
  | _ => none

/-- The character that a one-letter escape stands for. -/
def escaped? : Char → Option Char
  | '\"' => some '\"'
  | '\\' => some '\\'
  | '/' => some '/'
  | 'b' => some '\x08'
  | 'f' => some '\x0c'
  | 'n' => some '\n'
  | 'r' => some '\r'
  | 't' => some '\t'
  | _ => none

/-- A complete code unit: a scalar value, a high surrogate to be paired, or an error. -/
def unit (done : List Char) (high : Option Nat) (value : Nat) : Option Pending :=
  match high with
  | none =>
    if 0xD800 ≤ value ∧ value < 0xDC00 then some (.low done value)
    else if 0xDC00 ≤ value ∧ value < 0xE000 then none
    else some (.string (Char.ofNat value :: done))
  | some high =>
    if 0xDC00 ≤ value ∧ value < 0xE000 then
      some (.string (Char.ofNat (0x10000 + (high - 0xD800) * 0x400 + (value - 0xDC00)) :: done))
    else none

def step (l : Lexer) (c : Char) : Option Lexer :=
  let continueWith (p : Pending) : Option Lexer := some { l with pending := p }
  match l.pending with
  | .nothing => l.begin c
  | .word letters =>
    if 'a' ≤ c ∧ c ≤ 'z' then continueWith (.word (c :: letters))
    else l.finish.bind (·.begin c)
  | .number literal =>
    if isNumberChar c then continueWith (.number (c :: literal))
    else l.finish.bind (·.begin c)
  | .string done =>
    if c == '\"' then some (l.emit (.scalar (.str (String.ofList done.reverse))))
    else if c == '\\' then continueWith (.escape done)
    else if c.toNat < 0x20 then none
    else continueWith (.string (c :: done))
  | .escape done =>
    if c == 'u' then continueWith (.unit done none 0 0)
    else (escaped? c).bind fun e => continueWith (.string (e :: done))
  | .unit done high count value =>
    (Numeral.hexDigit? c).bind fun digit =>
      if count < 3 then continueWith (.unit done high (count + 1) (16 * value + digit))
      else (unit done high (16 * value + digit)).bind continueWith
  | .low done high => if c == '\\' then continueWith (.lowEscape done high) else none
  | .lowEscape done high =>
    if c == 'u' then continueWith (.unit done (some high) 0 0) else none

end Lexer

def tokens? (text : List Char) : Option (List Token) := do
  let l ← text.foldlM Lexer.step Lexer.start
  let l ← l.finish
  some l.tokens.reverse

/-- An open container: what it holds so far, last item first for arrays. -/
inductive Frame where
  | array (items : List Json)
  | object (members : List (String × Json)) (key : String)

/-- What may come next. -/
inductive Expect where
  | value
  /-- A value, or the end of an array just opened. -/
  | firstItem
  | key
  /-- A key, or the end of an object just opened. -/
  | firstKey
  | colon
  /-- The end of a value: a comma or the end of the container around it. -/
  | next (value : Json)

structure Assembly where
  /-- The open containers, innermost first. -/
  frames : List Frame
  expect : Expect

namespace Assembly

def start : Assembly := ⟨[], .value⟩

/-- Opens a container, unless as many as allowed are open already. -/
def open? (limit : Option Nat) (a : Assembly) (f : Frame) (e : Expect) : Option Assembly :=
  if limit.any (· ≤ a.frames.length) then none else some ⟨f :: a.frames, e⟩

def value? (limit : Option Nat) (a : Assembly) : Token → Option Assembly
  | .scalar v => some { a with expect := .next v }
  | .openArray => a.open? limit (.array []) .firstItem
  | .openObject => a.open? limit (.object [] "") .firstKey
  | _ => none

def key? (a : Assembly) : Token → Option Assembly
  | .scalar (.str key) =>
    match a.frames with
    | .object members _ :: outer => some ⟨.object members key :: outer, .colon⟩
    | _ => none
  | _ => none

/-- A value followed by a token, in the innermost container. -/
def next? (a : Assembly) (v : Json) (t : Token) : Option Assembly :=
  match a.frames, t with
  | .array items :: outer, .comma => some ⟨.array (v :: items) :: outer, .value⟩
  | .array items :: outer, .closeArray => some ⟨outer, .next (.arr (v :: items).reverse)⟩
  | .object members key :: outer, .comma =>
    some ⟨.object (Dict.insert key v members) "" :: outer, .key⟩
  | .object members key :: outer, .closeObject =>
    some ⟨outer, .next (.obj (Dict.insert key v members))⟩
  | _, _ => none

def step (limit : Option Nat) (a : Assembly) (t : Token) : Option Assembly :=
  match a.expect with
  | .value => a.value? limit t
  | .firstItem =>
    match t with
    | .closeArray => some ⟨a.frames.tail, .next (.arr [])⟩
    | t => a.value? limit t
  | .key => a.key? t
  | .firstKey =>
    match t with
    | .closeObject => some ⟨a.frames.tail, .next (.obj [])⟩
    | t => a.key? t
  | .colon =>
    match t with
    | .colon => some { a with expect := .value }
    | _ => none
  | .next v => a.next? v t

/-- The value, once no container is open. -/
def result? (a : Assembly) : Option Json :=
  match a.frames, a.expect with
  | [], .next v => some v
  | _, _ => none

end Assembly

/-- The value of a JSON text; `limit` bounds how many containers may be open at once. -/
def read? (text : String) (limit : Option Nat) : Option Json := do
  let tokens ← tokens? text.toList
  let a ← tokens.foldlM (Assembly.step limit) Assembly.start
  a.result?

/-- Containers nest at most this deep in schema documents given as text. -/
def documentNesting : Nat := 127

end Jadn.Json
