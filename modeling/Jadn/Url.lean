import Jadn.Url.Host

/-!
Which texts are URLs, and which are references that a web page could resolve.

Only the scheme and the authority can make a text invalid: every path, query and fragment is
accepted. Control characters and spaces around a text and line breaks and tabs within it do
not count.
-/

namespace Jadn.Url

/-- The text that counts. -/
def significant (text : List Char) : List Char :=
  let isOuter (c : Char) : Bool := c.toNat ≤ 0x20
  let text := ((text.dropWhile isOuter).reverse.dropWhile isOuter).reverse
  text.filter fun c => c != '\t' && c != '\n' && c != '\r'

/-- What a scheme says about authorities. -/
inductive Scheme where
  /-- The scheme of pages, to which references are relative. -/
  | page
  /-- The other schemes with a host that is a domain or an address. -/
  | network
  | file
  | other
  deriving DecidableEq

def Scheme.ofName (name : String) : Scheme :=
  if name = "http" then page
  else if name = "https" ∨ name = "ws" ∨ name = "wss" ∨ name = "ftp" then network
  else if name = "file" then file
  else other

def isSchemeChar (c : Char) : Bool := c.isAlphanum || c == '+' || c == '-' || c == '.'

/-- The scheme, and what follows its colon. -/
def scheme? (text : List Char) : Option (Scheme × List Char) :=
  if text.head?.any Char.isAlpha then
    match text.dropWhile isSchemeChar with
    | ':' :: rest =>
      some (.ofName (String.ofList ((text.takeWhile isSchemeChar).map Char.toLower)), rest)
    | _ => none
  else none

def isSlash (c : Char) : Bool := c == '/' || c == '\\'

/-- The host of an authority, and the rest from the first colon after it on. -/
def splitHost (inBrackets : Bool) : List Char → List Char × List Char
  | [] => ([], [])
  | c :: cs =>
    if c = ':' ∧ !inBrackets then ([], c :: cs)
    else
      let inBrackets := if c = '[' then true else if c = ']' then false else inBrackets
      let (host, rest) := splitHost inBrackets cs
      (c :: host, rest)

/-- Ports have 16 bits and may be left empty; only a backslash, which starts a path, follows
them. -/
def isPort (text : List Char) : Bool :=
  let digits := text.takeWhile Numeral.isDigit
  let rest := text.dropWhile Numeral.isDigit
  (rest.isEmpty || rest.head? == some '\\') &&
    (digits.isEmpty || (Numeral.natural? digits).any (· < UInt16.size))

/-- A host and, after a colon, one of its ports. The host may be empty where it need not be a
domain and no colon follows. -/
def isHostAndPort (isDomain : Bool) (text : List Char) : Bool :=
  let (host, rest) := splitHost false text
  (if isDomain then !host.isEmpty && Host.isDomainOrAddress host else Host.isOpaque host) &&
    match rest with
    | [] => true
    | _ :: number => !host.isEmpty && isPort number

/-- The credentials before the last at sign, if there are any, and what follows them. -/
def splitCredentials (authority : List Char) : Option (List Char) × List Char :=
  let host := (authority.reverse.takeWhile (· != '@')).reverse
  if host.length = authority.length then (none, authority)
  else (some (authority.take (authority.length - host.length - 1)), host)

/-- An authority up to the path, query or fragment. Credentials ask for a host; the empty
ones do so only in front of something else. -/
def hasAuthority (isDomain : Bool) (text : List Char) : Bool :=
  let isEnd (c : Char) : Bool := c == '/' || c == '?' || c == '#' || (isDomain && c == '\\')
  let authority := text.takeWhile (!isEnd ·)
  let rest := text.dropWhile (!isEnd ·)
  let (credentials, host) := splitCredentials authority
  isHostAndPort isDomain host &&
    match credentials with
    | none => true
    | some [] => !host.isEmpty || rest.isEmpty
    | some [':'] => true
    | some _ => (splitHost false host).1 != []

def isDriveLetter : List Char → Bool
  | [letter, mark] => letter.isAlpha && (mark == ':' || mark == '|')
  | _ => false

/-- What follows the scheme of files: a host is named only after two slashes. -/
def isFilePath : List Char → Bool
  | a :: b :: rest =>
    if isSlash a && isSlash b then
      let host := rest.takeWhile fun c => !(isSlash c || c == '?' || c == '#')
      host.isEmpty || isDriveLetter host || Host.isDomainOrAddress host
    else true
  | _ => true

/-- What follows a scheme in a complete URL. -/
def isAfter (scheme : Scheme) (text : List Char) : Bool :=
  match scheme with
  | .page | .network => hasAuthority true (text.dropWhile isSlash)
  | .file => isFilePath text
  | .other =>
    match text with
    | '/' :: '/' :: rest => hasAuthority false rest
    | _ => true

/-- What can be resolved against a page: two slashes start an authority. -/
def isRelative (text : List Char) : Bool :=
  if (text.takeWhile isSlash).length < 2 then true
  else match text with
    | '/' :: '/' :: rest => hasAuthority true rest
    | _ => hasAuthority true (text.dropWhile isSlash)

/-- A complete URL. -/
def isAbsolute (text : List Char) : Bool :=
  match scheme? (significant text) with
  | some (scheme, rest) => isAfter scheme rest
  | none => false

/-- A complete URL, or a reference relative to a page. -/
def isReference (text : List Char) : Bool :=
  let text := significant text
  match scheme? text with
  | some (scheme, rest) =>
    if scheme = .page ∧ (rest.takeWhile isSlash).length < 2 then isRelative rest
    else isAfter scheme rest
  | none => isRelative text

end Jadn.Url
