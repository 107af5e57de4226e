import Volley.Url.Host

/-!
# Addresses

An address is a scheme, credentials, a host, a port, a path, a query and a fragment. Reading follows
the living standard for addresses without a base: the six well-known schemes have a host, take a
backslash for a slash and resolve the dot segments of their paths.
-/

namespace Volley.Url

inductive Path where
  /-- The rest after the scheme of an address that has no slash there. -/
  | plain (text : String)
  | segments (names : List String)
  deriving DecidableEq, Repr

structure Address where
  scheme : String
  username : String
  password : String
  host : Option Host
  port : Option Nat
  path : Path
  query : Option String
  fragment : Option String
  deriving DecidableEq, Repr

/-- The standard port of a scheme. -/
def standardPort? : String → Option Nat
  | "http" => some 80
  | "ws" => some 80
  | "https" => some 443
  | "wss" => some 443
  | "ftp" => some 21
  | _ => none

def isSpecial (scheme : String) : Bool := scheme == "file" || (standardPort? scheme).isSome

namespace Address

/-! ## Reading -/

def isSchemeChar (c : Char) : Bool := c.isAlphanum || c == '+' || c == '-' || c == '.'

/-- The scheme and what follows its colon. -/
def scheme? (text : List Char) : Option (String × List Char) :=
  match Text.cut? ':' text with
  | some (name, rest) =>
    match name with
    | c :: _ =>
      if c.isAlpha && name.all isSchemeChar then some (.ofList (name.map Char.toLower), rest)
      else none
    | [] => none
  | none => none

/-- A character between the parts of a path. -/
def isSlash (special : Bool) (c : Char) : Bool := c == '/' || (special && c == '\\')

/-- A character at which the authority ends. -/
def endsAuthority (special : Bool) (c : Char) : Bool := isSlash special c || c == '?' || c == '#'

/-- The credentials in front of the last at sign, if there is one. -/
def credentials (text : List Char) : Option (List Char) × List Char :=
  match Text.cutLast? '@' text with
  | some (before, after) => (some before, after)
  | none => (none, text)

def userAndPassword (text : List Char) : String × String :=
  let write (s : List Char) : String := .ofList (escape .userinfo s)
  match Text.cut? ':' text with
  | some (user, password) => (write user, write password)
  | none => (write text, "")

/-- The host part: up to a colon outside brackets. -/
def hostPart (inside : Bool) : List Char → List Char × List Char
  | [] => ([], [])
  | c :: r =>
    if c == ':' && !inside then ([], c :: r)
    else
      let (h, rest) := hostPart (if c == '[' then true else if c == ']' then false else inside) r
      (c :: h, rest)

/-- A port's digits, up to the largest port. -/
def portNumber? : Nat → List Char → Option Nat
  | n, [] => some n
  | n, c :: r =>
    if !c.isDigit then none
    else
      let n := n * 10 + (c.toNat - 48)
      if 65535 < n then none else portNumber? n r

def parsePort (scheme : String) (text : List Char) : Except AddressFault (Option Nat) :=
  if text.isEmpty then .ok none
  else match portNumber? 0 text with
    | none => .error .port
    | some n => .ok (if standardPort? scheme = some n then none else some n)

def isSingleDot (s : List Char) : Bool := s == ['.'] || s.map Char.toLower == "%2e".toList

def isDoubleDot (s : List Char) : Bool :=
  ["..", "%2e%2e", "%2e.", ".%2e"].any (·.toList == s.map Char.toLower)

/-- Resolves the dot segments, the written ones last in `done`. -/
def resolveDots (done : List (List Char)) : List (List Char) → List (List Char)
  | [] => done.reverse
  | [s] =>
    if isDoubleDot s then ([] :: done.drop 1).reverse
    else if isSingleDot s then ([] :: done).reverse
    else (s :: done).reverse
  | s :: r =>
    if isDoubleDot s then resolveDots (done.drop 1) r
    else if isSingleDot s then resolveDots done r
    else resolveDots (s :: done) r

/-- The pieces between slashes. -/
def pieces (special : Bool) (text : List Char) : List (List Char) :=
  Text.fields '/' (text.map fun c => if isSlash special c then '/' else c)

/-- The segments of a path that begins with a slash, or has one understood before it. -/
def parseSegments (special : Bool) (text : List Char) : List String :=
  let body := match text with
    | c :: r => if isSlash special c then r else c :: r
    | [] => []
  (resolveDots [] ((pieces special body).map (escape .path))).map .ofList

/-- The path, the query and the fragment of a text. -/
def parts (text : List Char) : List Char × Option (List Char) × Option (List Char) :=
  let (text, fragment) := match Text.cut? '#' text with
    | some (t, f) => (t, some f)
    | none => (text, none)
  let (text, query) := match Text.cut? '?' text with
    | some (t, q) => (t, some q)
    | none => (text, none)
  (text, query, fragment)

def queryText (special : Bool) (q : List Char) : String :=
  .ofList (escape (if special then .specialQuery else .query) q)

def fragmentText (f : List Char) : String := .ofList (escape .fragment f)

/-- The address of an authority and what follows it. -/
def ofAuthority (scheme : String) (text : List Char) : Except AddressFault Address := do
  let special := isSpecial scheme
  let authority := text.takeWhile (!endsAuthority special ·)
  let rest := text.dropWhile (!endsAuthority special ·)
  let (login, hostAndPort) := credentials authority
  if login = some [] && hostAndPort.isEmpty && !rest.isEmpty then throw .emptyHost
  let (username, password) := userAndPassword (login.getD [])
  let (hostText, afterHost) := hostPart false hostAndPort
  if special && hostText.isEmpty then throw .emptyHost
  let host ← if special then Host.parse hostText else Host.parseOpaque hostText
  if hostText.isEmpty && !afterHost.isEmpty then throw .emptyHost
  let port ← parsePort scheme (afterHost.drop 1)
  if hostText.isEmpty && (username != "" || password != "") then throw .emptyHost
  let (path, query, fragment) := parts rest
  return {
    scheme, username, password
    host := some host
    port
    path := .segments (if !special && path.isEmpty then [] else parseSegments special path)
    query := query.map (queryText special)
    fragment := fragment.map fragmentText }

/-- The address of a file. -/
def ofFile (text : List Char) : Except AddressFault Address := do
  let slashes := text.takeWhile (isSlash true)
  let (hostText, rest) :=
    if 2 ≤ slashes.length then
      ((text.drop 2).takeWhile (!endsAuthority true ·),
        (text.drop 2).dropWhile (!endsAuthority true ·))
    else ([], text)
  let host ← if hostText.isEmpty then pure (Host.name "") else Host.parse hostText
  let host := if host = .name "localhost" then Host.name "" else host
  let (path, query, fragment) := parts rest
  let segments := (parseSegments true path).dropWhile (· == "")
  return {
    scheme := "file", username := "", password := ""
    host := some host
    port := none
    path := .segments (if segments.isEmpty then [""] else segments)
    query := query.map (queryText true)
    fragment := fragment.map fragmentText }

/-- The address of a scheme without a host. -/
def ofOpaque (scheme : String) (text : List Char) : Address :=
  let (path, query, fragment) := parts text
  { scheme, username := "", password := "", host := none, port := none
    path := match path with
      | '/' :: _ => .segments (parseSegments false path)
      | _ => .plain (.ofList (escape .controls path))
    query := query.map (queryText false)
    fragment := fragment.map fragmentText }

/-- A character that is trimmed from the ends. -/
def isEdge (c : Char) : Bool := c.toNat ≤ 0x20

/-- A character that is skipped wherever it stands. -/
def isSkipped (c : Char) : Bool := c == '\t' || c == '\n' || c == '\r'

/-- Reads an address. -/
def parse (text : String) : Except AddressFault Address :=
  let body := (Text.trimEndWhile isEdge (text.toList.dropWhile isEdge)).filter (!isSkipped ·)
  match scheme? body with
  | none => .error .relative
  | some (scheme, rest) =>
    if scheme == "file" then ofFile rest
    else if isSpecial scheme then ofAuthority scheme (rest.dropWhile (isSlash true))
    else match rest with
      | '/' :: '/' :: r => ofAuthority scheme r
      | r => .ok (ofOpaque scheme r)

/-! ## Writing -/

/-- The path and the query, as they are asked for. -/
def target (a : Address) : String :=
  let path := match a.path with
    | .plain text => text
    | .segments names => String.join (names.map ("/" ++ ·))
  path ++ (a.query.map ("?" ++ ·)).getD ""

/-- Scheme, host and port. -/
def origin (a : Address) : String :=
  a.scheme ++ "://" ++ String.ofList ((a.host.map Host.render).getD []) ++
    (a.port.map fun p => ":" ++ toString p).getD ""

def login (a : Address) : String :=
  if a.username.isEmpty && a.password.isEmpty then ""
  else a.username ++ (if a.password.isEmpty then "" else ":" ++ a.password) ++ "@"

def render (a : Address) : String :=
  let front := match a.host with
    | some h => "//" ++ a.login ++ String.ofList h.render ++
        (a.port.map fun p => ":" ++ toString p).getD ""
    | none => ""
  a.scheme ++ ":" ++ front ++ a.target ++ (a.fragment.map ("#" ++ ·)).getD ""

/-- The address of a reference that stands in the answer of another address. -/
def join (a : Address) (reference : String) : Except AddressFault Address :=
  match parse reference with
  | .ok b => .ok b
  | .error .relative =>
    let front := a.scheme ++ "://" ++ a.login ++ String.ofList ((a.host.map Host.render).getD []) ++
      (a.port.map fun p => ":" ++ toString p).getD ""
    let names := match a.path with
      | .plain text => [text]
      | .segments names => names
    match reference.toList with
    | '/' :: '/' :: _ => parse (a.scheme ++ ":" ++ reference)
    | '/' :: _ => parse (front ++ reference)
    | '?' :: _ => parse (front ++ String.join (names.map ("/" ++ ·)) ++ reference)
    | '#' :: _ => parse (front ++ a.target ++ reference)
    | [] => .ok { a with fragment := none }
    | _ => parse (front ++ String.join (names.dropLast.map ("/" ++ ·)) ++ "/" ++ reference)
  | .error e => .error e

end Address

end Volley.Url
