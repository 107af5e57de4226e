import Volley.Url.Percent
import Volley.Url.Punycode
import Volley.Text.Case
import Volley.Text.Blank
import Volley.Text.Split
import Volley.Numeral.Integer

/-!
# Hosts

The host of an address is a name, an IPv4 address or an IPv6 address. A name whose last label is a
number has to be an IPv4 address. Names beyond ASCII are folded to lower case and written in ASCII.
-/

namespace Volley.Url

/-- Why a text is no address. -/
inductive AddressFault where
  | relative
  | emptyHost
  | port
  | ipv6
  | ipv4
  | domain
  | hostCharacter
  deriving DecidableEq, Repr

def AddressFault.message : AddressFault → String
  | .relative => "relative URL without a base"
  | .emptyHost => "empty host"
  | .port => "invalid port number"
  | .ipv6 => "invalid IPv6 address"
  | .ipv4 => "invalid IPv4 address"
  | .domain => "invalid international domain name"
  | .hostCharacter => "invalid domain character"

inductive Host where
  | name (text : String)
  | ipv4 (n : Nat)
  | ipv6 (pieces : List Nat)
  deriving DecidableEq, Repr

namespace Host

/-! ## IPv4 -/

/-- One number of an IPv4 address: hexadecimal, octal or decimal. The inner `none` is a number that
does not fit in 32 bits. -/
def number? (text : List Char) : Option (Option Nat) :=
  let (base, ds) := match text with
    | '0' :: 'x' :: r => (16, r)
    | '0' :: 'X' :: r => (16, r)
    | '0' :: c :: r => (8, c :: r)
    | r => (10, r)
  if text.isEmpty then none
  else
    let values := ds.map fun c => (Text.Hex.value? c).getD 16
    if !values.all (· < base) then none
    else
      let n := values.foldl (fun n d => n * base + d) 0
      some (if n < 0x100000000 then some n else none)

/-- The labels of a name, without an empty last one. -/
def labels (text : List Char) : List (List Char) :=
  let ls := Text.fields '.' text
  if ls.getLast? = some [] then ls.dropLast else ls

/-- Whether the last label is a number. -/
def endsInNumber (text : List Char) : Bool :=
  match (labels text).getLast? with
  | some l => (!l.isEmpty && l.all Char.isDigit) || (number? l).isSome
  | none => false

def parseIpv4 (text : List Char) : Except AddressFault Host :=
  let numbers := (labels text).map fun l => (number? l).bind id
  if 4 < numbers.length then .error .ipv4
  else match numbers.mapM id with
    | none => .error .ipv4
    | some ns =>
      let last := ns.getLastD 0
      let front := ns.dropLast
      if Nat.pow 256 (4 - front.length) ≤ last || front.any (255 < ·) then .error .ipv4
      else
        let high := front.zipIdx.foldl (fun high (n, i) => high + n * Nat.pow 256 (3 - i)) 0
        .ok (.ipv4 (high + last))

/-! ## IPv6 -/

/-- A group of up to four hexadecimal digits. -/
def group? (text : List Char) : Option Nat :=
  if text.isEmpty || 4 < text.length then none
  else (text.mapM Text.Hex.value?).map (·.foldl (fun n d => n * 16 + d) 0)

/-- A decimal byte without leading zeros. -/
def byte? (text : List Char) : Option Nat :=
  if text.isEmpty || 3 < text.length || !text.all Char.isDigit then none
  else if text.length != 1 && text.head? == some '0' then none
  else
    let n := text.foldl (fun n c => n * 10 + (c.toNat - 48)) 0
    if n < 256 then some n else none

/-- Groups between colons; the last one may be an IPv4 address, which counts as two. -/
def groups? : List (List Char) → Option (List Nat)
  | [] => some []
  | [l] =>
    if l.contains '.' then
      match (Text.fields '.' l).mapM byte? with
      | some [a, b, c, d] => some [a * 256 + b, c * 256 + d]
      | _ => none
    else (group? l).map fun g => [g]
  | l :: ls => do
    let g ← group? l
    let gs ← groups? ls
    return g :: gs

/-- Groups between colons, none for an empty text. -/
def run? (text : List Char) : Option (List Nat) :=
  if text.isEmpty then some [] else groups? (Text.fields ':' text)

/-- The text before and after the first double colon. -/
def cutGap? : List Char → Option (List Char × List Char)
  | ':' :: ':' :: r => some ([], r)
  | c :: r => (cutGap? r).map fun (a, b) => (c :: a, b)
  | [] => none

def parseIpv6 (text : List Char) : Except AddressFault Host :=
  match cutGap? text with
  | none =>
    match run? text with
    | some gs => if gs.length = 8 then .ok (.ipv6 gs) else .error .ipv6
    | none => .error .ipv6
  | some (before, after) =>
    if before.contains '.' then .error .ipv6
    else match run? before, run? after with
      | some f, some g =>
        if 8 ≤ f.length + g.length then .error .ipv6
        else .ok (.ipv6 (f ++ List.replicate (8 - f.length - g.length) 0 ++ g))
      | _, _ => .error .ipv6

/-- The longest run of zero groups, two at least: where it begins and how long it is. -/
def gap (pieces : List Nat) : Option (Nat × Nat) :=
  let runs := pieces.zipIdx.map fun (_, i) => (i, ((pieces.drop i).takeWhile (· == 0)).length)
  runs.foldl (fun best (i, n) =>
    if n < 2 then best
    else match best with
      | some (j, m) => if m < n then some (i, n) else some (j, m)
      | none => some (i, n)) none

def renderIpv6 (pieces : List Nat) : List Char :=
  let groups (ps : List Nat) : List Char :=
    [':'].intercalate (ps.map fun p => (Nat.toDigits 16 p))
  match gap pieces with
  | none => groups pieces
  | some (i, n) => groups (pieces.take i) ++ [':', ':'] ++ groups (pieces.drop (i + n))

/-! ## Names -/

/-- The characters that no name holds. -/
def isForbidden (c : Char) : Bool :=
  c.toNat ≤ 0x20 || c.toNat == 0x7F ||
    ['%', '#', '/', ':', '<', '>', '?', '@', '[', '\\', ']', '^', '\x60', '\x7b', '|',
      '\x7d'].contains c

/-- Characters that are left out of a name. -/
def isIgnored (c : Char) : Bool :=
  let n := c.toNat
  n == 0xAD || n == 0x200B || n == 0x2060 || n == 0xFEFF || (0xFE00 ≤ n && n ≤ 0xFE0F)

/-- Characters beyond ASCII that no name holds. -/
def isDisallowed (c : Char) : Bool :=
  let n := c.toNat
  (0x80 ≤ n && n ≤ 0x9F) || (0x80 ≤ n && Text.isBlank c) || n == 0xFFFD ||
    (0x200E ≤ n && n ≤ 0x200F) || (0x202A ≤ n && n ≤ 0x202E) || (0x2066 ≤ n && n ≤ 0x206F) ||
    (0xE000 ≤ n && n ≤ 0xF8FF) || 0xE0000 ≤ n || n % 0x10000 == 0xFFFE || n % 0x10000 == 0xFFFF ||
    (0xFDD0 ≤ n && n ≤ 0xFDEF)

/-- A character of a name in its folded form. -/
def fold (c : Char) : List Char :=
  let n := c.toNat
  if isIgnored c then []
  else if n == 0x3002 || n == 0xFF0E || n == 0xFF61 then ['.']
  else if 0xFF01 ≤ n && n ≤ 0xFF5E then Text.lowerChar (Char.ofNat (n - 0xFEE0))
  else Text.lowerChar c

def isAscii (text : List Char) : Bool := text.all (·.toNat < 128)

/-- A label of a name, in ASCII. -/
def label? (l : List Char) : Option (List Char) :=
  if !isAscii l then some ("xn--".toList ++ Punycode.encode l)
  else match Text.dropPrefix? "xn--".toList l with
    | some body =>
      match Punycode.decode? body with
      | some u => if isAscii u || u.any isDisallowed || u.flatMap fold != u then none else some l
      | none => none
    | none => some l

/-- A name in ASCII. -/
def domain? (bytes : List UInt8) : Option (List Char) := do
  let text ← Text.Utf8.decode? bytes
  let folded := text.flatMap fold
  if folded.any fun c => isForbidden c || isDisallowed c then none
  else
    let ls ← (Text.fields '.' folded).mapM label?
    return ['.'].intercalate ls

/-- The host of an address with a well-known scheme. -/
def parse (text : List Char) : Except AddressFault Host :=
  match text with
  | '[' :: r =>
    if r.getLast? = some ']' then parseIpv6 r.dropLast else .error .ipv6
  | _ =>
    match domain? (unescape text) with
    | none => .error .domain
    | some d =>
      if d.isEmpty then .error .emptyHost
      else if endsInNumber d then parseIpv4 d
      else .ok (.name (.ofList d))

/-- The characters that the host of an unknown scheme may not hold. -/
def isForbiddenOpaque (c : Char) : Bool :=
  ['\x00', '\t', '\n', '\r', ' ', '#', '/', ':', '<', '>', '?', '@', '[', '\\', ']', '^',
    '|'].contains c

/-- The host of an address with an unknown scheme. -/
def parseOpaque (text : List Char) : Except AddressFault Host :=
  match text with
  | '[' :: r =>
    if r.getLast? = some ']' then parseIpv6 r.dropLast else .error .ipv6
  | _ =>
    if text.any isForbiddenOpaque then .error .hostCharacter
    else .ok (.name (.ofList (escape .controls text)))

def render : Host → List Char
  | name text => text.toList
  | ipv4 n =>
    ['.'].intercalate
      ([n / 0x1000000, n / 0x10000 % 256, n / 0x100 % 256, n % 256].map Numeral.decimal)
  | ipv6 pieces => '[' :: renderIpv6 pieces ++ [']']

end Host

end Volley.Url
