import CimSchema.Text.Segment

/-!
# Internationalised resource identifiers

An IRI names a thing by a scheme, a place and a path. A reference may leave out parts, which are
then taken from a base. The grammar is that of RFC 3987, and references are resolved as in
section 5.2 of RFC 3986.

## Main definitions

* `IriReference` - the parts of a reference, and `IriReference.parse?`, which reads one.
* `Iri` - a reference with a scheme.
* `Iri.resolve` - what a reference means under a base.
-/

namespace CimSchema

/-- The parts of a reference, each without the character that sets it off. -/
structure IriReference where
  scheme : Option (List Char) := none
  authority : Option (List Char) := none
  path : List Char := []
  query : Option (List Char) := none
  fragment : Option (List Char) := none
  deriving DecidableEq, Repr

/-- A reference with a scheme. -/
structure Iri where
  scheme : List Char
  authority : Option (List Char) := none
  path : List Char := []
  query : Option (List Char) := none
  fragment : Option (List Char) := none
  deriving DecidableEq, Repr

namespace IriReference

/-- The characters beyond ASCII that may stand anywhere in an IRI. -/
def isForeign (c : Char) : Bool :=
  let n := c.toNat
  (0xA0 ≤ n && n ≤ 0xD7FF) || (0xF900 ≤ n && n ≤ 0xFDCF) || (0xFDF0 ≤ n && n ≤ 0xFFEF)
    || (0x10000 ≤ n && n ≤ 0xDFFFD && n % 0x10000 ≤ 0xFFFD) || (0xE1000 ≤ n && n ≤ 0xEFFFD)

/-- The private characters, which only a query may hold. -/
def isPrivate (c : Char) : Bool :=
  let n := c.toNat
  (0xE000 ≤ n && n ≤ 0xF8FF) || (0xF0000 ≤ n && n ≤ 0xFFFFD) || (0x100000 ≤ n && n ≤ 0x10FFFD)

/-- The characters that stand for themselves in a segment of a path. -/
def isPlain (c : Char) : Bool :=
  c.isAlphanum || "-._~!$&'()*+,;=:@".toList.contains c || isForeign c

/-- Whether a digit of base sixteen. -/
def isHexDigit (c : Char) : Bool :=
  c.isDigit || ('a' ≤ c && c ≤ 'f') || ('A' ≤ c && c ≤ 'F')

/-- Whether a text holds only characters that `allowed` allows and octets written as a percent
sign and two digits. -/
def isWritten (allowed : Char → Bool) : List Char → Bool
  | [] => true
  | '%' :: a :: b :: cs => isHexDigit a && isHexDigit b && isWritten allowed cs
  | c :: cs => allowed c && isWritten allowed cs

/-- Whether a group of an IPv6 address. -/
def isHexGroup (cs : List Char) : Bool :=
  !cs.isEmpty && cs.length ≤ 4 && cs.all isHexDigit

/-- Whether one of the four numbers of an IPv4 address. -/
def isOctet (cs : List Char) : Bool :=
  !cs.isEmpty && cs.length ≤ 3 && cs.all Char.isDigit && (cs.length = 1 || cs.head? ≠ some '0')
    && cs.foldl (fun n c => 10 * n + (c.toNat - '0'.toNat)) 0 ≤ 255

/-- Whether an IPv4 address. -/
def isIPv4 (cs : List Char) : Bool :=
  let parts := Text.splitOn '.' cs
  parts.length = 4 && parts.all isOctet

/-- The number of groups that a list of groups makes up; an IPv4 address, which may only be the
last one, counts as two. -/
def groupCount? : List (List Char) → Option Nat
  | [] => some 0
  | [g] => if isHexGroup g then some 1 else if isIPv4 g then some 2 else none
  | g :: gs => if isHexGroup g then (groupCount? gs).map (· + 1) else none

/-- The parts of a text before and after its first `::`. -/
def cutAtGap? : List Char → Option (List Char × List Char)
  | [] => none
  | ':' :: ':' :: cs => some ([], cs)
  | c :: cs => (cutAtGap? cs).map fun (before, after) => (c :: before, after)

/-- The groups of one side of an address; an empty side has none. -/
def groups (cs : List Char) : List (List Char) :=
  if cs.isEmpty then [] else Text.splitOn ':' cs

/-- Whether an IPv6 address. -/
def isIPv6 (cs : List Char) : Bool :=
  match cutAtGap? cs with
  | none => groupCount? (groups cs) = some 8
  | some (before, after) =>
    (groups before).all isHexGroup
      && (match groupCount? (groups after) with
          | some n => (groups before).length + n ≤ 7
          | none => false)

/-- Whether an address of a later version: `v`, digits, a point and some text. -/
def isLaterAddress (cs : List Char) : Bool :=
  match Text.cutAt? '.' (cs.drop 1) with
  | some (version, address) =>
    !version.isEmpty && version.all isHexDigit && !address.isEmpty
      && address.all fun c => c.toNat < 128 && c != '@' && isPlain c
  | none => false

/-- Whether the text after a host is a port. -/
def isPort : List Char → Bool
  | [] => true
  | ':' :: cs => cs.all Char.isDigit
  | _ => false

/-- Whether a host with or without a port. -/
def isHost : List Char → Bool
  | '[' :: cs =>
    match Text.cutAt? ']' cs with
    | some (address, port) =>
      isPort port
        && (if address.head? = some 'v' || address.head? = some 'V' then isLaterAddress address
            else isIPv6 address)
    | none => false
  | cs =>
    let (name, port) := Text.cutOff ':' cs
    isWritten isPlain name && (port.getD []).all Char.isDigit

/-- Whether an authority: a host, with a user in front or not. -/
def isAuthority (cs : List Char) : Bool :=
  match Text.cutAt? '@' cs with
  | some (user, host) => if user.contains '[' then isHost cs else isWritten isPlain user && isHost host
  | none => isHost cs

/-- Whether each part holds only what it may. -/
def isValid (r : IriReference) : Bool :=
  (r.authority.map isAuthority).getD true
    && isWritten (fun c => isPlain c || c = '/') r.path
    && (r.query.map (isWritten fun c => isPlain c || c = '/' || c = '?' || isPrivate c)).getD true
    && (r.fragment.map (isWritten fun c => isPlain c || c = '/' || c = '?')).getD true

/-- The scheme at the start of a text and the text after it. -/
def cutScheme (cs : List Char) : Option (List Char) × List Char :=
  match cs with
  | [] => (none, cs)
  | c :: _ =>
    let scheme := cs.takeWhile fun c => c.isAlphanum || c = '+' || c = '-' || c = '.'
    match cs.drop scheme.length with
    | ':' :: rest => if c.isAlpha then (some scheme, rest) else (none, cs)
    | _ => (none, cs)

/-- The parts that a text is made of. -/
def cut (cs : List Char) : IriReference :=
  let (scheme, rest) := cutScheme cs
  let (rest, fragment) := Text.cutOff '#' rest
  let (rest, query) := Text.cutOff '?' rest
  match rest with
  | '/' :: '/' :: rest =>
    { scheme, authority := some (rest.takeWhile (· ≠ '/')), path := rest.dropWhile (· ≠ '/'),
      query, fragment }
  | path => { scheme, path, query, fragment }

/-- The reference that a text is. -/
def parse? (s : String) : Option IriReference :=
  let r := cut s.toList
  if s.toList.head? ≠ some ':' && r.isValid then some r else none

end IriReference

namespace Iri

/-- The IRI that a text is. -/
def parse? (s : String) : Option Iri := do
  let r ← IriReference.parse? s
  return { r with scheme := ← r.scheme }

/-- A part with the text that sets it off. -/
def setOff (lead : List Char) : Option (List Char) → List Char
  | none => []
  | some part => lead ++ part

/-- The text of an IRI. -/
def toString (i : Iri) : String :=
  String.ofList (i.scheme ++ [':'] ++ setOff ['/', '/'] i.authority ++ i.path
    ++ setOff ['?'] i.query ++ setOff ['#'] i.fragment)

/-- Takes one more segment into a path, which is kept with the last segment first. A segment `..`
takes the one before it away. -/
def takeSegment (path : List (List Char)) (segment : List Char) (isLast : Bool) :
    List (List Char) :=
  let closed (path : List (List Char)) := if isLast then [] :: path else path
  if segment = ['.', '.'] then
    closed (match path with
      | [] | [_] => [[]]
      | _ :: rest => rest)
  else if segment = ['.'] then closed path
  else segment :: path

/-- The segments of a path, the last first, after taking in more of them. -/
def takeSegments (path : List (List Char)) : List (List Char) → List (List Char)
  | [] => path
  | segment :: rest => takeSegments (takeSegment path segment rest.isEmpty) rest

/-- A path without its segments `.` and `..`. -/
def withoutDots (path : List Char) : List Char :=
  match Text.splitOn '/' path with
  | [] => []
  | first :: rest => (['/'] : List Char).intercalate (takeSegments [first] rest).reverse

/-- The path of a reference put after the last slash of the base's path. -/
def mergePath (base : Iri) (path : List Char) : List Char :=
  if base.authority.isSome && base.path.isEmpty then '/' :: path
  else
    match Text.splitLastList? ['/'] base.path with
    | some (before, _) => before ++ '/' :: path
    | none => path

/-- What a reference means under a base. -/
def resolve (base : Iri) (r : IriReference) : Iri :=
  match r.scheme, r.authority with
  | some scheme, authority =>
    { scheme, authority, path := withoutDots r.path, query := r.query, fragment := r.fragment }
  | none, some authority =>
    { base with
      authority := some authority, path := withoutDots r.path, query := r.query,
      fragment := r.fragment }
  | none, none =>
    match r.path with
    | [] => { base with query := r.query <|> base.query, fragment := r.fragment }
    | '/' :: _ =>
      { base with path := withoutDots r.path, query := r.query, fragment := r.fragment }
    | path =>
      { base with
        path := withoutDots (mergePath base path), query := r.query, fragment := r.fragment }

/-- What the reference written as `s` means under a base. -/
def resolveText? (base : Iri) (s : String) : Option String :=
  (IriReference.parse? s).map fun r => (base.resolve r).toString

end Iri

end CimSchema
