import Deliberation.Url.Basic
/-! References to resources, after the generic syntax of their identifiers. A reference that is not
absolute is resolved against the identifier of the place where it was found. Nothing is escaped here,
and nothing is changed but dots in paths. -/

namespace Deliberation.Url

/-- A reference, which is absolute where it has a scheme. -/
structure Reference where
  scheme : Option (List Char)
  authority : Option (List Char)
  tail : Tail
deriving DecidableEq, Repr

namespace Reference

def isPlain (c : Char) : Bool :=
  c.isAlphanum || "-._~!$&\x27()*+,;=".toList.contains c

/-- Whether a text has escapes, plain characters and those on the list, and no others. -/
def isMadeOf (listed : String) : List Char → Bool
  | '%' :: high :: low :: rest =>
    Hexadecimal.isDigit high && Hexadecimal.isDigit low && isMadeOf listed rest
  | c :: rest => (isPlain c || listed.toList.contains c) && isMadeOf listed rest
  | [] => true

/-- Whether a host in brackets is an address: one of 128 bits, or one of a version to come. -/
def isAddress (text : List Char) : Bool :=
  match text with
  | c :: rest =>
    if c = 'v' ∨ c = 'V' then
      match Text.cut? '.' rest with
      | some (version, address) =>
        version ≠ [] && version.all Hexadecimal.isDigit && address ≠ [] &&
          address.all fun d => isPlain d || d = ':'
      | none => false
    else (Host.ipv6? text).isSome
  | [] => false

/-- Whether a text is an authority: a name and a password, a host, and the number of a service, of
which only the host has to be there. -/
def isAuthority (text : List Char) : Bool :=
  let (user, place) := match Text.cut? '@' text with
    | some (user, place) => (user, place)
    | none => ([], text)
  let (host, service) := cutService false place
  isMadeOf ":" user && (service.getD []).all Numeral.isDigit &&
    if host.head? = some '[' then (Host.bracketed? host).any isAddress else isMadeOf "" host

/-- The scheme of a reference, where its first colon stands behind one, and what follows it. A colon
in the first segment of a path needs a scheme. -/
def cutScheme? (text : List Char) : Option (Option (List Char) × List Char) :=
  match Text.cut? ':' (text.takeWhile fun c => c ≠ '/' && !endsPath c) with
  | none => some (none, text)
  | some (scheme, _) =>
    if isSchemeText scheme then some (some scheme, text.drop (scheme.length + 1)) else none

def cutAuthority (text : List Char) : Option (List Char) × List Char :=
  match Text.after? "//".toList text with
  | some rest =>
    let ends := fun c => c = '/' || endsPath c
    (some (rest.takeWhile (!ends ·)), rest.dropWhile (!ends ·))
  | none => (none, text)

def parse? (text : List Char) : Option Reference := do
  let (scheme, rest) ← cutScheme? text
  let (authority, rest) := cutAuthority rest
  let tail := Tail.ofText rest
  if authority.all isAuthority && isMadeOf ":@/" tail.path &&
      tail.query.all (isMadeOf ":@/?") && tail.fragment.all (isMadeOf ":@/?") then
    some ⟨scheme, authority, tail⟩
  else none

/-- The text of a reference. A path that begins with two slashes could be taken for an authority. -/
def text (r : Reference) : List Char :=
  let place := match r.authority with
    | some authority => "//".toList ++ authority
    | none => if (Text.after? "//".toList r.tail.path).isSome then "/.".toList else []
  (r.scheme.map (· ++ [':'])).getD [] ++ place ++ r.tail.text

/-- The path that remains of more segments, given the pieces before them in reversed order. A piece is
a segment with the slash before it. -/
def leaveDotsAfter (pieces : List (List Char)) : List (List Char) → List Char
  | [] => pieces.reverse.flatten
  | segment :: rest =>
    if Path.isParent segment then
      leaveDotsAfter (if rest = [] then ['/'] :: pieces.tail else pieces.tail) rest
    else if Path.isHere segment then
      leaveDotsAfter (if rest = [] then ['/'] :: pieces else pieces) rest
    else leaveDotsAfter (('/' :: segment) :: pieces) rest

/-- A path without the segments that are dots. Those at the front of one without a slash there have
nothing to leave. -/
def leaveDots (path : List Char) : List Char :=
  let segments := Text.parts (· = '/') path
  if path.head? = some '/' then leaveDotsAfter [] segments.tail
  else match segments.dropWhile fun s => Path.isHere s || Path.isParent s with
    | [] => []
    | first :: rest => leaveDotsAfter [first] rest

def mergePath (base : Reference) (path : List Char) : List Char :=
  if base.authority.isSome ∧ base.tail.path = [] then '/' :: path
  else Text.dropEndWhile (· ≠ '/') base.tail.path ++ path

def resolve (base r : Reference) : Reference :=
  let here := { r.tail with path := leaveDots r.tail.path }
  if r.scheme.isSome then { r with tail := here }
  else if r.authority.isSome then { r with scheme := base.scheme, tail := here }
  else
    let tail :=
      if r.tail.path = [] then
        { r.tail with path := base.tail.path, query := r.tail.query.or base.tail.query }
      else if r.tail.path.head? = some '/' then here
      else { r.tail with path := leaveDots (base.mergePath r.tail.path) }
    { scheme := base.scheme, authority := base.authority, tail := tail }

/-- The reference as the identifier of what is asked for, which has no fragment, and a path where it
has an authority. -/
def asked (r : Reference) : Reference :=
  let path := if r.authority.isSome ∧ r.tail.path = [] then ['/'] else r.tail.path
  { r with tail := { r.tail with path, fragment := none } }

end Reference

end Deliberation.Url
