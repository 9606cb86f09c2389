import ClusterTrials.Url.Host
/-!
# Addresses of documents

`Url.ofText` reads an address as people write it, and `Url.text` gives its one normal form: the scheme and
the host are small letters, steps up and down in the path have been taken, the usual port is left out, and
what may not stand in a part is escaped.
-/

namespace ClusterTrials

open Url (Fault Host)

structure Url.Credentials where
  name : List Char
  secret : Option (List Char) := none
  deriving DecidableEq, Repr

structure Url.Authority where
  credentials : Option Url.Credentials := none
  host : Option Host
  port : Option Nat := none
  deriving DecidableEq, Repr

inductive Url.Path
  | segments (segments : List (List Char))
  /-- A text without any structure. -/
  | bare (text : List Char)
  deriving DecidableEq, Repr

structure Url where
  scheme : List Char
  authority : Option Url.Authority := none
  path : Url.Path
  query : Option (List Char) := none
  fragment : Option (List Char) := none
  deriving DecidableEq, Repr

namespace Url

/-- The schemes whose hosts are looked up, and their usual ports. -/
def usualPorts : List (List Char × Nat) :=
  [("http".toList, 80), ("https".toList, 443), ("ws".toList, 80), ("wss".toList, 443),
    ("ftp".toList, 21)]

def fileScheme : List Char := "file".toList

inductive Kind
  /-- There is always a host. -/
  | network
  | file
  | foreign
  deriving DecidableEq, Repr

def Kind.ofScheme (scheme : List Char) : Kind :=
  if (usualPorts.lookup scheme).isSome then .network
  else if scheme = fileScheme then .file
  else .foreign

def Kind.isSeparator (kind : Kind) (c : Char) : Bool := c = '/' || (c = '\\' && kind ≠ .foreign)

def Kind.endsAuthority (kind : Kind) (c : Char) : Bool := kind.isSeparator c || c = '?' || c = '#'

/-! ## Reading -/

def splitScheme? (text : List Char) : Option (List Char × List Char) :=
  let name := text.takeWhile fun c => c.isAlphanum || c = '+' || c = '-' || c = '.'
  match text.drop name.length with
  | ':' :: rest => if name.head?.any Char.isAlpha then some (name.map Char.toLower, rest) else none
  | _ => none

/-- The text before the last at sign, and the text behind it. -/
def splitCredentials (text : List Char) : Option (List Char) × List Char :=
  if '@' ∈ text then
    let host := (text.reverse.takeWhile (· ≠ '@')).reverse
    (some (text.take (text.length - host.length - 1)), host)
  else (none, text)

/-- Reads credentials, which are left out if there is nothing in them. -/
def Credentials.ofText? (text : List Char) : Option Credentials :=
  let name := text.takeWhile (· ≠ ':')
  let secret := text.drop (name.length + 1)
  if name.isEmpty && secret.isEmpty then none
  else some
    { name := escape markedInCredentials name
      secret := if secret.isEmpty then none else some (escape markedInCredentials secret) }

/-- The text before a colon that no bracket is open at, and the text from there on. -/
def splitPort (isOpen : Bool) : List Char → List Char × List Char
  | [] => ([], [])
  | c :: rest =>
    if c = ':' && !isOpen then ([], c :: rest)
    else
      let (host, port) := splitPort (c = '[' || (isOpen && c ≠ ']')) rest
      (c :: host, port)

/-- Reads a port. The usual one counts as none. -/
def readPort (scheme : List Char) : List Char → Except Fault (Option Nat)
  | [] | [':'] => .ok none
  | _ :: digits =>
    match (Text.readDigits? 10 digits).filter (· < 65536) with
    | some port => .ok (if usualPorts.lookup scheme = some port then none else some port)
    | none => .error .portNumber

def Authority.ofText (scheme text : List Char) : Except Fault Authority := do
  let (before, rest) := splitCredentials text
  let credentials := before.bind Credentials.ofText?
  let (host, port) := splitPort false rest
  let isNamed := !host.isEmpty
  match Kind.ofScheme scheme with
  | .network =>
    if !isNamed then throw .emptyHost
    return { credentials, host := some (← Host.ofText host), port := ← readPort scheme port }
  | _ =>
    if !isNamed && (before.isSome || !port.isEmpty) then throw .emptyHost
    let host ← if isNamed then (Host.ofForeignText host).map some else pure none
    return { credentials, host, port := ← readPort scheme port }

/-- Reads the host of a file, which is not written if it is the machine itself. -/
def Authority.ofFileText (text : List Char) : Except Fault Authority := do
  if text.isEmpty then return { host := none }
  let host ← Host.ofText text
  return { host := if host = .name "localhost".toList then none else some host }

/-- Whether a segment names a drive, which no step leads out of. -/
def isDrive : List Char → Bool
  | [c, ':'] | [c, '|'] => c.isAlpha
  | _ => false

def walk (path : List (List Char)) : List (List Char) → List (List Char)
  | [] => path
  | segment :: rest =>
    let step := String.ofList (segment.map Char.toLower)
    let isLast := rest.isEmpty
    if step ∈ ["..", ".%2e", "%2e.", "%2e%2e"] then
      let path := if path.getLast?.any isDrive then path else path.dropLast
      walk (if isLast then path ++ [[]] else path) rest
    else if step ∈ [".", "%2e"] then walk (if isLast then path ++ [[]] else path) rest
    else walk (path ++ [segment]) rest

/-- Reads a path of segments. A separator that it starts with stands before the first one. -/
def Path.ofText (kind : Kind) (text : List Char) : Path :=
  let text := if text.head?.any kind.isSeparator then text.drop 1 else text
  let parts := walk [] ((partsAt kind.isSeparator text).map (escape markedInPath))
  if kind = .file then
    .segments (if parts.all List.isEmpty then [[]] else parts.dropWhile List.isEmpty)
  else .segments parts

def readPlace (scheme text : List Char) : Except Fault (Option Authority × Path) := do
  let kind := Kind.ofScheme scheme
  let slashes := text.takeWhile kind.isSeparator
  let withAuthority (rest : List Char) (read : List Char → Except Fault Authority) :
      Except Fault (Option Authority × Path) := do
    let authority := rest.takeWhile (!kind.endsAuthority ·)
    let path := rest.drop authority.length
    let authority ← read authority
    return (some authority,
      if kind = .foreign && path.isEmpty then .bare [] else Path.ofText kind path)
  match kind with
  | .network => withAuthority (text.drop slashes.length) (Authority.ofText scheme)
  | .file =>
    if 2 ≤ slashes.length then withAuthority (text.drop 2) Authority.ofFileText
    else return (some { host := none }, Path.ofText kind text)
  | .foreign =>
    if 2 ≤ slashes.length then withAuthority (text.drop 2) (Authority.ofText scheme)
    else if slashes.isEmpty then return (none, .bare (escape [] text))
    else return (none, Path.ofText kind text)

/-- Reads an address. Blanks and controls around it do not count, and neither do the ends of lines and tabs
within. -/
def ofText (text : String) : Except Fault Url := do
  let isMargin (c : Char) : Bool := c.toNat ≤ 0x20
  let text := ((text.toList.dropWhile isMargin).reverse.dropWhile isMargin).reverse
  let text := text.filter (· ∉ ['\t', '\n', '\r'])
  match splitScheme? text with
  | none => throw .noScheme
  | some (scheme, rest) =>
    let place := rest.takeWhile fun c => c ≠ '?' && c ≠ '#'
    let rest := rest.drop place.length
    let query := rest.takeWhile (· ≠ '#')
    let fragment := rest.drop query.length
    let (authority, path) ← readPlace scheme place
    let marked := if Kind.ofScheme scheme = .foreign then markedInQuery else '\'' :: markedInQuery
    return {
      scheme, authority, path
      query := if query.isEmpty then none else some (escape marked (query.drop 1))
      fragment :=
        if fragment.isEmpty then none else some (escape markedInFragment (fragment.drop 1)) }

/-! ## Writing -/

def Credentials.write (credentials : Credentials) : List Char :=
  credentials.name ++ (credentials.secret.map (':' :: ·)).getD [] ++ ['@']

def Authority.write (authority : Authority) : List Char :=
  "//".toList ++ (authority.credentials.map Credentials.write).getD [] ++
    (authority.host.map Host.write).getD [] ++
    (authority.port.map fun port => ':' :: (toString port).toList).getD []

/-- Writes a path. Where no authority comes first, it must not look like one. -/
def Path.write (isAlone : Bool) : Path → List Char
  | .bare text => text
  | .segments parts =>
    let text := '/' :: ['/'].intercalate parts
    if isAlone && parts.head? = some [] && 1 < parts.length then "/.".toList ++ text else text

def text (url : Url) : String :=
  String.ofList (url.scheme ++ [':'] ++ (url.authority.map Authority.write).getD [] ++
    url.path.write url.authority.isNone ++ (url.query.map ('?' :: ·)).getD [] ++
    (url.fragment.map ('#' :: ·)).getD [])

def host? (url : Url) : Option Host := url.authority.bind (·.host)

def withoutCredentials (url : Url) : Url :=
  let isText (part : List Char) : Bool := (Text.decode? (unescape part)).isSome
  match url.authority with
  | some authority =>
    if authority.credentials.all fun c =>
        isText c.name && (!c.name.isEmpty || c.secret.any isText) then
      { url with authority := some { authority with credentials := none } }
    else url
  | none => url

/-- Whether a request can name the address: its host has only characters that every reader of requests
takes, and it is not too long. -/
def isRequestable (url : Url) : Bool :=
  let isTaken (c : Char) : Bool := c ∉ ['"', graveAccent, '\x7b', '\x7d']
  (match url.host? with
    | some (.name name) => name.all isTaken
    | _ => true) &&
  ({ url with fragment := none }).text.length < 65535

end Url

end ClusterTrials
