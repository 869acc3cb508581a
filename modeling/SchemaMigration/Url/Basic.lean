import SchemaMigration.Text.Blank
import SchemaMigration.Url.Address
import SchemaMigration.Url.Path

/-!
# URLs

The URLs of databases. Their schemes are not among those for which browsers have
rules of their own, so the host is any text without certain characters, or an
address between brackets.
-/

namespace SchemaMigration

open Text Number

inductive UrlError
  | relative
  | emptyHost
  | invalidHost
  | invalidAddress
  | invalidPort
  deriving DecidableEq, Repr

def UrlError.message : UrlError → String
  | .relative => "relative URL without a base"
  | .emptyHost => "empty host"
  | .invalidHost => "invalid domain character"
  | .invalidAddress => "invalid IPv6 address"
  | .invalidPort => "invalid port number"

namespace Url

/-- User, password, host and port; all but the port percent-encoded. -/
structure Authority where
  username : List Char := []
  password : Option (List Char) := none
  host : List Char := []
  port : Option Nat := none
  deriving DecidableEq, Repr

end Url

open Url

/-- A URL. Without an authority the path is the rest of the text. -/
structure Url where
  scheme : List Char
  authority : Option Authority
  path : List Char
  query : Option (List Char) := none
  fragment : Option (List Char) := none
  deriving DecidableEq, Repr

namespace Url

/-! ## Reading -/

/-- The scheme in lower case, and what follows its colon. -/
def readScheme? (cs : List Char) : Option (List Char × List Char) :=
  let isSchemeChar (c : Char) : Bool := c.isAlphanum || c == '+' || c == '-' || c == '.'
  let (scheme, rest) := cs.span isSchemeChar
  match scheme, rest with
  | first :: _, ':' :: rest =>
    if first.isAlpha then some (scheme.map Char.toLower, rest) else none
  | _, _ => none

def endsAuthority (c : Char) : Bool := c == '/' || c == '?' || c == '#'

def forbiddenInHost : List Char := "\x00\t\n\r #/:<>?@[\\]^|".toList

def readHost (cs : List Char) : Except UrlError (List Char) :=
  match cs with
  | '[' :: rest =>
    if rest.getLast? = some ']' then
      match Address.read? rest.dropLast with
      | some a => .ok ('[' :: a.write ++ [']'])
      | none => .error .invalidAddress
    else .error .invalidAddress
  | cs =>
    if cs.any forbiddenInHost.contains then .error .invalidHost
    else .ok (encode controlSet cs)

/-- The host ends at a colon outside brackets. -/
def splitHost : Bool → List Char → List Char × List Char
  | _, [] => ([], [])
  | inside, c :: rest =>
    if c = ':' ∧ !inside then ([], c :: rest)
    else
      let inside := if c = '[' then true else if c = ']' then false else inside
      let (host, after) := splitHost inside rest
      (c :: host, after)

/-- The port after the host; none at all is allowed. A backslash ends it. -/
def readPort (cs : List Char) : Except UrlError (Option Nat × List Char) :=
  match cs with
  | ':' :: rest =>
    let (digits, rest) := rest.span Char.isDigit
    let n := natOfDigits 10 digits
    if 65535 < n then .error .invalidPort
    else
      match rest with
      | [] | '\\' :: _ => .ok (if digits = [] then none else some n, rest)
      | _ => .error .invalidPort
  | cs => .ok (none, cs)

/-- The user name and the password before the last `@`. -/
def readUserinfo (cs : List Char) : List Char × Option (List Char) :=
  match splitFirst? ':' cs with
  | some (name, []) => (encode userinfoSet name, none)
  | some (name, password) => (encode userinfoSet name, some (encode userinfoSet password))
  | none => (encode userinfoSet cs, none)

/-- Reads an authority, and gives what follows the port. `more` tells whether a path,
a query or a fragment follows. -/
def readAuthority (more : Bool) (cs : List Char) : Except UrlError (Authority × List Char) := do
  let (userinfo, hostPort) := match splitLast? '@' cs with
    | some (before, after) => (some before, after)
    | none => (none, cs)
  if userinfo = some [] ∧ hostPort = [] ∧ more then throw .emptyHost
  let (username, password) := readUserinfo (userinfo.getD [])
  let (hostText, afterHost) := splitHost false hostPort
  let host ← readHost hostText
  if host = [] ∧ afterHost ≠ [] then throw .emptyHost
  let (port, rest) ← readPort afterHost
  if host = [] ∧ (username ≠ [] ∨ password.isSome) then throw .emptyHost
  return ({ username, password, host, port }, rest)

/-- Everything up to the first `#`, and the encoded fragment. -/
def splitFragment (cs : List Char) : List Char × Option (List Char) :=
  match splitFirst? '#' cs with
  | some (before, fragment) => (before, some (encode fragmentSet fragment))
  | none => (cs, none)

/-- Everything up to the first `?`, and the encoded query. -/
def splitQuery (cs : List Char) : List Char × Option (List Char) :=
  match splitFirst? '?' cs with
  | some (before, query) => (before, some (encode querySet query))
  | none => (cs, none)

/-- Controls and spaces at the ends do not count. -/
def trimControls (cs : List Char) : List Char :=
  let isTrimmed (c : Char) : Bool := c.toNat ≤ 0x20
  ((cs.dropWhile isTrimmed).reverse.dropWhile isTrimmed).reverse

def read (source : String) : Except UrlError Url := do
  let cs := (trimControls source.toList).filter (!isDropped ·)
  match readScheme? cs with
  | none => throw .relative
  | some (scheme, rest) =>
    match rest with
    | '/' :: '/' :: rest =>
      let (authorityText, rest) := rest.span (!endsAuthority ·)
      let (authority, afterPort) ← readAuthority (rest ≠ []) authorityText
      let (rest, fragment) := splitFragment (afterPort ++ rest)
      let (path, query) := splitQuery rest
      let path := if path = [] then [] else readPath path
      return { scheme, authority := some authority, path, query, fragment }
    | rest =>
      let (rest, fragment) := splitFragment rest
      let (path, query) := splitQuery rest
      let path := if path.head? = some '/' then readPath path else encode controlSet path
      return { scheme, authority := none, path, query, fragment }

/-! ## Changing parts -/

def hasHost (url : Url) : Bool := url.authority.any (·.host ≠ [])

/-- Changes the authority of a URL that has a host. -/
def update? (change : Authority → Authority) (url : Url) : Option Url :=
  if url.hasHost then some { url with authority := url.authority.map change } else none

def setPort? (port : Option Nat) : Url → Option Url := update? ({ · with port })

/-- A name that is there already in its encoded form stays. -/
def setUsername? (name : String) : Url → Option Url :=
  update? fun a =>
    if a.username = name.toList then a
    else { a with username := encode userinfoSet name.toList }

/-- An empty password is none. -/
def setPassword? (password : String) : Url → Option Url :=
  update? fun a =>
    { a with password := if password = "" then none else some (encode userinfoSet password.toList) }

/-- A path that starts like a query or a fragment is left out. -/
def setPath (path : String) (url : Url) : Url :=
  let cs := path.toList.filter (!isDropped ·)
  let path := match cs with
    | [] | '?' :: _ | '#' :: _ => []
    | cs => readPath cs
  { url with path }

/-! ## Writing -/

def Authority.write (a : Authority) : List Char :=
  let password := match a.password with
    | some p => ':' :: p
    | none => []
  let userinfo := if a.username = [] ∧ a.password = none then [] else a.username ++ password ++ ['@']
  let port := match a.port with
    | some n => ':' :: decimalDigits n
    | none => []
  userinfo ++ a.host ++ port

def write (url : Url) : String :=
  let authority := match url.authority with
    | some a => '/' :: '/' :: a.write
    | none => []
  let marked (mark : Char) : Option (List Char) → List Char
    | some part => mark :: part
    | none => []
  String.ofList
    (url.scheme ++ ':' :: authority ++ url.path ++ marked '?' url.query ++ marked '#' url.fragment)

end Url

end SchemaMigration
