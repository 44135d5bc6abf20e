import LogSearch.Cluster.Host

/-!
# Addresses of servers

Before a request can be sent its URL must name a server: a scheme that is spoken, a host, and
perhaps a port. `addressError?` says what is wrong with a URL.

Controls and blanks around a URL do not count, and neither do tabs and line breaks inside of it.
-/

namespace LogSearch

/-- What is wrong with the address in a URL. -/
inductive AddressError where
  /-- There is no scheme, so the URL stands for a place below another. -/
  | relative
  /-- The scheme is not spoken. -/
  | foreignScheme
  | badHost (reason : HostError)
  | badPort
  deriving DecidableEq, Repr

/-- The text of the error. -/
def AddressError.message : AddressError → String
  | .relative => "relative URL without a base"
  | .foreignScheme => "URL scheme is not allowed"
  | .badHost reason => reason.message
  | .badPort => "invalid port number"

/-! ## Parts of a URL -/

/-- Controls, and the blank. -/
def isControlOrBlank (c : Char) : Bool := c.toNat ≤ 0x20

/-- Characters that are passed over wherever they stand. -/
def isPassedOver (c : Char) : Bool := c == '\t' || c == '\n' || c == '\r'

/-- The characters of a URL that count. -/
def significant (url : List Char) : List Char :=
  let front := url.dropWhile isControlOrBlank
  (front.reverse.dropWhile isControlOrBlank).reverse.filter (!isPassedOver ·)

/-- Characters after the first of a scheme. -/
def isSchemeChar (c : Char) : Bool := c.isAlphanum || c == '+' || c == '-' || c == '.'

/-- The scheme of a URL in lower case, and what follows its colon. -/
def splitScheme? (url : List Char) : Option (String × List Char) :=
  let scheme := url.takeWhile isSchemeChar
  match scheme, url.drop scheme.length with
  | first :: _, ':' :: rest =>
    if first.isAlpha then some (String.ofList (scheme.map Char.toLower), rest) else none
  | _, _ => none

/-- Slashes of either kind. -/
def isSlash (c : Char) : Bool := c == '/' || c == '\\'

/-- The server that a URL names, from what follows the scheme; slashes before it do not count. -/
def authorityOf (rest : List Char) : List Char :=
  (rest.dropWhile isSlash).takeWhile fun c => !isSlash c && c != '?' && c != '#'

/-- What follows the last of a character, or everything if there is none. -/
def afterLast (mark : Char) (cs : List Char) : List Char :=
  (cs.reverse.takeWhile (· != mark)).reverse

/-- Splits a host from what follows its colon; a colon within brackets belongs to the host. -/
def splitPort : (bracketed : Bool) → List Char → List Char × List Char
  | _, [] => ([], [])
  | bracketed, c :: rest =>
    if c = ':' ∧ ¬bracketed then ([], rest)
    else
      let (host, port) := splitPort (if c = '[' then true else if c = ']' then false else bracketed)
        rest
      (c :: host, port)

/-- Whether a text can be a port; no port at all is one. -/
def isPort (port : List Char) : Bool := port.all Char.isDigit && natOfDigits 0 port ≤ 65535

/-! ## Errors -/

/-- What is wrong with the address in a URL, if anything. -/
def addressError? (url : String) : Option AddressError :=
  match splitScheme? (significant url.toList) with
  | none => some .relative
  | some (scheme, rest) =>
    if scheme != "http" && scheme != "https" then some .foreignScheme
    else
      let (host, port) := splitPort false (afterLast '@' (authorityOf rest))
      match Host.parse host with
      | .error reason => some (.badHost reason)
      | .ok _ => if isPort port then none else some .badPort

end LogSearch
