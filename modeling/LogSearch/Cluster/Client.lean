import LogSearch.Cluster.Address
import LogSearch.Cluster.Alias
import LogSearch.Cluster.Response
import LogSearch.Cluster.Error
import LogSearch.Json.Parser
import LogSearch.Text.PercentEncoded

/-!
# Talking to a cluster

A `Cluster` is known by its base URL. Everything asked of one is an `Exchange`: a request, and what
is made of the reply. How the reply is fetched is left to a `Transport`, which may also fail to get
one.

Names of indices and aliases are percent-encoded inside URLs; those of a search are joined by
commas. A status between 200 and 299 is success, and 404 says that something does not exist.
-/

namespace LogSearch

/-! ## Requests and replies -/

inductive HttpMethod where
  | get | head | post
  deriving DecidableEq, Repr

/-- A request over HTTP; what it carries is structured data. -/
structure HttpRequest where
  method : HttpMethod
  url : String
  content : Option Json
  deriving Repr

/-- A reply over HTTP. -/
structure HttpReply where
  status : Nat
  content : String
  deriving DecidableEq, Repr

/-- Why there is no reply. -/
inductive TransportError where
  /-- The reply does not come in time. -/
  | timeout
  /-- There is no connection to the server. -/
  | noConnection
  /-- The request cannot be sent at all. -/
  | unsendable (detail : String)
  deriving DecidableEq, Repr

/-- What comes of a request. -/
abbrev Delivery := Except TransportError HttpReply

/-- Gets replies to requests. -/
abbrev Transport (m : Type → Type) := HttpRequest → m Delivery

/-- The name of a method. -/
def HttpMethod.name : HttpMethod → String
  | .get => "GET"
  | .head => "HEAD"
  | .post => "POST"

/-- Whether a reply says that all went well. -/
def HttpReply.isSuccess (reply : HttpReply) : Bool := 200 ≤ reply.status && reply.status < 300

/-- Whether a reply says that something does not exist. -/
def HttpReply.isNotFound (reply : HttpReply) : Bool := reply.status == 404

/-- The failure that a reply reports. -/
def HttpReply.failure (reply : HttpReply) : BackendError := .api reply.status reply.content

/-- The failure of a backend to which there is no way. -/
def BackendError.ofTransport : TransportError → BackendError
  | .timeout => .timeout
  | .noConnection => .unavailable
  | .unsendable detail => .request detail

/-- What comes of a request where no server can be reached. -/
def unreachable (request : HttpRequest) : Delivery :=
  match addressError? request.url with
  | some e => .error (.unsendable ("builder error: " ++ e.message))
  | none => .error .noConnection

/-! ## Exchanges -/

/-- A request, and what is made of the reply. -/
structure Exchange (α : Type) where
  request : HttpRequest
  read : HttpReply → Except BackendError α

namespace Exchange

/-- What comes of an exchange. -/
def finish {α : Type} (exchange : Exchange α) : Delivery → Except BackendError α
  | .ok reply => exchange.read reply
  | .error e => .error (.ofTransport e)

/-- Carries out an exchange. -/
def run {m : Type → Type} [Monad m] {α : Type} (transport : Transport m)
    (exchange : Exchange α) : m (Except BackendError α) := do
  return exchange.finish (← transport exchange.request)

end Exchange

/-! ## Clusters -/

/-- A cluster, by the URL that all its URLs begin with. -/
structure Cluster where
  baseUrl : String
  deriving DecidableEq, Repr

namespace Cluster

/-- The cluster at a URL; slashes at the end do not count. -/
def ofUrl (url : String) : Cluster :=
  ⟨String.ofList (url.toList.reverse.dropWhile (· == '/')).reverse⟩

/-- The part of a URL that names indices. -/
def nameSegment (names : List String) : List Char :=
  List.intercalate [','] (names.map percentEncode)

/-- The URL below a path of parts. -/
def url (cluster : Cluster) (parts : List (List Char)) : String :=
  cluster.baseUrl ++ String.ofList (parts.flatMap fun part => '/' :: part)

/-- The URL of a search. Indices that have gone, and having no index at all, must not fail it. -/
def searchUrl (cluster : Cluster) (names : List String) : String :=
  cluster.url [nameSegment names, "_search".toList]
    ++ "?ignore_unavailable=true&allow_no_indices=true"

/-- The response that a reply to a search holds. -/
def readResponse (reply : HttpReply) : Except BackendError SearchResponse :=
  if reply.isSuccess then
    match (Json.parseAs? SearchResponse.shape reply.content).bind SearchResponse.ofJson? with
    | some response => .ok response
    | none => .error (.malformed "not a search response")
  else .error reply.failure

/-- Searches indices. -/
def search (cluster : Cluster) (request : SearchRequest) : Exchange SearchResponse where
  request := ⟨.post, cluster.searchUrl request.indices, some request.body⟩
  read := readResponse

/-- Carries out actions on the aliases. -/
def updateAliases (cluster : Cluster) (actions : List AliasAction) : Exchange Unit where
  request :=
    { method := .post
      url := cluster.url ["_aliases".toList]
      content := some (.obj [("actions", .arr (actions.map AliasAction.toJson))]) }
  read reply := if reply.isSuccess then .ok () else .error reply.failure

/-- Moves an alias to a new index. -/
def cycleAlias (cluster : Cluster) (name new : String) (old : Option String) : Exchange Unit :=
  cluster.updateAliases (cycleActions name new old)

/-- Asks whether an index exists. -/
def hasIndex (cluster : Cluster) (index : String) : Exchange Bool where
  request := ⟨.head, cluster.url [percentEncode index], none⟩
  read reply :=
    if reply.isSuccess then .ok true
    else if reply.isNotFound then .ok false
    else .error reply.failure

/-- The least of several names. -/
def leastName : List String → Option String
  | [] => none
  | name :: rest =>
    match leastName rest with
    | none => some name
    | some least => some (if least < name then least else name)

/-- The index that a reply puts an alias on: of several the least name. -/
def readTarget (reply : HttpReply) : Except BackendError (Option String) :=
  if reply.isSuccess then
    match (Json.parse? reply.content).bind Json.fields? with
    | some fields => .ok (leastName (fields.map Prod.fst))
    | none => .error (.malformed "not a map of indices")
  else if reply.isNotFound then .ok none
  else .error reply.failure

/-- Asks for the index of an alias. -/
def aliasTarget (cluster : Cluster) (name : String) : Exchange (Option String) where
  request := ⟨.get, cluster.url ["_alias".toList, percentEncode name], none⟩
  read := readTarget

end Cluster

end LogSearch
