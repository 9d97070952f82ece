/-
# Proxy.Handle — one request through the agent's proxy

`handle` refuses while the agent shuts down, looks the Host value up, and relays the
request to the backend of the route, as HTTP or, for a WebSocket upgrade, as a tunnel. An
`Exchange` records what came of a request: the response, whom the proxy asked a connection
of, and what it handed over.

What the network does is a parameter (`Network`): how a URI parses, what a backend answers
to a request, whether an address resolves and a connection opens, and whether a message can
be built from its parts.
-/
import Tailroute.Proxy.HostHeader
import Tailroute.Proxy.ForwardedHeaders

namespace Tailroute.Proxy

open Tailroute.Theory Tailroute.Common Tailroute.Dns

set_option autoImplicit false

/-! ## Header maps, value by value -/

namespace HeaderMap

/-- `HeaderMap::append`: the value comes after the earlier ones of the name. -/
def append (m : HeaderMap) (name : Text) (v : HeaderValue) : HeaderMap :=
  match m.find? name with
  | some values => m.upsert name ⟨values.first, values.extra ++ [v]⟩
  | none => m.upsert name ⟨v, []⟩

/-- `HeaderMap::iter`. -/
def entries (m : HeaderMap) : List (Text × HeaderValue) :=
  m.rows.flatMap fun row => (row.2.first :: row.2.extra).map fun v => (row.1, v)

def appendAll (m : HeaderMap) (added : List (Text × HeaderValue)) : HeaderMap :=
  added.foldl (fun m entry => append m entry.1 entry.2) m

/-- The values that a list of entries has for a name. -/
def valuesOf (added : List (Text × HeaderValue)) (name : Text) : List HeaderValue :=
  (added.filter fun entry => decide (entry.1 = name)).map Prod.snd

theorem getAll_append (m : HeaderMap) (name other : Text) (v : HeaderValue) :
    getAll (append m name v) other = getAll m other ++ if name = other then [v] else [] := by
  unfold append
  by_cases same : other = name
  · subst same
    cases found : m.find? other <;> simp [getAll, found, Table.find?_upsert]
  · have apart : name ≠ other := fun equal => same equal.symm
    cases m.find? name <;> simp [getAll, Table.find?_upsert, same, apart]

theorem getAll_appendAll (m : HeaderMap) (added : List (Text × HeaderValue)) (name : Text) :
    getAll (appendAll m added) name = getAll m name ++ valuesOf added name := by
  induction added generalizing m with
  | nil => simp [appendAll, valuesOf]
  | cons entry rest ih =>
      have step : appendAll m (entry :: rest) = appendAll (append m entry.1 entry.2) rest := rfl
      rw [step, ih, getAll_append, List.append_assoc]
      congr 1
      by_cases same : entry.1 = name <;> simp [valuesOf, same]

theorem valuesOf_flatMap_of_absent {rows : List (Text × Values)} {name : Text}
    (absent : name ∉ rows.map Prod.fst) :
    valuesOf (rows.flatMap fun row => (row.2.first :: row.2.extra).map fun v => (row.1, v))
      name = [] := by
  rw [valuesOf, List.map_eq_nil_iff, List.filter_eq_nil_iff]
  intro entry listed
  obtain ⟨row, member, made⟩ := List.mem_flatMap.mp listed
  obtain ⟨v, -, rfl⟩ := List.mem_map.mp made
  simp only [decide_eq_true_eq]
  rintro rfl
  exact absent (List.mem_map_of_mem member)

/-- Iterating over a map meets each name's values in their order. -/
theorem valuesOf_entries (m : HeaderMap) (name : Text) :
    valuesOf (entries m) name = getAll m name := by
  cases found : m.find? name with
  | none =>
      rw [getAll, found]
      exact valuesOf_flatMap_of_absent (Table.find?_eq_none_iff.mp found)
  | some values =>
      obtain ⟨before, after, split⟩ := List.append_of_mem (Table.find?_eq_some_iff.mp found)
      have unique := m.keysNodup
      rw [split, List.map_append, List.map_cons, List.nodup_middle, List.nodup_cons,
        List.mem_append, not_or] at unique
      have both := unique.1
      rw [getAll, found, entries, split, List.flatMap_append, List.flatMap_cons]
      have pieces : ∀ xs ys, valuesOf (xs ++ ys) name = valuesOf xs name ++ valuesOf ys name := by
        intro xs ys
        rw [valuesOf, List.filter_append, List.map_append]
        rfl
      rw [pieces, pieces, valuesOf_flatMap_of_absent both.1, valuesOf_flatMap_of_absent both.2,
        List.nil_append, List.append_nil]
      simp [valuesOf, List.filter_map, Function.comp_def]

end HeaderMap

/-! ## Messages -/

/-- The text of an ASCII value. -/
def asciiText (bytes : List UInt8) : Text := bytes.map fun b => Char.ofNat b.toNat

/-- A header's first value, if it is text. -/
def headerText (m : HeaderMap) (name : Text) : Option Text :=
  ((HeaderMap.get m name).bind HeaderValue.toStr).map asciiText

/-- The Host value names the host, perhaps with a port after a colon. -/
def Names (value host : Text) : Prop := value = host ∨ ∃ port, value = host ++ ':' :: port

/-- What follows the colon does not matter for the lookup. -/
theorem resolveKey_of_names {value host : Text} (names : Names value host)
    (portless : ':' ∉ host) : resolveKey value = toAsciiLowercase host := by
  rcases names with rfl | ⟨port, rfl⟩
  · exact resolveKey_of_portless portless
  · rw [resolveKey, List.takeWhile_append_of_pos]
    · simp
    · intro c member
      rw [bne_iff_ne]
      rintro rfl
      exact portless member

/-- `http::Version` of a message on an HTTP/1 connection. -/
inductive Version where
  | http10
  | http11
deriving DecidableEq

/-- A request. `pathAndQuery` is that of its URI, which has no fragment: `none` for the target
of a CONNECT, and `*` for that of `OPTIONS *`. -/
structure ProxyRequest where
  method : Text
  pathAndQuery : Option Text
  version : Version
  headers : HeaderMap
  unfragmented : '#' ∉ pathAndQuery.getD []

/-- `path_q`. -/
def ProxyRequest.target (req : ProxyRequest) : Text := req.pathAndQuery.getD "/".toList

structure ProxyResponse where
  status : Nat
  version : Version
  headers : HeaderMap
  body : List UInt8

/-- A request as it is given to the HTTP client, which connects to `authority`, or written to a
connection that is open. -/
structure Contact where
  authority : Text
  method : Text
  target : Text
  version : Version
  headers : HeaderMap

/-! ## The network -/

/-- The parts of a `hyper::Uri` that the client goes by. -/
structure Uri where
  authority : Text
  pathAndQuery : Text
deriving DecidableEq

/-- The characters that may stand in an authority. -/
def inAuthority (c : Char) : Bool := !(c == '/' || c == '?' || c == '#')

/-- `parse::<hyper::Uri>()`. What it makes of an `http` URI without a fragment: the authority
goes up to the path or the query, and an empty rest reads `/`. -/
structure UriParser where
  parse : Text → Option Uri
  splits : ∀ text uri, '#' ∉ text → parse ("http://".toList ++ text) = some uri →
    uri.authority = text.takeWhile inAuthority ∧
      uri.pathAndQuery =
        if text.dropWhile inAuthority = [] then "/".toList else text.dropWhile inAuthority

/-- The result of `client.request` under the response timeout. -/
inductive HttpOutcome where
  | response (answer : ProxyResponse)
  | error (message : Text)
  | elapsed

/-- The result of connecting under the connect timeout. -/
inductive ConnectOutcome where
  | connected
  | refused
  | elapsed
deriving DecidableEq

structure Network where
  uri : UriParser
  request : Contact → HttpOutcome
  /-- `builder.body(..)` succeeds on a response with these headers. -/
  builds : HeaderMap → Bool
  /-- The same of a request for this target. -/
  buildsRequest : Text → HeaderMap → Bool
  parseSocketAddr : Text → Option SocketAddr
  /-- `lookup_host`: `none` is an error. -/
  lookupHost : Text → Option (List SocketAddr)
  connect : SocketAddr → ConnectOutcome
  handshake : SocketAddr → Bool
  /-- `send_request`: `none` is an error. -/
  send : Contact → Option ProxyResponse

structure ProxyConfig where
  routes : SharedRouteStore
  shuttingDown : Bool

/-- What came of a request: the answer, the authorities a connection was asked for, the
requests handed over, and whether a tunnel was set up. -/
structure Exchange where
  response : ProxyResponse
  dialed : List Text
  sent : List Contact
  tunnelled : Bool

def contentType : Text := "content-type".toList
def cacheControl : Text := "cache-control".toList
def transferEncoding : Text := "transfer-encoding".toList

def plainText : HeaderValue := ⟨asciiBytes "text/plain; charset=utf-8".toList, by decide⟩
def noStore : HeaderValue := ⟨asciiBytes "no-store".toList, by decide⟩
def noCache : HeaderValue := ⟨asciiBytes "no-store, no-cache, must-revalidate".toList, by decide⟩

/-- An answer of the proxy's own. -/
inductive Notice where
  | shuttingDown
  | unknownHost
  | badRequest
  | unavailable
  | timeout
deriving DecidableEq

def Notice.status : Notice → Nat
  | shuttingDown => 503
  | unknownHost => 404
  | badRequest => 400
  | unavailable => 502
  | timeout => 504

def Notice.text : Notice → Text
  | shuttingDown => "agent shutting down".toList
  | unknownHost => "unknown tailsvc host".toList
  | badRequest => "bad request".toList
  | unavailable => "backend unavailable".toList
  | timeout => "backend timeout".toList

def textResponse (notice : Notice) : ProxyResponse where
  status := notice.status
  version := .http11
  headers := HeaderMap.append (HeaderMap.append .empty contentType plainText) cacheControl noStore
  body := asciiBytes notice.text

/-- The request ends with a notice; nobody was connected to. -/
def refuse (notice : Notice) : Exchange := ⟨textResponse notice, [], [], false⟩

/-! ## The handler -/

def isWebsocketUpgrade (req : ProxyRequest) : Bool :=
  let upgrade := ((headerText req.headers "upgrade".toList).map fun s =>
    decide (toAsciiLowercase s = "websocket".toList)).getD false
  let connection := ((headerText req.headers "connection".toList).map fun s =>
    decide ("upgrade".toList <:+: toAsciiLowercase s)).getD false
  upgrade && connection

/-- The headers of an answer as they are passed on. -/
def relayedHeaders (answer : ProxyResponse) : HeaderMap :=
  HeaderMap.appendAll (HeaderMap.append .empty cacheControl noCache)
    ((HeaderMap.entries answer.headers).filter fun entry => decide (entry.1 ≠ transferEncoding))

/-- The answer of a backend, streamed on. -/
def relay (net : Network) (answer : ProxyResponse) : ProxyResponse :=
  if net.builds (relayedHeaders answer) then { answer with headers := relayedHeaders answer }
  else textResponse .unavailable

def mentionsTimeout (message : Text) : Bool :=
  let msg := toAsciiLowercase message
  decide ("timeout".toList <:+: msg) || decide ("timed out".toList <:+: msg)

def proxyHttp (net : Network) (peer : SocketAddr) (req : ProxyRequest) (route : BackendRoute) :
    Exchange :=
  match net.uri.parse ("http://".toList ++ (route.backend.authority ++ req.target)) with
  | none => refuse .badRequest
  | some uri =>
      let contact : Contact :=
        ⟨uri.authority, req.method, uri.pathAndQuery, req.version, forwardHeaders req.headers peer⟩
      match net.request contact with
      | .response answer => ⟨relay net answer, [uri.authority], [contact], false⟩
      | .error message =>
          let notice := if mentionsTimeout message then Notice.timeout else .unavailable
          ⟨textResponse notice, [uri.authority], [contact], false⟩
      | .elapsed => ⟨textResponse .timeout, [uri.authority], [contact], false⟩

def resolveAuthority (net : Network) (authority : Text) : Option SocketAddr :=
  (net.parseSocketAddr authority).or ((net.lookupHost authority).bind List.head?)

/-- The answer of a backend that switches protocols. -/
def switchResponse (net : Network) (answer : ProxyResponse) : ProxyResponse :=
  let headers := HeaderMap.appendAll .empty (HeaderMap.entries answer.headers)
  if net.builds headers then ⟨101, .http11, headers, []⟩ else textResponse .unavailable

/-- The request that asks the backend for the upgrade. -/
def upgradeRequest (peer : SocketAddr) (req : ProxyRequest) (route : BackendRoute) : Contact :=
  ⟨route.backend.authority, "GET".toList, req.target, .http11,
    HeaderMap.appendAll .empty (HeaderMap.entries (forwardHeaders req.headers peer))⟩

/-- `proxy_websocket` over an open connection. -/
def upgradeOver (net : Network) (peer : SocketAddr) (req : ProxyRequest) (route : BackendRoute)
    (address : SocketAddr) : Exchange :=
  let authority := route.backend.authority
  let contact := upgradeRequest peer req route
  let failed (notice : Notice) (sent : List Contact) : Exchange :=
    ⟨textResponse notice, [authority], sent, false⟩
  if net.buildsRequest contact.target contact.headers then
    if net.handshake address then
      match net.send contact with
      | none => failed .unavailable [contact]
      | some answer =>
          if answer.status ≠ 101 then failed .unavailable [contact]
          else ⟨switchResponse net answer, [authority], [contact], true⟩
    else failed .unavailable []
  else failed .badRequest []

def proxyWebsocket (net : Network) (peer : SocketAddr) (req : ProxyRequest)
    (route : BackendRoute) : Exchange :=
  let authority := route.backend.authority
  match resolveAuthority net authority with
  | none => refuse .unavailable
  | some address =>
      match net.connect address with
      | .connected => upgradeOver net peer req route address
      | .refused => ⟨textResponse .unavailable, [authority], [], false⟩
      | .elapsed => ⟨textResponse .timeout, [authority], [], false⟩

def handle (cfg : ProxyConfig) (net : Network) (peer : SocketAddr) (req : ProxyRequest) :
    Exchange :=
  if cfg.shuttingDown then refuse .shuttingDown
  else
    match cfg.routes.resolve ((headerText req.headers hostName).getD []) with
    | none => refuse .unknownHost
    | some route =>
        if isWebsocketUpgrade req then proxyWebsocket net peer req route
        else proxyHttp net peer req route

end Tailroute.Proxy
