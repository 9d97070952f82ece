/-
# Proxy.Relay — what comes of a request

Where a plain request goes is told by the URI that the proxy parses from the backend's
authority and the client's target. For a target with a path that is the backend
(`parse_rooted`); for `*` the authority runs on into the target (`proxyHttp_asterisk`).

Whatever the client sends and however the backend behaves, the proxy hands over one request
at most, the client's, and answers with the backend's answer or with a text that has its
cause in the network (`proxy_relays`).
-/
import Tailroute.Proxy.Handle

namespace Tailroute.Proxy

open Tailroute.Theory Tailroute.Common Tailroute.Dns

set_option autoImplicit false

/-! ## Where a request goes -/

/-- The host is free of the characters that end an authority, as every IP address and every
host of a URL is. -/
def Plain (b : Backend) : Prop := b.host.all inAuthority = true

/-- The target has a path or a query: every form of a target but `*`. -/
def ProxyRequest.Rooted (req : ProxyRequest) : Prop :=
  ∃ c rest, req.target = c :: rest ∧ inAuthority c = false

/-- The request of the client as the backend of the route gets it. -/
def contactOf (req : ProxyRequest) (peer : SocketAddr) (route : BackendRoute) : Contact :=
  ⟨route.backend.authority, req.method, req.target, req.version, forwardHeaders req.headers peer⟩

section Uri

variable {uris : UriParser} {b : Backend} {uri : Uri}

theorem inAuthority_of_digit {c : Char} (digit : c.isDigit = true) : inAuthority c = true := by
  simp only [Char.isDigit, Bool.and_eq_true, decide_eq_true_eq, UInt32.le_iff_toNat_le] at digit
  have other : c ≠ '/' ∧ c ≠ '?' ∧ c ≠ '#' := by
    refine ⟨?_, ?_, ?_⟩ <;> rintro rfl <;> exact absurd digit (by decide)
  simp [inAuthority, other]

theorem all_inAuthority (plain : Plain b) : ∀ c ∈ b.authority, inAuthority c = true := by
  have host : ∀ c ∈ b.host, inAuthority c = true := List.all_eq_true.mp plain
  have digits : ∀ c ∈ Nat.toDigits 10 b.port.toNat, inAuthority c = true := fun c listed =>
    inAuthority_of_digit (Nat.isDigit_of_mem_toDigits (by decide) (by decide) listed)
  intro c listed
  unfold Backend.authority at listed
  split at listed
  · simp only [List.mem_append] at listed
    rcases listed with ((bracket | inHost) | bracket) | digit
    · cases List.mem_singleton.mp bracket
      rfl
    · exact host c inHost
    · obtain rfl | rfl : c = ']' ∨ c = ':' := by simpa using bracket
      · rfl
      · rfl
    · exact digits c digit
  · simp only [List.mem_append] at listed
    rcases listed with (inHost | colon) | digit
    · exact host c inHost
    · cases List.mem_singleton.mp colon
      rfl
    · exact digits c digit

theorem hash_not_mem_authority (plain : Plain b) : '#' ∉ b.authority := by
  intro listed
  exact absurd (all_inAuthority plain '#' listed) (by decide)

theorem ProxyRequest.hash_not_mem_target (req : ProxyRequest) : '#' ∉ req.target := by
  obtain ⟨_, path, _, _, unfragmented⟩ := req
  cases path with
  | none =>
      show '#' ∉ "/".toList
      decide
  | some path => exact unfragmented

/-- A target with a path is read back behind the authority. -/
theorem parse_rooted {req : ProxyRequest} (plain : Plain b) (rooted : req.Rooted)
    (parsed : uris.parse ("http://".toList ++ (b.authority ++ req.target)) = some uri) :
    uri = ⟨b.authority, req.target⟩ := by
  obtain ⟨c, rest, spelled, ends⟩ := rooted
  have unfragmented : '#' ∉ b.authority ++ req.target := by
    rw [List.mem_append, not_or]
    exact ⟨hash_not_mem_authority plain, req.hash_not_mem_target⟩
  obtain ⟨authority, path⟩ := uris.splits _ uri unfragmented parsed
  have first : (b.authority ++ req.target).takeWhile inAuthority = b.authority := by
    rw [spelled, List.takeWhile_append_of_pos (all_inAuthority plain), List.takeWhile_cons, ends]
    simp
  have second : (b.authority ++ req.target).dropWhile inAuthority = req.target := by
    rw [spelled, List.dropWhile_append_of_pos (all_inAuthority plain), List.dropWhile_cons, ends]
    simp
  rw [first] at authority
  rw [second, if_neg (by rw [spelled]; exact List.cons_ne_nil c rest)] at path
  cases uri
  exact congrArg₂ Uri.mk authority path

/-- A target without one becomes part of the authority. -/
theorem parse_unrooted {req : ProxyRequest} (plain : Plain b)
    (unrooted : ∀ c ∈ req.target, inAuthority c = true)
    (parsed : uris.parse ("http://".toList ++ (b.authority ++ req.target)) = some uri) :
    uri = ⟨b.authority ++ req.target, "/".toList⟩ := by
  have all : ∀ c ∈ b.authority ++ req.target, inAuthority c = true := by
    intro c listed
    rcases List.mem_append.mp listed with inHost | inTarget
    · exact all_inAuthority plain c inHost
    · exact unrooted c inTarget
  have unfragmented : '#' ∉ b.authority ++ req.target := by
    intro listed
    exact absurd (all '#' listed) (by decide)
  obtain ⟨authority, path⟩ := uris.splits _ uri unfragmented parsed
  rw [List.takeWhile_eq_self_iff.mpr all] at authority
  rw [if_pos (List.dropWhile_eq_nil_iff.mpr all)] at path
  cases uri
  exact congrArg₂ Uri.mk authority path

end Uri

/-! ## What comes of a request -/

/-- The request handed over is the client's, for the route's backend. -/
structure Contact.Carries (contact : Contact) (req : ProxyRequest) (peer : SocketAddr)
    (route : BackendRoute) : Prop where
  authority : contact.authority = route.backend.authority
  method : contact.method = if isWebsocketUpgrade req then "GET".toList else req.method
  target : contact.target = req.target
  version : contact.version = if isWebsocketUpgrade req then .http11 else req.version
  headers : ∀ name, HeaderMap.getAll contact.headers name =
    HeaderMap.getAll (forwardHeaders req.headers peer) name

/-- The response is the backend's answer: its status, version and body, and its headers
without `transfer-encoding` and with the proxy's `cache-control` before its own. -/
structure ProxyResponse.Passes (response answer : ProxyResponse) : Prop where
  status : response.status = answer.status
  version : response.version = answer.version
  body : response.body = answer.body
  headers : ∀ name, HeaderMap.getAll response.headers name =
    if name = transferEncoding then []
    else if name = cacheControl then noCache :: HeaderMap.getAll answer.headers name
    else HeaderMap.getAll answer.headers name

/-- What the client is told of a plain request that was handed over. -/
inductive Answered (net : Network) (contact : Contact) : ProxyResponse → Prop
  | passed (answer response : ProxyResponse) (answered : net.request contact = .response answer)
      (passes : response.Passes answer) : Answered net contact response
  | unbuilt (answer : ProxyResponse) (answered : net.request contact = .response answer)
      (fails : net.builds (relayedHeaders answer) = false) :
      Answered net contact (textResponse .unavailable)
  | timedOut (message : Text) (failed : net.request contact = .error message)
      (told : mentionsTimeout message = true) : Answered net contact (textResponse .timeout)
  | failed (message : Text) (failed : net.request contact = .error message)
      (told : mentionsTimeout message = false) : Answered net contact (textResponse .unavailable)
  | elapsed (late : net.request contact = .elapsed) : Answered net contact (textResponse .timeout)

/-- Why an upgrade came to nothing, with what the client is told and what was sent. -/
inductive UpgradeFails (net : Network) (authority : Text) (contact : Contact) :
    Notice → List Contact → Prop
  | unresolved (unknown : resolveAuthority net authority = none) :
      UpgradeFails net authority contact .unavailable []
  | refused (address : SocketAddr) (resolved : resolveAuthority net authority = some address)
      (fails : net.connect address = .refused) :
      UpgradeFails net authority contact .unavailable []
  | late (address : SocketAddr) (resolved : resolveAuthority net authority = some address)
      (fails : net.connect address = .elapsed) : UpgradeFails net authority contact .timeout []
  | unbuilt (fails : net.buildsRequest contact.target contact.headers = false) :
      UpgradeFails net authority contact .badRequest []
  | unshaken (address : SocketAddr) (resolved : resolveAuthority net authority = some address)
      (fails : net.handshake address = false) :
      UpgradeFails net authority contact .unavailable []
  | unanswered (fails : net.send contact = none) :
      UpgradeFails net authority contact .unavailable [contact]
  | declined (answer : ProxyResponse) (answered : net.send contact = some answer)
      (stays : answer.status ≠ 101) : UpgradeFails net authority contact .unavailable [contact]

/-- Everything that comes of a request with a route. -/
inductive Exchange.Serves (net : Network) (req : ProxyRequest) (peer : SocketAddr)
    (route : BackendRoute) : Exchange → Prop
  /-- The backend's URL and the target make no URI. -/
  | unparsed (plain : isWebsocketUpgrade req = false)
      (fails : net.uri.parse ("http://".toList ++ (route.backend.authority ++ req.target)) = none) :
      Serves net req peer route (refuse .badRequest)
  /-- The request is handed over, and the client is told what came of it. -/
  | handed (contact : Contact) (response : ProxyResponse) (plain : isWebsocketUpgrade req = false)
      (carries : contact.Carries req peer route) (answered : Answered net contact response) :
      Serves net req peer route ⟨response, [route.backend.authority], [contact], false⟩
  /-- No tunnel. -/
  | refused (contact : Contact) (notice : Notice) (dialed : List Text) (sent : List Contact)
      (asked : isWebsocketUpgrade req = true) (carries : contact.Carries req peer route)
      (known : ∀ authority ∈ dialed, authority = route.backend.authority)
      (why : UpgradeFails net route.backend.authority contact notice sent) :
      Serves net req peer route ⟨textResponse notice, dialed, sent, false⟩
  /-- The backend agreed to switch protocols, and the client is told so in its words. -/
  | tunnel (contact : Contact) (answer response : ProxyResponse)
      (asked : isWebsocketUpgrade req = true) (carries : contact.Carries req peer route)
      (answered : net.send contact = some answer) (switches : answer.status = 101)
      (status : response.status = 101)
      (headers : ∀ name, HeaderMap.getAll response.headers name =
        HeaderMap.getAll answer.headers name) :
      Serves net req peer route ⟨response, [route.backend.authority], [contact], true⟩
  /-- The backend agreed, but its headers make no response. -/
  | unannounced (contact : Contact) (answer : ProxyResponse)
      (asked : isWebsocketUpgrade req = true) (carries : contact.Carries req peer route)
      (answered : net.send contact = some answer) (switches : answer.status = 101)
      (fails : net.builds (HeaderMap.appendAll .empty (HeaderMap.entries answer.headers)) =
        false) :
      Serves net req peer route
        ⟨textResponse .unavailable, [route.backend.authority], [contact], true⟩

section Serves

variable {cfg : ProxyConfig} {net : Network} {peer : SocketAddr} {req : ProxyRequest}
  {route : BackendRoute}

theorem getAll_empty (name : Text) : HeaderMap.getAll .empty name = [] := rfl

theorem getAll_relayedHeaders (answer : ProxyResponse) (name : Text) :
    HeaderMap.getAll (relayedHeaders answer) name =
      if name = transferEncoding then []
      else if name = cacheControl then noCache :: HeaderMap.getAll answer.headers name
      else HeaderMap.getAll answer.headers name := by
  have kept : HeaderMap.valuesOf ((HeaderMap.entries answer.headers).filter fun entry =>
      decide (entry.1 ≠ transferEncoding)) name =
      if name = transferEncoding then [] else HeaderMap.getAll answer.headers name := by
    rw [← HeaderMap.valuesOf_entries, HeaderMap.valuesOf, List.filter_filter]
    split
    · rename_i dropped
      simp [dropped]
    · rename_i other
      rw [HeaderMap.valuesOf]
      congr 1
      apply List.filter_congr
      intro entry _
      by_cases same : entry.1 = name <;> simp [same, other]
  rw [relayedHeaders, HeaderMap.getAll_appendAll, HeaderMap.getAll_append, getAll_empty, kept]
  have apart : cacheControl ≠ transferEncoding := by decide
  by_cases dropped : name = transferEncoding
  · simp [dropped, apart]
  · by_cases cache : name = cacheControl
    · simp [cache, apart]
    · simp [dropped, cache, Ne.symm cache]

theorem getAll_copied (m : HeaderMap) (name : Text) :
    HeaderMap.getAll (HeaderMap.appendAll .empty (HeaderMap.entries m)) name =
      HeaderMap.getAll m name := by
  rw [HeaderMap.getAll_appendAll, getAll_empty, List.nil_append, HeaderMap.valuesOf_entries]

theorem relay_of_builds {answer : ProxyResponse}
    (built : net.builds (relayedHeaders answer) = true) :
    relay net answer = { answer with headers := relayedHeaders answer } :=
  if_pos built

theorem relay_passes {answer : ProxyResponse} (built : net.builds (relayedHeaders answer) = true) :
    (relay net answer).Passes answer := by
  rw [relay_of_builds built]
  exact ⟨rfl, rfl, rfl, getAll_relayedHeaders answer⟩

theorem contactOf_carries (plain : isWebsocketUpgrade req = false) :
    (contactOf req peer route).Carries req peer route := by
  refine ⟨rfl, ?_, rfl, ?_, fun _ => rfl⟩
  · rw [plain]
    rfl
  · rw [plain]
    rfl

theorem upgradeRequest_carries (asked : isWebsocketUpgrade req = true) :
    (upgradeRequest peer req route).Carries req peer route := by
  refine ⟨rfl, ?_, rfl, ?_, getAll_copied _⟩
  · rw [asked]
    rfl
  · rw [asked]
    rfl

/-- The response to a plain request whose URI parses. -/
def httpResponse (net : Network) (contact : Contact) : ProxyResponse :=
  match net.request contact with
  | .response answer => relay net answer
  | .error message => textResponse (if mentionsTimeout message then .timeout else .unavailable)
  | .elapsed => textResponse .timeout

theorem answered_httpResponse (net : Network) (contact : Contact) :
    Answered net contact (httpResponse net contact) := by
  unfold httpResponse
  cases result : net.request contact with
  | response answer =>
      by_cases built : net.builds (relayedHeaders answer) = true
      · exact .passed answer _ result (relay_passes built)
      · have told : relay net answer = textResponse .unavailable := if_neg built
        simp only [told]
        exact .unbuilt answer result (Bool.eq_false_iff.mpr built)
  | error message =>
      cases told : mentionsTimeout message with
      | true =>
          simp only [told, if_true]
          exact .timedOut message result told
      | false =>
          simp only [told, Bool.false_eq_true, if_false]
          exact .failed message result told
  | elapsed => exact .elapsed result

/-- A target with a path takes the client's request to the backend. -/
theorem proxyHttp_rooted {uri : Uri} (plain : Plain route.backend) (rooted : req.Rooted)
    (parsed : net.uri.parse ("http://".toList ++ (route.backend.authority ++ req.target)) =
      some uri) :
    proxyHttp net peer req route =
      ⟨httpResponse net (contactOf req peer route), [route.backend.authority],
        [contactOf req peer route], false⟩ := by
  obtain rfl := parse_rooted plain rooted parsed
  simp only [proxyHttp, parsed]
  have same : (⟨route.backend.authority, req.method, req.target, req.version,
      forwardHeaders req.headers peer⟩ : Contact) = contactOf req peer route := rfl
  rw [same, httpResponse]
  cases net.request (contactOf req peer route) <;> rfl

/-- **`OPTIONS *` does not reach the backend.** The client is told to connect to an authority
that ends in `*`. -/
theorem proxyHttp_asterisk (plain : Plain route.backend)
    (unrooted : ∀ c ∈ req.target, inAuthority c = true) :
    (∀ authority ∈ (proxyHttp net peer req route).dialed,
        authority = route.backend.authority ++ req.target) ∧
      ∀ contact ∈ (proxyHttp net peer req route).sent,
        contact.authority = route.backend.authority ++ req.target := by
  cases parsed : net.uri.parse ("http://".toList ++ (route.backend.authority ++ req.target)) with
  | none =>
      simp only [proxyHttp, parsed]
      exact ⟨by rintro _ ⟨⟩, by rintro _ ⟨⟩⟩
  | some uri =>
      obtain rfl := parse_unrooted plain unrooted parsed
      simp only [proxyHttp, parsed]
      split <;> exact ⟨by simp, by simp⟩

theorem proxyHttp_serves (upgrade : isWebsocketUpgrade req = false) (plain : Plain route.backend)
    (rooted : req.Rooted) :
    Exchange.Serves net req peer route (proxyHttp net peer req route) := by
  cases parsed : net.uri.parse ("http://".toList ++ (route.backend.authority ++ req.target)) with
  | none =>
      have refused : proxyHttp net peer req route = refuse .badRequest := by
        simp only [proxyHttp, parsed]
      rw [refused]
      exact .unparsed upgrade parsed
  | some uri =>
      rw [proxyHttp_rooted plain rooted parsed]
      exact .handed _ _ upgrade (contactOf_carries upgrade) (answered_httpResponse net _)

theorem upgradeOver_serves (asked : isWebsocketUpgrade req = true) {address : SocketAddr}
    (resolved : resolveAuthority net route.backend.authority = some address) :
    Exchange.Serves net req peer route (upgradeOver net peer req route address) := by
  have carries : (upgradeRequest peer req route).Carries req peer route :=
    upgradeRequest_carries asked
  have known : ∀ authority ∈ [route.backend.authority], authority = route.backend.authority :=
    fun authority listed => List.mem_singleton.mp listed
  unfold upgradeOver
  dsimp only
  split
  · split
    · split
      · rename_i fails
        exact .refused _ _ _ _ asked carries known (.unanswered fails)
      · rename_i answer answered
        split
        · rename_i stays
          exact .refused _ _ _ _ asked carries known (.declined answer answered stays)
        · rename_i switches
          have switched : answer.status = 101 := not_not.mp switches
          by_cases built : net.builds (HeaderMap.appendAll .empty
              (HeaderMap.entries answer.headers)) = true
          · have told : switchResponse net answer =
                ⟨101, .http11, HeaderMap.appendAll .empty (HeaderMap.entries answer.headers), []⟩ :=
              if_pos built
            rw [told]
            exact .tunnel _ answer _ asked carries answered switched rfl
              (getAll_copied answer.headers)
          · have told : switchResponse net answer = textResponse .unavailable := if_neg built
            rw [told]
            exact .unannounced _ answer asked carries answered switched
              (Bool.eq_false_iff.mpr built)
    · rename_i fails
      exact .refused _ _ _ _ asked carries known
        (.unshaken address resolved (Bool.eq_false_iff.mpr fails))
  · rename_i fails
    exact .refused _ _ _ _ asked carries known (.unbuilt (Bool.eq_false_iff.mpr fails))

theorem proxyWebsocket_serves (asked : isWebsocketUpgrade req = true) :
    Exchange.Serves net req peer route (proxyWebsocket net peer req route) := by
  have carries : (upgradeRequest peer req route).Carries req peer route :=
    upgradeRequest_carries asked
  have known : ∀ authority ∈ [route.backend.authority], authority = route.backend.authority :=
    fun authority listed => List.mem_singleton.mp listed
  unfold proxyWebsocket
  dsimp only
  split
  · rename_i unknown
    exact .refused _ _ [] _ asked carries (by rintro _ ⟨⟩) (.unresolved unknown)
  · rename_i address resolved
    split
    · exact upgradeOver_serves asked resolved
    · rename_i fails
      exact .refused _ _ _ _ asked carries known (.refused address resolved fails)
    · rename_i fails
      exact .refused _ _ _ _ asked carries known (.late address resolved fails)

theorem handle_of_route (up : cfg.shuttingDown = false)
    (found : cfg.routes.resolve ((headerText req.headers hostName).getD []) = some route) :
    handle cfg net peer req =
      if isWebsocketUpgrade req then proxyWebsocket net peer req route
      else proxyHttp net peer req route := by
  simp only [handle, up, Bool.false_eq_true, if_false]
  rw [found]

theorem handle_serves (up : cfg.shuttingDown = false)
    (found : cfg.routes.resolve ((headerText req.headers hostName).getD []) = some route)
    (plain : Plain route.backend) (addressed : isWebsocketUpgrade req = true ∨ req.Rooted) :
    Exchange.Serves net req peer route (handle cfg net peer req) := by
  rw [handle_of_route up found]
  cases asked : isWebsocketUpgrade req with
  | true => exact proxyWebsocket_serves asked
  | false =>
      rw [asked] at addressed
      exact proxyHttp_serves asked plain (addressed.resolve_left Bool.false_ne_true)

/-- A plain request with a path, at a proxy that has a route for it. -/
theorem handle_rooted {uri : Uri} (up : cfg.shuttingDown = false)
    (found : cfg.routes.resolve ((headerText req.headers hostName).getD []) = some route)
    (upgrade : isWebsocketUpgrade req = false) (plain : Plain route.backend) (rooted : req.Rooted)
    (parsed : net.uri.parse ("http://".toList ++ (route.backend.authority ++ req.target)) =
      some uri) :
    handle cfg net peer req =
      ⟨httpResponse net (contactOf req peer route), [route.backend.authority],
        [contactOf req peer route], false⟩ := by
  rw [handle_of_route up found, upgrade, if_neg Bool.false_ne_true,
    proxyHttp_rooted plain rooted parsed]

end Serves

/-! ## A network with one answer -/

/-- A parser that takes every `http` URI apart. -/
def httpUri : UriParser where
  parse text :=
    if "http://".toList <+: text then
      let rest := text.drop 7
      some ⟨rest.takeWhile inAuthority,
        if rest.dropWhile inAuthority = [] then "/".toList else rest.dropWhile inAuthority⟩
    else none
  splits text uri _ parsed := by
    rw [if_pos (List.prefix_append _ _)] at parsed
    cases parsed
    exact ⟨rfl, rfl⟩

theorem httpUri_parse (text : Text) : httpUri.parse ("http://".toList ++ text) ≠ none := by
  show (if "http://".toList <+: "http://".toList ++ text then some _ else none) ≠ none
  rw [if_pos (List.prefix_append _ _)]
  exact Option.some_ne_none _

/-- Every backend gives this answer to every request, and none can be connected to for a
tunnel. -/
def answering (answer : ProxyResponse) : Network where
  uri := httpUri
  request _ := .response answer
  builds _ := true
  buildsRequest _ _ := true
  parseSocketAddr _ := none
  lookupHost _ := none
  connect _ := .refused
  handshake _ := false
  send _ := none

end Tailroute.Proxy
