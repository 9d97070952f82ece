/-
# Fleet.Dashboard — what `ok` on the dashboard tells

The probe of the dashboard goes through the agent's proxy, and it takes every answer but
5xx for a good one. The proxy has answers of its own among these: 404 for a host it does not
know and 400 for a URI it cannot build. For an agent whose last route set has settled the
first of them does not occur, and `ok` means that the backend on record answered
(`dashboard_ok_iff`).

What is on the wire is the status line with the version of the answer, which the proxy passes
on from the backend, the status and a blank, then the rest of the answer; one read may end
anywhere in it.
-/
import Tailroute.Controller.Probe
import Tailroute.Fleet.RouteSync

namespace Tailroute.Fleet

open Tailroute.Theory Tailroute.Common Tailroute.Storage Tailroute.Controller Tailroute.Proxy
open Tailroute.Dns (SocketAddr)

set_option autoImplicit false

/-! ## Answers on the wire -/

def minorVersion : Version → Char
  | .http10 => '0'
  | .http11 => '1'

/-- An answer as it is sent; `rest` is what follows the status. -/
def answerBytes (version : Version) (status : Nat) (rest : List UInt8) : List UInt8 :=
  asciiBytes (answerStart (minorVersion version)) ++
    (asciiBytes (Nat.toDigits 10 status) ++ 32 :: rest)

theorem decode_asciiBytes (lossy : LossyUtf8) {part : Text} (ascii : ∀ c ∈ part, c.toNat < 128)
    (bytes : List UInt8) : lossy.decode (asciiBytes part ++ bytes) = part ++ lossy.decode bytes := by
  induction part with
  | nil => rfl
  | cons c part ih =>
      have small := ascii c List.mem_cons_self
      have back : (UInt8.ofNat c.toNat).toNat = c.toNat := by
        rw [UInt8.toNat_ofNat']
        omega
      have low : UInt8.ofNat c.toNat < 128 := by
        rw [UInt8.lt_iff_toNat_lt, back]
        exact small
      have step : asciiBytes (c :: part) ++ bytes =
          UInt8.ofNat c.toNat :: (asciiBytes part ++ bytes) := rfl
      rw [step, lossy.ascii _ _ low, back, Char.ofNat_toNat,
        ih fun d listed => ascii d (List.mem_cons_of_mem c listed)]
      rfl

/-- The first digit of a status is its hundreds. -/
theorem toDigits_status {status : Nat} (low : 100 ≤ status) (high : status < 1000) :
    ∃ d digits, Nat.toDigits 10 status = d :: digits ∧ isWhitespace d = false ∧ d.toNat < 128 ∧
      (d = '5' ↔ status / 100 = 5) := by
  have tens : Nat.toDigits 10 status =
      Nat.toDigits 10 (status / 100) ++ [(status / 10 % 10).digitChar] ++
        [(status % 10).digitChar] := by
    rw [Nat.toDigits_of_base_le (by omega) (by omega : 10 ≤ status),
      Nat.toDigits_of_base_le (by omega) (by omega : 10 ≤ status / 10), Nat.div_div_eq_div_mul]
  have first : Nat.toDigits 10 (status / 100) = [(status / 100).digitChar] :=
    Nat.toDigits_of_lt_base (by omega)
  rw [tens, first]
  refine ⟨_, _, rfl, ?_⟩
  have range : 1 ≤ status / 100 ∧ status / 100 ≤ 9 := by omega
  generalize status / 100 = hundreds at range
  obtain ⟨least, most⟩ := range
  interval_cases hundreds <;> decide

section Read

variable (version : Version)

theorem answerStart_ascii : ∀ c ∈ answerStart (minorVersion version), c.toNat < 128 := by
  have checked : ((answerStart (minorVersion version)).all fun c => decide (c.toNat < 128)) =
      true := by
    cases version
    · rfl
    · rfl
  exact fun c listed => of_decide_eq_true (List.all_eq_true.mp checked c listed)

/-- A read that ended in the version. -/
theorem judge_short_read (lossy : LossyUtf8) (ms : Nat) {got : List UInt8}
    (short : got <+: asciiBytes (answerStart (minorVersion version))) :
    (judge ms (lossy.decode got)).status = .fail := by
  obtain ⟨part, starts, rfl⟩ : ∃ part, part <+: answerStart (minorVersion version) ∧
      asciiBytes part = got := by
    rw [List.prefix_iff_eq_take] at short
    exact ⟨_, List.take_prefix got.length _, List.map_take.trans short.symm⟩
  have decoded := decode_asciiBytes lossy
    (fun c listed => answerStart_ascii version c (starts.subset listed)) []
  rw [List.append_nil, lossy.nil, List.append_nil] at decoded
  rw [decoded]
  refine judge_of_short ms ?_ starts
  cases version
  · exact Or.inl rfl
  · exact Or.inr rfl

/-- A read that got the first digit. -/
theorem judge_long_read (lossy : LossyUtf8) (ms : Nat) {d : Char} (solid : isWhitespace d = false)
    (small : d.toNat < 128) (tail : List UInt8) :
    (judge ms (lossy.decode (asciiBytes (answerStart (minorVersion version)) ++
      UInt8.ofNat d.toNat :: tail))).status = if d = '5' then .fail else .ok := by
  have digit : lossy.decode (UInt8.ofNat d.toNat :: tail) = d :: lossy.decode tail :=
    decode_asciiBytes lossy (fun c listed => (List.mem_singleton.mp listed).symm ▸ small) tail
  have shown : isWhitespace (minorVersion version) = false := by
    cases version
    · rfl
    · rfl
  rw [decode_asciiBytes lossy (answerStart_ascii version), digit]
  exact judge_of_status shown solid ms _

/-- **One read of an answer.** The probe takes it for good exactly if the first digit of
the status has arrived and is not a 5. -/
theorem judge_read (lossy : LossyUtf8) (ms : Nat) {status : Nat} {rest got : List UInt8}
    (range : 100 ≤ status ∧ status < 1000) (starts : got <+: answerBytes version status rest) :
    (judge ms (lossy.decode got)).status = .ok ↔ 10 ≤ got.length ∧ status / 100 ≠ 5 := by
  have nine : (asciiBytes (answerStart (minorVersion version))).length = 9 := rfl
  obtain ⟨d, digits, first, solid, small, five⟩ := toDigits_status range.1 range.2
  have arrived : got <+: asciiBytes (answerStart (minorVersion version)) ∨
      ∃ tail, got =
        asciiBytes (answerStart (minorVersion version)) ++ UInt8.ofNat d.toNat :: tail := by
    rcases List.prefix_or_prefix_of_prefix starts
      (List.prefix_append (asciiBytes (answerStart (minorVersion version))) _) with
      short | ⟨tail, rfl⟩
    · exact Or.inl short
    · rw [answerBytes, List.prefix_append_right_inj, first] at starts
      cases tail with
      | nil => exact Or.inl ⟨[], by rw [List.append_nil, List.append_nil]⟩
      | cons b tail =>
          obtain ⟨rfl, -⟩ := List.cons_prefix_cons.mp starts
          exact Or.inr ⟨tail, rfl⟩
  rcases arrived with short | ⟨tail, rfl⟩
  · rw [judge_short_read version lossy ms short]
    have length := short.length_le
    constructor
    · rintro ⟨⟩
    · rintro ⟨long, -⟩
      omega
  · rw [judge_long_read version lossy ms solid small, List.length_append, nine, List.length_cons]
    by_cases server : d = '5'
    · rw [if_pos server]
      constructor
      · rintro ⟨⟩
      · rintro ⟨-, other⟩
        exact absurd (five.mp server) other
    · rw [if_neg server]
      exact ⟨fun _ => ⟨by omega, fun hundreds => server (five.mpr hundreds)⟩, fun _ => rfl⟩

end Read

/-! ## The probe's request -/

def closeValue : HeaderValue := ⟨asciiBytes "close".toList, by decide⟩
def probeAgent : HeaderValue := ⟨asciiBytes "tailsvc-admin-probe".toList, by decide⟩

/-- The headers of `probeText`. -/
def probeHeaders (host : HeaderValue) : HeaderMap :=
  HeaderMap.append (HeaderMap.append (HeaderMap.append .empty hostName host)
    "connection".toList closeValue) "user-agent".toList probeAgent

/-- `probeText` as the proxy's server parses it, if the hostname can be a header value. -/
def parsedProbe (hostname : Text) : Option ProxyRequest :=
  (HeaderValue.fromBytes (asciiBytes hostname)).map fun host =>
    ⟨"GET".toList, some "/".toList, .http11, probeHeaders host, by decide⟩

theorem visible_of_host {c : Char} (host : c.isAlphanum ∨ c = '-' ∨ c = '.') :
    c.toNat < 128 ∧ isVisibleAscii (UInt8.ofNat c.toNat) = true := by
  have range : 32 ≤ c.toNat ∧ c.toNat < 127 := by
    rcases host with alnum | rfl | rfl
    · simp only [Char.isAlphanum, Char.isAlpha, Char.isUpper, Char.isLower, Char.isDigit,
        Bool.or_eq_true, Bool.and_eq_true, decide_eq_true_eq, UInt32.le_iff_toNat_le] at alnum
      simp at alnum
      omega
    · decide
    · decide
  have back : (UInt8.ofNat c.toNat).toNat = c.toNat := by
    rw [UInt8.toNat_ofNat']
    omega
  refine ⟨by omega, ?_⟩
  simp only [isVisibleAscii, Bool.or_eq_true, Bool.and_eq_true, decide_eq_true_eq,
    UInt8.le_iff_toNat_le, UInt8.lt_iff_toNat_lt, back]
  exact Or.inl range

/-- A normalized hostname arrives as it was sent. -/
theorem hostText_of_normalized {hostname : Text} (normalized : Normalized hostname)
    {req : ProxyRequest} (parsed : parsedProbe hostname = some req) :
    headerText req.headers hostName = some hostname := by
  obtain ⟨host, read, rfl⟩ := Option.map_eq_some_iff.mp parsed
  have bytes : host.bytes = asciiBytes hostname := by
    unfold HeaderValue.fromBytes at read
    split at read <;> cases read
    rfl
  have visible : host.bytes.all isVisibleAscii = true := by
    rw [bytes, List.all_eq_true]
    intro b listed
    obtain ⟨c, member, rfl⟩ := List.mem_map.mp listed
    exact (visible_of_host (normalized.chars member)).2
  have first : headerText (probeHeaders host) hostName = host.toStr.map asciiText := rfl
  rw [first, HeaderValue.toStr, if_pos visible, bytes, Option.map_some, asciiText, asciiBytes,
    List.map_map]
  refine congrArg some ((List.map_congr_left fun c member => ?_).trans (List.map_id hostname))
  have small := (visible_of_host (normalized.chars member)).1
  rw [Function.comp_apply, UInt8.toNat_ofNat', Nat.mod_eq_of_lt (by omega), Char.ofNat_toNat]
  rfl

theorem probe_not_upgrade {hostname : Text} {req : ProxyRequest}
    (parsed : parsedProbe hostname = some req) : isWebsocketUpgrade req = false := by
  obtain ⟨host, -, rfl⟩ := Option.map_eq_some_iff.mp parsed
  rfl

/-! ## Through the proxy -/

section Through

variable {net : Network} {peer : SocketAddr} {req : ProxyRequest} {route : BackendRoute}

/-- Backends answer with a status code. -/
def Statuses (net : Network) : Prop :=
  ∀ contact answer, net.request contact = .response answer →
    100 ≤ answer.status ∧ answer.status < 1000

theorem notice_status (notice : Notice) :
    100 ≤ (textResponse notice).status ∧ (textResponse notice).status < 1000 := by
  cases notice <;> decide

/-- An error of the backend connection is answered with a 5xx. -/
theorem gateway_status (message : Text) :
    (textResponse (if mentionsTimeout message then .timeout else .unavailable)).status / 100 = 5 := by
  cases mentionsTimeout message <;> rfl

/-- The response to a request that was handed over is no 5xx exactly if the backend answered
otherwise and its answer could be passed on. -/
theorem httpResponse_alive (statuses : Statuses net) (contact : Contact) :
    (100 ≤ (httpResponse net contact).status ∧ (httpResponse net contact).status < 1000) ∧
      ((httpResponse net contact).status / 100 ≠ 5 ↔
        ∃ answer, net.request contact = .response answer ∧
          net.builds (relayedHeaders answer) = true ∧ answer.status / 100 ≠ 5) := by
  unfold httpResponse
  cases answered : net.request contact with
  | response answer =>
      dsimp only
      by_cases built : net.builds (relayedHeaders answer) = true
      · rw [relay_of_builds built]
        refine ⟨statuses contact answer answered, fun other => ⟨answer, rfl, built, other⟩, ?_⟩
        rintro ⟨_, ⟨⟩, -, other⟩
        exact other
      · have told : relay net answer = textResponse .unavailable := if_neg built
        rw [told]
        refine ⟨notice_status _, fun other => absurd (rfl : 502 / 100 = 5) other, ?_⟩
        rintro ⟨_, ⟨⟩, passes, -⟩
        exact absurd passes built
  | error message =>
      refine ⟨notice_status _, fun other => absurd (gateway_status message) other, ?_⟩
      rintro ⟨_, ⟨⟩, -⟩
  | elapsed =>
      refine ⟨notice_status .timeout, fun other => absurd (rfl : 504 / 100 = 5) other, ?_⟩
      rintro ⟨_, ⟨⟩, -⟩

/-- The probe's connection ends at this proxy: it takes the request and one read returns a
beginning of its answer. -/
structure ProbeReaches (wire : ProbeWire) (cfg : ProxyConfig) (net : Network) (peer : SocketAddr)
    (agentIp hostname : Text) (req : ProxyRequest) (got : List UInt8) : Prop where
  parsed : parsedProbe hostname = some req
  connects : ∃ ms, wire.connect (probeAddr agentIp) = .done () ms
  writes : wire.write (probeAddr agentIp) (probeText hostname) = none
  reads : ∃ ms, wire.read (probeAddr agentIp) (probeText hostname) = .done got ms
  answer : ∃ rest, got <+: answerBytes (Proxy.handle cfg net peer req).response.version
    (Proxy.handle cfg net peer req).response.status rest

theorem probe_of_reaches {wire : ProbeWire} {cfg : ProxyConfig} {agentIp hostname : Text}
    {got : List UInt8} (lossy : LossyUtf8) (timeout : Nat)
    (reaches : ProbeReaches wire cfg net peer agentIp hostname req got)
    (range : 100 ≤ (Proxy.handle cfg net peer req).response.status ∧
      (Proxy.handle cfg net peer req).response.status < 1000) :
    (probeViaAgent lossy wire timeout agentIp hostname).status = .ok ↔
      10 ≤ got.length ∧ (Proxy.handle cfg net peer req).response.status / 100 ≠ 5 := by
  obtain ⟨_, connects⟩ := reaches.connects
  obtain ⟨ms, reads⟩ := reaches.reads
  obtain ⟨rest, starts⟩ := reaches.answer
  simp only [probeViaAgent, connects, reaches.writes, reads]
  split
  · rename_i empty
    subst empty
    simp
  · exact judge_read _ lossy ms range starts

/-- The Host value of the probe leads to the route of the name. -/
theorem resolve_probe {routes : SharedRouteStore} {hostname : Text}
    (normalized : Normalized hostname) (parsed : parsedProbe hostname = some req)
    (serves : routes.find? hostname = some route) :
    routes.resolve ((headerText req.headers hostName).getD []) = some route := by
  have portless : ':' ∉ hostname := portless_of_normalized normalized normalized.1
  rw [hostText_of_normalized normalized parsed, Option.getD_some, resolve_eq_find?,
    resolveKey_of_portless portless, normalized.1, serves]

theorem probe_target {hostname : Text} (parsed : parsedProbe hostname = some req) :
    req.target = "/".toList := by
  obtain ⟨host, -, rfl⟩ := Option.map_eq_some_iff.mp parsed
  rfl

/-- What the probe of a host that the proxy knows is answered with. -/
theorem handle_probe_alive {routes : SharedRouteStore} {hostname : Text} (peer : SocketAddr)
    (statuses : Statuses net) (normalized : Normalized hostname)
    (parsed : parsedProbe hostname = some req) (serves : routes.find? hostname = some route)
    (plain : Plain route.backend) :
    let status := (Proxy.handle ⟨routes, false⟩ net peer req).response.status
    (100 ≤ status ∧ status < 1000) ∧
      (status / 100 ≠ 5 ↔
        net.uri.parse route.backend.baseUrl = none ∨
        ∃ answer, net.request (contactOf req peer route) = .response answer ∧
          net.builds (relayedHeaders answer) = true ∧ answer.status / 100 ≠ 5) := by
  have routed := resolve_probe normalized parsed serves
  have upgrade := probe_not_upgrade parsed
  have rooted : req.Rooted := ⟨'/', [], probe_target parsed, rfl⟩
  have url : "http://".toList ++ (route.backend.authority ++ req.target) =
      route.backend.baseUrl := by
    rw [probe_target parsed]
    exact (List.append_assoc "http://".toList route.backend.authority "/".toList).symm
  cases uri : net.uri.parse route.backend.baseUrl with
  | none =>
      have refused : Proxy.handle ⟨routes, false⟩ net peer req = refuse .badRequest := by
        rw [handle_of_route rfl routed, upgrade, if_neg Bool.false_ne_true]
        simp only [proxyHttp, url, uri]
      rw [refused]
      exact ⟨notice_status _, fun _ => Or.inl rfl, fun _ => by decide⟩
  | some uri' =>
      rw [handle_rooted rfl routed upgrade plain rooted (by rw [url]; exact uri)]
      obtain ⟨range, alive⟩ := httpResponse_alive statuses (contactOf req peer route)
      refine ⟨range, alive.trans ⟨Or.inr, ?_⟩⟩
      rintro (never | answered)
      · cases never
      · exact answered

/-- A host that the proxy does not know passes. -/
theorem probe_of_unknown {wire : ProbeWire} {routes : SharedRouteStore} {agentIp hostname : Text}
    {got : List UInt8} (lossy : LossyUtf8) (timeout : Nat)
    (reaches : ProbeReaches wire ⟨routes, false⟩ net peer agentIp hostname req got)
    (normalized : Normalized hostname) (unknown : routes.find? (resolveKey hostname) = none) :
    (probeViaAgent lossy wire timeout agentIp hostname).status = .ok ↔ 10 ≤ got.length := by
  have refused : Proxy.handle ⟨routes, false⟩ net peer req = refuse .unknownHost := by
    simp only [Proxy.handle, Bool.false_eq_true, if_false,
      hostText_of_normalized normalized reaches.parsed, Option.getD_some, resolve_eq_find?, unknown]
  rw [probe_of_reaches lossy timeout reaches (by rw [refused]; exact notice_status _), refused]
  simp [refuse, textResponse, Notice.status]

end Through

/-! ## The dashboard -/

section Dashboard

variable {env : Env} {idna : Idna} {parseUrl : UrlParser} {start : Int} {f : Deployment}
  {agentId : Text} {node : Node}

theorem httpProbe_of_address (probe : Text → Text → ProbeResult) (now : Int)
    {agents : List AgentRecord} {row : AdminRoute} (address : addressOf agents row ≠ []) :
    (adminRouteHealthView probe now agents row).httpProbe =
      (probe (addressOf agents row) row.hostname).status := by
  simp only [adminRouteHealthView, if_neg address]

/-- **What `ok` on the dashboard tells.** In every state of every run, for a route of an agent
whose last route set has settled and whose proxy the probe reaches: the row says `ok` exactly
if the first digit of the response's status was read and the backend of the row has answered
with something other than 5xx that could be passed on, or its URL is no URI. -/
theorem dashboard_ok_iff (reached : FleetRun env idna parseUrl start f)
    (found : f.nodes.find? agentId = some node) (settled : node.phase.settled = true)
    (lossy : LossyUtf8) (wire : ProbeWire) (timeout : Nat) {read loaded now : Int}
    {view : AdminRouteHealthView}
    (listed : view ∈ (adminDashboard (probeViaAgent lossy wire timeout) env.ttl loaded
      (f.server.controller.store.listAgents env.rfc read)
      (f.server.controller.store.listRoutesAdmin env.rfc env.ttl now)).routes)
    (own : view.agentId = agentId) (address : view.tailscaleIpv4 ≠ [])
    {net : Network} {peer : SocketAddr} (statuses : Statuses net) {req : ProxyRequest}
    {got : List UInt8} (reaches : ProbeReaches wire ⟨node.run.routes, false⟩ net peer
      view.tailscaleIpv4 view.hostname req got) :
    ∃ route, node.run.routes.find? view.hostname = some route ∧
      view.backend = route.backend.baseUrl ∧
      (Plain route.backend →
        (view.httpProbe = .ok ↔ 10 ≤ got.length ∧
          (net.uri.parse view.backend = none ∨
            ∃ answer, net.request (contactOf req peer route) = .response answer ∧
              net.builds (relayedHeaders answer) = true ∧ answer.status / 100 ≠ 5))) := by
  obtain ⟨shown, route_listed, rfl⟩ := List.mem_map.mp listed
  obtain ⟨⟨host, row, agent⟩, live, rfl⟩ := List.mem_map.mp route_listed
  obtain ⟨there, -, -, -⟩ := Store.mem_liveRows.mp live
  obtain ⟨normalized, route, serves, backend, -, -⟩ :=
    settled_route reached found settled there own
  refine ⟨route, serves, backend, fun plain => ?_⟩
  obtain ⟨range, alive⟩ := handle_probe_alive peer statuses normalized reaches.parsed serves
    plain
  rw [← backend] at alive
  have probed := probe_of_reaches lossy timeout reaches range
  rw [alive] at probed
  have probes := httpProbe_of_address (probeViaAgent lossy wire timeout) loaded address
  exact (iff_of_eq (congrArg (· = ProbeStatus.ok) probes)).trans probed

end Dashboard

/-! ## A backend that answers -/

/-- Bytes that are not ASCII are replaced one by one. -/
def replacing : LossyUtf8 where
  decode bytes := bytes.map fun b => if b < 128 then Char.ofNat b.toNat else Char.ofNat 0xFFFD
  nil := rfl
  ascii b bytes small := by rw [List.map_cons, if_pos small]

/-- Every connection is open and the first read returns these bytes. -/
def delivering (got : List UInt8) : ProbeWire where
  connect _ := .done () 0
  write _ _ := none
  read _ _ := .done got 1

/-- A backend of the old version that is well. -/
def oldAnswer : ProxyResponse := ⟨200, .http10, .empty, []⟩

/-- The container of `web` answers with HTTP/1.0, and the row of its route says so. -/
theorem dashboard_ok_iff_web :
    ∃ f node view, FleetRun plainEnv asciiIdna httpUrl 0 f ∧
      f.nodes.find? "agt_a".toList = some node ∧
      view ∈ (adminDashboard (probeViaAgent replacing
          (delivering (answerBytes .http10 200 [])) 1500)
        plainEnv.ttl 0 (f.server.controller.store.listAgents plainEnv.rfc 0)
        (f.server.controller.store.listRoutesAdmin plainEnv.rfc plainEnv.ttl 0)).routes ∧
      view.hostname = "web".toList ∧ view.httpProbe = .ok := by
  obtain ⟨f, node, ip, route, reached, found, settled, serves, plain, answer, own⟩ :=
    exists_settled_web
  obtain ⟨row, agent, there, enrolled, active, alive, parses⟩ := Store.dnsAnswer_eq_some.mp answer
  have owner : row.agentId = "agt_a".toList := by
    rw [Store.owner, there] at own
    exact Option.some.inj own
  obtain ⟨shown, listed, named, owned⟩ : ∃ shown,
      shown ∈ f.server.controller.store.listRoutesAdmin plainEnv.rfc plainEnv.ttl 0 ∧
        shown.hostname = "web".toList ∧ shown.agentId = row.agentId :=
    ⟨_, List.mem_map_of_mem (Store.mem_liveRows.mpr ⟨there, enrolled, active, alive⟩), rfl, rfl⟩
  have address : addressOf (f.server.controller.store.listAgents plainEnv.rfc 0) shown ≠ [] := by
    obtain ⟨agent', _, known, shows, -⟩ := of_mem_listRoutesAdmin 0 listed
    rw [owned, Store.getAgent_eq_ok.mpr ⟨enrolled, active⟩] at known
    cases known
    rw [shows]
    intro empty
    rw [empty] at parses
    cases parses
  obtain ⟨normalized, -⟩ := settled_route reached found settled there owner
  obtain ⟨req, parsed⟩ : ∃ req, parsedProbe "web".toList = some req := ⟨_, rfl⟩
  have handled : Proxy.handle ⟨node.run.routes, false⟩ (answering oldAnswer) visitor req =
      ⟨relay (answering oldAnswer) oldAnswer, [route.backend.authority],
        [contactOf req visitor route], false⟩ := by
    obtain ⟨uri, read⟩ := Option.ne_none_iff_exists'.mp
      (httpUri_parse (route.backend.authority ++ req.target))
    exact handle_rooted rfl (resolve_probe normalized parsed serves) (probe_not_upgrade parsed)
      plain ⟨'/', [], probe_target parsed, rfl⟩ read
  have reaches : ProbeReaches (delivering (answerBytes .http10 200 [])) ⟨node.run.routes, false⟩
      (answering oldAnswer) visitor
      (addressOf (f.server.controller.store.listAgents plainEnv.rfc 0) shown) shown.hostname req
      (answerBytes .http10 200 []) := by
    rw [named]
    refine ⟨parsed, ⟨0, rfl⟩, rfl, ⟨1, rfl⟩, [], ?_⟩
    rw [handled]
    exact List.prefix_rfl
  have statuses : Statuses (answering oldAnswer) := by
    rintro _ _ ⟨⟩
    exact ⟨by decide, by decide⟩
  obtain ⟨route', serves', -, ok⟩ := dashboard_ok_iff reached found settled replacing
    (delivering (answerBytes .http10 200 [])) 1500 (List.mem_map_of_mem listed)
    (owned.trans owner) address statuses reaches
  have same : node.run.routes.find? "web".toList = some route' := by
    rw [← named]
    exact serves'
  cases serves.symm.trans same
  refine ⟨f, node, _, reached, found, List.mem_map_of_mem listed, named,
    (ok plain).mpr ⟨by decide, ?_⟩⟩
  exact Or.inr ⟨oldAnswer, rfl, rfl, by decide⟩

end Tailroute.Fleet
