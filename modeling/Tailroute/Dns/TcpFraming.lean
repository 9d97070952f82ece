/-
# Dns.TcpFraming — requests and replies on one TCP connection

`handle_tcp_conn` reads a length and a body, answers, writes a length and the answer, and
starts over; the first body that is cut off or gets no answer, and the first write that
fails, end the connection. A client that reads the replies as frames has them in the order
of its requests (`tcp_replies_in_order`).

Each reply is what `handleWire` makes of its request. Other connections run in between, so
each request meets a world and a cache of its own.
-/
import Tailroute.Dns.Responses

namespace Tailroute.Dns

open Tailroute.Theory Tailroute.Common

set_option autoImplicit false

inductive Ending where
  | closed
  | shortBody
  | unanswered
  | writeFailed
deriving DecidableEq

structure Connection where
  sent : List UInt8
  ending : Ending

section Connection

variable (respond : Nat → List UInt8 → Option (List UInt8)) (cuts : Nat → Option Nat)

/-- `handle_tcp_conn` from its `i`-th request on. The `k`-th `write_all` of the connection
fails after `n` bytes if `cuts k = some n`. -/
def handleTcpConn : Nat → List UInt8 → Connection
  | i, hi :: lo :: rest =>
      if fromBeBytes hi lo ≤ rest.length then
        match respond i (rest.take (fromBeBytes hi lo)) with
        | none => ⟨[], .unanswered⟩
        | some resp =>
            match cuts (2 * i), cuts (2 * i + 1) with
            | some n, _ => ⟨(toBeBytes resp.length).take n, .writeFailed⟩
            | none, some n => ⟨toBeBytes resp.length ++ resp.take n, .writeFailed⟩
            | none, none =>
                let later := handleTcpConn (i + 1) (rest.drop (fromBeBytes hi lo))
                ⟨frame resp ++ later.sent, later.ending⟩
      else ⟨[], .shortBody⟩
  -- the length cannot be read: the client is done
  | _, _ => ⟨[], .closed⟩
termination_by _ stream => stream.length
decreasing_by
  simp only [List.length_drop, List.length_cons]
  omega

/-- The replies to the requests before the first that gets none. -/
def replies : Nat → List (List UInt8) → List (List UInt8)
  | _, [] => []
  | i, request :: rest =>
      match respond i request with
      | none => []
      | some reply => reply :: replies (i + 1) rest

variable {respond cuts}

theorem replies_cons_none {i : Nat} {request : List UInt8} {rest : List (List UInt8)}
    (silent : respond i request = none) : replies respond i (request :: rest) = [] := by
  rw [replies, silent]

theorem replies_cons_some {i : Nat} {request reply : List UInt8} {rest : List (List UInt8)}
    (answer : respond i request = some reply) :
    replies respond i (request :: rest) = reply :: replies respond (i + 1) rest := by
  rw [replies, answer]

/-- The reply at a position is the answer to the request there. -/
theorem respond_of_getElem?_replies {i n : Nat} {requests : List (List UInt8)}
    {reply : List UInt8} (there : (replies respond i requests)[n]? = some reply) :
    ∃ request, requests[n]? = some request ∧ respond (i + n) request = some reply := by
  induction requests generalizing i n with
  | nil => cases there
  | cons request rest ih =>
      cases answer : respond i request with
      | none =>
          rw [replies_cons_none answer] at there
          cases there
      | some first =>
          rw [replies_cons_some answer] at there
          cases n with
          | zero =>
              cases there
              exact ⟨request, rfl, answer⟩
          | succ n =>
              obtain ⟨later, asked, answered⟩ := ih there
              rw [Nat.add_right_comm] at answered
              exact ⟨later, asked, answered⟩

/-- The replies stop at a request that gets none. -/
theorem respond_length_replies (i : Nat) (requests : List (List UInt8)) {request : List UInt8}
    (next : requests[(replies respond i requests).length]? = some request) :
    respond (i + (replies respond i requests).length) request = none := by
  induction requests generalizing i with
  | nil => exact nomatch next
  | cons first rest ih =>
      cases answer : respond i first with
      | none =>
          rw [replies_cons_none answer] at next ⊢
          cases next
          exact answer
      | some reply =>
          rw [replies_cons_some answer, List.length_cons] at next ⊢
          rw [List.getElem?_cons_succ] at next
          rw [Nat.add_comm _ 1, ← Nat.add_assoc]
          exact ih (i + 1) next

/-- Whatever write fails, what is sent is the beginning of the replies. -/
theorem sent_prefix (i : Nat) (stream : List UInt8) :
    (handleTcpConn respond cuts i stream).sent <+:
      (replies respond i (deframe stream).1).flatMap frame := by
  fun_induction handleTcpConn respond cuts i stream with
  | case1 i hi lo rest whole silent => exact List.nil_prefix
  | case2 i hi lo rest whole reply answer n cut =>
      rw [deframe_cons whole, replies_cons_some answer, List.flatMap_cons, frame, List.append_assoc]
      exact (List.take_prefix _ _).trans (List.prefix_append _ _)
  | case3 i hi lo rest whole reply answer n cut fine =>
      rw [deframe_cons whole, replies_cons_some answer, List.flatMap_cons, frame, List.append_assoc]
      exact (List.prefix_append_right_inj _).mpr
        ((List.take_prefix _ _).trans (List.prefix_append _ _))
  | case4 i hi lo rest whole reply answer fine fine' later ih =>
      rw [deframe_cons whole, replies_cons_some answer, List.flatMap_cons]
      exact (List.prefix_append_right_inj _).mpr ih
  | case5 i hi lo rest cut => exact List.nil_prefix
  | case6 i stream short => exact List.nil_prefix

/-- While the writes succeed, all the replies are sent, and the connection is closed in
order if the client sent complete requests that all got one. -/
theorem handleTcpConn_uncut (respond : Nat → List UInt8 → Option (List UInt8))
    (whole : ∀ k, cuts k = none) (i : Nat) (stream : List UInt8) :
    (handleTcpConn respond cuts i stream).sent =
        (replies respond i (deframe stream).1).flatMap frame ∧
      ((handleTcpConn respond cuts i stream).ending = .closed ↔
        (replies respond i (deframe stream).1).length = (deframe stream).1.length ∧
          (deframe stream).2.length < 2) := by
  fun_induction handleTcpConn respond cuts i stream with
  | case1 i hi lo rest complete silent =>
      rw [deframe_cons complete, replies_cons_none silent]
      simp
  | case2 i hi lo rest complete reply answer n cut => simp [whole] at cut
  | case3 i hi lo rest complete reply answer n cut fine => simp [whole] at cut
  | case4 i hi lo rest complete reply answer fine fine' later ih =>
      rw [deframe_cons complete, replies_cons_some answer, List.flatMap_cons, List.length_cons,
        List.length_cons, Nat.succ_inj, ih.1]
      exact ⟨rfl, ih.2⟩
  | case5 i hi lo rest cut =>
      rw [deframe_cut (by omega)]
      simp [replies]
  | case6 i stream short =>
      have few : stream.length < 2 := by
        match stream, short with
        | [], _ => decide
        | [_], _ => exact Nat.lt_succ_self 1
        | hi :: lo :: rest, short => exact absurd rfl (short hi lo rest)
      rw [deframe_of_length few]
      simpa [replies] using few

end Connection

/-! ## The connection of a client -/

variable {codec : WireCodec} {cfg : DnsServerConfig} {met : Meeting} {peer : Option SocketAddr}

/-- A reply is the encoding of the response to its request. -/
theorem exists_of_handleWire {request reply : List UInt8}
    (answer : handleWire codec cfg met request peer = some reply) :
    ∃ req resp, codec.fromBytes request = some req ∧
      sentResponse codec cfg met.world met.cache req peer = some resp ∧
      resp.Echoes req ∧ codec.write resp = reply := by
  obtain ⟨req, decoded, encoded⟩ := Option.bind_eq_some_iff.mp answer
  obtain ⟨resp, out, written⟩ := Option.map_eq_some_iff.mp encoded
  exact ⟨req, resp, decoded, out, sentResponse_echoes out, written⟩

theorem length_handleWire {request reply : List UInt8}
    (answer : handleWire codec cfg met request peer = some reply) : reply.length < 65536 := by
  obtain ⟨req, -, encoded⟩ := Option.bind_eq_some_iff.mp answer
  exact WireCodec.length_toBytes encoded

/-- **Replies come whole and in the order of the requests.** Whatever bytes a client sends,
they are complete requests and a rest without one. The server's reply to each of them, up to
a request it cannot answer, is the response to that request in bytes, and it sends these
replies in order, each behind its length; a write that fails leaves a beginning of that.
While the writes succeed a client reads back exactly these replies, and the connection ends
in order if they are all and at most one byte was left. -/
theorem tcp_replies_in_order (codec : WireCodec) (cfg : DnsServerConfig) (meets : Nat → Meeting)
    (peer : SocketAddr) (cuts : Nat → Option Nat) (stream : List UInt8) :
    let respond := fun i request => handleWire codec cfg (meets i) request (some peer)
    let conn := handleTcpConn respond cuts 0 stream
    let requests := (deframe stream).1
    let rest := (deframe stream).2
    stream = requests.flatMap frame ++ rest ∧ deframe rest = ([], rest) ∧
    ∃ sent : List (List UInt8),
      (∀ i reply, sent[i]? = some reply → ∃ request, requests[i]? = some request ∧
        respond i request = some reply ∧
        ∃ req resp, codec.fromBytes request = some req ∧
          sentResponse codec cfg (meets i).world (meets i).cache req (some peer) = some resp ∧
          resp.Echoes req ∧ codec.write resp = reply) ∧
      (∀ request, requests[sent.length]? = some request → respond sent.length request = none) ∧
      conn.sent <+: sent.flatMap frame ∧
      ((∀ k, cuts k = none) → conn.sent = sent.flatMap frame ∧ deframe conn.sent = (sent, []) ∧
        (conn.ending = .closed ↔ sent.length = requests.length ∧ rest.length < 2)) := by
  intro respond conn requests rest
  have answers : ∀ (i : Nat) (reply : List UInt8),
      (replies respond 0 requests)[i]? = some reply →
      ∃ request, requests[i]? = some request ∧ respond i request = some reply := by
    intro i reply there
    obtain ⟨request, asked, answer⟩ := respond_of_getElem?_replies there
    rw [Nat.zero_add] at answer
    exact ⟨request, asked, answer⟩
  refine ⟨(flatMap_frame_deframe stream).symm, deframe_left stream, replies respond 0 requests,
    ?_, ?_, sent_prefix 0 stream, ?_⟩
  · intro i reply there
    obtain ⟨request, asked, answer⟩ := answers i reply there
    exact ⟨request, asked, answer, exists_of_handleWire answer⟩
  · intro request next
    have silent := respond_length_replies 0 _ next
    rwa [Nat.zero_add] at silent
  · intro uncut
    obtain ⟨sent, ending⟩ := handleTcpConn_uncut respond uncut 0 stream
    refine ⟨sent, ?_, ending⟩
    rw [sent, deframe_flatMap_frame]
    intro reply listed
    obtain ⟨i, there⟩ := List.mem_iff_getElem?.mp listed
    obtain ⟨request, -, answer⟩ := answers i reply there
    exact length_handleWire answer

/-- A query for the address of `web.`, with recursion desired. -/
def webQuery (id : UInt8) : List UInt8 :=
  [0, id, 1, 0, 0, 1, 0, 0, 0, 0, 0, 0, 3, 119, 101, 98, 0, 0, 1, 0, 1]

/-- Its answer: the question again, and 100.64.0.7 for five seconds. -/
def webReply (id : UInt8) : List UInt8 :=
  [0, id, 129, 128, 0, 1, 0, 1, 0, 0, 0, 0, 3, 119, 101, 98, 0, 0, 1, 0, 1,
    192, 12, 0, 1, 0, 1, 0, 0, 0, 5, 0, 4, 100, 64, 0, 7]

/-- Two requests and the first byte of a third. -/
theorem tcp_replies_in_order_two :
    let conn := handleTcpConn
      (fun _ request => handleWire plainCodec publicUpstream ⟨webOnly, Table.empty⟩ request client)
      (fun _ => none) 0 (frame (webQuery 7) ++ frame (webQuery 8) ++ [0])
    deframe conn.sent = ([webReply 7, webReply 8], []) ∧ conn.ending = .closed := by
  intro conn
  have split : deframe (frame (webQuery 7) ++ frame (webQuery 8) ++ [0]) =
      ([webQuery 7, webQuery 8], [0]) := by
    rw [List.append_assoc, deframe_frame_append (by decide), deframe_frame_append (by decide),
      deframe_of_length (by decide)]
  obtain ⟨-, -, sent, answers, silent, -, uncut⟩ := tcp_replies_in_order plainCodec publicUpstream
    (fun _ => ⟨webOnly, Table.empty⟩) ⟨.v4 ⟨[100, 64, 0, 2], rfl⟩, 40000⟩ (fun _ => none)
    (frame (webQuery 7) ++ frame (webQuery 8) ++ [0])
  obtain ⟨-, read, ending⟩ := uncut fun _ => rfl
  rw [split] at answers silent ending
  let met : Meeting := ⟨webOnly, Table.empty⟩
  have seven : handleWire plainCodec publicUpstream met (webQuery 7) client =
      some (webReply 7) := by decide
  have eight : handleWire plainCodec publicUpstream met (webQuery 8) client =
      some (webReply 8) := by decide
  have both : sent = [webReply 7, webReply 8] := by
    match sent with
    | [] => cases seven.symm.trans (silent (webQuery 7) rfl)
    | [_] => cases eight.symm.trans (silent (webQuery 8) rfl)
    | [first, second] =>
        obtain ⟨_, ⟨⟩, here, -⟩ := answers 0 first rfl
        obtain ⟨_, ⟨⟩, there, -⟩ := answers 1 second rfl
        rw [Option.some.inj (seven.symm.trans here), Option.some.inj (eight.symm.trans there)]
    | _ :: _ :: third :: _ =>
        obtain ⟨_, ⟨⟩, -⟩ := answers 2 third rfl
  subst both
  exact ⟨read, ending.mpr ⟨rfl, by decide⟩⟩

end Tailroute.Dns
