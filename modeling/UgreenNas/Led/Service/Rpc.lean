import UgreenNas.Led.Service.Serve
import UgreenNas.Led.Service.Wire

/-! # One client and one holder (`led/led_service.c`)

    The two ends of a connection, each somewhere in its code, and the bytes
    between them.  A step is one pass of a `transfer`, or what an end does
    between two transfers, so the two ends interleave at every system call.
    Frames carry no sequence number: that a response answers its request
    follows from where the two ends are in the two streams, and from their
    giving the connection up at the right errors.
-/

namespace UgreenNas.Led.Service

open Effect

/-! ## The two ends -/

/-- Where the client is. -/
inductive Client where
  | idle
  | sending (request : Request) (t : Transfer)
  | receiving (request : Request) (t : Transfer)
  /-- `client->fd` is -1. -/
  | closed

/-- Where the holder is in `serve_requests`. -/
inductive Holder where
  | head (session : Session)
  | receiving (session : Session) (t : Transfer)
  | sending (session : Session) (result : Except Failure Value) (frame : List UInt8)
      (t : Transfer)
  | gone

/-- An exchange that has returned: the frame that came back, if a whole one
    did, and the result. -/
structure Exchange where
  request : Request
  reply : Option (List UInt8)
  result : ExchangeResult

/-- A frame the holder has handled, and what it answers. -/
structure Served where
  frame : List UInt8
  result : Except Failure Value
  confirmed : Bool

def Served.request (y : Served) : Request := .of_bytes y.frame

/-- Both ends, the streams between them and what has happened so far. -/
structure Net (σ : Type) where
  world : σ
  up : Channel UInt8 := {}
  down : Channel UInt8 := {}
  client : Client := .idle
  holder : Holder := .head {}
  begun : List Request := []
  finished : List Exchange := []
  served : List Served := []

/-- What a connection is made with: the holder's environment and backend,
    and the profile the client expects. -/
structure Connection (σ : Type) where
  E : Env service σ
  ops : Ops
  strerror : Errno → String
  profile : Profile

variable {σ : Type}

namespace Connection

/-- The bytes of the answer to a frame. -/
def answer_bytes (C : Connection σ) (result : Except Failure Value) (confirmed : Bool) :
    List UInt8 :=
  (respond C.ops.profile result confirmed).bytes C.strerror

def response_bytes (C : Connection σ) (y : Served) : List UInt8 :=
  C.answer_bytes y.result y.confirmed

theorem response_bytes_length (C : Connection σ) (y : Served) :
    (C.response_bytes y).length = 384 :=
  Response.bytes_length _ _

end Connection

namespace Net

/-- The streams after a system call of the client... -/
def wired (net : Net σ) (s : Channel UInt8 × Channel UInt8) : Net σ :=
  { net with up := s.1, down := s.2 }

/-- ... and after one of the holder. -/
def held (net : Net σ) (s : Channel UInt8 × Channel UInt8) : Net σ :=
  { net with up := s.2, down := s.1 }

/-- `exchange` returns. -/
def finish (net : Net σ) (request : Request) (reply : Option (List UInt8))
    (result : ExchangeResult) : Net σ :=
  { net with
    client := if result.closes then .closed else .idle
    finished := net.finished ++ [⟨request, reply, result⟩] }

end Net

/-- Where the holder goes once a response is sent. -/
def Holder.resume (result : Except Failure Value) (session : Session) : Holder :=
  match after_response result session with
  | .inl session => .head session
  | .inr _ => .gone

/-- One step of either end. -/
inductive Step (C : Connection σ) (net : Net σ) : Net σ → Prop where
  /-- `exchange` is called. -/
  | begins (request : Request) : net.client = .idle →
      Step C net { net with client := .sending (stamp request) {}, begun := net.begun ++ [stamp request] }
  | client_sends {request : Request} {t t' : Transfer} {s : Channel UInt8 × Channel UInt8} :
      net.client = .sending request t →
      Prog.Runs wire (sending 2 request.bytes t) (net.up, net.down) (.inl t') s →
      Step C net { net.wired s with client := .sending request t' }
  | client_sent {request : Request} {t : Transfer} {bytes : List UInt8}
      {s : Channel UInt8 × Channel UInt8} : net.client = .sending request t →
      Prog.Runs wire (sending 2 request.bytes t) (net.up, net.down) (.inr (.ok bytes)) s →
      Step C net { net.wired s with client := .receiving request {} }
  | client_unsent {request : Request} {t : Transfer} {errno : Errno}
      {s : Channel UInt8 × Channel UInt8} : net.client = .sending request t →
      Prog.Runs wire (sending 2 request.bytes t) (net.up, net.down) (.inr (.error errno)) s →
      Step C net ((net.wired s).finish request none (.failed errno))
  | client_receives {request : Request} {t t' : Transfer} {s : Channel UInt8 × Channel UInt8} :
      net.client = .receiving request t →
      Prog.Runs wire (receiving 2 384 t) (net.up, net.down) (.inl t') s →
      Step C net { net.wired s with client := .receiving request t' }
  | client_received {request : Request} {t : Transfer} {bytes : List UInt8}
      {s : Channel UInt8 × Channel UInt8} : net.client = .receiving request t →
      Prog.Runs wire (receiving 2 384 t) (net.up, net.down) (.inr (.ok bytes)) s →
      Step C net ((net.wired s).finish request (some bytes)
        (check_reply C.profile (.of_bytes bytes)))
  | client_unreceived {request : Request} {t : Transfer} {errno : Errno}
      {s : Channel UInt8 × Channel UInt8} : net.client = .receiving request t →
      Prog.Runs wire (receiving 2 384 t) (net.up, net.down) (.inr (.error errno)) s →
      Step C net ((net.wired s).finish request none (.failed errno))
  | client_closes : net.client = .idle → Step C net { net with client := .closed }
  /-- `exchange` is called without a connection: `-ENOTCONN`. -/
  | client_refused : net.client = .closed → Step C net net
  | holder_stops {session : Session} {world : σ} : net.holder = .head session →
      C.E net.world .stopped true world → Step C net { net with world := world, holder := .gone }
  | holder_waits {session : Session} {world : σ} : net.holder = .head session →
      C.E net.world .stopped false world →
      Step C net { net with world := world, holder := .receiving session {} }
  | holder_receives {session : Session} {t t' : Transfer} {s : Channel UInt8 × Channel UInt8} :
      net.holder = .receiving session t →
      Prog.Runs wire (receiving 75 64 t) (net.down, net.up) (.inl t') s →
      Step C net { net.held s with holder := .receiving session t' }
  | holder_received {session session' : Session} {t : Transfer} {bytes : List UInt8}
      {s : Channel UInt8 × Channel UInt8} {result : Except Failure Value} {confirmed : Bool}
      {w₁ w₂ : σ} : net.holder = .receiving session t →
      Prog.Runs wire (receiving 75 64 t) (net.down, net.up) (.inr (.ok bytes)) s →
      Proc.Runs C.E (handle C.ops (.of_bytes bytes)) session net.world result session' w₁ →
      C.E w₁ .confirmed confirmed w₂ →
      Step C net { net.held s with
        world := w₂
        holder := .sending session' result (C.answer_bytes result confirmed) {}
        served := net.served ++ [⟨bytes, result, confirmed⟩] }
  | holder_unreceived {session : Session} {t : Transfer} {errno : Errno}
      {s : Channel UInt8 × Channel UInt8} : net.holder = .receiving session t →
      Prog.Runs wire (receiving 75 64 t) (net.down, net.up) (.inr (.error errno)) s →
      Step C net { net.held s with holder := .gone }
  | holder_sends {session : Session} {result : Except Failure Value} {frame : List UInt8}
      {t t' : Transfer} {s : Channel UInt8 × Channel UInt8} :
      net.holder = .sending session result frame t →
      Prog.Runs wire (sending 75 frame t) (net.down, net.up) (.inl t') s →
      Step C net { net.held s with holder := .sending session result frame t' }
  | holder_sent {session : Session} {result : Except Failure Value} {frame bytes : List UInt8}
      {t : Transfer} {s : Channel UInt8 × Channel UInt8} :
      net.holder = .sending session result frame t →
      Prog.Runs wire (sending 75 frame t) (net.down, net.up) (.inr (.ok bytes)) s →
      Step C net { net.held s with holder := .resume result session }
  | holder_unsent {session : Session} {result : Except Failure Value} {frame : List UInt8}
      {t : Transfer} {errno : Errno} {s : Channel UInt8 × Channel UInt8} :
      net.holder = .sending session result frame t →
      Prog.Runs wire (sending 75 frame t) (net.down, net.up) (.inr (.error errno)) s →
      Step C net { net.held s with holder := .gone }

/-- The connection from `net` on. -/
abbrev Steps (C : Connection σ) : Net σ → Net σ → Prop := Relation.ReflTransGen (Step C)

/-! ## Where the ends are in the streams -/

/-- The frames of requests. -/
def request_stream (requests : List Request) : List UInt8 := (requests.map Request.bytes).flatten

/-- The frames that came back. -/
def reply_stream (exchanges : List Exchange) : List UInt8 :=
  (exchanges.map fun x => x.reply.getD []).flatten

/-- The frames that were handled. -/
def served_stream (served : List Served) : List UInt8 := (served.map Served.frame).flatten

/-- The frames of their answers. -/
def response_stream (C : Connection σ) (served : List Served) : List UInt8 :=
  (served.map C.response_bytes).flatten

theorem request_stream_concat (requests : List Request) (request : Request) :
    request_stream (requests ++ [request]) = request_stream requests ++ request.bytes := by
  simp [request_stream]

theorem reply_stream_concat (exchanges : List Exchange) (x : Exchange) :
    reply_stream (exchanges ++ [x]) = reply_stream exchanges ++ x.reply.getD [] := by
  simp [reply_stream]

theorem served_stream_concat (served : List Served) (y : Served) :
    served_stream (served ++ [y]) = served_stream served ++ y.frame := by
  simp [served_stream]

theorem response_stream_concat (C : Connection σ) (served : List Served) (y : Served) :
    response_stream C (served ++ [y]) = response_stream C served ++ C.response_bytes y := by
  simp [response_stream]

/-- An exchange that got a whole frame and kept the connection. -/
structure Exchange.Answered (C : Connection σ) (x : Exchange) : Prop where
  stays : x.result.closes = false
  reply : ∃ bytes, x.reply = some bytes ∧ bytes.length = 384 ∧
    x.result = check_reply C.profile (.of_bytes bytes)

/-- Where the client is: `done` are the exchanges it has been through,
    `tail` the one that made it close. -/
def ClientAt (net : Net σ) (done tail : List Exchange) : Client → Prop
  | .idle => tail = [] ∧ net.begun = done.map Exchange.request ∧
    net.up.sent = request_stream net.begun ∧ net.down.received = reply_stream done
  | .sending request t => tail = [] ∧ net.begun = done.map Exchange.request ++ [request] ∧
    t.done <+: request.bytes ∧
    net.up.sent = request_stream (done.map Exchange.request) ++ t.done ∧
    net.down.received = reply_stream done
  | .receiving request t => tail = [] ∧ net.begun = done.map Exchange.request ++ [request] ∧
    t.done.length ≤ 384 ∧ net.up.sent = request_stream net.begun ∧
    net.down.received = reply_stream done ++ t.done
  | .closed => net.begun = (done ++ tail).map Exchange.request ∧
    net.up.sent <+: request_stream net.begun ∧ reply_stream done <+: net.down.received

structure ClientInv (C : Connection σ) (net : Net σ) (done tail : List Exchange) : Prop where
  split : net.finished = done ++ tail
  answered : ∀ x ∈ done, x.Answered C
  closing : ∀ x ∈ tail, x.result.closes = true
  place : ClientAt net done tail net.client

/-- Where the holder is. -/
def HolderAt (C : Connection σ) (net : Net σ) : Holder → Prop
  | .head _ => net.up.received = served_stream net.served ∧
    net.down.sent = response_stream C net.served
  | .receiving _ t => t.done.length ≤ 64 ∧
    net.up.received = served_stream net.served ++ t.done ∧
    net.down.sent = response_stream C net.served
  | .sending _ _ frame t => ∃ before y, net.served = before ++ [y] ∧ frame = C.response_bytes y ∧
    t.done <+: frame ∧ net.up.received = served_stream net.served ∧
    net.down.sent = response_stream C before ++ t.done
  | .gone => served_stream net.served <+: net.up.received ∧
    net.down.sent <+: response_stream C net.served

structure HolderInv (C : Connection σ) (net : Net σ) : Prop where
  whole : ∀ y ∈ net.served, y.frame.length = 64
  place : HolderAt C net net.holder

/-- The invariant of a connection. -/
structure Framed (C : Connection σ) (net : Net σ) : Prop where
  up_sound : net.up.Sound
  down_sound : net.down.Sound
  client : ∃ done tail, ClientInv C net done tail
  holder : HolderInv C net

/-! ### The other end's steps -/

section frame

variable {C : Connection σ} {net net' : Net σ} {done tail : List Exchange}

/-- The client's place does not depend on the holder. -/
theorem ClientInv.frame (h : ClientInv C net done tail) (hsent : net'.up.sent = net.up.sent)
    (hreceived : net'.down.received = net.down.received) (hclient : net'.client = net.client)
    (hbegun : net'.begun = net.begun) (hfinished : net'.finished = net.finished) :
    ClientInv C net' done tail := by
  have hplace : ClientAt net' done tail net'.client = ClientAt net done tail net.client := by
    unfold ClientAt
    rw [hsent, hreceived, hclient, hbegun]
  refine ⟨hfinished.trans h.split, h.answered, h.closing, ?_⟩
  rw [hplace]
  exact h.place

/-- Nor the holder's on the client. -/
theorem HolderInv.frame (h : HolderInv C net) (hreceived : net'.up.received = net.up.received)
    (hsent : net'.down.sent = net.down.sent) (hholder : net'.holder = net.holder)
    (hserved : net'.served = net.served) : HolderInv C net' := by
  have hplace : HolderAt C net' net'.holder = HolderAt C net net.holder := by
    unfold HolderAt
    rw [hreceived, hsent, hholder, hserved]
  constructor
  · rw [hserved]
    exact h.whole
  · rw [hplace]
    exact h.place

end frame

/-! ### The client's steps -/

section client

variable {C : Connection σ} {net : Net σ} {done tail : List Exchange} {request : Request}
  {t : Transfer} {s : Channel UInt8 × Channel UInt8}

theorem ClientInv.at_sending (h : ClientInv C net done tail)
    (hat : net.client = .sending request t) :
    tail = [] ∧ net.begun = done.map Exchange.request ++ [request] ∧ t.done <+: request.bytes ∧
      net.up.sent = request_stream (done.map Exchange.request) ++ t.done ∧
      net.down.received = reply_stream done := by
  have hplace := h.place
  rw [hat] at hplace
  exact hplace

theorem ClientInv.at_receiving (h : ClientInv C net done tail)
    (hat : net.client = .receiving request t) :
    tail = [] ∧ net.begun = done.map Exchange.request ++ [request] ∧ t.done.length ≤ 384 ∧
      net.up.sent = request_stream net.begun ∧
      net.down.received = reply_stream done ++ t.done := by
  have hplace := h.place
  rw [hat] at hplace
  exact hplace

/-- An exchange that gives the connection up. -/
theorem ClientInv.give_up (h : ClientInv C net done []) {reply : Option (List UInt8)}
    {result : ExchangeResult} (hcloses : result.closes = true)
    (hbegun : net.begun = done.map Exchange.request ++ [request])
    (hsent : net.up.sent <+: request_stream net.begun)
    (hreceived : reply_stream done <+: net.down.received) :
    ClientInv C (net.finish request reply result) done [⟨request, reply, result⟩] := by
  have hsplit := h.split
  rw [List.append_nil] at hsplit
  refine ⟨?_, h.answered, ?_, ?_⟩
  · show net.finished ++ _ = _
    rw [hsplit]
  · intro x hx
    rw [List.mem_singleton] at hx
    rw [hx]
    exact hcloses
  · show ClientAt _ _ _ (if result.closes then _ else _)
    rw [if_pos hcloses]
    refine ⟨?_, hsent, hreceived⟩
    show net.begun = _
    rw [hbegun, List.map_append]
    rfl

/-- An exchange that gets an answer. -/
theorem ClientInv.answered_by (h : ClientInv C net done []) {bytes : List UInt8}
    (hlength : bytes.length = 384) (hbegun : net.begun = done.map Exchange.request ++ [request])
    (hstays : (check_reply C.profile (.of_bytes bytes)).closes = false)
    (hsent : net.up.sent = request_stream net.begun)
    (hreceived : net.down.received = reply_stream done ++ bytes) :
    ClientInv C (net.finish request (some bytes) (check_reply C.profile (.of_bytes bytes)))
      (done ++ [⟨request, some bytes, check_reply C.profile (.of_bytes bytes)⟩]) [] := by
  have hsplit := h.split
  rw [List.append_nil] at hsplit
  refine ⟨?_, ?_, nofun, ?_⟩
  · show net.finished ++ _ = _
    rw [hsplit, List.append_nil]
  · intro x hx
    rcases List.mem_append.mp hx with hx | hx
    · exact h.answered x hx
    · rw [List.mem_singleton] at hx
      subst hx
      exact ⟨hstays, bytes, rfl, hlength, rfl⟩
  · show ClientAt _ _ _ (if _ then _ else _)
    rw [if_neg (by rw [hstays]; decide)]
    refine ⟨rfl, ?_, hsent, ?_⟩
    · show net.begun = _
      rw [hbegun, List.map_append]
      rfl
    · show net.down.received = _
      rw [hreceived, reply_stream_concat]
      rfl

theorem ClientInv.begins (h : ClientInv C net done tail) (hat : net.client = .idle)
    (request : Request) :
    ClientInv C { net with client := .sending request {}, begun := net.begun ++ [request] }
      done tail := by
  have hplace := h.place
  rw [hat] at hplace
  obtain ⟨htail, hbegun, hsent, hreceived⟩ := hplace
  refine ⟨h.split, h.answered, h.closing, htail, ?_, List.nil_prefix, ?_, hreceived⟩
  · show net.begun ++ [request] = _
    rw [hbegun]
  · show net.up.sent = _ ++ []
    rw [hsent, hbegun, List.append_nil]

theorem ClientInv.closes (h : ClientInv C net done tail) (hat : net.client = .idle) :
    ClientInv C { net with client := .closed } done tail := by
  have hplace := h.place
  rw [hat] at hplace
  obtain ⟨rfl, hbegun, hsent, hreceived⟩ := hplace
  refine ⟨h.split, h.answered, h.closing, ?_, ?_, ?_⟩
  · show net.begun = _
    rw [hbegun, List.append_nil]
  · show net.up.sent <+: request_stream net.begun
    rw [hsent]
  · show _ <+: net.down.received
    rw [hreceived]

/-- A pass that sends. -/
theorem ClientInv.sends (h : ClientInv C net done tail) (hat : net.client = .sending request t)
    {t' : Transfer} {chunk : List UInt8} (hdone : t'.done = t.done ++ chunk)
    (hpart : t'.done <+: request.bytes) :
    ClientInv C { net.wired (net.up.put chunk, net.down) with client := .sending request t' }
      done tail := by
  obtain ⟨htail, hbegun, -, hsent, hreceived⟩ := h.at_sending hat
  refine ⟨h.split, h.answered, h.closing, htail, hbegun, hpart, ?_, hreceived⟩
  show net.up.sent ++ chunk = _
  rw [hsent, hdone, List.append_assoc]

/-- The request is sent. -/
theorem ClientInv.sent (h : ClientInv C net done tail) (hat : net.client = .sending request t)
    (hwhole : t.done = request.bytes) :
    ClientInv C { net.wired (net.up, net.down) with client := .receiving request {} }
      done tail := by
  obtain ⟨htail, hbegun, -, hsent, hreceived⟩ := h.at_sending hat
  refine ⟨h.split, h.answered, h.closing, htail, hbegun, Nat.zero_le _, ?_, ?_⟩
  · show net.up.sent = request_stream net.begun
    rw [hsent, hbegun, request_stream_concat, hwhole]
  · show net.down.received = _ ++ []
    rw [hreceived, List.append_nil]

/-- A pass that receives. -/
theorem ClientInv.receives (h : ClientInv C net done tail)
    (hat : net.client = .receiving request t) {t' : Transfer} {chunk : List UInt8}
    (hdone : t'.done = t.done ++ chunk) (hlength : t'.done.length ≤ 384)
    (hpending : chunk <+: net.down.pending) :
    ClientInv C { net.wired (net.up, net.down.take chunk.length) with
      client := .receiving request t' } done tail := by
  obtain ⟨htail, hbegun, -, hsent, hreceived⟩ := h.at_receiving hat
  refine ⟨h.split, h.answered, h.closing, htail, hbegun, hlength, hsent, ?_⟩
  show (net.down.take chunk.length).received = _
  rw [net.down.received_take hpending, hreceived, hdone, List.append_assoc]

end client

/-! ### The holder's steps -/

section holder

variable {C : Connection σ} {net : Net σ} {session : Session} {result : Except Failure Value}
  {frame : List UInt8} {t : Transfer}

theorem HolderInv.at_receiving (h : HolderInv C net) (hat : net.holder = .receiving session t) :
    t.done.length ≤ 64 ∧ net.up.received = served_stream net.served ++ t.done ∧
      net.down.sent = response_stream C net.served := by
  have hplace := h.place
  rw [hat] at hplace
  exact hplace

theorem HolderInv.at_sending (h : HolderInv C net)
    (hat : net.holder = .sending session result frame t) :
    ∃ before y, net.served = before ++ [y] ∧ frame = C.response_bytes y ∧ t.done <+: frame ∧
      net.up.received = served_stream net.served ∧
      net.down.sent = response_stream C before ++ t.done := by
  have hplace := h.place
  rw [hat] at hplace
  exact hplace

/-- Wherever it is, the holder has heard all it has handled, and has said
    nothing else than answers. -/
theorem HolderInv.heard (h : HolderInv C net) : served_stream net.served <+: net.up.received ∧
    net.down.sent <+: response_stream C net.served := by
  have hplace := h.place
  cases hat : net.holder with
  | head session =>
    rw [hat] at hplace
    obtain ⟨hreceived, hsent⟩ := hplace
    rw [hreceived, hsent]
    exact ⟨List.prefix_refl _, List.prefix_refl _⟩
  | receiving session t =>
    obtain ⟨-, hreceived, hsent⟩ := h.at_receiving hat
    rw [hreceived, hsent]
    exact ⟨List.prefix_append _ _, List.prefix_refl _⟩
  | sending session result frame t =>
    obtain ⟨before, y, hserved, hframe, hpart, hreceived, hsent⟩ := h.at_sending hat
    refine ⟨by rw [hreceived], ?_⟩
    rw [hsent, hserved, response_stream_concat, ← hframe]
    exact (List.prefix_append_right_inj _).mpr hpart
  | gone =>
    rw [hat] at hplace
    exact hplace

theorem HolderInv.leaves (h : HolderInv C net) {net' : Net σ}
    (hreceived : net'.up.received = net.up.received) (hsent : net'.down.sent = net.down.sent)
    (hserved : net'.served = net.served) (hholder : net'.holder = .gone) : HolderInv C net' := by
  obtain ⟨hheard, hsaid⟩ := h.heard
  refine ⟨by rw [hserved]; exact h.whole, ?_⟩
  rw [hholder]
  show _ <+: net'.up.received ∧ net'.down.sent <+: _
  rw [hreceived, hsent, hserved]
  exact ⟨hheard, hsaid⟩

theorem HolderInv.waits (h : HolderInv C net) (hat : net.holder = .head session) (world : σ) :
    HolderInv C { net with world := world, holder := .receiving session {} } := by
  have hplace := h.place
  rw [hat] at hplace
  obtain ⟨hreceived, hsent⟩ := hplace
  refine ⟨h.whole, Nat.zero_le _, ?_, hsent⟩
  show net.up.received = _ ++ []
  rw [hreceived, List.append_nil]

theorem HolderInv.receives (h : HolderInv C net) (hat : net.holder = .receiving session t)
    {t' : Transfer} {chunk : List UInt8} (hdone : t'.done = t.done ++ chunk)
    (hlength : t'.done.length ≤ 64) (hpending : chunk <+: net.up.pending) :
    HolderInv C { net.held (net.down, net.up.take chunk.length) with
      holder := .receiving session t' } := by
  obtain ⟨-, hreceived, hsent⟩ := h.at_receiving hat
  refine ⟨h.whole, hlength, ?_, hsent⟩
  show (net.up.take chunk.length).received = served_stream net.served ++ t'.done
  rw [net.up.received_take hpending, hreceived, hdone, List.append_assoc]

/-- A frame is complete and has been handled. -/
theorem HolderInv.received (h : HolderInv C net) (hat : net.holder = .receiving session t)
    (hwhole : t.done.length = 64) (result : Except Failure Value) (confirmed : Bool) (world : σ)
    (session' : Session) :
    HolderInv C { net.held (net.down, net.up) with
      world := world
      holder := .sending session' result (C.answer_bytes result confirmed) {}
      served := net.served ++ [⟨t.done, result, confirmed⟩] } := by
  obtain ⟨-, hreceived, hsent⟩ := h.at_receiving hat
  constructor
  · intro y hy
    rcases List.mem_append.mp hy with hy | hy
    · exact h.whole y hy
    · rw [List.mem_singleton] at hy
      rw [hy]
      exact hwhole
  · refine ⟨net.served, ⟨t.done, result, confirmed⟩, rfl, rfl, List.nil_prefix, ?_, ?_⟩
    · show net.up.received = served_stream (_ ++ _)
      rw [hreceived, served_stream_concat]
    · show net.down.sent = _ ++ []
      rw [hsent, List.append_nil]

theorem HolderInv.sends (h : HolderInv C net) (hat : net.holder = .sending session result frame t)
    {t' : Transfer} {chunk : List UInt8} (hdone : t'.done = t.done ++ chunk)
    (hpart : t'.done <+: frame) :
    HolderInv C { net.held (net.down.put chunk, net.up) with
      holder := .sending session result frame t' } := by
  obtain ⟨before, y, hserved, hframe, -, hreceived, hsent⟩ := h.at_sending hat
  refine ⟨h.whole, before, y, hserved, hframe, hpart, hreceived, ?_⟩
  show net.down.sent ++ chunk = _
  rw [hsent, hdone, List.append_assoc]

/-- The answer is sent. -/
theorem HolderInv.sent (h : HolderInv C net) (hat : net.holder = .sending session result frame t)
    (hwhole : t.done = frame) :
    HolderInv C { net.held (net.down, net.up) with holder := .resume result session } := by
  obtain ⟨before, y, hserved, hframe, -, hreceived, hsent⟩ := h.at_sending hat
  have hsaid : net.down.sent = response_stream C net.served := by
    rw [hsent, hserved, response_stream_concat, hwhole, hframe]
  refine ⟨h.whole, ?_⟩
  show HolderAt C _ (Holder.resume result session)
  unfold Holder.resume
  cases after_response result session with
  | inl session => exact ⟨hreceived, hsaid⟩
  | inr leaving =>
    show served_stream net.served <+: net.up.received ∧ net.down.sent <+: _
    rw [hreceived, hsaid]
    exact ⟨List.prefix_refl _, List.prefix_refl _⟩

end holder

/-! ### All steps -/

section steps

variable {C : Connection σ} {net net' : Net σ}

theorem sending_runs {frame : List UInt8} {seconds : Nat} {t : Transfer} {o i : Channel UInt8}
    {r : Pass} {s : Channel UInt8 × Channel UInt8} (hdone : t.done <+: frame)
    (h : Prog.Runs wire (sending seconds frame t) (o, i) r s) : Sends frame t o i r s :=
  Prog.wp_runs (sending_spec hdone) h

theorem receiving_runs {length seconds : Nat} {t : Transfer} {o i : Channel UInt8}
    {r : Pass} {s : Channel UInt8 × Channel UInt8} (hdone : t.done.length ≤ length)
    (h : Prog.Runs wire (receiving seconds length t) (o, i) r s) : Receives length t o i r s :=
  Prog.wp_runs (receiving_spec hdone) h

/-- The holder's invariant survives what the client does to the streams. -/
theorem Framed.of_client (h : Framed C net) {done tail : List Exchange}
    (hclient : ClientInv C net' done tail) (hup : net'.up.Sound) (hdown : net'.down.Sound)
    (hreceived : net'.up.received = net.up.received) (hsent : net'.down.sent = net.down.sent)
    (hholder : net'.holder = net.holder) (hserved : net'.served = net.served) :
    Framed C net' :=
  ⟨hup, hdown, ⟨done, tail, hclient⟩, h.holder.frame hreceived hsent hholder hserved⟩

/-- And the client's what the holder does. -/
theorem Framed.of_holder (h : Framed C net) (hinv : HolderInv C net') (hup : net'.up.Sound)
    (hdown : net'.down.Sound) (hsent : net'.up.sent = net.up.sent)
    (hreceived : net'.down.received = net.down.received) (hclient : net'.client = net.client)
    (hbegun : net'.begun = net.begun) (hfinished : net'.finished = net.finished) :
    Framed C net' := by
  obtain ⟨done, tail, hc⟩ := h.client
  exact ⟨hup, hdown, ⟨done, tail, hc.frame hsent hreceived hclient hbegun hfinished⟩, hinv⟩

/-- Every step keeps the invariant. -/
theorem Framed.step (h : Framed C net) (hstep : Step C net net') : Framed C net' := by
  obtain ⟨done, tail, hc⟩ := h.client
  cases hstep with
  | begins request hat =>
    exact h.of_client (hc.begins hat (stamp request)) h.up_sound h.down_sound rfl rfl rfl rfl
  | client_sends hat hrun =>
    obtain ⟨-, -, hpart, -⟩ := hc.at_sending hat
    cases sending_runs hpart hrun with
    | @goes _ chunk hdone hpart' =>
      exact h.of_client (hc.sends hat hdone hpart') (h.up_sound.put chunk) h.down_sound
        (h.up_sound.received_put chunk) rfl rfl rfl
  | client_sent hat hrun =>
    obtain ⟨-, -, hpart, -⟩ := hc.at_sending hat
    cases sending_runs hpart hrun with
    | whole hwhole =>
      exact h.of_client (hc.sent hat hwhole) h.up_sound h.down_sound rfl rfl rfl rfl
  | client_unsent hat hrun =>
    obtain ⟨rfl, hbegun, hpart, hsent, hreceived⟩ := hc.at_sending hat
    cases sending_runs hpart hrun with
    | fails =>
      refine h.of_client (@ClientInv.give_up σ C net done _ hc none _ rfl hbegun ?_ ?_) h.up_sound
        h.down_sound rfl rfl rfl rfl
      · rw [hsent, hbegun, request_stream_concat]
        exact (List.prefix_append_right_inj _).mpr hpart
      · rw [hreceived]
  | client_receives hat hrun =>
    obtain ⟨-, -, hlength, -⟩ := hc.at_receiving hat
    cases receiving_runs hlength hrun with
    | @goes _ chunk hdone hlength' hpending =>
      exact h.of_client (hc.receives hat hdone hlength' hpending) h.up_sound
        (h.down_sound.take hpending) rfl rfl rfl rfl
  | client_received hat hrun =>
    obtain ⟨rfl, hbegun, hlength, hsent, hreceived⟩ := hc.at_receiving hat
    cases receiving_runs hlength hrun with
    | whole hwhole =>
      cases hcloses : (check_reply C.profile (.of_bytes _)).closes with
      | false =>
        exact h.of_client (hc.answered_by hwhole hbegun hcloses hsent hreceived) h.up_sound
          h.down_sound rfl rfl rfl rfl
      | true =>
        refine h.of_client (hc.give_up hcloses hbegun ?_ ?_) h.up_sound h.down_sound rfl rfl rfl rfl
        · rw [hsent]
        · rw [hreceived]
          exact List.prefix_append _ _
  | client_unreceived hat hrun =>
    obtain ⟨rfl, hbegun, hlength, hsent, hreceived⟩ := hc.at_receiving hat
    cases receiving_runs hlength hrun with
    | fails =>
      refine h.of_client (@ClientInv.give_up σ C net done _ hc none _ rfl hbegun ?_ ?_) h.up_sound
        h.down_sound rfl rfl rfl rfl
      · rw [hsent]
      · rw [hreceived]
        exact List.prefix_append _ _
  | client_closes hat =>
    exact h.of_client (hc.closes hat) h.up_sound h.down_sound rfl rfl rfl rfl
  | client_refused _ => exact h
  | holder_stops hat _ =>
    exact h.of_holder (h.holder.leaves rfl rfl rfl rfl) h.up_sound h.down_sound rfl rfl rfl rfl rfl
  | holder_waits hat _ =>
    exact h.of_holder (h.holder.waits hat _) h.up_sound h.down_sound rfl rfl rfl rfl rfl
  | holder_receives hat hrun =>
    obtain ⟨hlength, -⟩ := h.holder.at_receiving hat
    cases receiving_runs hlength hrun with
    | @goes _ chunk hdone hlength' hpending =>
      exact h.of_holder (h.holder.receives hat hdone hlength' hpending)
        (h.up_sound.take hpending) h.down_sound rfl rfl rfl rfl rfl
  | holder_received hat hrun _ _ =>
    obtain ⟨hlength, -⟩ := h.holder.at_receiving hat
    cases receiving_runs hlength hrun with
    | whole hwhole =>
      exact h.of_holder (h.holder.received hat hwhole _ _ _ _) h.up_sound h.down_sound
        rfl rfl rfl rfl rfl
  | holder_unreceived hat hrun =>
    obtain ⟨hlength, -⟩ := h.holder.at_receiving hat
    cases receiving_runs hlength hrun with
    | fails =>
      exact h.of_holder (h.holder.leaves rfl rfl rfl rfl) h.up_sound h.down_sound
        rfl rfl rfl rfl rfl
  | holder_sends hat hrun =>
    obtain ⟨-, -, -, -, hpart, -⟩ := h.holder.at_sending hat
    cases sending_runs hpart hrun with
    | @goes _ chunk hdone hpart' =>
      exact h.of_holder (h.holder.sends hat hdone hpart') h.up_sound (h.down_sound.put chunk)
        rfl (h.down_sound.received_put chunk) rfl rfl rfl
  | holder_sent hat hrun =>
    obtain ⟨-, -, -, -, hpart, -⟩ := h.holder.at_sending hat
    cases sending_runs hpart hrun with
    | whole hwhole =>
      exact h.of_holder (h.holder.sent hat hwhole) h.up_sound h.down_sound rfl rfl rfl rfl rfl
  | holder_unsent hat hrun =>
    obtain ⟨-, -, -, -, hpart, -⟩ := h.holder.at_sending hat
    cases sending_runs hpart hrun with
    | fails =>
      exact h.of_holder (h.holder.leaves rfl rfl rfl rfl) h.up_sound h.down_sound
        rfl rfl rfl rfl rfl

theorem Framed.start (C : Connection σ) (world : σ) : Framed C { world := world } := by
  refine ⟨Nat.le_refl _, Nat.le_refl _, ⟨[], [], rfl, nofun, nofun, rfl, rfl, rfl, rfl⟩, nofun, ?_⟩
  exact ⟨rfl, rfl⟩

theorem Framed.steps {world : σ} (h : Steps C { world := world } net) : Framed C net := by
  induction h with
  | refl => exact .start C world
  | tail _ hstep ih => exact ih.step hstep

end steps

/-! ## What both ends have in common -/

section streams

variable {C : Connection σ} {net : Net σ} {done tail : List Exchange}

/-- Wherever it is, the client has sent nothing but requests, and an answer
    for each exchange it has been through. -/
theorem ClientInv.said (h : ClientInv C net done tail) :
    net.up.sent <+: request_stream net.begun ∧ reply_stream done <+: net.down.received ∧
      done.map Exchange.request <+: net.begun := by
  have hplace := h.place
  cases hat : net.client with
  | idle =>
    rw [hat] at hplace
    obtain ⟨-, hbegun, hsent, hreceived⟩ := hplace
    rw [hsent, hreceived, ← hbegun]
    exact ⟨List.prefix_refl _, List.prefix_refl _, List.prefix_refl _⟩
  | sending request t =>
    obtain ⟨-, hbegun, hpart, hsent, hreceived⟩ := h.at_sending hat
    rw [hsent, hreceived, hbegun, request_stream_concat]
    exact ⟨(List.prefix_append_right_inj _).mpr hpart, List.prefix_refl _,
      List.prefix_append _ _⟩
  | receiving request t =>
    obtain ⟨-, hbegun, -, hsent, hreceived⟩ := h.at_receiving hat
    rw [hsent, hreceived, hbegun]
    exact ⟨List.prefix_refl _, List.prefix_append _ _, List.prefix_append _ _⟩
  | closed =>
    rw [hat] at hplace
    obtain ⟨hbegun, hsent, hreceived⟩ := hplace
    refine ⟨hsent, hreceived, ?_⟩
    rw [hbegun, List.map_append]
    exact List.prefix_append _ _

/-- The holder has handled the first of the requests, in their order. -/
theorem Framed.served_prefix (h : Framed C net) : net.served.map Served.request <+: net.begun := by
  obtain ⟨done, tail, hc⟩ := h.client
  have hstream : served_stream net.served <+: request_stream net.begun :=
    (h.holder.heard.1.trans net.up.received_prefix).trans hc.said.1
  have hframes : net.served.map Served.frame <+: net.begun.map Request.bytes := by
    refine frames_prefix (n := 64) (by decide) ?_ ?_ hstream
    · intro x hx
      obtain ⟨y, hy, rfl⟩ := List.mem_map.mp hx
      exact h.holder.whole y hy
    · intro x hx
      obtain ⟨request, -, rfl⟩ := List.mem_map.mp hx
      rfl
  have hrequests := List.IsPrefix.map Request.of_bytes hframes
  rw [List.map_map, List.map_map] at hrequests
  have hsame : Request.of_bytes ∘ Request.bytes = id := funext Request.of_bytes_bytes
  rw [hsame, List.map_id] at hrequests
  exact hrequests

/-- The client has accepted the first of the answers, in their order. -/
theorem Framed.replies_prefix (h : Framed C net) (hc : ClientInv C net done tail) :
    done.map (fun x => x.reply.getD []) <+: net.served.map C.response_bytes := by
  have hstream : reply_stream done <+: response_stream C net.served :=
    (hc.said.2.1.trans net.down.received_prefix).trans h.holder.heard.2
  refine frames_prefix (n := 384) (by decide) ?_ ?_ hstream
  · intro x hx
    obtain ⟨exchange, hmem, rfl⟩ := List.mem_map.mp hx
    obtain ⟨bytes, hreply, hlength, -⟩ := (hc.answered exchange hmem).reply
    rw [hreply]
    exact hlength
  · intro x hx
    obtain ⟨y, -, rfl⟩ := List.mem_map.mp hx
    exact C.response_bytes_length y

/-- An exchange that kept the connection got the answer to its request. -/
theorem Framed.answered (h : Framed C net) {i : Nat} {x : Exchange}
    (hx : net.finished[i]? = some x) (hstays : x.result.closes = false) :
    ∃ y, net.served[i]? = some y ∧ net.begun[i]? = some x.request ∧ y.request = x.request ∧
      x.result = check_reply C.profile (.of_bytes (C.response_bytes y)) := by
  obtain ⟨done, tail, hc⟩ := h.client
  -- the exchanges that closed the connection come last
  have hdone : done[i]? = some x := by
    rw [hc.split] at hx
    rcases Nat.lt_or_ge i done.length with hlt | hge
    · rw [List.getElem?_append_left hlt] at hx
      exact hx
    · rw [List.getElem?_append_right hge] at hx
      have hcloses := hc.closing x (List.mem_of_getElem? hx)
      rw [hstays] at hcloses
      cases hcloses
  have hbegun : net.begun[i]? = some x.request := by
    apply prefix_at hc.said.2.2
    rw [List.getElem?_map, hdone]
    rfl
  obtain ⟨bytes, hreply, -, hresult⟩ := (hc.answered x (List.mem_of_getElem? hdone)).reply
  have hbytes : (net.served.map C.response_bytes)[i]? = some bytes := by
    apply prefix_at (h.replies_prefix hc)
    rw [List.getElem?_map, hdone, Option.map_some, hreply]
    rfl
  rw [List.getElem?_map, Option.map_eq_some_iff] at hbytes
  obtain ⟨y, hy, rfl⟩ := hbytes
  have hrequest : net.begun[i]? = some y.request := by
    apply prefix_at h.served_prefix
    rw [List.getElem?_map, hy]
    rfl
  rw [hbegun] at hrequest
  exact ⟨y, hy, hbegun, (Option.some.inj hrequest).symm, hresult⟩

end streams

/-! ## The service behind the frames -/

section serving

variable {C : Connection σ} {world : σ} {net net' : Net σ}

/-- What the holder answers a frame is what its service computes for it. -/
def Computed (C : Connection σ) (y : Served) : Prop :=
  ∃ session s session' s₁ s₂,
    Proc.Runs C.E (handle C.ops y.request) session s y.result session' s₁ ∧
      C.E s₁ .confirmed y.confirmed s₂

theorem computed_step (hstep : Step C net net') (h : ∀ y ∈ net.served, Computed C y) :
    ∀ y ∈ net'.served, Computed C y := by
  cases hstep with
  | @holder_received session session' _ bytes _ result confirmed w₁ w₂ _ _ hhandle hconfirmed =>
    intro y hy
    rcases List.mem_append.mp hy with hy | hy
    · exact h y hy
    · rw [List.mem_singleton] at hy
      subst hy
      exact ⟨session, net.world, session', w₁, w₂, hhandle, hconfirmed⟩
  | _ => exact h

theorem computed_steps (h : Steps C { world := world } net) : ∀ y ∈ net.served, Computed C y := by
  induction h with
  | refl => nofun
  | tail _ hstep ih => exact computed_step hstep ih

/-- Where the holder is in `serve_requests`. -/
def ServingAt (C : Connection σ) (world : σ) (net : Net σ) : Holder → Prop
  | .head session => Loop.Heads C.E (serve_request C.ops) {} world session net.world
  | .receiving session _ => ∃ w, Loop.Heads C.E (serve_request C.ops) {} world session w ∧
    C.E w .stopped false net.world
  | .sending session' result _ _ => ∃ session w w₁ w₂ request confirmed,
    Loop.Heads C.E (serve_request C.ops) {} world session w ∧ C.E w .stopped false w₁ ∧
    Proc.Runs C.E (handle C.ops request) session w₁ result session' w₂ ∧
    C.E w₂ .confirmed confirmed net.world
  | .gone => True

/-- A transfer may bring any frame, and any frame may be taken. -/
structure Unframed (E : Env service σ) : Prop where
  receive : ∀ s r, E s .receive r s
  send : ∀ s response r, E s (.send response) r s

/-- The two transfers of a pass make it a pass of `serve_requests`. -/
theorem serving_sent (hE : Unframed C.E) {session session' session'' : Session} {w w₁ w₂ w₃ : σ}
    {request : Request} {result : Except Failure Value} {confirmed : Bool}
    (hstop : C.E w .stopped false w₁)
    (hhandle : Proc.Runs C.E (handle C.ops request) session w₁ result session' w₂)
    (hconfirmed : C.E w₂ .confirmed confirmed w₃)
    (hafter : after_response result session' = .inl session'') :
    Prog.Runs C.E (serve_request C.ops session) w (.inl session'') w₃ := by
  have hanswer : Prog.Runs C.E (answer C.ops request session) w₁ (.inl session'') w₃ := by
    refine Prog.Runs.bind hhandle (Prog.Runs.bind (runs_perform hconfirmed)
      (Prog.Runs.bind (@runs_perform _ _ (.send _) (.ok ()) _ _ (hE.send w₃ _ (.ok ()))) ?_))
    show Prog.Runs C.E (.pure (after_response result session')) w₃ _ w₃
    rw [hafter]
    exact .pure
  exact Prog.Runs.bind (runs_perform hstop)
    (Prog.Runs.bind (@runs_perform _ _ .receive (.ok request) _ _ (hE.receive w₁ (.ok request)))
      hanswer)

theorem serving_step (hE : Unframed C.E) (h : ServingAt C world net net.holder)
    (hstep : Step C net net') : ServingAt C world net' net'.holder := by
  cases hstep with
  | begins => exact h
  | client_sends => exact h
  | client_sent => exact h
  | client_unsent => exact h
  | client_receives => exact h
  | client_received => exact h
  | client_unreceived => exact h
  | client_closes => exact h
  | client_refused => exact h
  | holder_stops => trivial
  | holder_waits hat hstop =>
    rw [hat] at h
    exact ⟨net.world, h, hstop⟩
  | holder_receives hat _ =>
    rw [hat] at h
    exact h
  | holder_received hat _ hhandle hconfirmed =>
    rw [hat] at h
    obtain ⟨w, hheads, hstop⟩ := h
    exact ⟨_, w, net.world, _, _, _, hheads, hstop, hhandle, hconfirmed⟩
  | holder_unreceived => trivial
  | holder_sends hat _ =>
    rw [hat] at h
    exact h
  | holder_sent hat _ =>
    rw [hat] at h
    obtain ⟨session, w, w₁, w₂, request, confirmed, hheads, hstop, hhandle, hconfirmed⟩ := h
    show ServingAt C world _ (Holder.resume _ _)
    unfold Holder.resume
    cases hafter : after_response _ _ with
    | inl session'' => exact .step hheads (serving_sent hE hstop hhandle hconfirmed hafter)
    | inr leaving => trivial
  | holder_unsent => trivial

/-- A holder that is at its loop head here is there in `serve_requests`, so
    what holds at the heads of that loop holds behind the frames. -/
theorem heads_of_steps (hE : Unframed C.E) (h : Steps C { world := world } net)
    {session : Session} (hat : net.holder = .head session) :
    Loop.Heads C.E (serve_request C.ops) {} world session net.world := by
  have hserving : ServingAt C world net net.holder := by
    clear hat
    induction h with
    | refl => exact .refl
    | tail _ hstep ih => exact serving_step hE ih hstep
  rw [hat] at hserving
  exact hserving

end serving

/-! ## Closed connections -/

section closed

variable {C : Connection σ} {net net' : Net σ}

theorem closed_step (hat : net.client = .closed) (hstep : Step C net net') :
    net'.client = .closed ∧ net'.up.sent = net.up.sent ∧ net'.down.taken = net.down.taken ∧
      net'.finished = net.finished := by
  cases hstep with
  | begins _ hidle => rw [hat] at hidle; cases hidle
  | client_sends hsending _ => rw [hat] at hsending; cases hsending
  | client_sent hsending _ => rw [hat] at hsending; cases hsending
  | client_unsent hsending _ => rw [hat] at hsending; cases hsending
  | client_receives hreceiving _ => rw [hat] at hreceiving; cases hreceiving
  | client_received hreceiving _ => rw [hat] at hreceiving; cases hreceiving
  | client_unreceived hreceiving _ => rw [hat] at hreceiving; cases hreceiving
  | client_closes hidle => rw [hat] at hidle; cases hidle
  | client_refused _ => exact ⟨hat, rfl, rfl, rfl⟩
  | holder_stops _ _ => exact ⟨hat, rfl, rfl, rfl⟩
  | holder_waits _ _ => exact ⟨hat, rfl, rfl, rfl⟩
  | holder_receives _ hrun =>
    obtain ⟨htaken, hsent⟩ := wire_runs_frame hrun
    exact ⟨hat, hsent, htaken, rfl⟩
  | holder_received _ hrun _ _ =>
    obtain ⟨htaken, hsent⟩ := wire_runs_frame hrun
    exact ⟨hat, hsent, htaken, rfl⟩
  | holder_unreceived _ hrun =>
    obtain ⟨htaken, hsent⟩ := wire_runs_frame hrun
    exact ⟨hat, hsent, htaken, rfl⟩
  | holder_sends _ hrun =>
    obtain ⟨htaken, hsent⟩ := wire_runs_frame hrun
    exact ⟨hat, hsent, htaken, rfl⟩
  | holder_sent _ hrun =>
    obtain ⟨htaken, hsent⟩ := wire_runs_frame hrun
    exact ⟨hat, hsent, htaken, rfl⟩
  | holder_unsent _ hrun =>
    obtain ⟨htaken, hsent⟩ := wire_runs_frame hrun
    exact ⟨hat, hsent, htaken, rfl⟩

theorem closed_steps (hat : net.client = .closed) (h : Steps C net net') :
    net'.client = .closed ∧ net'.up.sent = net.up.sent ∧ net'.down.taken = net.down.taken ∧
      net'.finished = net.finished := by
  induction h with
  | refl => exact ⟨hat, rfl, rfl, rfl⟩
  | tail _ hstep ih =>
    obtain ⟨hclosed, hsent, htaken, hfinished⟩ := ih
    obtain ⟨hclosed', hsent', htaken', hfinished'⟩ := closed_step hclosed hstep
    exact ⟨hclosed', hsent'.trans hsent, htaken'.trans htaken, hfinished'.trans hfinished⟩

/-- An exchange that failed in a transfer or on a frame has closed. -/
theorem Framed.closed (h : Framed C net) {x : Exchange} (hx : x ∈ net.finished)
    (hcloses : x.result.closes = true) : net.client = .closed := by
  obtain ⟨done, tail, hc⟩ := h.client
  rw [hc.split] at hx
  have htail : tail ≠ [] := by
    rcases List.mem_append.mp hx with hdone | htail
    · have hstays := (hc.answered x hdone).stays
      rw [hcloses] at hstays
      cases hstays
    · exact List.ne_nil_of_mem htail
  cases hat : net.client with
  | closed => rfl
  | idle =>
    have hplace := hc.place
    rw [hat] at hplace
    exact absurd hplace.1 htail
  | sending request t => exact absurd (hc.at_sending hat).1 htail
  | receiving request t => exact absurd (hc.at_receiving hat).1 htail

end closed

/-! ## An exchange on a smooth wire -/

section smooth

variable {C : Connection σ} {net : Net σ} {request : Request} {session : Session}

theorem steps_client_send (hat : net.client = .sending request {}) :
    Steps C net { net with up := net.up.put request.bytes, client := .receiving request {} } := by
  have h₁ : Step C net { net with client := .sending request ⟨some (0 + 2 * 1000), []⟩ } :=
    .client_sends (s := (net.up, net.down)) hat runs_start
  have hnil : request.bytes ≠ [] := by
    intro hnil
    have hlength : request.bytes.length = 64 := rfl
    rw [hnil] at hlength
    cases hlength
  refine .head h₁ (.head (.client_sends rfl (runs_send hnil _ _)) ?_)
  exact .single (.client_sent (s := (net.up.put request.bytes, net.down)) rfl (runs_whole rfl))

theorem steps_holder_receive (hat : net.holder = .receiving session {})
    (hpending : net.up.pending = request.bytes) {result : Except Failure Value}
    {session' : Session} {confirmed : Bool} {w₁ w₂ : σ}
    (hhandle : Proc.Runs C.E (handle C.ops request) session net.world result session' w₁)
    (hconfirmed : C.E w₁ .confirmed confirmed w₂) :
    Steps C net { net with
      up := net.up.take 64
      world := w₂
      holder := .sending session' result (C.answer_bytes result confirmed) {}
      served := net.served ++ [⟨request.bytes, result, confirmed⟩] } := by
  have h₁ : Step C net { net with holder := .receiving session ⟨some (0 + 75 * 1000), []⟩ } :=
    .holder_receives (s := (net.down, net.up)) hat runs_start
  have hnil : request.bytes ≠ [] := by
    intro hnil
    have hlength : request.bytes.length = 64 := rfl
    rw [hnil] at hlength
    cases hlength
  refine .head h₁ (.head (.holder_receives (s := (net.down, net.up.take 64)) rfl
    (runs_recv hnil _ hpending)) (.single ?_))
  have hrequest : Proc.Runs C.E (handle C.ops (.of_bytes request.bytes)) session net.world result
      session' w₁ := by
    rw [Request.of_bytes_bytes]
    exact hhandle
  exact .holder_received (s := (net.down, net.up.take 64)) rfl (runs_whole rfl) hrequest hconfirmed

theorem steps_holder_send {result : Except Failure Value} {confirmed : Bool}
    (hat : net.holder = .sending session result (C.answer_bytes result confirmed) {}) :
    Steps C net { net with
      down := net.down.put (C.answer_bytes result confirmed)
      holder := .resume result session } := by
  let started : Transfer := ⟨some (0 + 75 * 1000), []⟩
  let frame := C.answer_bytes result confirmed
  have h₁ : Step C net { net with holder := .sending session result frame started } :=
    .holder_sends (s := (net.down, net.up)) hat runs_start
  have hnil : C.answer_bytes result confirmed ≠ [] := by
    intro hnil
    have hlength : (C.answer_bytes result confirmed).length = 384 := Response.bytes_length _ _
    rw [hnil] at hlength
    cases hlength
  refine .head h₁ (.head (.holder_sends rfl (runs_send hnil _ _)) (.single ?_))
  exact .holder_sent (s := (net.down.put (C.answer_bytes result confirmed), net.up)) rfl
    (runs_whole rfl)

theorem steps_client_receive {bytes : List UInt8} (hat : net.client = .receiving request {})
    (hlength : bytes.length = 384) (hpending : net.down.pending = bytes) :
    Steps C net ({ net with down := net.down.take 384 }.finish request (some bytes)
      (check_reply C.profile (.of_bytes bytes))) := by
  have h₁ : Step C net { net with client := .receiving request ⟨some (0 + 2 * 1000), []⟩ } :=
    .client_receives (s := (net.up, net.down)) hat runs_start
  have hnil : bytes ≠ [] := by
    intro hnil
    rw [hnil] at hlength
    cases hlength
  have hrecv : Prog.Runs wire (receiving 2 384 ⟨some (0 + 2 * 1000), []⟩) (net.up, net.down)
      (.inl ⟨some (0 + 2 * 1000), bytes⟩) (net.up, net.down.take 384) := by
    rw [← hlength]
    exact runs_recv hnil _ hpending
  refine .head h₁ (.head (.client_receives rfl hrecv) (.single ?_))
  exact .client_received (s := (net.up, net.down.take 384)) rfl (runs_whole hlength)

/-- What is written to a drained channel is all there is to read. -/
theorem pending_put {c : Channel UInt8} (h : c.taken = c.sent.length) (xs : List UInt8) :
    (c.put xs).pending = xs := by
  unfold Channel.pending
  rw [Channel.put_taken, Channel.put_sent, h]
  exact List.drop_left

/-- From rest to rest, a request can be answered. -/
theorem exchange_possible (hidle : net.client = .idle) (hhead : net.holder = .head session)
    (hup : net.up.taken = net.up.sent.length) (hdown : net.down.taken = net.down.sent.length)
    (request : Request) {result : Except Failure Value} {session' : Session} {confirmed : Bool}
    {w₁ w₂ w₃ : σ} (hstop : C.E net.world .stopped false w₁)
    (hhandle : Proc.Runs C.E (handle C.ops (stamp request)) session w₁ result session' w₂)
    (hconfirmed : C.E w₂ .confirmed confirmed w₃) :
    ∃ net', Steps C net net' ∧ net'.finished = net.finished ++ [⟨stamp request,
      some (C.answer_bytes result confirmed),
      check_reply C.profile (.of_bytes (C.answer_bytes result confirmed))⟩] := by
  have h₁ : Step C net _ := .begins request hidle
  have h₂ := @Step.holder_waits σ C { net with
    client := .sending (stamp request) {}, begun := net.begun ++ [stamp request] } _ _ hhead hstop
  have h₃ := @steps_client_send σ C { net with
    client := .sending (stamp request) {}, begun := net.begun ++ [stamp request],
    world := w₁, holder := .receiving session {} } _ rfl
  have h₄ := @steps_holder_receive σ C { net with
    client := .receiving (stamp request) {}, begun := net.begun ++ [stamp request],
    world := w₁, holder := .receiving session {}, up := net.up.put (stamp request).bytes }
    (stamp request) session rfl (pending_put hup _) result session' confirmed w₂ w₃ hhandle
    hconfirmed
  have h₅ := @steps_holder_send σ C { net with
    client := .receiving (stamp request) {}, begun := net.begun ++ [stamp request],
    world := w₃, holder := .sending session' result (C.answer_bytes result confirmed) {},
    up := (net.up.put (stamp request).bytes).take 64,
    served := net.served ++ [⟨(stamp request).bytes, result, confirmed⟩] }
    session' result confirmed rfl
  have h₆ := @steps_client_receive σ C { net with
    client := .receiving (stamp request) {}, begun := net.begun ++ [stamp request],
    world := w₃, holder := .resume result session',
    up := (net.up.put (stamp request).bytes).take 64,
    down := net.down.put (C.answer_bytes result confirmed),
    served := net.served ++ [⟨(stamp request).bytes, result, confirmed⟩] }
    (stamp request) (C.answer_bytes result confirmed) rfl (Response.bytes_length _ _)
    (pending_put hdown _)
  exact ⟨_, .head h₁ (.head h₂ (h₃.trans (h₄.trans (h₅.trans h₆)))), rfl⟩

end smooth

/-! ## Answers match their requests -/

/-- The two patches agree on every field that the second names. -/
structure SameNamed (p q : Patch) : Prop where
  fields : p.fields = q.fields
  mode : q.has PATCH_MODE → p.value.mode = q.value.mode
  rgb : q.has PATCH_RGB → p.value.red = q.value.red ∧ p.value.green = q.value.green ∧
    p.value.blue = q.value.blue
  brightness : q.has PATCH_BRIGHTNESS → p.value.brightness = q.value.brightness
  timing : q.has PATCH_TIMING → p.value.on_ms = q.value.on_ms ∧ p.value.off_ms = q.value.off_ms
  color : q.has PATCH_COLOR → p.value.color = q.value.color

/-- The holder decodes the patch the client encoded. -/
theorem apply_request_patch (id : UInt8) (patch : Patch) :
    SameNamed (stamp (apply_request id patch)).patch patch :=
  ⟨rfl, fun _ => rfl, fun _ => ⟨rfl, rfl, rfl⟩, fun _ => rfl, fun _ => ⟨rfl, rfl⟩, fun _ => rfl⟩

/-- Whatever the two ends and the wire do: an exchange that succeeds has the
    value the holder computed for its request, the request and the answer
    being the same in number; a client that fails in a transfer or on a
    frame is through with the connection; and an APPLY that is handled has
    the patch of the client's. -/
theorem exchanges_match {C : Connection σ} {world : σ} {net : Net σ}
    (h : Steps C { world := world } net) :
    (∀ (i : Nat) (x : Exchange) (value : Value), net.finished[i]? = some x →
      x.result = .success value → ∃ y, net.served[i]? = some y ∧
        net.begun[i]? = some x.request ∧ y.request = x.request ∧ y.result = .ok value ∧
        Computed C y) ∧
    (∀ x ∈ net.finished, x.result.closes = true → net.client = .closed) ∧
    (net.client = .closed → ∀ net', Steps C net net' → net'.client = .closed ∧
      net'.up.sent = net.up.sent ∧ net'.down.taken = net.down.taken ∧
      net'.finished = net.finished) ∧
    ∀ (i : Nat) y id patch, net.served[i]? = some y →
      net.begun[i]? = some (stamp (apply_request id patch)) → SameNamed y.request.patch patch := by
  have hframed := Framed.steps h
  refine ⟨?_, ?_, ?_, ?_⟩
  · intro i x value hx hsuccess
    have hstays : x.result.closes = false := by
      rw [hsuccess]
      rfl
    obtain ⟨y, hy, hbegun, hrequest, hresult⟩ := hframed.answered hx hstays
    rw [hsuccess] at hresult
    have hvalue : y.result = .ok value := check_respond_success hresult.symm
    exact ⟨y, hy, hbegun, hrequest, hvalue, computed_steps h y (List.mem_of_getElem? hy)⟩
  · intro x hx hcloses
    exact hframed.closed hx hcloses
  · intro hclosed net' hsteps
    exact closed_steps hclosed hsteps
  · intro i y id patch hy hbegun
    have hrequest : net.begun[i]? = some y.request := by
      apply prefix_at hframed.served_prefix
      rw [List.getElem?_map, hy]
      rfl
    rw [hbegun] at hrequest
    rw [← Option.some.inj hrequest]
    exact apply_request_patch id patch

/-- A holder whose backend says yes to everything. -/
def willing : Connection Unit where
  E := fun _ _ _ _ => True
  ops := ⟨⟨"dxp2800gt-cs201x", "DXP2800 GT", "cs201x-sio", [⟨"power", 0⟩]⟩, true⟩
  strerror := fun _ => ""
  profile := ⟨"dxp2800gt-cs201x", "DXP2800 GT", "cs201x-sio", [⟨"power", 0⟩]⟩

/-- The first exchange of a client, its INFO. -/
theorem exchanges_match_info : ∃ net : Net Unit, Steps willing { world := () } net ∧
    ∃ x value y, net.finished[0]? = some x ∧ x.result = .success value ∧
      net.served[0]? = some y ∧ y.request = x.request ∧ y.result = .ok value := by
  have hhandle : Proc.Runs willing.E (handle willing.ops (stamp info_request)) {} () (.ok {}) {}
      () := by
    refine @Prog.Runs.op service _ _ willing.E .confirmed _ () () () true _ trivial ?_
    exact .pure
  obtain ⟨net, hsteps, hfinished⟩ := @exchange_possible Unit willing { world := () } {} rfl rfl rfl
    rfl info_request (.ok {}) {} true () () () trivial hhandle trivial
  let bytes := willing.answer_bytes (.ok {}) true
  have hx : net.finished[0]? = some ⟨stamp info_request, some bytes,
      check_reply willing.profile (.of_bytes bytes)⟩ := by
    rw [hfinished]
    rfl
  have hsuccess : check_reply willing.profile (.of_bytes bytes) = .success {} := by
    decide +kernel
  obtain ⟨y, hy, -, hrequest, hvalue, -⟩ := (exchanges_match hsteps).1 0 _ {} hx hsuccess
  exact ⟨net, hsteps, _, {}, y, hx, hsuccess, hy, hrequest, hvalue⟩

end UgreenNas.Led.Service
