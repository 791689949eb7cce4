import UgreenNas.Effect.Frames
import UgreenNas.Effect.Loop
import UgreenNas.Led.Service.Protocol

/-! # The socket of the LED service (`led/led_service.c`)

    Requests and responses as the bytes they cross the socket as, and
    `transfer`, which moves a whole frame in as many system calls as it
    takes.
-/

namespace UgreenNas.Led.Service

open Effect

/-! ## Bytes -/

/-- The bytes of `htonl(w)`. -/
def word_bytes (w : UInt32) : List UInt8 :=
  [UInt8.ofNat (w.toNat / 2 ^ 24), UInt8.ofNat (w.toNat / 2 ^ 16), UInt8.ofNat (w.toNat / 2 ^ 8),
    UInt8.ofNat w.toNat]

/-- `ntohl` of four bytes. -/
def bytes_word : List UInt8 → UInt32
  | [a, b, c, d] =>
    UInt32.ofNat (a.toNat * 2 ^ 24 + b.toNat * 2 ^ 16 + c.toNat * 2 ^ 8 + d.toNat)
  | _ => 0

theorem bytes_word_bytes (w : UInt32) : bytes_word (word_bytes w) = w := by
  have hlt := w.toNat_lt
  apply UInt32.toNat_inj.mp
  simp only [bytes_word, word_bytes, UInt8.toNat_ofNat', UInt32.toNat_ofNat']
  omega

/-- Sixteen words in network order. -/
def words_bytes (word : Words) : List UInt8 := ((List.ofFn word).map word_bytes).flatten

def bytes_words (bytes : List UInt8) : Words := fun i => bytes_word ((bytes.drop (4 * i)).take 4)

theorem word_bytes_length (word : Words) : ∀ x ∈ (List.ofFn word).map word_bytes, x.length = 4 := by
  intro x hx
  obtain ⟨w, -, rfl⟩ := List.mem_map.mp hx
  rfl

theorem words_bytes_length (word : Words) : (words_bytes word).length = 64 := rfl

/-- Words are read back from the start of a buffer. -/
theorem bytes_words_bytes (word : Words) (rest : List UInt8) :
    bytes_words (words_bytes word ++ rest) = word := by
  funext i
  have hi : i.val < ((List.ofFn word).map word_bytes).length := by simp
  unfold bytes_words words_bytes
  rw [frame_at (word_bytes_length word) rest hi, List.getElem_map, List.getElem_ofFn,
    bytes_word_bytes]

/-- A text in a buffer of `size` bytes that was zero before. -/
def text_bytes (size : Nat) (text : String) : List UInt8 :=
  let bytes := text.toUTF8.data.toList.take (size - 1)
  bytes ++ List.replicate (size - bytes.length) 0

theorem text_bytes_length (size : Nat) (text : String) : (text_bytes size text).length = size := by
  simp only [text_bytes, List.length_append, List.length_replicate, List.length_take]
  omega

/-! ## Frames -/

def Request.bytes (request : Request) : List UInt8 := words_bytes request.word

def Request.of_bytes (bytes : List UInt8) : Request := ⟨bytes_words bytes⟩

theorem Request.of_bytes_bytes (request : Request) : of_bytes request.bytes = request := by
  have h := bytes_words_bytes request.word []
  rw [List.append_nil] at h
  unfold of_bytes bytes
  rw [h]

def Response.bytes (strerror : Errno → String) (response : Response) : List UInt8 :=
  words_bytes response.word ++ text_bytes 64 response.profile ++
    text_bytes 256 (response.error.render strerror)

theorem Response.bytes_length (strerror : Errno → String) (response : Response) :
    (response.bytes strerror).length = 384 := by
  unfold bytes
  rw [List.length_append, List.length_append, words_bytes_length, text_bytes_length,
    text_bytes_length]

/-- A response as the client has it. -/
structure Reply where
  word : Words
  profile : List UInt8
  error : List UInt8

def Reply.of_bytes (bytes : List UInt8) : Reply :=
  ⟨bytes_words bytes, (bytes.drop 64).take 64, (bytes.drop 128).take 256⟩

theorem Reply.of_bytes_word (strerror : Errno → String) (response : Response) :
    (Reply.of_bytes (response.bytes strerror)).word = response.word := by
  unfold Response.bytes of_bytes
  rw [List.append_assoc]
  exact bytes_words_bytes response.word _

/-! ## Results of an exchange -/

/-- What `exchange` returns. -/
inductive ExchangeResult where
  /-- A transfer failed; the connection is closed. -/
  | failed (errno : Errno)
  /-- The response is no frame of this holder's; the connection is closed. -/
  | mismatch
  /-- A positive result; the connection is closed. -/
  | invalid
  | refused (result : Int) (error : List UInt8)
  | unconfirmed
  | success (value : Value)
  deriving DecidableEq

/-- The connection is given up. -/
def ExchangeResult.closes : ExchangeResult → Bool
  | .failed _ | .mismatch | .invalid => true
  | .refused _ _ | .unconfirmed | .success _ => false

/-- A buffer up to its first NUL. -/
def c_string (bytes : List UInt8) : List UInt8 := bytes.takeWhile fun byte => byte ≠ 0

/-- The part of `exchange` after its two transfers. -/
def check_reply (profile : Profile) (reply : Reply) : ExchangeResult :=
  let result := (reply.word 2).toBitVec.toInt
  if reply.word 0 ≠ MAGIC ∨ reply.word 1 ≠ VERSION ∨ 0 ∉ reply.profile ∨ 0 ∉ reply.error ∨
      c_string reply.profile ≠ profile.id.toUTF8.data.toList then
    .mismatch
  else if result > 0 then
    .invalid
  else if result ≠ 0 then
    .refused result (c_string reply.error)
  else if reply.word 3 ≠ 1 then
    .unconfirmed
  else
    .success (decode_value reply.word)

theorem check_reply_success {profile : Profile} {reply : Reply} {value : Value}
    (h : check_reply profile reply = .success value) :
    reply.word 2 = 0 ∧ decode_value reply.word = value := by
  unfold check_reply at h
  dsimp only at h
  split at h
  · cases h
  split at h
  · cases h
  split at h
  · cases h
  rename_i hzero
  split at h
  · cases h
  cases h
  refine ⟨?_, rfl⟩
  apply UInt32.toBitVec_inj.mp
  apply BitVec.eq_of_toInt_eq
  exact not_ne_iff.mp hzero

/-- A response that is accepted as a success was one, with this value. -/
theorem check_respond_success {profile profile' : Profile} {strerror : Errno → String}
    {result : Except Failure Value} {confirmed : Bool} {value : Value}
    (h : check_reply profile (Reply.of_bytes ((respond profile' result confirmed).bytes strerror)) =
      .success value) : result = .ok value := by
  obtain ⟨hzero, hvalue⟩ := check_reply_success h
  rw [Reply.of_bytes_word] at hzero hvalue
  cases result with
  | error e =>
    rw [respond_result] at hzero
    exact absurd hzero (result_word_ne_zero e)
  | ok v =>
    rw [← hvalue]
    rfl

/-! ## `transfer` -/

/-- What `transfer` asks the system. -/
inductive SocketOp where
  | stopped
  /-- `CLOCK_MONOTONIC`, in milliseconds. -/
  | clock
  | poll (remaining : Int)
  | send (bytes : List UInt8)
  | recv (room : Nat)

@[reducible] def SocketOp.Ans : SocketOp → Type
  | .stopped => Bool
  | .clock => Except Errno Int
  | .poll _ => Except Errno Bool
  | .send _ => Except Errno Nat
  | .recv _ => Except Errno (List UInt8)

abbrev socket : Sig := ⟨SocketOp, SocketOp.Ans⟩

/-- The locals of `transfer`: the deadline, once there is one, and the bytes
    that have been moved. -/
structure Transfer where
  deadline : Option Int := none
  done : List UInt8 := []

/-- A pass goes on, or `transfer` returns: the error, or the bytes moved. -/
abbrev Pass : Type := Transfer ⊕ Except Errno (List UInt8)

/-- The `send` or `recv` of a pass: the bytes it has moved. -/
def system_call (t : Transfer) (io : Prog socket (Except Errno (List UInt8))) : Prog socket Pass :=
  io.bind fun count =>
    match count with
    | .error errno =>
      if errno = .EINTR ∨ errno = .EAGAIN then .pure (.inl t) else .pure (.inr (.error errno))
    | .ok [] => .pure (.inr (.error .ECONNRESET))
    | .ok bytes => .pure (.inl { t with done := t.done ++ bytes })

/-- Wait until the socket is ready. -/
def await (t : Transfer) (deadline : Int) (io : Prog socket (Except Errno (List UInt8))) :
    Prog socket Pass :=
  (@Prog.call socket .clock).bind fun (now : Except Errno Int) =>
    match now with
    | .error errno => .pure (.inr (.error errno))
    | .ok now =>
      if deadline - now ≤ 0 then .pure (.inr (.error .ETIMEDOUT))
      else (@Prog.call socket (.poll (deadline - now))).bind fun (ready : Except Errno Bool) =>
        match ready with
        | .error errno =>
          if errno = .EINTR then .pure (.inl t) else .pure (.inr (.error errno))
        | .ok false => .pure (.inr (.error .ETIMEDOUT))
        | .ok true => system_call t io

/-- `transfer`: its first pass sets the deadline, each further one is a pass
    of its loop. -/
def transfer (length seconds : Nat) (io : List UInt8 → Prog socket (Except Errno (List UInt8)))
    (t : Transfer) : Prog socket Pass :=
  match t.deadline with
  | none => (@Prog.call socket .clock).bind fun (now : Except Errno Int) =>
    match now with
    | .error errno => .pure (.inr (.error errno))
    | .ok now => .pure (.inl { t with deadline := some (now + seconds * 1000) })
  | some deadline =>
    if t.done.length < length then
      (@Prog.call socket .stopped).bind fun (stop : Bool) =>
        if stop then .pure (.inr (.error .EINTR)) else await t deadline (io t.done)
    else .pure (.inr (.ok t.done))

/-- `send(fd, bytes + done, length - done, ...)` -/
def send_rest (frame done : List UInt8) : Prog socket (Except Errno (List UInt8)) :=
  (@Prog.call socket (.send (frame.drop done.length))).bind fun (count : Except Errno Nat) =>
    .pure (count.map fun n => (frame.drop done.length).take n)

/-- `recv(fd, bytes + done, length - done, ...)` -/
def recv_rest (length : Nat) (done : List UInt8) : Prog socket (Except Errno (List UInt8)) :=
  @Prog.call socket (.recv (length - done.length))

/-- `transfer(fd, frame, sizeof(frame), true, seconds, stop)` -/
def sending (seconds : Nat) (frame : List UInt8) : Transfer → Prog socket Pass :=
  transfer frame.length seconds (send_rest frame)

/-- `transfer(fd, frame, length, false, seconds, stop)` -/
def receiving (seconds length : Nat) : Transfer → Prog socket Pass :=
  transfer length seconds (recv_rest length)

/-! ## A stream socket -/

/-- The two directions of a connection, as one party sees them: what it
    writes to and what it reads from.  Any call may fail, and a read may
    find that the peer has closed. -/
def wire : Env socket (Channel UInt8 × Channel UInt8)
  | s, .send bytes, .ok n, s' => n ≤ bytes.length ∧ s' = (s.1.put (bytes.take n), s.2)
  | s, .recv room, .ok bytes, s' =>
    bytes.length ≤ room ∧ bytes <+: s.2.pending ∧ s' = (s.1, s.2.take bytes.length)
  | s, _, _, s' => s' = s

/-- A party does not read what it writes, nor write what it reads. -/
theorem wire_frame {s s' : Channel UInt8 × Channel UInt8} {o : SocketOp} {b : o.Ans}
    (h : wire s o b s') : s'.1.taken = s.1.taken ∧ s'.2.sent = s.2.sent := by
  cases o with
  | send bytes =>
    cases b with
    | ok n =>
      obtain ⟨-, rfl⟩ := h
      exact ⟨rfl, rfl⟩
    | error errno =>
      obtain rfl : s' = s := h
      exact ⟨rfl, rfl⟩
  | recv room =>
    cases b with
    | ok bytes =>
      obtain ⟨-, -, rfl⟩ := h
      exact ⟨rfl, rfl⟩
    | error errno =>
      obtain rfl : s' = s := h
      exact ⟨rfl, rfl⟩
  | stopped =>
    obtain rfl : s' = s := h
    exact ⟨rfl, rfl⟩
  | clock =>
    obtain rfl : s' = s := by cases b <;> exact h
    exact ⟨rfl, rfl⟩
  | poll remaining =>
    obtain rfl : s' = s := by cases b <;> exact h
    exact ⟨rfl, rfl⟩

theorem wire_runs_frame {α : Type} {p : Prog socket α} {a : α}
    {s s' : Channel UInt8 × Channel UInt8} (h : Prog.Runs wire p s a s') :
    s'.1.taken = s.1.taken ∧ s'.2.sent = s.2.sent := by
  refine h.preserves (I := fun s' => s'.1.taken = s.1.taken ∧ s'.2.sent = s.2.sent) ?_ ⟨rfl, rfl⟩
  intro s₁ o b s₂ hstep hs₁
  obtain ⟨htaken, hsent⟩ := wire_frame hstep
  exact ⟨htaken.trans hs₁.1, hsent.trans hs₁.2⟩

/-! ## What a pass does -/

section passes

variable {length seconds : Nat} {frame : List UInt8} {t : Transfer}
  {s : Channel UInt8 × Channel UInt8} {o i : Channel UInt8}

/-- What has to be shown of the `send` or `recv` of a pass: nothing, unless
    it moves some bytes. -/
def Moves (Q : Pass → Channel UInt8 × Channel UInt8 → Prop) (t : Transfer)
    (s : Channel UInt8 × Channel UInt8) :
    Except Errno (List UInt8) → Channel UInt8 × Channel UInt8 → Prop
  | .error _, s' => s' = s
  | .ok [], s' => s' = s
  | .ok (byte :: bytes), s' => Q (.inl { t with done := t.done ++ byte :: bytes }) s'

/-- The rule for a pass: whatever happens before the `send` or `recv` has
    no effect on the wire. -/
theorem transfer_rule {io : List UInt8 → Prog socket (Except Errno (List UInt8))}
    {Q : Pass → Channel UInt8 × Channel UInt8 → Prop}
    (hgoes : ∀ deadline, Q (.inl ⟨deadline, t.done⟩) s)
    (hfails : ∀ errno, Q (.inr (.error errno)) s)
    (hwhole : length ≤ t.done.length → Q (.inr (.ok t.done)) s)
    (hio : t.done.length < length → Prog.wp wire (fun _ => True) (io t.done) (Moves Q t s) s) :
    Prog.wp wire (fun _ => True) (transfer length seconds io t) Q s := by
  have hcall : t.done.length < length →
      Prog.wp wire (fun _ => True) (system_call t (io t.done)) Q s := by
    intro hlt
    unfold system_call
    rw [Prog.wp_bind]
    apply Prog.wp_mono (hio hlt) fun _ _ => trivial
    intro r s' hr
    cases r with
    | error errno =>
      have hsame : s' = s := hr
      subst hsame
      dsimp only
      split
      · exact hgoes t.deadline
      · exact hfails errno
    | ok bytes =>
      cases bytes with
      | nil =>
        have hsame : s' = s := hr
        subst hsame
        exact hfails .ECONNRESET
      | cons byte rest => exact hr
  unfold transfer
  cases t.deadline with
  | none =>
    intro now s' hclock
    obtain rfl : s' = s := by cases now <;> exact hclock
    refine ⟨trivial, ?_⟩
    cases now with
    | error errno => exact hfails errno
    | ok now => exact hgoes _
  | some deadline =>
    dsimp only
    split
    · rename_i hlt
      intro stop s' hstop
      obtain rfl : s' = s := hstop
      refine ⟨trivial, ?_⟩
      cases stop with
      | true => exact hfails .EINTR
      | false =>
        show Prog.wp _ _ (await t deadline (io t.done)) Q s'
        unfold await
        intro now s'' hclock
        obtain rfl : s'' = s' := by cases now <;> exact hclock
        refine ⟨trivial, ?_⟩
        cases now with
        | error errno => exact hfails errno
        | ok now =>
          dsimp only [Prog.bind]
          split
          · exact hfails .ETIMEDOUT
          intro ready s₃ hpoll
          obtain rfl : s₃ = s'' := by cases ready <;> exact hpoll
          refine ⟨trivial, ?_⟩
          cases ready with
          | error errno =>
            dsimp only [Prog.bind]
            split
            · exact hgoes t.deadline
            · exact hfails errno
          | ok ready =>
            cases ready with
            | false => exact hfails .ETIMEDOUT
            | true => exact hcall hlt
    · exact hwhole (Nat.le_of_not_lt ‹_›)

/-- What a pass that sends `frame` does. -/
inductive Sends (frame : List UInt8) (t : Transfer) (o i : Channel UInt8) :
    Pass → Channel UInt8 × Channel UInt8 → Prop where
  | goes {t' : Transfer} {chunk : List UInt8} : t'.done = t.done ++ chunk → t'.done <+: frame →
      Sends frame t o i (.inl t') (o.put chunk, i)
  | fails {errno : Errno} : Sends frame t o i (.inr (.error errno)) (o, i)
  | whole : t.done = frame → Sends frame t o i (.inr (.ok frame)) (o, i)

theorem sending_spec (hdone : t.done <+: frame) :
    Prog.wp wire (fun _ => True) (sending seconds frame t) (Sends frame t o i) (o, i) := by
  obtain ⟨rest, hrest⟩ := hdone
  have hdrop : frame.drop t.done.length = rest := by
    rw [← hrest]
    exact List.drop_left
  apply transfer_rule
  · intro deadline
    have hput : o.put [] = o := o.put_nil
    nth_rewrite 2 [← hput]
    exact .goes (List.append_nil _).symm ⟨rest, hrest⟩
  · intro errno
    exact .fails
  · intro hle
    have heq : t.done = frame := List.IsPrefix.eq_of_length_le ⟨rest, hrest⟩ hle
    rw [heq]
    exact .whole heq
  · intro _ count s' hsend
    refine ⟨trivial, ?_⟩
    rw [hdrop] at hsend ⊢
    cases count with
    | error errno => exact hsend
    | ok n =>
      obtain ⟨-, rfl⟩ := hsend
      show Moves _ t (o, i) (.ok (rest.take n)) (o.put (rest.take n), i)
      cases hchunk : rest.take n with
      | nil =>
        show (o.put [], i) = (o, i)
        rw [o.put_nil]
      | cons byte bytes =>
        refine .goes rfl ?_
        rw [← hrest, ← hchunk]
        exact (List.prefix_append_right_inj _).mpr (List.take_prefix _ _)

/-- What a pass that receives a frame of the given length does. -/
inductive Receives (length : Nat) (t : Transfer) (o i : Channel UInt8) :
    Pass → Channel UInt8 × Channel UInt8 → Prop where
  | goes {t' : Transfer} {chunk : List UInt8} : t'.done = t.done ++ chunk →
      t'.done.length ≤ length → chunk <+: i.pending →
      Receives length t o i (.inl t') (o, i.take chunk.length)
  | fails {errno : Errno} : Receives length t o i (.inr (.error errno)) (o, i)
  | whole : t.done.length = length → Receives length t o i (.inr (.ok t.done)) (o, i)

theorem receiving_spec (hdone : t.done.length ≤ length) :
    Prog.wp wire (fun _ => True) (receiving seconds length t) (Receives length t o i) (o, i) := by
  apply transfer_rule
  · intro deadline
    exact @Receives.goes length t o i ⟨deadline, t.done⟩ [] (List.append_nil _).symm hdone
      List.nil_prefix
  · intro errno
    exact .fails
  · intro hle
    exact .whole (Nat.le_antisymm hdone hle)
  · intro hlt bytes s' hrecv
    refine ⟨trivial, ?_⟩
    cases bytes with
    | error errno => exact hrecv
    | ok bytes =>
      obtain ⟨hroom, hprefix, rfl⟩ := hrecv
      cases bytes with
      | nil => rfl
      | cons byte rest =>
        refine .goes rfl ?_ hprefix
        rw [List.length_append]
        omega

end passes

/-! ## A wire that moves everything at once -/

section smooth

variable {frame : List UInt8} {seconds length : Nat} {deadline : Int}
  {s s' : Channel UInt8 × Channel UInt8} {t : Transfer}

theorem runs_socket {o : SocketOp} {b : o.Ans} (h : wire s o b s') :
    Prog.Runs wire (@Prog.call socket o) s b s' :=
  .op h .pure

/-- The first pass sets the deadline. -/
theorem runs_start {io : List UInt8 → Prog socket (Except Errno (List UInt8))} :
    Prog.Runs wire (transfer length seconds io {}) s
      (.inl ⟨some (0 + seconds * 1000), []⟩) s := by
  have hclock : wire s .clock (.ok 0) s := rfl
  exact Prog.Runs.bind (runs_socket hclock) .pure

/-- One pass in time reaches its system call. -/
theorem runs_pass {io : List UInt8 → Prog socket (Except Errno (List UInt8))}
    {bytes done : List UInt8} (hlength : done.length < length)
    (hio : Prog.Runs wire (io done) s (.ok bytes) s') (hbytes : bytes ≠ []) :
    Prog.Runs wire (transfer length seconds io ⟨some deadline, done⟩) s
      (.inl ⟨some deadline, done ++ bytes⟩) s' := by
  have hstop : wire s .stopped false s := rfl
  have hclock : wire s .clock (.ok (deadline - 1)) s := rfl
  have hpoll : wire s (.poll (deadline - (deadline - 1))) (.ok true) s := rfl
  unfold transfer
  dsimp only
  rw [if_pos hlength]
  refine Prog.Runs.bind (runs_socket hstop) ?_
  show Prog.Runs wire (await _ _ _) s _ s'
  refine Prog.Runs.bind (runs_socket hclock) ?_
  dsimp only
  rw [if_neg (by omega)]
  refine Prog.Runs.bind (runs_socket hpoll) ?_
  show Prog.Runs wire (system_call _ _) s _ s'
  refine Prog.Runs.bind hio ?_
  cases bytes with
  | nil => exact absurd rfl hbytes
  | cons byte rest => exact .pure

/-- The last pass finds nothing left to move. -/
theorem runs_whole {io : List UInt8 → Prog socket (Except Errno (List UInt8))}
    {done : List UInt8} (hlength : done.length = length) :
    Prog.Runs wire (transfer length seconds io ⟨some deadline, done⟩) s (.inr (.ok done)) s := by
  unfold transfer
  dsimp only
  rw [if_neg (by omega)]
  exact .pure

/-- All of a frame is sent... -/
theorem runs_send (hframe : frame ≠ []) (o i : Channel UInt8) :
    Prog.Runs wire (sending seconds frame ⟨some deadline, []⟩) (o, i)
      (.inl ⟨some deadline, frame⟩) (o.put frame, i) := by
  have hsend : wire (o, i) (.send (frame.drop 0)) (.ok frame.length) (o.put frame, i) := by
    refine ⟨Nat.le_refl _, ?_⟩
    rw [List.drop_zero, List.take_length]
  have hio : Prog.Runs wire (send_rest frame []) (o, i) (.ok frame) (o.put frame, i) := by
    refine Prog.Runs.bind (runs_socket hsend) ?_
    have hall : (frame.drop 0).take frame.length = frame := by
      rw [List.drop_zero, List.take_length]
    show Prog.Runs wire (.pure (Except.ok ((frame.drop 0).take frame.length))) _ _ _
    rw [hall]
    exact .pure
  exact runs_pass (List.length_pos_of_ne_nil hframe) hio hframe

/-- ... and received. -/
theorem runs_recv (hframe : frame ≠ []) (o : Channel UInt8) {i : Channel UInt8}
    (hpending : i.pending = frame) :
    Prog.Runs wire (receiving seconds frame.length ⟨some deadline, []⟩) (o, i)
      (.inl ⟨some deadline, frame⟩) (o, i.take frame.length) := by
  have hrecv : wire (o, i) (.recv (frame.length - 0)) (.ok frame) (o, i.take frame.length) := by
    refine ⟨Nat.le_refl _, ?_, rfl⟩
    rw [hpending]
  exact runs_pass (List.length_pos_of_ne_nil hframe) (runs_socket hrecv) hframe

end smooth

end UgreenNas.Led.Service
