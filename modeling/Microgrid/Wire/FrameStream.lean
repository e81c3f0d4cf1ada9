import Microgrid.Wire.Framing

/-!
# Many messages over one stream

Both programs keep one connection for all their messages, so a receiver that took one
byte too many or too few would lose every message after that. Here the whole list is
sent first, through a `send` that accepts as many bytes as it likes each time, and the
receiver then reads the stream in whatever pieces it arrives.

The JSON printers and parsers of arbitrary objects are parameters. What one call of a
receiver does with a stream that begins with a frame, or with a part of one, is stated
once for both receivers; the two directions are instances.
-/

namespace Microgrid.Framing

open HexText JsonText Processes

/-- Run processes one after the other, and collect their results. -/
def sequence {α : Type} :
    List (Process UInt8 NetError α) → Process UInt8 NetError (List α)
  | [] => .done []
  | process :: rest => process.bind fun result =>
      (sequence rest).bind fun results => .done (result :: results)

/-- `send_all` and `sendall`: offer what is left until all is accepted. `send` takes the
counts it returns from a list, and accepts everything once the list is used up; a count
that `stops` ends the loop. What was accepted is on the wire either way. -/
def sendLoop (stops : Int → Bool) : List Int → Bytes → Bool × Bytes × List Int
  | [], buf => (true, buf, [])
  | count :: counts, buf =>
    if buf = [] then (true, [], count :: counts)
    else if stops count then (false, [], counts)
    else
      let (ok, wire, left) := sendLoop stops counts (buf.drop count.toNat)
      (ok, buf.take count.toNat ++ wire, left)

/-- A socket: the counts `send` will return, the bytes on the wire so far, the pieces that
will arrive, and what a read meets after the last of them. -/
structure Socket where
  counts : List Int
  wire : Bytes
  chunks : List Bytes
  ending : NetError

/-- A socket as the transport of a process. -/
def socketTransport (stops : Int → Bool)
    (recv : NetError → Nat → List Bytes → Except NetError Bytes × List Bytes) :
    Transport UInt8 NetError Socket where
  write payload socket :=
    let (ok, wire, left) := sendLoop stops socket.counts payload
    (if ok then none else some .os, { socket with counts := left, wire := socket.wire ++ wire })
  read count socket :=
    let (taken, left) := recv socket.ending count socket.chunks
    (taken, { socket with chunks := left })

/-- The server's end: `sendall` fails on a negative count. -/
def serverSocket : Transport UInt8 NetError Socket :=
  socketTransport (fun count => decide (count < 0)) recvExact

/-- The firmware's end: `send_all` fails on zero as well. -/
def deviceSocket : Transport UInt8 NetError Socket :=
  socketTransport (fun count => decide (count ≤ 0)) recvAll

/-- `send_json`, for the printer `dumps`. -/
def sendJsonOf (dumps : Json → Bytes) (obj : Json) : Process UInt8 NetError (Except PyError Unit) :=
  .send (frame (dumps obj)) fun
    | none => .done (.ok ())
    | some failure => .done (.error failure.raised)

/-- `net_msg_send`, for the printer `cJSON_PrintUnformatted`; `none` is NULL. -/
def netMsgSendOf (print : Json → Option Bytes) (obj : Json) : Process UInt8 NetError Bool :=
  match print obj with
  | none => .done false
  | some body => .send (lengthHeader body.length) fun
    | some _ => .done false
    | none => .send body fun
      | some _ => .done false
      | none => .done true

/-- The flat messages of the handshake are sent the same way. -/
theorem sendJson_eq (message : Message) :
    sendJson message = sendJsonOf (fun _ => dumps message) message.toJson := rfl

theorem netMsgSend_eq (message : Message) :
    netMsgSend message =
      netMsgSendOf (fun _ => some (cJSON_PrintUnformatted message)) message.toJson := rfl

/-- The frames of these bodies, one after the other. -/
def stream (bodies : List Bytes) : Bytes := (bodies.map frame).flatten

/-- One call and then the others. -/
theorem sequence_head {α : Type} (transport : Transport UInt8 NetError Socket)
    (process : Process UInt8 NetError α) (rest : List (Process UInt8 NetError α)) (socket : Socket) :
    (sequence (process :: rest)).run transport socket =
      ((process.run transport socket).1 ::
          ((sequence rest).run transport (process.run transport socket).2).1,
        ((sequence rest).run transport (process.run transport socket).2).2) := by
  rw [sequence, run_bind, run_bind]
  rfl

/-! ### Sending -/

/-- Positive counts send everything, and those left are positive.

Induct over the counts; each one takes its share of the front of the buffer. -/
theorem sendLoop_positive {stops : Int → Bool} (goesOn : ∀ count, 0 < count → stops count = false)
    (counts : List Int) (buf : Bytes) (positive : ∀ count ∈ counts, 0 < count) :
    ∃ left, sendLoop stops counts buf = (true, buf, left) ∧ ∀ count ∈ left, 0 < count := by
  induction counts generalizing buf with
  | nil => exact ⟨[], rfl, positive⟩
  | cons count counts inductionHypothesis =>
    by_cases empty : buf = []
    · subst empty
      exact ⟨count :: counts, by simp [sendLoop], positive⟩
    · obtain ⟨left, rest, stillPositive⟩ := inductionHypothesis (buf.drop count.toNat)
        fun other member => positive other (List.mem_cons_of_mem _ member)
      refine ⟨left, ?_, stillPositive⟩
      have accepted := goesOn count (positive count List.mem_cons_self)
      simp [sendLoop, empty, accepted, rest]

/-- A sender of one frame: with positive counts it succeeds and the frame is on the wire. -/
def SendsFrame {α : Type} (transport : Transport UInt8 NetError Socket)
    (process : Process UInt8 NetError α) (body : Bytes) (result : α) : Prop :=
  ∀ socket : Socket, (∀ count ∈ socket.counts, 0 < count) → ∃ left,
    process.run transport socket =
      (result, { socket with counts := left, wire := socket.wire ++ frame body }) ∧
    ∀ count ∈ left, 0 < count

/-- `send_json` sends header and body in one go. -/
theorem sendJson_sendsFrame (dumps : Json → Bytes) (obj : Json) :
    SendsFrame serverSocket (sendJsonOf dumps obj) (dumps obj) (.ok ()) := by
  intro socket positive
  obtain ⟨left, sent, stillPositive⟩ :=
    @sendLoop_positive (fun count => decide (count < 0)) (fun count above => by simp; omega)
      socket.counts (frame (dumps obj)) positive
  refine ⟨left, ?_, stillPositive⟩
  simp [sendJsonOf, Process.run, serverSocket, socketTransport, sent]

/-- `net_msg_send` sends them one after the other. -/
theorem netMsgSend_sendsFrame (print : Json → Option Bytes) (obj : Json) (body : Bytes)
    (printed : print obj = some body) :
    SendsFrame deviceSocket (netMsgSendOf print obj) body true := by
  intro socket positive
  have goesOn : ∀ count : Int, 0 < count → decide (count ≤ 0) = false := by
    intro count above
    simpa using above
  obtain ⟨middle, header, middlePositive⟩ :=
    sendLoop_positive goesOn socket.counts (lengthHeader body.length) positive
  obtain ⟨left, sent, stillPositive⟩ := sendLoop_positive goesOn middle body middlePositive
  refine ⟨left, ?_, stillPositive⟩
  simp [netMsgSendOf, printed, Process.run, deviceSocket, socketTransport, header, sent, frame]

/-- A list of frames, sent in order. -/
theorem sequence_sends {α β : Type} {transport : Transport UInt8 NetError Socket}
    (send : β → Process UInt8 NetError α) (body : β → Bytes) (result : α) (messages : List β)
    (sends : ∀ message ∈ messages, SendsFrame transport (send message) (body message) result)
    (socket : Socket) (positive : ∀ count ∈ socket.counts, 0 < count) :
    ∃ left, (sequence (messages.map send)).run transport socket =
      (messages.map fun _ => result,
        { socket with counts := left, wire := socket.wire ++ stream (messages.map body) }) := by
  induction messages generalizing socket with
  | nil => exact ⟨socket.counts, by simp [sequence, Process.run, stream]⟩
  | cons message rest inductionHypothesis =>
    obtain ⟨middle, first, middlePositive⟩ := sends message List.mem_cons_self socket positive
    obtain ⟨left, later⟩ := inductionHypothesis
      (fun other member => sends other (List.mem_cons_of_mem _ member))
      { socket with counts := middle, wire := socket.wire ++ frame (body message) } middlePositive
    refine ⟨left, ?_⟩
    rw [List.map_cons, sequence_head, first, later, List.append_assoc]
    rfl

/-! ### Receiving -/

/-- The pieces a stream arrives in are not empty. -/
def Socket.Arrives (socket : Socket) (bytes : Bytes) : Prop :=
  (∀ chunk ∈ socket.chunks, chunk ≠ []) ∧ socket.chunks.flatten = bytes

variable {stops : Int → Bool}

/-- A read of bytes that arrive takes exactly these. -/
theorem read_enough (socket : Socket) (taken rest : Bytes) (arrives : socket.Arrives (taken ++ rest)) :
    ∃ left, (socketTransport stops recvExact).read taken.length socket =
        (.ok taken, { socket with chunks := left }) ∧
      ({ socket with chunks := left } : Socket).Arrives rest := by
  obtain ⟨nonempty, flat⟩ := arrives
  obtain ⟨left, loop, dropped, stillNonempty⟩ := recvLoop_enough socket.ending taken.length []
    socket.chunks nonempty (Nat.zero_le _) (by simp [flat])
  simp only [List.length_nil, Nat.sub_zero, List.nil_append, flat, List.take_left,
    List.drop_left] at loop dropped
  refine ⟨left, ?_, stillNonempty, dropped⟩
  simp [socketTransport, recvExact, loop]

/-- A read of more than arrives fails. -/
theorem read_short (socket : Socket) (count : Nat) (bytes : Bytes) (arrives : socket.Arrives bytes)
    (short : bytes.length < count) :
    ((socketTransport stops recvExact).read count socket).1 = .error socket.ending := by
  obtain ⟨nonempty, flat⟩ := arrives
  have loop := recvLoop_short socket.ending count [] socket.chunks nonempty
    (by simpa [flat] using short)
  simp [socketTransport, recvExact, loop]

/-- What one call of a receiver makes of a stream that begins with a frame, and of one that
ends inside it. -/
structure ReceivesFrame {α : Type} (transport : Transport UInt8 NetError Socket)
    (process : Process UInt8 NetError α) (parsed : Bytes → α) (failed : NetError → α)
    (body : Bytes) : Prop where
  whole : ∀ (socket : Socket) (rest : Bytes), socket.Arrives (frame body ++ rest) →
    ∃ left, process.run transport socket = (parsed body, { socket with chunks := left }) ∧
      ({ socket with chunks := left } : Socket).Arrives rest
  cut : ∀ (socket : Socket) (length : Nat), length < (frame body).length →
    socket.Arrives ((frame body).take length) →
      (process.run transport socket).1 = failed socket.ending

/-- Both receivers read a header and then, if it announces an acceptable length, a body. -/
theorem receivesFrame {α : Type} {process : Process UInt8 NetError α} {parsed : Bytes → α}
    {failed : NetError → α} {body : Bytes}
    (next last : Except NetError Bytes → Process UInt8 NetError α)
    (shape : process = .receive 4 next)
    (noHeader : ∀ failure, next (.error failure) = .done (failed failure))
    (header : next (.ok (lengthHeader body.length)) = .receive body.length last)
    (noBody : ∀ failure, last (.error failure) = .done (failed failure))
    (whole : last (.ok body) = .done (parsed body)) :
    ReceivesFrame (socketTransport stops recvExact) process parsed failed body := by
  subst shape
  constructor
  · intro socket rest arrives
    rw [frame, List.append_assoc] at arrives
    obtain ⟨middle, first, arrivesBody⟩ := @read_enough stops socket _ _ arrives
    obtain ⟨left, second, arrivesRest⟩ := @read_enough stops _ _ _ arrivesBody
    refine ⟨left, ?_, arrivesRest⟩
    rw [lengthHeader_length] at first
    simp only [Process.run, first, header, second, whole]
  · intro socket length inside arrives
    by_cases early : length < 4
    · have short : ((frame body).take length).length < 4 := by
        rw [List.length_take]
        omega
      have first := @read_short stops socket 4 _ arrives short
      simp only [Process.run, first, noHeader]
    · have split : (frame body).take length =
          lengthHeader body.length ++ body.take (length - 4) := by
        rw [frame, List.take_append, lengthHeader_length,
          List.take_of_length_le (by rw [lengthHeader_length]; omega)]
      rw [split] at arrives
      obtain ⟨middle, first, arrivesBody⟩ := @read_enough stops socket _ _ arrives
      have short : (body.take (length - 4)).length < body.length := by
        simp only [frame, List.length_append, lengthHeader_length] at inside
        rw [List.length_take]
        omega
      have second := @read_short stops _ body.length _ arrivesBody short
      rw [lengthHeader_length] at first
      simp only [Process.run, first, header, second, noBody]

/-- The outcome of `json.loads`. -/
def parsedBy (loads : Bytes → Option Json) (body : Bytes) : Except PyError Json :=
  match loads body with
  | none => .error .decode
  | some value => .ok value

/-- `recv_json` accepts frames of up to 64 KiB. -/
theorem recvJson_receivesFrame (loads : Bytes → Option Json) (body : Bytes)
    (positive : 0 < body.length) (small : body.length ≤ 65536) :
    ReceivesFrame serverSocket (recvJson loads)
      (parsedBy loads) (fun failure => .error failure.raised) body := by
  have valid : ¬ (body.length = 0 ∨ 65536 < body.length) := by omega
  refine receivesFrame _ ?last rfl (fun _ => rfl) ?header ?noBody ?whole
  case header =>
    simp only [headerLength_lengthHeader body.length (by omega), valid, if_false]
    rfl
  case noBody =>
    intro failure
    rfl
  case whole => rfl

/-- `net_msg_recv` accepts frames of up to 16 KiB. -/
theorem netMsgRecv_receivesFrame (parse : Bytes → Option Json) (body : Bytes)
    (positive : 0 < body.length) (small : body.length ≤ netMsgMaxLen) :
    ReceivesFrame deviceSocket (netMsgRecv parse) parse (fun _ => none) body := by
  have below : body.length < 2 ^ 32 := by
    simp only [netMsgMaxLen] at small
    omega
  have valid : ¬ (body.length = 0 ∨ netMsgMaxLen < body.length) := by omega
  refine @receivesFrame (fun count => decide (count ≤ 0)) _ _ _ _ _ _ ?last rfl (fun _ => rfl)
    ?header ?noBody ?whole
  case header =>
    simp only [headerLength_lengthHeader body.length below, valid, if_false]
    rfl
  case noBody =>
    intro failure
    rfl
  case whole => rfl

/-- As many calls as there are frames return what each of them parses to, and leave what
follows the last. -/
theorem sequence_receives {α : Type} {transport : Transport UInt8 NetError Socket}
    {process : Process UInt8 NetError α} {parsed : Bytes → α} {failed : NetError → α}
    (bodies : List Bytes)
    (receives : ∀ body ∈ bodies, ReceivesFrame transport process parsed failed body)
    (socket : Socket) (rest : Bytes) (arrives : socket.Arrives (stream bodies ++ rest)) :
    ∃ left, (sequence (List.replicate bodies.length process)).run transport socket =
        (bodies.map parsed, { socket with chunks := left }) ∧
      ({ socket with chunks := left } : Socket).Arrives rest := by
  induction bodies generalizing socket with
  | nil => exact ⟨socket.chunks, rfl, arrives⟩
  | cons body bodies inductionHypothesis =>
    rw [stream, List.map_cons, List.flatten_cons, List.append_assoc] at arrives
    obtain ⟨middle, first, arrivesLater⟩ :=
      (receives body List.mem_cons_self).whole socket _ arrives
    obtain ⟨left, later, arrivesRest⟩ := inductionHypothesis
      (fun other member => receives other (List.mem_cons_of_mem _ member)) _ arrivesLater
    refine ⟨left, ?_, arrivesRest⟩
    rw [List.length_cons, List.replicate_succ, sequence_head, first, later]
    rfl

/-! ### Both directions -/

/-- A sender and a receiver convey messages: whatever `send` accepts at a time, the sender
succeeds and puts the frames on the wire; however these arrive, the first calls of the
receiver return the first messages and leave the frames of the others; and if the stream ends
inside a frame, that call fails. -/
structure Conveys {α β : Type} (sending receiving : Transport UInt8 NetError Socket)
    (send : Json → Process UInt8 NetError α) (sent : α) (body : Json → Bytes)
    (receive : Process UInt8 NetError β) (received : Json → β) (failed : NetError → β)
    (messages : List Json) : Prop where
  sends : ∀ socket : Socket, (∀ count ∈ socket.counts, 0 < count) → ∃ left,
    (sequence (messages.map send)).run sending socket = (messages.map fun _ => sent,
      { socket with counts := left, wire := socket.wire ++ stream (messages.map body) })
  receives : ∀ socket : Socket, socket.Arrives (stream (messages.map body)) →
    ∀ calls ≤ messages.length, ∃ left,
      (sequence (List.replicate calls receive)).run receiving socket =
        ((messages.take calls).map received, { socket with chunks := left }) ∧
      ({ socket with chunks := left } : Socket).Arrives (stream ((messages.drop calls).map body))
  cut : ∀ (socket : Socket) (calls : Nat) (message : Json) (length : Nat),
    messages[calls]? = some message → length < (frame (body message)).length →
    socket.Arrives (stream ((messages.take calls).map body) ++ (frame (body message)).take length) →
      ((sequence (List.replicate (calls + 1) receive)).run receiving socket).1 =
        (messages.take calls).map received ++ [failed socket.ending]

/-- Some calls and then one more. -/
theorem sequence_next {α : Type} (transport : Transport UInt8 NetError Socket)
    (process : Process UInt8 NetError α) (calls : Nat) (socket : Socket) :
    ((sequence (List.replicate (calls + 1) process)).run transport socket).1 =
      ((sequence (List.replicate calls process)).run transport socket).1 ++
        [(process.run transport
          ((sequence (List.replicate calls process)).run transport socket).2).1] := by
  induction calls generalizing socket with
  | zero =>
    rw [List.replicate_succ, sequence_head]
    rfl
  | succ calls inductionHypothesis =>
    have later := inductionHypothesis (process.run transport socket).2
    have first : (sequence (List.replicate (calls + 1) process)).run transport socket = _ :=
      sequence_head transport process (List.replicate calls process) socket
    rw [first, List.replicate_succ, sequence_head, later]
    rfl

/-- It is enough that one frame is sent and received. -/
theorem conveys {α β : Type} {sending receiving : Transport UInt8 NetError Socket}
    {send : Json → Process UInt8 NetError α} {sent : α} {body : Json → Bytes}
    {receive : Process UInt8 NetError β} {parsed : Bytes → β} {received : Json → β}
    {failed : NetError → β} {messages : List Json}
    (sends : ∀ message ∈ messages, SendsFrame sending (send message) (body message) sent)
    (receives : ∀ message ∈ messages,
      ReceivesFrame receiving receive parsed failed (body message))
    (inverse : ∀ message ∈ messages, parsed (body message) = received message) :
    Conveys sending receiving send sent body receive received failed messages := by
  have firstCalls (calls : Nat) (within : calls ≤ messages.length) (socket : Socket) (rest : Bytes)
      (arrives : socket.Arrives (stream ((messages.take calls).map body) ++ rest)) : ∃ left,
      (sequence (List.replicate calls receive)).run receiving socket =
        ((messages.take calls).map received, { socket with chunks := left }) ∧
      ({ socket with chunks := left } : Socket).Arrives rest := by
    obtain ⟨left, ran, arrivesRest⟩ := sequence_receives ((messages.take calls).map body)
      (by
        intro frameBody member
        obtain ⟨message, isTaken, rfl⟩ := List.mem_map.mp member
        exact receives message (List.mem_of_mem_take isTaken))
      socket rest arrives
    have results : ((messages.take calls).map body).map parsed =
        (messages.take calls).map received := by
      rw [List.map_map]
      exact List.map_congr_left fun message isTaken =>
        inverse message (List.mem_of_mem_take isTaken)
    rw [List.length_map, List.length_take, Nat.min_eq_left within, results] at ran
    exact ⟨left, ran, arrivesRest⟩
  constructor
  · intro socket positive
    exact sequence_sends send body sent messages sends socket positive
  · intro socket arrives calls within
    apply firstCalls calls within
    rw [stream, stream, ← List.flatten_append, ← List.map_append, ← List.map_append,
      List.take_append_drop]
    exact arrives
  · intro socket calls message length found inside arrives
    obtain ⟨within, isThere⟩ := List.getElem?_eq_some_iff.mp found
    obtain ⟨left, ran, arrivesCut⟩ := firstCalls calls within.le socket _ arrives
    rw [sequence_next, ran]
    dsimp only
    rw [(receives message (isThere ▸ List.getElem_mem within)).cut _ length inside arrivesCut]

/-- Either program's messages reach the other, in order and each by itself, if their bodies
have a length that both accept and the receiver's parser inverts the sender's printer. -/
theorem framing_round_trip (print : Json → Option Bytes) (printed dumps : Json → Bytes)
    (loads parse : Bytes → Option Json) (messages : List Json)
    (fromDevice : ∀ message ∈ messages, print message = some (printed message) ∧
      1 ≤ (printed message).length ∧ (printed message).length ≤ 16384 ∧
      loads (printed message) = some message)
    (fromServer : ∀ message ∈ messages, 1 ≤ (dumps message).length ∧
      (dumps message).length ≤ 16384 ∧ parse (dumps message) = some message) :
    Conveys deviceSocket serverSocket (netMsgSendOf print) true printed (recvJson loads) .ok
        (fun failure => .error failure.raised) messages ∧
      Conveys serverSocket deviceSocket (sendJsonOf dumps) (.ok ()) dumps (netMsgRecv parse) some
        (fun _ => none) messages := by
  constructor
  · apply @conveys _ _ _ _ _ _ _ _ (parsedBy loads)
    · intro message member
      exact netMsgSend_sendsFrame print message _ (fromDevice message member).1
    · intro message member
      obtain ⟨_, positive, small, _⟩ := fromDevice message member
      exact recvJson_receivesFrame loads _ positive (by omega)
    · intro message member
      obtain ⟨_, _, _, inverse⟩ := fromDevice message member
      rw [parsedBy, inverse]
  · apply conveys
    · intro message member
      exact sendJson_sendsFrame dumps message
    · intro message member
      obtain ⟨positive, small, _⟩ := fromServer message member
      exact netMsgRecv_receivesFrame parse _ positive small
    · intro message member
      exact (fromServer message member).2.2

/-- `{"type":"session_ack"}`, as both programs print it. -/
def ackMessage : Message := [("type", "session_ack")]

/-- Printers and parsers that agree with the real ones on this message. -/
theorem ack_round_trip : Conveys deviceSocket serverSocket
      (netMsgSendOf fun _ => some (cJSON_PrintUnformatted ackMessage)) true
      (fun _ => cJSON_PrintUnformatted ackMessage)
      (recvJson fun body =>
        if body = cJSON_PrintUnformatted ackMessage then some ackMessage.toJson else none)
      .ok (fun failure => .error failure.raised) [ackMessage.toJson, ackMessage.toJson] ∧
    Conveys serverSocket deviceSocket (sendJsonOf fun _ => dumps ackMessage) (.ok ())
      (fun _ => dumps ackMessage)
      (netMsgRecv fun body => if body = dumps ackMessage then some ackMessage.toJson else none)
      some (fun _ => none) [ackMessage.toJson, ackMessage.toJson] := by
  have printedLength : (cJSON_PrintUnformatted ackMessage).length = 22 := by decide
  have dumpsLength : (dumps ackMessage).length = 23 := by decide
  apply framing_round_trip _ _ _ _ _ _
  · intro message member
    obtain rfl : message = ackMessage.toJson := by simpa using member
    rw [printedLength]
    exact ⟨rfl, by decide, by decide, if_pos rfl⟩
  · intro message member
    obtain rfl : message = ackMessage.toJson := by simpa using member
    rw [dumpsLength]
    exact ⟨by decide, by decide, if_pos rfl⟩

end Microgrid.Framing
