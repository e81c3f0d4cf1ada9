import Microgrid.Foundation.Processes
import Microgrid.Wire.JsonText

/-!
# Length-prefixed JSON frames over a byte stream

`net_msg.c` and the framing half of `rot_challenge_service.py`: a four-byte
big-endian length, then that many bytes of JSON. Both receivers loop over short
reads; the loop is the same, so it is one definition. The firmware refuses bodies
over 16 KiB, the server over 64 KiB.

Programs see the stream through a `Process`. A `Connection` is one peer: the
chunks its stream arrives in, how the stream ends, and the outcome of every
write. The JSON parsers are parameters; `none` is a parse failure.
-/

namespace Microgrid.Framing

open HexText JsonText Processes

/-- How a socket operation fails: an empty read or a reset, a timeout, or another
operating-system error. The firmware only sees that it failed. -/
inductive NetError where
  | connection
  | timeout
  | os
deriving DecidableEq

/-- The exceptions that can leave the server's code, by the classes its handlers
tell apart. `decode` is any failure of decoding or parsing a body;
`stillRunning` is not an exception: it marks a loop of this model that was cut off. -/
inductive PyError where
  | connection
  | timeout
  | os
  | protocol (message : String)
  | decode
  | value
  | key (name : String)
  | type
  | attribute
  | invalidTag
  | stillRunning
deriving DecidableEq

/-- The exception a failed socket operation raises. -/
def NetError.raised : NetError → PyError
  | .connection => .connection
  | .timeout => .timeout
  | .os => .os

/-- The four header bytes, most significant first. -/
def lengthHeader (bodyLen : Nat) : Bytes :=
  [UInt8.ofNat (bodyLen >>> 24), UInt8.ofNat (bodyLen >>> 16), UInt8.ofNat (bodyLen >>> 8),
    UInt8.ofNat bodyLen]

/-- Read back a big-endian length. -/
def headerLength (hdr : Bytes) : Nat := hdr.foldl (fun total byte => total * 256 + byte.toNat) 0

/-- A frame as it travels. -/
def frame (body : Bytes) : Bytes := lengthHeader body.length ++ body

/-- The read loop of `_recv_exact` and of `recv_all`: each read returns at most
what is still missing, the rest of a chunk stays for the next read, and an empty
read means that the peer closed the connection. -/
def recvLoop (ending : NetError) (count : Nat) (buf : Bytes) :
    List Bytes → Except NetError Bytes × List Bytes
  | [] => if count ≤ buf.length then (.ok buf, []) else (.error ending, [])
  | chunk :: rest =>
    if count ≤ buf.length then (.ok buf, chunk :: rest)
    else if chunk = [] then (.error .connection, rest)
    else if chunk.length ≤ count - buf.length then recvLoop ending count (buf ++ chunk) rest
    else (.ok (buf ++ chunk.take (count - buf.length)), chunk.drop (count - buf.length) :: rest)

/-- The server's `_recv_exact`. -/
def recvExact (ending : NetError) (count : Nat) (chunks : List Bytes) :
    Except NetError Bytes × List Bytes := recvLoop ending count [] chunks

/-- The firmware's `recv_all`. -/
def recvAll (ending : NetError) (count : Nat) (chunks : List Bytes) :
    Except NetError Bytes × List Bytes := recvLoop ending count [] chunks

/-- One peer of a session: the chunks in which its bytes arrive, what a read meets
after the last of them, and the outcome of each write in order (a missing entry
is a success). -/
structure Connection where
  chunks : List Bytes
  ending : NetError
  sends : List (Option NetError)

/-- A connection as the transport of a process. -/
def connection : Transport UInt8 NetError Connection where
  write _ conn := (conn.sends.headD none, { conn with sends := conn.sends.tail })
  read count conn :=
    ((recvExact conn.ending count conn.chunks).1,
      { conn with chunks := (recvExact conn.ending count conn.chunks).2 })

/-- The server's `send_json`. -/
def sendJson (message : Message) : Process UInt8 NetError (Except PyError Unit) :=
  .send (frame (dumps message)) fun
    | none => .done (.ok ())
    | some failure => .done (.error failure.raised)

/-- The server's `recv_json`, for the parser `loads`. -/
def recvJson (loads : Bytes → Option Json) : Process UInt8 NetError (Except PyError Json) :=
  .receive 4 fun
    | .error failure => .done (.error failure.raised)
    | .ok hdr =>
      if headerLength hdr = 0 ∨ 65536 < headerLength hdr then
        .done (.error (.protocol ("invalid message length: " ++ toString (headerLength hdr))))
      else .receive (headerLength hdr) fun
        | .error failure => .done (.error failure.raised)
        | .ok body => .done (match loads body with
            | none => .error .decode
            | some value => .ok value)

/-- `NET_MSG_MAX_LEN`. -/
def netMsgMaxLen : Nat := 16 * 1024

/-- The firmware's `net_msg_send`: header and body are two writes. -/
def netMsgSend (message : Message) : Process UInt8 NetError Bool :=
  .send (lengthHeader (cJSON_PrintUnformatted message).length) fun
    | some _ => .done false
    | none => .send (cJSON_PrintUnformatted message) fun
      | some _ => .done false
      | none => .done true

/-- The firmware's `net_msg_recv`, for the parser `cJSON_Parse`. -/
def netMsgRecv (parse : Bytes → Option Json) : Process UInt8 NetError (Option Json) :=
  .receive 4 fun
    | .error _ => .done none
    | .ok hdr =>
      if headerLength hdr = 0 ∨ netMsgMaxLen < headerLength hdr then .done none
      else .receive (headerLength hdr) fun
        | .error _ => .done none
        | .ok body => .done (parse body)

@[simp] theorem lengthHeader_length (bodyLen : Nat) : (lengthHeader bodyLen).length = 4 := rfl

/-- A four-byte header holds every length below 2 to the 32nd. -/
theorem headerLength_lengthHeader (bodyLen : Nat) (small : bodyLen < 2 ^ 32) :
    headerLength (lengthHeader bodyLen) = bodyLen := by
  simp only [headerLength, lengthHeader, List.foldl_cons, List.foldl_nil, UInt8.toNat_ofNat',
    Nat.shiftRight_eq_div_pow]
  omega

/-- The read loop returns the missing bytes and leaves exactly what follows them,
however the stream is cut into non-empty chunks.

Induct over the chunks: a chunk that fits is taken whole, the first one that does
not is split at the requested count. -/
theorem recvLoop_enough (ending : NetError) (count : Nat) (buf : Bytes) (chunks : List Bytes)
    (nonempty : ∀ chunk ∈ chunks, chunk ≠ []) (within : buf.length ≤ count)
    (enough : count ≤ buf.length + chunks.flatten.length) :
    ∃ rest, recvLoop ending count buf chunks =
        (.ok (buf ++ chunks.flatten.take (count - buf.length)), rest) ∧
      rest.flatten = chunks.flatten.drop (count - buf.length) ∧ ∀ chunk ∈ rest, chunk ≠ [] := by
  induction chunks generalizing buf with
  | nil =>
    have full : count ≤ buf.length := by simpa using enough
    exact ⟨[], by simp [recvLoop, full], by simp, by simp⟩
  | cons chunk rest inductionHypothesis =>
    have restNonempty : ∀ other ∈ rest, other ≠ [] :=
      fun other member => nonempty other (List.mem_cons_of_mem _ member)
    have chunkNonempty : chunk ≠ [] := nonempty chunk List.mem_cons_self
    by_cases full : count ≤ buf.length
    · have nothing : count - buf.length = 0 := by omega
      exact ⟨chunk :: rest, by simp [recvLoop, full, nothing], by simp [nothing], nonempty⟩
    · by_cases fits : chunk.length ≤ count - buf.length
      · have restEnough : count ≤ (buf ++ chunk).length + rest.flatten.length := by
          simp only [List.flatten_cons, List.length_append] at enough ⊢
          omega
        obtain ⟨remaining, loop, flat, remainingNonempty⟩ :=
          inductionHypothesis (buf ++ chunk) restNonempty (by simp only [List.length_append]; omega)
            restEnough
        have shorter : count - (buf ++ chunk).length = count - buf.length - chunk.length := by
          simp only [List.length_append]
          omega
        refine ⟨remaining, ?_, ?_, remainingNonempty⟩
        · simp only [recvLoop, full, chunkNonempty, fits, if_true, if_false, loop, shorter,
            List.flatten_cons, List.take_append, List.take_of_length_le fits, List.append_assoc]
        · simp only [flat, shorter, List.flatten_cons, List.drop_append,
            List.drop_of_length_le fits, List.nil_append]
      · have inside : count - buf.length ≤ chunk.length := by omega
        refine ⟨chunk.drop (count - buf.length) :: rest, ?_, ?_, ?_⟩
        · simp only [recvLoop, full, chunkNonempty, fits, if_false, List.flatten_cons,
            List.take_append_of_le_length inside]
        · simp only [List.flatten_cons, List.drop_append_of_le_length inside]
        · intro other member
          rcases List.mem_cons.mp member with rfl | inRest
          · intro empty
            have short := List.drop_eq_nil_iff.mp empty
            omega
          · exact restNonempty other inRest

/-- A stream that ends early fails the read; nothing is returned in part. -/
theorem recvLoop_short (ending : NetError) (count : Nat) (buf : Bytes) (chunks : List Bytes)
    (nonempty : ∀ chunk ∈ chunks, chunk ≠ [])
    (short : buf.length + chunks.flatten.length < count) :
    recvLoop ending count buf chunks = (.error ending, []) := by
  induction chunks generalizing buf with
  | nil =>
    have missing : ¬ count ≤ buf.length := by
      simp only [List.flatten_nil, List.length_nil] at short
      omega
    simp [recvLoop, missing]
  | cons chunk rest inductionHypothesis =>
    simp only [List.flatten_cons, List.length_append] at short
    have missing : ¬ count ≤ buf.length := by omega
    have fits : chunk.length ≤ count - buf.length := by omega
    have tail := inductionHypothesis (buf ++ chunk)
      (fun other member => nonempty other (List.mem_cons_of_mem _ member))
      (by simp only [List.length_append]; omega)
    simp only [recvLoop, missing, nonempty chunk List.mem_cons_self, fits, if_true, if_false, tail]

/-- One complete read from a queue of bytes: some cut of the queue into non-empty
chunks makes a receiver's loop return `taken` and leave `rest`. -/
def Reads (recv : NetError → Nat → List Bytes → Except NetError Bytes × List Bytes)
    (count : Nat) (queue taken rest : Bytes) : Prop :=
  ∃ ending chunks remaining, (∀ chunk ∈ chunks, chunk ≠ []) ∧ chunks.flatten = queue ∧
    recv ending count chunks = (.ok taken, remaining) ∧ remaining.flatten = rest

/-- The server's loop is an exact reader: the cut does not matter. -/
theorem recvExact_exact : Exact (Reads recvExact) := by
  intro count queue taken rest
  constructor
  · rintro ⟨ending, chunks, remaining, nonempty, rfl, loop, rfl⟩
    unfold recvExact at loop
    by_cases enough : count ≤ chunks.flatten.length
    · obtain ⟨left, returned, flat, _⟩ := recvLoop_enough ending count [] chunks nonempty
        (Nat.zero_le _) (by simpa using enough)
      rw [returned] at loop
      simp only [Prod.mk.injEq, Except.ok.injEq, List.nil_append, List.length_nil,
        Nat.sub_zero] at loop flat
      exact ⟨enough, loop.1.symm, loop.2 ▸ flat⟩
    · rw [recvLoop_short ending count [] chunks nonempty (by simpa using enough)] at loop
      simp at loop
  · rintro ⟨enough, rfl, rfl⟩
    have cut : ∃ chunks : List Bytes, (∀ chunk ∈ chunks, chunk ≠ []) ∧ chunks.flatten = queue := by
      by_cases empty : queue = []
      · exact ⟨[], by simp, by simp [empty]⟩
      · exact ⟨[queue], by simpa using empty, by simp⟩
    obtain ⟨chunks, nonempty, flat⟩ := cut
    obtain ⟨left, returned, rest, _⟩ := recvLoop_enough .connection count [] chunks nonempty
      (Nat.zero_le _) (by simpa [flat] using enough)
    refine ⟨.connection, chunks, left, nonempty, flat, ?_, ?_⟩
    · simpa [recvExact, flat] using returned
    · simpa [flat] using rest

/-- The firmware's loop is the same loop. -/
theorem recvAll_exact : Exact (Reads recvAll) := recvExact_exact

/-- A frame splits into its header and its body. -/
theorem frame_split (body rest : Bytes) : 4 ≤ (frame body ++ rest).length ∧
    (frame body ++ rest).take 4 = lengthHeader body.length ∧
      (frame body ++ rest).drop 4 = body ++ rest := by
  refine ⟨?_, rfl, rfl⟩
  simp only [frame, List.length_append, lengthHeader_length]
  omega

/-- Feeding one frame to the server's receiver consumes exactly that frame. -/
theorem feed_recvJson (loads : Bytes → Option Json) (body rest : Bytes) (value : Json)
    (positive : 0 < body.length) (small : body.length ≤ 65536) (parsed : loads body = some value) :
    (recvJson loads).feed (frame body ++ rest) = (.done (.ok value), [], rest) := by
  obtain ⟨enough, taken, left⟩ := frame_split body rest
  have header : headerLength (lengthHeader body.length) = body.length :=
    headerLength_lengthHeader _ (by omega)
  have valid : ¬ (body.length = 0 ∨ 65536 < body.length) := by omega
  have whole : body.length ≤ (body ++ rest).length := by simp
  simp only [recvJson, Process.feed, enough, if_true, taken, left, header, valid, if_false, whole,
    List.take_left, List.drop_left, parsed]

/-- The server refuses a frame over its limit once it has read the header. -/
theorem feed_recvJson_long (loads : Bytes → Option Json) (body rest : Bytes)
    (long : 65536 < body.length) (representable : body.length < 2 ^ 32) :
    (recvJson loads).feed (frame body ++ rest) =
      (.done (.error (.protocol ("invalid message length: " ++ toString body.length))), [],
        body ++ rest) := by
  obtain ⟨enough, taken, left⟩ := frame_split body rest
  have header : headerLength (lengthHeader body.length) = body.length :=
    headerLength_lengthHeader _ representable
  have invalid : body.length = 0 ∨ 65536 < body.length := .inr long
  simp only [recvJson, Process.feed, enough, if_true, taken, left, header, invalid]

/-- Feeding one frame to the firmware's receiver consumes exactly that frame. -/
theorem feed_netMsgRecv (parse : Bytes → Option Json) (body rest : Bytes)
    (positive : 0 < body.length) (small : body.length ≤ netMsgMaxLen) :
    (netMsgRecv parse).feed (frame body ++ rest) = (.done (parse body), [], rest) := by
  obtain ⟨enough, taken, left⟩ := frame_split body rest
  have below : body.length < 2 ^ 32 := by
    simp only [netMsgMaxLen] at small
    omega
  have header : headerLength (lengthHeader body.length) = body.length :=
    headerLength_lengthHeader _ below
  have valid : ¬ (body.length = 0 ∨ netMsgMaxLen < body.length) := by omega
  have whole : body.length ≤ (body ++ rest).length := by simp
  simp only [netMsgRecv, Process.feed, enough, if_true, taken, left, header, valid, if_false, whole,
    List.take_left, List.drop_left]

/-- On a working connection the server writes one frame. -/
theorem feed_sendJson (message : Message) (input : Bytes) :
    (sendJson message).feed input = (.done (.ok ()), frame (dumps message), input) := by
  simp [sendJson, Process.feed]

/-- On a working connection the firmware writes one frame. -/
theorem feed_netMsgSend (message : Message) (input : Bytes) :
    (netMsgSend message).feed input =
      (.done true, frame (cJSON_PrintUnformatted message), input) := by
  simp [netMsgSend, Process.feed, frame]

end Microgrid.Framing
