import Microgrid.Handshake.RotSession

/-!
# Running session code against a peer

`exec` runs session code over one `Connection`: whatever the peer sends, however
its stream ends, whichever writes fail. One equation for every building block
replaces its definition, so that the proofs about whole sessions follow the code
line by line. `readFrame` is the byte half of `recv_json`, before parsing.

`Ensures` is the usual triple for such code: from a state that satisfies the
precondition, whatever the peer does, the outcome and the state left behind
satisfy the postcondition.
-/

namespace Microgrid.RotSession

open Framing Processes

variable {α β : Type}

/-- Run session code from a state of the session object, over a connection. -/
def exec (code : SessionM α) (state : State) (conn : Connection) :
    (Except PyError α × State) × Connection := (code.run state).run connection conn

/-- A raised exception skips the rest. -/
theorem exec_bind (code : SessionM α) (rest : α → SessionM β) (state : State)
    (conn : Connection) :
    exec (code >>= rest) state conn =
      match (exec code state conn).1.1 with
      | .ok value => exec (rest value) (exec code state conn).1.2 (exec code state conn).2
      | .error raised =>
        ((.error raised, (exec code state conn).1.2), (exec code state conn).2) := by
  unfold exec
  rw [bind_run, run_bind]
  cases ((code.run state).run connection conn).1.1 <;> rfl

theorem exec_pure (value : α) (state : State) (conn : Connection) :
    exec (pure value) state conn = ((.ok value, state), conn) := rfl

theorem exec_raising (outcome : Except PyError α) (state : State) (conn : Connection) :
    exec (raising outcome) state conn = ((outcome, state), conn) := rfl

theorem exec_modify (update : State → State) (state : State) (conn : Connection) :
    exec (modify update) state conn = ((.ok (), update state), conn) := rfl

theorem exec_get (state : State) (conn : Connection) :
    exec get state conn = ((.ok state, state), conn) := rfl

theorem exec_set (after state : State) (conn : Connection) :
    exec (set after) state conn = ((.ok (), after), conn) := rfl

/-- Socket code leaves the session object alone. -/
theorem exec_socket (code : Process UInt8 NetError (Except PyError α)) (state : State)
    (conn : Connection) :
    exec (socket code) state conn =
      (((code.run connection conn).1, state), (code.run connection conn).2) := by
  unfold exec socket
  exact run_bind ..

/-- A `try` block never raises. -/
theorem exec_attempt (code : SessionM α) (state : State) (conn : Connection) :
    exec (attempt code) state conn =
      ((.ok (exec code state conn).1.1, (exec code state conn).1.2), (exec code state conn).2) := by
  unfold exec attempt
  exact run_bind ..

/-- Sending uses up one write outcome and raises what it says. -/
theorem exec_sendJson (message : Message) (state : State) (conn : Connection) :
    exec (socket (sendJson message)) state conn =
      ((match conn.sends.headD none with
        | none => .ok ()
        | some failure => .error failure.raised, state),
        { conn with sends := conn.sends.tail }) := by
  rw [exec_socket]
  simp only [sendJson, Process.run, connection]
  cases conn.sends.headD none <;> rfl

/-- An error reply never raises and changes no attribute. -/
theorem exec_sendError (message : String) (state : State) (conn : Connection) :
    exec (sendError message) state conn =
      ((.ok (), state), { conn with sends := conn.sends.tail }) := by
  unfold sendError
  rw [exec_bind, exec_attempt, exec_sendJson]
  rfl

/-- The body of the next frame, or the exception that reading it raises, and the
chunks that are left. -/
def readFrame (ending : NetError) (chunks : List Bytes) : Except PyError Bytes × List Bytes :=
  match recvExact ending 4 chunks with
  | (.error failure, rest) => (.error failure.raised, rest)
  | (.ok hdr, rest) =>
    if headerLength hdr = 0 ∨ 65536 < headerLength hdr then
      (.error (.protocol ("invalid message length: " ++ toString (headerLength hdr))), rest)
    else
      match recvExact ending (headerLength hdr) rest with
      | (.error failure, left) => (.error failure.raised, left)
      | (.ok body, left) => (.ok body, left)

/-- `recv_json` reads a frame and parses its body. -/
theorem exec_recvJson (loads : Bytes → Option Json) (state : State) (conn : Connection) :
    exec (socket (recvJson loads)) state conn =
      ((match (readFrame conn.ending conn.chunks).1 with
        | .error raised => .error raised
        | .ok body =>
          match loads body with
          | none => .error .decode
          | some value => .ok value, state),
        { conn with chunks := (readFrame conn.ending conn.chunks).2 }) := by
  rw [exec_socket]
  simp only [recvJson, Process.run, connection, readFrame]
  rcases recvExact conn.ending 4 conn.chunks with ⟨failure | hdr, rest⟩
  · rfl
  · by_cases invalid : headerLength hdr = 0 ∨ 65536 < headerLength hdr
    · simp only [invalid, if_true, Process.run]
    · simp only [invalid, if_false, Process.run]
      rcases recvExact conn.ending (headerLength hdr) rest with ⟨failure | body, left⟩
      · rfl
      · cases loads body <;> rfl

/-- Whatever reading a frame raises, `run` handles. -/
theorem readFrame_handled (ending : NetError) (chunks : List Bytes) (raised : PyError)
    (failed : (readFrame ending chunks).1 = .error raised) : handled raised = true := by
  have network (failure : NetError) : handled failure.raised = true := by cases failure <;> rfl
  unfold readFrame at failed
  rcases header : recvExact ending 4 chunks with ⟨failure | hdr, rest⟩
  · simp only [header, Except.error.injEq] at failed
    exact failed ▸ network failure
  · simp only [header] at failed
    by_cases invalid : headerLength hdr = 0 ∨ 65536 < headerLength hdr
    · simp only [invalid, if_true, Except.error.injEq] at failed
      exact failed ▸ rfl
    · simp only [invalid, if_false] at failed
      rcases content : recvExact ending (headerLength hdr) rest with ⟨failure | body, left⟩
      · simp only [content, Except.error.injEq] at failed
        exact failed ▸ network failure
      · simp [content] at failed

/-- The read loop hands over the bytes it took from the stream and no others. -/
theorem recvLoop_consumes (ending : NetError) (count : Nat) (buf : Bytes) (chunks : List Bytes)
    (within : buf.length ≤ count) (taken : Bytes) (rest : List Bytes)
    (returned : recvLoop ending count buf chunks = (.ok taken, rest)) :
    taken.length = count ∧
      buf.length + chunks.flatten.length = count + rest.flatten.length := by
  induction chunks generalizing buf with
  | nil =>
    by_cases full : count ≤ buf.length
    · simp only [recvLoop, full, if_true, Prod.mk.injEq, Except.ok.injEq] at returned
      obtain ⟨rfl, rfl⟩ := returned
      simp only [List.flatten_nil, List.length_nil]
      omega
    · simp [recvLoop, full] at returned
  | cons chunk others inductionHypothesis =>
    by_cases full : count ≤ buf.length
    · simp only [recvLoop, full, if_true, Prod.mk.injEq, Except.ok.injEq] at returned
      obtain ⟨rfl, rfl⟩ := returned
      omega
    · by_cases closed : chunk = []
      · simp [recvLoop, full, closed] at returned
      · by_cases fits : chunk.length ≤ count - buf.length
        · simp only [recvLoop, full, closed, fits, if_true, if_false] at returned
          have tail := inductionHypothesis (buf ++ chunk)
            (by simp only [List.length_append]; omega) returned
          simp only [List.length_append, List.flatten_cons] at tail ⊢
          omega
        · simp only [recvLoop, full, closed, fits, if_false, Prod.mk.injEq,
            Except.ok.injEq] at returned
          obtain ⟨rfl, rfl⟩ := returned
          simp only [List.length_append, List.length_take, List.flatten_cons, List.length_drop]
          omega

/-- Every frame that is read shortens the stream. -/
theorem readFrame_shorter (ending : NetError) (chunks : List Bytes) (body : Bytes)
    (rest : List Bytes) (read : readFrame ending chunks = (.ok body, rest)) :
    rest.flatten.length < chunks.flatten.length := by
  unfold readFrame at read
  rcases header : recvExact ending 4 chunks with ⟨failure | hdr, left⟩
  · simp [header] at read
  · have headerBytes := recvLoop_consumes ending 4 [] chunks (Nat.zero_le _) hdr left header
    simp only [header] at read
    by_cases invalid : headerLength hdr = 0 ∨ 65536 < headerLength hdr
    · simp [invalid] at read
    · simp only [invalid, if_false] at read
      rcases content : recvExact ending (headerLength hdr) left with ⟨failure | taken, remaining⟩
      · simp [content] at read
      · have bodyBytes := recvLoop_consumes ending _ [] left (Nat.zero_le _) taken remaining content
        simp only [content, Prod.mk.injEq] at read
        obtain ⟨_, rfl⟩ := read
        simp only [List.length_nil] at headerBytes bodyBytes
        omega

/-- A data round on an object returns and reads nothing further. -/
theorem handleData_returns (runtime : Runtime) (fields : List (String × Json)) (state : State)
    (conn : Connection) :
    (exec (handleData runtime (.obj fields)) state conn).1.1 = .ok () ∧
      (exec (handleData runtime (.obj fields)) state conn).2.chunks = conn.chunks ∧
      (exec (handleData runtime (.obj fields)) state conn).2.ending = conn.ending := by
  unfold handleData
  rw [exec_bind, exec_raising]
  simp only [getField]
  by_cases isData : (!isText (fields.lookup "type") "data") = true
  · rw [if_pos isData]
    exact ⟨rfl, rfl, rfl⟩
  · rw [if_neg isData, exec_bind, exec_get]
    dsimp only
    rw [exec_bind, exec_set]
    dsimp only
    cases decryptDataMessage runtime (.obj fields) state.keyAb with
    | error raised =>
      dsimp only
      rw [exec_sendError]
      exact ⟨rfl, rfl, rfl⟩
    | ok plaintext => exact ⟨rfl, rfl, rfl⟩

/-- From a state with `before`, whatever the peer does, the outcome and the state
left behind satisfy `after`. -/
def Ensures (code : SessionM α) (before : State → Prop)
    (after : Except PyError α → State → Prop) : Prop :=
  ∀ state conn, before state →
    after (exec code state conn).1.1 (exec code state conn).1.2

/-- Sequencing: an exception of the first part is an exception of the whole. -/
theorem ensures_bind {code : SessionM α} {rest : α → SessionM β} {before : State → Prop}
    (middle : α → State → Prop) {after : Except PyError β → State → Prop}
    (first : Ensures code before fun outcome state =>
      match outcome with
      | .ok value => middle value state
      | .error raised => after (.error raised) state)
    (second : ∀ value, Ensures (rest value) (middle value) after) :
    Ensures (code >>= rest) before after := by
  intro state conn holds
  have outcome := first state conn holds
  rw [exec_bind]
  rcases finished : (exec code state conn).1.1 with raised | value
  · simp only [finished] at outcome ⊢
    exact outcome
  · simp only [finished] at outcome ⊢
    exact second value _ _ outcome

/-- Finishing with a value. -/
theorem ensures_pure {value : α} {before : State → Prop} {after : Except PyError α → State → Prop}
    (finished : ∀ state, before state → after (.ok value) state) :
    Ensures (pure value) before after := fun state _ holds => finished state holds

/-- Updating the attributes before the rest. -/
theorem ensures_modify {update : State → State} {rest : Unit → SessionM β}
    {before : State → Prop} (middle : State → Prop) {after : Except PyError β → State → Prop}
    (updated : ∀ state, before state → middle (update state))
    (second : Ensures (rest ()) middle after) :
    Ensures (modify update >>= rest) before after :=
  fun state conn holds => second (update state) conn (updated state holds)

/-- Code that leaves every state as it is. -/
def Untouched (code : SessionM α) : Prop := ∀ state conn, (exec code state conn).1.2 = state

theorem untouched_raising (outcome : Except PyError α) : Untouched (raising outcome) :=
  fun _ _ => rfl

theorem untouched_socket (code : Process UInt8 NetError (Except PyError α)) :
    Untouched (socket code) := fun state conn => by rw [exec_socket]

/-- Such code can be stepped over when its exceptions are covered. -/
theorem ensures_skip {code : SessionM α} {rest : α → SessionM β} {before : State → Prop}
    {after : Except PyError β → State → Prop} (untouched : Untouched code)
    (raises : ∀ raised state, before state → after (.error raised) state)
    (second : ∀ value, Ensures (rest value) before after) :
    Ensures (code >>= rest) before after := by
  refine ensures_bind (fun _ => before) (fun state conn holds => ?_) second
  rw [untouched state conn]
  cases (exec code state conn).1.1 with
  | error raised => exact raises raised state holds
  | ok value => exact holds

/-- An error reply followed by a result. -/
theorem ensures_refuse {message : String} {value : α} {before : State → Prop}
    {after : Except PyError α → State → Prop}
    (refused : ∀ state, before state → after (.ok value) state) :
    Ensures (sendError message >>= fun _ => pure value) before after := by
  intro state conn holds
  rw [exec_bind, exec_sendError]
  exact refused state holds

end Microgrid.RotSession
