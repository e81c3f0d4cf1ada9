import Mathlib.Logic.Relation
import Mathlib.Data.List.Basic

/-!
# Finite communicating programs and pairs of them

A process sends a block of symbols, asks for an exact number of symbols, or is
done. Both operations may fail, and the failure is handed to the continuation,
so error paths are ordinary branches of the tree.

Three readings of the same tree are given. `run` interprets it over an arbitrary
transport. `feed` advances it over the input that has already arrived and stops
where more is needed. `Exchange` interleaves two processes over a pair of queues
in any order. Queues are first in, first out and each has one reader, so the
interleaving never matters: `inevitable_of_reaches` says that a result reached
by one schedule is reached by every schedule.
-/

namespace Microgrid.Processes

universe u
variable {σ ε α β : Type}

/-- A finite program over one stream in each direction. -/
inductive Process (σ ε α : Type) where
  | done (result : α)
  | send (payload : List σ) (next : Option ε → Process σ ε α)
  | receive (count : Nat) (next : Except ε (List σ) → Process σ ε α)

namespace Process

/-- Continue a process with another one that depends on its result. -/
def bind : Process σ ε α → (α → Process σ ε β) → Process σ ε β
  | .done result, continuation => continuation result
  | .send payload next, continuation => .send payload fun outcome => (next outcome).bind continuation
  | .receive count next, continuation => .receive count fun outcome => (next outcome).bind continuation

instance : Monad (Process σ ε) where
  pure := .done
  bind := Process.bind

@[simp] theorem pure_eq (result : α) : (pure result : Process σ ε α) = .done result := rfl

@[simp] theorem bind_eq (process : Process σ ε α) (continuation : α → Process σ ε β) :
    process >>= continuation = process.bind continuation := rfl

/-- Continuing with nothing changes nothing. -/
theorem bind_done (process : Process σ ε α) : process.bind .done = process := by
  induction process with
  | done result => rfl
  | send payload next inductionHypothesis => simp [bind, inductionHypothesis]
  | receive count next inductionHypothesis => simp [bind, inductionHypothesis]

/-- Continuations compose. -/
theorem bind_assoc {γ : Type} (process : Process σ ε α) (first : α → Process σ ε β)
    (second : β → Process σ ε γ) :
    (process.bind first).bind second = process.bind fun result => (first result).bind second := by
  induction process with
  | done result => rfl
  | send payload next inductionHypothesis => simp [bind, inductionHypothesis]
  | receive count next inductionHypothesis => simp [bind, inductionHypothesis]

instance : LawfulMonad (Process σ ε) :=
  LawfulMonad.mk' (Process σ ε) (fun process => bind_done process) (fun _ _ => rfl)
    fun process first second => bind_assoc process first second

end Process

/-- How a process talks to its surroundings: every operation has an outcome and
may change the transport's own state. -/
structure Transport (σ ε κ : Type) where
  write : List σ → κ → Option ε × κ
  read : Nat → κ → Except ε (List σ) × κ

variable {κ : Type}

/-- Interpret a process over a transport. -/
def Process.run (transport : Transport σ ε κ) : Process σ ε α → κ → α × κ
  | .done result, state => (result, state)
  | .send payload next, state =>
      (next (transport.write payload state).1).run transport (transport.write payload state).2
  | .receive count next, state =>
      (next (transport.read count state).1).run transport (transport.read count state).2

/-- Running a sequence runs its parts one after the other. -/
theorem run_bind (transport : Transport σ ε κ) (process : Process σ ε α)
    (continuation : α → Process σ ε β) (state : κ) :
    (process.bind continuation).run transport state =
      (continuation (process.run transport state).1).run transport
        (process.run transport state).2 := by
  induction process generalizing state with
  | done result => rfl
  | send payload next inductionHypothesis => exact inductionHypothesis _ _
  | receive count next inductionHypothesis => exact inductionHypothesis _ _

/-- Advance a process over the input at hand. Sending always succeeds; a request
for more than is there stops the process where it is. -/
def Process.feed : Process σ ε α → List σ → Process σ ε α × List σ × List σ
  | .done result, input => (.done result, [], input)
  | .send payload next, input =>
      (((next none).feed input).1, payload ++ ((next none).feed input).2.1,
        ((next none).feed input).2.2)
  | .receive count next, input =>
      if count ≤ input.length then (next (.ok (input.take count))).feed (input.drop count)
      else (.receive count next, [], input)

/-- Feeding a sequence whose first part finishes goes on with the second part. -/
theorem feed_bind_done (process : Process σ ε α) (continuation : α → Process σ ε β)
    (input sent unread : List σ) (result : α)
    (finished : process.feed input = (.done result, sent, unread)) :
    (process.bind continuation).feed input =
      (((continuation result).feed unread).1, sent ++ ((continuation result).feed unread).2.1,
        ((continuation result).feed unread).2.2) := by
  induction process generalizing input sent with
  | done value =>
    simp only [Process.feed, Prod.mk.injEq, Process.done.injEq] at finished
    obtain ⟨rfl, rfl, rfl⟩ := finished
    simp [Process.bind]
  | send payload next inductionHypothesis =>
    simp only [Process.feed, Prod.mk.injEq] at finished
    obtain ⟨process, sentTail, unreadTail⟩ := finished
    have tail := inductionHypothesis none input _ (Prod.ext process (Prod.ext rfl unreadTail))
    simp only [Process.bind, Process.feed, tail, ← sentTail, List.append_assoc]
  | receive count next inductionHypothesis =>
    by_cases enough : count ≤ input.length
    · simp only [Process.feed, enough, if_true] at finished
      simpa only [Process.bind, Process.feed, enough, if_true] using
        inductionHypothesis _ _ _ finished
    · simp [Process.feed, enough] at finished

/-- Two processes joined by a queue in each direction. -/
structure Pair (σ ε α β : Type) where
  left : Process σ ε α
  right : Process σ ε β
  toRight : List σ
  toLeft : List σ

/-- One step of either process. A reader relates a request and a queue to the
symbols handed over and the queue that remains. -/
inductive Exchange (readLeft readRight : Nat → List σ → List σ → List σ → Prop) :
    Pair σ ε α β → Pair σ ε α β → Prop where
  | leftSends (payload : List σ) (next : Option ε → Process σ ε α) (right : Process σ ε β)
      (toRight toLeft : List σ) :
      Exchange readLeft readRight ⟨.send payload next, right, toRight, toLeft⟩
        ⟨next none, right, toRight ++ payload, toLeft⟩
  | rightSends (left : Process σ ε α) (payload : List σ) (next : Option ε → Process σ ε β)
      (toRight toLeft : List σ) :
      Exchange readLeft readRight ⟨left, .send payload next, toRight, toLeft⟩
        ⟨left, next none, toRight, toLeft ++ payload⟩
  | leftReads (count : Nat) (next : Except ε (List σ) → Process σ ε α) (right : Process σ ε β)
      (toRight toLeft taken rest : List σ) (delivered : readLeft count toLeft taken rest) :
      Exchange readLeft readRight ⟨.receive count next, right, toRight, toLeft⟩
        ⟨next (.ok taken), right, toRight, rest⟩
  | rightReads (left : Process σ ε α) (count : Nat) (next : Except ε (List σ) → Process σ ε β)
      (toRight toLeft taken rest : List σ) (delivered : readRight count toRight taken rest) :
      Exchange readLeft readRight ⟨left, .receive count next, toRight, toLeft⟩
        ⟨left, next (.ok taken), rest, toLeft⟩

/-- A reader that waits for the requested number of symbols and takes the first
ones, however they arrived. -/
def Exact (read : Nat → List σ → List σ → List σ → Prop) : Prop :=
  ∀ count queue taken rest, read count queue taken rest ↔
    count ≤ queue.length ∧ taken = queue.take count ∧ rest = queue.drop count

/-- What an exact reader would take is unaffected by later arrivals. -/
theorem exact_stable {read : Nat → List σ → List σ → List σ → Prop} (exact : Exact read)
    {count : Nat} {queue taken rest : List σ} (delivered : read count queue taken rest)
    (later : List σ) : read count (queue ++ later) taken (rest ++ later) := by
  obtain ⟨enough, rfl, rfl⟩ := (exact count queue taken rest).mp delivered
  refine (exact _ _ _ _).mpr ⟨by simp only [List.length_append]; omega, ?_, ?_⟩
  · exact (List.take_append_of_le_length enough).symm
  · exact (List.drop_append_of_le_length enough).symm

variable {readLeft readRight : Nat → List σ → List σ → List σ → Prop}

/-- Two different steps from one configuration belong to different processes and
can be done in either order. -/
theorem exchange_diamond (exactLeft : Exact readLeft) (exactRight : Exact readRight)
    {start first second : Pair σ ε α β} (one : Exchange readLeft readRight start first)
    (two : Exchange readLeft readRight start second) :
    first = second ∨ ∃ joined, Exchange readLeft readRight first joined ∧
      Exchange readLeft readRight second joined := by
  cases one with
  | leftSends payload next right toRight toLeft =>
    cases two with
    | leftSends => exact .inl rfl
    | rightSends => exact .inr ⟨_, .rightSends .., .leftSends ..⟩
    | rightReads _ _ _ _ _ _ rest delivered =>
      exact .inr ⟨_, .rightReads _ _ _ _ _ _ _ (exact_stable exactRight delivered payload),
        .leftSends ..⟩
  | rightSends left payload next toRight toLeft =>
    cases two with
    | leftSends => exact .inr ⟨_, .leftSends .., .rightSends ..⟩
    | rightSends => exact .inl rfl
    | leftReads _ _ _ _ _ _ rest delivered =>
      exact .inr ⟨_, .leftReads _ _ _ _ _ _ _ (exact_stable exactLeft delivered payload),
        .rightSends ..⟩
  | leftReads count next right toRight toLeft taken rest delivered =>
    cases two with
    | rightSends _ payload =>
      exact .inr ⟨_, .rightSends ..,
        .leftReads _ _ _ _ _ _ _ (exact_stable exactLeft delivered payload)⟩
    | leftReads _ _ _ _ _ _ _ again =>
      obtain ⟨_, rfl, rfl⟩ := (exactLeft ..).mp delivered
      obtain ⟨_, rfl, rfl⟩ := (exactLeft ..).mp again
      exact .inl rfl
    | rightReads _ _ _ _ _ _ _ other =>
      exact .inr ⟨_, .rightReads _ _ _ _ _ _ _ other, .leftReads _ _ _ _ _ _ _ delivered⟩
  | rightReads left count next toRight toLeft taken rest delivered =>
    cases two with
    | leftSends payload =>
      exact .inr ⟨_, .leftSends ..,
        .rightReads _ _ _ _ _ _ _ (exact_stable exactRight delivered payload)⟩
    | leftReads _ _ _ _ _ _ _ other =>
      exact .inr ⟨_, .leftReads _ _ _ _ _ _ _ other, .rightReads _ _ _ _ _ _ _ delivered⟩
    | rightReads _ _ _ _ _ _ _ again =>
      obtain ⟨_, rfl, rfl⟩ := (exactRight ..).mp delivered
      obtain ⟨_, rfl, rfl⟩ := (exactRight ..).mp again
      exact .inl rfl

/-- No schedule runs for ever: every step moves one of two finite trees down. -/
theorem exchange_terminates (left : Process σ ε α) (right : Process σ ε β)
    (toRight toLeft : List σ) :
    Acc (fun next start => Exchange readLeft readRight start next)
      ⟨left, right, toRight, toLeft⟩ := by
  induction left generalizing right toRight toLeft with
  | done result =>
    induction right generalizing toRight toLeft with
    | done other => exact .intro _ fun next step => nomatch step
    | send payload next rightTree =>
      refine .intro _ fun _ step => ?_
      cases step
      exact rightTree _ _ _
    | receive count next rightTree =>
      refine .intro _ fun _ step => ?_
      cases step
      exact rightTree _ _ _
  | send payload next leftTree =>
    induction right generalizing toRight toLeft with
    | done other =>
      refine .intro _ fun _ step => ?_
      cases step
      exact leftTree _ _ _ _
    | send payload next rightTree =>
      refine .intro _ fun _ step => ?_
      cases step
      · exact leftTree _ _ _ _
      · exact rightTree _ _ _
    | receive count next rightTree =>
      refine .intro _ fun _ step => ?_
      cases step
      · exact leftTree _ _ _ _
      · exact rightTree _ _ _
  | receive count next leftTree =>
    induction right generalizing toRight toLeft with
    | done other =>
      refine .intro _ fun _ step => ?_
      cases step
      exact leftTree _ _ _ _
    | send payload next rightTree =>
      refine .intro _ fun _ step => ?_
      cases step
      · exact rightTree _ _ _
      · exact leftTree _ _ _ _
    | receive count next rightTree =>
      refine .intro _ fun _ step => ?_
      cases step
      · exact leftTree _ _ _ _
      · exact rightTree _ _ _

/-- Every way of carrying on from here reaches the goal: either it holds, or some
step is possible and it is inevitable after each possible step. -/
inductive Inevitable {State : Type u} (step : State → State → Prop) (goal : State → Prop) :
    State → Prop where
  | now {state : State} : goal state → Inevitable step goal state
  | later {state : State} : (∃ next, step state next) →
      (∀ next, step state next → Inevitable step goal next) → Inevitable step goal state

/-- A weaker goal is inevitable too. -/
theorem inevitable_mono {State : Type u} {step : State → State → Prop} {goal weaker : State → Prop}
    (weakens : ∀ state, goal state → weaker state) {state : State}
    (inevitable : Inevitable step goal state) : Inevitable step weaker state := by
  induction inevitable with
  | now reached => exact .now (weakens _ reached)
  | later possible _ inductionHypothesis => exact .later possible inductionHypothesis

/-- A final configuration reached by one schedule is reached by all of them.

The diamond makes reachability confluent, so each configuration met on the way
still reaches the final one; a configuration that is not final therefore has a
step, and by termination the walk ends. -/
theorem inevitable_of_reaches (exactLeft : Exact readLeft) (exactRight : Exact readRight)
    {start final : Pair σ ε α β}
    (reached : Relation.ReflTransGen (Exchange readLeft readRight) start final)
    (terminal : ∀ next, ¬ Exchange readLeft readRight final next) :
    Inevitable (Exchange readLeft readRight) (· = final) start := by
  have finite : Acc (fun next state => Exchange readLeft readRight state next) start :=
    exchange_terminates start.left start.right start.toRight start.toLeft
  induction finite with
  | intro state _ inductionHypothesis =>
    rcases Relation.ReflTransGen.cases_head reached with same | ⟨middle, step, _⟩
    · exact .now same
    · refine .later ⟨middle, step⟩ fun next stepNext => inductionHypothesis next stepNext ?_
      have joins : Relation.Join (Relation.ReflTransGen (Exchange readLeft readRight)) next final :=
        Relation.church_rosser
          (fun _ _ _ one two => by
            rcases exchange_diamond exactLeft exactRight one two with same | ⟨joined, left, right⟩
            · exact ⟨_, .refl, same ▸ .refl⟩
            · exact ⟨joined, .single left, .single right⟩)
          (.single stepNext) reached
      obtain ⟨meeting, fromNext, fromFinal⟩ := joins
      rcases Relation.ReflTransGen.cases_head fromFinal with same | ⟨beyond, impossible, _⟩
      · exact same ▸ fromNext
      · exact absurd impossible (terminal beyond)

/-- Feeding the left process is one of the schedules. -/
theorem left_advances (exactLeft : Exact readLeft) (left : Process σ ε α) (right : Process σ ε β)
    (toRight toLeft : List σ) :
    Relation.ReflTransGen (Exchange readLeft readRight) ⟨left, right, toRight, toLeft⟩
      ⟨(left.feed toLeft).1, right, toRight ++ (left.feed toLeft).2.1, (left.feed toLeft).2.2⟩ := by
  induction left generalizing toRight toLeft with
  | done result => simp only [Process.feed, List.append_nil]; exact .refl
  | send payload next inductionHypothesis =>
    have rest := inductionHypothesis none (toRight ++ payload) toLeft
    rw [List.append_assoc] at rest
    exact rest.head (.leftSends ..)
  | receive count next inductionHypothesis =>
    by_cases enough : count ≤ toLeft.length
    · simp only [Process.feed, enough, if_true]
      exact (inductionHypothesis _ toRight _).head
        (.leftReads _ _ _ _ _ _ _ ((exactLeft ..).mpr ⟨enough, rfl, rfl⟩))
    · simp only [Process.feed, enough, if_false, List.append_nil]
      exact .refl

/-- Feeding the right process is one of the schedules. -/
theorem right_advances (exactRight : Exact readRight) (left : Process σ ε α) (right : Process σ ε β)
    (toRight toLeft : List σ) :
    Relation.ReflTransGen (Exchange readLeft readRight) ⟨left, right, toRight, toLeft⟩
      ⟨left, (right.feed toRight).1, (right.feed toRight).2.2,
        toLeft ++ (right.feed toRight).2.1⟩ := by
  induction right generalizing toRight toLeft with
  | done result => simp only [Process.feed, List.append_nil]; exact .refl
  | send payload next inductionHypothesis =>
    have rest := inductionHypothesis none toRight (toLeft ++ payload)
    rw [List.append_assoc] at rest
    exact rest.head (.rightSends ..)
  | receive count next inductionHypothesis =>
    by_cases enough : count ≤ toRight.length
    · simp only [Process.feed, enough, if_true]
      exact (inductionHypothesis _ _ toLeft).head
        (.rightReads _ _ _ _ _ _ _ ((exactRight ..).mpr ⟨enough, rfl, rfl⟩))
    · simp only [Process.feed, enough, if_false, List.append_nil]
      exact .refl

/-- What feeding the left process computes is reached by a schedule. -/
theorem left_feeds (readRight : Nat → List σ → List σ → List σ → Prop)
    (exactLeft : Exact readLeft) {left process : Process σ ε α}
    {toLeft sent unread : List σ} (fed : left.feed toLeft = (process, sent, unread))
    (right : Process σ ε β) (toRight : List σ) :
    Relation.ReflTransGen (Exchange readLeft readRight) ⟨left, right, toRight, toLeft⟩
      ⟨process, right, toRight ++ sent, unread⟩ := by
  have advanced : Relation.ReflTransGen (Exchange readLeft readRight) _ _ :=
    left_advances exactLeft left right toRight toLeft
  rwa [fed] at advanced

/-- What feeding the right process computes is reached by a schedule. -/
theorem right_feeds (readLeft : Nat → List σ → List σ → List σ → Prop)
    (exactRight : Exact readRight) {right process : Process σ ε β}
    {toRight sent unread : List σ} (fed : right.feed toRight = (process, sent, unread))
    (left : Process σ ε α) (toLeft : List σ) :
    Relation.ReflTransGen (Exchange readLeft readRight) ⟨left, right, toRight, toLeft⟩
      ⟨left, process, unread, toLeft ++ sent⟩ := by
  have advanced : Relation.ReflTransGen (Exchange readLeft readRight) _ _ :=
    right_advances exactRight left right toRight toLeft
  rwa [fed] at advanced

/-- A step of two processes is a step of the two sequences they begin. -/
theorem exchange_bind {γ δ : Type} {before after : Pair σ ε α β}
    (step : Exchange readLeft readRight before after) (first : α → Process σ ε γ)
    (second : β → Process σ ε δ) :
    Exchange readLeft readRight
      ⟨before.left.bind first, before.right.bind second, before.toRight, before.toLeft⟩
      ⟨after.left.bind first, after.right.bind second, after.toRight, after.toLeft⟩ := by
  cases step with
  | leftSends => exact .leftSends ..
  | rightSends => exact .rightSends ..
  | leftReads _ _ _ _ _ _ _ delivered => exact .leftReads _ _ _ _ _ _ _ delivered
  | rightReads _ _ _ _ _ _ _ delivered => exact .rightReads _ _ _ _ _ _ _ delivered

/-- Where two processes finish, the two sequences they begin go on. -/
theorem reaches_bind {γ δ : Type} {start : Pair σ ε α β} {one : α} {other : β}
    {toRight toLeft : List σ}
    (reached : Relation.ReflTransGen (Exchange readLeft readRight) start
      ⟨.done one, .done other, toRight, toLeft⟩)
    (first : α → Process σ ε γ) (second : β → Process σ ε δ) :
    Relation.ReflTransGen (Exchange readLeft readRight)
      ⟨start.left.bind first, start.right.bind second, start.toRight, start.toLeft⟩
      ⟨first one, second other, toRight, toLeft⟩ :=
  reached.lift (fun pair : Pair σ ε α β => (⟨pair.left.bind first, pair.right.bind second,
    pair.toRight, pair.toLeft⟩ : Pair σ ε γ δ)) fun _ _ step => exchange_bind step first second

end Microgrid.Processes
