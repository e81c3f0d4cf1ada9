import Mathlib.Data.List.Induction

/-!
# Programs whose power can fail

A program works on a durable store and a volatile memory. Every durable operation
is atomic and leaves a store behind; when power fails, the store is one of these and
the memory is gone. A program ends by returning, by going to sleep, which keeps the
memory, or by being aborted, which loses it.

A machine runs one program over and over. Each cycle starts from the memory that
sleep kept, or from the initial memory after anything else. A cycle ends where its
input says the power fails, or where the program ends.

The rules follow a program operation by operation. What holds over every sequence of
cycles is reduced to a single cycle by `cycles_induction`.
-/

namespace Microgrid.CrashPrograms

variable {σ ρ α β : Type}

/-- How a program ends. -/
inductive Outcome (α : Type) where
  | returned (value : α)
  | slept
  | aborted
deriving DecidableEq

/-- The store after every durable operation in turn, the memory at the end, and the
outcome. -/
structure Result (σ ρ α : Type) where
  stores : List σ
  memory : ρ
  outcome : Outcome α

/-- The store at the end. -/
def Result.store (start : σ) (result : Result σ ρ α) : σ := result.stores.getLastD start

/-- The store that is left when power fails after a number of durable operations; a
program that makes fewer is done with them. -/
def Result.storeAfter (start : σ) (result : Result σ ρ α) (count : Nat) : σ :=
  (result.stores.take count).getLastD start

/-- The same result after earlier durable operations. -/
def Result.prepend (earlier : List σ) (result : Result σ ρ α) : Result σ ρ α :=
  ⟨earlier ++ result.stores, result.memory, result.outcome⟩

@[simp] theorem Result.prepend_mk (earlier stores : List σ) (memory : ρ) (outcome : Outcome α) :
    Result.prepend earlier ⟨stores, memory, outcome⟩ = ⟨earlier ++ stores, memory, outcome⟩ := rfl

/-- A program, from a store and a memory. -/
def Program (σ ρ α : Type) := σ → ρ → Result σ ρ α

namespace Program

/-- End at once. -/
def pure (value : α) : Program σ ρ α := fun _ memory => ⟨[], memory, .returned value⟩

/-- Continue with the result, unless the program slept or was aborted. -/
def bind (first : Program σ ρ α) (rest : α → Program σ ρ β) : Program σ ρ β :=
  fun start memory =>
    match first start memory with
    | ⟨stores, after, .returned value⟩ =>
      (rest value (stores.getLastD start) after).prepend stores
    | ⟨stores, after, .slept⟩ => ⟨stores, after, .slept⟩
    | ⟨stores, after, .aborted⟩ => ⟨stores, after, .aborted⟩

instance : Monad (Program σ ρ) where
  pure := Program.pure
  bind := Program.bind

/-- The store now. -/
def load : Program σ ρ σ := fun start memory => ⟨[], memory, .returned start⟩

/-- One durable operation. -/
def store (update : σ → σ) : Program σ ρ Unit :=
  fun start memory => ⟨[update start], memory, .returned ()⟩

/-- The memory now. -/
def inspect : Program σ ρ ρ := fun _ memory => ⟨[], memory, .returned memory⟩

/-- Change the memory. -/
def remember (update : ρ → ρ) : Program σ ρ Unit :=
  fun _ memory => ⟨[], update memory, .returned ()⟩

/-- Go to sleep. -/
def sleep : Program σ ρ α := fun _ memory => ⟨[], memory, .slept⟩

/-- Go on with a value if there is one; a failed assertion aborts. -/
def require (value : Option α) : Program σ ρ α := fun _ memory =>
  match value with
  | some value => ⟨[], memory, .returned value⟩
  | none => ⟨[], memory, .aborted⟩

/-! ### Rules -/

variable {start : σ} {memory after : ρ} {stores : List σ}

/-- A first part that returns hands over the store it left. -/
theorem bind_returned {first : Program σ ρ α} {value : α}
    (finished : first start memory = ⟨stores, after, .returned value⟩)
    (rest : α → Program σ ρ β) {next : Result σ ρ β}
    (continued : rest value (stores.getLastD start) after = next) :
    (first >>= rest) start memory = next.prepend stores := by
  subst continued
  show Program.bind first rest start memory = _
  rw [Program.bind, finished]

/-- A first part that sleeps is the whole program. -/
theorem bind_slept {first : Program σ ρ α} (ended : first start memory = ⟨stores, after, .slept⟩)
    (rest : α → Program σ ρ β) : (first >>= rest) start memory = ⟨stores, after, .slept⟩ := by
  show Program.bind first rest start memory = _
  rw [Program.bind, ended]

/-- So is one that is aborted. -/
theorem bind_aborted {first : Program σ ρ α}
    (ended : first start memory = ⟨stores, after, .aborted⟩) (rest : α → Program σ ρ β) :
    (first >>= rest) start memory = ⟨stores, after, .aborted⟩ := by
  show Program.bind first rest start memory = _
  rw [Program.bind, ended]

/-- If the whole returns, so did both parts. -/
theorem bind_returned_inv {first : Program σ ρ α} {rest : α → Program σ ρ β} {value : β}
    (finished : (first >>= rest) start memory = ⟨stores, after, .returned value⟩) :
    ∃ earlier between intermediate later,
      first start memory = ⟨earlier, between, .returned intermediate⟩ ∧
        rest intermediate (earlier.getLastD start) between = ⟨later, after, .returned value⟩ ∧
        stores = earlier ++ later := by
  rcases ran : first start memory with ⟨earlier, between, intermediate | _ | _⟩
  · rw [bind_returned ran rest rfl, Result.prepend, Result.mk.injEq] at finished
    obtain ⟨rfl, rfl, ended⟩ := finished
    exact ⟨earlier, between, intermediate, _, rfl, by rw [← ended], rfl⟩
  · rw [bind_slept ran] at finished
    cases finished
  · rw [bind_aborted ran] at finished
    cases finished

/-- The last of the later stores, or the last of the earlier ones. -/
theorem getLastD_append (stores more : List σ) (start : σ) :
    (stores ++ more).getLastD start = more.getLastD (stores.getLastD start) := by
  simp only [List.getLastD_eq_getLast?, List.getLast?_append]
  cases more.getLast? <;> rfl

/-- Programs in sequence can be grouped either way. -/
theorem bind_assoc {γ : Type} (code : Program σ ρ α) (next : α → Program σ ρ β)
    (last : β → Program σ ρ γ) :
    code >>= next >>= last = code >>= fun value => next value >>= last := by
  funext start memory
  rcases ran : code start memory with ⟨stores, after, value | _ | _⟩
  · rw [bind_returned ran _ rfl]
    rcases ranNext : next value (stores.getLastD start) after with ⟨more, later, value' | _ | _⟩
    · have first := bind_returned ran next ranNext
      rw [bind_returned first last rfl, bind_returned ranNext last rfl]
      rw [getLastD_append, Result.prepend_mk, Result.prepend, Result.prepend, List.append_assoc]
    · have first := bind_returned ran next ranNext
      rw [bind_slept first, bind_slept ranNext]
      rfl
    · have first := bind_returned ran next ranNext
      rw [bind_aborted first, bind_aborted ranNext]
      rfl
  · rw [bind_slept (bind_slept ran next), bind_slept ran]
  · rw [bind_aborted (bind_aborted ran next), bind_aborted ran]

@[simp] theorem pure_apply (value : α) (start : σ) (memory : ρ) :
    (Pure.pure value : Program σ ρ α) start memory = ⟨[], memory, .returned value⟩ := rfl

@[simp] theorem load_bind (rest : σ → Program σ ρ β) (start : σ) (memory : ρ) :
    (load >>= rest) start memory = rest start start memory := rfl

@[simp] theorem inspect_bind (rest : ρ → Program σ ρ β) (start : σ) (memory : ρ) :
    (inspect >>= rest) start memory = rest memory start memory := rfl

@[simp] theorem remember_bind (update : ρ → ρ) (rest : Unit → Program σ ρ β) (start : σ)
    (memory : ρ) : (remember update >>= rest) start memory = rest () start (update memory) := rfl

@[simp] theorem require_some_bind (value : α) (rest : α → Program σ ρ β) (start : σ)
    (memory : ρ) : (require (some value) >>= rest) start memory = rest value start memory := rfl

@[simp] theorem require_none_bind (rest : α → Program σ ρ β) (start : σ) (memory : ρ) :
    (require none >>= rest) start memory = ⟨[], memory, .aborted⟩ := rfl

/-- A durable operation comes first in the stores left behind. -/
@[simp] theorem store_bind (update : σ → σ) (rest : Unit → Program σ ρ β) (start : σ)
    (memory : ρ) :
    (store update >>= rest) start memory =
      (rest () (update start) memory).prepend [update start] := rfl

@[simp] theorem store_apply (update : σ → σ) (start : σ) (memory : ρ) :
    (store update : Program σ ρ Unit) start memory = ⟨[update start], memory, .returned ()⟩ := rfl

/-- Programs that make no durable operation and go to sleep with such memories only. -/
def Quiet (asleep : ρ → Prop) (code : Program σ ρ α) : Prop :=
  ∀ start memory, (code start memory).stores = [] ∧
    ((code start memory).outcome = .slept → asleep (code start memory).memory)

variable {asleep : ρ → Prop}

theorem quiet_pure (value : α) : Quiet asleep (Pure.pure value : Program σ ρ α) :=
  fun _ _ => ⟨rfl, fun ended => nomatch ended⟩

theorem quiet_load : Quiet asleep (load : Program σ ρ σ) :=
  fun _ _ => ⟨rfl, fun ended => nomatch ended⟩

theorem quiet_inspect : Quiet asleep (inspect : Program σ ρ ρ) :=
  fun _ _ => ⟨rfl, fun ended => nomatch ended⟩

theorem quiet_remember (update : ρ → ρ) : Quiet asleep (remember update : Program σ ρ Unit) :=
  fun _ _ => ⟨rfl, fun ended => nomatch ended⟩

theorem quiet_require (value : Option α) : Quiet asleep (require value : Program σ ρ α) := by
  intro start memory
  cases value <;> exact ⟨rfl, fun ended => nomatch ended⟩

/-- Quiet parts make a quiet whole. -/
theorem quiet_bind {code : Program σ ρ α} {rest : α → Program σ ρ β} (first : Quiet asleep code)
    (second : ∀ value, Quiet asleep (rest value)) : Quiet asleep (code >>= rest) := by
  intro start memory
  obtain ⟨silent, dreams⟩ := first start memory
  rcases finished : code start memory with ⟨stores, after, value | _ | _⟩
  · rw [finished] at silent
    obtain ⟨still, sleeps⟩ := second value (stores.getLastD start) after
    rw [bind_returned finished rest rfl]
    refine ⟨?_, sleeps⟩
    rw [Result.prepend, still, List.append_nil]
    exact silent
  · rw [bind_slept finished]
    rw [finished] at silent dreams
    exact ⟨silent, fun _ => dreams rfl⟩
  · rw [bind_aborted finished]
    rw [finished] at silent
    exact ⟨silent, fun ended => nomatch ended⟩

end Program

/-! ### Cycles -/

/-- A machine between two cycles: its store, and the memory that sleep keeps. -/
structure Machine (σ ρ : Type) where
  store : σ
  asleep : Option ρ

/-- What a machine runs: the program, the memory after a cold start, and what waking
up makes of the memory. An input says whether the start is cold in any case, and
after how many durable operations power fails, if it does. -/
structure Firmware (σ ρ ι : Type) where
  main : ι → Program σ ρ Unit
  initial : ρ
  wake : ρ → ρ
  coldStart : ι → Bool
  powerLoss : ι → Option Nat

namespace Firmware

variable {ι : Type} (firmware : Firmware σ ρ ι)

/-- The memory that a cycle wakes up with, if it does. -/
def woken (input : ι) (machine : Machine σ ρ) : Option ρ :=
  if firmware.coldStart input then none else machine.asleep.map firmware.wake

/-- The memory that a cycle starts with. -/
def memoryAt (input : ι) (machine : Machine σ ρ) : ρ :=
  (firmware.woken input machine).getD firmware.initial

/-- What the program does in a cycle, as long as it has power. -/
def result (input : ι) (machine : Machine σ ρ) : Result σ ρ Unit :=
  firmware.main input machine.store (firmware.memoryAt input machine)

/-- One cycle. -/
def cycle (machine : Machine σ ρ) (input : ι) : Machine σ ρ :=
  let result := firmware.result input machine
  match firmware.powerLoss input with
  | some count => ⟨result.storeAfter machine.store count, none⟩
  | none =>
    match result.outcome with
    | .slept => ⟨result.store machine.store, some result.memory⟩
    | _ => ⟨result.store machine.store, none⟩

/-- The machine after a sequence of cycles, from a store that nothing was written to. -/
def after (blank : σ) (history : List ι) : Machine σ ρ :=
  history.foldl firmware.cycle ⟨blank, none⟩

variable (blank : σ)

@[simp] theorem after_nil : firmware.after blank [] = ⟨blank, none⟩ := rfl

@[simp] theorem after_concat (history : List ι) (input : ι) :
    firmware.after blank (history ++ [input]) =
      firmware.cycle (firmware.after blank history) input := by
  simp [after]

/-- What the first machine satisfies and every cycle preserves holds after every history. -/
theorem cycles_induction {invariant : List ι → Machine σ ρ → Prop}
    (first : invariant [] ⟨blank, none⟩)
    (step : ∀ history input, invariant history (firmware.after blank history) →
      invariant (history ++ [input]) (firmware.cycle (firmware.after blank history) input))
    (history : List ι) : invariant history (firmware.after blank history) := by
  induction history using List.reverseRecOn with
  | nil => exact first
  | append_singleton history input inductionHypothesis =>
    rw [after_concat]
    exact step history input inductionHypothesis

/-- A machine that wakes up starts with the memory it wakes with. -/
theorem memoryAt_woken {input : ι} {machine : Machine σ ρ} {memory : ρ}
    (woken : firmware.woken input machine = some memory) :
    firmware.memoryAt input machine = memory := by
  rw [memoryAt, woken]
  rfl

/-- A cycle that loses power ends in a cold machine. -/
theorem cycle_powerLoss {input : ι} {count : Nat} (lost : firmware.powerLoss input = some count)
    (machine : Machine σ ρ) :
    firmware.cycle machine input =
      ⟨(firmware.result input machine).storeAfter machine.store count, none⟩ := by
  rw [cycle, lost]

/-- A cycle that keeps its power ends where the program does. -/
theorem cycle_powered {input : ι} (powered : firmware.powerLoss input = none)
    (machine : Machine σ ρ) :
    firmware.cycle machine input =
      ⟨(firmware.result input machine).store machine.store,
        match (firmware.result input machine).outcome with
        | .slept => some (firmware.result input machine).memory
        | _ => none⟩ := by
  rw [cycle, powered]
  cases (firmware.result input machine).outcome <;> rfl

/-- A machine that sleeps after a cycle kept its power and ran into the program's sleep. -/
theorem cycle_asleep {input : ι} {machine : Machine σ ρ} {memory : ρ}
    (asleep : (firmware.cycle machine input).asleep = some memory) :
    firmware.powerLoss input = none ∧ (firmware.result input machine).outcome = .slept ∧
      (firmware.result input machine).memory = memory ∧
      (firmware.cycle machine input).store = (firmware.result input machine).store machine.store := by
  cases lost : firmware.powerLoss input with
  | some count =>
    rw [cycle_powerLoss firmware lost] at asleep
    cases asleep
  | none =>
    rw [cycle_powered firmware lost] at asleep ⊢
    cases ended : (firmware.result input machine).outcome with
    | slept =>
      rw [ended] at asleep
      exact ⟨rfl, rfl, Option.some.inj asleep, rfl⟩
    | returned value =>
      rw [ended] at asleep
      cases asleep
    | aborted =>
      rw [ended] at asleep
      cases asleep

/-- Wherever a cycle ends, the store it leaves is the one it started from or one that a
durable operation left. -/
theorem cycle_store_mem (input : ι) (machine : Machine σ ρ) :
    (firmware.cycle machine input).store ∈
      machine.store :: (firmware.result input machine).stores := by
  cases lost : firmware.powerLoss input with
  | some count =>
    rw [cycle_powerLoss firmware lost]
    have among : ((firmware.result input machine).stores.take count).getLastD machine.store ∈
        machine.store :: (firmware.result input machine).stores.take count :=
      List.getLastD_mem_cons
    rcases List.mem_cons.mp among with same | member
    · exact List.mem_cons.mpr (.inl same)
    · exact List.mem_cons_of_mem _ (List.mem_of_mem_take member)
  | none =>
    rw [cycle_powered firmware lost]
    exact List.getLastD_mem_cons

/-- A cycle without durable operations leaves the store as it is. -/
theorem cycle_store_quiet {input : ι} {machine : Machine σ ρ}
    (quiet : (firmware.result input machine).stores = []) :
    (firmware.cycle machine input).store = machine.store := by
  have among := firmware.cycle_store_mem input machine
  rw [quiet] at among
  exact List.mem_singleton.mp among

end Firmware

end Microgrid.CrashPrograms
