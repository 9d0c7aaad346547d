import KernelJson.Foundation.Transactions

/-!
# Programs that may stop

A program reads and changes a world step by step and ends with a value or stops
early; the world keeps what was done before the stop.  A transaction is one
step, and a point at which the process is cut is a stop without a change.
-/

namespace KernelJson.Foundation.Programs

open Foundation.Transactions

abbrev Program (Stop World : Type) : Type → Type := ExceptT Stop (StateM World)

variable {Stop World α β : Type}

/-- The world as it stands. -/
def look : Program Stop World World := fun world => (.ok world, world)

/-- One transaction, which stops the program when it faults. -/
def transact (transaction : World → Except Stop (α × World)) : Program Stop World α := fun world =>
  commit transaction world

/-- The process is cut here. -/
def cutAt (stop : Stop) (here : Bool) : Program Stop World Unit := fun world =>
  (if here then .error stop else .ok (), world)

theorem run_bind (program : Program Stop World α) (next : α → Program Stop World β) (world : World) :
    (program >>= next) world = match program world with
      | (.ok value, after) => next value after
      | (.error stop, after) => (.error stop, after) := by
  cases ran : program world with
  | mk result after =>
      show (ExceptT.bind program next) world = _
      unfold ExceptT.bind ExceptT.mk
      show (StateT.bind program (ExceptT.bindCont next)) world = _
      unfold StateT.bind
      rw [ran]
      cases result <;> rfl

@[simp]
theorem run_pure (value : α) (world : World) : (pure value : Program Stop World α) world = (.ok value, world) := rfl

theorem run_transact_ok {transaction : World → Except Stop (α × World)} {world after : World} {answer : α}
    (ran : transaction world = .ok (answer, after)) : transact transaction world = (.ok answer, after) := by
  unfold transact commit
  rw [ran]

theorem run_transact_error {transaction : World → Except Stop (α × World)} {world : World} {stop : Stop}
    (ran : transaction world = .error stop) : transact transaction world = (.error stop, world) := by
  unfold transact commit
  rw [ran]

/-! ## Conditions on the end -/

/-- The program ends in a world that meets one condition, or stops in a world that meets another. -/
def Ends (program : Program Stop World α) (world : World) (value : α → World → Prop)
    (stopped : Stop → World → Prop) : Prop :=
  match program world with
  | (.ok result, after) => value result after
  | (.error stop, after) => stopped stop after

theorem Ends.bind {program : Program Stop World α} {next : α → Program Stop World β} {world : World}
    (between : α → World → Prop) {value : β → World → Prop} {stopped : Stop → World → Prop}
    (first : Ends program world between stopped)
    (rest : ∀ result after, between result after → Ends (next result) after value stopped) :
    Ends (program >>= next) world value stopped := by
  unfold Ends at first ⊢
  rw [run_bind]
  cases ran : program world with
  | mk done after =>
      rw [ran] at first
      cases done with
      | error stop => exact first
      | ok result => exact rest result after first

theorem Ends.pure {world : World} {result : α} {value : α → World → Prop} {stopped : Stop → World → Prop}
    (holds : value result world) : Ends (pure result : Program Stop World α) world value stopped := holds

theorem Ends.look {world : World} {value : World → World → Prop} {stopped : Stop → World → Prop}
    (holds : value world world) : Ends look world value stopped := holds

theorem Ends.transact {transaction : World → Except Stop (α × World)} {world after : World} {answer : α}
    {value : α → World → Prop} {stopped : Stop → World → Prop} (ran : transaction world = .ok (answer, after))
    (holds : value answer after) : Ends (transact transaction) world value stopped := by
  unfold Ends
  rw [run_transact_ok ran]
  exact holds

/-- What holds at a point at which the process may be cut holds after it too. -/
theorem Ends.cutAt {stop : Stop} {here : Bool} {world : World} {value : Unit → World → Prop}
    {stopped : Stop → World → Prop} (cut : here = true → stopped stop world) (holds : here = false → value () world) :
    Ends (cutAt stop here) world value stopped := by
  cases here with
  | true => exact cut rfl
  | false => exact holds rfl

theorem Ends.mono {program : Program Stop World α} {world : World} {value value' : α → World → Prop}
    {stopped stopped' : Stop → World → Prop} (ends : Ends program world value stopped)
    (wider : ∀ result after, value result after → value' result after)
    (looser : ∀ stop after, stopped stop after → stopped' stop after) : Ends program world value' stopped' := by
  unfold Ends at ends ⊢
  cases ran : program world with
  | mk done after =>
      rw [ran] at ends
      cases done with
      | error stop => exact looser stop after ends
      | ok result => exact wider result after ends

/-- What holds of the world however a program ends. -/
theorem Ends.world {program : Program Stop World α} {world : World} {holds : World → Prop}
    (ends : Ends program world (fun _ after => holds after) fun _ after => holds after) : holds (program world).2 := by
  unfold Ends at ends
  cases ran : program world with
  | mk done after =>
      rw [ran] at ends
      cases done with
      | error stop => exact ends
      | ok result => exact ends

end KernelJson.Foundation.Programs
