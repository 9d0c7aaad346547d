import Mathlib.Logic.Function.Basic
import Mathlib.Logic.Relation

/-!
# Programs over a shared world, with durable execution

A program is a tree of operations and continuations.  Any number of runs
interleave over one world; a durable run journals the answer of every
operation, so that after a crash it is executed again from its root and reads
the journaled answers back.  An effect may also take place without its answer
reaching the journal, in which case the operation is executed once more.

The second half is a rely-guarantee weakest precondition.  Its soundness
theorem carries a world invariant and every run's remaining obligation through
arbitrary interleavings, crashes and re-executions.
-/

namespace KernelJson.Foundation.DurablePrograms

/-! ## Programs -/

inductive Prog (Op : Type) (Ans : Op → Type) (α : Type) where
  | ret (value : α)
  | call (op : Op) (next : Ans op → Prog Op Ans α)

namespace Prog

variable {Op : Type} {Ans : Op → Type} {α β : Type}

def bind : Prog Op Ans α → (α → Prog Op Ans β) → Prog Op Ans β
  | ret value, next => next value
  | call op rest, next => call op fun answer => bind (rest answer) next

instance : Monad (Prog Op Ans) where
  pure := ret
  bind := bind

/-- One operation, returning its answer. -/
def perform (op : Op) : Prog Op Ans (Ans op) :=
  call op ret

@[simp]
theorem pure_eq (value : α) : (pure value : Prog Op Ans α) = ret value := rfl

@[simp]
theorem ret_bind (value : α) (next : α → Prog Op Ans β) : (ret value >>= next) = next value := rfl

@[simp]
theorem call_bind (op : Op) (rest : Ans op → Prog Op Ans α) (next : α → Prog Op Ans β) :
    (call op rest >>= next) = call op fun answer => rest answer >>= next := rfl

@[simp]
theorem perform_bind (op : Op) (next : Ans op → Prog Op Ans β) :
    (perform op >>= next) = call op next := rfl

end Prog

/-! ## Journals -/

section Journals

variable {Op : Type} {Ans : Op → Type} {α : Type}

/-- One journaled operation with the answer it was given. -/
abbrev Entry (Op : Type) (Ans : Op → Type) : Type := Sigma Ans

/-- `Replays program journal rest`: feeding the journaled answers to `program` leaves `rest`. -/
inductive Replays : Prog Op Ans α → List (Entry Op Ans) → Prog Op Ans α → Prop
  | done (program : Prog Op Ans α) : Replays program [] program
  | read {op : Op} {next : Ans op → Prog Op Ans α} {answer : Ans op}
      {journal : List (Entry Op Ans)} {rest : Prog Op Ans α}
      (tail : Replays (next answer) journal rest) :
      Replays (.call op next) (⟨op, answer⟩ :: journal) rest

theorem Replays.append {program middle rest : Prog Op Ans α} {first second : List (Entry Op Ans)}
    (left : Replays program first middle) (right : Replays middle second rest) :
    Replays program (first ++ second) rest := by
  induction left with
  | done program => exact right
  | read tail ih => exact .read (ih right)

/-- A journal determines where its program stands: re-execution cannot diverge. -/
theorem Replays.deterministic {program first second : Prog Op Ans α} {journal : List (Entry Op Ans)}
    (left : Replays program journal first) (right : Replays program journal second) :
    first = second := by
  induction left with
  | done program =>
      cases right with
      | done => rfl
  | read tail ih =>
      cases right with
      | read other => exact ih other

theorem Replays.ret_inv {value : α} {journal : List (Entry Op Ans)} {rest : Prog Op Ans α}
    (replays : Replays (.ret value) journal rest) : journal = [] ∧ rest = .ret value := by
  cases replays with
  | done => exact ⟨rfl, rfl⟩

/-- A run of an operation has not begun, or has journaled the answer. -/
theorem Replays.call_cases {op : Op} {next : Ans op → Prog Op Ans α} {journal : List (Entry Op Ans)}
    {rest : Prog Op Ans α} (replays : Replays (.call op next) journal rest) :
    (journal = [] ∧ rest = .call op next) ∨
      ∃ answer tail, journal = ⟨op, answer⟩ :: tail ∧ Replays (next answer) tail rest := by
  cases replays with
  | done => exact Or.inl ⟨rfl, rfl⟩
  | read tail => exact Or.inr ⟨_, _, rfl, tail⟩

/-- A run of a program.  `done` was executed or read back since the last crash, `ahead` is
the part of the journal still to be read back, and `resume` is where execution continues. -/
structure Run (Op : Type) (Ans : Op → Type) (α : Type) where
  root : Prog Op Ans α
  done : List (Entry Op Ans)
  rest : Prog Op Ans α
  ahead : List (Entry Op Ans)
  resume : Prog Op Ans α
  follows : Replays root done rest
  continues : Replays rest ahead resume

namespace Run

def fresh (program : Prog Op Ans α) : Run Op Ans α :=
  ⟨program, [], program, [], program, .done _, .done _⟩

/-- The process dies; the next execution starts at the root with the whole journal ahead. -/
def crash (run : Run Op Ans α) : Run Op Ans α :=
  ⟨run.root, [], run.root, run.done ++ run.ahead, run.resume, .done _, run.follows.append run.continues⟩

/-- The operation at the end of the journal was executed and its answer journaled. -/
def extend (run : Run Op Ans α) {op : Op} {next : Ans op → Prog Op Ans α} (answer : Ans op)
    (live : run.ahead = []) (waiting : run.resume = .call op next) : Run Op Ans α where
  root := run.root
  done := run.done ++ [⟨op, answer⟩]
  rest := next answer
  ahead := []
  resume := next answer
  follows := by
    have here := run.continues
    rw [live, waiting] at here
    have rest : run.rest = .call op next := here.deterministic (.done _) ▸ rfl
    exact run.follows.append (rest ▸ .read (.done _))
  continues := .done _

@[simp]
theorem crash_resume (run : Run Op Ans α) : run.crash.resume = run.resume := rfl

@[simp]
theorem fresh_resume (program : Prog Op Ans α) : (fresh program).resume = program := rfl

@[simp]
theorem extend_resume (run : Run Op Ans α) {op : Op} {next : Ans op → Prog Op Ans α} (answer : Ans op)
    (live : run.ahead = []) (waiting : run.resume = .call op next) :
    (run.extend answer live waiting).resume = next answer := rfl

end Run

end Journals

/-! ## Interleaved execution -/

/-- What the operations of a program do to the shared world, who may start which program,
what the surroundings may do meanwhile, and what the death of an actor leaves behind. -/
structure Machine (World Op : Type) (Ans : Op → Type) (α : Type) where
  exec : Nat → (op : Op) → World → Ans op → World → Prop
  starts : Nat → World → Prog Op Ans α → Prop
  environment : World → World → Prop
  halts : Nat → World → World → Prop
  durable : Bool

structure Config (World Op : Type) (Ans : Op → Type) (α : Type) where
  world : World
  runs : Nat → Option (Run Op Ans α)

namespace Config

variable {World Op : Type} {Ans : Op → Type} {α : Type}

def initial (world : World) : Config World Op Ans α :=
  ⟨world, fun _ => none⟩

def withRun (config : Config World Op Ans α) (actor : Nat) (run : Option (Run Op Ans α)) :
    Config World Op Ans α :=
  { config with runs := Function.update config.runs actor run }

def withWorld (config : Config World Op Ans α) (world : World) : Config World Op Ans α :=
  { config with world := world }

end Config

section Execution

variable {World Op : Type} {Ans : Op → Type} {α : Type}

inductive Step (machine : Machine World Op Ans α) :
    Config World Op Ans α → Config World Op Ans α → Prop
  | start {config : Config World Op Ans α} {actor : Nat} {program : Prog Op Ans α}
      (idle : config.runs actor = none) (allowed : machine.starts actor config.world program) :
      Step machine config (config.withRun actor (some (Run.fresh program)))
  | commit {config : Config World Op Ans α} {actor : Nat} {run : Run Op Ans α} {op : Op}
      {next : Ans op → Prog Op Ans α} {answer : Ans op} {after : World}
      (found : config.runs actor = some run) (live : run.ahead = [])
      (waiting : run.resume = .call op next) (effect : machine.exec actor op config.world answer after) :
      Step machine config ((config.withRun actor (some (run.extend answer live waiting))).withWorld after)
  /-- The effect took place, but its answer never reached the journal. -/
  | lose {config : Config World Op Ans α} {actor : Nat} {run : Run Op Ans α} {op : Op}
      {next : Ans op → Prog Op Ans α} {answer : Ans op} {after : World}
      (durable : machine.durable = true) (found : config.runs actor = some run) (live : run.ahead = [])
      (waiting : run.resume = .call op next) (effect : machine.exec actor op config.world answer after) :
      Step machine config (config.withWorld after)
  | crash {config : Config World Op Ans α} {actor : Nat} {run : Run Op Ans α}
      (durable : machine.durable = true) (found : config.runs actor = some run) :
      Step machine config (config.withRun actor (some run.crash))
  /-- The re-executed program reads one journaled answer back. -/
  | replay {config : Config World Op Ans α} {actor : Nat} {run later : Run Op Ans α}
      {entry : Entry Op Ans} (found : config.runs actor = some run)
      (root : later.root = run.root) (resume : later.resume = run.resume)
      (read : run.ahead = entry :: later.ahead) (done : later.done = run.done ++ [entry]) :
      Step machine config (config.withRun actor (some later))
  | kill {config : Config World Op Ans α} {actor : Nat} {run : Run Op Ans α} {after : World}
      (found : config.runs actor = some run) (halted : machine.halts actor config.world after) :
      Step machine config ((config.withRun actor none).withWorld after)
  | environment {config : Config World Op Ans α} {after : World}
      (moved : machine.environment config.world after) :
      Step machine config (config.withWorld after)

/-- Reachability by any number of interleaved steps. -/
abbrev Steps (machine : Machine World Op Ans α) :
    Config World Op Ans α → Config World Op Ans α → Prop :=
  Relation.ReflTransGen (Step machine)

/-- Running a program alone, each operation answered by a handler. -/
def Prog.interp (handle : (op : Op) → World → Ans op × World) : Prog Op Ans α → World → α × World
  | .ret value, world => (value, world)
  | .call op next, world => interp handle (next (handle op world).1) (handle op world).2

/-- The journal that running a program alone leaves. -/
def Prog.journal (handle : (op : Op) → World → Ans op × World) :
    Prog Op Ans α → World → List (Entry Op Ans)
  | .ret _, _ => []
  | .call op next, world =>
      ⟨op, (handle op world).1⟩ :: journal handle (next (handle op world).1) (handle op world).2

/-- A run that nobody disturbs goes through exactly as its handler computes it. -/
theorem Steps.solo {machine : Machine World Op Ans α} {actor : Nat}
    {handle : (op : Op) → World → Ans op × World}
    (handled : ∀ op world, machine.exec actor op world (handle op world).1 (handle op world).2)
    (config : Config World Op Ans α) (run : Run Op Ans α) {program : Prog Op Ans α}
    (found : config.runs actor = some run) (live : run.ahead = []) (waiting : run.resume = program) :
    ∃ final : Run Op Ans α, final.resume = .ret (program.interp handle config.world).1 ∧
      Steps machine config
        ((config.withRun actor (some final)).withWorld (program.interp handle config.world).2) := by
  induction program generalizing config run with
  | ret value =>
      refine ⟨run, waiting, ?_⟩
      have same : (config.withRun actor (some run)).withWorld config.world = config := by
        simp [Config.withRun, Config.withWorld, ← found]
      simpa only [Prog.interp, same] using Relation.ReflTransGen.refl
  | call op next ih =>
      let extended := run.extend (handle op config.world).1 live waiting
      let moved := (config.withRun actor (some extended)).withWorld (handle op config.world).2
      have first : Step machine config moved := .commit found live waiting (handled op config.world)
      obtain ⟨final, returned, rest⟩ := ih (handle op config.world).1 moved extended
        (by simp [moved, extended, Config.withRun, Config.withWorld]) rfl rfl
      refine ⟨final, returned, Relation.ReflTransGen.head first ?_⟩
      simpa [moved, Prog.interp, Config.withRun, Config.withWorld] using rest

/-- An idle actor may start a program and take it to its end before anyone else moves. -/
theorem Steps.alone {machine : Machine World Op Ans α} (actor : Nat)
    {handle : (op : Op) → World → Ans op × World}
    (handled : ∀ op world, machine.exec actor op world (handle op world).1 (handle op world).2)
    (config : Config World Op Ans α) (program : Prog Op Ans α) (idle : config.runs actor = none)
    (allowed : machine.starts actor config.world program) :
    ∃ later, Steps machine config later ∧ later.world = (program.interp handle config.world).2 ∧
      (∀ other, other ≠ actor → later.runs other = config.runs other) ∧
      ∃ run, later.runs actor = some run ∧ run.resume = .ret (program.interp handle config.world).1 := by
  have first : Step machine config (config.withRun actor (some (Run.fresh program))) := .start idle allowed
  obtain ⟨final, returned, rest⟩ :=
    Steps.solo handled (config.withRun actor (some (Run.fresh program))) (Run.fresh program)
      (by simp [Config.withRun]) rfl rfl
  refine ⟨_, Relation.ReflTransGen.head first rest, rfl, fun other different => ?_, final, ?_, returned⟩
  · simp [Config.withRun, Config.withWorld, Function.update_of_ne different]
  · simp [Config.withRun, Config.withWorld]

/-- One operation of `actor`, answered by a handler, if the actor waits for one. -/
def Config.advance (handle : (op : Op) → World → Ans op × World) (actor : Nat)
    (config : Config World Op Ans α) : Config World Op Ans α :=
  match config.runs actor with
  | none => config
  | some run =>
      match live : run.ahead with
      | _ :: _ => config
      | [] =>
          match waiting : run.resume with
          | .ret _ => config
          | .call op _ =>
              (config.withRun actor (some (run.extend (handle op config.world).1 live waiting))).withWorld
                (handle op config.world).2

theorem Steps.advance {machine : Machine World Op Ans α} {actor : Nat}
    {handle : (op : Op) → World → Ans op × World}
    (handled : ∀ op world, machine.exec actor op world (handle op world).1 (handle op world).2)
    (config : Config World Op Ans α) : Steps machine config (config.advance handle actor) := by
  unfold Config.advance
  split
  · exact .refl
  · next run found =>
      split
      · exact .refl
      · next live =>
          split
          · exact .refl
          · next op next waiting => exact .single (.commit found live waiting (handled op config.world))

/-- Operations of several actors in the given order, each with its handler. -/
def Config.script (schedule : List (Nat × ((op : Op) → World → Ans op × World)))
    (config : Config World Op Ans α) : Config World Op Ans α :=
  schedule.foldl (fun current entry => current.advance entry.2 entry.1) config

theorem Steps.script {machine : Machine World Op Ans α}
    {schedule : List (Nat × ((op : Op) → World → Ans op × World))}
    (handled : ∀ entry ∈ schedule, ∀ op world,
      machine.exec entry.1 op world (entry.2 op world).1 (entry.2 op world).2)
    (config : Config World Op Ans α) : Steps machine config (config.script schedule) := by
  induction schedule generalizing config with
  | nil => exact .refl
  | cons entry rest ih =>
      have first := Steps.advance (handled entry List.mem_cons_self) config
      exact first.trans (ih (fun other member => handled other (List.mem_cons_of_mem _ member)) _)

/-- The same machine, without the operations whose answers are not allowed. -/
def Machine.restrict (machine : Machine World Op Ans α)
    (allowed : Nat → (op : Op) → World → Ans op → Prop) : Machine World Op Ans α :=
  { machine with
    exec := fun actor op before answer after =>
      machine.exec actor op before answer after ∧ allowed actor op before answer }

end Execution

/-! ## Rely-guarantee weakest preconditions -/

/-- A world invariant, the monotone history every step respects, and what each actor may
rely on while the others move. -/
structure Discipline (World : Type) where
  valid : World → Prop
  grows : World → World → Prop
  rely : Nat → World → World → Prop
  grows_refl : ∀ world, grows world world
  grows_trans : ∀ {first second third}, grows first second → grows second third → grows first third
  rely_refl : ∀ actor world, rely actor world world
  rely_trans : ∀ {actor first second third},
    rely actor first second → rely actor second third → rely actor first third

namespace Discipline

/-- A discipline in which every actor relies on the shared history only. -/
def shared {World : Type} (valid : World → Prop) (grows : World → World → Prop)
    (grows_refl : ∀ world, grows world world)
    (grows_trans : ∀ {first second third}, grows first second → grows second third → grows first third) :
    Discipline World where
  valid := valid
  grows := grows
  rely := fun _ => grows
  grows_refl := grows_refl
  grows_trans := grows_trans
  rely_refl := fun _ => grows_refl
  rely_trans := grows_trans

/-- What a step of `actor` owes: an operation of a durable run can be executed again, so its
own assumptions must survive the step as well. -/
structure Guarantee {World : Type} (discipline : Discipline World) (durable : Bool) (actor : Nat)
    (before after : World) : Prop where
  valid : discipline.valid after
  grows : discipline.grows before after
  others : ∀ other, durable = true ∨ other ≠ actor → discipline.rely other before after

theorem Guarantee.refl {World : Type} {discipline : Discipline World} {durable : Bool} {actor : Nat}
    {world : World} (valid : discipline.valid world) :
    discipline.Guarantee durable actor world world :=
  ⟨valid, discipline.grows_refl world, fun other _ => discipline.rely_refl other world⟩

end Discipline

section Logic

variable {World Op : Type} {Ans : Op → Type} {α β : Type}
variable (machine : Machine World Op Ans α) (discipline : Discipline World)

/-- The obligation of `actor` to run `program` to the postcondition from `world` onwards. -/
def wp (exec : Nat → (op : Op) → World → Ans op → World → Prop) (durable : Bool)
    (discipline : Discipline World) (actor : Nat) :
    Prog Op Ans β → (β → World → Prop) → World → Prop
  | .ret value, post, world =>
      ∀ current, discipline.rely actor world current → discipline.valid current → post value current
  | .call op next, post, world =>
      ∀ before, discipline.rely actor world before → discipline.valid before →
        ∀ answer after, exec actor op before answer after →
          discipline.Guarantee durable actor before after ∧
            wp exec durable discipline actor (next answer) post after

section Rules

variable {exec : Nat → (op : Op) → World → Ans op → World → Prop} {durable : Bool}
  {discipline : Discipline World} {actor : Nat}

/-- An obligation survives whatever the actor relies on. -/
theorem wp_stable {program : Prog Op Ans β} {post : β → World → Prop} {world later : World}
    (obligation : wp exec durable discipline actor program post world)
    (moved : discipline.rely actor world later) :
    wp exec durable discipline actor program post later := by
  cases program with
  | ret value =>
      exact fun current reached valid => obligation current (discipline.rely_trans moved reached) valid
  | call op next =>
      exact fun before reached valid => obligation before (discipline.rely_trans moved reached) valid

theorem wp_of_forall {program : Prog Op Ans β} {post : β → World → Prop} {world : World}
    (everywhere : ∀ current, discipline.rely actor world current → discipline.valid current →
      wp exec durable discipline actor program post current) :
    wp exec durable discipline actor program post world := by
  cases program with
  | ret value =>
      exact fun current reached valid =>
        everywhere current reached valid current (discipline.rely_refl actor current) valid
  | call op next =>
      exact fun before reached valid =>
        everywhere before reached valid before (discipline.rely_refl actor before) valid

theorem wp_mono {program : Prog Op Ans β} {post other : β → World → Prop} {world : World}
    (weaker : ∀ value current, discipline.valid current → post value current → other value current)
    (obligation : wp exec durable discipline actor program post world) :
    wp exec durable discipline actor program other world := by
  induction program generalizing world with
  | ret value => exact fun current reached valid => weaker value current valid (obligation current reached valid)
  | call op next ih =>
      intro before reached valid answer after effect
      obtain ⟨guarantee, rest⟩ := obligation before reached valid answer after effect
      exact ⟨guarantee, ih answer rest⟩

theorem wp_bind {γ : Type} {program : Prog Op Ans γ} {next : γ → Prog Op Ans β}
    {post : β → World → Prop} {world : World}
    (obligation : wp exec durable discipline actor program
      (fun value current => wp exec durable discipline actor (next value) post current) world) :
    wp exec durable discipline actor (program >>= next) post world := by
  induction program generalizing world with
  | ret value => exact wp_of_forall obligation
  | call op rest ih =>
      intro before reached valid answer after effect
      obtain ⟨guarantee, tail⟩ := obligation before reached valid answer after effect
      exact ⟨guarantee, ih answer tail⟩

end Rules

/-! ## Soundness -/

/-- Every program that may start meets its obligation, and neither the surroundings nor the
death of an actor breaks the discipline. -/
structure Certified (post : α → World → Prop) : Prop where
  started : ∀ {actor world program}, machine.starts actor world program → discipline.valid world →
    wp machine.exec machine.durable discipline actor program post world
  environment : ∀ {before after}, machine.environment before after → discipline.valid before →
    discipline.valid after ∧ discipline.grows before after ∧
      ∀ actor, discipline.rely actor before after
  halted : ∀ {actor before after}, machine.halts actor before after → discipline.valid before →
    discipline.valid after ∧ discipline.grows before after ∧
      ∀ other, other ≠ actor → discipline.rely other before after

/-- The world is valid and every run still meets its obligation. -/
structure Sound (post : α → World → Prop) (config : Config World Op Ans α) : Prop where
  valid : discipline.valid config.world
  obligations : ∀ actor run, config.runs actor = some run →
    wp machine.exec machine.durable discipline actor run.resume post config.world

variable {machine discipline} {post : α → World → Prop}

theorem Sound.initial {world : World} (valid : discipline.valid world) :
    Sound machine discipline post (Config.initial world) where
  valid := valid
  obligations := fun _ _ found => by cases found

/-- Replacing one run and moving the world keeps soundness when the new run meets its
obligation and the others may rely on the move. -/
theorem Sound.update {config : Config World Op Ans α} {actor : Nat} {run : Option (Run Op Ans α)}
    {after : World} (sound : Sound machine discipline post config) (valid : discipline.valid after)
    (others : ∀ other, other ≠ actor → discipline.rely other config.world after)
    (own : ∀ next, run = some next →
      wp machine.exec machine.durable discipline actor next.resume post after) :
    Sound machine discipline post ((config.withRun actor run).withWorld after) where
  valid := valid
  obligations := by
    intro other next found
    by_cases same : other = actor
    · subst same
      exact own next (by simpa [Config.withRun, Config.withWorld] using found)
    · have kept : config.runs other = some next := by
        simpa [Config.withRun, Config.withWorld, Function.update_of_ne same] using found
      exact wp_stable (sound.obligations other next kept) (others other same)

theorem Certified.step (certified : Certified machine discipline post)
    {config later : Config World Op Ans α} (sound : Sound machine discipline post config)
    (moved : Step machine config later) :
    Sound machine discipline post later ∧ discipline.grows config.world later.world := by
  have still : ∀ other actor : Nat, other ≠ actor → discipline.rely other config.world config.world :=
    fun other _ _ => discipline.rely_refl other config.world
  cases moved with
  | @start actor program idle allowed =>
      refine ⟨sound.update sound.valid (still · actor) ?_, discipline.grows_refl _⟩
      intro next found
      cases found
      exact certified.started allowed sound.valid
  | @commit actor run op next answer after found live waiting effect =>
      have obligation := sound.obligations actor run found
      rw [waiting] at obligation
      obtain ⟨guarantee, rest⟩ :=
        obligation config.world (discipline.rely_refl _ _) sound.valid answer after effect
      refine ⟨sound.update guarantee.valid (fun other other_ne => guarantee.others other (Or.inr other_ne)) ?_,
        guarantee.grows⟩
      intro later same
      cases same
      exact rest
  | @lose actor run op next answer after durable found live waiting effect =>
      have obligation := sound.obligations actor run found
      rw [waiting] at obligation
      obtain ⟨guarantee, -⟩ :=
        obligation config.world (discipline.rely_refl _ _) sound.valid answer after effect
      refine ⟨⟨guarantee.valid, fun other next kept => ?_⟩, guarantee.grows⟩
      exact wp_stable (sound.obligations other next kept) (guarantee.others other (Or.inl durable))
  | @crash actor run durable found =>
      refine ⟨sound.update sound.valid (still · actor) ?_, discipline.grows_refl _⟩
      intro next same
      cases same
      exact sound.obligations actor run found
  | @replay actor run next entry found root resume read done =>
      refine ⟨sound.update sound.valid (still · actor) ?_, discipline.grows_refl _⟩
      intro later same
      cases same
      exact resume ▸ sound.obligations actor run found
  | @kill actor run after found halted =>
      obtain ⟨valid, grows, others⟩ := certified.halted halted sound.valid
      exact ⟨sound.update valid others (fun _ impossible => by cases impossible), grows⟩
  | @environment after moved =>
      obtain ⟨valid, grows, relied⟩ := certified.environment moved sound.valid
      exact ⟨⟨valid, fun actor run found => wp_stable (sound.obligations actor run found) (relied actor)⟩, grows⟩

/-- A certified machine stays sound along every interleaving, and its worlds only grow. -/
theorem Certified.steps (certified : Certified machine discipline post)
    {config later : Config World Op Ans α} (sound : Sound machine discipline post config)
    (moved : Steps machine config later) :
    Sound machine discipline post later ∧ discipline.grows config.world later.world := by
  induction moved with
  | refl => exact ⟨sound, discipline.grows_refl _⟩
  | tail _ last ih =>
      obtain ⟨middle, grown⟩ := ih
      obtain ⟨final, more⟩ := certified.step middle last
      exact ⟨final, discipline.grows_trans grown more⟩

end Logic

end KernelJson.Foundation.DurablePrograms
