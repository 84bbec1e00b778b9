import LocaleRegistrar.Proofs.Command.Sources
import Mathlib.Data.List.TakeWhile

/-! The files of a directory and the same files alone. In place the command works on each file as if
it were alone, up to the first one that cuts it off: a file that is not UTF-8, or one for which the
registration gives no outcome. Files that cannot be read or parsed and locales that cannot be
resolved do not cut it off. -/

namespace LocaleRegistrar.Command

open LocaleRegistrar.Files
open LocaleRegistrar.Registration

section Faults

variable {engine : Engine} {env : Environment} {files : Files.Tree}

end Faults

/-! ### Results of all files -/

section Results

variable {engine : Engine} {env : Environment} {files : Files.Tree}

end Results

/-! ### Each file alone -/

section Alone

variable (engine : Engine) (env : Environment) (files : Files.Tree) (options : RegisterOptions)

/-- What the command comes to for one of the files alone. -/
def alone (path : Files.Path) : Upshot Nat :=
  (registerSingle engine { options with input := options.input.join path }).upshot env files

variable {env files options}

theorem alone_eq (hout : options.output = none) (hcheck : options.check = false)
    (path : Files.Path) :
    alone engine env files options path =
      ((settle engine false env files (options.input.join path) (options.input.join path)).map
        fun outcome => exitCode false [((options.input.join path).name, outcome)]) := by
  rw [alone, (registerSingle_ends engine _).upshot_eq, settleAll_singleton, Upshot.map_map]
  simp only [RegisterOptions.single, hout, hcheck, Option.getD_none]
  rfl

end Alone

end LocaleRegistrar.Command
