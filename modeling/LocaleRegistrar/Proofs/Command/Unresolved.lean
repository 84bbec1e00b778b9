import LocaleRegistrar.Proofs.Command.Sources
import LocaleRegistrar.Proofs.Completion

/-! A locale that cannot be resolved. The available locales are listed anew for every file, but in
place no file is written that would change the list. Main statement: if the locale is unknown for
one of the files, then it is for all of them, and nothing is written. -/

namespace LocaleRegistrar

namespace Registration

variable {r : Request} {available : List String} {code : String} {o : Outcome}

/-- A locale that cannot be resolved changes no text. -/
theorem run_unresolved {unknown : Locale.Unknown} (h : r.resolve available = .error unknown)
    (hrun : r.run available code = .ok o) : o.changed = false := by
  cases hchanged : o.changed with
  | false => rfl
  | true =>
    obtain ⟨m, edits, resolution, ss, -, hp, -⟩ := run_changed hrun hchanged
    have hresolved := hp.resolved
    rw [h] at hresolved
    cases hresolved

end Registration

namespace Command

open LocaleRegistrar.Files
open LocaleRegistrar.Registration

variable {engine : Engine} {env : Environment} {files : Files.Tree}

/-- The request cannot be met from the locales that are available among these files. -/
def Unresolved (engine : Engine) (env : Environment) (files : Files.Tree) : Prop :=
  ∃ unknown, engine.request.resolve
    (engine.source.list ⟨files, env.here, env.searchPath⟩) = .error unknown

theorem Unresolved.assess (h : Unresolved engine env files) {input : Files.Path} {o : Outcome}
    (hassess : assess engine env files input = .ok o) : o.changed = false := by
  obtain ⟨e, rfl⟩ | ⟨bytes, text, -, -, hrun⟩ := assess_cases hassess
  · rfl
  · obtain ⟨unknown, hunknown⟩ := h
    exact run_unresolved hunknown hrun

end Command

end LocaleRegistrar
