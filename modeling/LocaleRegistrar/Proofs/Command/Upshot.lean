import LocaleRegistrar.Command.Run
import LocaleRegistrar.Proofs.Markup

/-! What a run comes to: the value that it gives, or the fault that cuts it off, and the files that
it leaves. Neither depends on what has been printed before. Escaped texts cannot make a message
ill marked, so that of all messages only a note can cut off a run. -/

namespace LocaleRegistrar.Command

open LocaleRegistrar.Console
open LocaleRegistrar.Registration

/-- The value or the fault, and the files. -/
abbrev Upshot (α : Type) := Except Abort α × Files.Tree

/-- Goes on with the value and the files unless there is a fault. -/
def Upshot.next {α β : Type} (e : Upshot α) (f : α → Files.Tree → Upshot β) : Upshot β :=
  match e with
  | (.ok a, files) => f a files
  | (.error abort, files) => (.error abort, files)

/-- Another value with the same files. -/
def Upshot.map {α β : Type} (f : α → β) (e : Upshot α) : Upshot β :=
  (e.1.map f, e.2)

theorem Upshot.map_next {α β γ : Type} (e : Upshot α) (f : α → Files.Tree → Upshot β) (g : β → γ) :
    (e.next f).map g = e.next fun a files => (f a files).map g := by
  match e with
  | (.ok _, _) | (.error _, _) => rfl

theorem Upshot.map_map {α β γ : Type} (e : Upshot α) (f : α → β) (g : β → γ) :
    (e.map f).map g = e.map (g ∘ f) := by
  match e with
  | (.ok _, _) | (.error _, _) => rfl

theorem Upshot.next_next {α β γ : Type} (e : Upshot α) (f : α → Files.Tree → Upshot β)
    (g : β → Files.Tree → Upshot γ) :
    (e.next f).next g = e.next fun a files => (f a files).next g := by
  match e with
  | (.ok _, _) | (.error _, _) => rfl

theorem Upshot.next_map {α β γ : Type} (e : Upshot α) (f : α → β)
    (g : β → Files.Tree → Upshot γ) :
    (e.map f).next g = e.next fun a files => g (f a) files := by
  match e with
  | (.ok _, _) | (.error _, _) => rfl

namespace Run

variable {α β : Type} {env : Environment} {files : Files.Tree}

/-- What a run comes to. -/
def upshot (r : Run α) (env : Environment) (files : Files.Tree) : Upshot α :=
  ((r.run' env files).1, (r.run' env files).2.files)

/-- The run comes to `e`, whatever has been printed before. -/
def Ends (r : Run α) (env : Environment) (files : Files.Tree) (e : Upshot α) : Prop :=
  ∀ output, ∃ output', (ReaderT.run r env).run.run { files, output } =
    (e.1, { files := e.2, output := output' })

theorem Ends.upshot_eq {r : Run α} {e : Upshot α} (h : r.Ends env files e) :
    r.upshot env files = e := by
  obtain ⟨output, h⟩ := h []
  rw [upshot, run', h]

theorem ends_pure (a : α) : (pure a : Run α).Ends env files (.ok a, files) :=
  fun output => ⟨output, rfl⟩

theorem ends_throw (abort : Abort) : (throw abort : Run α).Ends env files (.error abort, files) :=
  fun output => ⟨output, rfl⟩

theorem Ends.bind_ok {r : Run α} {f : α → Run β} {a : α} {after : Files.Tree} {e : Upshot β}
    (h : r.Ends env files (.ok a, after)) (hf : (f a).Ends env after e) :
    (r >>= f).Ends env files e := by
  intro output
  obtain ⟨middle, hr⟩ := h output
  rw [ReaderT.run_bind, ExceptT.run_bind, StateT.run_bind, hr]
  exact hf middle

theorem Ends.bind_error {r : Run α} {abort : Abort} {after : Files.Tree} (f : α → Run β)
    (h : r.Ends env files (.error abort, after)) :
    (r >>= f).Ends env files (.error abort, after) := by
  intro output
  obtain ⟨middle, hr⟩ := h output
  rw [ReaderT.run_bind, ExceptT.run_bind, StateT.run_bind, hr]
  exact ⟨middle, rfl⟩

/-- A run goes on from what its first part comes to. -/
theorem Ends.bind {r : Run α} {f : α → Run β} {e : Upshot α} {g : α → Files.Tree → Upshot β}
    (h : r.Ends env files e)
    (hf : ∀ a after, e = (.ok a, after) → (f a).Ends env after (g a after)) :
    (r >>= f).Ends env files (e.next g) := by
  match e with
  | (.ok a, after) => exact h.bind_ok (hf a after rfl)
  | (.error abort, after) => exact h.bind_error f

theorem Ends.bind_map {r : Run α} {k : α → Run β} {e : Upshot α} {f : α → β}
    (h : r.Ends env files e) (hk : ∀ a after, (k a).Ends env after (.ok (f a), after)) :
    (r >>= k).Ends env files (e.map f) := by
  match e with
  | (.ok a, after) => exact h.bind_ok (hk a after)
  | (.error abort, after) => exact h.bind_error k

theorem ends_get {f : State → Run α} {e : Upshot α}
    (h : ∀ output, (f { files, output }).Ends env files e) : (get >>= f).Ends env files e :=
  fun output => h output output

theorem ends_read {f : Environment → Run α} {e : Upshot α} (h : (f env).Ends env files e) :
    (read >>= f).Ends env files e :=
  fun output => h output

theorem ends_modify (after : Files.Tree) :
    (modify fun s => { s with files := after } : Run Unit).Ends env files (.ok (), after) :=
  fun output => ⟨output, rfl⟩

end Run

section Printing

variable {env : Environment} {files : Files.Tree}

theorem ends_emit {items : Except MessageFault (List Item)} (h : ∃ printed, items = .ok printed) :
    (emit items).Ends env files (.ok (), files) := by
  obtain ⟨printed, rfl⟩ := h
  exact fun output => ⟨output ++ printed, rfl⟩

theorem ends_log (level : Level) {message : String} (h : Marked message) :
    (log level message).Ends env files (.ok (), files) :=
  ends_emit (logged_of_marked level h)

theorem ends_print {message : String} (h : Marked message) :
    (print message).Ends env files (.ok (), files) :=
  ends_emit (printed_of_marked h)

/-- Why a note cannot be printed. -/
def noteFault (note : Note) : Option MessageFault :=
  match logged .debug note.message with
  | .ok _ => none
  | .error fault => some fault

/-- The fault of the first note that cannot be printed. -/
def firstFault (notes : List Note) : Option MessageFault :=
  notes.findSome? noteFault

/-- What printing notes comes to. -/
def telling (notes : List Note) : Except Abort Unit :=
  match firstFault notes with
  | none => .ok ()
  | some fault => .error (.unprintable fault)

theorem firstFault_cons (note : Note) (notes : List Note) :
    firstFault (note :: notes) = (noteFault note).or (firstFault notes) := by
  rw [firstFault, List.findSome?_cons]
  cases noteFault note <;> rfl

theorem telling_of_fault {notes : List Note} {fault : MessageFault}
    (h : firstFault notes = some fault) : telling notes = .error (.unprintable fault) := by
  rw [telling, h]

theorem ends_log_notes (notes : List Note) :
    (notes.forM fun note => log .debug note.message).Ends env files (telling notes, files) := by
  induction notes with
  | nil => exact Run.ends_pure ()
  | cons note notes ih =>
    have hcons := firstFault_cons note notes
    rw [noteFault] at hcons
    cases hlogged : logged .debug note.message with
    | error fault =>
      rw [hlogged] at hcons
      have hfirst : (log .debug note.message).Ends env files
          (.error (.unprintable fault), files) := by
        rw [log, hlogged]
        exact Run.ends_throw (.unprintable fault)
      rw [telling_of_fault hcons]
      exact hfirst.bind_error _
    | ok items =>
      rw [hlogged] at hcons
      have htelling : telling (note :: notes) = telling notes := by rw [telling, hcons]; rfl
      rw [htelling]
      exact (ends_emit ⟨items, hlogged⟩).bind_ok ih

/-- What the notes of a command come to. They are printed only if it is verbose. -/
def reporting (env : Environment) (notes : List Note) : Except Abort Unit :=
  if env.verbose then telling notes else .ok ()

theorem reporting_eq_ok_iff {notes : List Note} :
    reporting env notes = .ok () ↔ (env.verbose = true → firstFault notes = none) := by
  unfold reporting telling
  cases env.verbose <;> cases firstFault notes <;> simp

/-- A verbose command is cut off at a note that cannot be printed. -/
theorem ends_report (notes : List Note) :
    (report notes).Ends env files (reporting env notes, files) := by
  refine Run.ends_read ?_
  unfold reporting
  cases env.verbose
  · exact Run.ends_pure ()
  · exact ends_log_notes notes

end Printing

end LocaleRegistrar.Command
