import LocaleRegistrar.Proofs.Command.Upshot

/-! A verbose run beside a quiet one. A verbose run prints notes and is cut off at one that cannot be
printed; otherwise the two do the same. `Tells` says this of a run and its notes, with one
rule for each way in which runs are put together. -/

namespace LocaleRegistrar.Command

open LocaleRegistrar.Console
open LocaleRegistrar.Files
open LocaleRegistrar.Registration

/-! ### Two runs -/

/-- `loud` consists of the items of `quiet` in their order, and of those of the notes. -/
inductive Annotated : List Note → List Item → List Item → Prop
  | nil : Annotated [] [] []
  | item {notes : List Note} {quiet loud : List Item} (item : Item)
      (h : Annotated notes quiet loud) : Annotated notes (item :: quiet) (item :: loud)
  | note {note : Note} {notes : List Note} {items quiet loud : List Item}
      (logged : logged .debug note.message = .ok items) (h : Annotated notes quiet loud) :
      Annotated (note :: notes) quiet (items ++ loud)

theorem Annotated.append {notes notes' : List Note} {quiet quiet' loud loud' : List Item}
    (h : Annotated notes quiet loud) (h' : Annotated notes' quiet' loud') :
    Annotated (notes ++ notes') (quiet ++ quiet') (loud ++ loud') := by
  induction h with
  | nil => exact h'
  | item item _ ih => exact .item item ih
  | note logged _ ih =>
    rw [List.append_assoc]
    exact .note logged ih

theorem Annotated.refl (items : List Item) : Annotated [] items items := by
  induction items with
  | nil => exact .nil
  | cons item items ih => exact .item item ih

theorem firstFault_append (notes notes' : List Note) :
    firstFault (notes ++ notes') = (firstFault notes).or (firstFault notes') :=
  List.findSome?_append

def Environment.quiet (env : Environment) : Environment := { env with verbose := false }

def Environment.loud (env : Environment) : Environment := { env with verbose := true }

/-- The notes of the rest of a run, which is not reached after a fault. -/
def Upshot.notes {α : Type} (e : Upshot α) (rest : α → Files.Tree → List Note) : List Note :=
  match e with
  | (.ok a, after) => rest a after
  | (.error _, _) => []

namespace Run

variable {α β : Type} {env : Environment} {files : Files.Tree}

/-- What the run does from a state on. -/
def exec (r : Run α) (env : Environment) (s : State) : Except Abort α × State :=
  (ReaderT.run r env).run.run s

theorem exec_bind_ok {r : Run α} {f : α → Run β} {s s' : State} {a : α}
    (h : r.exec env s = (.ok a, s')) : (r >>= f).exec env s = (f a).exec env s' := by
  unfold exec at h ⊢
  rw [ReaderT.run_bind, ExceptT.run_bind, StateT.run_bind, h]
  rfl

theorem exec_bind_error {r : Run α} {f : α → Run β} {s s' : State} {abort : Abort}
    (h : r.exec env s = (.error abort, s')) : (r >>= f).exec env s = (.error abort, s') := by
  unfold exec at h ⊢
  rw [ReaderT.run_bind, ExceptT.run_bind, StateT.run_bind, h]
  rfl

theorem exec_bind_fst_error {r : Run α} (f : α → Run β) {s : State} {abort : Abort}
    (h : (r.exec env s).1 = .error abort) : ((r >>= f).exec env s).1 = .error abort := by
  have hr : r.exec env s = (.error abort, (r.exec env s).2) := by rw [← h]
  rw [exec_bind_error hr]

/-- The run has these notes to tell. A quiet run keeps them to itself, and no message cuts it off; a
verbose one tells them and does the same, or is cut off at one that cannot be printed. -/
def Tells (r : Run α) (env : Environment) (files : Files.Tree) (notes : List Note) : Prop :=
  ∀ output output', ∃ x after quiet,
    r.exec env.quiet { files, output } = (x, { files := after, output := output ++ quiet }) ∧
    (∀ fault, x ≠ .error (.unprintable fault)) ∧
    (∀ fault, firstFault notes = some fault →
      (r.exec env.loud { files, output := output' }).1 = .error (.unprintable fault)) ∧
    (firstFault notes = none → ∃ loud, Annotated notes quiet loud ∧
      r.exec env.loud { files, output := output' } =
        (x, { files := after, output := output' ++ loud }))

/-- The run has no notes to tell. -/
def Silent (r : Run α) : Prop := ∀ env files, r.Tells env files []

/-- A run goes on with the rest, unless it is cut off and the rest has no notes to tell. -/
theorem Tells.bind_of {r : Run α} {f : α → Run β} {notes more : List Note}
    (h : r.Tells env files notes)
    (hf : ∀ a after output s, r.exec env.quiet { files, output } = (.ok a, s) → s.files = after →
      (f a).Tells env after more)
    (herror : ∀ abort output s, r.exec env.quiet { files, output } = (.error abort, s) →
      more = []) :
    (r >>= f).Tells env files (notes ++ more) := by
  intro output output'
  obtain ⟨x, after, quiet, hquiet, hx, hill, hwell⟩ := h output output'
  match x with
  | .error abort =>
    obtain rfl := herror abort output _ hquiet
    rw [List.append_nil]
    refine ⟨.error abort, after, quiet, exec_bind_error hquiet, ?_, ?_, ?_⟩
    · exact fun fault heq => hx fault (congrArg _ (Except.error.inj heq))
    · exact fun fault hnotes => exec_bind_fst_error f (hill fault hnotes)
    · intro hnotes
      obtain ⟨loud, hprinted, hloud⟩ := hwell hnotes
      exact ⟨loud, hprinted, exec_bind_error hloud⟩
  | .ok a =>
    have hrest := hf a after output _ hquiet rfl
    cases hnotes : firstFault notes with
    | some fault =>
      obtain ⟨y, last, quiet', hquiet', hy, -, -⟩ := hrest (output ++ quiet) output'
      refine ⟨y, last, quiet ++ quiet', ?_, hy, ?_, ?_⟩
      · rw [exec_bind_ok hquiet, hquiet', List.append_assoc]
      · rw [firstFault_append, hnotes, Option.some_or]
        exact fun other hother => Option.some.inj hother ▸ exec_bind_fst_error f (hill fault hnotes)
      · rw [firstFault_append, hnotes]
        exact nofun
    | none =>
      obtain ⟨loud, hprinted, hloud⟩ := hwell hnotes
      obtain ⟨y, last, quiet', hquiet', hy, hill', hwell'⟩ :=
        hrest (output ++ quiet) (output' ++ loud)
      refine ⟨y, last, quiet ++ quiet', ?_, hy, ?_, ?_⟩
      · rw [exec_bind_ok hquiet, hquiet', List.append_assoc]
      · rw [firstFault_append, hnotes, Option.none_or, exec_bind_ok hloud]
        exact hill'
      · rw [firstFault_append, hnotes, Option.none_or, exec_bind_ok hloud]
        intro hmore
        obtain ⟨loud', hprinted', hloud'⟩ := hwell' hmore
        exact ⟨loud ++ loud', hprinted.append hprinted', by rw [hloud', List.append_assoc]⟩

/-- A run goes on from what its quiet first part comes to. -/
theorem Tells.bind {r : Run α} {f : α → Run β} {notes : List Note} {e : Upshot α}
    (rest : α → Files.Tree → List Note) (h : r.Tells env files notes)
    (hends : r.Ends env.quiet files e)
    (hf : ∀ a after, e = (.ok a, after) → (f a).Tells env after (rest a after)) :
    (r >>= f).Tells env files (notes ++ e.notes rest) := by
  have hcomes (output : List Item) (x : Except Abort α) (s : State)
      (hx : r.exec env.quiet { files, output } = (x, s)) : e = (x, s.files) := by
    obtain ⟨printed, hr⟩ := hends output
    obtain ⟨rfl, rfl⟩ := Prod.mk.inj (hx.symm.trans hr)
    rfl
  refine h.bind_of ?_ ?_
  · rintro a after output s hr rfl
    have he := hcomes output _ s hr
    rw [he]
    exact hf a s.files he
  · intro abort output s hr
    rw [hcomes output _ s hr]
    rfl

theorem Tells.bind_ok {r : Run α} {f : α → Run β} {notes more : List Note} {a : α}
    {after : Files.Tree} (h : r.Tells env files notes)
    (hends : r.Ends env.quiet files (.ok a, after))
    (hf : (f a).Tells env after more) : (r >>= f).Tells env files (notes ++ more) := by
  refine h.bind (fun _ _ => more) hends fun b last heq => ?_
  cases heq
  exact hf

theorem Tells.bind_silent {r : Run α} {f : α → Run β} {notes : List Note}
    (h : r.Tells env files notes) (hf : ∀ a, (f a).Silent) : (r >>= f).Tells env files notes := by
  rw [← List.append_nil notes]
  exact h.bind_of (fun a after _ _ _ _ => hf a env after) fun _ _ _ _ => rfl

theorem Silent.bind {r : Run α} {f : α → Run β} (h : r.Silent) (hf : ∀ a, (f a).Silent) :
    (r >>= f).Silent :=
  fun env files => (h env files).bind_silent hf

end Run

end LocaleRegistrar.Command
