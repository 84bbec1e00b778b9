import LocaleRegistrar.Proofs.Command.Destinations
import LocaleRegistrar.Proofs.LineEnds

/-! What a file that the command has written holds. Every file has a destination of its own, so what
is written there stays. Main statement: the file holds the registered text of its source, read with
unified line ends, so that no line of it ends in a carriage return. -/

namespace LocaleRegistrar.Command

open LocaleRegistrar.Files
open LocaleRegistrar.Registration

variable {options : RegisterOptions} {env : Environment} {files : Files.Tree} {engine : Engine}

/-- No two files are written to the same place. -/
theorem Works.destinations_apart {jobs : List Job} (h : Works options env files engine jobs)
    (hwf : files.WellFormed) :
    jobs.Pairwise fun job other => job.destination env ≠ other.destination env :=
  h.pairwise_ne hwf fun _ => destination_job_getD

/-- A file that has been written holds what was computed. -/
theorem settle_written {job : Job} {o : Outcome} {after : Files.Tree}
    (h : settle engine false env files job.input job.output = (.ok o, after))
    (hsuccess : o.success = true) (hwritten : o.changed = true ∨ job.output ≠ job.input) :
    assess engine env files job.input = .ok o ∧
      after.get? (job.destination env) = some (.file (Text.encodeUtf8 o.code)) := by
  unfold settle at h
  cases hassess : assess engine env files job.input with
  | error abort =>
    rw [hassess] at h
    cases h
  | ok outcome =>
    rw [hassess] at h
    dsimp only at h
    split at h
    · next hkept =>
      cases h
      obtain ⟨hchanged, hplace⟩ : o.changed = false ∧ job.output = job.input := by
        simpa [hsuccess] using hkept
      simp [hchanged, hplace] at hwritten
    · split at h
      · next last hwrite =>
        cases h
        have hclear := (Tree.writeInto_eq_none_iff (Text.encodeUtf8 o.code)).mp
          (congrArg Prod.snd hwrite)
        have hfile := Tree.get?_writeInto_of_clear hclear (Text.encodeUtf8 o.code)
        rw [hwrite] at hfile
        exact ⟨rfl, hfile⟩
      · cases h
        cases hsuccess

/-- A file that the command writes holds the registered text of its source, as the source was when
its turn came. The text is registered with unified line ends: the result is that of the text itself
if the text has no carriage return, and has none in any case. So a copy is exact if, and only if,
the source has none. -/
theorem register_delivers {jobs before rest : List Job} {job : Job}
    {results : List (String × Outcome)} {middle after : Files.Tree} {o : Outcome}
    (hwf : files.WellFormed) (hcheck : options.check = false)
    (hworks : Works options env files engine jobs) (hjobs : jobs = before ++ job :: rest)
    (hbefore : (registerJobs engine false before).upshot env files = (.ok results, middle))
    (hjob : (registerFile engine false job.input job.output).upshot env middle = (.ok o, after))
    (hsuccess : o.success = true) (hwritten : o.changed = true ∨ job.output ≠ job.input) :
    let available := engine.source.list ⟨middle, env.here, env.searchPath⟩
    ∃ bytes text, middle.read env.here job.input = .ok bytes ∧ Text.decodeUtf8 bytes = .ok text ∧
      ((register options).upshot env files).2.get? (job.destination env) =
        some (.file (Text.encodeUtf8 o.code)) ∧
      engine.request.run available (Text.unifyLineEnds text) = .ok o ∧
      '\r' ∉ o.code.toList ∧
      ('\r' ∉ text.toList → engine.request.run available text = .ok o) ∧
      (o.changed = false → (Text.encodeUtf8 o.code = bytes ↔ '\r' ∉ text.toList)) := by
  intro available
  rw [(registerJobs_ends engine false before).upshot_eq] at hbefore
  rw [(registerFile_ends engine false job.input job.output).upshot_eq] at hjob
  obtain ⟨hassess, hfile⟩ := settle_written hjob hsuccess hwritten
  obtain ⟨e, rfl⟩ | ⟨bytes, text, hread, hdecode, hrun⟩ := assess_cases hassess
  · cases hsuccess
  refine ⟨bytes, text, hread, hdecode, ?_, hrun, ?_, fun hclean => ?_, fun hsame => ?_⟩
  · have hapart := hworks.destinations_apart hwf
    rw [hjobs, List.pairwise_append, List.pairwise_cons] at hapart
    rw [(register_ends hworks).upshot_eq, hcheck, hjobs, Upshot.map,
      settleAll_snd_of_turn engine hbefore, settleAll, hjob]
    refine (settleAll_fills engine after rest).get?_eq hfile ?_
    rintro other ⟨outcome, hother⟩
    exact Ne.symm (hapart.2.1.1 other hother.mem)
  · exact not_mem_run hrun (Text.not_mem_unifyLineEnds text)
  · rwa [Text.unifyLineEnds_eq_self_iff.mpr hclean] at hrun
  · rw [(run_unchanged hrun hsuccess hsame).1, ← Text.unifyLineEnds_eq_self_iff]
    constructor
    · intro hbytes
      have hagain := Text.decodeUtf8_encodeUtf8 (Text.unifyLineEnds text)
      rw [hbytes, hdecode] at hagain
      exact (Except.ok.inj hagain).symm
    · intro htext
      rw [htext, Text.encodeUtf8_of_decodeUtf8 hdecode]

/-- A copy of a file whose line ended in a carriage return and a line feed has the line feed
alone. -/
theorem register_delivers_carriage_return :
    let files := Sample.tree ["b.py"] (Text.encodeUtf8 "x = 1\r\n") []
    let options := Sample.options "de" (some ⟨.here, ["o"]⟩)
    ((register options).upshot Sample.environment files).2.get? ["o", "a.py"] =
        some (.file (Text.encodeUtf8 "x = 1\n")) ∧
      Text.encodeUtf8 "x = 1\n" ≠ Text.encodeUtf8 "x = 1\r\n" := by
  intro files options
  let engine := Sample.engine "de"
  let job : Job := options.job ⟨.here, ["a.py"]⟩
  have hnames : ["b.py"] = ["b.py"] ∨ ["b.py"] = ["build", "a.py"] := .inl rfl
  have hworks : Works options Sample.environment files engine
      [job, options.job ⟨.here, ["b.py"]⟩] := Sample.works hnames _ _ (.inl rfl) _
  have hread : files.read Sample.environment.here job.input =
      .ok (Text.encodeUtf8 "x = 1\r\n") := rfl
  have hassess : assess engine Sample.environment files job.input = .ok { code := "x = 1\n" } :=
    Sample.assess_first hnames _ _ rfl (by decide +kernel)
  have hclear : files.Clear Sample.environment.here job.output :=
    (Tree.writeInto_eq_none_iff []).mp rfl
  have hne : job.output ≠ job.input := by decide
  obtain ⟨after, hsettle, -⟩ := settle_of_clear engine hassess rfl hne hclear
  have hjob := (registerFile_ends engine false job.input job.output).upshot_eq.trans hsettle
  have hbefore : (registerJobs engine false []).upshot Sample.environment files = (.ok [], files) :=
    (registerJobs_ends engine false []).upshot_eq
  obtain ⟨bytes, text, hsource, hdecode, hfile, -, -, -, hexact⟩ := register_delivers
    (Sample.wellFormed hnames _ _) rfl hworks (List.nil_append _).symm hbefore hjob rfl (.inr hne)
  rw [hread] at hsource
  cases hsource
  rw [Text.decodeUtf8_encodeUtf8] at hdecode
  cases hdecode
  exact ⟨hfile, mt (hexact rfl).mp (by decide)⟩

end LocaleRegistrar.Command
