import LocaleRegistrar.Proofs.Command.InPlace
import LocaleRegistrar.Proofs.Utf8

/-! The files that the command works on: every file `*.py` below a directory once, each at its own
place. -/

namespace LocaleRegistrar

namespace Files.Tree

/-- What an entry adds to the locations below a directory. -/
theorem below_entry_eq_some_iff {l place names : Location} :
    (if l.isPrefixOf place && place ≠ l then some (place.drop l.length) else none) = some names ↔
      names ≠ [] ∧ place = l ++ names := by
  constructor
  · intro h
    split at h
    · next hbelow =>
      obtain ⟨hstart, hne⟩ : l.isPrefixOf place = true ∧ place ≠ l := by simpa using hbelow
      obtain ⟨rest, rfl⟩ := List.isPrefixOf_iff_prefix.mp hstart
      rw [List.drop_left] at h
      obtain rfl := Option.some.inj h
      exact ⟨by simpa using hne, rfl⟩
    · cases h
  · rintro ⟨hne, rfl⟩
    have hstart : l.isPrefixOf (l ++ names) = true :=
      List.isPrefixOf_iff_prefix.mpr (List.prefix_append l names)
    simp [hstart, hne]

theorem mem_below_iff {t : Tree} {l names : Location} :
    names ∈ t.below l ↔ names ≠ [] ∧ ∃ e, (l ++ names, e) ∈ t.entries := by
  unfold below
  rw [List.mem_filterMap]
  constructor
  · rintro ⟨⟨place, e⟩, hmem, h⟩
    obtain ⟨hne, rfl⟩ := below_entry_eq_some_iff.mp h
    exact ⟨hne, e, hmem⟩
  · rintro ⟨hne, e, hmem⟩
    exact ⟨(l ++ names, e), hmem, below_entry_eq_some_iff.mpr ⟨hne, rfl⟩⟩

theorem WellFormed.nodup_below {t : Tree} (h : t.WellFormed) (l : Location) :
    (t.below l).Nodup := by
  have hkeys : t.entries.Pairwise fun entry other => entry.1 ≠ other.1 :=
    List.pairwise_map.mp h.distinct
  refine List.pairwise_filterMap.mpr (hkeys.imp fun hne names hnames other hother heq => hne ?_)
  obtain ⟨-, hplace⟩ := below_entry_eq_some_iff.mp hnames
  obtain ⟨-, hplace'⟩ := below_entry_eq_some_iff.mp hother
  rw [hplace, hplace', heq]

end Files.Tree

namespace Command

open LocaleRegistrar.Files
open LocaleRegistrar.Registration

theorem matchesPattern_source (name : String) :
    Tree.matchesPattern "*.py".toList name.toList = ".py".toList.isSuffixOf name.toList :=
  Tree.matchesPattern_star (by decide +kernel) name.toList

theorem mem_sourcePaths_iff {files : Files.Tree} {dir : Location} {path : Files.Path} :
    path ∈ sourcePaths files dir ↔ path.root = .here ∧ path.names ≠ [] ∧
      (∃ e, (dir ++ path.names, e) ∈ files.entries) ∧
      ".py".toList.isSuffixOf path.name.toList = true := by
  unfold sourcePaths
  simp only [List.mem_map, List.mem_mergeSort, List.mem_filter, Tree.mem_below_iff,
    matchesPattern_source]
  constructor
  · rintro ⟨names, ⟨⟨hne, hentry⟩, hsource⟩, rfl⟩
    exact ⟨rfl, hne, hentry, hsource⟩
  · rintro ⟨hroot, hne, hentry, hsource⟩
    refine ⟨path.names, ⟨⟨hne, hentry⟩, hsource⟩, ?_⟩
    rw [← hroot]

/-- A path below a directory. -/
structure Below (path : Files.Path) : Prop where
  root : path.root = .here
  named : path.names ≠ []
  plain : ".." ∉ path.names

theorem below_of_mem_sourcePaths {files : Files.Tree} (h : files.WellFormed) {dir : Location}
    {path : Files.Path} (hpath : path ∈ sourcePaths files dir) : Below path := by
  obtain ⟨hroot, hne, ⟨e, hentry⟩, -⟩ := mem_sourcePaths_iff.mp hpath
  have hnamed := h.named _ hentry
  exact ⟨hroot, hne, fun hmem => hnamed (List.mem_append_right dir hmem)⟩

theorem Below.resolve_join {path : Files.Path} (h : Below path) (here : Location) (p : Files.Path) :
    (p.join path).resolve here = p.resolve here ++ path.names := by
  obtain ⟨root, names⟩ := path
  obtain rfl : root = .here := h.root
  exact Path.resolve_join here p h.plain

theorem Below.eq_of_names {path other : Files.Path} (h : Below path) (h' : Below other)
    (hnames : path.names = other.names) : path = other := by
  obtain ⟨root, names⟩ := path
  obtain ⟨root', names'⟩ := other
  obtain rfl : root = .here := h.root
  obtain rfl : root' = .here := h'.root
  exact congrArg _ hnames

theorem nodup_sourcePaths {files : Files.Tree} (h : files.WellFormed) (dir : Location) :
    (sourcePaths files dir).Nodup := by
  have hsorted : (((files.below dir).filter fun names =>
      Tree.matchesPattern "*.py".toList
        (names.getLast?.getD "").toList).mergeSort Location.before).Nodup :=
    (List.mergeSort_perm _ _).nodup_iff.mpr ((h.nodup_below dir).sublist List.filter_sublist)
  refine List.pairwise_map.mpr (hsorted.imp fun hne heq => hne ?_)
  exact congrArg Files.Path.names heq

section Works

variable {options : RegisterOptions} {env : Environment} {files : Files.Tree} {engine : Engine}
  {jobs : List Job}

/-- Without another path to write to, files are written where they are read. -/
theorem Works.inPlace (h : Works options env files engine jobs) (hout : options.output = none) :
    InPlace jobs := by
  cases h with
  | file => simp [InPlace, RegisterOptions.single, hout]
  | directory =>
    intro job hjob
    obtain ⟨path, -, rfl⟩ := List.mem_map.mp hjob
    simp [RegisterOptions.job, hout]

theorem place_job {path : Files.Path} (h : Below path) :
    (options.job path).place env = options.input.resolve env.here ++ path.names :=
  h.resolve_join env.here options.input

/-- What is told apart by the names below the directory is different for all files. -/
theorem Works.pairwise_ne (h : Works options env files engine jobs) (hwf : files.WellFormed)
    {f : Job → Location} {base : Location}
    (hf : ∀ path, Below path → f (options.job path) = base ++ path.names) :
    jobs.Pairwise fun job other => f job ≠ f other := by
  cases h with
  | file => exact List.pairwise_singleton _ _
  | @directory dir =>
    refine List.pairwise_map.mpr ((nodup_sourcePaths hwf dir).imp_of_mem ?_)
    intro path other hpath hother hne heq
    have hbelow := below_of_mem_sourcePaths hwf hpath
    have hbelow' := below_of_mem_sourcePaths hwf hother
    rw [hf path hbelow, hf other hbelow'] at heq
    exact hne (hbelow.eq_of_names hbelow' (List.append_cancel_left heq))

theorem Works.apart (h : Works options env files engine jobs) (hwf : files.WellFormed) :
    Apart env jobs :=
  h.pairwise_ne hwf fun _ => place_job

end Works

/-! ### A directory with two files

The concrete commands that the properties are shown at work on this directory. -/

namespace Sample

/-- A directory with a file `a.py` and another one below it, beside the data of the locale `de`. -/
def tree (names : List String) (first second : List UInt8) : Files.Tree :=
  ⟨[(["d"], .directory), (["d", "a.py"], .file first), (["d", "build"], .directory),
    ("d" :: names, .file second), (["loc"], .directory), (["loc", "de.py"], .file [])]⟩

def environment : Environment := ⟨[], [], false⟩

def options (locale : String) (output : Option Files.Path) : RegisterOptions :=
  { input := ⟨.here, ["d"]⟩, output, locale := some locale, entryModule := some "app#App",
    localesDir := some ⟨.here, ["loc"]⟩ }

def engine (locale : String) : Engine :=
  ⟨{ entry := ⟨"app", "App"⟩, locale }, .directory ⟨.slash, ["loc"]⟩⟩

theorem exists_registered : ∃ o,
    (engine "de").request.run ["de"] "f().bootstrapModule(App)\n" = .ok o ∧ o.success = true ∧
      o.changed = true := by
  have hany : ((engine "de").request.run ["de"] "f().bootstrapModule(App)\n").toOption.any
      (fun o => o.success && o.changed) = true := by decide +kernel
  cases hrun : (engine "de").request.run ["de"] "f().bootstrapModule(App)\n" with
  | error fault =>
    rw [hrun] at hany
    cases hany
  | ok o =>
    rw [hrun] at hany
    exact ⟨o, rfl, Bool.and_eq_true_iff.mp hany⟩

variable {names : List String} (hnames : names = ["b.py"] ∨ names = ["build", "a.py"])
  (first second : List UInt8) {locale : String} (hlocale : locale = "de" ∨ locale = "fr")

include hnames

theorem wellFormed : (tree names first second).WellFormed := by
  rcases hnames with rfl | rfl <;> exact ⟨by simp [tree], by simp [tree]⟩

theorem paths : sourcePaths (tree names first second) ["d"] =
    [⟨.here, ["a.py"]⟩, ⟨.here, names⟩] := by
  have hsorted : [["a.py"], names].mergeSort Location.before = [["a.py"], names] :=
    List.mergeSort_of_pairwise (by rcases hnames with rfl | rfl <;> decide)
  have hbelow : ((tree names first second).below ["d"]).filter (fun names =>
      Tree.matchesPattern "*.py".toList (names.getLast?.getD "").toList) = [["a.py"], names] := by
    rcases hnames with rfl | rfl <;> rfl
  rw [sourcePaths, hbelow, hsorted]
  rfl

theorem list (locale : String) : (engine locale).source.list
    ⟨tree names first second, environment.here, environment.searchPath⟩ = ["de"] := by
  rcases hnames with rfl | rfl <;> with_unfolding_all rfl

theorem read_second :
    (tree names first second).read environment.here ⟨.here, "d" :: names⟩ = .ok second := by
  rcases hnames with rfl | rfl <;> rfl

/-- The first file is assessed to the outcome of its text. -/
theorem assess_first {text : String} {o : Outcome} (hfirst : first = Text.encodeUtf8 text)
    (hrun : (engine locale).request.run ["de"] (Text.unifyLineEnds text) = .ok o) :
    assess (engine locale) environment (tree names first second) ⟨.here, ["d", "a.py"]⟩ = .ok o :=
  assess_of_run rfl (hfirst ▸ Text.decodeUtf8_encodeUtf8 text) rfl (list hnames first second locale)
    hrun

theorem assess_second {text : String} {o : Outcome} (hsecond : second = Text.encodeUtf8 text)
    (hrun : (engine locale).request.run ["de"] (Text.unifyLineEnds text) = .ok o) :
    assess (engine locale) environment (tree names first second) ⟨.here, "d" :: names⟩ = .ok o :=
  assess_of_run (read_second hnames first second) (hsecond ▸ Text.decodeUtf8_encodeUtf8 text) rfl
    (list hnames first second locale) hrun

include hlocale

theorem loaded (output : Option Files.Path) :
    ((loadEngine (options locale output) ⟨.here, ["d"]⟩).upshot environment
      (tree names first second)).1 = .ok (some (engine locale)) := by
  rcases hnames with rfl | rfl <;> rcases hlocale with rfl | rfl <;> rfl

theorem works (output : Option Files.Path) :
    Works (options locale output) environment (tree names first second) (engine locale)
      [(options locale output).job ⟨.here, ["a.py"]⟩,
        (options locale output).job ⟨.here, names⟩] := by
  have hdir : Works (options locale output) environment (tree names first second) (engine locale)
      ((sourcePaths (tree names first second) ["d"]).map (options locale output).job) :=
    .directory rfl rfl (loaded hnames first second hlocale output)
  rwa [paths hnames] at hdir

end Sample

end Command

end LocaleRegistrar
