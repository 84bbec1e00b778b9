import LocaleRegistrar.Proofs.Enumeration

/-! The two ways to list the data modules of a directory: by its path, and as a package that is
found there. What a directory holds is a list of names with nodes, in the order in which the system
lists them. Main statement: both ways give the same locales, in the order of the module names, and
the order of the listing does not matter. -/

namespace LocaleRegistrar

namespace Files.Tree

/-- Names that have not been seen are all kept. -/
theorem foldl_merge_of_nodup (seen children : List (String × Node))
    (h : ((seen ++ children).map Prod.fst).Nodup) :
    children.foldl (fun seen child =>
      if (seen.lookup child.1).isSome then seen else seen ++ [child]) seen = seen ++ children := by
  induction children generalizing seen with
  | nil => simp
  | cons child rest ih =>
    have hnew : seen.lookup child.1 = none := by
      refine List.lookup_eq_none_iff.mpr fun entry hentry => ?_
      rw [List.map_append, List.map_cons, List.nodup_append] at h
      have hne := h.2.2 entry.1 (List.mem_map_of_mem hentry) child.1 List.mem_cons_self
      simpa using Ne.symm hne
    have hrest : ((seen ++ [child] ++ rest).map Prod.fst).Nodup := by simpa using h
    rw [List.foldl_cons, hnew, Option.isSome_none, if_neg (by simp), ih _ hrest]
    simp

/-- A package in one directory has what the directory has. -/
theorem mergedChildren_singleton {t : Tree} {l : Location}
    (h : ((t.children l).map Prod.fst).Nodup) : t.mergedChildren [l] = t.children l := by
  have hall := foldl_merge_of_nodup [] (t.children l) h
  rw [mergedChildren, List.flatMap_singleton]
  exact hall

end Files.Tree

namespace Locale

open LocaleRegistrar.Files

theorem mem_fileNames_iff {children : List (String × Node)} {name : String} :
    name ∈ fileNames children ↔ ∃ bytes, (name, Node.file bytes) ∈ children := by
  rw [fileNames, List.mem_filterMap]
  constructor
  · rintro ⟨⟨key, _ | _⟩, hmem, heq⟩
    · obtain rfl := Option.some.inj heq
      exact ⟨_, hmem⟩
    · cases heq
  · rintro ⟨bytes, hmem⟩
    exact ⟨_, hmem, rfl⟩

theorem fileNames_sublist (children : List (String × Node)) :
    (fileNames children).Sublist (children.map Prod.fst) := by
  induction children with
  | nil => exact .slnil
  | cons child rest ih =>
    obtain ⟨name, _ | _⟩ := child
    · exact ih.cons_cons name
    · exact ih.cons name

/-- The name of a data module's file ends in `.py` and does not start with an underscore. -/
theorem stem?_eq_some_iff {fileName stem : String} :
    stem? fileName = some stem ↔
      fileName = stem ++ ".py" ∧ fileName.toList.head? ≠ some '_' := by
  constructor
  · intro h
    refine ⟨eq_of_stem? h, ?_⟩
    unfold stem? at h
    dsimp only at h
    split at h
    · next htest =>
      rw [Bool.and_eq_true] at htest
      simpa using htest.2
    · cases h
  · rintro ⟨rfl, hhead⟩
    unfold stem?
    have hsuffix : ".py".toList.isSuffixOf (stem ++ ".py").toList = true := by
      rw [List.isSuffixOf_iff_suffix, String.toList_append]
      exact List.suffix_append _ _
    simp only [hsuffix, hhead, ne_eq, not_false_eq_true, decide_true, Bool.and_self, if_true]
    simp

/-- The module names of data modules, in their order. -/
def stems (names : List String) : List String :=
  (names.filterMap stem?).mergeSort fun a b => a ≤ b

theorem ofFileNames_eq_map_stems (names : List String) :
    ofFileNames names = (stems names).map ofModuleName := rfl

theorem mem_stems_iff {names : List String} {stem : String} :
    stem ∈ stems names ↔ stem ++ ".py" ∈ names ∧ (stem ++ ".py").toList.head? ≠ some '_' := by
  rw [stems, List.mem_mergeSort, List.mem_filterMap]
  constructor
  · rintro ⟨name, hname, hstem⟩
    obtain ⟨rfl, hhead⟩ := stem?_eq_some_iff.mp hstem
    exact ⟨hname, hhead⟩
  · rintro ⟨hname, hhead⟩
    exact ⟨_, hname, stem?_eq_some_iff.mpr ⟨rfl, hhead⟩⟩

theorem stems_ascending (names : List String) : (stems names).Pairwise fun a b => a ≤ b := by
  have h : (stems names).Pairwise fun a b => decide (a ≤ b) = true := by
    refine List.pairwise_mergeSort (fun a b c hab hbc => ?_) (fun a b => ?_) (names.filterMap stem?)
    · rw [decide_eq_true_eq] at hab hbc ⊢
      exact String.le_trans hab hbc
    · simpa using String.le_total a b
  simpa using h

/-- The module names do not depend on the order in which the files are listed. -/
theorem stems_eq_of_perm {names names' : List String} (h : names.Perm names') :
    stems names = stems names' := by
  refine List.Perm.eq_of_pairwise (fun a b _ _ hab hba => String.le_antisymm hab hba)
    (stems_ascending names) (stems_ascending names') ?_
  have hstems := h.filterMap stem?
  exact (List.mergeSort_perm _ _).trans (hstems.trans (List.mergeSort_perm _ _).symm)

/-- Different files have different module names. -/
theorem nodup_stems {names : List String} (h : names.Nodup) : (stems names).Nodup := by
  rw [stems, (List.mergeSort_perm _ _).nodup_iff]
  refine List.pairwise_filterMap.mpr (h.imp fun hne stem hstem other hother heq => hne ?_)
  rw [eq_of_stem? hstem, eq_of_stem? hother, heq]

theorem stems_sorted {names : List String} (h : names.Nodup) :
    (stems names).Pairwise fun a b => a < b := by
  refine ((stems_ascending names).and (nodup_stems h)).imp fun hab => ?_
  exact String.not_le.mp fun hba => hab.2 (String.le_antisymm hab.1 hba)

namespace Source

theorem list_directory {s : Surroundings} {path : Files.Path} {l : Location}
    (h : directory? s path = some l) :
    list s (.directory path) = (stems (fileNames (s.files.children l))).map ofModuleName := by
  rw [list_of_directory h]
  exact ofFileNames_eq_map_stems _

theorem list_package {s : Surroundings} {name : String} {l : Location}
    (h : package? s name = some [l]) (hdistinct : ((s.files.children l).map Prod.fst).Nodup) :
    list s (.package name) = (stems (fileNames (s.files.children l))).map ofModuleName := by
  rw [list, h]
  dsimp only
  rw [Tree.mergedChildren_singleton hdistinct]
  exact ofFileNames_eq_map_stems _

/-- Whatever a directory holds, and in whatever order it is listed each time, listing it by its path
and listing a package that is found in it alone give the same locales: one for each of its files
`*.py` that does not start with an underscore, in the order of the module names. -/
theorem directory_and_package_agree {content : List (String × Node)}
    (hdistinct : (content.map Prod.fst).Nodup) {s s' : Surroundings} {path : Files.Path}
    {name : String} {l : Location}
    (hdirectory : directory? s path = some l) (hpackage : package? s' name = some [l])
    (hlisted : (s.files.children l).Perm content) (hlisted' : (s'.files.children l).Perm content) :
    ∃ modules : List String, modules.Pairwise (· < ·) ∧
      (∀ stem, stem ∈ modules ↔ (∃ bytes, (stem ++ ".py", Node.file bytes) ∈ content) ∧
        (stem ++ ".py").toList.head? ≠ some '_') ∧
      list s (.directory path) = modules.map ofModuleName ∧
      list s' (.package name) = modules.map ofModuleName := by
  have hnames : (fileNames content).Nodup := hdistinct.sublist (fileNames_sublist content)
  have hstems {children : List (String × Node)} (h : children.Perm content) :
      stems (fileNames children) = stems (fileNames content) := stems_eq_of_perm (h.filterMap _)
  refine ⟨stems (fileNames content), stems_sorted hnames, fun stem => ?_, ?_, ?_⟩
  · rw [mem_stems_iff, mem_fileNames_iff]
  · rw [list_directory hdirectory, hstems hlisted]
  · have hdistinct' := (hlisted'.map Prod.fst).nodup_iff.mpr hdistinct
    rw [list_package hpackage hdistinct', hstems hlisted']

/-- A file without a name before `.py`, a package's own files, modules whose names sort otherwise
than their locales do, a directory that is named like a module, and a file that is none. -/
def mixedContent : List (String × Node) :=
  [(".py", .file []), ("__init__.py", .file []), ("_old.py", .file []), ("de.py", .file []),
   ("enX.py", .file []), ("en_US.py", .file []), ("fr.py", .directory), ("notes.txt", .file [])]

/-- A directory that is listed as `children`, at the top of the files and of the search path. -/
def withListed (children : List (String × Node)) : Surroundings where
  files := ⟨(["locales"], .directory) :: children.map fun child => (["locales", child.1], child.2)⟩
  searchPath := [[]]

/-- Both ways agree where the package is listed from the last name to the first. -/
theorem directory_and_package_agree_reversed :
    list (withListed mixedContent) (.directory { names := ["locales"] }) =
        ["", "de", "enX", "en-US"] ∧
      list (withListed mixedContent.reverse) (.package "locales") = ["", "de", "enX", "en-US"] := by
  have hdirectory : directory? (withListed mixedContent) { names := ["locales"] } =
      some ["locales"] := by decide +kernel
  have hpackage : package? (withListed mixedContent.reverse) "locales" = some [["locales"]] := by
    decide +kernel
  have hlisted : (withListed mixedContent).files.children ["locales"] = mixedContent := by
    decide +kernel
  have hlisted' : (withListed mixedContent.reverse).files.children ["locales"] =
      mixedContent.reverse := by decide +kernel
  obtain ⟨modules, -, -, hlist, hlist'⟩ := directory_and_package_agree (by decide +kernel)
    hdirectory hpackage (.of_eq hlisted) (hlisted' ▸ List.reverse_perm mixedContent)
  have hlocales : list (withListed mixedContent) (.directory { names := ["locales"] }) =
      ["", "de", "enX", "en-US"] := by
    -- sorting does not reduce, but this listing is in order
    have hstems : (fileNames mixedContent).filterMap stem? = ["", "de", "enX", "en_US"] := by
      decide +kernel
    rw [list_directory hdirectory, hlisted, stems, hstems,
      List.mergeSort_of_pairwise (by decide +kernel)]
    decide +kernel
  exact ⟨hlocales, hlist'.trans (hlist.symm.trans hlocales)⟩

end Source

end Locale

end LocaleRegistrar
