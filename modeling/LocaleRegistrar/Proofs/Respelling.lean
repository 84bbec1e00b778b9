import LocaleRegistrar.Proofs.Enumeration

/-! Requests for a locale that is listed from the data modules of a directory or of a package. Listed
ids have hyphens for underscores, and no character has an underscore for its small letter, so the
small letters of a listed id are its normal form. Main statement: in whatever case and with whatever
separators such a locale is requested, the request is met by an id of the same normal form. -/

namespace LocaleRegistrar

/-! ### Underscores and small letters -/

namespace Text

/-- The small letters of all runs come after the underscore, which is 95. -/
theorem underscore_lt_of_mem_caseRuns {run : CaseRun} (h : run ∈ caseRuns) :
    95 < run.first + run.offset := by
  have hall : ∀ run ∈ caseRuns, 95 < run.first + run.offset := by decide +kernel
  exact hall run h

theorem eq_of_ofNat_eq_underscore {n : Nat} (h : Char.ofNat n = '_') : n = 95 := by
  by_cases hvalid : n.isValidChar
  · rw [Char.ofNat, dif_pos hvalid] at h
    exact congrArg Char.toNat h
  · rw [Char.ofNat, dif_neg hvalid] at h
    cases h

theorem eq_underscore_of_toLower {c : Char} (hascii : c.toNat < 128) (h : c.toLower = '_') :
    c = '_' := by
  have hall : ∀ n < 128, (Char.ofNat n).toLower = '_' → n = 95 := by decide +kernel
  have hpoint : c.toNat = 95 := hall c.toNat hascii (by rw [Char.ofNat_toNat, h])
  rw [← Char.ofNat_toNat c, hpoint]

/-- Only an underscore has one among its small letters. -/
theorem eq_underscore_of_mem_lowerChar {c : Char} (h : '_' ∈ lowerChar c) : c = '_' := by
  unfold lowerChar at h
  split at h
  · next hascii => exact eq_underscore_of_toLower hascii (List.mem_singleton.mp h).symm
  · split at h
    · exact absurd h (by decide +kernel)
    · split at h
      · next run hfind =>
        have hholds := List.find?_some hfind
        have hbound := underscore_lt_of_mem_caseRuns (List.mem_of_find?_eq_some hfind)
        simp only [CaseRun.holds, Bool.and_eq_true, decide_eq_true_eq] at hholds
        have hpoint := eq_of_ofNat_eq_underscore (List.mem_singleton.mp h).symm
        omega
      · exact (List.mem_singleton.mp h).symm

theorem underscore_not_mem_lowerFrom {cs : List Char} (h : '_' ∉ cs) (before : List Char) :
    '_' ∉ lowerFrom before cs := by
  induction cs generalizing before with
  | nil => exact List.not_mem_nil
  | cons c rest ih =>
    obtain ⟨hc, hrest⟩ := List.ne_and_not_mem_of_not_mem_cons h
    rw [lowerFrom, List.mem_append, not_or]
    refine ⟨?_, ih hrest _⟩
    split
    · -- a sigma, final or medial
      split <;> decide +kernel
    · exact fun hmem => hc (eq_underscore_of_mem_lowerChar hmem).symm

theorem underscore_not_mem_lowerCase {s : String} (h : '_' ∉ s.toList) :
    '_' ∉ (lowerCase s).toList := by
  rw [lowerCase, String.toList_ofList]
  exact underscore_not_mem_lowerFrom h []

end Text

namespace Locale

/-! ### Normal forms of listed ids -/

theorem substitute_of_not_mem {old new : Char} {s : String} (h : old ∉ s.toList) :
    substitute old new s = s := by
  refine String.toList_inj.mp ?_
  rw [substitute, String.toList_ofList]
  refine (List.map_congr_left fun c hc => if_neg ?_).trans (List.map_id _)
  rintro rfl
  exact h hc

theorem not_mem_substitute {old new : Char} (s : String) (h : old ≠ new) :
    old ∉ (substitute old new s).toList := by
  rw [substitute, String.toList_ofList]
  intro hmem
  obtain ⟨c, -, hc⟩ := List.mem_map.mp hmem
  split at hc
  · exact h hc.symm
  · next hne => exact hne hc

/-- Without underscores, the normal form is the text in small letters. -/
theorem normalize_eq_lowerCase {id : String} (h : '_' ∉ id.toList) :
    normalize id = Text.lowerCase id :=
  substitute_of_not_mem (Text.underscore_not_mem_lowerCase h)

/-- The ids are those that a directory or a package has data modules for. -/
inductive Enumerated : List String → Prop
  | directory (s : Surroundings) (path : Files.Path) : Enumerated (Source.list s (.directory path))
  | package (s : Surroundings) (name : String) : Enumerated (Source.list s (.package name))

namespace Enumerated

variable {ids : List String}

theorem eq_ofFileNames (h : Enumerated ids) : ∃ names, ids = ofFileNames names := by
  cases h with
  | directory s path =>
    rw [Source.list]
    cases Source.directory? s path with
    | none => exact ⟨[], by simp [ofFileNames]⟩
    | some l => exact ⟨_, rfl⟩
  | package s name =>
    rw [Source.list]
    cases Source.package? s name with
    | none => exact ⟨[], by simp [ofFileNames]⟩
    | some dirs => exact ⟨_, rfl⟩

theorem normalize_eq (h : Enumerated ids) {id : String} (hid : id ∈ ids) :
    normalize id = Text.lowerCase id := by
  obtain ⟨names, rfl⟩ := h.eq_ofFileNames
  obtain ⟨-, -, stem, -, rfl⟩ := mem_ofFileNames_iff.mp hid
  exact normalize_eq_lowerCase (not_mem_substitute stem (by decide))

/-! ### Requests in any spelling -/

/-- A request with the normal form of a listed id is met verbatim if it can be, and otherwise by the
first listed id of that normal form. -/
theorem resolve_eq (h : Enumerated ids) {id : String} (hid : id ∈ ids) (package : String) :
    ∃ first, IsFirst (normalize · = normalize id) ids first ∧
      ∀ requested, normalize requested = normalize id →
        resolve requested ids package =
          .ok (if requested ∈ ids then .exact requested else .respelled first) := by
  obtain ⟨first, hfirst⟩ := exists_isFirst hid (h.normalize_eq hid).symm
  refine ⟨first, hfirst.congr fun other hother => ?_, fun requested hrequested => ?_⟩
  · rw [h.normalize_eq hother]
  · split
    · next hexact => exact resolve_of_mem hexact
    · next hexact =>
      refine resolve_eq_ok_iff.mpr (best_respelled_iff.mpr ⟨hexact, ?_⟩)
      rwa [hrequested]

end Enumerated

/-- Every request with the normal form of a listed id is met by a listed id of that normal form, never
by way of the language, and by the id itself if no other listed id has its normal form. Such requests
that are not listed verbatim are all met by the same id. -/
theorem resolve_any_spelling {ids : List String} (h : Enumerated ids) {id : String} (hid : id ∈ ids)
    (package : String) :
    (∀ requested, normalize requested = normalize id →
      ∃ resolution, resolve requested ids package = .ok resolution ∧
        normalize resolution.id = normalize id ∧ (∀ language, resolution ≠ .parent language) ∧
        ((∀ other ∈ ids, normalize other = normalize id → other = id) → resolution.id = id)) ∧
    ∀ requested requested', normalize requested = normalize id →
      normalize requested' = normalize id → requested ∉ ids → requested' ∉ ids →
        ∃ resolution, resolve requested ids package = .ok resolution ∧
          resolve requested' ids package = .ok resolution := by
  obtain ⟨first, hfirst, hresolve⟩ := h.resolve_eq hid package
  refine ⟨fun requested hrequested => ⟨_, hresolve requested hrequested, ?_⟩,
    fun requested requested' hrequested hrequested' hnew hnew' => ⟨.respelled first, ?_, ?_⟩⟩
  · by_cases hexact : requested ∈ ids
    · rw [if_pos hexact]
      exact ⟨hrequested, nofun, fun honly => honly requested hexact hrequested⟩
    · rw [if_neg hexact]
      exact ⟨hfirst.holds, nofun, fun honly => honly first hfirst.mem hfirst.holds⟩
  · rw [hresolve requested hrequested, if_neg hnew]
  · rw [hresolve requested' hrequested', if_neg hnew']

/-- A directory with two data modules whose names differ in case only, and a third. -/
def casedLocales : Surroundings where
  files := ⟨[(["locales"], .directory), (["locales", "EN_us.py"], .file []),
    (["locales", "de.py"], .file []), (["locales", "en_US.py"], .file [])]⟩

/-- Requests that are not listed go to the first of the two; the third is met in another case. -/
theorem resolve_any_spelling_two_cases :
    let ids := Source.list casedLocales (.directory { names := ["locales"] })
    ids = ["EN-us", "de", "en-US"] ∧
    (∃ resolution, resolve "en_us" ids = .ok resolution ∧
      resolve "EN-US" ids = .ok resolution) ∧
    (∃ resolution, resolve "EN_US" ids = .ok resolution ∧
      normalize resolution.id = normalize "en-US") ∧
    ∃ resolution, resolve "De" ids = .ok resolution ∧ resolution.id = "de" := by
  have hids : Source.list casedLocales (.directory { names := ["locales"] }) =
      ["EN-us", "de", "en-US"] := by
    have hplace : Source.directory? casedLocales { names := ["locales"] } = some ["locales"] := rfl
    have hstems : (fileNames (casedLocales.files.children ["locales"])).filterMap stem? =
        ["EN_us", "de", "en_US"] := by decide +kernel
    rw [Source.list_of_directory hplace, ofFileNames, hstems,
      List.mergeSort_of_pairwise (by decide)]
    decide +kernel
  have hlisted := Enumerated.directory casedLocales { names := ["locales"] }
  rw [hids] at hlisted
  rw [hids]
  obtain ⟨hregion, hsame⟩ := @resolve_any_spelling _ hlisted "en-US" (by decide) defaultPackage
  obtain ⟨hlanguage, -⟩ := @resolve_any_spelling _ hlisted "de" (by decide) defaultPackage
  obtain ⟨resolution, hres, hnormal, -, -⟩ := hregion "EN_US" (by decide +kernel)
  obtain ⟨resolution', hres', -, -, honly⟩ := hlanguage "De" (by decide +kernel)
  exact ⟨rfl, hsame "en_us" "EN-US" (by decide +kernel) (by decide +kernel) (by decide) (by decide),
    ⟨resolution, hres, hnormal⟩, resolution', hres', honly (by decide +kernel)⟩

end Locale

end LocaleRegistrar
