import LocaleRegistrar.Locale.Resolution

/-! Which available id meets a request. Each tier offers at most one id, whatever the other tiers
offer, and the request is met from the best tier that offers one. Main statements: the ids that
requests are resolved to and the requests that are refused; more available ids never break a
resolution; and the order of the available ids matters only between ids that differ in case. -/

namespace LocaleRegistrar.Locale

open scoped List

/-! ### The first of a list, the start of a text -/

/-- The id is the first of the list with the property. -/
def IsFirst (p : String → Prop) (ids : List String) (id : String) : Prop :=
  ∃ before after, ids = before ++ id :: after ∧ p id ∧ ∀ other ∈ before, ¬ p other

theorem isFirst_iff_find? {f : String → String} {s : String} {ids : List String} {id : String} :
    IsFirst (f · = s) ids id ↔ ids.find? (f · == s) = some id := by
  rw [List.find?_eq_some_iff_append]
  simp only [IsFirst, beq_iff_eq, Bool.not_eq_true', beq_eq_false_iff_ne]
  constructor
  · rintro ⟨before, after, hids, hid, hbefore⟩
    exact ⟨hid, before, after, hids, hbefore⟩
  · rintro ⟨hid, before, after, hids, hbefore⟩
    exact ⟨before, after, hids, hid, hbefore⟩

theorem IsFirst.mem {p : String → Prop} {ids : List String} {id : String}
    (h : IsFirst p ids id) : id ∈ ids := by
  obtain ⟨before, after, rfl, -, -⟩ := h
  simp

theorem IsFirst.holds {p : String → Prop} {ids : List String} {id : String}
    (h : IsFirst p ids id) : p id := by
  obtain ⟨_, _, -, hid, -⟩ := h
  exact hid

theorem IsFirst.congr {p q : String → Prop} {ids : List String} {id : String}
    (h : IsFirst p ids id) (hpq : ∀ other ∈ ids, p other ↔ q other) : IsFirst q ids id := by
  obtain ⟨before, after, rfl, hid, hbefore⟩ := h
  refine ⟨before, after, rfl, (hpq id (by simp)).mp hid, fun other hother hq => ?_⟩
  exact hbefore other hother ((hpq other (List.mem_append_left _ hother)).mpr hq)

theorem IsFirst.append {p : String → Prop} {ids : List String} {id : String}
    (h : IsFirst p ids id) (more : List String) : IsFirst p (ids ++ more) id := by
  obtain ⟨before, after, rfl, hid, hbefore⟩ := h
  exact ⟨before, after ++ more, by simp, hid, hbefore⟩

theorem IsFirst.unique {f : String → String} {s : String} {ids : List String} {id id' : String}
    (h : IsFirst (f · = s) ids id) (h' : IsFirst (f · = s) ids id') : id = id' :=
  Option.some.inj ((isFirst_iff_find?.mp h).symm.trans (isFirst_iff_find?.mp h'))

theorem exists_isFirst {f : String → String} {s : String} {ids : List String} {id : String}
    (hmem : id ∈ ids) (hid : f id = s) : ∃ first, IsFirst (f · = s) ids first := by
  have hsome : (ids.find? (f · == s)).isSome = true :=
    List.find?_isSome.mpr ⟨id, hmem, beq_iff_eq.mpr hid⟩
  obtain ⟨first, hfirst⟩ := Option.isSome_iff_exists.mp hsome
  exact ⟨first, isFirst_iff_find?.mpr hfirst⟩

/-- The start is what the text has before its first hyphen, all of it if there is none. -/
def BeforeHyphen (text start : String) : Prop :=
  '-' ∉ start.toList ∧ (text = start ∨ ∃ rest, text = start ++ "-" ++ rest)

theorem beforeHyphen_language (text : String) : BeforeHyphen text (language text) := by
  refine ⟨fun hmem => ?_, ?_⟩
  · rw [language, String.toList_ofList] at hmem
    simpa using List.all_eq_true.mp List.all_takeWhile _ hmem
  · have hparts := List.takeWhile_append_dropWhile (p := (· ≠ '-')) (l := text.toList)
    have hstop := List.head?_dropWhile_not (· ≠ '-') text.toList
    cases hrest : text.toList.dropWhile (· ≠ '-') with
    | nil =>
      rw [hrest, List.append_nil] at hparts
      exact .inl (String.toList_inj.mp (by rw [language, String.toList_ofList, hparts]))
    | cons c rest =>
      rw [hrest] at hparts hstop
      obtain rfl : c = '-' := by simpa using hstop
      refine .inr ⟨String.ofList rest, String.toList_inj.mp ?_⟩
      simpa [language] using hparts.symm

theorem beforeHyphen_iff {text start : String} :
    BeforeHyphen text start ↔ start = language text := by
  constructor
  · rintro ⟨hstart, htext⟩
    have hpass : ∀ c ∈ start.toList, decide (c ≠ '-') = true := by
      intro c hc
      refine decide_eq_true fun he => hstart ?_
      rwa [← he]
    refine String.toList_inj.mp ?_
    rw [language, String.toList_ofList]
    rcases htext with rfl | ⟨rest, rfl⟩
    · have hall := @List.takeWhile_append_of_pos _ _ _ [] hpass
      rw [List.append_nil, List.takeWhile_nil, List.append_nil] at hall
      exact hall.symm
    · rw [String.toList_append, String.toList_append, List.append_assoc,
        List.takeWhile_append_of_pos hpass]
      simp
  · rintro rfl
    exact beforeHyphen_language text

/-! ### What each tier offers -/

/-- The tier that a request is met from, counted from the best one. -/
def Resolution.tier : Resolution → Nat
  | exact _ => 0
  | respelled _ => 1
  | parent _ => 2

/-- The available ids hold a match for the request, in the tier that the resolution names. -/
inductive Offers (requested : String) (available : List String) : Resolution → Prop
  | exact (h : requested ∈ available) : Offers requested available (.exact requested)
  | respelled {id : String}
      (h : IsFirst (Text.lowerCase · = normalize requested) available id) :
      Offers requested available (.respelled id)
  | parent {id : String} (hmem : id ∈ available) (h : BeforeHyphen (normalize requested) id) :
      Offers requested available (.parent id)

section

variable {requested package : String} {available available' : List String}
  {resolution resolution' : Resolution}

theorem Offers.id_mem (h : Offers requested available resolution) : resolution.id ∈ available := by
  cases h with
  | exact h => exact h
  | respelled h => exact h.mem
  | parent hmem _ => exact hmem

/-- A tier offers one id at most. -/
theorem Offers.unique (h : Offers requested available resolution)
    (h' : Offers requested available resolution') (htier : resolution.tier = resolution'.tier) :
    resolution = resolution' := by
  cases h with
  | exact _ =>
    cases h' with
    | exact _ => rfl
    | respelled _ => cases htier
    | parent _ _ => cases htier
  | respelled h =>
    cases h' with
    | exact _ => cases htier
    | respelled h' => rw [h.unique h']
    | parent _ _ => cases htier
  | parent _ h =>
    cases h' with
    | exact _ => cases htier
    | respelled _ => cases htier
    | parent _ h' => rw [beforeHyphen_iff.mp h, beforeHyphen_iff.mp h']

theorem Offers.append (h : Offers requested available resolution) (more : List String) :
    Offers requested (available ++ more) resolution := by
  cases h with
  | exact h => exact .exact (List.mem_append_left _ h)
  | respelled h => exact .respelled (h.append more)
  | parent hmem h => exact .parent (List.mem_append_left _ hmem) h

/-- In another order the same tiers offer something. -/
theorem Offers.of_perm (h : Offers requested available resolution)
    (hperm : available ~ available') :
    ∃ resolution', Offers requested available' resolution' ∧
      resolution'.tier = resolution.tier := by
  cases h with
  | exact h => exact ⟨_, .exact (hperm.mem_iff.mp h), rfl⟩
  | respelled h =>
    obtain ⟨first, hfirst⟩ := exists_isFirst (hperm.mem_iff.mp h.mem) h.holds
    exact ⟨_, .respelled hfirst, rfl⟩
  | parent hmem h => exact ⟨_, .parent (hperm.mem_iff.mp hmem) h, rfl⟩

/-- If no two ids differ in case only, the tiers offer the same in another order. -/
theorem Offers.perm (h : Offers requested available resolution) (hperm : available ~ available')
    (hcase : ∀ id ∈ available, ∀ id' ∈ available,
      Text.lowerCase id = Text.lowerCase id' → id = id') :
    Offers requested available' resolution := by
  cases h with
  | exact h => exact .exact (hperm.mem_iff.mp h)
  | respelled h =>
    obtain ⟨first, hfirst⟩ := exists_isFirst (hperm.mem_iff.mp h.mem) h.holds
    rw [hcase _ h.mem first (hperm.mem_iff.mpr hfirst.mem) (h.holds.trans hfirst.holds.symm)]
    exact .respelled hfirst
  | parent hmem h => exact .parent (hperm.mem_iff.mp hmem) h

/-! ### The best tier that offers something -/

/-- The resolution is offered, and no better tier offers anything. -/
structure Best (requested : String) (available : List String) (resolution : Resolution) : Prop where
  offered : Offers requested available resolution
  least : ∀ other, Offers requested available other → resolution.tier ≤ other.tier

theorem Best.unique (h : Best requested available resolution)
    (h' : Best requested available resolution') : resolution = resolution' :=
  h.offered.unique h'.offered (Nat.le_antisymm (h.least _ h'.offered) (h'.least _ h.offered))

theorem Best.tier_eq_of_perm (h : Best requested available resolution)
    (h' : Best requested available' resolution') (hperm : available ~ available') :
    resolution.tier = resolution'.tier := by
  obtain ⟨moved, hmoved, htier⟩ := h.offered.of_perm hperm
  obtain ⟨moved', hmoved', htier'⟩ := h'.offered.of_perm hperm.symm
  have hle := h'.least moved hmoved
  have hle' := h.least moved' hmoved'
  omega

theorem best_exact_iff {id : String} :
    Best requested available (.exact id) ↔ id = requested ∧ requested ∈ available := by
  constructor
  · rintro ⟨hoffered, -⟩
    cases hoffered with
    | exact h => exact ⟨rfl, h⟩
  · rintro ⟨rfl, h⟩
    exact ⟨.exact h, fun _ _ => Nat.zero_le _⟩

theorem best_respelled_iff {id : String} :
    Best requested available (.respelled id) ↔
      requested ∉ available ∧
        IsFirst (Text.lowerCase · = normalize requested) available id := by
  constructor
  · rintro ⟨hoffered, hleast⟩
    cases hoffered with
    | respelled h => exact ⟨fun hexact => Nat.not_succ_le_zero 0 (hleast _ (.exact hexact)), h⟩
  · rintro ⟨hexact, h⟩
    refine ⟨.respelled h, fun other hother => ?_⟩
    cases hother with
    | exact h => exact absurd h hexact
    | respelled _ => exact Nat.le_refl 1
    | parent _ _ => exact Nat.le_succ 1

theorem best_parent_iff {id : String} :
    Best requested available (.parent id) ↔
      requested ∉ available ∧
        (∀ other ∈ available, Text.lowerCase other ≠ normalize requested) ∧
        id ∈ available ∧ BeforeHyphen (normalize requested) id := by
  constructor
  · rintro ⟨hoffered, hleast⟩
    cases hoffered with
    | parent hmem h =>
      refine ⟨fun hexact => Nat.not_succ_le_zero 1 (hleast _ (.exact hexact)), ?_, hmem, h⟩
      intro other hother hspelled
      obtain ⟨first, hfirst⟩ := exists_isFirst hother hspelled
      exact Nat.not_succ_le_self 1 (hleast _ (.respelled hfirst))
  · rintro ⟨hexact, hrespelled, hmem, h⟩
    refine ⟨.parent hmem h, fun other hother => ?_⟩
    cases hother with
    | exact h => exact absurd h hexact
    | respelled h => exact absurd h.holds (hrespelled _ h.mem)
    | parent _ _ => exact Nat.le_refl 2

theorem not_offers_iff :
    (∀ resolution, ¬ Offers requested available resolution) ↔
      requested ∉ available ∧
        (∀ other ∈ available, Text.lowerCase other ≠ normalize requested) ∧
        ∀ other ∈ available, ¬ BeforeHyphen (normalize requested) other := by
  constructor
  · intro hnone
    refine ⟨fun h => hnone _ (.exact h), fun other hother hspelled => ?_,
      fun other hother h => hnone _ (.parent hother h)⟩
    obtain ⟨first, hfirst⟩ := exists_isFirst hother hspelled
    exact hnone _ (.respelled hfirst)
  · rintro ⟨hexact, hrespelled, hparent⟩ resolution hoffered
    cases hoffered with
    | exact h => exact hexact h
    | respelled h => exact hrespelled _ h.mem h.holds
    | parent hmem h => exact hparent _ hmem h

/-- The tiers are tried in turn, so the best one that offers something meets the request. -/
theorem resolve?_best (requested : String) (available : List String) :
    (∃ resolution, resolve? requested available = some resolution ∧
      Best requested available resolution) ∨
    resolve? requested available = none ∧
      ∀ resolution, ¬ Offers requested available resolution := by
  unfold resolve?
  by_cases hexact : requested ∈ available
  · rw [if_pos hexact]
    exact .inl ⟨_, rfl, best_exact_iff.mpr ⟨rfl, hexact⟩⟩
  · rw [if_neg hexact]
    cases hfind : available.find? fun id => Text.lowerCase id == normalize requested with
    | some id =>
      simp only [hfind]
      exact .inl ⟨_, rfl, best_respelled_iff.mpr ⟨hexact, isFirst_iff_find?.mpr hfind⟩⟩
    | none =>
      have hrespelled : ∀ other ∈ available, Text.lowerCase other ≠ normalize requested := by
        simpa using hfind
      simp only [hfind]
      by_cases hparent : language (normalize requested) ∈ available
      · rw [if_pos hparent]
        exact .inl ⟨_, rfl,
          best_parent_iff.mpr ⟨hexact, hrespelled, hparent, beforeHyphen_language _⟩⟩
      · rw [if_neg hparent]
        refine .inr ⟨rfl, not_offers_iff.mpr ⟨hexact, hrespelled, fun other hother h => ?_⟩⟩
        rw [beforeHyphen_iff.mp h] at hother
        exact hparent hother

theorem resolve_best (requested : String) (available : List String) (package : String) :
    (∃ resolution, resolve requested available package = .ok resolution ∧
      Best requested available resolution) ∨
    resolve requested available package = .error ⟨requested, package⟩ ∧
      ∀ resolution, ¬ Offers requested available resolution := by
  unfold resolve
  obtain ⟨resolution, hres, hbest⟩ | ⟨hres, hnone⟩ := resolve?_best requested available
  · exact .inl ⟨resolution, by rw [hres], hbest⟩
  · exact .inr ⟨by rw [hres], hnone⟩

theorem resolve_eq_ok_iff :
    resolve requested available package = .ok resolution ↔
      Best requested available resolution := by
  obtain ⟨found, hres, hbest⟩ | ⟨hres, hnone⟩ := resolve_best requested available package
  · rw [hres]
    constructor
    · rintro ⟨⟩
      exact hbest
    · intro h
      rw [hbest.unique h]
  · rw [hres]
    exact ⟨nofun, fun h => absurd h.offered (hnone _)⟩

theorem resolve_eq_error_iff {unknown : Unknown} :
    resolve requested available package = .error unknown ↔
      unknown = ⟨requested, package⟩ ∧ ∀ resolution, ¬ Offers requested available resolution := by
  obtain ⟨found, hres, hbest⟩ | ⟨hres, hnone⟩ := resolve_best requested available package
  · rw [hres]
    exact ⟨nofun, fun h => absurd hbest.offered (h.2 _)⟩
  · rw [hres]
    constructor
    · rintro ⟨⟩
      exact ⟨rfl, hnone⟩
    · rintro ⟨rfl, -⟩
      rfl

/-- What a request is resolved to is one of the available ids, in whichever tier. -/
theorem resolve_mem (h : resolve requested available package = .ok resolution) :
    resolution.id ∈ available :=
  (resolve_eq_ok_iff.mp h).offered.id_mem

/-- An available id is resolved to itself. -/
theorem resolve_of_mem (h : requested ∈ available) :
    resolve requested available package = .ok (.exact requested) :=
  resolve_eq_ok_iff.mpr ⟨.exact h, fun _ _ => Nat.zero_le _⟩

end

/-! ### Requests that are met and refused -/

/-- A request is resolved to itself if it is available; otherwise to the first id that is the
normalized request up to case; otherwise to the language of the normalized request if that is
available. It is refused, under the id that was requested, exactly if all three fail. What it is
resolved to is available, and is itself resolved to itself. -/
theorem resolve_by_tiers (requested : String) (available : List String) (package : String) :
    (∀ id, (∃ resolution, resolve requested available package = .ok resolution ∧
        resolution.id = id) ↔
      id = requested ∧ requested ∈ available ∨
      requested ∉ available ∧ IsFirst (Text.lowerCase · = normalize requested) available id ∨
      requested ∉ available ∧
        (∀ other ∈ available, Text.lowerCase other ≠ normalize requested) ∧
        id ∈ available ∧ BeforeHyphen (normalize requested) id) ∧
    (∀ unknown, resolve requested available package = .error unknown ↔
      unknown = ⟨requested, package⟩ ∧ requested ∉ available ∧
        (∀ other ∈ available, Text.lowerCase other ≠ normalize requested) ∧
        ∀ other ∈ available, ¬ BeforeHyphen (normalize requested) other) ∧
    ∀ resolution, resolve requested available package = .ok resolution →
      resolution.id ∈ available ∧
        resolve resolution.id available package = .ok (.exact resolution.id) := by
  refine ⟨fun id => ?_, fun unknown => ?_, fun resolution h =>
    ⟨resolve_mem h, resolve_of_mem (resolve_mem h)⟩⟩
  · simp only [resolve_eq_ok_iff, ← best_exact_iff, ← best_respelled_iff, ← best_parent_iff]
    constructor
    · rintro ⟨resolution, hbest, rfl⟩
      cases resolution with
      | exact id => exact .inl hbest
      | respelled id => exact .inr (.inl hbest)
      | parent id => exact .inr (.inr hbest)
    · rintro (hbest | hbest | hbest)
      · exact ⟨_, hbest, rfl⟩
      · exact ⟨_, hbest, rfl⟩
      · exact ⟨_, hbest, rfl⟩
  · rw [resolve_eq_error_iff, not_offers_iff]

/-- Two available ids differ in case only, and the request in its separator as well. -/
theorem resolve_by_tiers_separator :
    let available := ["de", "EN-us", "en-US"]
    "en_US" ∉ available ∧
    IsFirst (Text.lowerCase · = normalize "en_US") available "EN-us" ∧
    (∃ resolution, resolve "en_US" available = .ok resolution ∧ resolution.id = "EN-us" ∧
      resolve resolution.id available = .ok (.exact resolution.id)) ∧
    resolve "fr_DE" available = .error ⟨"fr_DE", "i18n_common.locales"⟩ := by
  intro available
  have hexact : "en_US" ∉ available := by decide
  have hfirst : IsFirst (Text.lowerCase · = normalize "en_US") available "EN-us" :=
    ⟨["de"], ["en-US"], rfl, by decide +kernel, by decide +kernel⟩
  obtain ⟨hid, -, hagain⟩ := resolve_by_tiers "en_US" available defaultPackage
  obtain ⟨-, hrefused, -⟩ := resolve_by_tiers "fr_DE" available defaultPackage
  obtain ⟨resolution, hres, hresolved⟩ := (hid "EN-us").mpr (.inr (.inl ⟨hexact, hfirst⟩))
  refine ⟨hexact, hfirst, ⟨resolution, hres, hresolved, (hagain resolution hres).2⟩, ?_⟩
  refine (hrefused _).mpr ⟨rfl, by decide, by decide +kernel, ?_⟩
  simp only [beforeHyphen_iff]
  decide +kernel

/-! ### More ids, and ids in another order -/

/-- More available ids never break a resolution, and change it only to a better tier. In another
order the available ids meet the same requests from the same tiers, and with the same id unless two
of them differ in case only. -/
theorem resolve_robust (requested : String) (available : List String) (package : String) :
    (∀ resolution, resolve requested available package = .ok resolution → ∀ more,
      ∃ resolution', resolve requested (available ++ more) package = .ok resolution' ∧
        (resolution' = resolution ∨
          Offers requested (available ++ more) resolution' ∧
            resolution'.tier < resolution.tier)) ∧
    ∀ available', available' ~ available →
      (resolve requested available' package).map Resolution.tier =
          (resolve requested available package).map Resolution.tier ∧
        ((∀ id ∈ available, ∀ id' ∈ available,
            Text.lowerCase id = Text.lowerCase id' → id = id') →
          resolve requested available' package = resolve requested available package) := by
  refine ⟨fun resolution hres more => ?_, fun available' hperm => ?_⟩
  · have hoffered := (resolve_eq_ok_iff.mp hres).offered.append more
    obtain ⟨resolution', hres', hbest⟩ | ⟨-, hnone⟩ :=
      resolve_best requested (available ++ more) package
    · refine ⟨resolution', hres', ?_⟩
      rcases Nat.lt_or_eq_of_le (hbest.least _ hoffered) with hlt | heq
      · exact .inr ⟨hbest.offered, hlt⟩
      · exact .inl (hbest.offered.unique hoffered heq)
    · exact absurd hoffered (hnone _)
  · obtain ⟨resolution, hres, hbest⟩ | ⟨hres, hnone⟩ := resolve_best requested available package
    · obtain ⟨resolution', hres', hbest'⟩ | ⟨-, hnone'⟩ :=
        resolve_best requested available' package
      · have htier := hbest'.tier_eq_of_perm hbest hperm
        refine ⟨by rw [hres, hres', Except.map, Except.map, htier], fun hcase => ?_⟩
        rw [hres, hres', hbest'.offered.unique (hbest.offered.perm hperm.symm hcase) htier]
      · obtain ⟨moved, hmoved, -⟩ := hbest.offered.of_perm hperm.symm
        exact absurd hmoved (hnone' moved)
    · have hres' : resolve requested available' package = .error ⟨requested, package⟩ := by
        refine resolve_eq_error_iff.mpr ⟨rfl, fun resolution hoffered => ?_⟩
        obtain ⟨moved, hmoved, -⟩ := hoffered.of_perm hperm
        exact hnone moved hmoved
      rw [hres, hres']
      exact ⟨rfl, fun _ => rfl⟩

/-- A language serves for a region until the region has data of its own; the two listings hold no
ids that differ in case only. -/
theorem resolve_robust_region :
    let available := ["de", "en-US"]
    resolve "DE_at" available = .ok (.parent "de") ∧
    (∃ resolution, resolve "DE_at" (available ++ ["de-AT"]) = .ok resolution ∧
      (resolution = .parent "de" ∨
        Offers "DE_at" (available ++ ["de-AT"]) resolution ∧ resolution.tier < 2) ∧
      resolution = .respelled "de-AT") ∧
    ["en-US", "de"] ~ available ∧
    (∀ id ∈ available, ∀ id' ∈ available, Text.lowerCase id = Text.lowerCase id' → id = id') ∧
    resolve "DE_at" ["en-US", "de"] = resolve "DE_at" available := by
  intro available
  have hlanguage : resolve? "DE_at" available = some (.parent "de") := by decide +kernel
  have hregion : resolve? "DE_at" (available ++ ["de-AT"]) = some (.respelled "de-AT") := by
    decide +kernel
  have hres : resolve "DE_at" available = .ok (.parent "de") := by rw [resolve, hlanguage]
  have hperm : ["en-US", "de"] ~ available := List.Perm.swap _ _ _
  have hcase : ∀ id ∈ available, ∀ id' ∈ available,
      Text.lowerCase id = Text.lowerCase id' → id = id' := by decide +kernel
  obtain ⟨hmore, horder⟩ := resolve_robust "DE_at" available defaultPackage
  obtain ⟨resolution, hres', hbetter⟩ := hmore _ hres ["de-AT"]
  refine ⟨hres, ⟨resolution, hres', hbetter, ?_⟩, hperm, hcase, (horder _ hperm).2 hcase⟩
  rw [resolve, hregion] at hres'
  exact (Except.ok.inj hres').symm

end LocaleRegistrar.Locale
