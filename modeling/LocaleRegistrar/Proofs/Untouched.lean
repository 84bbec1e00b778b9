import LocaleRegistrar.Proofs.FlatOrder
import LocaleRegistrar.Proofs.Passes

/-! Modules without a bootstrap site. For these nothing about a request matters but the class that
it names: the available locales are not asked for, nothing is planned, and the text comes back as it
was, with everything that writing the module would lose. No request succeeds without a change if the
module has a site. -/

namespace LocaleRegistrar.Registration

open LocaleRegistrar.Python
open LocaleRegistrar.Bootstrap

/-- A request plans nothing for a module, and does not ask which locales are available. -/
def PlansNothing (r : Request) (available : List String) (m : Python.Module) : Prop :=
  (r.planAsking (counted available) m).run 0 = (.ok [], 0)

/-- A request leaves a text that is the module `m` alone: it plans nothing for the module, whether
its lines are split or not, and succeeds with the text itself. -/
structure Untouched (r : Request) (available : List String) (code : String) (m : Python.Module) :
    Prop where
  planned : PlansNothing r available m
  plannedSplit : PlansNothing r available (splitFutureImports m)
  outcome : r.run available code =
    .ok { code := code, errors := [], success := true, changed := false, inserted := [] }

variable {r : Request} {available : List String} {code : String} {m : Python.Module}

theorem sites_splitFutureImports (r : Request) (m : Python.Module) :
    r.sites (splitFutureImports m) = r.sites m :=
  sites_split r.entry.className m

/-- Nothing is planned exactly if there is no site. -/
theorem plan_eq_nil_iff : r.plan available m = .ok [] ↔ r.sites m = [] := by
  constructor
  · intro h
    obtain ⟨hsites, -⟩ | ⟨resolution, ss, hp⟩ := plan_ok_cases h
    · exact hsites
    · exact absurd rfl hp.edits_ne_nil
  · intro h
    rw [Request.plan_eq, h]
    rfl

theorem plansNothing_of_sites (h : r.sites m = []) : PlansNothing r available m := by
  have hasked : r.enumerations m = 0 := by rw [Request.enumerations, h]; rfl
  rw [PlansNothing, planAsking_counted, plan_eq_nil_iff.mpr h, hasked]

theorem untouched_of_sites (hm : parseModule code = some m) (h : r.sites m = []) :
    Untouched r available code m := by
  have hsplit : r.sites (splitFutureImports m) = [] := by rw [sites_splitFutureImports, h]
  refine ⟨plansNothing_of_sites h, plansNothing_of_sites hsplit, ?_⟩
  rw [Request.run, hm]
  dsimp only
  rw [plan_eq_nil_iff.mpr hsplit]

/-- A run that succeeds without a change found no site. -/
theorem sites_of_run_unchanged (hm : parseModule code = some m) {o : Outcome}
    (h : r.run available code = .ok o) (hsuccess : o.success = true)
    (hchanged : o.changed = false) : r.sites m = [] := by
  rw [Request.run, hm] at h
  dsimp only at h
  split at h
  · cases h
    cases hsuccess
  · cases h
  · next hplan => rw [← sites_splitFutureImports, plan_eq_nil_iff.mp hplan]
  · next edit edits hplan =>
    obtain ⟨-, hnil⟩ | ⟨resolution, ss, hp⟩ := plan_ok_cases hplan
    · cases hnil
    · -- planned edits are put in, which is a change
      cases h
      simp [Request.outcome, hp.apply_eq] at hchanged

/-- Any two requests about a class that a module has no site for leave its text alone, whatever
their locales and settings and whatever is available to each, and so do the same. If there is a
site, no request succeeds without a change. -/
theorem untouched_without_site (hm : parseModule code = some m) (className : String) :
    (Bootstrap.sites className m = [] →
      ∀ r r' : Request, r.entry.className = className → r'.entry.className = className →
        ∀ available available' : List String,
          Untouched r available code m ∧ Untouched r' available' code m ∧
            r.run available code = r'.run available' code) ∧
      (Bootstrap.sites className m ≠ [] →
        ∀ r : Request, r.entry.className = className → ∀ available o,
          r.run available code = .ok o → ¬(o.success = true ∧ o.changed = false)) := by
  constructor
  · rintro hsites r r' rfl hclass available available'
    have hfirst : Untouched r available code m := untouched_of_sites hm hsites
    have hsecond : Untouched r' available' code m := by
      refine untouched_of_sites hm ?_
      rw [Request.sites, hclass, hsites]
    exact ⟨hfirst, hsecond, hfirst.outcome.trans hsecond.outcome.symm⟩
  · rintro hsites r rfl available o hrun ⟨hsuccess, hchanged⟩
    exact hsites (sites_of_run_unchanged hm hrun hsuccess hchanged)

/-- A byte-order mark and a line that would be split come back, for a locale that is not available
too; a call that starts the application makes the same request fail. -/
theorem untouched_without_site_marked_line :
    (∃ m, parseModule "\ufefffrom __future__ import annotations; x = App\n" = some m ∧
      isSplit m = false ∧ m.render = "from __future__ import annotations; x = App\n" ∧
      Untouched { entry := ⟨"app", "App"⟩, locale := "xx" } []
        "\ufefffrom __future__ import annotations; x = App\n" m ∧
      Untouched { entry := ⟨"", "App"⟩, locale := "de", settings := { registryModule := "1" } }
        ["de"] "\ufefffrom __future__ import annotations; x = App\n" m) ∧
    ∀ o, Request.run { entry := ⟨"app", "App"⟩, locale := "xx" } []
        "start().bootstrapModule(App)\n" = .ok o → ¬(o.success = true ∧ o.changed = false) := by
  have hmarked : ((parseModule "\ufefffrom __future__ import annotations; x = App\n").map fun m =>
      (isSplit m, m.render, (Bootstrap.sites "App" m).length)) =
        some (false, "from __future__ import annotations; x = App\n", 0) := by decide +kernel
  have hstart : ((parseModule "start().bootstrapModule(App)\n").map fun m =>
      (Bootstrap.sites "App" m).length) = some 1 := by decide +kernel
  obtain ⟨m, hm, hfacts⟩ := Option.map_eq_some_iff.mp hmarked
  obtain ⟨hsplit, hrest⟩ := Prod.mk.inj hfacts
  obtain ⟨hrender, hsites⟩ := Prod.mk.inj hrest
  obtain ⟨n, hn, hone⟩ := Option.map_eq_some_iff.mp hstart
  obtain ⟨hfirst, hsecond, -⟩ :=
    (untouched_without_site hm "App").1 (List.length_eq_zero_iff.mp hsites)
      { entry := ⟨"app", "App"⟩, locale := "xx" }
      { entry := ⟨"", "App"⟩, locale := "de", settings := { registryModule := "1" } }
      rfl rfl [] ["de"]
  have hne : Bootstrap.sites "App" n ≠ [] := List.ne_nil_of_length_pos (by omega)
  exact ⟨⟨m, hm, hsplit, hrender, hfirst, hsecond⟩,
    (untouched_without_site hn "App").2 hne { entry := ⟨"app", "App"⟩, locale := "xx" } rfl []⟩

end LocaleRegistrar.Registration
