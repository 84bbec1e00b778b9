import LocaleRegistrar.Command.Register
import LocaleRegistrar.Proofs.Markup

/-! The messages of the command are well marked up, whatever paths, locales and errors they name. -/

namespace LocaleRegistrar.Command

open LocaleRegistrar.Console
open LocaleRegistrar.Files
open LocaleRegistrar.Registration

theorem isStyle_path : IsStyle "path".toList :=
  ⟨⟨'p', "ath".toList, by decide⟩, by decide, by decide, by decide,
    ⟨"path", by decide +kernel, by decide +kernel, by decide +kernel⟩⟩

theorem isStyle_locale : IsStyle "locale".toList :=
  ⟨⟨'l', "ocale".toList, by decide⟩, by decide, by decide, by decide,
    ⟨"locale", by decide +kernel, by decide +kernel, by decide +kernel⟩⟩

theorem marked_pathMarkup_append (p : Files.Path) {rest : String} (h : Marked rest) :
    Marked (pathMarkup p ++ rest) :=
  marked_styled isStyle_path (by decide) (by decide) p.text h

theorem marked_pathMarkup (p : Files.Path) : Marked (pathMarkup p) := by
  have hempty : Marked "" := marked_plain (by decide)
  simpa using marked_pathMarkup_append p hempty

/-- The message of a failed operation starts with a bracket. -/
theorem head_message (e : FileError) : e.message.toList.head? = some '[' := by
  obtain ⟨fault, path⟩ := e
  cases fault <;> simp [FileError.message, String.toList_append]

theorem marked_fileMessage {start : String} (hstart : IsPlain start.toList) (p : Files.Path)
    (e : FileError) : Marked (start ++ escape p.text ++ ": " ++ escape e.message) := by
  have hmarked := marked_append hstart (marked_escape_colon p.text (head_message e))
  simpa only [String.append_assoc] using hmarked

theorem marked_registered (locale : String) (input output : Files.Path) :
    Marked ("Registered locale [locale]" ++ escape locale ++ "[/locale]: " ++ pathMarkup input ++
      " -> " ++ pathMarkup output) := by
  have hpaths : Marked (": " ++ (pathMarkup input ++ (" -> " ++ pathMarkup output))) :=
    marked_append (by decide) (marked_pathMarkup_append input
      (marked_append (by decide) (marked_pathMarkup output)))
  have hlocale := marked_styled isStyle_locale rfl rfl locale hpaths
  have hstart : IsPlain "Registered locale ".toList := by decide
  have hall := marked_append hstart hlocale
  have hopen : "Registered locale [locale]" = "Registered locale " ++ ("[" ++ "locale" ++ "]") := by
    decide
  have hclose : "[/locale]: " = "[/" ++ "locale" ++ "]" ++ ": " := by decide
  rw [hopen, hclose]
  simpa only [String.append_assoc] using hall

theorem marked_batchComplete (changed total : Nat) (check : Bool) :
    Marked ("Batch Complete: " ++ toString changed ++ "/" ++ toString total ++ " files " ++
      (if check then "need registration" else "updated") ++ ".") := by
  have hverb : Marked ((if check then "need registration" else "updated") ++ ".") := by
    cases check
    · exact marked_plain (by decide)
    · exact marked_plain (by decide)
  have hall : Marked ("Batch Complete: " ++ (toString changed ++ ("/" ++ (toString total ++
      (" files " ++ ((if check then "need registration" else "updated") ++ ".")))))) :=
    marked_append (by decide) (marked_append (isPlain_toString changed) (marked_append (by decide)
      (marked_append (isPlain_toString total) (marked_append (by decide) hverb))))
  simpa only [String.append_assoc] using hall

theorem marked_summary (changed failed : Nat) (check : Bool) :
    Marked ("\n[bold]Summary:[/bold] " ++ toString changed ++ " " ++
      (if check then "need registration" else "updated") ++ ", " ++ toString failed ++
      " failed.") := by
  have hfailed : Marked (", " ++ (toString failed ++ " failed.")) :=
    marked_append (by decide) (marked_append (isPlain_toString failed) (marked_plain (by decide)))
  have hverb : Marked ((if check then "need registration" else "updated") ++
      (", " ++ (toString failed ++ " failed."))) := by
    cases check
    · exact marked_append (by decide) hfailed
    · exact marked_append (by decide) hfailed
  have hcounts := marked_append (isPlain_toString changed) (marked_append
    (show IsPlain " ".toList by decide) hverb)
  have hbold : IsStyle "bold".toList :=
    ⟨⟨'b', "old".toList, by decide⟩, by decide, by decide, by decide,
      ⟨"bold", by decide +kernel, by decide +kernel, by decide +kernel⟩⟩
  have hblank : IsPlain " ".toList := by decide
  have hstyled := marked_styled hbold rfl rfl "Summary:" (marked_append hblank hcounts)
  have hfeed : IsPlain "\n".toList := by decide
  have hall := marked_append hfeed hstyled
  have hopen : "\n[bold]Summary:[/bold] " = "\n" ++ ("[" ++ "bold" ++ "]" ++ escape "Summary:" ++
      ("[/" ++ "bold" ++ "]") ++ " ") := by decide +kernel
  rw [hopen]
  simpa only [String.append_assoc] using hall

theorem marked_failureRow (name : String) (outcome : Outcome) :
    ∀ cell ∈ failureRow name outcome, Marked cell := by
  have hstatus : Marked "❌ Failed" := marked_plain (by decide)
  simp [failureRow, marked_escape, hstatus]

/-- Every cell of the report can be printed. -/
theorem marked_report (results : List (String × Outcome)) :
    ∀ row ∈ ["File", "Status", "Issues"] :: results.map fun (name, o) => failureRow name o,
      ∀ cell ∈ row, Marked cell := by
  intro row hrow
  rcases List.mem_cons.mp hrow with rfl | hrow
  · have hfile : Marked "File" := marked_plain (by decide)
    have hstatus : Marked "Status" := marked_plain (by decide)
    have hissues : Marked "Issues" := marked_plain (by decide)
    simp [hfile, hstatus, hissues]
  · obtain ⟨⟨name, outcome⟩, -, rfl⟩ := List.mem_map.mp hrow
    exact marked_failureRow name outcome

theorem marked_noFiles (p : Files.Path) : Marked ("No .py files found in " ++ pathMarkup p) :=
  marked_append (by decide) (marked_pathMarkup p)

theorem marked_notFound (p : Files.Path) : Marked ("Input not found: " ++ pathMarkup p) :=
  marked_append (by decide) (marked_pathMarkup p)

theorem marked_processing (count : Nat) (p : Files.Path) :
    Marked ("Processing " ++ toString count ++ " files from " ++ pathMarkup p ++ "...") := by
  have hdots : Marked "..." := marked_plain (by decide)
  have hall : Marked ("Processing " ++ (toString count ++ (" files from " ++
      (pathMarkup p ++ "...")))) :=
    marked_append (by decide) (marked_append (isPlain_toString count) (marked_append (by decide)
      (marked_pathMarkup_append p hdots)))
  simpa only [String.append_assoc] using hall

end LocaleRegistrar.Command
