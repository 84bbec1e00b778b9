import LocaleRegistrar.Files.Tree

/-! What writing a file does to a tree. A path is followed through directories only, so that writing
to a path changes what stands at the place it leads to and makes the directories above it that are
missing, and nothing else. Main statement: a file is written unless a file stands in its way or a
directory in its place. -/

namespace LocaleRegistrar.Files

namespace Path

/-- The path of the first `n` names. -/
def upTo (p : Path) (n : Nat) : Path :=
  { p with names := p.names.take n }

theorem upTo_length (p : Path) : p.upTo p.names.length = p := by
  simp [upTo]

theorem upTo_upTo {m n : Nat} (p : Path) (h : m ≤ n) : (p.upTo n).upTo m = p.upTo m := by
  simp [upTo, List.take_take, Nat.min_eq_left h]

theorem parent_eq_upTo (p : Path) : p.parent = p.upTo (p.names.length - 1) := by
  simp [parent, upTo, List.dropLast_eq_take]

theorem length_names_upTo {n : Nat} {p : Path} (h : n ≤ p.names.length) :
    (p.upTo n).names.length = n := by
  simp [upTo, h]

/-- The places on the way to the end of a path. -/
def OnWay (here : Location) (p : Path) (l : Location) : Prop :=
  ∃ k ≤ p.parent.names.length, l = (p.upTo k).resolve here

theorem foldl_step (l : Location) {names : List String} (h : ".." ∉ names) :
    names.foldl step l = l ++ names := by
  induction names generalizing l with
  | nil => simp
  | cons name names ih =>
    rw [List.mem_cons, not_or] at h
    rw [List.foldl_cons, ih _ h.2, step, if_neg (Ne.symm h.1), List.append_assoc]
    rfl

/-- Names read from a path lead on from the place of the path. -/
theorem resolve_join (here : Location) (p : Path) {names : List String} (h : ".." ∉ names) :
    (p.join ⟨.here, names⟩).resolve here = p.resolve here ++ names := by
  rw [join, if_pos rfl, resolve, List.foldl_append, foldl_step _ h]
  rfl

end Path

namespace Tree

/-! ### What stands where -/

@[simp] theorem get?_nil (t : Tree) : t.get? [] = some .directory := by
  simp [get?]

theorem isDirectory_iff {t : Tree} {l : Location} :
    t.isDirectory l = true ↔ t.get? l = some .directory := by
  simp [isDirectory]

theorem isFile_iff {t : Tree} {l : Location} :
    t.isFile l = true ↔ ∃ bytes, t.get? l = some (.file bytes) := by
  unfold isFile
  split
  · next bytes h => simp [h]
  · next h => simpa using fun bytes => h bytes

theorem ne_nil_of_get? (t : Tree) {l : Location} (h : t.get? l ≠ some .directory) : l ≠ [] := by
  rintro rfl
  exact h t.get?_nil

theorem lookup_replace (entries : List (Location × Node)) (l place : Location) (e : Node) :
    (entries.map fun entry => if entry.1 = l then (l, e) else entry).lookup place =
      if place = l then (entries.lookup l).map fun _ => e else entries.lookup place := by
  induction entries with
  | nil => simp
  | cons entry entries ih =>
    obtain ⟨key, node⟩ := entry
    rw [List.map_cons]
    by_cases hkey : key = l
    · subst hkey
      by_cases hplace : place = key
      · subst hplace
        simp
      · simp [List.lookup_cons, ih, hplace, beq_false_of_ne hplace]
    · rw [if_neg hkey, List.lookup_cons, ih]
      by_cases hplace : place = l
      · subst hplace
        simp [List.lookup_cons, beq_false_of_ne (Ne.symm hkey)]
      · rw [if_neg hplace, if_neg hplace, List.lookup_cons]

/-- Putting a node somewhere changes what stands there and nothing else. -/
theorem get?_insert (t : Tree) {l : Location} (hl : l ≠ []) (e : Node) (place : Location) :
    (t.insert l e).get? place = if place = l then some e else t.get? place := by
  by_cases hnil : place = []
  · subst hnil
    simp [Ne.symm hl]
  · simp only [get?, if_neg hnil, insert]
    split
    · next hsome =>
      obtain ⟨node, hnode⟩ := Option.isSome_iff_exists.mp hsome
      rw [lookup_replace, hnode, Option.map_some]
    · next hnone =>
      rw [Option.not_isSome_iff_eq_none] at hnone
      rw [List.lookup_append]
      by_cases hplace : place = l
      · subst hplace
        simp [hnone]
      · simp [hplace, List.lookup_cons, beq_false_of_ne hplace]

/-! ### Following a path -/

theorem foldlM_follow_eq_ok_iff {t : Tree} {names : List String} {l l' : Location} :
    names.foldlM (follow t) l = .ok l' ↔ l' = names.foldl Path.step l ∧
      ∀ n < names.length, t.get? ((names.take n).foldl Path.step l) = some .directory := by
  induction names generalizing l with
  | nil => simp [pure, Except.pure, eq_comm]
  | cons name names ih =>
    rw [List.foldlM_cons]
    unfold follow
    cases hl : t.get? l with
    | none =>
      simp only [bind, Except.bind, reduceCtorEq, false_iff, not_and]
      intro _ hall
      simpa [hl] using hall 0 (by simp)
    | some node =>
      cases node with
      | file bytes =>
        simp only [bind, Except.bind, reduceCtorEq, false_iff, not_and]
        intro _ hall
        simpa [hl] using hall 0 (by simp)
      | directory =>
        simp only [bind, Except.bind]
        have := ih (l := Path.step l name)
        unfold follow at this
        rw [this, List.foldl_cons, and_congr_right_iff]
        rintro -
        constructor
        · intro hall n hn
          cases n with
          | zero => simpa using hl
          | succ n => simpa using hall n (by simpa using hn)
        · intro hall n hn
          simpa using hall (n + 1) (by simpa using hn)

/-- A path leads to the place that its names give if all places on the way are directories. -/
theorem locate_eq_ok_iff {t : Tree} {here : Location} {p : Path} {l : Location} :
    t.locate here p = .ok l ↔ l = p.resolve here ∧
      ∀ n < p.names.length, t.get? ((p.upTo n).resolve here) = some .directory :=
  foldlM_follow_eq_ok_iff

theorem foldlM_follow_eq_error {t : Tree} {names : List String} {l : Location} {fault : FileFault}
    (h : names.foldlM (follow t) l = .error fault) :
    fault = .notFound ∨ fault = .notDirectory ∧
      ∃ n < names.length, t.isFile ((names.take n).foldl Path.step l) = true := by
  induction names generalizing l with
  | nil => cases h
  | cons name names ih =>
    rw [List.foldlM_cons] at h
    cases hl : t.get? l with
    | none =>
      simp only [follow, hl, bind, Except.bind, Except.error.injEq] at h
      exact .inl h.symm
    | some node =>
      cases node with
      | file bytes =>
        simp only [follow, hl, bind, Except.bind, Except.error.injEq] at h
        exact .inr ⟨h.symm, 0, by simp, isFile_iff.mpr ⟨bytes, hl⟩⟩
      | directory =>
        have hstep : follow t l name = .ok (Path.step l name) := by simp [follow, hl]
        rw [hstep] at h
        obtain hfault | ⟨hfault, n, hn, hfile⟩ := ih h
        · exact .inl hfault
        · exact .inr ⟨hfault, n + 1, by simpa using hn, by simpa using hfile⟩

/-- A path that cannot be followed leads through something missing or through a file. -/
theorem locate_eq_error {t : Tree} {here : Location} {p : Path} {fault : FileFault}
    (h : t.locate here p = .error fault) :
    fault = .notFound ∨ fault = .notDirectory ∧
      ∃ n < p.names.length, t.isFile ((p.upTo n).resolve here) = true :=
  foldlM_follow_eq_error h

theorem read_eq_ok_iff {t : Tree} {here : Location} {p : Path} {bytes : List UInt8} :
    t.read here p = .ok bytes ↔ t.locate here p = .ok (p.resolve here) ∧
      t.get? (p.resolve here) = some (.file bytes) := by
  unfold read
  cases hl : t.locate here p with
  | error fault => simp
  | ok l =>
    obtain ⟨rfl, -⟩ := locate_eq_ok_iff.mp hl
    dsimp only
    split <;> simp [*]

theorem makeDirectory_cases {t : Tree} {here : Location} {p : Path} {made : Tree}
    (h : t.makeDirectory here p = .ok made) :
    t.locate here p = .ok (p.resolve here) ∧
      (made = t ∧ t.get? (p.resolve here) = some .directory ∨
        t.get? (p.resolve here) = none ∧ made = t.insert (p.resolve here) .directory) := by
  unfold makeDirectory at h
  split at h
  · cases h
  · next l hl =>
    obtain ⟨rfl, -⟩ := locate_eq_ok_iff.mp hl
    refine ⟨hl, ?_⟩
    split at h
    · next hnone => exact .inr ⟨hnone, (Except.ok.inj h).symm⟩
    · next hdir => exact .inl ⟨(Except.ok.inj h).symm, hdir⟩
    · cases h

/-- Nothing changes from one tree to the other but that missing directories are made, at some of the
given places. -/
def Extends (places : Location → Prop) (t t' : Tree) : Prop :=
  ∀ l, t'.get? l = t.get? l ∨ t.get? l = none ∧ t'.get? l = some .directory ∧ places l

theorem Extends.refl (places : Location → Prop) (t : Tree) : Extends places t t :=
  fun _ => .inl rfl

theorem Extends.trans {places : Location → Prop} {t t' t'' : Tree} (h : Extends places t t')
    (h' : Extends places t' t'') : Extends places t t'' := by
  intro l
  obtain hl | ⟨hnone, hdir, hplace⟩ := h' l
  · rw [hl]
    exact h l
  · obtain hl | ⟨-, hdir', -⟩ := h l
    · exact .inr ⟨hl ▸ hnone, hdir, hplace⟩
    · rw [hdir'] at hnone
      cases hnone

theorem Extends.mono {places places' : Location → Prop} {t t' : Tree} (h : Extends places t t')
    (hplaces : ∀ l, places l → places' l) : Extends places' t t' :=
  fun l => (h l).imp_right fun ⟨hnone, hdir, hplace⟩ => ⟨hnone, hdir, hplaces l hplace⟩

theorem Extends.directory {places : Location → Prop} {t t' : Tree} (h : Extends places t t')
    {l : Location} (hl : t.get? l = some .directory) : t'.get? l = some .directory := by
  obtain heq | ⟨hnone, -⟩ := h l
  · rw [heq, hl]
  · rw [hl] at hnone
    cases hnone

theorem extends_of_makeDirectory {t made : Tree} {here : Location} {p : Path}
    (h : t.makeDirectory here p = .ok made) : Extends (· = p.resolve here) t made := by
  obtain ⟨-, ⟨rfl, -⟩ | ⟨hnone, rfl⟩⟩ := makeDirectory_cases h
  · exact .refl _ _
  · have hne : p.resolve here ≠ [] := t.ne_nil_of_get? (by simp [hnone])
    intro l
    rw [t.get?_insert hne]
    by_cases hl : l = p.resolve here
    · subst hl
      exact .inr ⟨hnone, if_pos rfl, rfl⟩
    · exact .inl (if_neg hl)

theorem directory_of_makeDirectory {t made : Tree} {here : Location} {p : Path}
    (h : t.makeDirectory here p = .ok made) : made.get? (p.resolve here) = some .directory := by
  obtain ⟨-, ⟨rfl, hdir⟩ | ⟨hnone, rfl⟩⟩ := makeDirectory_cases h
  · exact hdir
  · rw [t.get?_insert (t.ne_nil_of_get? (by simp [hnone])), if_pos rfl]

theorem attempt_eq_none_iff {t t' : Tree} {result : Except FileError Tree} :
    t.attempt result = (t', none) ↔ result = .ok t' := by
  cases result <;> simp [attempt]

theorem attempt_makeDirectory_extends (t : Tree) (here : Location) (p : Path) :
    Extends (· = p.resolve here) t (t.attempt (t.makeDirectory here p)).1 := by
  cases h : t.makeDirectory here p with
  | error e => exact .refl _ _
  | ok made => exact extends_of_makeDirectory h

/-- A directory above which something is missing is made after those above it. -/
theorem makeDirectories_of_notFound {t : Tree} {here : Location} {p q : Path} {n : Nat}
    (h : t.makeDirectory here (p.upTo (n + 1)) = .error ⟨.notFound, q⟩) :
    t.makeDirectories here p (n + 1) = (t.makeDirectories here p n).next fun made =>
      made.attempt (made.makeDirectory here (p.upTo (n + 1))) := by
  unfold Path.upTo at h ⊢
  simp only [makeDirectories, h]

theorem makeDirectories_of_ne_notFound {t : Tree} {here : Location} {p : Path} {n : Nat}
    (h : ∀ q, t.makeDirectory here (p.upTo (n + 1)) ≠ .error ⟨.notFound, q⟩) :
    t.makeDirectories here p (n + 1) = t.attempt (t.makeDirectory here (p.upTo (n + 1))) := by
  rw [makeDirectories]
  split
  · next q hmissing => exact absurd hmissing (h q)
  · rfl

/-- Directories are made at the places of the path that are missing. -/
theorem makeDirectories_extends (t : Tree) (here : Location) (p : Path) (n : Nat) :
    Extends (fun l => ∃ k ≤ n, l = (p.upTo k).resolve here) t (t.makeDirectories here p n).1 := by
  induction n with
  | zero =>
    exact (t.attempt_makeDirectory_extends here (p.upTo 0)).mono fun l hl =>
      ⟨0, Nat.le_refl 0, hl⟩
  | succ n ih =>
    have hlast (t : Tree) : Extends (fun l => ∃ k ≤ n + 1, l = (p.upTo k).resolve here) t
        (t.attempt (t.makeDirectory here (p.upTo (n + 1)))).1 :=
      (t.attempt_makeDirectory_extends here (p.upTo (n + 1))).mono fun l hl =>
        ⟨n + 1, Nat.le_refl _, hl⟩
    have hfirst : Extends (fun l => ∃ k ≤ n + 1, l = (p.upTo k).resolve here) t
        (t.makeDirectories here p n).1 := by
      refine ih.mono ?_
      rintro l ⟨k, hk, hl⟩
      exact ⟨k, by omega, hl⟩
    by_cases hmissing : ∃ q, t.makeDirectory here (p.upTo (n + 1)) = .error ⟨.notFound, q⟩
    · obtain ⟨q, hmissing⟩ := hmissing
      rw [makeDirectories_of_notFound hmissing]
      cases hmade : t.makeDirectories here p n with
      | mk made fault =>
        rw [hmade] at hfirst
        cases fault with
        | none => exact hfirst.trans (hlast made)
        | some e => exact hfirst
    · rw [makeDirectories_of_ne_notFound (not_exists.mp hmissing)]
      exact hlast t

theorem Extends.isFile_eq {places : Location → Prop} {t t' : Tree} (h : Extends places t t')
    (l : Location) : t'.isFile l = t.isFile l := by
  obtain heq | ⟨hnone, hdir, -⟩ := h l
  · simp [isFile, heq]
  · simp [isFile, hnone, hdir]

theorem makeDirectory_eq_of_notFile {t : Tree} {here : Location} {p : Path} {l : Location}
    (hl : t.locate here p = .ok l) (hfile : t.isFile (p.resolve here) = false) :
    ∃ made, t.makeDirectory here p = .ok made := by
  obtain ⟨rfl, -⟩ := locate_eq_ok_iff.mp hl
  unfold makeDirectory
  rw [hl]
  dsimp only
  cases hnode : t.get? (p.resolve here) with
  | none => exact ⟨_, rfl⟩
  | some node =>
    cases node with
    | directory => exact ⟨_, rfl⟩
    | file bytes => simp [isFile, hnode] at hfile

/-- Once directories have been made along a path, all its places are directories. -/
theorem directory_of_makeDirectories {t made : Tree} {here : Location} {p : Path} {n : Nat}
    (hn : n ≤ p.names.length) (h : t.makeDirectories here p n = (made, none)) :
    ∀ k ≤ n, made.get? ((p.upTo k).resolve here) = some .directory := by
  have hlast {u : Tree} (hu : u.makeDirectory here (p.upTo n) = .ok made) :
      ∀ k ≤ n, made.get? ((p.upTo k).resolve here) = some .directory := by
    intro k hk
    obtain rfl | hlt := Nat.eq_or_lt_of_le hk
    · exact directory_of_makeDirectory hu
    · have hway := (locate_eq_ok_iff.mp (makeDirectory_cases hu).1).2 k
        (by rwa [Path.length_names_upTo hn])
      rw [p.upTo_upTo hk] at hway
      exact (extends_of_makeDirectory hu).directory hway
  cases n with
  | zero => exact hlast (attempt_eq_none_iff.mp h)
  | succ n =>
    rw [makeDirectories] at h
    split at h
    · match hfirst : t.makeDirectories here p n with
      | (first, none) =>
        rw [hfirst] at h
        exact hlast (attempt_eq_none_iff.mp h)
      | (first, some e) =>
        rw [hfirst] at h
        cases h
    · exact hlast (attempt_eq_none_iff.mp h)

/-- Directories can be made along a path if no file stands on the way. -/
theorem makeDirectories_eq_none {t : Tree} {here : Location} {p : Path} {n : Nat}
    (hn : n ≤ p.names.length) (hfile : ∀ k ≤ n, t.isFile ((p.upTo k).resolve here) = false) :
    ∃ made, t.makeDirectories here p n = (made, none) := by
  induction n with
  | zero =>
    have hroot : t.locate here (p.upTo 0) = .ok ((p.upTo 0).resolve here) := rfl
    obtain ⟨made, hmade⟩ := makeDirectory_eq_of_notFile hroot (hfile 0 (Nat.le_refl 0))
    exact ⟨made, attempt_eq_none_iff.mpr hmade⟩
  | succ n ih =>
    have hself := hfile (n + 1) (Nat.le_refl _)
    cases hl : t.locate here (p.upTo (n + 1)) with
    | ok l =>
      obtain ⟨made, hmade⟩ := makeDirectory_eq_of_notFile hl hself
      rw [makeDirectories_of_ne_notFound (by simp [hmade]), hmade]
      exact ⟨made, rfl⟩
    | error fault =>
      obtain rfl | ⟨rfl, k, hk, hbad⟩ := locate_eq_error hl
      · -- those above it are made first, which brings no file in the way
        have hmissing : t.makeDirectory here (p.upTo (n + 1)) =
            .error ⟨.notFound, p.upTo (n + 1)⟩ := by rw [makeDirectory, hl]
        obtain ⟨first, hfirst⟩ := ih (by omega) fun k hk => hfile k (by omega)
        have hway : first.locate here (p.upTo (n + 1)) =
            .ok ((p.upTo (n + 1)).resolve here) := by
          refine locate_eq_ok_iff.mpr ⟨rfl, fun k hk => ?_⟩
          rw [Path.length_names_upTo hn] at hk
          rw [p.upTo_upTo (by omega)]
          exact directory_of_makeDirectories (by omega) hfirst k (by omega)
        have hkept : first.isFile ((p.upTo (n + 1)).resolve here) = false := by
          have hext := t.makeDirectories_extends here p n
          rw [hfirst] at hext
          rw [hext.isFile_eq, hself]
        obtain ⟨made, hmade⟩ := makeDirectory_eq_of_notFile hway hkept
        rw [makeDirectories_of_notFound hmissing, hfirst]
        exact ⟨made, attempt_eq_none_iff.mpr hmade⟩
      · rw [Path.length_names_upTo hn] at hk
        rw [p.upTo_upTo (by omega), hfile k (by omega)] at hbad
        cases hbad

/-! ### Writing -/

/-- No file stands on the way to a path's end, and no directory stands there or is made there on the
way. -/
structure Clear (t : Tree) (here : Location) (p : Path) : Prop where
  way : ∀ l, p.OnWay here l → t.isFile l = false
  target : t.get? (p.resolve here) ≠ some .directory
  apart : ¬p.OnWay here (p.resolve here)

/-- A file is written if the way to it is clear. Directories that are missing on the way are made in
any case. -/
theorem writeInto_cases (t : Tree) (here : Location) (p : Path) (bytes : List UInt8) :
    (∃ u e, t.writeInto here p bytes = (u, some e) ∧ ¬t.Clear here p ∧
      Extends (p.OnWay here) t u) ∨
    ∃ u, t.writeInto here p bytes = (u.insert (p.resolve here) (.file bytes), none) ∧
      t.Clear here p ∧ Extends (p.OnWay here) t u := by
  have hn : p.parent.names.length ≤ p.names.length - 1 := by simp [Path.parent]
  have hway {k : Nat} (hk : k ≤ p.parent.names.length) : p.parent.upTo k = p.upTo k := by
    rw [Path.parent_eq_upTo, Path.upTo_upTo _ (by omega)]
  have hext := t.makeDirectories_extends here p.parent p.parent.names.length
  match hmade : t.makeDirectories here p.parent p.parent.names.length with
  | (u, some e) =>
    rw [hmade] at hext
    refine .inl ⟨u, e, by rw [writeInto, hmade]; rfl, fun hclear => ?_,
      hext.mono fun l ⟨k, hk, hl⟩ => ⟨k, hk, by rw [hl, hway hk]⟩⟩
    have hnone := makeDirectories_eq_none (t := t) (Nat.le_refl p.parent.names.length)
      fun k hk => hclear.way _ ⟨k, hk, by rw [hway hk]⟩
    rw [hmade] at hnone
    obtain ⟨made, hmade⟩ := hnone
    cases hmade
  | (u, none) =>
    rw [hmade] at hext
    replace hext : Extends (p.OnWay here) t u :=
      hext.mono fun l ⟨k, hk, hl⟩ => ⟨k, hk, by rw [hl, hway hk]⟩
    have hdirs (l : Location) (hl : p.OnWay here l) : u.get? l = some .directory := by
      obtain ⟨k, hk, rfl⟩ := hl
      rw [← hway hk]
      exact directory_of_makeDirectories (Nat.le_refl _) hmade k hk
    have hlocate : u.locate here p = .ok (p.resolve here) := by
      refine locate_eq_ok_iff.mpr ⟨rfl, fun k hk => hdirs _ ⟨k, ?_, rfl⟩⟩
      simp only [Path.parent, List.length_dropLast]
      omega
    have hwrite : t.writeInto here p bytes = u.attempt (u.write here p bytes) := by
      rw [writeInto, hmade]
      rfl
    rw [write, hlocate] at hwrite
    by_cases hdir : u.get? (p.resolve here) = some .directory
    · refine .inl ⟨u, ⟨.isDirectory, p⟩, ?_, fun hclear => ?_, hext⟩
      · rw [hwrite]
        dsimp only
        rw [if_pos (isDirectory_iff.mpr hdir)]
        rfl
      · obtain heq | ⟨-, -, hon⟩ := hext (p.resolve here)
        · exact hclear.target (heq ▸ hdir)
        · exact hclear.apart hon
    · refine .inr ⟨u, ?_, ⟨fun l hl => ?_, fun h => ?_, fun h => ?_⟩, hext⟩
      · rw [hwrite]
        dsimp only
        rw [if_neg (mt isDirectory_iff.mp hdir)]
        rfl
      · rw [← hext.isFile_eq]
        simp [isFile, hdirs l hl]
      · exact hdir (hext.directory h)
      · exact hdir (hdirs _ h)

/-- What stands anywhere after a file was written, or could not be. -/
theorem get?_writeInto (t : Tree) (here : Location) (p : Path) (bytes : List UInt8)
    (l : Location) :
    (t.writeInto here p bytes).1.get? l = t.get? l ∨
    (l = p.resolve here ∧ t.Clear here p ∧
      (t.writeInto here p bytes).1.get? l = some (.file bytes)) ∨
    t.get? l = none ∧ (t.writeInto here p bytes).1.get? l = some .directory ∧ p.OnWay here l := by
  obtain ⟨u, e, hwrite, -, hext⟩ | ⟨u, hwrite, hclear, hext⟩ := t.writeInto_cases here p bytes
  · rw [hwrite]
    exact (hext l).imp_right .inr
  · have hne : p.resolve here ≠ [] := t.ne_nil_of_get? hclear.target
    rw [hwrite]
    dsimp only
    rw [u.get?_insert hne]
    by_cases hl : l = p.resolve here
    · exact .inr (.inl ⟨hl, hclear, if_pos hl⟩)
    · rw [if_neg hl]
      exact (hext l).imp_right .inr

/-- A file is written if and only if the way to it is clear. -/
theorem writeInto_eq_none_iff {t : Tree} {here : Location} {p : Path} (bytes : List UInt8) :
    (t.writeInto here p bytes).2 = none ↔ t.Clear here p := by
  obtain ⟨u, e, hwrite, hclear, -⟩ | ⟨u, hwrite, hclear, -⟩ := t.writeInto_cases here p bytes
  · rw [hwrite]
    exact iff_of_false (by simp) hclear
  · rw [hwrite]
    exact iff_of_true rfl hclear

theorem get?_writeInto_of_clear {t : Tree} {here : Location} {p : Path} (h : t.Clear here p)
    (bytes : List UInt8) :
    (t.writeInto here p bytes).1.get? (p.resolve here) = some (.file bytes) := by
  obtain ⟨u, e, -, hclear, -⟩ | ⟨u, hwrite, -, -⟩ := t.writeInto_cases here p bytes
  · exact absurd h hclear
  · rw [hwrite]
    dsimp only
    rw [u.get?_insert (t.ne_nil_of_get? h.target), if_pos rfl]

/-- Writing to a path that a file has been read from changes that file only. -/
theorem writeInto_of_read {t : Tree} {here : Location} {p : Path} {bytes : List UInt8}
    (h : t.read here p = .ok bytes) (hp : p.names ≠ []) (new : List UInt8) :
    t.writeInto here p new = (t.insert (p.resolve here) (.file new), none) := by
  obtain ⟨hlocate, hfile⟩ := read_eq_ok_iff.mp h
  have hway := (locate_eq_ok_iff.mp hlocate).2
  have hpos : 0 < p.names.length := List.length_pos_iff.mpr hp
  have hparent : t.makeDirectory here p.parent = .ok t := by
    have hdir := hway (p.names.length - 1) (by omega)
    have hup : t.locate here p.parent = .ok (p.parent.resolve here) := by
      refine locate_eq_ok_iff.mpr ⟨rfl, fun k hk => ?_⟩
      have hk : k < p.names.length - 1 := by simpa [Path.parent] using hk
      rw [Path.parent_eq_upTo, Path.upTo_upTo _ (by omega)]
      exact hway k (by omega)
    rw [← Path.parent_eq_upTo] at hdir
    simp [makeDirectory, hup, hdir]
  have hmake : t.makeDirectories here p.parent p.parent.names.length = (t, none) := by
    have hself := p.parent.upTo_length
    cases hlen : p.parent.names.length with
    | zero =>
      rw [hlen] at hself
      change t.attempt (t.makeDirectory here (p.parent.upTo 0)) = _
      rw [hself, hparent]
      rfl
    | succ n =>
      rw [hlen] at hself
      rw [makeDirectories_of_ne_notFound (by simp [hself, hparent]), hself, hparent]
      rfl
  have hdir : ¬t.isDirectory (p.resolve here) = true := by simp [isDirectory, hfile]
  simp [writeInto, hmake, Attempt.next, write, hlocate, hdir, attempt]

/-! ### What all changes keep -/

section Keeps

variable {P : Tree → Prop}

variable (hinsert : ∀ t l e, P t → P (insert t l e)) {t : Tree} (h : P t)

include hinsert h

end Keeps

end Tree

end LocaleRegistrar.Files
