import LocaleRegistrar.Proofs.Layout.Nesting
import LocaleRegistrar.Proofs.Spelling.Joining

/-!
Which lines can be read and joined to statements. It depends on the tokens of the lines and on how
they are nested, and on nothing else.
-/

namespace LocaleRegistrar.Python.Grammar

/-- What matters of a reading when the lines of a block are joined. -/
inductive Reading.Kind
  | simple
  | decorator
  | clause (role : Role)

def Reading.kind : Reading → Reading.Kind
  | .simple _ => .simple
  | .decorator _ => .decorator
  | .clause _ header _ => .clause header.role

/-- Can a decorator be put before the statement? -/
def decorable : Statement → Bool
  | .compound kind _ decorators clauses =>
    (kind = .functionDef || kind = .classDef) &&
      match decorators, clauses with
      | [], .plain .. :: _ => true
      | [], _ => false
      | _ :: _, _ => true
  | .simple _ => false

theorem decorate_isSome_iff {d : Decorator} {s : Statement} :
    (decorate d s).isSome = decorable s := by
  cases s with
  | simple line => rfl
  | compound kind leading decorators clauses =>
    simp only [decorate, decorable]
    by_cases hkind : (kind = .functionDef || kind = .classDef) = true
    · rw [if_pos hkind, hkind, Bool.true_and]
      cases decorators with
      | cons => rfl
      | nil =>
        cases clauses with
        | nil => rfl
        | cons clause rest => cases clause <;> rfl
    · rw [if_neg hkind]
      simp [hkind]

theorem decorable_of_decorate {d : Decorator} {s t : Statement} (h : decorate d s = some t) :
    decorable t = true := by
  unfold decorate at h
  split at h
  · split at h
    · next hkind =>
      dsimp only at h
      split at h
      · cases h
        simpa [decorable] using hkind
      · cases h
        simpa [decorable] using hkind
      · cases h
    · cases h
  · cases h

/-- The same lines can be added in front of both. -/
structure Joined.Alike (j k : Joined) : Prop where
  pending : j.pending.map (·.1) = k.pending.map (·.1)
  done : j.done.map decorable = k.done.map decorable

theorem Joined.Alike.add {j k j' : Joined} {r r' : Reading} (h : j.Alike k)
    (hkind : r.kind = r'.kind) (hadd : j.add r = some j') :
    ∃ k', k.add r' = some k' ∧ j'.Alike k' := by
  have hnil (hj : j.pending = []) : k.pending = [] := by
    have hmap := h.pending
    rw [hj] at hmap
    exact List.map_eq_nil_iff.mp hmap.symm
  cases Joined.add_eq_some_iff.mp hadd with
  | simple line hnone =>
    cases r' with
    | simple line' =>
      exact ⟨_, Joined.add_eq_some_iff.mpr (.simple line' (hnil hnone)), rfl, by
        simp [h.done, decorable]⟩
    | decorator | clause => cases hkind
  | decorator d s t rest hnone hdone ht =>
    cases r' with
    | decorator d' =>
      have hmap := h.done
      rw [hdone, List.map_cons] at hmap
      obtain ⟨s', rest', hk, hs, hrest⟩ := List.map_eq_cons_iff.mp hmap.symm
      have hsome : (decorate d' s').isSome := by
        rw [decorate_isSome_iff, hs, ← decorate_isSome_iff (d := d), ht]
        rfl
      obtain ⟨t', ht'⟩ := Option.isSome_iff_exists.mp hsome
      refine ⟨_, Joined.add_eq_some_iff.mpr (.decorator d' s' t' rest' (hnil hnone) hk ht'), rfl, ?_⟩
      simp [decorable_of_decorate ht, decorable_of_decorate ht', hrest]
    | simple | clause => cases hkind
  | continued leading header suite hrole =>
    cases r' with
    | clause leading' header' suite' =>
      have hroles : header.role = header'.role := Reading.Kind.clause.inj hkind
      refine ⟨_, Joined.add_eq_some_iff.mpr (.continued leading' header' suite' (hroles ▸ hrole)),
        ?_, h.done⟩
      simp [hroles, h.pending]
    | simple | decorator => cases hkind
  | alternative leading header suite hrole hcompletes =>
    cases r' with
    | clause leading' header' suite' =>
      have hroles : header.role = header'.role := Reading.Kind.clause.inj hkind
      exact ⟨_, Joined.add_eq_some_iff.mpr (.alternative leading' header' suite' (hroles ▸ hrole)
        (h.pending ▸ hcompletes)), rfl, h.done⟩
    | simple | decorator => cases hkind
  | compound leading header suite hcontinues hrole hcompletes =>
    cases r' with
    | clause leading' header' suite' =>
      have hroles : header.role = header'.role := Reading.Kind.clause.inj hkind
      rw [hroles] at hcontinues hrole hcompletes
      refine ⟨_, Joined.add_eq_some_iff.mpr (.compound leading' header' suite' hcontinues hrole
        (h.pending ▸ hcompletes)), rfl, ?_⟩
      simp [h.done, decorable, hroles]
    | simple | decorator => cases hkind

theorem joinLines_alike {readings readings' : List Reading} {j : Joined}
    (hkinds : readings.map (·.kind) = readings'.map (·.kind)) (h : joinLines readings = some j) :
    ∃ k, joinLines readings' = some k ∧ j.Alike k := by
  induction readings generalizing readings' j with
  | nil =>
    obtain rfl : readings' = [] := by simpa using hkinds.symm
    cases h
    exact ⟨_, rfl, rfl, rfl⟩
  | cons r rest ih =>
    obtain ⟨r', rest', rfl, hr, hrest⟩ := List.map_eq_cons_iff.mp hkinds.symm
    obtain ⟨i, hi, hadd⟩ := Option.bind_eq_some_iff.mp h
    obtain ⟨i', hi', halike⟩ := ih hrest.symm hi
    obtain ⟨k, hk, hjk⟩ := halike.add hr.symm hadd
    exact ⟨k, Option.bind_eq_some_iff.mpr ⟨i', hi', hk⟩, hjk⟩

theorem statements_alike {readings readings' : List Reading} {body : List Statement}
    (hkinds : readings.map (·.kind) = readings'.map (·.kind))
    (h : statements readings = some body) : ∃ body', statements readings' = some body' := by
  obtain ⟨⟨pending, done⟩, hk, halike⟩ := joinLines_alike hkinds (statements_eq_some_iff.mp h)
  obtain rfl : pending = [] := List.map_eq_nil_iff.mp halike.pending.symm
  exact ⟨done, statements_eq_some_iff.mpr hk⟩

/-! ### Reading lines -/

/-- The kind of a reading is that of its content. -/
def Content.kind : Content → Reading.Kind
  | .smalls _ => .simple
  | .decorator _ => .decorator
  | .clause header _ _ => .clause header.role

@[simp] theorem Content.kind_reading (usual : String) (leading : List BlankLine) (tail : Tail)
    (content : Content) : (content.reading usual leading tail).kind = content.kind := by
  cases content <;> rfl

theorem tokens_of_erase_eq {line line' : LogicalLine} (h : line.erase = line'.erase) :
    line.tokens = line'.tokens :=
  (LogicalLine.mk.inj h).2.1

mutual

/-- An item is read as any other with the same lines in the same blocks is. -/
theorem readItem_alike (u u' : Usual) (choices : Bool) :
    (item item' : Item) → (r : Reading) → item.erase = item'.erase →
      readItem u choices item = some r → ∃ r', readItem u' choices item' = some r' ∧ r.kind = r'.kind
  | .plain line, .plain line', r, herase, h => by
    have htokens := tokens_of_erase_eq (Item.plain.inj herase)
    obtain ⟨content, hcontent, h⟩ := Option.bind_eq_some_iff.mp h
    cases h
    refine ⟨_, Option.bind_eq_some_iff.mpr ⟨content, htokens ▸ hcontent, rfl⟩, ?_⟩
    rw [Content.kind_reading, Content.kind_reading]
  | .headed line indent items footer, .headed line' indent' items' footer', r, herase, h => by
    obtain ⟨hline, -, hitems, -⟩ := Item.headed.inj herase
    have htokens := tokens_of_erase_eq hline
    rw [Item.eraseAll_eq, Item.eraseAll_eq] at hitems
    obtain ⟨header, hheader, h⟩ := Option.bind_eq_some_iff.mp h
    obtain ⟨readings, hreadings, h⟩ := Option.bind_eq_some_iff.mp h
    obtain ⟨body, hbody, h⟩ := Option.bind_eq_some_iff.mp h
    cases h
    obtain ⟨readings', hreadings', hkinds⟩ :=
      readItems_alike u u' _ items items' readings hitems hreadings
    obtain ⟨body', hbody'⟩ := statements_alike hkinds hbody
    exact ⟨_, Option.bind_eq_some_iff.mpr ⟨header, htokens ▸ hheader,
      Option.bind_eq_some_iff.mpr ⟨readings', hreadings',
        Option.bind_eq_some_iff.mpr ⟨body', hbody', rfl⟩⟩⟩, rfl⟩
  | .plain _, .headed .., r, herase, h => by cases herase
  | .headed .., .plain _, r, herase, h => by cases herase

theorem readItems_alike (u u' : Usual) (choices : Bool) :
    (items items' : List Item) → (readings : List Reading) →
      items.map (·.erase) = items'.map (·.erase) → readItems u choices items = some readings →
      ∃ readings', readItems u' choices items' = some readings' ∧
        readings.map (·.kind) = readings'.map (·.kind)
  | [], [], readings, herase, h => ⟨[], rfl, by cases h; rfl⟩
  | item :: rest, item' :: rest', readings, herase, h => by
    obtain ⟨hitem, hrest⟩ := List.cons.inj herase
    obtain ⟨r, hr, h⟩ := Option.bind_eq_some_iff.mp h
    obtain ⟨others, hothers, h⟩ := Option.bind_eq_some_iff.mp h
    cases h
    obtain ⟨r', hr', hkind⟩ := readItem_alike u u' choices item item' r hitem hr
    obtain ⟨others', hothers', hkinds⟩ :=
      readItems_alike u u' choices rest rest' others hrest hothers
    refine ⟨r' :: others', Option.bind_eq_some_iff.mpr ⟨r', hr',
      Option.bind_eq_some_iff.mpr ⟨others', hothers', rfl⟩⟩, ?_⟩
    rw [List.map_cons, List.map_cons, hkind, hkinds]
  | [], _ :: _, readings, herase, h => by cases herase
  | _ :: _, [], readings, herase, h => by cases herase

end

end LocaleRegistrar.Python.Grammar
