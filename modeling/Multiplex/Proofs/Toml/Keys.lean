import Mathlib.Data.List.Nodup
import Multiplex.Toml.Document

/-!
# A document has each key once

A table is a list of entries, and a key is looked up from the front; but no key is ever added
to a table that has it.  So in what is read from a text the order of the entries does not
matter: a key has a value exactly if the two are an entry (`Entries.get?_eq_some_iff`).

This is needed of a document and of the tables in it, not further down.  Whatever is done to a
table adds an entry under a new key or replaces the value of a key (`Entries.Amends`), so its
keys stay distinct.  The value is the one that was assigned, or a table that came of one that
was there or of an empty one (`Value.ComesFrom`), so its keys stay distinct too.
-/

namespace Multiplex.Toml

/-! ## Keys and values -/

/-- No key is there twice. -/
def Entries.HasDistinctKeys (entries : Entries) : Prop := (entries.map Prod.fst).Nodup

/-- If the value is a table, then no key is in it twice. -/
def Value.IsKeyed (value : Value) : Prop :=
  ∀ origin (inner : Entries), value = .table origin inner → inner.HasDistinctKeys

/-- No key is there twice, nor in the tables that are there. -/
structure Entries.IsKeyed (entries : Entries) : Prop where
  distinct : entries.HasDistinctKeys
  value : ∀ entry ∈ entries, entry.2.IsKeyed

/-- The entries are changed by an entry that is added or whose value is replaced. -/
inductive Entries.Amends (entries : Entries) (value : Value) : Entries → Prop
  | add {key : String} (hnew : entries.get? key = none) : Amends entries value
      (entries ++ [(key, value)])
  | replace (key : String) : Amends entries value (entries.replace key value)

/-- If the value is a table, then it has distinct keys because an older one has: a table that is
there, or an empty one. -/
def Value.ComesFrom (entries : Entries) (value : Value) : Prop :=
  ∀ origin (inner : Entries), value = .table origin inner → ∃ old : Entries,
    (old = [] ∨ ∃ key origin, entries.get? key = some (.table origin old)) ∧
    (old.HasDistinctKeys → inner.HasDistinctKeys)

namespace Entries

variable {entries changed : Entries} {key : String} {value : Value} {origin : Origin}
  {old inner : Entries} {path : List String} {assignments : List Assignment}

theorem mem_of_get? (hget : entries.get? key = some value) : (key, value) ∈ entries := by
  obtain ⟨front, behind, rfl, -⟩ := List.lookup_eq_some_iff.mp hget
  exact List.mem_append_right front List.mem_cons_self

theorem not_mem_of_get? (hget : entries.get? key = none) : key ∉ entries.map Prod.fst := by
  intro hmem
  obtain ⟨entry, hentry, rfl⟩ := List.mem_map.mp hmem
  simpa using List.lookup_eq_none_iff.mp hget entry hentry

/-- Where keys are distinct, the order of the entries does not matter. -/
theorem get?_eq_some_iff (hdistinct : entries.HasDistinctKeys) :
    entries.get? key = some value ↔ (key, value) ∈ entries := by
  refine ⟨mem_of_get?, fun hmem => ?_⟩
  cases hget : entries.get? key with
  | none => exact absurd (List.mem_map_of_mem hmem) (not_mem_of_get? hget)
  | some found =>
      have hsame := List.inj_on_of_nodup_map hdistinct hmem (mem_of_get? hget) rfl
      rw [(Prod.mk.inj hsame).2]

private theorem map_fst_replace (entries : Entries) (key : String) (value : Value) :
    (entries.replace key value).map Prod.fst = entries.map Prod.fst := by
  rw [replace, List.map_map]
  refine List.map_congr_left fun entry _ => ?_
  by_cases hkey : entry.1 = key <;> simp [hkey]

/-! ## One change -/

theorem HasDistinctKeys.nil : HasDistinctKeys [] := List.nodup_nil

theorem IsKeyed.nil : IsKeyed [] := ⟨.nil, fun _ hmem => absurd hmem List.not_mem_nil⟩

theorem Amends.hasDistinctKeys (hamends : entries.Amends value changed)
    (hdistinct : entries.HasDistinctKeys) : changed.HasDistinctKeys := by
  cases hamends with
  | add hnew =>
      rw [HasDistinctKeys, List.map_append, List.map_singleton, ← List.concat_eq_append]
      exact List.Nodup.concat (not_mem_of_get? hnew) hdistinct
  | replace key => rwa [HasDistinctKeys, map_fst_replace]

private theorem Amends.mem {entry : String × Value} (hamends : entries.Amends value changed)
    (hmem : entry ∈ changed) : entry.2 = value ∨ entry ∈ entries := by
  cases hamends with
  | add hnew =>
      rcases List.mem_append.mp hmem with hold | hadded
      · exact .inr hold
      · exact .inl (by rw [List.mem_singleton.mp hadded])
  | replace key =>
      obtain ⟨old, hold, rfl⟩ := List.mem_map.mp hmem
      split
      · exact .inl rfl
      · exact .inr hold

theorem Amends.isKeyed (hamends : entries.Amends value changed) (hkeyed : entries.IsKeyed)
    (hvalue : value.IsKeyed) : changed.IsKeyed where
  distinct := hamends.hasDistinctKeys hkeyed.distinct
  value := by
    intro entry hmem
    rcases hamends.mem hmem with hnew | hold
    · rwa [hnew]
    · exact hkeyed.value entry hold

end Entries

namespace Value

variable {entries old inner : Entries} {value : Value} {key : String} {origin : Origin}

theorem ComesFrom.isKeyed (hfrom : value.ComesFrom entries) (hkeyed : entries.IsKeyed) :
    value.IsKeyed := by
  intro origin inner htable
  obtain ⟨old, hold, hdistinct⟩ := hfrom origin inner htable
  refine hdistinct ?_
  rcases hold with rfl | ⟨key, origin, hget⟩
  · exact .nil
  · exact hkeyed.value _ (Entries.mem_of_get? hget) origin old rfl

theorem comesFrom_nil (hdistinct : inner.HasDistinctKeys) :
    (Value.table origin inner).ComesFrom entries := by
  rintro _ _ ⟨⟩
  exact ⟨[], .inl rfl, fun _ => hdistinct⟩

theorem comesFrom_get? {older : Origin} (hget : entries.get? key = some (.table older old))
    (hdistinct : old.HasDistinctKeys → inner.HasDistinctKeys) :
    (Value.table origin inner).ComesFrom entries := by
  rintro _ _ ⟨⟩
  exact ⟨old, .inr ⟨key, older, hget⟩, hdistinct⟩

theorem comesFrom_tables (elements : List Entries) :
    (Value.tables elements).ComesFrom entries := nofun

end Value

namespace Entries

variable {entries changed : Entries} {key : String} {value : Value} {path : List String}
  {assignments : List Assignment} {repeats : Bool}

/-! ## Assignments and headers -/

/-- The induction is on the dotted key: the table that its first part names has one part less to
go. -/
theorem amends_of_assign (hassigned : entries.assign key value path = some changed) :
    ∃ new, entries.Amends new changed ∧ (new = value ∨ new.ComesFrom entries) := by
  induction path generalizing entries changed with
  | nil =>
      rw [assign] at hassigned
      split at hassigned
      next hnew =>
        obtain rfl := Option.some.inj hassigned
        exact ⟨value, .add hnew, .inl rfl⟩
      next => cases hassigned
  | cons part path ih =>
      have hdistinct : ∀ {before after : Entries}, before.assign key value path = some after →
          before.HasDistinctKeys → after.HasDistinctKeys := fun hinner => by
        obtain ⟨new, hamends, -⟩ := ih hinner
        exact hamends.hasDistinctKeys
      rw [assign] at hassigned
      split at hassigned
      next hnew =>
        obtain ⟨inner, hinner, rfl⟩ := Option.map_eq_some_iff.mp hassigned
        exact ⟨_, .add hnew, .inr (Value.comesFrom_nil (hdistinct hinner .nil))⟩
      next hold =>
        obtain ⟨inner, hinner, rfl⟩ := Option.map_eq_some_iff.mp hassigned
        exact ⟨_, .replace part, .inr (Value.comesFrom_get? hold (hdistinct hinner))⟩
      next hold =>
        split at hassigned
        next => cases hassigned
        next =>
          obtain ⟨inner, hinner, rfl⟩ := Option.map_eq_some_iff.mp hassigned
          exact ⟨_, .replace part, .inr (Value.comesFrom_get? hold (hdistinct hinner))⟩
      next =>
        split at hassigned
        next => cases hassigned
        next =>
          obtain ⟨elements, -, rfl⟩ := Option.map_eq_some_iff.mp hassigned
          exact ⟨_, .replace part, .inr (Value.comesFrom_tables elements)⟩
      next => cases hassigned

theorem HasDistinctKeys.assignAll (hdistinct : entries.HasDistinctKeys)
    (hassigned : entries.assignAll assignments = some changed) : changed.HasDistinctKeys := by
  induction assignments generalizing entries with
  | nil =>
      obtain rfl := Option.some.inj hassigned
      exact hdistinct
  | cons assignment assignments ih =>
      rw [Entries.assignAll, List.foldlM_cons] at hassigned
      obtain ⟨between, hfirst, hrest⟩ := Option.bind_eq_some_iff.mp hassigned
      obtain ⟨new, hamends, -⟩ := amends_of_assign hfirst
      exact ih (hamends.hasDistinctKeys hdistinct) hrest

theorem IsKeyed.assignAll (hkeyed : entries.IsKeyed)
    (hvalues : ∀ assignment ∈ assignments, assignment.value.IsKeyed)
    (hassigned : entries.assignAll assignments = some changed) : changed.IsKeyed := by
  induction assignments generalizing entries with
  | nil =>
      obtain rfl := Option.some.inj hassigned
      exact hkeyed
  | cons assignment assignments ih =>
      rw [Entries.assignAll, List.foldlM_cons] at hassigned
      obtain ⟨between, hfirst, hrest⟩ := Option.bind_eq_some_iff.mp hassigned
      obtain ⟨hvalue, hothers⟩ := List.forall_mem_cons.mp hvalues
      obtain ⟨new, hamends, hnew⟩ := amends_of_assign hfirst
      refine ih (hamends.isKeyed hkeyed ?_) hothers hrest
      rcases hnew with rfl | hfrom
      · exact hvalue
      · exact hfrom.isKeyed hkeyed

private theorem amends_of_addHeader
    (hadded : (if repeats then entries.addRepeated key assignments
      else entries.addTable key assignments) = some changed) :
    ∃ new, entries.Amends new changed ∧ new.ComesFrom entries := by
  cases repeats with
  | true =>
      rw [if_pos rfl, addRepeated.eq_def] at hadded
      split at hadded
      next hnew =>
        obtain ⟨inner, -, rfl⟩ := Option.map_eq_some_iff.mp hadded
        exact ⟨_, .add hnew, Value.comesFrom_tables [inner]⟩
      next elements hold =>
        obtain ⟨inner, -, rfl⟩ := Option.map_eq_some_iff.mp hadded
        exact ⟨_, .replace key, Value.comesFrom_tables (elements ++ [inner])⟩
      next => cases hadded
  | false =>
      rw [if_neg Bool.false_ne_true, addTable.eq_def] at hadded
      split at hadded
      next hnew =>
        obtain ⟨inner, hinner, rfl⟩ := Option.map_eq_some_iff.mp hadded
        exact ⟨_, .add hnew, Value.comesFrom_nil (HasDistinctKeys.nil.assignAll hinner)⟩
      next hold =>
        obtain ⟨inner, hinner, rfl⟩ := Option.map_eq_some_iff.mp hadded
        exact ⟨_, .replace key, Value.comesFrom_get? hold fun hdistinct =>
          hdistinct.assignAll hinner⟩
      next => cases hadded

/-- A header changes the document at the first name of its path, and there it changes a table
in which it is written or through which the path goes on. -/
private theorem amends_of_within {change : Entries → Option Entries}
    (hchange : ∀ {before after : Entries}, change before = some after →
      ∃ new, before.Amends new after ∧ new.ComesFrom before)
    (hchanged : entries.within change path = some changed) :
    ∃ new, entries.Amends new changed ∧ new.ComesFrom entries := by
  induction path generalizing entries changed with
  | nil => exact hchange hchanged
  | cons part path ih =>
      have hdistinct : ∀ {before after : Entries}, before.within change path = some after →
          before.HasDistinctKeys → after.HasDistinctKeys := fun hinner => by
        obtain ⟨new, hamends, -⟩ := ih hinner
        exact hamends.hasDistinctKeys
      rw [within] at hchanged
      split at hchanged
      next hnew =>
        obtain ⟨inner, hinner, rfl⟩ := Option.map_eq_some_iff.mp hchanged
        exact ⟨_, .add hnew, Value.comesFrom_nil (hdistinct hinner .nil)⟩
      next => cases hchanged
      next hold =>
        obtain ⟨inner, hinner, rfl⟩ := Option.map_eq_some_iff.mp hchanged
        exact ⟨_, .replace part, Value.comesFrom_get? hold (hdistinct hinner)⟩
      next =>
        obtain ⟨elements, -, rfl⟩ := Option.map_eq_some_iff.mp hchanged
        exact ⟨_, .replace part, Value.comesFrom_tables elements⟩
      next => cases hchanged

/-- A section adds nothing to a document but what its header does. -/
theorem IsKeyed.foldlM_addSection {sections : List Section} (hkeyed : entries.IsKeyed)
    (hadded : sections.foldlM addSection entries = some changed) : changed.IsKeyed := by
  induction sections generalizing entries with
  | nil =>
      obtain rfl := Option.some.inj hadded
      exact hkeyed
  | cons part sections ih =>
      rw [List.foldlM_cons] at hadded
      obtain ⟨between, hfirst, hrest⟩ := Option.bind_eq_some_iff.mp hadded
      obtain ⟨new, hamends, hfrom⟩ := amends_of_within amends_of_addHeader hfirst
      exact ih (hamends.isKeyed hkeyed (hfrom.isKeyed hkeyed)) hrest

end Entries

/-! ## What is read from a text -/

section Reading

variable {cs rest : List Char} {value : Value}

private theorem isKeyed_of_timeBehindDate? {date : List Char}
    (hread : timeBehindDate? date cs = some (value, rest)) : value.IsKeyed := by
  unfold timeBehindDate? at hread
  split at hread
  · dsimp only at hread
    split at hread
    · cases hread
      exact nofun
    · cases hread
  · cases hread

private theorem isKeyed_of_scalarOf? {run : List Char} (hread : scalarOf? run = some value) :
    value.IsKeyed := by
  unfold scalarOf? at hread
  split at hread
  · cases hread
    exact nofun
  · split at hread
    · cases hread
      exact nofun
    · split at hread
      · cases hread
        exact nofun
      · split at hread
        · cases hread
          exact nofun
        · split at hread
          · cases hread
            exact nofun
          · cases hread

theorem isKeyed_of_scalar? (hread : scalar? cs = some (value, rest)) : value.IsKeyed := by
  unfold scalar? at hread
  split at hread
  · obtain ⟨-, -, ⟨⟩⟩ := Option.map_eq_some_iff.mp hread
    exact nofun
  · obtain ⟨-, -, ⟨⟩⟩ := Option.map_eq_some_iff.mp hread
    exact nofun
  · dsimp only at hread
    rw [Option.orElse_eq_orElse, Option.orElse_eq_or, Option.or_eq_some_iff] at hread
    rcases hread with hdate | ⟨-, hrun⟩
    · exact isKeyed_of_timeBehindDate? hdate
    · obtain ⟨found, hfound, ⟨⟩⟩ := Option.map_eq_some_iff.mp hrun
      exact isKeyed_of_scalarOf? hfound

private theorem isKeyed_of_inlineTable? {item : Reader Value}
    (hread : inlineTable? item cs = some (value, rest)) : value.IsKeyed := by
  unfold inlineTable? at hread
  split at hread
  · cases hread
    rintro _ _ ⟨⟩
    exact .nil
  · split at hread
    · cases hread
    · obtain ⟨entries, hentries, ⟨⟩⟩ := Option.map_eq_some_iff.mp hread
      rintro _ _ ⟨⟩
      exact Entries.HasDistinctKeys.nil.assignAll hentries

private theorem isKeyed_of_value? {limit : Nat} (hread : value? limit cs = some (value, rest)) :
    value.IsKeyed := by
  cases limit with
  | zero => exact isKeyed_of_scalar? hread
  | succ limit =>
      rw [value?.eq_def] at hread
      dsimp only at hread
      split at hread
      · obtain ⟨-, -, ⟨⟩⟩ := Option.map_eq_some_iff.mp hread
        exact nofun
      · exact isKeyed_of_inlineTable? hread
      · exact isKeyed_of_scalar? hread

private theorem isKeyed_of_assignment? {limit : Nat} {assignment : Assignment}
    (hread : assignment? (value? limit) cs = some (assignment, rest)) :
    assignment.value.IsKeyed := by
  unfold assignment? at hread
  split at hread
  · cases hread
  · split at hread
    · obtain ⟨found, hfound, ⟨⟩⟩ := Option.map_eq_some_iff.mp hread
      exact isKeyed_of_value? hfound
    · cases hread

private theorem isKeyed_of_content? {assignment : Assignment}
    (hread : content? cs = some (.assignment assignment, rest)) : assignment.value.IsKeyed := by
  unfold content? at hread
  split at hread
  · cases hread
  · cases hread
  · cases hread
  · obtain ⟨-, -, ⟨⟩⟩ := Option.map_eq_some_iff.mp hread
  · obtain ⟨-, -, ⟨⟩⟩ := Option.map_eq_some_iff.mp hread
  · obtain ⟨found, hfound, ⟨⟩⟩ := Option.map_eq_some_iff.mp hread
    exact isKeyed_of_assignment? hfound

private theorem isKeyed_of_lines? {bound : Nat} {lines : List Line} {assignment : Assignment}
    (hread : lines? bound cs = some lines) (hmem : .assignment assignment ∈ lines) :
    assignment.value.IsKeyed := by
  induction bound generalizing cs lines with
  | zero => cases hread
  | succ bound ih =>
      rw [lines?] at hread
      split at hread
      · cases hread
        cases hmem
      · split at hread
        · cases hread
        next line behind hline =>
          split at hread
          · cases hread
          · obtain ⟨others, hothers, rfl⟩ := Option.map_eq_some_iff.mp hread
            rcases List.mem_cons.mp hmem with rfl | hlater
            · exact isKeyed_of_content? hline
            · exact ih hothers hlater

private theorem mem_of_gather {lines : List Line} {assignment : Assignment}
    (hmem : assignment ∈ (gather lines).1) : .assignment assignment ∈ lines := by
  induction lines with
  | nil => cases hmem
  | cons line lines ih =>
      cases line with
      | blank => exact List.mem_cons_of_mem _ (ih hmem)
      | header header => cases hmem
      | assignment first =>
          rcases List.mem_cons.mp hmem with rfl | hlater
          · exact List.mem_cons_self
          · exact List.mem_cons_of_mem _ (ih hlater)

/-- A document that was read has each key once, and so have the tables in it. -/
theorem isKeyed_of_parse {text : String} {document : Entries}
    (hparse : parse text = some document) : document.IsKeyed := by
  unfold parse at hparse
  dsimp only at hparse
  split at hparse
  · cases hparse
  next lines hlines =>
    obtain ⟨entries, hfirst, hsections⟩ := Option.bind_eq_some_iff.mp hparse
    refine Entries.IsKeyed.foldlM_addSection ?_ hsections
    exact Entries.IsKeyed.nil.assignAll
      (fun assignment hmem => isKeyed_of_lines? hlines (mem_of_gather hmem)) hfirst

end Reading

end Multiplex.Toml
