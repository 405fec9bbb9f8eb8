import Multiplex.Proofs.Settings.RoundTrip
import Multiplex.Proofs.Toml.Keys

/-!
# Only the known settings count, each on its own

A document may give six settings (`Setting`), two in the table of the pool and four in the table
of the stress run.  If each that is given is a number in its range, then the settings are these
numbers, and the defaults for the others (`Settings.given`); if one is not, then the document is
refused, and no default takes its place (`Settings.ofToml?_eq_some_iff`).

So the result depends only on which values are given (`Setting.IsGiven`).  Documents that differ
in the order of their entries, in entries under other names, and in how their tables are written
(`Settings.Restates`) give the same values.  For the order this needs that a document has each
key once.
-/

namespace Multiplex

/-! ## The settings of a document -/

/-- A setting that a document may give. -/
inductive Setting
  | connections
  | streams
  | exchanges
  | timeout
  | closeAfter
  | delay
  deriving DecidableEq, Repr, Inhabited

namespace Setting

/-- The table that the setting stands in. -/
def table : Setting → String
  | .connections | .streams => Settings.poolKey
  | .exchanges | .timeout | .closeAfter | .delay => Settings.stressKey

/-- The key of the setting in its table. -/
def key : Setting → String
  | .connections => PoolSettings.connectionsKey
  | .streams => PoolSettings.streamsKey
  | .exchanges => StressSettings.exchangesKey
  | .timeout => StressSettings.timeoutKey
  | .closeAfter => StressSettings.closeAfterKey
  | .delay => StressSettings.delayKey

/-- The first number that is too large for the setting. -/
def bound : Setting → Nat
  | .streams => Word.bound32
  | _ => Word.bound63

/-- The document gives a value for the setting: in its table, under its key. -/
def IsGiven (setting : Setting) (document : Toml.Entries) (value : Toml.Value) : Prop :=
  ∃ origin entries, (setting.table, .table origin entries) ∈ document ∧
    (setting.key, value) ∈ entries

/-- If the document gives a value for the setting, it is a number in range. -/
def Fits (setting : Setting) (document : Toml.Entries) : Prop :=
  ∀ value, setting.IsGiven document value →
    ∃ number : Nat, number < setting.bound ∧ value = .integer number

end Setting

/-- The entries of a table of a document; there are none if it is not there. -/
def Toml.Entries.inner (document : Entries) (name : String) : Entries :=
  match document.get? name with
  | some (.table _ entries) => entries
  | _ => []

/-- The number that the document gives for the setting, if it is in range. -/
def Setting.number? (setting : Setting) (document : Toml.Entries) : Option Nat :=
  ((document.inner setting.table).get? setting.key).bind (Toml.Value.natural? setting.bound)

namespace Settings

/-- The pool and the stress run are given as tables or not at all. -/
def HasTables (document : Toml.Entries) : Prop :=
  ∀ setting : Setting, ∀ value, (setting.table, value) ∈ document →
    ∃ origin entries, value = .table origin entries

/-- Every setting that is given is a number in its range. -/
def Fits (document : Toml.Entries) : Prop := ∀ setting : Setting, setting.Fits document

/-- The settings with the numbers that a document gives, and the defaults for the others. -/
def given (document : Toml.Entries) : Settings where
  pool := {
    maxConnections := (Setting.connections.number? document).getD 4
    maxStreams := (Setting.streams.number? document).getD 100 }
  stress := {
    exchanges := (Setting.exchanges.number? document).getD 1000
    responseTimeout := .ofSeconds ((Setting.timeout.number? document).getD 10)
    closeAfter := Setting.closeAfter.number? document
    responseDelay := .ofMilliseconds ((Setting.delay.number? document).getD 1) }

end Settings

/-! ## Reading one value -/

namespace Toml

theorem Value.natural?_eq_some_iff {value : Value} {bound number : Nat} :
    value.natural? bound = some number ↔ number < bound ∧ value = .integer number := by
  cases value with
  | integer found =>
      simp only [natural?, Option.ite_none_right_eq_some, Option.some.injEq, integer.injEq]
      omega
  | _ => simp [natural?]

private theorem Entries.read_eq_some_iff {α : Type} (entries : Entries) (key : String) (bound : Nat)
    (unit : Nat → α) (default result : α) :
    entries.read key (fun value => (value.natural? bound).map unit) default = some result ↔
      (∀ value, entries.get? key = some value →
        ∃ number : Nat, number < bound ∧ value = .integer number) ∧
      result = (((entries.get? key).bind (Value.natural? bound)).map unit).getD default := by
  unfold Entries.read
  cases entries.get? key with
  | none => simp [eq_comm]
  | some value =>
      simp only [Option.map_eq_some_iff, Value.natural?_eq_some_iff, Option.some.injEq,
        Option.bind_some]
      constructor
      · rintro ⟨number, ⟨hnumber, rfl⟩, rfl⟩
        have hread := Value.natural?_eq_some_iff.mpr ⟨hnumber, rfl⟩
        refine ⟨?_, by rw [hread]; rfl⟩
        rintro _ rfl
        exact ⟨number, hnumber, rfl⟩
      · rintro ⟨hvalues, rfl⟩
        obtain ⟨number, hnumber, rfl⟩ := hvalues value rfl
        have hread := Value.natural?_eq_some_iff.mpr ⟨hnumber, rfl⟩
        exact ⟨number, ⟨hnumber, rfl⟩, by rw [hread]; rfl⟩

end Toml

/-! ## What a document gives -/

section Giving

variable {document other : Toml.Entries}

/-- Where keys are distinct, a setting is given if it is found by its names. -/
theorem Setting.isGiven_iff (hkeyed : document.IsKeyed) (setting : Setting) (value : Toml.Value) :
    setting.IsGiven document value ↔
      (document.inner setting.table).get? setting.key = some value := by
  constructor
  · rintro ⟨origin, entries, htable, hvalue⟩
    have hdistinct : Toml.Entries.HasDistinctKeys entries :=
      hkeyed.value _ htable origin entries rfl
    have hget := (Toml.Entries.get?_eq_some_iff hkeyed.distinct).mpr htable
    rw [Toml.Entries.inner, hget]
    exact (Toml.Entries.get?_eq_some_iff hdistinct).mpr hvalue
  · intro hget
    unfold Toml.Entries.inner at hget
    split at hget
    next origin entries htable =>
      exact ⟨origin, entries, Toml.Entries.mem_of_get? htable, Toml.Entries.mem_of_get? hget⟩
    next => cases hget

theorem Toml.Entries.read_table {α : Type} {read : Toml.Value → Option α} {default : α}
    {name : String} (htable : ∀ value, document.get? name = some value →
      ∃ origin entries, value = .table origin entries)
    (horigin : ∀ origin entries, read (.table origin entries) = read (.table .header entries))
    (hempty : read (.table .header []) = some default) :
    document.read name read default = read (.table .header (document.inner name)) := by
  unfold Toml.Entries.read Toml.Entries.inner
  cases hget : document.get? name with
  | none => exact hempty.symm
  | some value =>
      obtain ⟨origin, entries, rfl⟩ := htable value hget
      exact horigin origin entries

/-- A setting that is counted in a unit is read if it fits, and then its number or the default
is what is read. -/
theorem Setting.read_unit_iff {α : Type} (hkeyed : document.IsKeyed) (setting : Setting)
    (unit : Nat → α) (default result : α) :
    (document.inner setting.table).read setting.key
        (fun value => (value.natural? setting.bound).map unit) default = some result ↔
      setting.Fits document ∧ result = ((setting.number? document).map unit).getD default := by
  rw [Toml.Entries.read_eq_some_iff]
  simp only [Setting.Fits, setting.isGiven_iff hkeyed]
  rfl

theorem Setting.read_iff (hkeyed : document.IsKeyed) (setting : Setting) (default result : Nat) :
    (document.inner setting.table).read setting.key (Toml.Value.natural? setting.bound) default =
        some result ↔
      setting.Fits document ∧ result = (setting.number? document).getD default := by
  have hread := setting.read_unit_iff hkeyed id default result
  simpa only [Option.map_id_fun, id] using hread

theorem PoolSettings.ofToml?_inner (hkeyed : document.IsKeyed) (pool : PoolSettings) :
    ofToml? (.table .header (document.inner Settings.poolKey)) = some pool ↔
      (Setting.connections.Fits document ∧ Setting.streams.Fits document) ∧
        pool = (Settings.given document).pool := by
  have hconnections := Setting.connections.read_iff hkeyed 4
  have hstreams := Setting.streams.read_iff hkeyed 100
  simp only [ofToml?, Option.bind_eq_bind, Option.bind_eq_some_iff, Option.pure_def,
    Option.some.injEq]
  constructor
  · rintro ⟨_, ⟨⟩, connections, hfirst, streams, hsecond, rfl⟩
    obtain ⟨hfits₁, rfl⟩ := (hconnections _).mp hfirst
    obtain ⟨hfits₂, rfl⟩ := (hstreams _).mp hsecond
    exact ⟨⟨hfits₁, hfits₂⟩, rfl⟩
  · rintro ⟨⟨hfits₁, hfits₂⟩, rfl⟩
    exact ⟨_, rfl, _, (hconnections _).mpr ⟨hfits₁, rfl⟩, _, (hstreams _).mpr ⟨hfits₂, rfl⟩, rfl⟩

theorem StressSettings.ofToml?_inner (hkeyed : document.IsKeyed) (stress : StressSettings) :
    ofToml? (.table .header (document.inner Settings.stressKey)) = some stress ↔
      (Setting.exchanges.Fits document ∧ Setting.timeout.Fits document ∧
        Setting.closeAfter.Fits document ∧ Setting.delay.Fits document) ∧
        stress = (Settings.given document).stress := by
  have hexchanges := Setting.exchanges.read_iff hkeyed 1000
  have htimeout := Setting.timeout.read_unit_iff hkeyed Duration.ofSeconds (.ofSeconds 10)
  have hclose := Setting.closeAfter.read_unit_iff hkeyed some none
  have hdelay := Setting.delay.read_unit_iff hkeyed Duration.ofMilliseconds (.ofMilliseconds 1)
  have hsome : ((Setting.closeAfter.number? document).map some).getD none =
      Setting.closeAfter.number? document := by
    cases Setting.closeAfter.number? document <;> rfl
  simp only [Option.getD_map] at htimeout hdelay
  simp only [hsome] at hclose
  simp only [ofToml?, Option.bind_eq_bind, Option.bind_eq_some_iff, Option.pure_def,
    Option.some.injEq]
  constructor
  · rintro ⟨_, ⟨⟩, exchanges, hfirst, timeout, hsecond, closeAfter, hthird, delay, hfourth, rfl⟩
    obtain ⟨hfits₁, rfl⟩ := (hexchanges _).mp hfirst
    obtain ⟨hfits₂, rfl⟩ := (htimeout _).mp hsecond
    obtain ⟨hfits₃, rfl⟩ := (hclose _).mp hthird
    obtain ⟨hfits₄, rfl⟩ := (hdelay _).mp hfourth
    exact ⟨⟨hfits₁, hfits₂, hfits₃, hfits₄⟩, rfl⟩
  · rintro ⟨⟨hfits₁, hfits₂, hfits₃, hfits₄⟩, rfl⟩
    exact ⟨_, rfl, _, (hexchanges _).mpr ⟨hfits₁, rfl⟩, _, (htimeout _).mpr ⟨hfits₂, rfl⟩,
      _, (hclose _).mpr ⟨hfits₃, rfl⟩, _, (hdelay _).mpr ⟨hfits₄, rfl⟩, rfl⟩

end Giving

namespace Settings

variable {document other : Toml.Entries}

theorem HasTables.get? (htables : HasTables document) (setting : Setting) (value : Toml.Value)
    (hget : document.get? setting.table = some value) :
    ∃ origin entries, value = .table origin entries :=
  htables setting value (Toml.Entries.mem_of_get? hget)

/-- Settings are read from a document if every number that it gives is in range, and they are
these numbers then. -/
theorem ofToml?_eq_some_iff (hkeyed : document.IsKeyed) (htables : HasTables document)
    (settings : Settings) :
    ofToml? document = some settings ↔ Fits document ∧ settings = given document := by
  have hpool : document.read poolKey PoolSettings.ofToml? {} =
      PoolSettings.ofToml? (.table .header (document.inner poolKey)) :=
    Toml.Entries.read_table (htables.get? .connections) (fun _ _ => rfl) rfl
  have hstress : document.read stressKey StressSettings.ofToml? {} =
      StressSettings.ofToml? (.table .header (document.inner stressKey)) :=
    Toml.Entries.read_table (htables.get? .exchanges) (fun _ _ => rfl) rfl
  simp only [ofToml?, Option.bind_eq_bind, Option.bind_eq_some_iff, Option.pure_def,
    Option.some.injEq, hpool, hstress, PoolSettings.ofToml?_inner hkeyed,
    StressSettings.ofToml?_inner hkeyed]
  constructor
  · rintro ⟨pool, ⟨⟨hfits₁, hfits₂⟩, rfl⟩, stress, ⟨⟨hfits₃, hfits₄, hfits₅, hfits₆⟩, rfl⟩, rfl⟩
    refine ⟨?_, rfl⟩
    intro setting
    cases setting <;> assumption
  · rintro ⟨hfits, rfl⟩
    exact ⟨_, ⟨⟨hfits _, hfits _⟩, rfl⟩, _, ⟨⟨hfits _, hfits _, hfits _, hfits _⟩, rfl⟩, rfl⟩

private theorem ofToml?_eq_none_iff (hkeyed : document.IsKeyed) (htables : HasTables document) :
    ofToml? document = none ↔ ¬ Fits document := by
  have hsome := ofToml?_eq_some_iff hkeyed htables
  constructor
  · intro hnone hfits
    have hread := (hsome _).mpr ⟨hfits, rfl⟩
    rw [hnone] at hread
    cases hread
  · intro hunfit
    refine Option.eq_none_iff_forall_ne_some.mpr ?_
    intro settings hread
    exact hunfit ((hsome settings).mp hread).1

end Settings

/-! ## Documents that give the same -/

section Restating

variable {isKnown : String → Prop} {entries others document other : Toml.Entries}

/-- The entries are the same but for their order, and for entries under names that are not
known. -/
inductive Toml.Entries.Resembles (isKnown : String → Prop) : Entries → Entries → Prop
  | order {entries others : Entries} (hperm : entries.Perm others) :
      Resembles isKnown entries others
  | unknown {key : String} (hkey : ¬ isKnown key) (value : Value) (entries : Entries) :
      Resembles isKnown entries ((key, value) :: entries)
  | symm {entries others : Entries} (hresembles : Resembles isKnown entries others) :
      Resembles isKnown others entries
  | trans {first second third : Entries} (hleft : Resembles isKnown first second)
      (hright : Resembles isKnown second third) : Resembles isKnown first third

/-- What is there under a known name is in both. -/
theorem Toml.Entries.Resembles.mem_iff (hresembles : Resembles isKnown entries others)
    {key : String} (hkey : isKnown key) (value : Value) :
    (key, value) ∈ entries ↔ (key, value) ∈ others := by
  induction hresembles with
  | order hperm => exact hperm.mem_iff
  | @unknown unknownKey hunknown found entries =>
      have hne : (key, value) ≠ (unknownKey, found) := by
        rintro ⟨⟩
        exact hunknown hkey
      rw [List.mem_cons, or_iff_right hne]
  | symm _ ih => exact ih.symm
  | trans _ _ ihleft ihright => exact ihleft.trans ihright

theorem Setting.isGiven_cons (setting : Setting) (name : String) (origin : Toml.Origin)
    (value : Toml.Value) : setting.IsGiven ((name, .table origin entries) :: document) value ↔
      (setting.table = name ∧ (setting.key, value) ∈ entries) ∨
        setting.IsGiven document value := by
  constructor
  · rintro ⟨origin, found, htable, hvalue⟩
    rcases List.mem_cons.mp htable with hfirst | hlater
    · obtain ⟨hname, hfound⟩ := Prod.mk.inj hfirst
      obtain ⟨-, rfl⟩ := Toml.Value.table.inj hfound
      exact .inl ⟨hname, hvalue⟩
    · exact .inr ⟨origin, found, hlater, hvalue⟩
  · rintro (⟨rfl, hvalue⟩ | ⟨origin, found, htable, hvalue⟩)
    · exact ⟨_, entries, List.mem_cons_self, hvalue⟩
    · exact ⟨origin, found, List.mem_cons_of_mem _ htable, hvalue⟩

namespace Settings

/-- The documents are the same but for the order of entries, for entries under names that are
not those of settings, and for how a table is written: under a header, with dotted keys or in
braces. -/
inductive Restates : Toml.Entries → Toml.Entries → Prop
  | document {document other : Toml.Entries}
      (hresembles : Toml.Entries.Resembles (fun name => ∃ setting : Setting, setting.table = name)
        document other) : Restates document other
  | table (name : String) (origin originally : Toml.Origin) {entries others : Toml.Entries}
      (hresembles : Toml.Entries.Resembles
        (fun key => ∃ setting : Setting, setting.table = name ∧ setting.key = key) entries others)
      (document : Toml.Entries) :
      Restates ((name, .table origin entries) :: document)
        ((name, .table originally others) :: document)
  | symm {document other : Toml.Entries} (hrestates : Restates document other) :
      Restates other document
  | trans {first second third : Toml.Entries} (hleft : Restates first second)
      (hright : Restates second third) : Restates first third

theorem Restates.isGiven_iff (hrestates : Restates document other) (setting : Setting)
    (value : Toml.Value) : setting.IsGiven document value ↔ setting.IsGiven other value := by
  induction hrestates with
  | document hresembles =>
      simp only [Setting.IsGiven, hresembles.mem_iff ⟨setting, rfl⟩]
  | table name origin originally hresembles document =>
      rw [setting.isGiven_cons, setting.isGiven_cons]
      refine or_congr_left (and_congr_right ?_)
      intro hname
      exact hresembles.mem_iff ⟨setting, hname, rfl⟩ value
  | symm _ ih => exact ih.symm
  | trans _ _ ihleft ihright => exact ihleft.trans ihright

theorem hasTables_cons (name : String) (origin : Toml.Origin) :
    HasTables ((name, .table origin entries) :: document) ↔ HasTables document := by
  constructor
  · intro htables setting value hmem
    exact htables setting value (List.mem_cons_of_mem _ hmem)
  · intro htables setting value hmem
    rcases List.mem_cons.mp hmem with hfirst | hlater
    · exact ⟨origin, entries, (Prod.mk.inj hfirst).2⟩
    · exact htables setting value hlater

private theorem Restates.hasTables_iff (hrestates : Restates document other) :
    HasTables document ↔ HasTables other := by
  induction hrestates with
  | document hresembles =>
      refine forall_congr' fun setting => forall_congr' fun value => ?_
      rw [hresembles.mem_iff ⟨setting, rfl⟩]
  | table name origin originally hresembles document =>
      rw [hasTables_cons, hasTables_cons]
  | symm _ ih => exact ih.symm
  | trans _ _ ihleft ihright => exact ihleft.trans ihright

private theorem ofToml?_congr (hkeyed : document.IsKeyed) (htables : HasTables document)
    (hkeyed' : other.IsKeyed) (htables' : HasTables other)
    (hgiven : ∀ (setting : Setting) value,
      setting.IsGiven other value ↔ setting.IsGiven document value) :
    ofToml? other = ofToml? document := by
  have hfits : Fits other ↔ Fits document := by
    simp only [Fits, Setting.Fits, hgiven]
  have hnumber : ∀ setting : Setting, setting.number? other = setting.number? document := by
    intro setting
    have hget : (other.inner setting.table).get? setting.key =
        (document.inner setting.table).get? setting.key := by
      refine Option.ext fun value => ?_
      rw [← setting.isGiven_iff hkeyed', ← setting.isGiven_iff hkeyed, hgiven]
    rw [Setting.number?, Setting.number?, hget]
  have hsame : given other = given document := by
    simp only [given, hnumber]
  refine Option.ext fun settings => ?_
  rw [ofToml?_eq_some_iff hkeyed' htables', ofToml?_eq_some_iff hkeyed htables, hfits, hsame]

end Settings

end Restating

namespace Settings

/-! ## What is loaded -/

private theorem ofContents_ne_notFound (contents : Octets) (name : String) :
    ofContents contents ≠ .error (.notFound name) := by
  intro hread
  unfold ofContents at hread
  split at hread
  · cases hread
  · split at hread <;> cases hread

/-- The defaults are taken where nothing is there or where the host does not show it, and nowhere
else. -/
theorem loadOrDefault_eq (host : FileHost) (tree : FileTree) (path : String) :
    loadOrDefault host tree path =
      if tree.look? (.ofText path) = none ∨
          (host.refusal? tree .inspect (.ofText path)).isSome = true then .ok {}
      else load host tree path := by
  have hinspect : host.inspect? tree (.ofText path) = none ↔
      tree.look? (.ofText path) = none ∨
        (host.refusal? tree .inspect (.ofText path)).isSome = true := by
    unfold FileHost.inspect?
    split <;> simp_all
  simp only [← hinspect]
  cases hshown : host.inspect? tree (.ofText path) with
  | none => simp only [loadOrDefault, load, hshown, if_true]
  | some node =>
      have hfound : ∀ name, load host tree path ≠ .error (.notFound name) := by
        intro name hload
        simp only [load, hshown] at hload
        split at hload
        · cases hload
        · exact ofContents_ne_notFound _ name hload
      rw [if_neg (Option.some_ne_none node), loadOrDefault]
      split
      next name hload => exact absurd hload (hfound name)
      next => rfl

/-- A document in which the pool and the stress run are tables or absent is read if every
setting that it gives is a number in range.  The settings are these numbers then, each with its
own default where it is not given; how the document is written beyond this does not matter.  A
document that is not read is refused where it is loaded.  The defaults are taken for a file only
if there is none or the host does not show that there is one. -/
theorem only_known_settings_count {text : String} {document : Toml.Entries}
    (hparse : Toml.parse text = some document) (htables : HasTables document) :
    (∀ settings, ofToml? document = some settings ↔ Fits document ∧ settings = given document) ∧
    (∀ otherText other, Toml.parse otherText = some other → Restates document other →
      ofToml? other = ofToml? document) ∧
    (∀ host tree path, tree.look? (.ofText path) = some (.file (Octets.ofText text)) →
      LetsRead host tree path →
      (Fits document → loadOrDefault host tree path = .ok (given document)) ∧
      (¬ Fits document → loadOrDefault host tree path = .error .malformed)) ∧
    ∀ host tree path, loadOrDefault host tree path =
      if tree.look? (.ofText path) = none ∨
          (host.refusal? tree .inspect (.ofText path)).isSome = true then .ok {}
      else load host tree path := by
  have hkeyed := Toml.isKeyed_of_parse hparse
  have hiff := ofToml?_eq_some_iff hkeyed htables
  refine ⟨hiff, ?_, ?_, loadOrDefault_eq⟩
  · intro otherText other hother hrestates
    refine ofToml?_congr hkeyed htables (Toml.isKeyed_of_parse hother)
      (hrestates.hasTables_iff.mp htables) ?_
    intro setting value
    exact (hrestates.isGiven_iff setting value).symm
  · intro host tree path hlook hlets
    have hpresent : loadOrDefault host tree path = ofContents (Octets.ofText text) := by
      rw [loadOrDefault_eq, if_neg (by simp [hlook, hlets.inspect]), hlets.load_eq hlook]
    rw [hpresent]
    simp only [ofContents, Octets.toText?_ofText, hparse, Option.bind_some]
    constructor
    · intro hfits
      rw [(hiff _).mpr ⟨hfits, rfl⟩]
    · intro hunfit
      rw [(ofToml?_eq_none_iff hkeyed htables).mpr hunfit]

/-- A document with a table in braces, and with entries that are not known. -/
def inBraces : String := "pool = \x7bmax_connections = 7, colour = \"red\"\x7d\n[other]\nx = 1\n"

/-- The same settings under a header. -/
def underHeader : String := "[pool]\nmax_connections = 7\n"

theorem only_known_settings_count_inBraces :
    ∃ document other, Toml.parse inBraces = some document ∧ HasTables document ∧
      Toml.parse underHeader = some other ∧ Restates document other ∧
      Fits document ∧ given document = { pool := { maxConnections := 7 } } ∧
      ofToml? other = some { pool := { maxConnections := 7 } } := by
  let known : String × Toml.Value := ("max_connections", .integer 7)
  let colour : String × Toml.Value := ("colour", .string "red")
  let pool (entries : Toml.Entries) : String × Toml.Value := ("pool", .table .inline entries)
  let aside : String × Toml.Value := ("other", .table .header [("x", .integer 1)])
  have hparse : Toml.parse inBraces = some [pool [known, colour], aside] := rfl
  have hother : Toml.parse underHeader = some [("pool", .table .header [known])] := rfl
  have htables : HasTables [pool [known, colour], aside] :=
    (hasTables_cons _ _).mpr ((hasTables_cons _ _).mpr nofun)
  have hcolour : ∀ setting : Setting, setting.key ≠ "colour" := by
    intro setting
    cases setting <;> decide
  have haside : ∀ setting : Setting, setting.table ≠ "other" := by
    intro setting
    cases setting <;> decide
  have hrestates : Restates [pool [known, colour], aside] [("pool", .table .header [known])] := by
    have hinside : Toml.Entries.Resembles
        (fun key => ∃ setting : Setting, setting.table = "pool" ∧ setting.key = key)
        [known, colour] [known] :=
      .trans (.order (.swap colour known []))
        (.symm (.unknown (fun ⟨setting, _, hkey⟩ => hcolour setting hkey) _ _))
    refine .trans (.document (.order (.swap aside _ []))) ?_
    exact .trans (.symm (.document (.unknown (fun ⟨setting, hname⟩ => haside setting hname) _ _)))
      (.table "pool" _ _ hinside [])
  obtain ⟨hread, hsame, -, -⟩ := only_known_settings_count hparse htables
  obtain ⟨hfits, hgiven⟩ := (hread { pool := { maxConnections := 7 } }).mp rfl
  exact ⟨_, _, hparse, htables, hother, hrestates, hfits, hgiven.symm,
    (hsame _ _ hother hrestates).trans rfl⟩

/-- A file in a folder that must not be searched is taken for one that does not exist. -/
theorem locked_file_gives_the_defaults :
    let host : FileHost := { refusal? := fun _ _ _ => some ⟨13, "Permission denied"⟩ }
    let tree : FileTree :=
      .folder [("locked", .folder [("c.toml", .file (Octets.ofText underHeader))])]
    load {} tree "locked/c.toml" = .ok { pool := { maxConnections := 7 } } ∧
      tree.look? (.ofText "locked/c.toml") = some (.file (Octets.ofText underHeader)) ∧
      loadOrDefault host tree "locked/c.toml" = .ok {} :=
  ⟨rfl, rfl, rfl⟩

end Settings

end Multiplex
