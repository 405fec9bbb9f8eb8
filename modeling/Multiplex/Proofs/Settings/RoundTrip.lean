import Multiplex.Proofs.Settings.FileTree
import Multiplex.Proofs.Toml.RoundTrip
import Multiplex.Settings.Store

/-!
# Settings are read back as they were saved

A settings file holds whole numbers only: the timeout in seconds, the delay in milliseconds.
What is loaded from a saved file is therefore `Settings.truncated`, the settings without what
the units cut off, and nothing else is changed.  Settings that were loaded have nothing to cut
off and no number that is too large, so they are saved and loaded unchanged from then on;
`Settings.IsStored` says what such settings are.

The text between the two is followed by `Toml.parse_writeTables`; what is left here is that
the tables are plain, and that each key gives its number back.
-/

namespace Multiplex

namespace Settings

/-! ## What a file keeps -/

/-- The settings without what is left over after the whole seconds of the timeout and the whole
milliseconds of the delay. -/
def truncated (settings : Settings) : Settings :=
  { settings with
    stress := { settings.stress with
      responseTimeout := .ofSeconds settings.stress.responseTimeout.seconds
      responseDelay := .ofMilliseconds settings.stress.responseDelay.milliseconds } }

/-- The settings that a file can hold. -/
structure IsStored (settings : Settings) : Prop where
  connections : settings.pool.maxConnections < documentBound
  streams : settings.pool.maxStreams < streamLimitBound
  exchanges : settings.stress.exchanges < documentBound
  timeout : ∃ count < documentBound, settings.stress.responseTimeout = .ofSeconds count
  closeAfter : ∀ count ∈ settings.stress.closeAfter, count < documentBound
  delay : ∃ count < documentBound, settings.stress.responseDelay = .ofMilliseconds count

private theorem documentBound_le_largestWord : documentBound ≤ largestWord := by decide

theorem streamLimitBound_lt_documentBound : streamLimitBound < documentBound := by decide

/-- Settings can be written if each number is in the range of a document; the delay is capped
by the largest word before it is compared. -/
theorem isWritable_iff (settings : Settings) :
    settings.isWritable = true ↔
      settings.pool.maxConnections < documentBound ∧ settings.pool.maxStreams < documentBound ∧
      settings.stress.exchanges < documentBound ∧
      settings.stress.responseTimeout.seconds < documentBound ∧
      (∀ count ∈ settings.stress.closeAfter, count < documentBound) ∧
      min settings.stress.responseDelay.milliseconds largestWord < documentBound := by
  cases hclose : settings.stress.closeAfter <;>
    simp [isWritable, tables, PoolSettings.numbers, StressSettings.numbers, hclose, and_assoc]

namespace IsStored

variable {settings : Settings} (hstored : settings.IsStored)
include hstored

theorem isWritable : settings.isWritable = true := by
  obtain ⟨seconds, hseconds, htimeout⟩ := hstored.timeout
  obtain ⟨count, hcount, hdelay⟩ := hstored.delay
  rw [isWritable_iff, htimeout, hdelay, Duration.seconds_ofSeconds,
    Duration.milliseconds_ofMilliseconds]
  exact ⟨hstored.connections, Nat.lt_trans hstored.streams streamLimitBound_lt_documentBound,
    hstored.exchanges, hseconds, hstored.closeAfter,
    Nat.lt_of_le_of_lt (Nat.min_le_left _ _) hcount⟩

private theorem truncated_eq : settings.truncated = settings := by
  obtain ⟨seconds, -, htimeout⟩ := hstored.timeout
  obtain ⟨count, -, hdelay⟩ := hstored.delay
  obtain ⟨pool, exchanges, timeout, closeAfter, delay⟩ := settings
  obtain rfl : timeout = _ := htimeout
  obtain rfl : delay = _ := hdelay
  rw [truncated, Duration.seconds_ofSeconds, Duration.milliseconds_ofMilliseconds]

end IsStored

end Settings

/-! ## What is loaded is stored -/

namespace Toml

theorem Value.natural?_lt {value : Value} {bound number : Nat}
    (hread : value.natural? bound = some number) : number < bound := by
  unfold natural? at hread
  split at hread
  · split at hread
    · next hrange =>
      obtain rfl := Option.some.inj hread
      omega
    · cases hread
  · cases hread

namespace Entries

variable {entries : Entries} {key : String} {bound : Nat}

theorem read_cases {α : Type} {read : Value → Option α} {default result : α}
    (hresult : entries.read key read default = some result) :
    result = default ∨ ∃ value, read value = some result := by
  unfold Entries.read at hresult
  split at hresult
  · exact .inl (Option.some.inj hresult).symm
  · exact .inr ⟨_, hresult⟩

theorem natural_lt_of_read {default number : Nat} (hdefault : default < bound)
    (hresult : entries.read key (Value.natural? bound) default = some number) :
    number < bound := by
  rcases read_cases hresult with rfl | ⟨value, hvalue⟩
  · exact hdefault
  · exact Value.natural?_lt hvalue

theorem unit_of_read {α : Type} {unit : Nat → α} {default result : α}
    (hresult : entries.read key (fun value => (value.natural? bound).map unit) default =
      some result) : result = default ∨ ∃ count < bound, result = unit count := by
  rcases read_cases hresult with hdefault | ⟨value, hvalue⟩
  · exact .inl hdefault
  · obtain ⟨count, hcount, rfl⟩ := Option.map_eq_some_iff.mp hvalue
    exact .inr ⟨count, Value.natural?_lt hcount, rfl⟩

end Entries

end Toml

theorem PoolSettings.lt_of_ofToml? {value : Toml.Value} {pool : PoolSettings}
    (hread : ofToml? value = some pool) :
    pool.maxConnections < documentBound ∧ pool.maxStreams < streamLimitBound := by
  simp only [ofToml?, Option.bind_eq_bind, Option.bind_eq_some_iff, Option.pure_def,
    Option.some.injEq] at hread
  obtain ⟨entries, -, connections, hconnections, streams, hstreams, rfl⟩ := hread
  exact ⟨Toml.Entries.natural_lt_of_read (by decide) hconnections,
    Toml.Entries.natural_lt_of_read (by decide) hstreams⟩

theorem StressSettings.lt_of_ofToml? {value : Toml.Value} {stress : StressSettings}
    (hread : ofToml? value = some stress) :
    stress.exchanges < documentBound ∧
      (∃ count < documentBound, stress.responseTimeout = .ofSeconds count) ∧
      (∀ count ∈ stress.closeAfter, count < documentBound) ∧
      ∃ count < documentBound, stress.responseDelay = .ofMilliseconds count := by
  simp only [ofToml?, Option.bind_eq_bind, Option.bind_eq_some_iff, Option.pure_def,
    Option.some.injEq] at hread
  obtain ⟨entries, -, exchanges, hexchanges, timeout, htimeout, closeAfter, hclose, delay, hdelay,
    rfl⟩ := hread
  refine ⟨Toml.Entries.natural_lt_of_read (by decide) hexchanges, ?_, ?_, ?_⟩
  · rcases Toml.Entries.unit_of_read htimeout with rfl | hseconds
    · exact ⟨10, by decide, rfl⟩
    · exact hseconds
  · rcases Toml.Entries.unit_of_read hclose with rfl | ⟨count, hcount, rfl⟩
    · exact fun _ hmem => absurd hmem (by simp)
    · rintro _ ⟨⟩
      exact hcount
  · rcases Toml.Entries.unit_of_read hdelay with rfl | hmilliseconds
    · exact ⟨1, by decide, rfl⟩
    · exact hmilliseconds

namespace Settings

theorem isStored_default : IsStored {} where
  connections := by decide
  streams := by decide
  exchanges := by decide
  timeout := ⟨10, by decide, rfl⟩
  closeAfter := fun _ hmem => absurd hmem (by simp)
  delay := ⟨1, by decide, rfl⟩

private theorem isStored_of_ofToml? {document : Toml.Entries} {settings : Settings}
    (hread : ofToml? document = some settings) : settings.IsStored := by
  simp only [ofToml?, Option.bind_eq_bind, Option.bind_eq_some_iff, Option.pure_def,
    Option.some.injEq] at hread
  obtain ⟨pool, hpool, stress, hstress, rfl⟩ := hread
  have hlimits : pool.maxConnections < documentBound ∧ pool.maxStreams < streamLimitBound := by
    rcases Toml.Entries.read_cases hpool with rfl | ⟨value, hvalue⟩
    · exact ⟨isStored_default.connections, isStored_default.streams⟩
    · exact PoolSettings.lt_of_ofToml? hvalue
  have hnumbers : IsStored ⟨{}, stress⟩ := by
    rcases Toml.Entries.read_cases hstress with rfl | ⟨value, hvalue⟩
    · exact isStored_default
    · obtain ⟨hexchanges, htimeout, hclose, hdelay⟩ := StressSettings.lt_of_ofToml? hvalue
      exact ⟨isStored_default.connections, isStored_default.streams, hexchanges, htimeout, hclose,
        hdelay⟩
  exact ⟨hlimits.1, hlimits.2, hnumbers.exchanges, hnumbers.timeout, hnumbers.closeAfter,
    hnumbers.delay⟩

theorem isStored_of_load {host : FileHost} {tree : FileTree} {path : String}
    {settings : Settings} (hloaded : load host tree path = .ok settings) : settings.IsStored := by
  unfold load at hloaded
  split at hloaded
  · cases hloaded
  split at hloaded
  · cases hloaded
  · unfold ofContents at hloaded
    split at hloaded
    · cases hloaded
    · split at hloaded
      · cases hloaded
      · next hread =>
        obtain rfl := Except.ok.inj hloaded
        obtain ⟨document, -, hdocument⟩ := Option.bind_eq_some_iff.mp hread
        exact isStored_of_ofToml? hdocument

/-! ## From the settings to their text and back -/

theorem isBare_of_mem_keys {key : String}
    (hkey : key ∈ [poolKey, stressKey] ++ PoolSettings.keys ++ StressSettings.keys) :
    Toml.IsBare key := by
  have hall : ([poolKey, stressKey] ++ PoolSettings.keys ++ StressSettings.keys).all
      (fun key => !key.toList.isEmpty && key.toList.all Toml.isKeyChar) = true := by decide
  have hbare := List.all_eq_true.mp hall key hkey
  simpa [Toml.IsBare] using hbare

private theorem numbers_sublist_keys (stress : StressSettings) :
    (stress.numbers.map Prod.fst).Sublist StressSettings.keys := by
  rw [StressSettings.numbers]
  cases stress.closeAfter with
  | none => exact .cons_cons _ (.cons_cons _ (.cons _ (.cons_cons _ .slnil)))
  | some count => exact List.Sublist.refl _

private theorem isPlain_of_isWritable {settings : Settings}
    (hwritable : settings.isWritable = true) :
    ∀ table ∈ settings.tables, table.IsPlain := by
  have hbounded : ∀ table ∈ settings.tables, ∀ entry ∈ table.numbers,
      Toml.IsInteger entry.2 := fun table htable entry hentry => by
    have hsmall := List.all_eq_true.mp (List.all_eq_true.mp hwritable table htable) entry hentry
    exact Int.ofNat_lt.mpr (of_decide_eq_true hsmall)
  have hpool : Toml.IsBare poolKey := isBare_of_mem_keys (by decide)
  have hstress : Toml.IsBare stressKey := isBare_of_mem_keys (by decide)
  intro table htable
  have hcases : table = ⟨poolKey, settings.pool.numbers⟩ ∨
      table = ⟨stressKey, settings.stress.numbers⟩ := by simpa [tables] using htable
  rcases hcases with rfl | rfl
  · have hkeys : settings.pool.numbers.map Prod.fst = PoolSettings.keys := rfl
    refine ⟨hpool, fun entry hentry => isBare_of_mem_keys ?_, ?_, hbounded _ htable⟩
    · have hmem : entry.1 ∈ PoolSettings.keys := hkeys ▸ List.mem_map_of_mem hentry
      exact List.mem_append_left _ (List.mem_append_right _ hmem)
    · rw [hkeys]
      decide
  · have hkeys := numbers_sublist_keys settings.stress
    refine ⟨hstress, fun entry hentry => isBare_of_mem_keys ?_, ?_, hbounded _ htable⟩
    · exact List.mem_append_right _ (hkeys.subset (List.mem_map_of_mem hentry))
    · have hdistinct : StressSettings.keys.Nodup := by decide
      exact hdistinct.sublist hkeys

private theorem parse_text {settings : Settings} (hwritable : settings.isWritable = true) :
    Toml.parse (String.ofList (Toml.writeTables settings.tables)) =
      some (Toml.entriesOf settings.tables) := by
  have hdistinct : (settings.tables.map Toml.NumberTable.name).Nodup := by
    have hnames : settings.tables.map Toml.NumberTable.name = [poolKey, stressKey] := rfl
    rw [hnames]
    decide
  exact Toml.parse_writeTables (isPlain_of_isWritable hwritable) hdistinct

theorem read_number {entries : Toml.Entries} {key : String} {number bound : Nat}
    (hget : entries.get? key = some (.integer number)) (hnumber : number < bound)
    (default : Nat) : entries.read key (Toml.Value.natural? bound) default = some number := by
  have hnatural : Toml.Value.natural? bound (.integer number) = some number := by
    rw [Toml.Value.natural?, if_pos ⟨Int.natCast_nonneg number, Int.ofNat_lt.mpr hnumber⟩,
      Int.toNat_natCast]
  rw [Toml.Entries.read, hget]
  exact hnatural

theorem read_unit {α : Type} {entries : Toml.Entries} {key : String} {number bound : Nat}
    (hget : entries.get? key = some (.integer number)) (hnumber : number < bound)
    (unit : Nat → α) (default : α) :
    entries.read key (fun value => (value.natural? bound).map unit) default =
      some (unit number) := by
  have hread := read_number hget hnumber 0
  rw [Toml.Entries.read, hget] at hread ⊢
  exact congrArg (Option.map unit) hread

private theorem ofToml?_pool {pool : PoolSettings}
    (hconnections : pool.maxConnections < documentBound)
    (hstreams : pool.maxStreams < streamLimitBound) (origin : Toml.Origin) :
    PoolSettings.ofToml? (.table origin (Toml.NumberTable.entries ⟨poolKey, pool.numbers⟩)) =
      some pool := by
  simp only [PoolSettings.ofToml?, Option.bind_eq_bind, Option.bind_eq_some_iff, Option.pure_def,
    Option.some.injEq]
  exact ⟨_, rfl, _, read_number rfl hconnections _, _, read_number rfl hstreams _, rfl⟩

private theorem ofToml?_stress {settings : Settings} (hwritable : settings.isWritable = true)
    (origin : Toml.Origin) :
    StressSettings.ofToml? (.table origin
      (Toml.NumberTable.entries ⟨stressKey, settings.stress.numbers⟩)) =
        some settings.truncated.stress := by
  obtain ⟨-, -, hexchanges, htimeout, hclose, hdelay⟩ := (isWritable_iff settings).mp hwritable
  have hmilliseconds : min settings.stress.responseDelay.milliseconds largestWord =
      settings.stress.responseDelay.milliseconds := by
    have := documentBound_le_largestWord
    omega
  rw [hmilliseconds] at hdelay
  simp only [StressSettings.ofToml?, Option.bind_eq_bind, Option.bind_eq_some_iff, Option.pure_def,
    Option.some.injEq]
  rw [StressSettings.numbers, hmilliseconds]
  cases hcount : settings.stress.closeAfter with
  | none =>
    exact ⟨_, rfl, _, read_number rfl hexchanges _, _, read_unit rfl htimeout _ _, none, rfl, _,
      read_unit rfl hdelay _ _, by simp only [truncated, hcount]⟩
  | some count =>
    have hsmall : count < documentBound := hclose count hcount
    exact ⟨_, rfl, _, read_number rfl hexchanges _, _, read_unit rfl htimeout _ _, some count,
      read_unit rfl hsmall _ _, _, read_unit rfl hdelay _ _, by simp only [truncated, hcount]⟩

private theorem ofToml?_tables {settings : Settings} (hwritable : settings.isWritable = true)
    (hstreams : settings.pool.maxStreams < streamLimitBound) :
    ofToml? (Toml.entriesOf settings.tables) = some settings.truncated := by
  have hpool := ofToml?_pool ((isWritable_iff settings).mp hwritable).1 hstreams .header
  have hstress := ofToml?_stress hwritable .header
  simp only [ofToml?, Option.bind_eq_bind, Option.bind_eq_some_iff, Option.pure_def,
    Option.some.injEq]
  exact ⟨settings.pool, hpool, settings.truncated.stress, hstress, rfl⟩

/-! ## Saving and loading -/

/-- The text is made before anything is written, so it is what a save fails on first. -/
theorem saveIn_eq_numberTooLarge_iff (settings : Settings) (host : FileHost) (tree : FileTree)
    (path : String) :
    (settings.saveIn host tree path).2 = .error .numberTooLarge ↔
      settings.isWritable = false := by
  unfold saveIn text?
  by_cases hwritable : settings.isWritable = true
  · simp only [hwritable, if_true, Bool.true_eq_false, iff_false]
    split
    · rintro ⟨⟩
    · dsimp only
      cases (host.write _ _ _).2 <;> rintro ⟨⟩
  · simp [hwritable]

section Saves

variable {settings : Settings} {host : FileHost} {tree changed : FileTree} {path : String}

private theorem save_eq_ok_iff :
    settings.save host tree path = .ok changed ↔
      settings.saveIn host tree path = (changed, .ok ()) := by
  unfold save
  split
  next hsaved => simp [hsaved]
  next hsaved => simp [hsaved]

theorem save_eq_error_iff {error : SettingsError} :
    settings.save host tree path = .error error ↔
      (settings.saveIn host tree path).2 = .error error := by
  unfold save
  split
  next hsaved => simp [hsaved]
  next hsaved => simp [hsaved]

private theorem written_of_saveIn (hsaved : settings.saveIn host tree path = (changed, .ok ())) :
    ∃ text made, settings.text? = some text ∧
      host.makeWay tree (FilePath.ofText path).folderSteps.reverse = (made, .ok ()) ∧
      host.refusal? made .openFile (.ofText path) = none ∧
      made.write (Octets.ofText text) (.ofText path) = .ok changed := by
  unfold saveIn at hsaved
  split at hsaved
  next => cases hsaved
  next text htext =>
    dsimp only at hsaved
    split at hsaved
    next => cases hsaved
    next made hmade =>
      rcases hwritten : host.write made (Octets.ofText text) (.ofText path) with ⟨after, result⟩
      rw [hwritten] at hsaved
      rcases FileTree.write_cases hwritten with
        ⟨rfl, hlets, hwhole⟩ | ⟨⟨fault, rfl⟩, -⟩ | ⟨count, refusal, -, rfl, -⟩
      · obtain rfl := congrArg Prod.fst hsaved
        exact ⟨text, made, htext, hmade, hlets, hwhole⟩
      · cases hsaved
      · cases hsaved

end Saves

/-- The host shows the file that a path leads to, and lets one read it. -/
structure LetsRead (host : FileHost) (tree : FileTree) (path : String) : Prop where
  inspect : host.refusal? tree .inspect (.ofText path) = none
  read : host.refusal? tree .read (.ofText path) = none

/-- Where a file can be read, what is loaded are the settings in it. -/
theorem LetsRead.load_eq {host : FileHost} {tree : FileTree} {path : String} {contents : Octets}
    (hlets : LetsRead host tree path)
    (hlook : tree.look? (.ofText path) = some (.file contents)) :
    load host tree path = ofContents contents := by
  simp only [load, FileHost.inspect?, FileHost.read, hlets.inspect, hlets.read, hlook]

/-- Under the usual host whoever has saved a file can read it. -/
private theorem letsRead_of_save {settings : Settings} {tree changed : FileTree} {path : String}
    (hsaved : settings.save .usual tree path = .ok changed) : LetsRead .usual changed path := by
  obtain ⟨text, made, -, -, hlets, hwritten⟩ := written_of_saveIn (save_eq_ok_iff.mp hsaved)
  obtain ⟨-, target, -, hwrites⟩ := FileTree.writes_of_write hwritten
  exact ⟨(hwrites.refusal?_usual .inspect .openFile _).trans hlets,
    (hwrites.refusal?_usual .read .openFile _).trans hlets⟩

theorem load_of_save {settings : Settings} {host reader : FileHost} {tree changed : FileTree}
    {path : String} (hstreams : settings.pool.maxStreams < streamLimitBound)
    (hsaved : settings.save host tree path = .ok changed)
    (hlets : LetsRead reader changed path) :
    load reader changed path = .ok settings.truncated := by
  obtain ⟨text, made, htext, -, -, hwritten⟩ := written_of_saveIn (save_eq_ok_iff.mp hsaved)
  have hwritable : settings.isWritable = true := by
    rw [text?] at htext
    split at htext
    · assumption
    · cases htext
  obtain rfl : String.ofList (Toml.writeTables settings.tables) = text := by
    rw [text?, if_pos hwritable] at htext
    exact Option.some.inj htext
  have hread : (Toml.parse (String.ofList (Toml.writeTables settings.tables))).bind ofToml? =
      some settings.truncated := by
    rw [parse_text hwritable, Option.bind_some, ofToml?_tables hwritable hstreams]
  rw [hlets.load_eq (FileTree.look?_write hwritten)]
  simp only [ofContents, Octets.toText?_ofText, hread]

private theorem isWritable_eq_false_iff {settings : Settings}
    (hstreams : settings.pool.maxStreams < streamLimitBound) :
    settings.isWritable = false ↔
      documentBound ≤ settings.pool.maxConnections ∨ documentBound ≤ settings.stress.exchanges ∨
      documentBound ≤ settings.stress.responseTimeout.seconds ∨
      (∃ count ∈ settings.stress.closeAfter, documentBound ≤ count) ∨
      documentBound ≤ min settings.stress.responseDelay.milliseconds largestWord := by
  have hsmall : settings.pool.maxStreams < documentBound :=
    Nat.lt_trans hstreams streamLimitBound_lt_documentBound
  rw [← Bool.not_eq_true, isWritable_iff]
  simp only [Classical.not_and_iff_not_or_not, Classical.not_forall, Nat.not_lt,
    Nat.not_le.mpr hsmall, exists_prop, false_or]

/-- Settings are loaded as they were saved, with the timeout cut to whole seconds and the delay
to whole milliseconds, by everybody who may read the file, as under the usual host everybody may
who could save it; they fail to be written exactly if one of their numbers, in these units, is out
of range; and settings that were loaded never fail so and come back unchanged. -/
theorem saved_settings_come_back (settings : Settings)
    (hstreams : settings.pool.maxStreams < Word.bound32) :
    (∀ host tree path changed, settings.save host tree path = .ok changed →
      ∀ reader, LetsRead reader changed path →
        load reader changed path = .ok settings.truncated) ∧
    (∀ tree path changed, settings.save .usual tree path = .ok changed →
      LetsRead .usual changed path) ∧
    (∀ host tree path, settings.save host tree path = .error .numberTooLarge ↔
      Word.bound63 ≤ settings.pool.maxConnections ∨ Word.bound63 ≤ settings.stress.exchanges ∨
      Word.bound63 ≤ settings.stress.responseTimeout.seconds ∨
      (∃ count ∈ settings.stress.closeAfter, Word.bound63 ≤ count) ∨
      Word.bound63 ≤ min settings.stress.responseDelay.milliseconds (Word.bound64 - 1)) ∧
    (∀ host tree path, load host tree path = .ok settings → ∀ writer other place,
      settings.save writer other place ≠ .error .numberTooLarge ∧
      ∀ changed, settings.save writer other place = .ok changed →
        ∀ reader, LetsRead reader changed place → load reader changed place = .ok settings) := by
  refine ⟨fun host tree path changed hsaved reader hlets => load_of_save hstreams hsaved hlets,
    fun tree path changed => letsRead_of_save, fun host tree path => ?_,
    fun host tree path hloaded writer other place =>
      ⟨?_, fun changed hsaved reader hlets => ?_⟩⟩
  · rw [save_eq_error_iff, saveIn_eq_numberTooLarge_iff]
    exact isWritable_eq_false_iff hstreams
  · rw [Ne, save_eq_error_iff, saveIn_eq_numberTooLarge_iff, (isStored_of_load hloaded).isWritable]
    exact Bool.noConfusion
  · rw [load_of_save hstreams hsaved hlets, (isStored_of_load hloaded).truncated_eq]

/-- Three connections, a timeout of one second and a half, and a delay of two and a half
milliseconds. -/
def fractional : Settings :=
  { pool := { maxConnections := 3 }
    stress := { responseTimeout := ⟨1500000000⟩, responseDelay := ⟨2500000⟩ } }

theorem fractional_comes_back :
    fractional.pool.maxStreams < Word.bound32 ∧
    ∃ changed, fractional.save .usual .empty "a/c.toml" = .ok changed ∧
      LetsRead .usual changed "a/c.toml" ∧ load .usual changed "a/c.toml" = .ok
        { pool := { maxConnections := 3 }
          stress := { responseTimeout := .ofSeconds 1, responseDelay := .ofMilliseconds 2 } } := by
  have hstreams : fractional.pool.maxStreams < Word.bound32 := by decide
  have hsaved : ∃ changed, fractional.save .usual .empty "a/c.toml" = .ok changed := ⟨_, rfl⟩
  obtain ⟨changed, hchanged⟩ := hsaved
  obtain ⟨hloads, hlets, -, -⟩ := saved_settings_come_back fractional hstreams
  have hread := hlets .empty "a/c.toml" changed hchanged
  exact ⟨hstreams, changed, hchanged, hread,
    hloads .usual .empty "a/c.toml" changed hchanged .usual hread⟩

end Settings

end Multiplex
