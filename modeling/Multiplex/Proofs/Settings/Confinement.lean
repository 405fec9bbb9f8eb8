import Multiplex.Proofs.Settings.FileTree
import Multiplex.Proofs.Settings.RoundTrip

/-!
# A save touches its own file only

A save makes its text, then the folders on the way to the file, then writes the file, and each
of the three can fail when the ones before it have acted (`Settings.saveIn_cases`).  So a save
that fails leaves the tree as it was but for folders, unless the host breaks off when the file is
open: then the file has lost what it held, and has a part of the text at most.

Whether a path leads anywhere depends on the tree, but where it leads does not
(`FileTree.place_of_follow`): the place can be read off the path alone.  So the file that is
written, the folders that are made on the way to it, and the paths that lead to other files are
all told by `PathStep.placeFrom`.
-/

namespace Multiplex

/-! ## Where a path leads -/

/-- The place to which steps lead from another. -/
def PathStep.placeFrom (start : List String) (steps : List PathStep) : List String :=
  steps.foldl PathStep.goal start

/-- The place that a path leads to, if it leads anywhere. -/
def FilePath.place (path : FilePath) : List String := PathStep.placeFrom [] path.fullSteps

private theorem PathStep.placeFrom_filter (start : List String) (steps : List PathStep) :
    placeFrom start (steps.filter (· != .stay)) = placeFrom start steps := by
  induction steps generalizing start with
  | nil => rfl
  | cons step steps ih => cases step <;> exact ih _

theorem PathStep.placeFrom_enter (start names : List String) :
    placeFrom start (names.map .enter) = start ++ names := by
  induction names generalizing start with
  | nil => exact (List.append_nil start).symm
  | cons name names ih =>
      exact (ih (start ++ [name])).trans (by rw [List.append_assoc, List.singleton_append])

/-- A path that never goes up enters its names, and may stay where it is in between. -/
theorem FilePath.steps_ofText {path : String} (hplain : ".." ∉ pathNames path) :
    (FilePath.ofText path).steps.filter (· != .stay) = (pathNames path).map .enter := by
  unfold FilePath.ofText pathNames at *
  generalize (path.toList.splitOn '/').map String.ofList = parts at hplain ⊢
  dsimp only
  induction parts with
  | nil => rfl
  | cons part parts ih =>
      by_cases hempty : part = ""
      · subst hempty
        simpa [PathStep.ofPart?] using ih (by simpa using hplain)
      · by_cases hdot : part = "."
        · subst hdot
          simpa [PathStep.ofPart?] using ih (by simpa using hplain)
        · by_cases hup : part = ".."
          · subst hup
            simp at hplain
          · have hrest := ih fun hmem => hplain (by simp_all)
            simpa [PathStep.ofPart?, hempty, hdot, hup] using hrest

private theorem FilePath.place_ofText {path : String} (hplain : ".." ∉ pathNames path) :
    (FilePath.ofText path).place = pathNames path := by
  have hfull : (FilePath.ofText path).fullSteps.filter (· != .stay) =
      (FilePath.ofText path).steps.filter (· != .stay) := by
    unfold fullSteps
    split <;> simp
  rw [place, ← PathStep.placeFrom_filter, hfull, steps_ofText hplain, PathStep.placeFrom_enter,
    List.nil_append]

namespace FileTree

variable {tree first second : FileTree} {path : FilePath} {place : List String}

theorem place_of_follow {start : List String} {steps : List PathStep}
    (hleads : tree.follow start steps = .ok place) : place = PathStep.placeFrom start steps := by
  induction steps generalizing start with
  | nil => exact (Except.ok.inj hleads).symm
  | cons step steps ih =>
      rw [follow] at hleads
      split at hleads
      next => cases hleads
      next => cases hleads
      next =>
        split at hleads
        next => exact ih hleads
        next => cases hleads

theorem look?_eq_some {node : Node} (hlook : tree.look? path = some node) :
    path.fullSteps ≠ [] ∧ tree.follow [] path.fullSteps = .ok path.place ∧
      tree.at? path.place = some node := by
  unfold look? at hlook
  split at hlook
  next => cases hlook
  next hsteps =>
    split at hlook
    next => cases hlook
    next place hleads =>
      obtain rfl := place_of_follow hleads
      exact ⟨by simpa using hsteps, hleads, hlook⟩

/-- Where folders stay folders and files files, it shows the same if that stays the same. -/
theorem Keeps.look? (hkeeps : first.Keeps second) {node : Node}
    (hlook : first.look? path = some node) (hsame : second.at? path.place = some node) :
    second.look? path = some node := by
  obtain ⟨hsteps, hleads, -⟩ := look?_eq_some hlook
  rw [look?_of_follow hsteps (hkeeps.follow hleads), hsame]

theorem Grows.at?_of_eq_some {isNew : List String → Prop} {node : Node}
    (hgrows : first.Grows second isNew) (hthere : first.at? place = some node) :
    second.at? place = some node := by
  rcases hgrows place with hsame | ⟨hnone, -, -⟩
  · exact hsame.trans hthere
  · simp [hnone] at hthere

theorem Grows.folder_cases {isNew : List String → Prop} (hgrows : first.Grows second isNew)
    (hfolder : second.at? place = some .folder) :
    first.at? place = some .folder ∨ first.at? place = none ∧ isNew place := by
  rcases hgrows place with hsame | ⟨hnone, -, hnew⟩
  · exact .inl (hsame ▸ hfolder)
  · exact .inr ⟨hnone, hnew⟩

end FileTree

/-! ## What a save does to the tree -/

namespace Settings

open FileTree

variable {settings : Settings} {tree after : FileTree} {path : String}

/-- The places on the way to a file. -/
def IsOnWay (path : String) (place : List String) : Prop :=
  ∃ before, before <+: (FilePath.ofText path).folderSteps ∧ place = PathStep.placeFrom [] before

private theorem IsOnWay.isPrefix (hplain : ".." ∉ pathNames path) {place : List String}
    (hway : IsOnWay path place) : place <+: (pathNames path).dropLast := by
  obtain ⟨before, hbefore, rfl⟩ := hway
  rw [FilePath.folderSteps, FilePath.steps_ofText hplain, ← List.map_dropLast] at hbefore
  obtain ⟨entered, hentered, rfl⟩ := List.prefix_map_iff.mp hbefore
  rwa [PathStep.placeFrom_enter, List.nil_append]

theorem grows_makeWay (host : FileHost) (tree : FileTree) (path : String) :
    tree.Grows (host.makeWay tree (FilePath.ofText path).folderSteps.reverse).1
      (IsOnWay path) := by
  refine (FileTree.grows_makeWay host tree _).mono fun place hlies => ?_
  obtain ⟨before, hbefore, hleads⟩ := hlies
  rw [List.reverse_reverse] at hbefore
  exact ⟨before, hbefore, place_of_follow hleads⟩

theorem writes_place {contents : Octets} {path : FilePath}
    (hwritten : tree.write contents path = .ok after) :
    tree.Writes after contents path.place := by
  obtain ⟨-, target, hleads, hwrites⟩ := writes_of_write hwritten
  obtain rfl := place_of_follow hleads
  exact hwrites

/-- A save does nothing where there is no text.  Else it makes folders, and may write the file
then, as a whole or until the host breaks off. -/
private theorem saveIn_cases {host : FileHost} {result : Except SettingsError Unit}
    (hsaved : settings.saveIn host tree path = (after, result)) :
    (result = .error .numberTooLarge ∧ after = tree) ∨
    (∃ error, result = .error error ∧ error ≠ .numberTooLarge ∧
      tree.Grows after (IsOnWay path)) ∨
    ∃ text made, settings.text? = some text ∧ tree.Grows made (IsOnWay path) ∧
      ((result = .ok () ∧ made.write (Octets.ofText text) (.ofText path) = .ok after) ∨
      ∃ count refusal,
        host.breakOff? made (.ofText path) (Octets.ofText text) = some (count, refusal) ∧
        result = .error (.unwritable (.refused refusal)) ∧
        made.write ((Octets.ofText text).take count) (.ofText path) = .ok after) := by
  have hway := grows_makeWay host tree path
  unfold saveIn at hsaved
  split at hsaved
  next =>
    cases hsaved
    exact .inl ⟨rfl, rfl⟩
  next text htext =>
    dsimp only at hsaved
    split at hsaved
    next hmade =>
      rw [hmade] at hway
      cases hsaved
      exact .inr (.inl ⟨_, rfl, nofun, hway⟩)
    next made hmade =>
      rw [hmade] at hway
      rcases hwritten : host.write made (Octets.ofText text) (.ofText path) with ⟨written, ended⟩
      rw [hwritten] at hsaved
      rcases write_cases hwritten with
        ⟨rfl, -, hwhole⟩ | ⟨⟨fault, rfl⟩, rfl⟩ | ⟨count, refusal, hbreak, rfl, hpart⟩
      · cases hsaved
        exact .inr (.inr ⟨text, made, htext, hway, .inl ⟨rfl, hwhole⟩⟩)
      · cases hsaved
        exact .inr (.inl ⟨_, rfl, nofun, hway⟩)
      · cases hsaved
        exact .inr (.inr ⟨text, made, htext, hway, .inr ⟨count, refusal, hbreak, rfl, hpart⟩⟩)

/-- Files are the same before and after, but at some places, and whatever a path showed is loaded
as before, unless it leads to one of these or a host changes its mind about it. -/
structure Spares (tree after : FileTree) (isChanged : List String → Prop) : Prop where
  file_iff : ∀ place, ¬ isChanged place → ∀ contents,
    after.at? place = some (.file contents) ↔ tree.at? place = some (.file contents)
  load_eq : ∀ (host : FileHost) (other : String), (tree.look? (.ofText other)).isSome = true →
    ¬ isChanged (FilePath.ofText other).place →
    (∀ act, host.refusal? after act (.ofText other) = host.refusal? tree act (.ofText other)) →
    load host after other = load host tree other
  /-- The usual host stays with what it refuses. -/
  usual : ∀ other, (tree.look? (.ofText other)).isSome = true → ∀ act,
    FileHost.usual.refusal? after act (.ofText other) =
      FileHost.usual.refusal? tree act (.ofText other)

theorem spares_of_keeps {isChanged : List String → Prop} (hkeeps : tree.Keeps after)
    (hsame : ∀ place node, ¬ isChanged place → tree.at? place = some node →
      after.at? place = some node)
    (hfile : ∀ place, ¬ isChanged place → ∀ contents,
      after.at? place = some (.file contents) → tree.at? place = some (.file contents)) :
    Spares tree after isChanged where
  file_iff place hplace contents := ⟨hfile place hplace contents, hsame place _ hplace⟩
  load_eq host other hthere hother hrefusals := by
    obtain ⟨node, hlook⟩ := Option.isSome_iff_exists.mp hthere
    have hafter : after.look? (.ofText other) = some node :=
      hkeeps.look? hlook (hsame _ node hother (look?_eq_some hlook).2.2)
    simp only [load, FileHost.inspect?, FileHost.read, hrefusals, hlook, hafter]
  usual other hthere act := by
    obtain ⟨node, hlook⟩ := Option.isSome_iff_exists.mp hthere
    have hleads := (look?_eq_some hlook).2.1
    have hnames : after.meetsLongName [] (FilePath.ofText other).steps =
        tree.meetsLongName [] (FilePath.ofText other).steps := by
      rw [FilePath.fullSteps, follow_append] at hleads
      cases hbefore : tree.follow [] (FilePath.ofText other).steps with
      | error fault =>
          rw [hbefore] at hleads
          cases hleads
      | ok place => exact hkeeps.meetsLongName hbefore
    show (if 4096 < _ || after.meetsLongName [] _ then _ else none) = _
    rw [hnames]
    rfl

theorem spares_of_grows {isNew : List String → Prop} (hgrows : tree.Grows after isNew) :
    Spares tree after fun _ => False :=
  spares_of_keeps hgrows.keeps (fun _ _ _ hthere => hgrows.at?_of_eq_some hthere)
    fun place _ contents => (hgrows.file_iff place contents).mp

theorem spares_of_writes {isNew : List String → Prop} {made : FileTree} {contents : Octets}
    {target : List String} (hgrows : tree.Grows made isNew)
    (hwrites : made.Writes after contents target) : Spares tree after (· = target) :=
  spares_of_keeps (hgrows.keeps.trans hwrites.keeps)
    (fun place _ hplace hthere => by
      rw [hwrites.at?, if_neg hplace, hgrows.at?_of_eq_some hthere])
    fun place hplace contents hfile => by
      rw [hwrites.at?, if_neg hplace] at hfile
      exact (hgrows.file_iff place contents).mp hfile

/-- The host broke off the write of the target, which holds the octets before; no other file was
touched. -/
def IsBrokenOff (settings : Settings) (host : FileHost) (tree : FileTree) (path : String)
    (after : FileTree) (error : SettingsError) : Prop :=
  ∃ text made count refusal, settings.text? = some text ∧
    host.breakOff? made (.ofText path) (Octets.ofText text) = some (count, refusal) ∧
    error = .unwritable (.refused refusal) ∧
    after.at? (FilePath.ofText path).place = some (.file ((Octets.ofText text).take count)) ∧
    Spares tree after (· = (FilePath.ofText path).place)

/-- A save keeps to its target.  Where it fails, no file is touched, or the write of the target
was broken off; without a text nothing is touched at all.  Where it succeeds, the target holds the
text and no other file is touched.  Folders stay, and the new ones lie on the way to the target:
they are the folders around it, if the path never goes up. -/
structure KeepsToTarget (settings : Settings) (host : FileHost) (tree : FileTree) (path : String)
    (after : FileTree) (result : Except SettingsError Unit) : Prop where
  untouched : result = .error .numberTooLarge → after = tree
  failed : ∀ error, result = .error error →
    Spares tree after (fun _ => False) ∨ IsBrokenOff settings host tree path after error
  saved : result = .ok () → Spares tree after (· = (FilePath.ofText path).place) ∧
    ∃ text, settings.text? = some text ∧
      after.at? (FilePath.ofText path).place = some (.file (Octets.ofText text)) ∧
      after.look? (.ofText path) = some (.file (Octets.ofText text))
  folder_stays : ∀ place, tree.at? place = some .folder → after.at? place = some .folder
  folder_new : ∀ place, after.at? place = some .folder →
    tree.at? place = some .folder ∨ tree.at? place = none ∧ IsOnWay path place
  plain : ".." ∉ pathNames path → (FilePath.ofText path).place = pathNames path ∧
    ∀ place, IsOnWay path place → place <+: (pathNames path).dropLast

private theorem isOnWay_plain (hup : ".." ∉ pathNames path) :
    (FilePath.ofText path).place = pathNames path ∧
      ∀ place, IsOnWay path place → place <+: (pathNames path).dropLast :=
  ⟨FilePath.place_ofText hup, fun _ hway => hway.isPrefix hup⟩

private theorem keepsToTarget_of_grows {host : FileHost} {error : SettingsError}
    (hgrows : tree.Grows after (IsOnWay path)) (hnothing : error = .numberTooLarge → after = tree) :
    KeepsToTarget settings host tree path after (.error error) where
  untouched hsame := hnothing (Except.error.inj hsame)
  failed _ _ := .inl (spares_of_grows hgrows)
  saved hsaved := by cases hsaved
  folder_stays _ := hgrows.keeps.folder
  folder_new _ := hgrows.folder_cases
  plain := isOnWay_plain

/-- Where the file was opened, the tree differs by folders on the way and by the file. -/
private theorem keepsToTarget_of_write {host : FileHost} {result : Except SettingsError Unit}
    {made : FileTree} {contents : Octets} (hgrows : tree.Grows made (IsOnWay path))
    (hwritten : made.write contents (.ofText path) = .ok after)
    (hsaved : result = .ok () →
      ∃ text, settings.text? = some text ∧ contents = Octets.ofText text)
    (hfailed : ∀ error, result = .error error → ∃ text count refusal, settings.text? = some text ∧
      contents = (Octets.ofText text).take count ∧
      host.breakOff? made (.ofText path) (Octets.ofText text) = some (count, refusal) ∧
      error = .unwritable (.refused refusal)) :
    KeepsToTarget settings host tree path after result := by
  have hwrites := writes_place hwritten
  have hspares := spares_of_writes hgrows hwrites
  have htarget : after.at? (FilePath.ofText path).place = some (.file contents) := by
    rw [hwrites.at?, if_pos rfl]
  refine
    { untouched := fun hnumber => ?_
      failed := fun error herror => ?_
      saved := fun hok => ?_
      folder_stays := fun _ => (hgrows.keeps.trans hwrites.keeps).folder
      folder_new := fun place hfolder => hgrows.folder_cases ((hwrites.folder_iff place).mp hfolder)
      plain := isOnWay_plain }
  · obtain ⟨text, count, refusal, -, -, -, herror⟩ := hfailed _ hnumber
    cases herror
  · obtain ⟨text, count, refusal, htext, rfl, hbreak, rfl⟩ := hfailed error herror
    exact .inr ⟨text, made, count, refusal, htext, hbreak, rfl, htarget, hspares⟩
  · obtain ⟨text, htext, rfl⟩ := hsaved hok
    exact ⟨hspares, text, htext, htarget, look?_write hwritten⟩

theorem saving_touches_only_its_file (settings : Settings) (host : FileHost) (tree : FileTree)
    (path : String) :
    KeepsToTarget settings host tree path (settings.saveIn host tree path).1
      (settings.saveIn host tree path).2 := by
  rcases hsaved : settings.saveIn host tree path with ⟨after, result⟩
  rcases saveIn_cases hsaved with ⟨rfl, rfl⟩ | ⟨error, rfl, hnumber, hgrows⟩ |
    ⟨text, made, htext, hgrows, ⟨rfl, hwhole⟩ | ⟨count, refusal, hbreak, rfl, hpart⟩⟩
  · exact keepsToTarget_of_grows (.refl _ _) fun _ => rfl
  · exact keepsToTarget_of_grows hgrows fun hsame => absurd hsame hnumber
  · exact keepsToTarget_of_write hgrows hwhole (fun _ => ⟨text, htext, rfl⟩) fun _ herror => by
      cases herror
  · refine keepsToTarget_of_write hgrows hpart (fun hok => by cases hok) fun error herror => ?_
    exact ⟨text, count, refusal, htext, rfl, hbreak, (Except.error.inj herror).symm⟩

/-- A disk that is full lets one open a file, which empties it, and then takes no octet. -/
theorem full_disk_empties_the_file :
    let noRoom : Refusal := ⟨28, "No space left on device"⟩
    let host : FileHost := { breakOff? := fun _ _ _ => some (0, noRoom) }
    let tree : FileTree := .folder [("c.toml", .file (Octets.ofText "[pool]\n"))]
    let saved := ({} : Settings).saveIn host tree "c.toml"
    saved.2 = .error (.unwritable (.refused noRoom)) ∧
      tree.at? ["c.toml"] = some (.file (Octets.ofText "[pool]\n")) ∧
      saved.1.at? ["c.toml"] = some (.file []) :=
  ⟨rfl, rfl, rfl⟩

/-- Folders on the way are made before the way turns out to lead through a file. -/
example :
    let tree : FileTree := .folder [("f", .file [])]
    (({} : Settings).saveIn .usual tree "n/../f/c.toml").2 = .error (.noFolder .exists) ∧
      (({} : Settings).saveIn .usual tree "n/../f/c.toml").1.at? ["n"] = some .folder :=
  ⟨rfl, rfl⟩

end Settings

end Multiplex
