import Multiplex.FileHost

/-!
# What changes in a file tree

A tree is looked at place by place: `FileTree.at?` says whether there is a file, a folder or
nothing.  Making a folder and writing a file change this at one place each, and the two are
put together to what a whole save may do.

Paths may go up again, so the place that a path leads to depends on the tree.  As long as
every folder stays a folder and every file a file (`FileTree.Keeps`), a path that led somewhere
still leads to the same place; a path that led nowhere may lead somewhere afterwards.

What a host lets one make or write is a part of what the tree alone allows.
-/

namespace Multiplex.FileTree

variable {tree first second third changed made : FileTree} {contents : Octets}
  {place other : List String}

/-! ## One place -/

@[simp] theorem at?_nil (tree : FileTree) : tree.at? [] = some tree.node := rfl

@[simp] theorem at?_file_cons (name : String) (rest : List String) :
    (file contents).at? (name :: rest) = none := rfl

theorem at?_folder_cons (entries : List (String × FileTree)) (name : String)
    (rest : List String) : (folder entries).at? (name :: rest) =
      (entries.lookup name).bind fun found => found.at? rest := by
  rw [at?, find?]
  cases entries.lookup name <;> rfl

theorem at?_put_self (entries : List (String × FileTree)) (name : String) (inner : FileTree)
    (rest : List String) :
    (folder (put entries name inner)).at? (name :: rest) = inner.at? rest := by
  rw [at?_folder_cons, lookup_put_self, Option.bind_some]

theorem at?_put_of_ne (entries : List (String × FileTree)) {name head : String} (inner : FileTree)
    (hne : head ≠ name) (rest : List String) :
    (folder (put entries name inner)).at? (head :: rest) =
      (folder entries).at? (head :: rest) := by
  rw [at?_folder_cons, at?_folder_cons, lookup_put_of_ne _ _ hne]

private theorem isSome_at?_of_prefix (hthere : (tree.at? place).isSome = true)
    (hbefore : other <+: place) :
    (tree.at? other).isSome = true := by
  induction other generalizing tree place with
  | nil => rfl
  | cons name rest ih =>
      obtain ⟨behind, rfl⟩ := hbefore
      cases tree with
      | file old => cases hthere
      | folder entries =>
          rw [List.cons_append, at?_folder_cons] at hthere
          rw [at?_folder_cons]
          cases hfound : entries.lookup name with
          | none => simp [hfound] at hthere
          | some found =>
              rw [hfound, Option.bind_some] at hthere
              exact ih hthere (List.prefix_append rest behind)

private theorem at?_makeFolders (hmade : tree.makeFolders place = .ok changed)
    (other : List String) :
    changed.at? other =
      if other <+: place ∧ (tree.at? other).isNone = true then some .folder
      else tree.at? other := by
  induction place generalizing tree changed other with
  | nil =>
      cases tree with
      | file old => cases hmade
      | folder entries =>
          obtain rfl := Except.ok.inj hmade
          cases other <;> simp
  | cons name path ih =>
      cases tree with
      | file old => cases hmade
      | folder entries =>
          rw [makeFolders] at hmade
          split at hmade
          next inner hinner =>
            obtain rfl := Except.ok.inj hmade
            cases other with
            | nil => simp [node]
            | cons head rest =>
                by_cases hhead : head = name
                · subst hhead
                  rw [at?_put_self, ih hinner, at?_folder_cons]
                  simp only [List.cons_prefix_cons, true_and]
                  cases entries.lookup head with
                  | some found => rfl
                  | none => cases rest <;> simp [empty, node, at?_folder_cons]
                · rw [at?_put_of_ne _ _ hhead]
                  exact (if_neg fun hboth => hhead (List.cons_prefix_cons.mp hboth.1).1).symm
          next => cases hmade

private theorem at?_writeFile (hwritten : tree.writeFile contents place = .ok changed) :
    tree.at? place ≠ some .folder ∧ ∀ other, changed.at? other =
      if other = place then some (.file contents) else tree.at? other := by
  induction place generalizing tree changed with
  | nil =>
      cases tree with
      | file old =>
          obtain rfl := Except.ok.inj hwritten
          refine ⟨by simp [node], fun other => ?_⟩
          cases other <;> simp [node]
      | folder entries => exact absurd hwritten (by simp [writeFile])
  | cons name path ih =>
      cases tree with
      | file old => exact absurd hwritten (by simp [writeFile])
      | folder entries =>
          rw [writeFile.eq_def] at hwritten
          dsimp only at hwritten
          split at hwritten
          next hnone =>
            -- The file is new, and nothing was below its name.
            obtain rfl := Except.ok.inj hwritten
            refine ⟨by simp [at?_folder_cons, hnone], fun other => ?_⟩
            cases other with
            | nil => simp [node]
            | cons head rest =>
                by_cases hhead : head = name
                · subst hhead
                  rw [at?_put_self, at?_folder_cons, hnone]
                  cases rest <;> simp [node]
                · rw [at?_put_of_ne _ _ hhead, if_neg (by simp [hhead])]
          next => cases hwritten
          next found hfound =>
            split at hwritten
            next inner hinner =>
              obtain rfl := Except.ok.inj hwritten
              obtain ⟨hfree, hinside⟩ := ih hinner
              refine ⟨by rwa [at?_folder_cons, hfound], fun other => ?_⟩
              cases other with
              | nil => simp [node]
              | cons head rest =>
                  by_cases hhead : head = name
                  · subst hhead
                    rw [at?_put_self, hinside, at?_folder_cons, hfound, Option.bind_some]
                    simp only [List.cons.injEq, true_and]
                  · rw [at?_put_of_ne _ _ hhead, if_neg (by simp [hhead])]
            next => cases hwritten

/-! ## Following a path -/

/-- Every folder of the first tree is a folder of the second, and every file a file. -/
structure Keeps (first second : FileTree) : Prop where
  folder : ∀ {place}, first.at? place = some .folder → second.at? place = some .folder
  file : ∀ {place old}, first.at? place = some (.file old) →
    ∃ contents, second.at? place = some (.file contents)

namespace Keeps

theorem refl (tree : FileTree) : tree.Keeps tree := ⟨id, fun hfile => ⟨_, hfile⟩⟩

theorem trans (hleft : first.Keeps second) (hright : second.Keeps third) : first.Keeps third where
  folder hfolder := hright.folder (hleft.folder hfolder)
  file hfile := by
    obtain ⟨contents, hmiddle⟩ := hleft.file hfile
    exact hright.file hmiddle

variable (hkeeps : first.Keeps second)
include hkeeps

theorem isSome (hthere : (first.at? place).isSome = true) : (second.at? place).isSome = true := by
  obtain ⟨found, hfound⟩ := Option.isSome_iff_exists.mp hthere
  cases found with
  | file old =>
      obtain ⟨contents, hfile⟩ := hkeeps.file hfound
      rw [hfile, Option.isSome_some]
  | folder => rw [hkeeps.folder hfound, Option.isSome_some]

/-- Steps that lead to a place still lead there. -/
theorem follow {start : List String} {steps : List PathStep}
    (hleads : first.follow start steps = .ok place) : second.follow start steps = .ok place := by
  induction steps generalizing start with
  | nil => exact hleads
  | cons step steps ih =>
      rw [FileTree.follow] at hleads ⊢
      cases hstart : first.at? start with
      | none => simp [hstart] at hleads
      | some found =>
          rw [hstart] at hleads
          cases found with
          | file old => cases hleads
          | folder =>
              rw [hkeeps.folder hstart]
              dsimp only at hleads ⊢
              split at hleads
              next hthere =>
                rw [if_pos (hkeeps.isSome hthere)]
                exact ih hleads
              next => cases hleads

end Keeps

theorem follow_append (tree : FileTree) (start : List String)
    (before steps : List PathStep) :
    tree.follow start (before ++ steps) =
      (tree.follow start before).bind fun place => tree.follow place steps := by
  induction before generalizing start with
  | nil => rfl
  | cons step before ih =>
      rw [List.cons_append, follow, follow]
      cases tree.at? start with
      | none => rfl
      | some found =>
          cases found with
          | file old => rfl
          | folder =>
              dsimp only
              split
              · exact ih (step.goal start)
              · rfl

/-- To take one more step is to stand in a folder from which it leads to something. -/
theorem follow_concat {before : List PathStep} {last : PathStep}
    (hleads : tree.follow [] before = .ok place) (hfolder : tree.at? place = some .folder)
    (hthere : (tree.at? (last.goal place)).isSome = true) :
    tree.follow [] (before ++ [last]) = .ok (last.goal place) := by
  rw [follow_append, hleads]
  show tree.follow place [last] = _
  rw [follow, hfolder]
  exact if_pos hthere

/-! ## Making folders -/

/-- Nothing was changed but that some folders were made. -/
def Grows (first second : FileTree) (isNew : List String → Prop) : Prop :=
  ∀ place, second.at? place = first.at? place ∨
    first.at? place = none ∧ second.at? place = some .folder ∧ isNew place

namespace Grows

variable {isNew isNewer : List String → Prop}

theorem refl (tree : FileTree) (isNew : List String → Prop) : tree.Grows tree isNew :=
  fun _ => .inl rfl

theorem keeps (hgrows : first.Grows second isNew) : first.Keeps second where
  folder {place} hfolder := by
    rcases hgrows place with hsame | ⟨hnone, -, -⟩
    · exact hsame.trans hfolder
    · simp [hfolder] at hnone
  file {place old} hfile := by
    rcases hgrows place with hsame | ⟨hnone, -, -⟩
    · exact ⟨old, hsame.trans hfile⟩
    · simp [hfile] at hnone

theorem mono (hgrows : first.Grows second isNew) (hnew : ∀ place, isNew place → isNewer place) :
    first.Grows second isNewer := fun place =>
  (hgrows place).imp_right fun ⟨hnone, hfolder, hplace⟩ => ⟨hnone, hfolder, hnew place hplace⟩

theorem trans (hleft : first.Grows second isNew) (hright : second.Grows third isNew) :
    first.Grows third isNew := by
  intro place
  rcases hright place with hsame | ⟨hnone, hfolder, hnew⟩
  · rw [hsame]
    exact hleft place
  · rcases hleft place with hbefore | ⟨-, hmiddle, -⟩
    · exact .inr ⟨hbefore ▸ hnone, hfolder, hnew⟩
    · simp [hmiddle] at hnone

theorem file_iff (hgrows : first.Grows second isNew) (place : List String) (contents : Octets) :
    second.at? place = some (.file contents) ↔ first.at? place = some (.file contents) := by
  rcases hgrows place with hsame | ⟨hnone, hfolder, -⟩
  · rw [hsame]
  · simp [hnone, hfolder]

end Grows

/-- The places on a way: those to which its first steps lead. -/
def LiesOn (tree : FileTree) (steps : List PathStep) (place : List String) : Prop :=
  ∃ before, before <+: steps ∧ tree.follow [] before = .ok place

private theorem LiesOn.longer {before : List PathStep} (hlies : tree.LiesOn before place)
    (steps : List PathStep) : tree.LiesOn (before ++ steps) place := by
  obtain ⟨first, hfirst, hleads⟩ := hlies
  exact ⟨first, hfirst.trans (List.prefix_append before steps), hleads⟩

theorem LiesOn.keeps {steps : List PathStep} (hlies : first.LiesOn steps place)
    (hkeeps : first.Keeps second) : second.LiesOn steps place := by
  obtain ⟨before, hbefore, hleads⟩ := hlies
  exact ⟨before, hbefore, hkeeps.follow hleads⟩

theorem grows_makeFolder {before : List PathStep} {last : PathStep}
    (hmade : tree.makeFolder before last = .ok made) :
    tree.Grows made (made.LiesOn (before ++ [last])) := by
  unfold makeFolder at hmade
  split at hmade
  next => cases hmade
  next start hstart =>
    split at hmade
    next => cases hmade
    next => cases hmade
    next name hfolder =>
      split at hmade
      next => cases hmade
      next hvacant =>
        have hthere : (tree.at? start).isSome = true := by rw [hfolder, Option.isSome_some]
        have hnone : tree.at? (start ++ [name]) = none := by simpa using hvacant
        have hat : ∀ other, made.at? other =
            if other = start ++ [name] then some .folder else tree.at? other := fun other => by
          rw [at?_makeFolders hmade other]
          by_cases hother : other = start ++ [name]
          · subst hother
            simp [hnone]
          · -- What is before the new folder was there.
            have hbefore : ¬ (other <+: start ++ [name] ∧ (tree.at? other).isNone = true) := by
              rintro ⟨hshort, hnone⟩
              rcases List.prefix_concat_iff.mp hshort with hsame | hshorter
              · exact hother hsame
              · have hsome := isSome_at?_of_prefix hthere hshorter
                simp [Option.isNone_iff_eq_none.mp hnone] at hsome
            rw [if_neg hbefore, if_neg hother]
        have hgrows : tree.Grows made (· = start ++ [name]) := fun place => by
          rw [hat place]
          split
          next hplace =>
            subst hplace
            exact .inr ⟨hnone, rfl, rfl⟩
          next => exact .inl rfl
        refine hgrows.mono ?_
        rintro place rfl
        refine ⟨before ++ [.enter name], List.prefix_refl _, ?_⟩
        exact follow_concat (hgrows.keeps.follow hstart) (hgrows.keeps.folder hfolder)
          (by simp [PathStep.goal, hat])
    next => cases hmade

theorem makeFolder_of_host {host : FileHost} {before : List PathStep} {last : PathStep}
    (hmade : host.makeFolder tree before last = .ok made) :
    tree.makeFolder before last = .ok made := by
  unfold FileHost.makeFolder at hmade
  split at hmade
  · cases hmade
  · exact hmade

@[simp] theorem fst_settle (host : FileHost) (tree : FileTree) (way : List PathStep)
    (fault : FileFault) : (host.settle tree way fault).1 = tree := rfl

/-- On a way, folders are made at its places only, whether the last is reached or not. -/
theorem grows_makeWay (host : FileHost) (tree : FileTree) (way : List PathStep) :
    tree.Grows (host.makeWay tree way).1 ((host.makeWay tree way).1.LiesOn way.reverse) := by
  induction way generalizing tree with
  | nil => exact .refl tree _
  | cons last before ih =>
      rw [FileHost.makeWay, List.reverse_cons]
      split
      next made hmade => exact grows_makeFolder (makeFolder_of_host hmade)
      next =>
        split
        next =>
          have hway : tree.Grows (host.makeWay tree before).1
              ((host.makeWay tree before).1.LiesOn (before.reverse ++ [last])) :=
            (ih tree).mono fun place hlies => hlies.longer [last]
          split
          next hfailed => rwa [hfailed] at hway
          next made hdone =>
            rw [hdone] at hway
            split
            next hcomplete =>
              have hlast := grows_makeFolder (makeFolder_of_host hcomplete)
              exact (hway.mono fun place hlies => hlies.keeps hlast.keeps).trans hlast
            next => exact hway
        next => exact .refl tree _

/-! ## Writing a file -/

/-- Nothing was changed but the file at one place. -/
structure Writes (first second : FileTree) (contents : Octets) (target : List String) : Prop where
  free : first.at? target ≠ some .folder
  at? : ∀ place, second.at? place =
    if place = target then some (.file contents) else first.at? place

namespace Writes

variable {target : List String} (hwrites : first.Writes second contents target)
include hwrites

theorem keeps : first.Keeps second where
  folder {place} hfolder := by
    have hne : place ≠ target := fun hsame => hwrites.free (hsame ▸ hfolder)
    rw [hwrites.at?, if_neg hne, hfolder]
  file {place old} hfile := by
    rw [hwrites.at?]
    split
    · exact ⟨contents, rfl⟩
    · exact ⟨old, hfile⟩

theorem folder_iff (place : List String) :
    second.at? place = some .folder ↔ first.at? place = some .folder := by
  rw [hwrites.at?]
  split
  next hplace =>
    subst hplace
    simp [hwrites.free]
  next => rfl

end Writes

/-- To write by a path is to write the file that the path then leads to. -/
theorem writes_of_write {path : FilePath} (hwritten : tree.write contents path = .ok changed) :
    path.fullSteps ≠ [] ∧ ∃ target, changed.follow [] path.fullSteps = .ok target ∧
      tree.Writes changed contents target := by
  unfold write at hwritten
  split at hwritten
  next => cases hwritten
  next last hlast =>
    obtain ⟨before, hsteps⟩ := List.getLast?_eq_some_iff.mp hlast
    rw [hsteps, List.dropLast_concat] at hwritten
    split at hwritten
    next => cases hwritten
    next start hstart =>
      split at hwritten
      next => cases hwritten
      next => cases hwritten
      next name hfolder =>
        split at hwritten
        next => cases hwritten
        next hslash =>
          have hfull : path.fullSteps = before ++ [.enter name] := by
            rw [FilePath.fullSteps, if_neg hslash, List.append_nil, hsteps]
          obtain ⟨hfree, hat⟩ := at?_writeFile hwritten
          have hwrites : tree.Writes changed contents (start ++ [name]) := ⟨hfree, hat⟩
          refine ⟨by simp [hfull], start ++ [name], ?_, hwrites⟩
          rw [hfull]
          exact follow_concat (hwrites.keeps.follow hstart) (hwrites.keeps.folder hfolder)
            (by simp [PathStep.goal, hat])
      next => cases hwritten

/-- What a path leads to, where it leads to a place. -/
theorem look?_of_follow {path : FilePath} (hsteps : path.fullSteps ≠ [])
    (hleads : tree.follow [] path.fullSteps = .ok place) : tree.look? path = tree.at? place := by
  rw [look?, if_neg (by simpa using hsteps), hleads]

/-- What was written is what is found by the same path. -/
theorem look?_write {path : FilePath} (hwritten : tree.write contents path = .ok changed) :
    changed.look? path = some (.file contents) := by
  obtain ⟨hsteps, target, hleads, hwrites⟩ := writes_of_write hwritten
  rw [look?_of_follow hsteps hleads, hwrites.at?, if_pos rfl]

/-- A host lets one write the whole file, or nothing, or breaks off after some octets. -/
theorem write_cases {host : FileHost} {path : FilePath} {result : Except FileFault Unit}
    (hwritten : host.write tree contents path = (changed, result)) :
    (result = .ok () ∧ host.refusal? tree .openFile path = none ∧
      tree.write contents path = .ok changed) ∨
    ((∃ fault, result = .error fault) ∧ changed = tree) ∨
    ∃ count refusal, host.breakOff? tree path contents = some (count, refusal) ∧
      result = .error (.refused refusal) ∧ tree.write (contents.take count) path = .ok changed := by
  unfold FileHost.write at hwritten
  split at hwritten
  next =>
    cases hwritten
    exact .inr (.inl ⟨⟨_, rfl⟩, rfl⟩)
  next hlets =>
    cases hbreak : host.breakOff? tree path contents with
    | none =>
        simp only [hbreak] at hwritten
        split at hwritten
        next =>
          cases hwritten
          exact .inr (.inl ⟨⟨_, rfl⟩, rfl⟩)
        next hopened =>
          cases hwritten
          exact .inl ⟨rfl, hlets, hopened⟩
    | some broken =>
        simp only [hbreak] at hwritten
        split at hwritten
        next =>
          cases hwritten
          exact .inr (.inl ⟨⟨_, rfl⟩, rfl⟩)
        next hopened =>
          cases hwritten
          exact .inr (.inr ⟨broken.1, broken.2, rfl, rfl, hopened⟩)

/-! ## Names that are too long -/

/-- Whether one comes to a name that is too long is decided by the folders that there are. -/
private theorem meetsLongName_congr (hfolders : ∀ place,
    first.at? place = some .folder ↔ second.at? place = some .folder)
    (start : List String) (steps : List PathStep) :
    first.meetsLongName start steps = second.meetsLongName start steps := by
  induction steps generalizing start with
  | nil => rfl
  | cons step steps ih =>
      have hstart : (first.at? start == some .folder) = (second.at? start == some .folder) := by
        rw [Bool.eq_iff_iff, beq_iff_eq, beq_iff_eq]
        exact hfolders start
      rw [meetsLongName, meetsLongName, hstart, ih]

/-- Whoever came to a place without meeting such a name still does. -/
theorem Keeps.meetsLongName (hkeeps : first.Keeps second) {start : List String}
    {steps : List PathStep} (hleads : first.follow start steps = .ok place) :
    second.meetsLongName start steps = first.meetsLongName start steps := by
  induction steps generalizing start with
  | nil => rfl
  | cons step steps ih =>
      rw [FileTree.follow] at hleads
      cases hstart : first.at? start with
      | none => simp [hstart] at hleads
      | some found =>
          rw [hstart] at hleads
          cases found with
          | file old => cases hleads
          | folder =>
              dsimp only at hleads
              split at hleads
              next =>
                rw [FileTree.meetsLongName, FileTree.meetsLongName, ih hleads, hstart,
                  hkeeps.folder hstart]
              next => cases hleads

/-- To write a file makes no difference to what the usual host refuses. -/
theorem Writes.refusal?_usual {target : List String} (hwrites : first.Writes second contents target)
    (act other : FileAct) (path : FilePath) :
    FileHost.usual.refusal? second act path = FileHost.usual.refusal? first other path := by
  have hnames := meetsLongName_congr hwrites.folder_iff [] path.steps
  show (if 4096 < path.size || second.meetsLongName [] path.steps then _ else none) = _
  rw [hnames]
  rfl

end Multiplex.FileTree
