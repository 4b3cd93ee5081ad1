/-
# What is made in a tree of files

A name leads from directory to directory to a place.  Making the directories of a name puts a
directory where nothing was, at places on that way only, and keeps what is there; when it has
succeeded, all of the way is there.  Writing a file then changes its own place.  Both are said
for every entry of the tree, so that nothing else can have changed.
-/

import ApiDoc.Command.FileTree
import ApiDoc.Proofs.FileNames

namespace ApiDoc

/-- The places where a walk along parts stands before each of them. -/
def FileName.passed (path : List String) : List String → List (List String)
  | [] => []
  | part :: rest => path :: passed (step path part) rest

/-- The place that parts lead to. -/
def FileName.follow (path parts : List String) : List String :=
  parts.foldl step path

theorem FileName.mem_passed_concat (path parts : List String) (last : String) :
    path ∈ passed path (parts ++ [last]) := by
  cases parts with
  | nil => exact List.mem_cons_self
  | cons part rest => exact List.mem_cons_self

theorem FileName.follow_mem_passed_concat (path parts : List String) (last : String) :
    follow path parts ∈ passed path (parts ++ [last]) := by
  induction parts generalizing path with
  | nil => exact List.mem_cons_self
  | cons part rest ih => exact List.mem_cons_of_mem _ (ih (step path part))

theorem FileName.follow_concat (path parts : List String) (last : String) :
    follow path (parts ++ [last]) = step (follow path parts) last := by
  rw [follow, List.foldl_append]
  rfl

namespace FileTree

/-- The place that a name stands for. -/
def place (t : FileTree) (name : String) : List String :=
  FileName.follow (t.start name) (FileName.parts name)

/-- The directories that a name leads through: the one where its walk begins, and what each of
its parts but the last leads to. -/
def enclosing (t : FileTree) (name : String) : List (List String) :=
  FileName.passed (t.start name) (FileName.parts name)

variable {t before made after : FileTree} {path path' parts : List String} {name key last : String}
  {ways ways' : List (List String)}

/-! ## Entries -/

@[simp] theorem look?_nil (t : FileTree) : t.look? [] = some .directory := rfl

theorem look?_eq_get? (nonempty : path ≠ []) : t.look? path = t.entries.get? (joined path) := by
  rw [look?, if_neg (mt List.isEmpty_iff.mp nonempty)]

theorem ne_nil_of_look? (other : t.look? path ≠ some .directory) : path ≠ [] := by
  rintro rfl
  exact other rfl

theorem ne_nil_of_missing (missing : t.look? path = none) : path ≠ [] :=
  ne_nil_of_look? (t := t) (by rw [missing]; nofun)

theorem get?_put (t : FileTree) (path : List String) (entry : FileEntry) (key : String) :
    (t.put path entry).entries.get? key =
      if joined path = key then some entry else t.entries.get? key :=
  Table.get?_insert t.entries (joined path) key entry

theorem look?_put_self (nonempty : path ≠ []) (entry : FileEntry) :
    (t.put path entry).look? path = some entry := by
  rw [look?_eq_get? nonempty, get?_put, if_pos rfl]

/-- A put changes nothing at places that have another entry. -/
theorem look?_put_of_ne {entry : FileEntry} (apart : joined path ≠ joined path') :
    (t.put path entry).look? path' = t.look? path' := by
  by_cases root : path' = []
  · rw [root, look?_nil, look?_nil]
  · rw [look?_eq_get? root, look?_eq_get? root, get?_put, if_neg apart]

/-- Places of one entry hold the same, unless one of them is the root. -/
theorem look?_congr (same : joined path = joined path') (nonempty : path ≠ [])
    (nonempty' : path' ≠ []) : t.look? path = t.look? path' := by
  rw [look?_eq_get? nonempty, look?_eq_get? nonempty', same]

/-! ## Walks -/

/-- A walk gets to its end when all it passes are directories. -/
theorem walk_eq_some_iff : t.walk path parts = some path' ↔
    (∀ p ∈ FileName.passed path parts, t.look? p = some .directory) ∧
      FileName.follow path parts = path' := by
  induction parts generalizing path with
  | nil => simp [walk, FileName.passed, FileName.follow]
  | cons part rest ih =>
      rw [walk, FileName.passed, List.forall_mem_cons]
      split
      next isDirectory => simp [ih, isDirectory, FileName.follow]
      next other => simp [other]

theorem locate?_eq_some_iff : t.locate? name = some path ↔
    name ≠ "" ∧ (∀ p ∈ t.enclosing name, t.look? p = some .directory) ∧ t.place name = path := by
  rw [locate?]
  split
  next empty => simp [empty]
  next nonempty => simp [nonempty, walk_eq_some_iff, enclosing, place]

/-! ## Directories that are made -/

/-- From one tree to another nothing has changed but that directories were made at some places,
where nothing was before. -/
structure Makes (ways : List (List String)) (before after : FileTree) : Prop where
  home_eq : after.home = before.home
  sealed_eq : after.sealed = before.sealed
  entries : ∀ key, after.entries.get? key = before.entries.get? key ∨
    (∃ path ∈ ways, joined path = key ∧ before.look? path = none) ∧
      after.entries.get? key = some .directory

namespace Makes

theorem refl (ways : List (List String)) (t : FileTree) : Makes ways t t :=
  ⟨rfl, rfl, fun _ => .inl rfl⟩

theorem mono (makes : Makes ways before after) (more : ways ⊆ ways') :
    Makes ways' before after := by
  refine ⟨makes.home_eq, makes.sealed_eq, fun key => (makes.entries key).imp_right ?_⟩
  rintro ⟨⟨path, onWay, rest⟩, isDirectory⟩
  exact ⟨⟨path, more onWay, rest⟩, isDirectory⟩

/-- What was there is still there. -/
theorem look?_eq {entry : FileEntry} (makes : Makes ways before after)
    (found : before.look? path = some entry) : after.look? path = some entry := by
  by_cases root : path = []
  · rw [root, look?_nil] at found ⊢
    exact found
  · rw [look?_eq_get? root] at found ⊢
    rcases makes.entries (joined path) with same | ⟨⟨p, -, same, missing⟩, -⟩
    · rw [same, found]
    · rw [look?_eq_get? (ne_nil_of_missing missing), same, found] at missing
      cases missing

theorem trans (first : Makes ways before made) (second : Makes ways made after) :
    Makes ways before after := by
  refine ⟨second.home_eq.trans first.home_eq, second.sealed_eq.trans first.sealed_eq, fun key => ?_⟩
  rcases second.entries key with same | ⟨⟨path, onWay, isKey, missing⟩, isDirectory⟩
  · rw [same]
    exact first.entries key
  · refine .inr ⟨⟨path, onWay, isKey, ?_⟩, isDirectory⟩
    cases found : before.look? path with
    | none => rfl
    | some entry => rw [first.look?_eq found] at missing; cases missing

theorem put (onWay : path ∈ ways) (missing : t.look? path = none) :
    Makes ways t (t.put path .directory) := by
  refine ⟨rfl, rfl, fun key => ?_⟩
  rw [get?_put]
  split
  next isKey => exact .inr ⟨⟨path, onWay, isKey, missing⟩, rfl⟩
  next => exact .inl rfl

end Makes

/-- Making directories along parts makes what is missing on the way and changes nothing else,
whether or not it gets to the end. -/
theorem makes_makeAlong (t : FileTree) (path parts : List String) (last : String) :
    Makes (FileName.passed path (parts ++ [last])) t (t.makeAlong path parts).2 := by
  induction parts generalizing t path with
  | nil => exact .refl _ t
  | cons part rest ih =>
      have further : FileName.passed (FileName.step path part) (rest ++ [last]) ⊆
          FileName.passed path (part :: rest ++ [last]) := List.subset_cons_self _ _
      rw [makeAlong]
      split
      next => exact (ih t _).mono further
      next => exact .refl _ t
      next missing =>
        split
        · exact .refl _ t
        · have next := Makes.put (FileName.mem_passed_concat _ rest last) missing
          exact (next.trans (ih _ _)).mono further

/-- When making directories has succeeded, all of the way is there. -/
theorem look?_makeAlong {p : List String} (success : (t.makeAlong path parts).1 = .ok ())
    (begins : t.look? path = some .directory) (onWay : p ∈ FileName.passed path (parts ++ [last])) :
    (t.makeAlong path parts).2.look? p = some .directory := by
  induction parts generalizing t path with
  | nil =>
      obtain rfl : p = path := by simpa [FileName.passed] using onWay
      exact begins
  | cons part rest ih =>
      have kept := (makes_makeAlong t path (part :: rest) last).look?_eq begins
      rcases List.mem_cons.mp onWay with rfl | further
      · exact kept
      · rw [makeAlong] at success ⊢
        split at success
        next there => simpa only [there] using ih success there further
        next => cases success
        next missing =>
          split at success
          next => cases success
          next isOpen =>
            have there : (t.put (FileName.step path part) .directory).look? _ = some .directory :=
              look?_put_self (ne_nil_of_missing missing) .directory
            simpa only [missing, if_neg isOpen] using ih success there further

/-- Making directories succeeds where only directories are on the way and nothing is sealed. -/
theorem makeAlong_eq_ok
    (clear : ∀ p ∈ FileName.passed path (parts ++ [last]),
      t.look? p = none ∨ t.look? p = some .directory)
    (isOpen : ∀ p ∈ FileName.passed path (parts ++ [last]), ¬ t.isSealed p) :
    (t.makeAlong path parts).1 = .ok () := by
  induction parts generalizing t path with
  | nil => rfl
  | cons part rest ih =>
      obtain ⟨-, clearRest⟩ := List.forall_mem_cons.mp clear
      obtain ⟨openHere, openRest⟩ := List.forall_mem_cons.mp isOpen
      have next := FileName.mem_passed_concat (FileName.step path part) rest last
      rw [makeAlong]
      rcases clearRest _ next with missing | there
      · simp only [missing, if_neg openHere]
        refine ih (fun p onWay => ?_) openRest
        by_cases same : joined (FileName.step path part) = joined p
        · -- A place on the way may have been made already, under another path to it.
          by_cases root : p = []
          · exact .inr (root ▸ look?_nil _)
          · have made := look?_put_self (t := t) (ne_nil_of_missing missing) .directory
            rw [look?_congr same (ne_nil_of_missing missing) root] at made
            exact .inr made
        · rw [look?_put_of_ne same]
          exact clearRest p onWay
      · simp only [there]
        exact ih clearRest openRest

/-! ## Files that are written -/

/-- Nothing but a place that is not a directory and can be reached takes a file. -/
structure Takes (t : FileTree) (name : String) : Prop where
  named : name ≠ ""
  way : ∀ p ∈ t.enclosing name, t.look? p = some .directory
  notDirectory : FileName.asksDirectory name = false
  free : t.look? (t.place name) ≠ some .directory

/-- Writing a file changes its place only, or nothing. -/
theorem writeText_cases (t : FileTree) (name content : String) :
    (∃ reason, t.writeText name content = (.error reason, t)) ∨
      t.Takes name ∧ t.writeText name content = (.ok (), t.put (t.place name) (.file content)) := by
  rw [writeText]
  split
  next => exact .inl ⟨_, rfl⟩
  next path located =>
    obtain ⟨named, way, rfl⟩ := locate?_eq_some_iff.mp located
    split
    next => exact .inl ⟨_, rfl⟩
    next other =>
      obtain ⟨asks, free⟩ := not_or.mp other
      split
      next => exact .inl ⟨_, rfl⟩
      next =>
        split
        next => exact .inl ⟨_, rfl⟩
        next => exact .inr ⟨⟨named, way, Bool.eq_false_iff.mpr asks, free⟩, rfl⟩

theorem Takes.writeText_eq_ok (takes : t.Takes name)
    (inDirectory : t.look? (t.place name).dropLast = some .directory)
    (isOpen : ¬ t.isSealed (t.touched (t.place name))) (content : String) :
    (t.writeText name content).1 = .ok () := by
  have located := locate?_eq_some_iff.mpr ⟨takes.named, takes.way, rfl⟩
  simp [writeText, located, takes.notDirectory, takes.free, inDirectory, isOpen]

/-- What has been written to a file is what is read from it. -/
theorem Takes.readText_put (takes : t.Takes name) (content : String) :
    (t.put (t.place name) (.file content)).readText name = .ok content := by
  have nonempty := ne_nil_of_look? takes.free
  have located : (t.put (t.place name) (.file content)).locate? name = some (t.place name) := by
    refine locate?_eq_some_iff.mpr ⟨takes.named, fun p onWay => ?_, rfl⟩
    have there := takes.way p onWay
    by_cases same : joined (t.place name) = joined p
    · -- The file is none of the directories, which keep their entries.
      by_cases root : p = []
      · rw [root, look?_nil]
      · rw [look?_congr same.symm root nonempty] at there
        exact absurd there takes.free
    · rw [look?_put_of_ne same]
      exact there
  have found : (t.put (t.place name) (.file content)).find? name = some (.file content) := by
    simp [find?, located, look?_put_self nonempty, takes.notDirectory]
  rw [readText, found]

/-! ## Saving -/

/-- From one tree to another a file has been saved: its text can be read under its name, and
nothing else has changed but that the directories on the way to it were made where they were
missing. -/
structure Saved (name content : String) (before after : FileTree) : Prop where
  readsBack : after.readText name = .ok content
  home_eq : after.home = before.home
  sealed_eq : after.sealed = before.sealed
  elsewhere : ∀ key, key ≠ joined (before.place name) →
    after.entries.get? key = before.entries.get? key ∨
      (∃ path ∈ before.enclosing name, joined path = key ∧ before.look? path = none) ∧
        after.entries.get? key = some .directory

theorem start_eq_of_home_eq (same : after.home = before.home) (name : String) :
    after.start name = before.start name := by
  rw [start, start, same]

theorem place_eq_of_home_eq (same : after.home = before.home) (name : String) :
    after.place name = before.place name := by
  rw [place, place, start_eq_of_home_eq same]

theorem saved_put {content : String} (makes : Makes (before.enclosing name) before made)
    (takes : made.Takes name) :
    Saved name content before (made.put (made.place name) (.file content)) := by
  refine ⟨takes.readText_put content, makes.home_eq, makes.sealed_eq, fun key other => ?_⟩
  rw [get?_put, place_eq_of_home_eq makes.home_eq, if_neg (Ne.symm other)]
  exact makes.entries key

end FileTree

end ApiDoc
