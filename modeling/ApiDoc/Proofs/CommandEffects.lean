/-
# What the command does to files

The command reads, generates and renders before it writes.  Reading leaves the files as they are
and the rest happens without them, so when the input has no document the error is all that is left
of the run.  What the input holds decides which error that is, or which document.  The document is
printed, or it is saved under the name that is given.  Saving may still be refused; then directories
may have been made on the way to the file, but no file has changed.  Rendering a document is total:
there is no document without a text.
-/

import ApiDoc.Command.Program
import ApiDoc.Proofs.FileTree
import ApiDoc.Proofs.Traversal

namespace ApiDoc

/-- When a text is no description, the error names its file and the format. -/
theorem Spec.exists_reason_of_ofText_error {name text : String} {format : Format} {e : Error}
    (failed : Spec.ofText name format text = .error e) :
    ∃ reason, e = .serialization ("Invalid " ++ (if format = .json then "JSON" else "YAML") ++
      " in " ++ Text.quoted name ++ ": " ++ reason) := by
  cases format with
  | json =>
      rw [ofText] at failed
      split at failed
      next => exact ⟨_, (Except.error.inj failed).symm⟩
      next =>
        obtain ⟨problem, -, rfl⟩ := mapError_eq_error_iff.mp failed
        exact ⟨problem.message, rfl⟩
  | yaml =>
      rw [ofText] at failed
      split at failed
      next => exact ⟨_, (Except.error.inj failed).symm⟩
      next =>
        split at failed
        next => exact ⟨_, (Except.error.inj failed).symm⟩
        next =>
          obtain ⟨problem, -, rfl⟩ := mapError_eq_error_iff.mp failed
          exact ⟨problem.message, rfl⟩

namespace FileTree

variable {t : FileTree} {name : String}

/-! ## Saving a text -/

/-- The directory of a file is made before the file is written. -/
def prepare (t : FileTree) (name : String) : Except String Unit × FileTree :=
  (FileName.parent? name).elim (.ok (), t) t.makeDirectories

/-- Preparing a name of several parts is making directories along all of them but the last. -/
theorem prepare_eq (begins : t.look? (t.start name) = some .directory) :
    t.prepare name = t.makeAlong (t.start name) (FileName.parts name).dropLast := by
  rw [prepare]
  cases above : FileName.parent? name with
  | none =>
      rw [FileName.dropLast_parts_of_parent?_eq_none above]
      rfl
  | some directory =>
      obtain ⟨sameStart, parts⟩ := FileName.parts_of_parent? above
      have same : t.start directory = t.start name := by rw [start, start, sameStart]
      rw [Option.elim_some, makeDirectories, same, if_pos begins, parts]

/-- Where a walk has nowhere to begin, nothing is made. -/
theorem prepare_of_no_start (missing : t.look? (t.start name) ≠ some .directory) :
    (t.prepare name).2 = t := by
  rw [prepare]
  cases above : FileName.parent? name with
  | none => rfl
  | some directory =>
      obtain ⟨sameStart, -⟩ := FileName.parts_of_parent? above
      have same : t.start directory = t.start name := by rw [start, start, sameStart]
      rw [Option.elim_some, makeDirectories, same, if_neg missing]

theorem enclosing_eq_passed {parts : List String} {last : String}
    (split : FileName.parts name = parts ++ [last]) :
    t.enclosing name = FileName.passed (t.start name) (parts ++ [last]) := by
  rw [enclosing, split]

theorem makes_prepare (t : FileTree) (name : String) :
    Makes (t.enclosing name) t (t.prepare name).2 := by
  by_cases begins : t.look? (t.start name) = some .directory
  · rw [prepare_eq begins]
    rcases List.eq_nil_or_concat' (FileName.parts name) with none | ⟨parts, last, split⟩
    · rw [none]
      exact .refl _ t
    · rw [enclosing_eq_passed split, split, List.dropLast_concat]
      exact makes_makeAlong t (t.start name) parts last
  · rw [prepare_of_no_start begins]
    exact .refl _ t

/-- Writing a text when the directory of the file is there. -/
theorem run_write (t : FileTree) (name text : String) :
    (do match ← FileTree.system.writeText name text with
        | .error reason => return .error (.io reason)
        | .ok () => return .ok () : StateM FileTree (Except Error Unit)).run t =
      ((t.writeText name text).1.mapError .io, (t.writeText name text).2) := by
  show (match (t.writeText name text).1 with
    | .error reason => pure (.error (.io reason))
    | .ok () => pure (.ok ()) : StateM FileTree (Except Error Unit)).run (t.writeText name text).2 = _
  rcases t.writeText name text with ⟨_ | _, after⟩
  · rfl
  · rfl

/-- A text is written when the directory of the file could be made. -/
theorem run_save (t : FileTree) (name text : String) :
    (CommandResult.save FileTree.system name text).run t =
      match (t.prepare name).1 with
      | .error reason => (.error (.io reason), (t.prepare name).2)
      | .ok () =>
        (((t.prepare name).2.writeText name text).1.mapError .io,
          ((t.prepare name).2.writeText name text).2) := by
  rw [CommandResult.save, prepare]
  cases FileName.parent? name with
  | none => exact run_write t name text
  | some directory =>
      show (match (t.makeDirectories directory).1 with
        | .error reason => pure (.error (.io reason))
        | .ok () => _ : StateM FileTree (Except Error Unit)).run (t.makeDirectories directory).2 = _
      rw [Option.elim_some]
      rcases t.makeDirectories directory with ⟨_ | _, made⟩
      · rfl
      · exact run_write made name text

/-- A text is saved, or nothing has changed but that directories were made. -/
theorem save_cases (t : FileTree) (name text : String) :
    (∃ reason after, (CommandResult.save FileTree.system name text).run t =
        (.error (.io reason), after) ∧ Makes (t.enclosing name) t after) ∨
      ∃ after, (CommandResult.save FileTree.system name text).run t = (.ok (), after) ∧
        Saved name text t after := by
  have makes := makes_prepare t name
  rw [run_save]
  split
  next reason _ => exact .inl ⟨reason, _, rfl, makes⟩
  next =>
    rcases writeText_cases (t.prepare name).2 name text with ⟨reason, refused⟩ | ⟨takes, written⟩
    · rw [refused]
      exact .inl ⟨reason, _, rfl, makes⟩
    · rw [written]
      exact .inr ⟨_, rfl, saved_put makes takes⟩

/-- Nothing is in the way of a file: there are directories or nothing on the way to it, at its
own place is no directory, and nothing is sealed. -/
structure HasRoomFor (t : FileTree) (name : String) : Prop where
  notDirectory : FileName.asksDirectory name = false
  ends : (FileName.parts name).getLast? ≠ some ".."
  begins : t.look? (t.start name) = some .directory
  way : ∀ p ∈ t.enclosing name, t.look? p = none ∨ t.look? p = some .directory
  free : t.look? (t.place name) ≠ some .directory
  apart : ∀ p ∈ t.enclosing name, joined p ≠ joined (t.place name)
  isOpen : ∀ p ∈ t.place name :: t.enclosing name, ¬ t.isSealed p

namespace HasRoomFor

/-- A name without parts stands for the directory where its walk begins, which takes no file. -/
theorem exists_split (room : t.HasRoomFor name) :
    ∃ parts last, FileName.parts name = parts ++ [last] ∧ last ≠ ".." := by
  rcases List.eq_nil_or_concat' (FileName.parts name) with none | ⟨parts, last, split⟩
  · have here : t.place name = t.start name := by rw [place, none]; rfl
    exact absurd (here ▸ room.begins) room.free
  · exact ⟨parts, last, split, fun up => room.ends (by rw [split, List.getLast?_concat, up])⟩

/-- The directory that the file is in is one of those its name leads through. -/
theorem dropLast_mem_enclosing (room : t.HasRoomFor name) :
    (t.place name).dropLast ∈ t.enclosing name := by
  obtain ⟨parts, last, split, notUp⟩ := room.exists_split
  rw [enclosing_eq_passed split, place, split, FileName.follow_concat, FileName.step, if_neg notUp,
    List.dropLast_concat]
  exact FileName.follow_mem_passed_concat _ _ _

theorem prepare_eq_ok (room : t.HasRoomFor name) : (t.prepare name).1 = .ok () ∧
    ∀ p ∈ t.enclosing name, (t.prepare name).2.look? p = some .directory := by
  obtain ⟨parts, last, split, -⟩ := room.exists_split
  have openWay : ∀ p ∈ t.enclosing name, ¬ t.isSealed p :=
    fun p onWay => room.isOpen p (List.mem_cons_of_mem _ onWay)
  have way := room.way
  rw [enclosing_eq_passed split] at way openWay ⊢
  rw [prepare_eq room.begins, split, List.dropLast_concat]
  have made := makeAlong_eq_ok way openWay
  exact ⟨made, fun p onWay => look?_makeAlong made room.begins onWay⟩

/-- The directories on the way leave the place of the file free. -/
theorem takes_prepare (room : t.HasRoomFor name) : (t.prepare name).2.Takes name := by
  have makes := makes_prepare t name
  have named : name ≠ "" := by
    rintro rfl
    exact absurd room.notDirectory (by decide)
  refine ⟨named, ?_, room.notDirectory, ?_⟩
  · rw [enclosing, start_eq_of_home_eq makes.home_eq]
    exact room.prepare_eq_ok.2
  · have free := room.free
    rw [place_eq_of_home_eq makes.home_eq]
    rw [look?_eq_get? (ne_nil_of_look? room.free)] at free ⊢
    -- What was made is on the way to the file, and the place of the file is not.
    rcases makes.entries (joined (t.place name)) with same | ⟨⟨p, onWay, same, -⟩, -⟩
    · rwa [same]
    · exact absurd same (room.apart p onWay)

/-- Where nothing is in the way, a text is saved. -/
theorem run_save_eq_ok (room : t.HasRoomFor name) (text : String) :
    ((CommandResult.save FileTree.system name text).run t).1 = .ok () := by
  obtain ⟨made, there⟩ := room.prepare_eq_ok
  have makes := makes_prepare t name
  have samePlace := place_eq_of_home_eq makes.home_eq name
  have isOpen : ∀ p ∈ t.place name :: t.enclosing name, ¬ (t.prepare name).2.isSealed p := by
    intro p listed
    rw [isSealed, makes.sealed_eq]
    exact room.isOpen p listed
  have written : ((t.prepare name).2.writeText name text).1 = .ok () := by
    apply room.takes_prepare.writeText_eq_ok
    · rw [samePlace]
      exact there _ room.dropLast_mem_enclosing
    · rw [samePlace, touched]
      split
      · exact isOpen _ List.mem_cons_self
      · exact isOpen _ (List.mem_cons_of_mem _ room.dropLast_mem_enclosing)
  rw [run_save, made, written]
  rfl

example : (put ⟨.empty, ["home"], []⟩ ["home"] .directory).HasRoomFor "docs/api.yaml" where
  notDirectory := by decide
  ends := by decide
  begins := by decide
  way := by decide
  free := by decide
  apart := by decide
  isOpen := by decide

end HasRoomFor

/-! ## The command -/

/-- The description that a file holds, or why there is none. -/
def description (t : FileTree) (input : String) : Except Error Spec :=
  ((CommandResult.load FileTree.system input).run t).1

/-- The document of the description that a file holds, or why there is none. -/
def document (t : FileTree) (input : String) : Except Error Document := do
  let spec ← t.description input
  spec.document.outcome

/-- What a run of the command leaves, and the files after it. -/
def generate (t : FileTree) (input : String) (output : Option String) : CommandResult × FileTree :=
  (CommandResult.run FileTree.system input output).run t

variable {input : String} {output : Option String} {e : Error} {d : Document}

/-! ### What a file holds -/

theorem run_readText (t : FileTree) (name : String) :
    (FileTree.system.readText name).run t = (t.readText name, t) :=
  rfl

/-- Where no file is, the error names what was looked for. -/
theorem description_of_missing (missing : t.readText input = .error .missing) :
    t.description input =
      .error (.general ("API description not found: " ++ Text.quoted input)) := by
  rw [description, CommandResult.load, StateT.run_bind, run_readText, missing]
  rfl

/-- What cannot be read is refused for the reason that the file system gives. -/
theorem description_of_refused {reason : String}
    (refused : t.readText input = .error (.refused reason)) :
    t.description input = .error (.io reason) := by
  rw [description, CommandResult.load, StateT.run_bind, run_readText, refused]
  rfl

/-- A text is read in the format that the name of its file tells. -/
theorem description_of_text {text : String} (read : t.readText input = .ok text) :
    t.description input = Spec.ofText input (FileName.format input) text := by
  rw [description, CommandResult.load, StateT.run_bind, run_readText, read]
  rfl

/-- There is a document exactly if the file holds the text of a description that has one. -/
theorem document_eq_ok_iff : t.document input = .ok d ↔
    ∃ text spec, t.readText input = .ok text ∧
      Spec.ofText input (FileName.format input) text = .ok spec ∧
      spec.document.outcome = .ok d := by
  rw [document, bind_eq_ok_iff]
  cases read : t.readText input with
  | ok text => simp [description_of_text read]
  | error failure =>
      cases failure with
      | missing => simp [description_of_missing read]
      | refused reason => simp [description_of_refused read]

/-- Without a document the error is that of reading the file, that of reading its text, or that
of generating a document of what the text describes. -/
theorem document_eq_error_iff : t.document input = .error e ↔
    (t.readText input = .error .missing ∧
        e = .general ("API description not found: " ++ Text.quoted input)) ∨
      (∃ reason, t.readText input = .error (.refused reason) ∧ e = .io reason) ∨
      ∃ text, t.readText input = .ok text ∧
        (Spec.ofText input (FileName.format input) text = .error e ∨
          ∃ spec, Spec.ofText input (FileName.format input) text = .ok spec ∧
            spec.document.outcome = .error e) := by
  rw [document, bind_eq_error_iff]
  cases read : t.readText input with
  | ok text => simp [description_of_text read]
  | error failure =>
      cases failure with
      | missing => simp [description_of_missing read, eq_comm]
      | refused reason => simp [description_of_refused read, eq_comm]

/-! ### Runs -/

/-- Reading leaves the files as they are. -/
theorem run_load (t : FileTree) (input : String) :
    (CommandResult.load FileTree.system input).run t = (t.description input, t) := by
  rw [description, CommandResult.load, StateT.run_bind, run_readText]
  rcases t.readText input with (_ | _) | _ <;> rfl

theorem run_bind_load {β : Type} (t : FileTree) (input : String)
    (next : Except Error Spec → StateM FileTree β) :
    (CommandResult.load FileTree.system input >>= next).run t =
      (next (t.description input)).run t := by
  rw [StateT.run_bind, run_load]
  rfl

/-- Without a document the run ends with the error. -/
theorem generate_of_error (failed : t.document input = .error e) (output : Option String) :
    ∃ events, t.generate input output = (CommandResult.failed events e, t) := by
  rw [generate, CommandResult.run, run_bind_load]
  rcases bind_eq_error_iff.mp failed with unread | ⟨spec, loaded, refused⟩
  · exact ⟨[], by rw [unread]; rfl⟩
  · exact ⟨spec.document.events, by simp only [loaded, refused]; rfl⟩

/-- Without a name to save it under, a document is printed. -/
theorem generate_none (made : t.document input = .ok d) :
    ∃ events, t.generate input none =
      ({ events := events, output := d.toJson.pretty ++ "\n" }, t) := by
  obtain ⟨spec, loaded, finished⟩ := bind_eq_ok_iff.mp made
  rw [generate, CommandResult.run, run_bind_load]
  exact ⟨spec.document.events, by simp only [loaded, finished]; rfl⟩

/-- With a name, a document is saved under it. -/
theorem generate_some (made : t.document input = .ok d) (name : String) :
    ∃ events events', t.generate input (some name) =
      match (CommandResult.save FileTree.system name (d.render (FileName.format name))).run t with
      | (.error e, after) => (CommandResult.failed events e, after)
      | (.ok (), after) => ({ events := events' }, after) := by
  obtain ⟨spec, loaded, finished⟩ := bind_eq_ok_iff.mp made
  rw [generate, CommandResult.run, run_bind_load]
  refine ⟨spec.document.events, spec.document.events ++ [.documentWritten name], ?_⟩
  simp only [loaded, finished]
  rw [StateT.run_bind]
  rcases (CommandResult.save FileTree.system name (d.render (FileName.format name))).run t with
    ⟨_ | _, after⟩
  · rfl
  · rfl

/-- A document is rendered as YAML if the name of its file says so, and as JSON otherwise. -/
theorem render_format (d : Document) (name : String) :
    (FileName.IsYaml name → d.render (FileName.format name) = Yaml.render d.toJson) ∧
      (¬ FileName.IsYaml name → d.render (FileName.format name) = d.toJson.pretty) := by
  rw [← FileName.format_eq_yaml_iff]
  cases FileName.format name with
  | json => exact ⟨nofun, fun _ => rfl⟩
  | yaml => exact ⟨fun _ => rfl, fun other => absurd rfl other⟩

/-- What a run of the command leaves of files, output and errors: all that it is asked for or
nothing.  Only where a file cannot be written, directories that were made for it may stay. -/
structure AllOrNothing (t : FileTree) (input : String) (output : Option String)
    (result : CommandResult) (after : FileTree) : Prop where
  /-- Without a description, or without a document of it, the error is all there is. -/
  failed : ∀ e, t.document input = .error e →
    result.error = some e ∧ result.output = "" ∧ after = t
  /-- Without a name to save it under, the document is printed. -/
  printed : ∀ d, t.document input = .ok d → output = none →
    result.error = none ∧ result.output = d.toJson.pretty ++ "\n" ∧ after = t
  /-- The name of the file alone decides how the document is rendered in it. -/
  saved : ∀ d name, t.document input = .ok d → output = some name → result.error = none →
    result.output = "" ∧ ∃ content, Saved name content t after ∧
      (FileName.IsYaml name → content = Yaml.render d.toJson) ∧
      (¬ FileName.IsYaml name → content = d.toJson.pretty)
  /-- The file may be refused, but then no file has changed. -/
  unsaved : ∀ d name e, t.document input = .ok d → output = some name → result.error = some e →
    (∃ reason, e = .io reason) ∧ result.output = "" ∧ Makes (t.enclosing name) t after
  /-- It is not refused where nothing is in the way. -/
  accepted : ∀ d name, t.document input = .ok d → output = some name → t.HasRoomFor name →
    result.error = none

theorem document_ne_error (made : t.document input = .ok d) (e : Error) :
    t.document input ≠ .error e := by
  rw [made]
  nofun

theorem allOrNothing_of_error (failed : t.document input = .error e) (output : Option String)
    (events : List Event) :
    AllOrNothing t input output (CommandResult.failed events e) t := by
  have noDocument : ∀ d, t.document input ≠ .ok d := fun d made => document_ne_error made e failed
  apply AllOrNothing.mk
  case failed =>
    intro e' failed'
    obtain rfl : e = e' := Except.error.inj (failed.symm.trans failed')
    exact ⟨rfl, rfl, rfl⟩
  case printed => exact fun d made => absurd made (noDocument d)
  case saved => exact fun d _ made => absurd made (noDocument d)
  case unsaved => exact fun d _ _ made => absurd made (noDocument d)
  case accepted => exact fun d _ made => absurd made (noDocument d)

theorem allOrNothing_of_printed (made : t.document input = .ok d) (events : List Event) :
    AllOrNothing t input none { events := events, output := d.toJson.pretty ++ "\n" } t := by
  apply AllOrNothing.mk
  case failed => exact fun e failed => absurd failed (document_ne_error made e)
  case printed =>
    intro d' made' _
    obtain rfl : d = d' := Except.ok.inj (made.symm.trans made')
    exact ⟨rfl, rfl, rfl⟩
  case saved => exact fun _ _ _ named => nomatch named
  case unsaved => exact fun _ _ _ _ named => nomatch named
  case accepted => exact fun _ _ _ named => nomatch named

theorem allOrNothing_of_saved {after : FileTree} (made : t.document input = .ok d)
    (saved : Saved name (d.render (FileName.format name)) t after) (events : List Event) :
    AllOrNothing t input (some name) { events := events } after := by
  apply AllOrNothing.mk
  case failed => exact fun e failed => absurd failed (document_ne_error made e)
  case printed => exact fun _ _ unnamed => nomatch unnamed
  case saved =>
    rintro d' _ made' ⟨⟩ _
    obtain rfl : d = d' := Except.ok.inj (made.symm.trans made')
    exact ⟨rfl, _, saved, render_format d name⟩
  case unsaved => exact fun _ _ _ _ _ refused => nomatch refused
  case accepted => exact fun _ _ _ _ _ => rfl

theorem allOrNothing_of_refused {after : FileTree} {reason : String}
    (made : t.document input = .ok d) (makes : Makes (t.enclosing name) t after)
    (noRoom : ¬ t.HasRoomFor name) (events : List Event) :
    AllOrNothing t input (some name) (CommandResult.failed events (.io reason)) after := by
  apply AllOrNothing.mk
  case failed => exact fun e failed => absurd failed (document_ne_error made e)
  case printed => exact fun _ _ unnamed => nomatch unnamed
  case saved => exact fun _ _ _ _ succeeded => nomatch succeeded
  case unsaved =>
    rintro _ _ _ _ ⟨⟩ ⟨⟩
    exact ⟨⟨reason, rfl⟩, rfl, makes⟩
  case accepted =>
    rintro _ _ _ ⟨⟩ room
    exact absurd room noRoom

theorem allOrNothing_generate (t : FileTree) (input : String) (output : Option String) :
    AllOrNothing t input output (t.generate input output).1 (t.generate input output).2 := by
  cases made : t.document input with
  | error e =>
      obtain ⟨events, run⟩ := generate_of_error made output
      rw [run]
      exact allOrNothing_of_error made output events
  | ok d =>
      cases output with
      | none =>
          obtain ⟨events, run⟩ := generate_none made
          rw [run]
          exact allOrNothing_of_printed made events
      | some name =>
          obtain ⟨events, events', run⟩ := generate_some made name
          rw [run]
          rcases save_cases t name (d.render (FileName.format name)) with
            ⟨reason, after, refused, makes⟩ | ⟨after, success, saved⟩
          · have noRoom : ¬ t.HasRoomFor name := by
              intro room
              have success := room.run_save_eq_ok (d.render (FileName.format name))
              rw [refused] at success
              cases success
            rw [refused]
            exact allOrNothing_of_refused made makes noRoom events
          · rw [success]
            exact allOrNothing_of_saved made saved events'

/-- When its words ask for a document, a run of the program is a run of the command. -/
theorem run_program (t : FileTree) {env : Environment} {words : List String} {verbosity : Nat}
    (asks : Invocation.ofWords env.input words = .generate verbosity input output) :
    ∃ shown, (Exit.ofRun FileTree.system env words).run t =
      ({ code := if (t.generate input output).1.error.isSome then 1 else 0
         output := (t.generate input output).1.output
         shown := shown
         error := (t.generate input output).1.error }, (t.generate input output).2) := by
  rw [Exit.ofRun, asks]
  exact ⟨_, rfl⟩

/-- The command does all that it is asked for or nothing, whatever the files are and whatever
names it is given, and a run of the program that asks for a document prints, changes and returns
what the command does. -/
theorem generate_allOrNothing (t : FileTree) (input : String) (output : Option String) :
    AllOrNothing t input output (t.generate input output).1 (t.generate input output).2 ∧
    ∀ (env : Environment) (words : List String) (verbosity : Nat),
      Invocation.ofWords env.input words = .generate verbosity input output →
      ∃ exit, (Exit.ofRun FileTree.system env words).run t = (exit, (t.generate input output).2) ∧
        exit.output = (t.generate input output).1.output ∧
        exit.error = (t.generate input output).1.error ∧
        (exit.code = 0 ↔ exit.error = none) := by
  refine ⟨allOrNothing_generate t input output, fun env words verbosity asks => ?_⟩
  obtain ⟨shown, run⟩ := run_program t asks
  refine ⟨_, run, rfl, rfl, ?_⟩
  cases (t.generate input output).1.error with
  | none => exact iff_of_true rfl rfl
  | some e => exact iff_of_false nofun nofun

end FileTree

end ApiDoc
