/-
**Paths while files change.**

A path leads through directories, which no operation on files makes or removes. So where a path puts
a file once, it puts it always (`Puts.placeFor`), and it finds the file that is there
(`find_of_placeFor`). `Puts` is what it means to put a file at a place: there it is, and everything
else is as before.
-/

import FlatVolume.Host.Basic

namespace FlatVolume.Host

variable {host before after : Host} {path : String} {directory place : Place} {file : HostFile}

/-! ### Putting a file at a place -/

/-- The file is at the place, and everything else is as before. -/
structure Puts (before : Host) (place : Place) (file : HostFile) (after : Host) : Prop where
  here : after.files[place]? = some file
  elsewhere : ∀ other, other ≠ place → after.files[other]? = before.files[other]?
  directories : after.directories = before.directories
  working : after.working = before.working

theorem puts_setFile (host : Host) (place : Place) (file : HostFile) :
    host.Puts place file (host.setFile place file) where
  here := by simp [setFile]
  elsewhere other apart := by simp [setFile, Std.TreeMap.getElem?_insert, apart.symm]
  directories := rfl
  working := rfl

/-- A file that is at a place need not be put there. -/
theorem puts_self (here : host.files[place]? = some file) : host.Puts place file host :=
  ⟨here, fun _ _ => rfl, rfl, rfl⟩

/-- The last file that is put at a place is there. -/
theorem Puts.trans {first second third : Host} {other : HostFile}
    (left : first.Puts place file second) (right : second.Puts place other third) :
    first.Puts place other third where
  here := right.here
  elsewhere place apart := (right.elsewhere place apart).trans (left.elsewhere place apart)
  directories := right.directories.trans left.directories
  working := right.working.trans left.working

/-! ### Following a path -/

/-- The place is the root or another directory. -/
def IsDirectory (host : Host) (place : Place) : Prop := place = [] ∨ place ∈ host.directories

theorem target_of_directory (isDirectory : host.IsDirectory place) :
    host.target place = .directory place := if_pos isDirectory

theorem target_of_file (isFile : ¬ host.IsDirectory place) (here : host.files[place]? = some file) :
    host.target place = .file place file :=
  (if_neg isFile).trans (by rw [here])

theorem target_of_absent (isFile : ¬ host.IsDirectory place) (absent : host.files[place]? = none) :
    host.target place = .absent place :=
  (if_neg isFile).trans (by rw [absent])

theorem look_of_short {name : String} (short : name.utf8ByteSize ≤ maxNameBytes) :
    host.look directory name = .ok (host.target (directory.step name)) :=
  if_neg (Nat.not_lt.mpr short)

theorem look_of_long {name : String} (long : ¬ name.utf8ByteSize ≤ maxNameBytes) :
    host.look directory name = .error .nameTooLong :=
  if_pos (Nat.not_le.mp long)

/-- A name leads into a directory. -/
theorem enter_eq_ok_iff {name : String} :
    host.enter directory name = .ok place ↔ name.utf8ByteSize ≤ maxNameBytes ∧
      place = directory.step name ∧ host.IsDirectory place := by
  unfold enter
  by_cases short : name.utf8ByteSize ≤ maxNameBytes
  · rw [look_of_short short]
    by_cases isDirectory : host.IsDirectory (directory.step name)
    · rw [target_of_directory isDirectory]
      constructor
      · intro entered
        obtain rfl := Except.ok.inj entered
        exact ⟨short, rfl, isDirectory⟩
      · rintro ⟨_, rfl, _⟩
        rfl
    · have outside : ¬ (name.utf8ByteSize ≤ maxNameBytes ∧ place = directory.step name ∧
          host.IsDirectory place) := fun ⟨_, same, isThere⟩ => isDirectory (same ▸ isThere)
      cases here : host.files[directory.step name]? with
      | some file =>
        rw [target_of_file isDirectory here]
        exact iff_of_false nofun outside
      | none =>
        rw [target_of_absent isDirectory here]
        exact iff_of_false nofun outside
  · rw [look_of_long short]
    exact iff_of_false nofun fun ⟨fits, _⟩ => short fits

/-- A way through directories is open as long as they are there. -/
theorem enterAll_congr (directories : after.directories = before.directories) {names : List String}
    (entered : names.foldlM before.enter directory = .ok place) :
    names.foldlM after.enter directory = .ok place := by
  induction names generalizing directory with
  | nil => exact entered
  | cons name rest hypothesis =>
    rw [List.foldlM_cons] at entered ⊢
    cases first : before.enter directory name with
    | error cause =>
      rw [first] at entered
      cases entered
    | ok next =>
      rw [first] at entered
      have again : after.enter directory name = .ok next := by
        rw [enter_eq_ok_iff] at first ⊢
        rwa [IsDirectory, directories]
      rw [again]
      exact hypothesis entered

theorem approach_congr (directories : after.directories = before.directories)
    (working : after.working = before.working) {name : String}
    (approached : before.approach path = .ok (directory, name)) :
    after.approach path = .ok (directory, name) := by
  have start : after.start path = before.start path := by rw [Host.start, Host.start, working]
  unfold approach at approached ⊢
  split at approached
  · cases approached
  split at approached
  · cases approached
  split at approached
  · cases approached
  rename_i named zero short
  rw [if_neg named, if_neg zero, if_neg short, start]
  cases entered : (namesOn path).dropLast.foldlM before.enter (before.start path) with
  | error cause =>
    simp only [entered] at approached
    cases approached
  | ok last =>
    simp only [entered] at approached
    simp only [enterAll_congr directories entered]
    exact approached

/-- A path puts a file at a place that is no directory and that it comes to through directories. -/
theorem placeFor_eq_ok_iff :
    host.placeFor path = .ok place ↔ ∃ directory name,
      host.approach path = .ok (directory, name) ∧ ¬ EndsInSlash path ∧
      name.utf8ByteSize ≤ maxNameBytes ∧ place = directory.step name ∧
      ¬ host.IsDirectory place := by
  unfold placeFor
  cases approached : host.approach path with
  | error cause =>
    refine iff_of_false (fun same => by cases same) fun leads => ?_
    obtain ⟨_, _, same, _⟩ := leads
    cases same
  | ok way =>
    obtain ⟨directory, name⟩ := way
    simp only [bind, Except.bind, Except.ok.injEq, Prod.mk.injEq, and_assoc, exists_and_left,
      exists_eq_left']
    by_cases slash : EndsInSlash path
    · rw [if_pos slash]
      exact iff_of_false (fun same => by cases same) fun leads => leads.1 slash
    rw [if_neg slash]
    by_cases short : name.utf8ByteSize ≤ maxNameBytes
    · rw [look_of_short short]
      by_cases isDirectory : host.IsDirectory (directory.step name)
      · rw [target_of_directory isDirectory]
        refine iff_of_false (fun same => by cases same) fun leads => ?_
        obtain ⟨_, _, same, isFile⟩ := leads
        exact isFile (same ▸ isDirectory)
      · have leads : (.ok (directory.step name) : Except HostError Place) = .ok place ↔
            ¬ EndsInSlash path ∧ name.utf8ByteSize ≤ maxNameBytes ∧ place = directory.step name ∧
            ¬ host.IsDirectory place := by
          refine ⟨fun same => ?_, fun leads => congrArg Except.ok leads.2.2.1.symm⟩
          obtain rfl := Except.ok.inj same
          exact ⟨slash, short, rfl, isDirectory⟩
        cases here : host.files[directory.step name]? with
        | some file =>
          rw [target_of_file isDirectory here]
          exact leads
        | none =>
          rw [target_of_absent isDirectory here]
          exact leads
    · rw [look_of_long short]
      exact iff_of_false (fun same => by cases same) fun leads => short leads.2.1

theorem Puts.placeFor {other : Place} (puts : before.Puts place file after)
    (leads : before.placeFor path = .ok other) : after.placeFor path = .ok other := by
  rw [placeFor_eq_ok_iff] at leads ⊢
  obtain ⟨directory, name, approached, plain, short, same, isFile⟩ := leads
  refine ⟨directory, name, approach_congr puts.directories puts.working approached, plain, short,
    same, ?_⟩
  rwa [IsDirectory, puts.directories]

/-- A path finds what is at the place where it puts a file. -/
theorem find_of_placeFor (leads : host.placeFor path = .ok place)
    (here : host.files[place]? = some file) : host.find path = .ok (place, file) := by
  obtain ⟨directory, name, approached, plain, short, rfl, isFile⟩ := placeFor_eq_ok_iff.mp leads
  simp only [find, approached, look_of_short short, target_of_file isFile here, bind, Except.bind,
    if_neg plain]

end FlatVolume.Host
