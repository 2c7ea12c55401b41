import CiteRender.Proofs.Command.Plans

/-!
# What a Write Changes

A path that is written to leads to a place in a directory, or to a device. At a
place the text is put, and nothing else changes: no other file, and no directory
either. A directory is there as soon as something is in it, so this needs that
the one of the place, and those around it, have been there before.

A device keeps no file. The text is shown by the device or gone.

## Main definitions

* `Surroundings.Written`: Surroundings with one text written to a path.

## Theorems

* `Files.target_inl`: A path that leads to a place leads into a directory.
* `Files.at?_put_self`, `Files.at?_put_other`: Files with one file put.
* `Surroundings.written_of_write`: What a write changes.
-/

namespace CiteRender

namespace Files

theorem lookup_putIn (place : Place) (bytes : ByteArray) (entries : List (Place × ByteArray))
    (other : Place) :
    (putIn place bytes entries).lookup other =
      if other = place then some bytes else entries.lookup other := by
  induction entries with
  | nil =>
      rw [putIn, List.lookup_cons]
      by_cases h : other = place
      · simp [h]
      · simp [h, beq_false_of_ne h]
  | cons entry rest ih =>
      rw [putIn]
      by_cases hentry : entry.1 = place
      · rw [if_pos hentry, List.lookup_cons, List.lookup_cons, hentry]
        by_cases h : other = place
        · simp [h]
        · simp [h, beq_false_of_ne h]
      · rw [if_neg hentry, List.lookup_cons, List.lookup_cons, ih]
        by_cases h : other = entry.1
        · simp [h, hentry]
        · simp [beq_false_of_ne h]

theorem any_putIn (place : Place) (bytes : ByteArray) (entries : List (Place × ByteArray))
    (p : Place → Bool) :
    ((putIn place bytes entries).any fun entry => p entry.1) =
      (p place || entries.any fun entry => p entry.1) := by
  induction entries with
  | nil => rfl
  | cons entry rest ih =>
      rw [putIn]
      by_cases hentry : entry.1 = place
      · simp [hentry]
      · simp [hentry, ih, Bool.or_left_comm]

/-- What is put at a place is there. -/
theorem at?_put_self (files : Files) (place : Place) (bytes : ByteArray) :
    (files.put place bytes).at? place = some (.file bytes) := by
  rw [at?, put, lookup_putIn, if_pos rfl]

theorem isInside_iff (place outer : Place) :
    place.isInside outer = true ↔
      place.origin = outer.origin ∧ outer.steps <+: place.steps ∧ place ≠ outer := by
  simp [Place.isInside, and_assoc]

/-- What a directory is in has something in it, or is at the root or the start. -/
theorem isInside_trans (place directory outer : Place) (h : place.isInside directory = true)
    (h' : directory.isInside outer = true) : place.isInside outer = true := by
  rcases (isInside_iff place directory).mp h with ⟨horigin, hsteps, hne⟩
  rcases (isInside_iff directory outer).mp h' with ⟨horigin', hsteps', hne'⟩
  refine (isInside_iff place outer).mpr ⟨horigin.trans horigin', hsteps'.trans hsteps, ?_⟩
  rintro rfl
  -- Two places that are in each other are the same.
  refine hne (Place.mk.injEq .. |>.mpr ⟨horigin, ?_⟩)
  exact hsteps'.eq_of_length_le hsteps.length_le

/-- A place that something in a directory is inside of is the directory, or one
    that the directory is inside of. -/
theorem isInside_child (directory outer : Place) (name : String)
    (h : (directory.child name).isInside outer = true) :
    outer = directory ∨ directory.isInside outer = true := by
  rcases (isInside_iff _ outer).mp h with ⟨horigin, hsteps, hne⟩
  rcases List.prefix_concat_iff.mp hsteps with heq | hsteps
  · exact absurd (Place.mk.injEq .. |>.mpr ⟨horigin, heq.symm⟩) hne
  · by_cases hsame : directory = outer
    · exact Or.inl hsame.symm
    · exact Or.inr ((isInside_iff directory outer).mpr ⟨horigin, hsteps, hsame⟩)

/-- A directory that is at the root in any case is in the root only. -/
theorem steps_eq_nil_of_rootHolding (directory outer : Place)
    (h : rootHolding? directory.steps = some .directory)
    (hinside : directory.isInside outer = true) : outer.steps = [] := by
  rcases (isInside_iff directory outer).mp hinside with ⟨horigin, hsteps, hne⟩
  unfold rootHolding? at h
  split at h
  · next name hname =>
      have hsteps' : outer.steps <+: [] ++ [name] := hname ▸ hsteps
      rcases List.prefix_concat_iff.mp hsteps' with hsame | hnil
      · exact absurd (Place.mk.injEq .. |>.mpr ⟨horigin, hname.trans hsame.symm⟩) hne
      · exact List.prefix_nil.mp hnil
  · next name hname => rw [Option.map_eq_some_iff] at h; simp at h
  · exact absurd h (by simp)

/-- What a directory is inside of is a directory, if it is no file. -/
theorem at?_outside (files : Files) (directory outer : Place)
    (hdirectory : files.at? directory = some .directory)
    (hinside : directory.isInside outer = true) (hfile : files.entries.lookup outer = none) :
    files.at? outer = some .directory := by
  have hsteps := ((isInside_iff directory outer).mp hinside).2.1
  -- It is where paths start, or there is an entry inside it.
  have hheld : (outer.steps.isEmpty || files.entries.any fun entry => entry.1.isInside outer) =
      true := by
    rw [at?] at hdirectory
    split at hdirectory
    · exact absurd hdirectory (by simp)
    · split at hdirectory
      · next h =>
          rw [Bool.or_eq_true] at h ⊢
          rcases h with h | h
          · rw [List.isEmpty_iff] at h ⊢
            exact Or.inl (List.prefix_nil.mp (h ▸ hsteps))
          · rcases List.any_eq_true.mp h with ⟨entry, hentry, hin⟩
            exact Or.inr (List.any_eq_true.mpr
              ⟨entry, hentry, isInside_trans entry.1 directory outer hin hinside⟩)
      · split at hdirectory
        · rw [steps_eq_nil_of_rootHolding directory outer hdirectory hinside]
          rfl
        · exact absurd hdirectory (by simp)
  rw [at?, hfile]
  dsimp only
  rw [if_pos hheld]

/-- A file that is put into a directory changes nothing at other places. -/
theorem at?_put_other (files : Files) (directory : Place) (name : String) (bytes : ByteArray)
    (hdirectory : files.at? directory = some .directory) (other : Place)
    (hother : other ≠ directory.child name) :
    (files.put (directory.child name) bytes).at? other = files.at? other := by
  rcases hfile : files.entries.lookup other with _ | content
  · by_cases hinside : (directory.child name).isInside other = true
    · -- Only a directory around the file has something new in it.
      have hbefore : files.at? other = some .directory := by
        rcases isInside_child directory other name hinside with rfl | houter
        · exact hdirectory
        · exact at?_outside files directory other hdirectory houter hfile
      rw [hbefore, at?, put, lookup_putIn, if_neg hother, hfile]
      dsimp only
      rw [any_putIn _ _ _ fun place => place.isInside other, hinside, Bool.true_or, Bool.or_true,
        if_pos rfl]
    · rw [Bool.not_eq_true] at hinside
      rw [at?, at?, put, lookup_putIn, if_neg hother,
        any_putIn _ _ _ fun place => place.isInside other, hinside, Bool.false_or]
  · rw [at?, at?, put, lookup_putIn, if_neg hother, hfile]

/-- What is entered is a directory. -/
theorem at?_of_enter (files : Files) (place : Place) (h : files.enter place = .ok ()) :
    files.at? place = some .directory := by
  rw [enter] at h
  split at h
  · assumption
  · exact absurd h (by simp)
  · exact absurd h (by simp)

/-- A path that leads to a file leads to one in a directory. -/
theorem target_inl (files : Files) (path : String) (place : Place)
    (h : files.target path = .ok (.inl place)) :
    ∃ directory name, place = directory.child name ∧ files.at? directory = some .directory := by
  rw [target] at h
  split at h
  · exact absurd h (by simp)
  · exact absurd h (by simp)
  · next name _ _ =>
      rcases hfollow : files.follow (Place.start path) (Path.innerParts path).dropLast with
        fault | directory
      · rw [hfollow] at h
        exact absurd h (by simp [Except.bind])
      · rw [hfollow] at h
        dsimp only [Except.bind] at h
        -- A place to write to is in a directory that can be entered, whatever stands there.
        rcases henter : files.enter directory with fault | _
        · rw [henter] at h
          exact absurd h (by simp)
        · rw [henter] at h
          refine ⟨directory, name, ?_, at?_of_enter files directory henter⟩
          dsimp only at h
          split at h
          · exact absurd h (by simp)
          · split at h
            · exact absurd h (by simp)
            · split at h
              · exact absurd h (by simp)
              · exact absurd h (by simp)
              · exact (Sum.inl.inj (Except.ok.inj h)).symm

end Files

namespace Surroundings

/-- Surroundings that differ from others in a text that has been written to where a
    path leads. -/
inductive Written (path text : String) (s left : Surroundings) : Prop
  | file (place : Place) (target : s.files.target path = .ok (.inl place))
      (there : left.files.at? place = some (.file text.toUTF8))
      (elsewhere : ∀ other, other ≠ place → left.files.at? other = s.files.at? other)
      (output : left.output = s.output) (complaint : left.complaint = s.complaint)
  | device (device : Device) (target : s.files.target path = .ok (.inr device))
      (takes : device ≠ .full) (files : left.files = s.files)
      (output : left.output = s.output ++ if device = .standardOutput then text else "")
      (complaint : left.complaint = s.complaint ++ if device = .standardError then text else "")

/-- A write that is done leaves a text written. -/
theorem written_of_write (s left : Surroundings) (path text : String)
    (h : s.write path text = .ok left) : s.Written path text left := by
  rw [write] at h
  rcases htarget : s.files.target path with fault | place | device
  · rw [htarget] at h
    exact absurd h (by simp)
  · rw [htarget] at h
    obtain rfl := Except.ok.inj h
    rcases s.files.target_inl path place htarget with ⟨directory, name, rfl, hdirectory⟩
    exact .file _ htarget (Files.at?_put_self ..)
      (s.files.at?_put_other directory name text.toUTF8 hdirectory) rfl rfl
  · rw [htarget] at h
    cases device with
    | full => exact absurd h (by simp [writeDevice])
    | null | standardInput | standardOutput | standardError =>
        obtain rfl := Except.ok.inj h
        exact .device _ htarget (by decide) rfl (by simp) (by simp)

/-- Reading before a write leaves no trace. -/
theorem SameOutside.written {s s' left : Surroundings} {path text : String}
    (h : s.SameOutside s') (hwritten : s'.Written path text left) : s.Written path text left := by
  cases hwritten with
  | file place target there elsewhere output complaint =>
      rw [h.files] at target elsewhere
      exact .file place target there elsewhere (output.trans h.output)
        (complaint.trans h.complaint)
  | device device target takes files output complaint =>
      rw [h.files] at target files
      rw [h.output] at output
      rw [h.complaint] at complaint
      exact .device device target takes files output complaint

end Surroundings

end CiteRender
