import Almanac.Proofs.SettingsToml

/-! # Runs of a settings file

Settings are loaded and saved while other programs write, delete and block the file.  What the
steps of such a run leave is read off them without carrying them out (`SettingsFile.placeAfter`):
the first step that makes a directory, or a plain file where it would be, decides which of them
there is from then on, and in a directory the last step that writes or deletes the file decides
what is in it (`SettingsFile.run_snd`).

Each step replies to the place that the steps before it leave, by the rules of
`SettingsFile.Follows`: loading leaves the place as it is, and so does a save that is refused or
that has no directory.  So the settings that are loaded have no fault, as long as the zone of the
standard settings is known, and what was saved is loaded until the bytes of the file change
(`SettingsFile.run_follows`).
-/
namespace Almanac
namespace SettingsFile

/-! ## What steps leave -/

/-- Whether a step makes a directory or a plain file where there is neither. -/
def Step.makesPlace (zones : Zones) : Step → Bool
  | .save s => (s.fault? zones).isNone
  | .write _ | .block => true
  | .load | .remove => false

/-- What a step leaves in a directory, if it writes or deletes the file. -/
def Step.leaves? (zones : Zones) : Step → Option (Option ByteArray)
  | .save s => if s.fault? zones = none then some (some s.toToml.toUTF8) else none
  | .write bytes => some (some bytes)
  | .remove => some none
  | .load | .block => none

/-- The file of a directory after some steps: the last one that writes or deletes it counts. -/
def fileAfter (zones : Zones) (file : Option ByteArray) (steps : List Step) :
    Option ByteArray :=
  (steps.filterMap (Step.leaves? zones)).getLastD file

/-- The place after some steps: once there is a directory or a plain file, it stays. -/
def placeAfter (zones : Zones) (start : SettingsFile) (steps : List Step) : SettingsFile :=
  match start with
  | .blocked => .blocked
  | .directory file => .directory (fileAfter zones file steps)
  | .noDirectory =>
    match steps.find? (Step.makesPlace zones) with
    | none => .noDirectory
    | some .block => .blocked
    | some _ => .directory (fileAfter zones none steps)

/-- **The rules of a place**: the reply to a step, and the place after it. -/
inductive Follows (zones : Zones) (place : SettingsFile) : Step → Reply → SettingsFile → Prop
  /-- Without a file the standard settings hold. -/
  | standard (h : place.bytes? = none) : Follows zones place .load (.loaded (.ok {})) place
  /-- The text of the file is read as a document. -/
  | document {text : String} (h : place.text? = some text) :
      Follows zones place .load (.loaded ((Settings.ofToml zones text).mapError .document)) place
  /-- There is a file, but it has no text. -/
  | unreadable {bytes : ByteArray} (hbytes : place.bytes? = some bytes) (h : place.text? = none) :
      Follows zones place .load (.loaded (.error .io)) place
  /-- Settings with a fault are not saved. -/
  | refused {s : Settings} {fault : SettingsError} (h : s.validate zones = .error fault) :
      Follows zones place (.save s) (.stored (.error (.document (.invalid fault)))) place
  /-- The directory cannot be made. -/
  | saveBlocked {s : Settings} (h : s.validate zones = .ok ()) (hplace : place = .blocked) :
      Follows zones place (.save s) (.stored (.error .io)) place
  | saved {s : Settings} (h : s.validate zones = .ok ()) (hplace : place ≠ .blocked) :
      Follows zones place (.save s) (.stored (.ok ())) (.directory (some s.toToml.toUTF8))
  | writeBlocked {bytes : ByteArray} (hplace : place = .blocked) :
      Follows zones place (.write bytes) (.stored (.error .io)) place
  | written {bytes : ByteArray} (hplace : place ≠ .blocked) :
      Follows zones place (.write bytes) (.stored (.ok ())) (.directory (some bytes))
  | removed {file : Option ByteArray} (h : place = .directory file) :
      Follows zones place .remove (.removed file.isSome) (.directory none)
  | nothingRemoved (h : ∀ file, place ≠ .directory file) :
      Follows zones place .remove (.removed false) place
  | blocked (h : ∀ file, place ≠ .directory file) :
      Follows zones place .block (.blocked true) .blocked
  | notBlocked {file : Option ByteArray} (h : place = .directory file) :
      Follows zones place .block (.blocked false) place

/-- Whether the bytes of the file stay the same after step `m` of a run and before step `n`. -/
def Unchanged (zones : Zones) (start : SettingsFile) (steps : List Step) (m n : Nat) : Prop :=
  ∀ k, m < k → k < n →
    (placeAfter zones start (steps.take (k + 1))).bytes? =
      (placeAfter zones start (steps.take k)).bytes?

variable {zones : Zones} {start place after : SettingsFile} {steps : List Step} {step : Step}
  {reply : Reply} {s : Settings}

/-! ## One step -/

/-- What is loaded follows from the bytes of the file. -/
theorem follows_load (place : SettingsFile) :
    Follows zones place .load (.loaded (place.load zones)) place := by
  cases hbytes : place.bytes? with
  | none =>
    rw [load, hbytes]
    exact .standard hbytes
  | some bytes =>
    cases htext : place.text? with
    | some text =>
      rw [load_of_text zones htext]
      exact .document htext
    | none =>
      have hread : String.fromUTF8? bytes = none := by
        rw [text?, hbytes] at htext
        exact htext
      rw [load, hbytes]
      dsimp only
      rw [hread]
      exact .unreadable hbytes htext

theorem follows_save (place : SettingsFile) (s : Settings) :
    Follows zones place (.save s) (place.stored (place.save zones s)).1
      (place.stored (place.save zones s)).2 := by
  rw [save]
  cases hfault : s.fault? zones with
  | some fault => exact .refused (by rw [Settings.validate, hfault])
  | none =>
    have hvalid := Settings.validate_eq_ok_iff.mpr hfault
    cases place with
    | blocked => exact .saveBlocked hvalid rfl
    | noDirectory => exact .saved hvalid (by simp)
    | directory file => exact .saved hvalid (by simp)

/-- **A step follows the rules.** -/
theorem follows_step (place : SettingsFile) (step : Step) :
    Follows zones place step (place.step zones step).1 (place.step zones step).2 := by
  cases step with
  | load => exact follows_load place
  | save s => exact follows_save place s
  | write bytes =>
    cases place with
    | blocked => exact .writeBlocked rfl
    | noDirectory => exact .written (by simp)
    | directory file => exact .written (by simp)
  | remove =>
    cases place with
    | blocked => exact .nothingRemoved (by simp)
    | noDirectory => exact .nothingRemoved (by simp)
    | directory file => exact .removed rfl
  | block =>
    cases place with
    | blocked => exact .blocked (by simp)
    | noDirectory => exact .blocked (by simp)
    | directory file => exact .notBlocked rfl

/-- The standard settings have no fault if their zone is known. -/
theorem fault?_standard (hutc : (zones "UTC").isSome) : ({} : Settings).fault? zones = none := by
  have hknown : (zones "UTC").isNone = false := by
    rw [← Option.not_isSome, hutc]
    rfl
  rw [Settings.fault?, hknown]
  decide +kernel

/-- Whatever is loaded has no fault, and its own document is read as the same settings. -/
theorem Follows.of_loaded (hutc : (zones "UTC").isSome) (h : Follows zones place step reply after)
    (hreply : reply = .loaded (.ok s)) :
    s.validate zones = .ok () ∧ Settings.ofToml zones s.toToml = .ok s := by
  rw [Settings.validate_eq_ok_iff]
  cases h with
  | standard =>
    obtain rfl := Except.ok.inj (Reply.loaded.inj hreply)
    have hvalid := fault?_standard hutc
    exact ⟨hvalid, Settings.ofToml_toToml hvalid ⟨by decide, by decide, by decide, by decide⟩⟩
  | @document text =>
    have hloaded := Reply.loaded.inj hreply
    cases hread : Settings.ofToml zones text with
    | error error =>
      rw [hread] at hloaded
      cases hloaded
    | ok read =>
      rw [hread] at hloaded
      obtain rfl := Except.ok.inj hloaded
      exact ⟨(Settings.valid_of_ofToml hread).1, Settings.ofToml_toToml_of_ofToml hread⟩
  | _ => cases hreply

/-- A save that succeeds leaves the document of its settings. -/
theorem Follows.saved_eq (h : Follows zones place (.save s) reply after)
    (hreply : reply = .stored (.ok ())) :
    s.fault? zones = none ∧ after = .directory (some s.toToml.toUTF8) := by
  cases h with
  | saved hvalid => exact ⟨Settings.validate_eq_ok_iff.mp hvalid, rfl⟩
  | _ => cases hreply

/-! ## Runs -/

theorem fileAfter_cons (file : Option ByteArray) (step : Step) (steps : List Step) :
    fileAfter zones file (step :: steps) =
      fileAfter zones ((step.leaves? zones).getD file) steps := by
  rw [fileAfter, fileAfter]
  cases hleaves : step.leaves? zones with
  | none => rw [List.filterMap_cons_none hleaves, Option.getD_none]
  | some left => rw [List.filterMap_cons_some hleaves, Option.getD_some, List.getLastD_cons]

/-- A plain file in place of the directory stays. -/
theorem snd_step_blocked (step : Step) : (SettingsFile.blocked.step zones step).2 = .blocked := by
  cases step with
  | save s =>
    show (stored _ (save zones s _)).2 = _
    rw [save]
    cases s.fault? zones <;> rfl
  | _ => rfl

/-- A directory stays, and so does its file unless the step writes or deletes it. -/
theorem snd_step_directory (file : Option ByteArray) (step : Step) :
    ((directory file).step zones step).2 = .directory ((step.leaves? zones).getD file) := by
  cases step with
  | save s =>
    show (stored _ (save zones s _)).2 = _
    rw [save, Step.leaves?]
    cases s.fault? zones <;> rfl
  | _ => rfl

/-- The first of some steps can be taken before the others. -/
theorem placeAfter_cons (start : SettingsFile) (step : Step) (steps : List Step) :
    placeAfter zones start (step :: steps) = placeAfter zones (start.step zones step).2 steps := by
  cases start with
  | blocked => rw [snd_step_blocked, placeAfter, placeAfter]
  | directory file => rw [snd_step_directory, placeAfter, placeAfter, fileAfter_cons]
  | noDirectory =>
    cases step with
    | save s =>
      show _ = placeAfter zones (stored _ (save zones s _)).2 steps
      rw [save]
      cases hfault : s.fault? zones with
      | some fault =>
        simp [placeAfter, stored, fileAfter_cons, Step.makesPlace, Step.leaves?, hfault]
      | none =>
        simp [placeAfter, stored, write, fileAfter_cons, Step.makesPlace, Step.leaves?, hfault]
    | write bytes => exact congrArg directory (fileAfter_cons none (.write bytes) steps)
    | remove => rw [placeAfter, List.find?_cons_of_neg Bool.false_ne_true, fileAfter_cons]; rfl
    | _ => rfl

theorem run_snd (start : SettingsFile) (steps : List Step) :
    (start.run zones steps).2 = placeAfter zones start steps := by
  induction steps generalizing start with
  | nil => cases start <;> rfl
  | cons step steps ih => rw [placeAfter_cons, ← ih, run]

theorem length_run (zones : Zones) (start : SettingsFile) (steps : List Step) :
    (start.run zones steps).1.length = steps.length := by
  induction steps generalizing start with
  | nil => rfl
  | cons step steps ih => exact congrArg (· + 1) (ih _)

theorem placeAfter_nil (start : SettingsFile) : placeAfter zones start [] = start := by
  cases start <;> rfl

/-- Each step of a run is taken at the place that the steps before it leave. -/
theorem getElem?_run (start : SettingsFile) {n : Nat} (h : steps[n]? = some step) :
    (start.run zones steps).1[n]? =
        some ((placeAfter zones start (steps.take n)).step zones step).1 ∧
      placeAfter zones start (steps.take (n + 1)) =
        ((placeAfter zones start (steps.take n)).step zones step).2 := by
  induction steps generalizing start n with
  | nil => cases h
  | cons first steps ih =>
    cases n with
    | zero =>
      obtain rfl := Option.some.inj h
      rw [List.take_zero, List.take_succ_cons, List.take_zero, placeAfter_cons, placeAfter_nil,
        placeAfter_nil]
      exact ⟨rfl, rfl⟩
    | succ n =>
      rw [List.take_succ_cons, List.take_succ_cons, placeAfter_cons, placeAfter_cons]
      exact ih _ h

/-- So it follows the rules there. -/
theorem exists_follows (start : SettingsFile) {n : Nat} (h : steps[n]? = some step) :
    ∃ reply, (start.run zones steps).1[n]? = some reply ∧
      Follows zones (placeAfter zones start (steps.take n)) step reply
        (placeAfter zones start (steps.take (n + 1))) := by
  obtain ⟨hreply, hplace⟩ := getElem?_run start h
  refine ⟨_, hreply, ?_⟩
  rw [hplace]
  exact follows_step _ step

/-- Every reply of a run is the reply to one of its steps. -/
theorem exists_step {n : Nat} (h : (start.run zones steps).1[n]? = some reply) :
    ∃ step, steps[n]? = some step ∧
      Follows zones (placeAfter zones start (steps.take n)) step reply
        (placeAfter zones start (steps.take (n + 1))) := by
  have hlt : n < steps.length := by
    rw [← length_run zones start steps]
    exact (List.getElem?_eq_some_iff.mp h).1
  have hstep := List.getElem?_eq_getElem hlt
  obtain ⟨reply', hreply, hfollows⟩ := exists_follows start hstep
  obtain rfl := Option.some.inj (hreply.symm.trans h)
  exact ⟨_, hstep, hfollows⟩

/-- What is saved stays in the file while its bytes do not change. -/
theorem load_of_unchanged {m n : Nat} (hstep : steps[m]? = some (.save s))
    (hrepresentable : s.Representable)
    (hsaved : (start.run zones steps).1[m]? = some (.stored (.ok ()))) (hlt : m < n)
    (hunchanged : Unchanged zones start steps m n) :
    (placeAfter zones start (steps.take n)).load zones = .ok s := by
  obtain ⟨reply, hreply, hfollows⟩ := exists_follows start hstep
  obtain ⟨hvalid, hleft⟩ := hfollows.saved_eq (Option.some.inj (hreply.symm.trans hsaved))
  have hbytes : (placeAfter zones start (steps.take n)).bytes? = some s.toToml.toUTF8 := by
    induction n, hlt using Nat.le_induction with
    | base => rw [hleft, bytes?]
    | succ n hmn ih =>
      rw [hunchanged n hmn (Nat.lt_succ_self n)]
      exact ih fun k hmk hkn => hunchanged k hmk (Nat.lt_succ_of_lt hkn)
  have htext : (placeAfter zones start (steps.take n)).text? = some s.toToml := by
    rw [text?, hbytes, Option.bind_some, fromUTF8?_toUTF8]
  rw [load_of_text zones htext, Settings.ofToml_toToml hvalid hrepresentable]
  rfl

/-- **Runs of a settings file.**  Every step of a run follows the rules at the place that the steps
before it leave; whatever is loaded has no fault, and its own document is read as the same settings;
and settings that were saved are loaded until the bytes of the file change. -/
theorem run_follows (hutc : (zones "UTC").isSome) (start : SettingsFile) (steps : List Step) :
    ((start.run zones steps).2 = placeAfter zones start steps ∧
      ∀ n step, steps[n]? = some step → ∃ reply, (start.run zones steps).1[n]? = some reply ∧
        Follows zones (placeAfter zones start (steps.take n)) step reply
          (placeAfter zones start (steps.take (n + 1)))) ∧
      (∀ s, .loaded (.ok s) ∈ (start.run zones steps).1 →
        s.validate zones = .ok () ∧ Settings.ofToml zones s.toToml = .ok s) ∧
      ∀ m n s, steps[m]? = some (.save s) → s.Representable →
        (start.run zones steps).1[m]? = some (.stored (.ok ())) → m < n → steps[n]? = some .load →
        Unchanged zones start steps m n →
          (start.run zones steps).1[n]? = some (.loaded (.ok s)) := by
  refine ⟨⟨run_snd start steps, fun n step hstep => exists_follows start hstep⟩, ?_, ?_⟩
  · intro s hs
    obtain ⟨n, hn⟩ := List.getElem?_of_mem hs
    obtain ⟨step, -, hfollows⟩ := exists_step hn
    exact hfollows.of_loaded hutc rfl
  · intro m n s hsave hrepresentable hsaved hlt hload hunchanged
    rw [(getElem?_run start hload).1,
      ← load_of_unchanged hsave hrepresentable hsaved hlt hunchanged]
    rfl

/-- Blocking a directory fails, so what was saved before is loaded after it. -/
theorem run_follows_marked :
    let steps : List Step := [.load, .save marked, .block, .load]
    (Zones.listed "UTC").isSome ∧
      (noDirectory.run .listed steps).1[1]? = some (.stored (.ok ())) ∧
      Unchanged .listed noDirectory steps 1 3 ∧
      (noDirectory.run .listed steps).1[3]? = some (.loaded (.ok marked)) := by
  have hutc : (Zones.listed "UTC").isSome := by decide +kernel
  have hvalid : marked.fault? .listed = none := by decide +kernel
  have hsaved : (noDirectory.run .listed [.load, .save marked, .block, .load]).1[1]? =
      some (.stored (.ok ())) := by
    simp [run, step, save, hvalid, write, stored]
  have hunchanged : Unchanged .listed noDirectory [.load, .save marked, .block, .load] 1 3 := by
    intro k hk hk'
    obtain rfl : k = 2 := by omega
    simp [placeAfter, fileAfter, Step.makesPlace, Step.leaves?, hvalid, List.findSome?]
  refine ⟨hutc, hsaved, hunchanged, ?_⟩
  exact (run_follows hutc noDirectory [.load, .save marked, .block, .load]).2.2 1 3 marked rfl
    ⟨by decide, by decide, by decide, by decide⟩ hsaved (by decide) rfl hunchanged

end SettingsFile
end Almanac
