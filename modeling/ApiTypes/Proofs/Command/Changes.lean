import ApiTypes.Proofs.Command.Atomicity
import ApiTypes.Proofs.Files.Listing

/-!
# What a run changes

A run leaves a proper disk proper.  Of the files that are listed below the working directory it
changes none when it fails or prints its answer, and otherwise only the one that its answer is
written to: `Invocation.changes_run`.
-/

namespace ApiTypes

namespace Command

variable {disk : Disk}

theorem isProper_prepare (h : disk.IsProper) (path : String) :
  (prepare disk path).2.IsProper
  := by
  unfold prepare
  cases Path.parent? path with
  | none => exact h
  | some directory => apply h.makeDirectories

theorem isProper_save (h : disk.IsProper) (path text : String) :
  (save disk path text).2.IsProper
  := by
  have hprepared := isProper_prepare h path
  unfold save
  rcases hprepare : prepare disk path with ⟨_ | _, between⟩
  · rw [hprepare] at hprepared
    exact hprepared
  · rw [hprepare] at hprepared
    dsimp only
    cases hwrite : between.write path text.toUTF8 with
    | error reason => exact hprepared
    | ok after => apply hprepared.write hwrite

theorem isProper_perform (h : disk.IsProper) (command : Command) :
  (command.perform disk).2.IsProper
  := by
  cases hanswer : (command.answer disk).outcome with
  | error failure => simpa [perform, hanswer] using h
  | ok record =>
    cases hout : command.out? with
    | none => simpa [perform, deliver, hanswer, hout] using h
    | some path => simpa [perform, deliver, hanswer, hout] using isProper_save h path record.pretty

end Command

/-- A run that is all or nothing changes nothing when it fails or prints its answer, and otherwise
only the file that its answer is written to. -/
theorem Outcome.IsAllOrNothing.changes {outcome : Outcome} {before : Disk} {command : Command}
    (h : outcome.IsAllOrNothing before command) (hbefore : before.IsProper)
    (hafter : outcome.disk.IsProper) :
  (outcome.exitCode = 1 ∨ command.out? = none → Disk.changes before outcome.disk = []) ∧
  ∀ path, outcome.exitCode = 0 → command.out? = some path →
    ∃ record, command.Answers before record ∧
      ∀ change ∈ Disk.changes before outcome.disk, ∃ names,
        outcome.disk.locate path = .ok (outcome.disk.workingDirectory ++ names) ∧
        change = (Path.ofNames names, record.pretty.toUTF8)
  := by
  constructor
  · intro hnothing
    have hkeeps : before.KeepsFiles outcome.disk := by
      rcases h.exitCode_eq with hdone | hfailed
      · apply (h.printed hdone _).1
        apply hnothing.resolve_left
        simp [hdone]
      · apply (h.failed hfailed).2
    apply hkeeps.changes_eq_nil hbefore hafter
  · intro path hdone hout
    obtain ⟨-, record, place, hanswers, hwritten⟩ := h.written path hdone hout
    use record, hanswers
    intro change hchange
    obtain ⟨names, rfl, rfl⟩ := hwritten.eq_of_mem_changes hbefore hafter hchange
    use names, hwritten.locate_eq

namespace Invocation

/-- A run on a proper disk leaves it proper, and of its files changes at most the one that the
answer is written to. -/
theorem changes_run (invocation : Invocation) {disk : Disk} (h : disk.IsProper)
    (setting : Option String) :
  (invocation.run disk setting).disk.IsProper ∧
  ((invocation.run disk setting).exitCode = 1 ∨ invocation.command.out? = none →
    Disk.changes disk (invocation.run disk setting).disk = []) ∧
  ∀ path, (invocation.run disk setting).exitCode = 0 → invocation.command.out? = some path →
    ∃ record, invocation.command.Answers disk record ∧
      ∀ change ∈ Disk.changes disk (invocation.run disk setting).disk, ∃ names,
        (invocation.run disk setting).disk.locate path =
          .ok ((invocation.run disk setting).disk.workingDirectory ++ names) ∧
        change = (Path.ofNames names, record.pretty.toUTF8)
  := by
  have hafter : (invocation.run disk setting).disk.IsProper := by
    have hdisk : (invocation.run disk setting).disk = (invocation.command.perform disk).2 := by
      unfold run
      dsimp only
      split <;> rfl
    rw [hdisk]
    apply Command.isProper_perform h
  use hafter
  apply (invocation.isAllOrNothing_run disk setting).changes h hafter

end Invocation

end ApiTypes
