import WorkflowDispatch.Proofs.Run.Calls
/-!
How a run of the command line can end.  Every command line is answered with one of the five exit
codes as long as the settings file holds text.  A file whose bytes are no text ends the run of a
command at once, without a code.
-/

namespace WorkflowDispatch
namespace Run

/-- The command line asks for a command, and not for help, for the version or for nothing that can be
understood. -/
def AsksForCommand (arguments : List String) : Prop :=
  ∃ c dryRun, CommandLine.read arguments = .run c dryRun

/-! ## Codes -/

theorem codeOfReason_le (r : Reason) : codeOfReason r ≤ exitRejected := by
  cases r <;> simp [codeOfReason, exitFailure, exitAuthentication, exitRejected]

theorem codeOf_le (outcome : Except Failure Acceptance) : codeOf outcome ≤ exitRejected := by
  cases outcome with
  | ok a => exact Nat.zero_le _
  | error f => exact codeOfReason_le f.reason

/-- What a command comes to is an exit code, whatever the network answers. -/
theorem result_perform (entry : Entry) (c : CommandLine.Command) (dryRun : Bool) (now : Timestamp)
    (x : Settings) (n : Network) :
    ∃ code ≤ exitRejected, (perform entry c dryRun now x n).result = .ok code := by
  cases c with
  | showTarget => exact ⟨exitOk, by decide, rfl⟩
  | dispatch =>
    cases dryRun with
    | true => exact ⟨exitOk, by decide, rfl⟩
    | false => exact ⟨_, codeOf_le _, result_dispatchCommand entry x now n⟩

/-! ## Settings files -/

/-- A text does not begin with a byte that leads no character. -/
theorem decodeUtf8_of_not_lead {b : UInt8} (h : Text.Utf8.Lead.ofByte? b = none)
    (bytes : List UInt8) :
    Text.decodeUtf8 (b :: bytes) = .error ⟨0, 0, b, .invalidStart⟩ := by
  rw [Text.decodeUtf8, Text.Utf8.decodeFrom, h]
  rfl

theorem Surroundings.content_of_fault {s : Surroundings} {bytes : List UInt8}
    {fault : Text.Utf8.Fault} (hfile : s.file = some bytes)
    (hdecode : Text.decodeUtf8 bytes = .error fault) : s.content = .error fault := by
  unfold content
  rw [hfile]
  dsimp only
  rw [EnvFile.Content.ofBytes, hdecode]
  rfl

theorem Surroundings.exists_fault {s : Surroundings} (h : ¬ s.Readable) :
    ∃ bytes fault, s.file = some bytes ∧ Text.decodeUtf8 bytes = .error fault := by
  unfold Readable at h
  push Not at h
  obtain ⟨bytes, hfile, hdecode⟩ := h
  cases hd : Text.decodeUtf8 bytes with
  | ok text => exact absurd hd (hdecode text)
  | error fault => exact ⟨bytes, fault, hfile, hd⟩

/-! ## Endings -/

variable {s : Surroundings} {arguments : List String}

theorem exits_of_not_asks (h : ¬ AsksForCommand arguments) (entry : Entry) (s : Surroundings)
    (n : Network) : ∃ code ≤ exitRejected, (command entry arguments s n).ending = .exit code := by
  unfold command
  cases hr : CommandLine.read arguments with
  | help scope => exact ⟨exitOk, by decide, rfl⟩
  | version => exact ⟨exitOk, by decide, rfl⟩
  | misuse scope m => exact ⟨exitUsage, by decide, rfl⟩
  | run c dryRun => exact absurd ⟨c, dryRun, hr⟩ h

theorem exits_of_readable (hs : s.Readable) (entry : Entry) (arguments : List String)
    (n : Network) : ∃ code ≤ exitRejected, (command entry arguments s n).ending = .exit code := by
  by_cases h : AsksForCommand arguments
  · obtain ⟨c, dryRun, hr⟩ := h
    obtain ⟨content, hc⟩ := hs.exists_content
    cases hl : Settings.load (sources [] s content) with
    | error complaints => exact ⟨exitUsage, by decide, ending_of_refused hc hl hr entry n⟩
    | ok x =>
      obtain ⟨_, hcommand⟩ := command_of_loads ⟨content, hc, hl⟩ hr entry n
      obtain ⟨code, hcode, hresult⟩ := result_perform entry c dryRun s.now x n
      refine ⟨code, hcode, ?_⟩
      rw [hcommand, hresult]
      rfl
  · exact exits_of_not_asks h entry s n

/-- Where a file cannot be read there is nothing but the fault to be had of a command. -/
theorem command_of_fault (h : AsksForCommand arguments) {bytes : List UInt8}
    {fault : Text.Utf8.Fault} (hfile : s.file = some bytes)
    (hdecode : Text.decodeUtf8 bytes = .error fault) (entry : Entry) (n : Network) :
    command entry arguments s n = ⟨.fileUnreadable fault, [], .initial, n⟩ := by
  obtain ⟨c, dryRun, hr⟩ := h
  unfold command
  rw [hr]
  dsimp only
  unfold withSettings
  rw [Surroundings.content_of_fault hfile hdecode]

theorem ending_of_not_loads (hs : s.Readable) (hnone : ¬ ∃ x, s.Loads x)
    (h : AsksForCommand arguments) (entry : Entry) (n : Network) :
    (command entry arguments s n).ending = .exit exitUsage := by
  obtain ⟨c, dryRun, hr⟩ := h
  obtain ⟨content, hc⟩ := hs.exists_content
  cases hl : Settings.load (sources [] s content) with
  | ok x => exact absurd ⟨x, content, hc, hl⟩ hnone
  | error complaints => exact ending_of_refused hc hl hr entry n

/-- A run ends with an exit code from 0 to 4 unless it is to run a command and the settings file is
no text; then it ends with the fault in the file and has done nothing.  A command without settings
makes no call, and if the file is text its code is 2. -/
theorem exits_iff_readable (entry : Entry) (arguments : List String) (s : Surroundings)
    (n : Network) :
    ((∃ code ≤ 4, (command entry arguments s n).ending = .exit code) ↔
      (AsksForCommand arguments → s.Readable)) ∧
    (AsksForCommand arguments → ¬ s.Readable →
      ∃ bytes fault, s.file = some bytes ∧ Text.decodeUtf8 bytes = .error fault ∧
        command entry arguments s n = ⟨.fileUnreadable fault, [], .initial, n⟩) ∧
    (AsksForCommand arguments → (¬ ∃ x, s.Loads x) →
      (command entry arguments s n).calls = [] ∧
        (s.Readable → (command entry arguments s n).ending = .exit 2)) := by
  have hunread : AsksForCommand arguments → ¬ s.Readable →
      ∃ bytes fault, s.file = some bytes ∧ Text.decodeUtf8 bytes = .error fault ∧
        command entry arguments s n = ⟨.fileUnreadable fault, [], .initial, n⟩ := by
    intro h hs
    obtain ⟨bytes, fault, hfile, hdecode⟩ := Surroundings.exists_fault hs
    exact ⟨bytes, fault, hfile, hdecode, command_of_fault h hfile hdecode entry n⟩
  refine ⟨⟨?_, ?_⟩, hunread, fun h hnone => ⟨calls_of_not_loads hnone entry arguments n,
    fun hs => ending_of_not_loads hs hnone h entry n⟩⟩
  · rintro ⟨code, _, hexit⟩ h
    by_contra hs
    obtain ⟨bytes, fault, _, _, hcommand⟩ := hunread h hs
    rw [hcommand] at hexit
    cases hexit
  · intro h
    by_cases hasks : AsksForCommand arguments
    · exact exits_of_readable (h hasks) entry arguments n
    · exact exits_of_not_asks hasks entry s n

/-! ## A file that is no text -/

/-- Both credentials, and a file with a byte that begins no character. -/
def garbledSurroundings : Surroundings := { bareSurroundings with file := some [0xFF] }

theorem decode_garbled : Text.decodeUtf8 [0xFF] = .error ⟨0, 0, 0xFF, .invalidStart⟩ :=
  decodeUtf8_of_not_lead (by decide) []

theorem asks_dispatch : AsksForCommand ["dispatch"] := ⟨_, _, read_dispatch⟩

theorem exits_of_garbled :
    ¬ (∃ code ≤ 4,
      (command .installed ["dispatch"] garbledSurroundings usualNetwork).ending = .exit code) := by
  rw [(exits_iff_readable .installed ["dispatch"] garbledSurroundings usualNetwork).1]
  intro h
  obtain ⟨text, ht⟩ := h asks_dispatch _ rfl
  rw [decode_garbled] at ht
  cases ht

/-- Not every run ends with an exit code. -/
theorem not_exits_of_garbled :
    ¬ ∀ entry arguments s n, ∃ code ≤ 4, (command entry arguments s n).ending = .exit code := by
  intro hall
  obtain ⟨code, _, hexit⟩ := hall .installed ["dispatch"] garbledSurroundings usualNetwork
  rw [command_of_fault asks_dispatch rfl decode_garbled] at hexit
  cases hexit

end Run
end WorkflowDispatch
