import AdbHub.DeviceCommands
import AdbHub.Lib.TempRename

/-!
# Saving a configuration file

Commands that save the same configuration file at the same time (`config.rs` and
`proxy_config.rs`, `save_file`): all of them write the temporary file of one name and rename it.

* `SaveCall` — a call of one of the two functions; `saving` — any number of calls, as writers of
  the library.
* **`config_intact_iff`** — the file is intact at every moment iff every rename finds a complete
  text, and no write to the renamed file leaves it incomplete; calls that do not overlap see to it.
-/

namespace AdbHub

open Lib

/-- A call of `save_file`. Source: `HubConfig::save_file` and `ProxyFileConfig::save_file`. -/
inductive SaveCall
  | hub (cfg : HubConfig)
  | proxy (cfg : ProxyFileConfig)

namespace SaveCall

/-- What the call writes; where there is nothing to write, it ends before it opens a file. -/
def text (fmt : ConfigFormat) (toml : ProxyToml) : SaveCall → Except String String
  | .hub cfg => cfg.toTomlString fmt
  | .proxy cfg => cfg.toTomlString toml

/-- How often the call looks up the temporary file between the write and the rename: on Unix, the
hub reads its permissions and sets them. -/
def looks (unix : Bool) : SaveCall → ℕ
  | .hub _ => if unix then 2 else 0
  | .proxy _ => 0

end SaveCall

section

variable {ω : Type} [DecidableEq ω]

/-- Calls on one configuration path, with the file that is there, and what an earlier call may have
left under the temporary name. -/
def saving (unix : Bool) (fmt : ConfigFormat) (toml : ProxyToml) (calls : ω → SaveCall)
    (original stale : Option (List UInt8)) : Saving ω UInt8 where
  zero := 0
  text w := ((calls w).text fmt toml).toOption.map utf8
  looks w := (calls w).looks unix
  original := original
  stale := stale

/-- A reader of the file finds what was there at first, or all that one of the calls has to
write. -/
def ConfigIntact (fmt : ConfigFormat) (toml : ProxyToml) (calls : ω → SaveCall)
    (original : Option (List UInt8)) (s : SaveState ω UInt8) : Prop :=
  s.files.shown = original ∨
    ∃ w text, (calls w).text fmt toml = .ok text ∧ s.files.shown = some (utf8 text)

variable {unix : Bool} {fmt : ConfigFormat} {toml : ProxyToml} {calls : ω → SaveCall}
  {original stale : Option (List UInt8)} {as : List (SaveAction ω)} {s : SaveState ω UInt8}

omit [DecidableEq ω] in
theorem intact_saving_iff : (saving unix fmt toml calls original stale).Intact s ↔
    ConfigIntact fmt toml calls original s := by
  unfold Saving.Intact ConfigIntact saving
  refine or_congr_right (exists_congr fun w => ?_)
  dsimp only
  rcases (calls w).text fmt toml with e | text
  · simp [Except.toOption]
  · simp [Except.toOption]

/-- **When a saved file is intact.** For any calls of `save_file` on one path, with their steps in
any order and failures at any point: at every moment the file is the original or the complete text
of one of the calls iff every rename finds a complete text under the temporary name, and every write
to a file that has been renamed leaves a complete text. Calls that do not overlap meet this.
Source: `config.rs`, `save_file`, "Write config atomically (temp file + rename)" -/
theorem config_intact_iff (h : (saving unix fmt toml calls original stale).machine.Reaches as s) :
    ((saving unix fmt toml calls original stale).machine.Always
        (ConfigIntact fmt toml calls original) as ↔
      (saving unix fmt toml calls original stale).machine.Run
        (saving unix fmt toml calls original stale).KeepsWhole as s) ∧
    ((saving unix fmt toml calls original stale).machine.Run Saving.Alone as s →
      (saving unix fmt toml calls original stale).machine.Always
        (ConfigIntact fmt toml calls original) as) := by
  have hiff : (saving unix fmt toml calls original stale).machine.Always
      (ConfigIntact fmt toml calls original) as ↔
      (saving unix fmt toml calls original stale).machine.Run
        (saving unix fmt toml calls original stale).KeepsWhole as s := by
    rw [← Saving.always_intact_iff h]
    exact forall_congr' fun _ => forall_congr' fun _ => forall_congr' fun _ =>
      forall_congr' fun _ => intact_saving_iff.symm
  exact ⟨hiff, fun halone => hiff.mpr (Saving.run_of_alone halone)⟩

end

/-- The configuration that is saved when the node `office` is paired without a file. -/
def pairedConfig : HubConfig :=
  { HubConfig.localOnly with
    backends := [⟨"office", .loopback 5041, some "AAAA1111", true⟩] }

theorem toTomlString_pairedConfig :
    pairedConfig.toTomlString (.std parseRemote printRemote) = .ok pairedText := by
  decide +kernel

/-- Two commands that save this configuration. -/
def twoCalls : Bool → SaveCall := fun _ => .hub pairedConfig

/-- The two commands, where there is no file at first. -/
def twoSaves : Saving Bool UInt8 :=
  saving true (.std parseRemote printRemote) DeviceCommand.oneDeviceToml twoCalls none none

/-- The second command creates the temporary file when the first one has written it and is about to
rename it. -/
def overlappingSaves : List (SaveAction Bool) :=
  [.create false, .write false 1000, .close false, .look false, .look false, .create true,
    .rename false]

/-- One command after the other. -/
def oneAfterTheOther : List (SaveAction Bool) :=
  [.create false, .write false 1000, .close false, .look false, .look false, .rename false,
    .create true, .write true 1000, .close true, .look true, .look true, .rename true]

/-- Two writers of the same bytes, which one piece is enough for. -/
structure TwoWriters (S : Saving Bool UInt8) (bytes : List UInt8) : Prop where
  text : ∀ w, S.text w = some bytes
  looks : ∀ w, S.looks w = 2
  files : S.files = ⟨fun _ => [], none, none, 2⟩
  ne_nil : bytes ≠ []
  take : bytes.take 1000 = bytes
  drop : bytes.drop 1000 = []

theorem length_pairedText : (utf8 pairedText).length = 198 := by
  rw [length_utf8]
  decide +kernel

theorem twoWriters_twoSaves : TwoWriters twoSaves (utf8 pairedText) where
  text w := by
    have htext : (twoCalls w).text (.std parseRemote printRemote) DeviceCommand.oneDeviceToml =
        .ok pairedText := toTomlString_pairedConfig
    unfold twoSaves saving
    dsimp only
    rw [htext]
    rfl
  looks _ := rfl
  files := by simp [Saving.files, twoSaves, saving]
  ne_nil := List.length_pos_iff.mp (by rw [length_pairedText]; decide)
  take := List.take_of_length_le (by rw [length_pairedText]; decide)
  drop := List.drop_of_length_le (by rw [length_pairedText]; decide)

theorem TwoWriters.oneAfterTheOther {S : Saving Bool UInt8} {bytes : List UInt8}
    (h : TwoWriters S bytes) :
    (∃ s, S.machine.exec S.machine.init oneAfterTheOther = some s ∧ s.files.shown = some bytes) ∧
      S.machine.checks Saving.Alone S.machine.init oneAfterTheOther = true := by
  obtain ⟨htext, hlooks, hfiles, hne, htake, hdrop⟩ := h
  constructor
  · simp [AdbHub.oneAfterTheOther, Machine.exec, Saving.machine, Saving.step, Saving.advance,
      Files.create, Files.put, Files.rename, Files.shown, overwrite, htext, hlooks, hfiles, hne,
      htake, hdrop]
  · simp [AdbHub.oneAfterTheOther, Machine.checks, Saving.machine, Saving.step, Saving.advance,
      Files.create, Files.put, Files.rename, htext, hlooks, hfiles, hne, hdrop]
    simp [Saving.Alone, SavePhase.Idle]

theorem TwoWriters.overlapping {S : Saving Bool UInt8} {bytes : List UInt8}
    (h : TwoWriters S bytes) :
    ∃ s, S.machine.exec S.machine.init overlappingSaves = some s ∧ s.files.shown = some [] := by
  obtain ⟨htext, hlooks, hfiles, hne, -, hdrop⟩ := h
  simp [overlappingSaves, Machine.exec, Saving.machine, Saving.step, Saving.advance, Files.create,
    Files.put, Files.rename, Files.shown, htext, hlooks, hfiles, hne, hdrop]

/-- Commands one after the other leave the file intact. -/
theorem one_after_the_other_intact :
    ∃ s, twoSaves.machine.Reaches oneAfterTheOther s ∧
      s.files.shown = some (utf8 pairedText) ∧
      twoSaves.machine.Always (ConfigIntact (.std parseRemote printRemote)
        DeviceCommand.oneDeviceToml twoCalls none) oneAfterTheOther := by
  obtain ⟨⟨s, hexec, hshown⟩, hchecks⟩ := twoWriters_twoSaves.oneAfterTheOther
  have hreach := Machine.reaches_of_exec hexec
  obtain ⟨t, hrun⟩ := Machine.exists_run_of_checks hchecks
  obtain rfl := hreach.unique hrun.reaches
  exact ⟨s, hreach, hshown, (config_intact_iff hreach).2 hrun⟩

/-- The first command renames the file that the second one has just emptied. -/
theorem overlapping_torn :
    ∃ s, twoSaves.machine.Reaches overlappingSaves s ∧ s.files.shown = some [] ∧
      ¬ twoSaves.machine.Always (ConfigIntact (.std parseRemote printRemote)
        DeviceCommand.oneDeviceToml twoCalls none) overlappingSaves := by
  obtain ⟨s, hexec, hshown⟩ := twoWriters_twoSaves.overlapping
  have hreach := Machine.reaches_of_exec hexec
  refine ⟨s, hreach, hshown, fun halways => ?_⟩
  rcases halways.last hreach with horiginal | ⟨w, text, htext, hcomplete⟩
  · rw [hshown] at horiginal
    cases horiginal
  · rw [hshown] at hcomplete
    obtain rfl := Except.ok.inj (toTomlString_pairedConfig.symm.trans htext)
    exact twoWriters_twoSaves.ne_nil (Option.some.inj hcomplete).symm

end AdbHub
