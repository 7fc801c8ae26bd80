import AdbHub.Lib.Columns
import AdbHub.Policy
import AdbHub.Registry
import AdbHub.SocketText

/-!
# Device lists as text

What is read from a device list after it was filtered, and from the one that the hub prints
(`policy.rs`, `registry.rs`).

* `parseDeviceLine_some`, `parseDeviceLine_row` — what is read from a line, and what is read back
  from a row.
* **`parse_filterDevicesBody`** — reading a filtered list is filtering what is read.
* `parseBackendArg` — the names a backend may have on the command line.
* **`namesItsDevices_iff`** — the list that is shown names its devices iff no device gets a serial
  with a name that has whitespace or begins with `*`.
-/

namespace AdbHub

open Lib

/-! ## Lines -/

/-- A serial that can be read back: a word that does not look like a banner. -/
structure ReadableSerial (serial : String) : Prop where
  word : IsWord serial
  noBanner : '*' ∉ serial.toList.head?

@[simp] theorem parseDeviceLine_stripCr (line : String) :
    parseDeviceLine (stripCr line) = parseDeviceLine line := by
  unfold parseDeviceLine
  rw [trim_stripCr]

/-- A carriage return at the end of a line makes no difference. -/
theorem filterMap_parse_stripCr (ls : List String) :
    (ls.map stripCr).filterMap parseDeviceLine = ls.filterMap parseDeviceLine := by
  induction ls with
  | nil => rfl
  | cons line ls ih =>
      rw [List.map_cons, List.filterMap_cons, List.filterMap_cons, parseDeviceLine_stripCr, ih]

/-- **What is read from a line.** -/
theorem parseDeviceLine_some {line serial state extras : String}
    (h : parseDeviceLine line = some (serial, state, extras)) :
    ReadableSerial serial ∧ IsWord state ∧
      ∃ ws, (∀ w ∈ ws, IsWord w) ∧ extras = join " " ws := by
  unfold parseDeviceLine at h
  dsimp only at h
  split_ifs at h with hskip
  simp only [Bool.or_eq_true, decide_eq_true_eq, not_or, Bool.not_eq_true] at hskip
  obtain ⟨⟨hempty, hstar⟩, -⟩ := hskip
  rcases hwords : splitWhitespace (trim line) with _ | ⟨first, _ | ⟨second, rest⟩⟩
  · simp [hwords] at h
  · simp [hwords] at h
  · simp only [hwords, Option.some.injEq, Prod.mk.injEq] at h
    obtain ⟨rfl, rfl, rfl⟩ := h
    have hword : ∀ w ∈ first :: second :: rest, IsWord w := by
      rw [← hwords]
      exact fun w hw => isWord_of_mem_splitWhitespace hw
    refine ⟨⟨hword first List.mem_cons_self, fun hfirst => ?_⟩, hword second (by simp), rest,
      fun w hw => hword w (by simp [hw]), rfl⟩
    -- the first word begins with the first character of the trimmed line
    rcases hlist : (trim line).toList with _ | ⟨c, cs⟩
    · exact hempty (String.toList_inj.mp (by simpa using hlist))
    · have hc : c ∈ (trim line).toList.head? := by rw [hlist]; rfl
      have hhead := head_splitWhitespace hwords hc (head_trim hc)
      obtain rfl : c = '*' := Option.some.inj (hhead.symm.trans hfirst)
      have hpre : startsWith (trim line) "*" = true := by simp [startsWith, hlist]
      rw [hstar] at hpre
      cases hpre

/-- A row does not begin with a banner: its first column ends at a tab. -/
theorem startsWith_row {serial : String} (h : IsWord serial) (rest : String) :
    startsWith (serial ++ "\t" ++ rest) "List of" = false := by
  rw [Bool.eq_false_iff]
  intro hpre
  obtain ⟨r, hr⟩ := startsWith_iff.mp hpre
  have hword : ∀ c ∈ ['L', 'i', 's', 't'], isWhitespace c = false := by simp [isWhitespace]
  have hlist : serial.toList ++ '\t' :: rest.toList =
      ['L', 'i', 's', 't'] ++ ' ' :: ('o' :: 'f' :: r.toList) := by
    calc serial.toList ++ '\t' :: rest.toList
        = (serial ++ "\t" ++ rest).toList := by simp
      _ = ("List of" ++ r).toList := by rw [hr]
      _ = _ := by simp
  have hdrop := congrArg (List.dropWhile fun c => !isWhitespace c) hlist
  rw [List.dropWhile_append_of_pos (by simpa using h.2),
    List.dropWhile_append_of_pos (by simpa using hword),
    List.dropWhile_cons_of_neg (by simp [isWhitespace]),
    List.dropWhile_cons_of_neg (by simp [isWhitespace])] at hdrop
  exact absurd (List.cons.inj hdrop).1 (by decide)

/-- **What is read back from a row.** -/
theorem parseDeviceLine_row {serial state : String} {ws : List String}
    (hserial : ReadableSerial serial) (hstate : IsWord state) (hws : ∀ w ∈ ws, IsWord w) :
    parseDeviceLine (serial ++ "\t" ++ join " " (state :: ws)) =
      some (serial, state, join " " ws) := by
  have hwords : ∀ w ∈ state :: ws, IsWord w := by simpa using ⟨hstate, hws⟩
  obtain ⟨c, cs, hc⟩ := List.exists_cons_of_ne_nil hserial.word.toList_ne_nil
  have hlist : (serial ++ "\t" ++ join " " (state :: ws)).toList =
      c :: (cs ++ '\t' :: (join " " (state :: ws)).toList) := by
    simp [hc]
  have hne : (join " " (state :: ws)).toList ≠ [] := by
    intro hnil
    have hempty : join " " (state :: ws) = "" := String.toList_inj.mp (by simpa using hnil)
    exact List.cons_ne_nil _ _ ((join_eq_empty_iff hwords).mp hempty)
  have htrim : trim (serial ++ "\t" ++ join " " (state :: ws)) =
      serial ++ "\t" ++ join " " (state :: ws) := by
    refine trim_eq_self ?_ ?_
    · intro d hd
      rw [hlist] at hd
      obtain rfl := Option.some.inj hd
      exact hserial.word.2 c (hc ▸ List.mem_cons_self)
    · intro d hd
      rw [String.toList_append, List.getLast?_append_of_ne_nil _ hne] at hd
      exact getLast_join hwords hd
  have hnonempty : serial ++ "\t" ++ join " " (state :: ws) ≠ "" := by
    intro hempty
    rw [hempty] at hlist
    cases hlist
  have hstar : startsWith (serial ++ "\t" ++ join " " (state :: ws)) "*" = false := by
    rw [Bool.eq_false_iff]
    intro hpre
    obtain ⟨r, hr⟩ := startsWith_iff.mp hpre
    rw [hr] at hlist
    rw [String.toList_append] at hlist
    have hhead : c = '*' := (List.cons.inj hlist).1.symm
    exact hserial.noBanner (by rw [hc, hhead]; rfl)
  have hsplit : splitWhitespace (serial ++ "\t" ++ join " " (state :: ws)) =
      serial :: state :: ws := by
    rw [show ("\t" : String) = String.singleton '\t' from rfl,
      splitWhitespace_row hserial.word (by decide), splitWhitespace_join hwords]
  unfold parseDeviceLine
  simp only [htrim, hnonempty, hstar, startsWith_row hserial.word, hsplit, decide_false,
    Bool.or_self, Bool.false_eq_true, if_false]

/-! ## A filtered list -/

/-- The lines of a list that are kept. Source: `policy.rs`, `filter_devices_body`, the body of the
loop. -/
def keepsLine (isEnabled : String → Bool) (line : String) : Bool :=
  let trimmed := trim line
  if trimmed = "" then false
  else if startsWith trimmed "*" || startsWith trimmed "List of" then true
  else
    let serial := (splitWhitespace trimmed).head?.getD ""
    if serial = "" || !isEnabled serial then false else true

theorem filterDevicesBody_eq (raw : String) (isEnabled : String → Bool) :
    filterDevicesBody raw isEnabled = unlines ((lines raw).filter (keepsLine isEnabled)) := by
  unfold filterDevicesBody unlines
  rw [List.foldl_filter]
  refine congrArg (fun step => (lines raw).foldl step "") (funext fun out => funext fun line => ?_)
  unfold keepsLine
  dsimp only
  by_cases hempty : trim line = ""
  · simp [hempty]
  · by_cases hbanner : (startsWith (trim line) "*" || startsWith (trim line) "List of") = true
    · simp only [if_neg hempty, if_pos hbanner, if_true]
    · simp only [if_neg hempty, if_neg hbanner]
      split_ifs
      all_goals simp_all

/-- A line from which a device is read is kept if the device is enabled. -/
theorem keepsLine_of_parse {line : String} {entry : String × String × String}
    (h : parseDeviceLine line = some entry) (isEnabled : String → Bool) :
    keepsLine isEnabled line = isEnabled entry.1 := by
  obtain ⟨serial, state, extras⟩ := entry
  have hserial := (parseDeviceLine_some h).1.word.1
  unfold parseDeviceLine at h
  dsimp only at h
  split_ifs at h with hskip
  rcases hwords : splitWhitespace (trim line) with _ | ⟨first, _ | ⟨second, rest⟩⟩
  · simp [hwords] at h
  · simp [hwords] at h
  · simp only [hwords, Option.some.injEq, Prod.mk.injEq] at h
    obtain ⟨rfl, -, -⟩ := h
    simp only [Bool.or_eq_true, decide_eq_true_eq, not_or, Bool.not_eq_true] at hskip
    obtain ⟨⟨hempty, hstar⟩, hlist⟩ := hskip
    unfold keepsLine
    simp [hempty, hstar, hlist, hwords, hserial]

/-- **Reading a filtered list** gives what was read before, in order, restricted to the enabled
devices, whatever the list looks like.
Source: `policy.rs`, `filter_devices_body`, and `registry.rs`, `parse_device_line` -/
theorem parse_filterDevicesBody (body : String) (isEnabled : String → Bool) :
    (lines (filterDevicesBody body isEnabled)).filterMap parseDeviceLine =
      ((lines body).filterMap parseDeviceLine).filter fun entry => isEnabled entry.1 := by
  rw [filterDevicesBody_eq, lines_unlines fun line hline =>
    newline_not_mem_of_mem_lines (List.mem_filter.mp hline).1, filterMap_parse_stripCr]
  generalize lines body = ls
  induction ls with
  | nil => rfl
  | cons line ls ih =>
      rw [List.filter_cons]
      rcases hparse : parseDeviceLine line with _ | entry
      · rw [List.filterMap_cons_none hparse, ← ih]
        split_ifs
        · rw [List.filterMap_cons_none hparse]
        · rfl
      · rw [List.filterMap_cons_some hparse, List.filter_cons, ← ih,
          keepsLine_of_parse hparse isEnabled]
        split_ifs
        · rw [List.filterMap_cons_some hparse]
        · rfl

/-! ## A printed list -/

/-- One printed line. Source: `registry.rs`, `DeviceSnapshot::format_devices`, the body of the
loop. -/
def DeviceEntry.row (long : Bool) (d : DeviceEntry) : String :=
  if long then
    if d.extras = "" then d.publicSerial ++ "\t" ++ d.state
    else d.publicSerial ++ "\t" ++ d.state ++ " " ++ d.extras
  else d.publicSerial ++ "\t" ++ d.state

theorem formatDevices_eq (snap : DeviceSnapshot) (long : Bool) :
    snap.formatDevices long = unlines (snap.devices.map (DeviceEntry.row long)) := by
  unfold DeviceSnapshot.formatDevices unlines
  rw [List.foldl_map]
  congr 1
  funext out d
  unfold DeviceEntry.row
  split_ifs <;> simp only [String.append_assoc]

/-- The state and the extra columns of a device are words, as `parse_device_line` leaves them. -/
structure DeviceEntry.FromLine (d : DeviceEntry) : Prop where
  state : IsWord d.state
  extras : ∃ ws, (∀ w ∈ ws, IsWord w) ∧ d.extras = join " " ws

/-- A printed line is a row of words behind the public serial. -/
theorem row_eq {d : DeviceEntry} (h : d.FromLine) (long : Bool) :
    ∃ ws, (∀ w ∈ ws, IsWord w) ∧ d.row long = d.publicSerial ++ "\t" ++ join " " (d.state :: ws) ∧
      join " " ws = if long then d.extras else "" := by
  obtain ⟨ws, hws, hextras⟩ := h.extras
  unfold DeviceEntry.row
  rcases long with _ | _
  · exact ⟨[], by simp, by simp [join], by simp [join]⟩
  · by_cases hnone : d.extras = ""
    · exact ⟨[], by simp, by simp [hnone, join], by simp [hnone, join]⟩
    · refine ⟨ws, hws, ?_, by simp [hextras]⟩
      rcases ws with _ | ⟨w, ws⟩
      · exact absurd hextras hnone
      · rw [if_pos rfl, if_neg hnone, hextras]
        simp [join, String.append_assoc]

/-- What a client reads from the two printed lists are the devices of the snapshot, in order.
The short list has no extra columns. -/
structure NamesItsDevices (snap : DeviceSnapshot) : Prop where
  long : (lines (snap.formatDevices true)).filterMap parseDeviceLine =
    snap.devices.map fun d => (d.publicSerial, d.state, d.extras)
  short : (lines (snap.formatDevices false)).filterMap parseDeviceLine =
    snap.devices.map fun d => (d.publicSerial, d.state, "")

/-- Readable public serials are read back. -/
theorem parse_formatDevices {snap : DeviceSnapshot} (hline : ∀ d ∈ snap.devices, d.FromLine)
    (hreadable : ∀ d ∈ snap.devices, ReadableSerial d.publicSerial) (long : Bool) :
    (lines (snap.formatDevices long)).filterMap parseDeviceLine =
      snap.devices.map fun d => (d.publicSerial, d.state, if long then d.extras else "") := by
  have hparse : ∀ d ∈ snap.devices, parseDeviceLine (d.row long) =
      some (d.publicSerial, d.state, if long then d.extras else "") := by
    intro d hd
    obtain ⟨ws, hws, hrow, hextras⟩ := row_eq (hline d hd) long
    rw [hrow, parseDeviceLine_row (hreadable d hd) (hline d hd).state hws, hextras]
  have hnewline : ∀ line ∈ snap.devices.map (DeviceEntry.row long), '\n' ∉ line.toList := by
    intro line hmem hnewline
    obtain ⟨d, hd, rfl⟩ := List.mem_map.mp hmem
    obtain ⟨ws, hws, hrow, -⟩ := row_eq (hline d hd) long
    rw [hrow, String.toList_append, String.toList_append, List.mem_append, List.mem_append]
      at hnewline
    rcases hnewline with (hserial | htab) | hjoin
    · exact absurd ((hreadable d hd).word.2 _ hserial) (by decide)
    · exact absurd htab (by decide)
    · rcases mem_join hjoin with hspace | ⟨w, hw, hc⟩
      · exact absurd hspace (by decide)
      · have hword : IsWord w := by
          rcases List.mem_cons.mp hw with rfl | hw
          · exact (hline d hd).state
          · exact hws w hw
        exact absurd (hword.2 _ hc) (by decide)
  rw [formatDevices_eq, lines_unlines hnewline, filterMap_parse_stripCr, List.filterMap_map,
    ← List.filterMap_eq_map]
  refine List.filterMap_congr fun d hd => ?_
  rw [Function.comp_apply, hparse d hd]
  rfl

/-- **A list names its devices iff their public serials can be read back.** -/
theorem namesItsDevices_iff_readable {snap : DeviceSnapshot}
    (hline : ∀ d ∈ snap.devices, d.FromLine) :
    NamesItsDevices snap ↔ ∀ d ∈ snap.devices, ReadableSerial d.publicSerial := by
  constructor
  · intro h d hd
    have hmem : (d.publicSerial, d.state, d.extras) ∈
        (lines (snap.formatDevices true)).filterMap parseDeviceLine := by
      rw [h.long]
      exact List.mem_map.mpr ⟨d, hd, rfl⟩
    obtain ⟨line, -, hparse⟩ := List.mem_filterMap.mp hmem
    exact (parseDeviceLine_some hparse).1
  · exact fun h => ⟨parse_formatDevices hline h true, parse_formatDevices hline h false⟩

/-! ## The names of the nodes -/

/-- A name that can stand before a serial in a list. -/
structure ShowableName (name : String) : Prop where
  noSpace : ∀ c ∈ name.toList, isWhitespace c = false
  noBanner : '*' ∉ name.toList.head?

theorem readableSerial_name {name rest : String}
    (hrest : ∀ c ∈ rest.toList, isWhitespace c = false) :
    ReadableSerial (name ++ ":" ++ rest) ↔ ShowableName name := by
  have hlist : (name ++ ":" ++ rest).toList = name.toList ++ ':' :: rest.toList := by simp
  constructor
  · rintro ⟨⟨-, hword⟩, hbanner⟩
    rw [hlist] at hword hbanner
    refine ⟨fun c hc => hword c (List.mem_append_left _ hc), fun hstar => hbanner ?_⟩
    obtain ⟨cs, hcs⟩ := List.head?_eq_some_iff.mp hstar
    rw [hcs]
    rfl
  · rintro ⟨hspace, hbanner⟩
    refine ⟨⟨fun hempty => ?_, fun c hc => ?_⟩, fun hstar => ?_⟩
    · rw [hempty] at hlist
      simp at hlist
    · rw [hlist] at hc
      rcases List.mem_append.mp hc with hc | hc
      · exact hspace c hc
      · rcases List.mem_cons.mp hc with rfl | hc
        · decide
        · exact hrest c hc
    · rw [hlist] at hstar
      rcases hname : name.toList with _ | ⟨c, cs⟩
      · rw [hname] at hstar
        exact absurd hstar (by simp)
      · rw [hname] at hstar hbanner
        exact hbanner hstar

/-- The public serial of line `i` begins with the name of its node: the serial is reported more
than once, or what it asks for is used already. -/
def ShownByName (lists : List (BackendConfig × String)) (i : ℕ) (p : ParsedDevice) : Prop :=
  serialCount (parseLists lists) p.serial > 1 ∨
    FallsBack (candidateSerial (parseLists lists)) fallbackSerial (parseLists lists) i

/-- A parsed line comes from some line of text. -/
theorem parsed_fromLine {lists : List (BackendConfig × String)} {p : ParsedDevice}
    (hp : p ∈ parseLists lists) :
    ∃ line, parseDeviceLine line = some (p.serial, p.state, p.extras) := by
  unfold parseLists at hp
  obtain ⟨⟨backend, body⟩, -, hp⟩ := List.mem_flatMap.mp hp
  obtain ⟨line, -, hparse⟩ := List.mem_filterMap.mp hp
  obtain ⟨⟨serial, state, extras⟩, hsome, rfl⟩ := Option.map_eq_some_iff.mp hparse
  exact ⟨line, hsome⟩

/-- The serial of one merged line can be read back iff its node's name does not get in the way. -/
theorem readableSerial_merged {lists : List (BackendConfig × String)} {i : ℕ} {p : ParsedDevice}
    (hp : (parseLists lists)[i]? = some p) {serial : String}
    (hserial : (mergeDeviceLists lists).serials[i]? = some serial) :
    ReadableSerial serial ↔ (ShownByName lists i p → ShowableName p.backend.name) := by
  obtain ⟨line, hline⟩ := parsed_fromLine (List.mem_of_getElem? hp)
  have hown := (parseDeviceLine_some hline).1
  rw [publicSerials_mergeDeviceLists] at hserial
  by_cases hback :
      FallsBack (candidateSerial (parseLists lists)) fallbackSerial (parseLists lists) i
  · rw [getElem?_assignNames_of_fallsBack hp hback] at hserial
    obtain rfl := Option.some.inj hserial
    have hrest : ∀ c ∈ (p.serial ++ ":" ++ i.repr).toList, isWhitespace c = false := by
      intro c hc
      rw [String.toList_append, String.toList_append, List.mem_append, List.mem_append] at hc
      rcases hc with (hc | hc) | hc
      · exact hown.word.2 c hc
      · obtain rfl : c = ':' := by simpa using hc
        decide
      · exact isWhitespace_of_mem_repr hc
    have hfallback : fallbackSerial p i = p.backend.name ++ ":" ++ (p.serial ++ ":" ++ i.repr) := by
      simp only [fallbackSerial, String.append_assoc]
    rw [hfallback, readableSerial_name hrest]
    exact ⟨fun h _ => h, fun h => h (.inr hback)⟩
  · rw [getElem?_assignNames_of_not_fallsBack hp hback] at hserial
    obtain rfl := Option.some.inj hserial
    unfold candidateSerial
    split_ifs with hcount
    · rw [readableSerial_name hown.word.2]
      exact ⟨fun h _ => h, fun h => h (.inl hcount)⟩
    · exact ⟨fun _ h => (h.elim hcount hback).elim, fun _ => hown⟩

/-- **When a shown list names its devices.** Reading the printed list gives the devices back
exactly if no device is shown under a name of its node that has whitespace or begins with `*`.
Source: `registry.rs`, `DeviceSnapshot::format_devices` and `merge_device_lists` -/
theorem namesItsDevices_iff (lists : List (BackendConfig × String)) :
    NamesItsDevices (mergeDeviceLists lists) ↔
      ∀ i p, (parseLists lists)[i]? = some p → ShownByName lists i p →
        ShowableName p.backend.name := by
  have hline : ∀ d ∈ (mergeDeviceLists lists).devices, d.FromLine := by
    intro d hd
    obtain ⟨p, hp, heq⟩ := exists_parsed_of_mem hd
    obtain ⟨line, hparse⟩ := parsed_fromLine hp
    obtain ⟨-, hstate, hextras⟩ := parseDeviceLine_some hparse
    rw [heq]
    exact ⟨hstate, hextras⟩
  have hlen : (mergeDeviceLists lists).serials.length = (parseLists lists).length := by
    rw [publicSerials_mergeDeviceLists, assignNames_length]
  rw [namesItsDevices_iff_readable hline]
  have hserials : (∀ d ∈ (mergeDeviceLists lists).devices, ReadableSerial d.publicSerial) ↔
      ∀ (i : ℕ) (serial : String), (mergeDeviceLists lists).serials[i]? = some serial →
        ReadableSerial serial := by
    have hmap : ∀ serial, serial ∈ (mergeDeviceLists lists).serials ↔
        ∃ d ∈ (mergeDeviceLists lists).devices, d.publicSerial = serial := fun _ => List.mem_map
    constructor
    · intro h i serial hi
      obtain ⟨d, hd, rfl⟩ := (hmap serial).mp (List.mem_of_getElem? hi)
      exact h d hd
    · intro h d hd
      obtain ⟨i, hi⟩ := List.mem_iff_getElem?.mp ((hmap d.publicSerial).mpr ⟨d, hd, rfl⟩)
      exact h i _ hi
  rw [hserials]
  constructor
  · intro h i p hp
    have hi := (List.getElem?_eq_some_iff.mp hp).1
    have hserial := List.getElem?_eq_getElem (hlen ▸ hi)
    exact (readableSerial_merged hp hserial).mp (h i _ hserial)
  · intro h i serial hserial
    have hi := (List.getElem?_eq_some_iff.mp hserial).1
    have hp := List.getElem?_eq_getElem (hlen ▸ hi)
    exact (readableSerial_merged hp hserial).mpr (h i _ hp)

/-! ## Backends of the command line -/

/-- Source: `config.rs`, `parse_backend_arg`. -/
def parseBackendArg (net : NetText) (s : String) : Except ConfigError BackendConfig :=
  match splitOnce s '=' with
  | some (name, addrS) => do
      let addr ← (net.parseAddr addrS).mapError fun e => .invalid ("backend addr: " ++ e)
      if name = "" then
        throw (.invalid "backend name must not be empty")
      return { name := name, addr := addr, pairCode := none, enabled := true }
  | none => do
      let addr ← (net.parseAddr s).mapError fun e => .invalid ("backend addr: " ++ e)
      return { name := net.defaultBackendName addr, addr := addr, pairCode := none,
               enabled := true }

/-- Every text but the empty one is accepted for a name, up to the first `=`. -/
theorem parseBackendArg_name {net : NetText} {name addrS : String} {addr : SocketAddr}
    (hne : name ≠ "") (heq : '=' ∉ name.toList) (haddr : net.parseAddr addrS = .ok addr) :
    parseBackendArg net (name ++ "=" ++ addrS) = .ok ⟨name, addr, none, true⟩ := by
  have hsplit : splitOnce (name ++ "=" ++ addrS) '=' = some (name, addrS) :=
    splitOnce_eq_some_iff.mpr ⟨rfl, heq⟩
  unfold parseBackendArg
  simp [hsplit, haddr, hne, bind, Except.bind, Except.mapError, pure, Except.pure]

/-- Two nodes of the command line with names that `parse_backend_arg` accepts, and the same phone
on both. -/
def twoOffices : List (BackendConfig × String) :=
  [(⟨"my office", .v4 0x0a000009 5038, none, true⟩, "ABC\tdevice\n"),
   (⟨"*lab", .v4 0x0a000008 5038, none, true⟩, "ABC\tdevice\n")]

/-- The list of both names a device `my` in the state `office:ABC`, and the other one not at all. -/
theorem twoOffices_misread :
    parseBackendArg stdNet "my office=10.0.0.9:5038" =
        .ok ⟨"my office", .v4 0x0a000009 5038, none, true⟩ ∧
      parseBackendArg stdNet "*lab=10.0.0.8:5038" =
        .ok ⟨"*lab", .v4 0x0a000008 5038, none, true⟩ ∧
      (mergeDeviceLists twoOffices).serials = ["my office:ABC", "*lab:ABC"] ∧
      (lines ((mergeDeviceLists twoOffices).formatDevices true)).filterMap parseDeviceLine =
        [("my", "office:ABC", "device")] ∧
      ¬ NamesItsDevices (mergeDeviceLists twoOffices) := by
  have hserials : (mergeDeviceLists twoOffices).serials = ["my office:ABC", "*lab:ABC"] := by
    decide +kernel
  have hread :
      (lines ((mergeDeviceLists twoOffices).formatDevices true)).filterMap parseDeviceLine =
        [("my", "office:ABC", "device")] := by decide +kernel
  have hoffice : parseBackendArg stdNet ("my office" ++ "=" ++ "10.0.0.9:5038") =
      .ok ⟨"my office", .v4 0x0a000009 5038, none, true⟩ :=
    parseBackendArg_name (by decide) (by decide) (by decide +kernel)
  have hlab : parseBackendArg stdNet ("*lab" ++ "=" ++ "10.0.0.8:5038") =
      .ok ⟨"*lab", .v4 0x0a000008 5038, none, true⟩ :=
    parseBackendArg_name (by decide) (by decide) (by decide +kernel)
  refine ⟨hoffice, hlab, hserials, hread, fun h => ?_⟩
  have hlen := congrArg List.length (hread.symm.trans h.long)
  have hdevices := congrArg List.length hserials
  rw [DeviceSnapshot.serials, List.length_map] at hdevices
  rw [List.length_map, hdevices] at hlen
  exact absurd hlen (by decide)

end AdbHub
