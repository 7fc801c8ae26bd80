import AdbHub.Lib.FirstSeen
import AdbHub.Session

/-!
# Which device is meant when none is named

The outcome of `pick_preferred` for every snapshot and every order of the backends (`session.rs`).

* `statedOrder` — the order as it is described: the local backend first, then the order that is
  given, then the other backends of the snapshot, each once; `preferenceOrder_eq`.
* `pickAlong_eq` — what the walk along an order does, by the first backend with an online device.
* **`pickPreferred_outcome`** — when a device is picked, and when which error is returned.
-/

namespace AdbHub

open Lib

/-! ## The order -/

/-- The backend `local` is known. -/
def LocalOccurs (snap : DeviceSnapshot) (backendOrder : List String) : Prop :=
  "local" ∈ backendOrder ∨ ∃ d ∈ snap.devices, d.backendName = "local"

instance (snap : DeviceSnapshot) (backendOrder : List String) :
    Decidable (LocalOccurs snap backendOrder) :=
  inferInstanceAs (Decidable (_ ∨ _))

/-- Local first if it occurs, then the order that is given, then the other backends of the snapshot
by first appearance, each once. -/
def statedOrder (snap : DeviceSnapshot) (backendOrder : List String) : List String :=
  ((if LocalOccurs snap backendOrder then ["local"] else []) ++ backendOrder ++
    snap.devices.map DeviceEntry.backendName).eraseDups

/-- The first loop skips the local backend, which is in the list already or does not occur. -/
theorem foldl_skip_local {order backendOrder : List String}
    (h : "local" ∈ backendOrder → "local" ∈ order) :
    backendOrder.foldl (fun order name =>
      if name = "local" then order else if name ∈ order then order else order ++ [name]) order =
        backendOrder.foldl pushNew order := by
  induction backendOrder generalizing order with
  | nil => rfl
  | cons name rest ih =>
      have hstep : (if name = "local" then order
          else if name ∈ order then order else order ++ [name]) = pushNew order name := by
        split_ifs with hlocal hmem
        · subst hlocal
          rw [pushNew, if_pos (h List.mem_cons_self)]
        · rw [pushNew, if_pos hmem]
        · rw [pushNew, if_neg hmem]
      rw [List.foldl_cons, List.foldl_cons, hstep]
      exact ih fun hrest => mem_pushNew.mpr (.inl (h (List.mem_cons_of_mem _ hrest)))

/-- **The order in which the backends are tried** is the one that is stated. -/
theorem preferenceOrder_eq (snap : DeviceSnapshot) (backendOrder : List String) :
    preferenceOrder snap backendOrder = statedOrder snap backendOrder := by
  have hlocal : (backendOrder.any (· = "local") || snap.devices.any (·.backendName = "local")) =
      decide (LocalOccurs snap backendOrder) := by
    rw [Bool.eq_iff_iff, decide_eq_true_eq]
    simp [LocalOccurs]
  have hdevices : ∀ order : List String, snap.devices.foldl (fun order d =>
      if d.backendName ∈ order then order else order ++ [d.backendName]) order =
        (snap.devices.map DeviceEntry.backendName).foldl pushNew order := by
    intro order
    rw [List.foldl_map]
    rfl
  unfold preferenceOrder statedOrder
  simp only [hlocal, decide_eq_true_eq, hdevices]
  by_cases h : LocalOccurs snap backendOrder
  · rw [if_pos h, foldl_skip_local fun _ => List.mem_singleton_self _, ← List.foldl_append,
      foldl_pushNew_of_nodup rfl, List.append_assoc]
  · rw [if_neg h, foldl_skip_local fun hmem => absurd (.inl hmem) h, ← List.foldl_append,
      foldl_pushNew_of_nodup rfl, List.append_assoc]

/-- Every backend of the snapshot is tried. -/
theorem backendName_mem_statedOrder {snap : DeviceSnapshot} {d : DeviceEntry}
    (hd : d ∈ snap.devices) (backendOrder : List String) :
    d.backendName ∈ statedOrder snap backendOrder := by
  unfold statedOrder
  rw [List.mem_eraseDups]
  exact List.mem_append_right _ (List.mem_map_of_mem hd)

/-! ## The walk -/

/-- The online devices of a backend. -/
def onlineOn (snap : DeviceSnapshot) (name : String) : List DeviceEntry :=
  snap.devices.filter fun d => d.backendName = name && d.state = "device"

theorem mem_onlineOn {snap : DeviceSnapshot} {name : String} {d : DeviceEntry} :
    d ∈ onlineOn snap name ↔ d ∈ snap.devices ∧ d.backendName = name ∧ d.state = "device" := by
  simp [onlineOn]

/-- The first backend of an order that has an online device. -/
def firstOnline (snap : DeviceSnapshot) (order : List String) : Option String :=
  order.find? fun name => onlineOn snap name ≠ []

/-- What is answered for the backend at which the walk stops. -/
def answerFor (snap : DeviceSnapshot) (name : String) : Except String DeviceEntry :=
  match onlineOn snap name with
  | [d] => .ok d
  | _ => .error ("more than one device/emulator on backend '" ++ name ++ "'")

/-- **The walk stops at the first backend with an online device.** -/
theorem pickAlong_eq (snap : DeviceSnapshot) (order : List String) :
    pickAlong snap order =
      (firstOnline snap order).elim (.error "no devices/emulators found") (answerFor snap) := by
  unfold firstOnline
  induction order with
  | nil => rfl
  | cons name rest ih =>
      have honline : (snap.devices.filter fun d => d.backendName = name && d.state = "device") =
          onlineOn snap name := rfl
      rw [pickAlong, pickOneOnBackend, honline, List.find?_cons]
      rcases hon : onlineOn snap name with _ | ⟨d, _ | ⟨e, es⟩⟩
      · simpa using ih
      · simp [answerFor, hon]
      · simp [answerFor, hon]

/-- A walk along all backends of the snapshot stops unless no device is online. -/
theorem firstOnline_eq_none_iff {snap : DeviceSnapshot} {order : List String}
    (h : ∀ d ∈ snap.devices, d.backendName ∈ order) :
    firstOnline snap order = none ↔ ∀ d ∈ snap.devices, d.state ≠ "device" := by
  unfold firstOnline
  rw [List.find?_eq_none]
  constructor
  · intro hnone d hd hstate
    have hempty : onlineOn snap d.backendName = [] := by simpa using hnone _ (h d hd)
    have hmem := mem_onlineOn.mpr ⟨hd, rfl, hstate⟩
    rw [hempty] at hmem
    cases hmem
  · intro hoffline name _
    have hempty : onlineOn snap name = [] := by
      refine List.eq_nil_iff_forall_not_mem.mpr fun d hd => ?_
      obtain ⟨hmem, -, hstate⟩ := mem_onlineOn.mp hd
      exact hoffline d hmem hstate
    simp [hempty]

/-! ## The outcome -/

/-- The error for a backend names it. -/
theorem many_text_inj {name name' : String}
    (h : "more than one device/emulator on backend '" ++ name ++ "'" =
      "more than one device/emulator on backend '" ++ name' ++ "'") : name = name' := by
  simpa using h

theorem many_text_ne (name : String) :
    "more than one device/emulator on backend '" ++ name ++ "'" ≠ "no devices/emulators found" := by
  rw [String.append_assoc]
  exact append_ne_of_not_prefix (q := "no devices/emulators found") (by decide) (by decide) _ ""

/-- **The preferred device.** For every snapshot and every order, with repeated names, names without
devices, and backends of the snapshot that are not in it: a device is picked iff it is the only
online device of the first backend with one, in the stated order; the error that there is more than
one names this backend iff it has two or more; and the error that there is none is returned iff no
device of the snapshot is online.
Source: `session.rs`, `pick_preferred` and `pick_one_on_backend` -/
theorem pickPreferred_outcome (snap : DeviceSnapshot) (backendOrder : List String) :
    (∀ d, pickPreferred snap backendOrder = .ok d ↔
      ∃ name, firstOnline snap (statedOrder snap backendOrder) = some name ∧
        onlineOn snap name = [d]) ∧
    (∀ name, pickPreferred snap backendOrder =
        .error ("more than one device/emulator on backend '" ++ name ++ "'") ↔
      firstOnline snap (statedOrder snap backendOrder) = some name ∧
        2 ≤ (onlineOn snap name).length) ∧
    (pickPreferred snap backendOrder = .error "no devices/emulators found" ↔
      ∀ d ∈ snap.devices, d.state ≠ "device") := by
  have hnone : firstOnline snap (statedOrder snap backendOrder) = none ↔ _ :=
    firstOnline_eq_none_iff fun d hd => backendName_mem_statedOrder hd backendOrder
  unfold pickPreferred
  rw [preferenceOrder_eq, pickAlong_eq, ← hnone]
  rcases hfirst : firstOnline snap (statedOrder snap backendOrder) with _ | name
  · refine ⟨fun d => by simp, fun name => ?_, by simp⟩
    simp only [Option.elim_none, Except.error.injEq, reduceCtorEq, false_and, iff_false]
    exact (many_text_ne name).symm
  · have honline : onlineOn snap name ≠ [] := by simpa using List.find?_some hfirst
    simp only [Option.elim_some, Option.some.injEq, exists_eq_left', reduceCtorEq, iff_false]
    unfold answerFor
    rcases hon : onlineOn snap name with _ | ⟨d, _ | ⟨e, es⟩⟩
    · exact absurd hon honline
    · refine ⟨fun e => by simp, fun name' => ?_, by simp⟩
      simp only [reduceCtorEq, false_iff, not_and, not_le]
      rintro rfl
      simp [hon]
    · refine ⟨fun d' => by simp, fun name' => ?_, ?_⟩
      · constructor
        · intro h
          obtain rfl := many_text_inj (Except.error.inj h)
          exact ⟨rfl, by simp [hon]⟩
        · rintro ⟨rfl, -⟩
          rfl
      · simpa using many_text_ne name

end AdbHub
