import AdbHub.Compat
import AdbHub.HubConfig
import AdbHub.Lib.Lockstep
import AdbHub.Protocol

/-!
# Asking a backend

One connection to a backend and what is asked on it: the pair code, the version of adb-proxy, and
the list of devices (`auth.rs`, `backend.rs`).

* `Dial` — what one attempt to contact a backend meets. The backend may be unreachable, silent, or
  answer with any bytes; any write may fail.
* `connectBackend`, `fetchProxyVersion`, `checkProxyCompat`, `fetchDevicesL` and
  `filterCompatibleBackends`.
* `SameCodes` — two pair codes that are both absent or both valid; what is asked with the one gets
  the same results as what is asked with the other.
-/

namespace AdbHub

open Lib Protocol

/-! ## Connections -/

/-- What an attempt to contact a backend meets. -/
structure Dial where
  /-- The outcome of the connect; nothing if it takes too long. -/
  connect : Option (Except String Unit) := some (.ok ())
  /-- Whether a write fails, by how much was written and how much is to be written. -/
  fault : ℕ → ℕ → Option String := fun _ _ => none
  /-- The bytes the backend sends. -/
  incoming : Stream := []
  /-- The error of a read behind the last of them. -/
  ended : String := "early eof"
  /-- The pair code is answered in time. -/
  authInTime : Bool := true
  /-- The service is answered in time. -/
  replyInTime : Bool := true

/-- A connection to a backend. -/
structure Upstream where
  incoming : Stream
  ended : String
  outgoing : Sink UInt8

/-- The connection before anything was written. -/
def Dial.upstream (dial : Dial) : Upstream :=
  ⟨dial.incoming, dial.ended, ⟨[], fun out bytes => dial.fault out.length bytes.length⟩⟩

/-- The text of an error; `ended` is that of the end of the stream. Source: `io::Error`. -/
def errorText (ended : String) : ProtocolError → String
  | .unexpectedEof => ended
  | .invalidData text | .other text => text

namespace Upstream

/-- Read from a connection. -/
def read {α : Type} (u : Upstream) (r : Reader α) : Except String (α × Upstream) :=
  match r.on u.incoming with
  | (.ok a, rest) => .ok (a, { u with incoming := rest })
  | (.error e, _) => .error (errorText u.ended e)

/-- Send a service. -/
def request (u : Upstream) (service : String) : Except String Upstream :=
  (writeService service u.outgoing).map fun outgoing => { u with outgoing := outgoing }

end Upstream

/-- Send the pair code and require `OKAY`. Source: `auth.rs`, `authenticate_stream`. -/
def authenticateStream (u : Upstream) (code : String) : Except String Upstream := do
  let u ← u.request (authService code)
  let (status, u) ← u.read readStatus
  if status = okayStatus then .ok u
  else if status = failStatus then do
    let (reason, _) ← u.read readPacket
    .error (fromUtf8Lossy reason)
  else .error ("unexpected auth status: " ++ debugStr ((fromUtf8 status).getD "?"))

/-- Source: `backend.rs`, `connect_backend`. -/
def connectBackend (dial : Dial) (pairCode : Option String) : Except String Upstream := do
  match dial.connect with
  | none => .error "connect timeout"
  | some connected =>
      connected
      match pairCode with
      | none => .ok dial.upstream
      | some code =>
          if dial.authInTime then authenticateStream dial.upstream code else .error "auth timeout"

/-- The answer to a service. Source: `backend.rs`, `fetch_proxy_version` and `fetch_devices_l`,
`timeout(.., read_okay_payload(..))`. -/
def queryPayload (dial : Dial) (u : Upstream) (service : String) : Except String Stream := do
  let u ← u.request service
  if dial.replyInTime then do
    let (body, _) ← u.read readOkayPayload
    .ok body
  else .error "read timeout"

/-- Source: `backend.rs`, `fetch_proxy_version`. -/
def fetchProxyVersion (dial : Dial) : Option String → Except String String
  | none => .error "proxy version check requires a pair code"
  | some code => do
      let u ← connectBackend dial (some code)
      let body ← queryPayload dial u proxyVersionService
      .ok (trim (fromUtf8Lossy body))

/-- Source: `backend.rs`, `check_proxy_compat`. -/
def checkProxyCompat (dial : Dial) (pairCode : Option String) : ProxyCompat :=
  match fetchProxyVersion dial pairCode with
  | .ok version => evaluateProxyVersion version
  | .error reason => .unknown reason

/-- Source: `backend.rs`, `fetch_devices_l`. -/
def fetchDevicesL (dial : Dial) (pairCode : Option String) : Except String String := do
  let u ← connectBackend dial pairCode
  let body ← queryPayload dial u "host:devices-l"
  .ok (fromUtf8Lossy body)

/-- A backend without pair code passes; one with a pair code passes if its version does. Source:
`backend.rs`, `filter_compatible_backends`, the body of the loop. -/
def passesProbe (backend : BackendConfig) (dial : Dial) : Bool :=
  backend.pairCode.isNone || (checkProxyCompat dial backend.pairCode).isOk

/-- Backend number `i` is asked for its version with `probe i`. Source: `backend.rs`,
`filter_compatible_backends`. -/
def filterCompatibleBackends (backends : List BackendConfig) (probe : ℕ → Dial) :
    List BackendConfig :=
  (backends.zipIdx.filter fun (backend, i) => passesProbe backend (probe i)).map Prod.fst

/-! ## The value of a pair code -/

/-- Both absent, or both valid pair codes. -/
inductive SameCodes : Option String → Option String → Prop
  | none : SameCodes none none
  | some {code code' : String} (h : validatePairCode code = .ok ())
      (h' : validatePairCode code' = .ok ()) : SameCodes (some code) (some code')

namespace SameCodes

variable {c c' : Option String}

theorem isSome_eq (h : SameCodes c c') : c.isSome = c'.isSome := by
  cases h <;> rfl

end SameCodes

/-- A valid pair code has eight bytes. -/
theorem length_of_validatePairCode {code : String} (h : validatePairCode code = .ok ()) :
    (utf8 code).length = pairCodeLen := by
  unfold validatePairCode at h
  by_contra hne
  rw [if_pos hne] at h
  simp at h

/-- Connections that differ only in the bytes of what was written. -/
structure Upstream.Alike (u u' : Upstream) : Prop where
  incoming : u.incoming = u'.incoming
  ended : u.ended = u'.ended
  outgoing : u.outgoing.CountsAlike u'.outgoing

section alike

variable {u u' : Upstream} {dial : Dial} {c c' : Option String}

/-- Services of the same length are sent with the same outcome. -/
theorem Upstream.Alike.request (h : u.Alike u') {service service' : String}
    (hlen : (utf8 service).length = (utf8 service').length) :
    SameOutcome Upstream.Alike (u.request service) (u'.request service') := by
  unfold Upstream.request writeService writePacket
  refine SameOutcome.map (R := Sink.CountsAlike) ?_ fun w w' hw => ⟨h.incoming, h.ended, hw⟩
  rw [hlen]
  exact (h.outgoing.writeAll rfl).bind fun w w' hw => hw.writeAll hlen

/-- The same is read from both. -/
theorem Upstream.Alike.read (h : u.Alike u') {α : Type} (r : Reader α) :
    SameOutcome (fun p p' => p.1 = p'.1 ∧ Upstream.Alike p.2 p'.2) (u.read r) (u'.read r) := by
  unfold Upstream.read
  rw [← h.incoming, ← h.ended]
  rcases r.on u.incoming with ⟨e | a, rest⟩
  · exact .error _
  · exact .ok ⟨rfl, rfl, rfl, h.outgoing⟩

/-- A connection before anything was written is like itself. -/
theorem Dial.upstream_alike (dial : Dial) : dial.upstream.Alike dial.upstream :=
  ⟨rfl, rfl, rfl, dial.fault, rfl, rfl⟩

/-- Valid pair codes are answered alike. -/
theorem authenticateStream_alike (h : u.Alike u') {code code' : String}
    (hcode : validatePairCode code = .ok ()) (hcode' : validatePairCode code' = .ok ()) :
    SameOutcome Upstream.Alike (authenticateStream u code) (authenticateStream u' code') := by
  have hlen : (utf8 (authService code)).length = (utf8 (authService code')).length := by
    have hsame := (length_of_validatePairCode hcode).trans (length_of_validatePairCode hcode').symm
    unfold authService
    unfold utf8 at hsame ⊢
    rw [String.toList_append, String.toList_append, List.flatMap_append, List.flatMap_append,
      List.length_append, List.length_append, hsame]
  unfold authenticateStream
  refine (h.request hlen).bind fun v v' hv => ?_
  refine (hv.read readStatus).bind fun ⟨status, w⟩ ⟨status', w'⟩ ⟨hstatus, hw⟩ => ?_
  obtain rfl : status = status' := hstatus
  by_cases hokay : status = okayStatus
  · simp only [if_pos hokay]
    exact .ok hw
  · simp only [if_neg hokay]
    by_cases hfail : status = failStatus
    · simp only [if_pos hfail]
      refine (hw.read readPacket).bind fun p p' hp => ?_
      rw [hp.1]
      exact .error _
    · simp only [if_neg hfail]
      exact .error _

theorem connectBackend_alike (h : SameCodes c c') :
    SameOutcome Upstream.Alike (connectBackend dial c) (connectBackend dial c') := by
  unfold connectBackend
  rcases dial.connect with _ | e | _
  · exact .error _
  · exact .error e
  · cases h with
    | none => exact .ok dial.upstream_alike
    | some hcode hcode' =>
        by_cases htime : dial.authInTime
        · simp only [if_pos htime]
          exact authenticateStream_alike dial.upstream_alike hcode hcode'
        · simp only [if_neg htime]
          exact .error _

theorem queryPayload_alike (h : u.Alike u') (service : String) :
    SameOutcome Eq (queryPayload dial u service) (queryPayload dial u' service) := by
  unfold queryPayload
  refine (h.request rfl).bind fun v v' hv => ?_
  by_cases htime : dial.replyInTime
  · simp only [if_pos htime]
    exact (hv.read readOkayPayload).bind fun p p' hp => .ok hp.1
  · simp only [if_neg htime]
    exact .error _

/-- The list of devices does not depend on the value of a pair code. -/
theorem fetchDevicesL_eq (h : SameCodes c c') : fetchDevicesL dial c = fetchDevicesL dial c' := by
  unfold fetchDevicesL
  refine SameOutcome.eq ((connectBackend_alike h).bind fun u u' hu => ?_)
  exact (queryPayload_alike hu _).bind fun body body' hbody => .ok (by rw [hbody])

/-- Nor does the version of adb-proxy. -/
theorem checkProxyCompat_eq (h : SameCodes c c') :
    checkProxyCompat dial c = checkProxyCompat dial c' := by
  have hversion : fetchProxyVersion dial c = fetchProxyVersion dial c' := by
    cases h with
    | none => rfl
    | some hcode hcode' =>
        unfold fetchProxyVersion
        refine SameOutcome.eq ((connectBackend_alike (.some hcode hcode')).bind fun u u' hu => ?_)
        exact (queryPayload_alike hu _).bind fun body body' hbody => .ok (by rw [hbody])
  rw [checkProxyCompat, checkProxyCompat, hversion]

end alike

end AdbHub
