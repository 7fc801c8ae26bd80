import AdbHub.Lib.Radix
import AdbHub.Lib.Text
import AdbHub.Lib.Utf8

/-!
# Versions of adb-proxy

Which versions of adb-proxy the hub is willing to talk to (`compat.rs`).

* `SemVer.parse` — a reported version, with an optional `v` and without pre-release and build
  data.
* `evaluateProxyVersion` — the verdict on a reported version.
-/

namespace AdbHub

open Lib

/-- Oldest release of adb-proxy the hub talks to. Source: `compat.rs`, `MIN_PROXY_VERSION`. -/
def minProxyVersion : String := "0.4.4"

/-- Source: `compat.rs`, `PROXY_VERSION_SERVICE`. -/
def proxyVersionService : String := "proxy:version"

/-- `str::parse::<u32>`. -/
def parseU32 (s : String) : Option ℕ := (fromStrRadix 10 (utf8 s)).filter (· < 2 ^ 32)

/-- Source: `compat.rs`, `SemVer`. -/
structure SemVer where
  major : ℕ
  minor : ℕ
  patch : ℕ
  deriving DecidableEq

namespace SemVer

/-- The derived order: by `major`, then `minor`, then `patch`. -/
def atLeast (v w : SemVer) : Bool :=
  w.major < v.major ||
    (v.major == w.major && (w.minor < v.minor || (v.minor == w.minor && w.patch ≤ v.patch)))

/-- Two or three numbers; a missing third one is `0`. Source: `SemVer::parse`, from `parts` on. -/
def ofParts : List String → Option SemVer
  | [major, minor] => do
      let major ← parseU32 major
      let minor ← parseU32 minor
      let patch ← parseU32 "0"
      some ⟨major, minor, patch⟩
  | [major, minor, patch] => do
      let major ← parseU32 major
      let minor ← parseU32 minor
      let patch ← parseU32 patch
      some ⟨major, minor, patch⟩
  | _ => none

/-- Source: `SemVer::parse`. -/
def parse (s : String) : Option SemVer :=
  let s := trim s
  let s := (stripPrefix s "v").getD s
  let core := (splitOnce s '-').elim s Prod.fst
  let core := (splitOnce core '+').elim core Prod.fst
  ofParts ((core.toList.splitOn '.').map String.ofList)

end SemVer

/-- Source: `compat.rs`, `ProxyCompat`. -/
inductive ProxyCompat
  | ok (version : String)
  | tooOld (version : String)
  /-- The version is not supported or the proxy not reachable. -/
  | unknown (reason : String)
  deriving DecidableEq

/-- Source: `ProxyCompat::is_ok`. -/
def ProxyCompat.isOk : ProxyCompat → Bool
  | .ok _ => true
  | _ => false

/-- Source: `compat.rs`, `evaluate_proxy_version`. -/
def evaluateProxyVersion (reported : String) : ProxyCompat :=
  match SemVer.parse reported with
  | none => .unknown ("invalid version string '" ++ reported ++ "'")
  | some got =>
      match SemVer.parse minProxyVersion with
      | none => .ok (trim reported)
      | some min => if got.atLeast min then .ok (trim reported) else .tooOld (trim reported)

/-- A version is accepted exactly if it is one and not older than the oldest accepted one. -/
theorem isOk_evaluateProxyVersion {reported : String} :
    (evaluateProxyVersion reported).isOk = true ↔
      ∃ got, SemVer.parse reported = some got ∧ got.atLeast ⟨0, 4, 4⟩ = true := by
  have hmin : SemVer.parse minProxyVersion = some ⟨0, 4, 4⟩ := by decide +kernel
  unfold evaluateProxyVersion
  rw [hmin]
  rcases hgot : SemVer.parse reported with _ | got
  · simp [ProxyCompat.isOk]
  · by_cases hold : got.atLeast ⟨0, 4, 4⟩ = true
    · simp [hold, ProxyCompat.isOk]
    · simp [hold, ProxyCompat.isOk]

example : evaluateProxyVersion "v0.4.3-beta" = .tooOld "v0.4.3-beta" := by decide +kernel

end AdbHub
