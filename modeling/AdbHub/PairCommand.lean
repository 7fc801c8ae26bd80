import AdbHub.NodeEdits
import AdbHub.PairedBackend

/-!
# Pairing a hub with a proxy

`adb-hub pair` against a running adb-proxy (`bin/adb-hub.rs`, `run_pair`; `main.rs`; `auth.rs`). The
command contacts the proxy twice, for the pair code and for its version.

* `generatePairCode`, `proxyPairCode` — the pair code that a proxy runs with, and
  `validatePairCode_proxy`: it is a valid one.
* `knock` — the first connection of the command.
* **`pair_command`** — the configuration is changed exactly if the code that was typed is the one
  the proxy runs with, and then it has a backend that the proxy admits.
-/

namespace AdbHub

open Lib Protocol

/-! ## The pair code of a proxy -/

/-- Source: `auth.rs`, `PAIR_ALPHABET`. -/
def pairAlphabet : List Char :=
  ['A', 'B', 'C', 'D', 'E', 'F', 'G', 'H', 'I', 'J', 'K', 'L', 'M', 'N', 'O', 'P', 'Q', 'R', 'S',
   'T', 'U', 'V', 'W', 'X', 'Y', 'Z', '0', '1', '2', '3', '4', '5', '6', '7', '8', '9']

/-- A code of characters drawn from the alphabet. Source: `auth.rs`, `generate_pair_code`; the draws
are those of `gen_range`. -/
def generatePairCode (draws : Fin pairCodeLen → Fin pairAlphabet.length) : String :=
  String.ofList (List.ofFn fun i => pairAlphabet.get (draws i))

/-- The code of the command line, if there is one. Source: `main.rs`, `pair_code`. -/
def proxyPairCode (option : Option String) (draws : Fin pairCodeLen → Fin pairAlphabet.length) :
    Except String String :=
  match option with
  | some code => do
      (validatePairCode code).mapError fun e => "invalid --pair-code: " ++ e
      .ok code
  | none => .ok (generatePairCode draws)

/-- Every character of the alphabet is one byte, a capital letter or a digit. -/
theorem utf8EncodeChar_pairAlphabet : ∀ c ∈ pairAlphabet, (String.utf8EncodeChar c).length = 1 ∧
    ((String.utf8EncodeChar c).all fun b =>
      (0x41 ≤ b && b ≤ 0x5a) || (0x30 ≤ b && b ≤ 0x39)) = true := by
  have hascii : (pairAlphabet.all fun c => decide (c.utf8Size = 1) && ((0x41 ≤ c.val.toUInt8 &&
      c.val.toUInt8 ≤ 0x5a) || (0x30 ≤ c.val.toUInt8 && c.val.toUInt8 ≤ 0x39))) = true := by
    rfl
  intro c hc
  obtain ⟨hsize, hrange⟩ := Bool.and_eq_true_iff.mp (List.all_eq_true.mp hascii c hc)
  rw [String.utf8EncodeChar_eq_singleton (decide_eq_true_eq.mp hsize)]
  exact ⟨rfl, by rw [List.all_cons, List.all_nil, Bool.and_true, hrange]⟩

/-- A generated code is valid. -/
theorem validatePairCode_generate (draws : Fin pairCodeLen → Fin pairAlphabet.length) :
    validatePairCode (generatePairCode draws) = .ok () := by
  have hmem : ∀ c ∈ List.ofFn fun i => pairAlphabet.get (draws i), c ∈ pairAlphabet := by
    intro c hc
    obtain ⟨i, rfl⟩ := List.mem_ofFn.mp hc
    exact List.get_mem _ _
  have hlen : (utf8 (generatePairCode draws)).length = pairCodeLen := by
    have hone : ∀ c ∈ List.ofFn fun i => pairAlphabet.get (draws i),
        (String.utf8EncodeChar c).length = 1 := fun c hc =>
      (utf8EncodeChar_pairAlphabet c (hmem c hc)).1
    unfold utf8 generatePairCode
    rw [String.toList_ofList, List.length_flatMap, List.map_congr_left hone, List.map_const',
      List.sum_replicate, List.length_ofFn, smul_eq_mul, mul_one]
  have hall : (utf8 (generatePairCode draws)).all (fun b =>
      (0x41 ≤ b && b ≤ 0x5a) || (0x30 ≤ b && b ≤ 0x39)) = true := by
    unfold utf8 generatePairCode
    rw [String.toList_ofList, List.all_flatMap, List.all_eq_true]
    exact fun c hc => (utf8EncodeChar_pairAlphabet c (hmem c hc)).2
  unfold validatePairCode
  rw [if_neg (not_not.mpr hlen), hall]
  rfl

/-- **A proxy runs with a valid pair code.** -/
theorem validatePairCode_proxy {option : Option String} {code : String}
    {draws : Fin pairCodeLen → Fin pairAlphabet.length}
    (h : proxyPairCode option draws = .ok code) : validatePairCode code = .ok () := by
  unfold proxyPairCode at h
  rcases option with _ | typed
  · obtain rfl := Except.ok.inj h
    exact validatePairCode_generate draws
  · obtain ⟨u, hvalid, hcode⟩ := bind_eq_ok h
    obtain rfl := Except.ok.inj hcode
    exact mapError_eq_ok_iff.mp hvalid

/-! ## Knocking -/

/-- The first connection of the command. Source: `bin/adb-hub.rs`, `run_pair`, up to
`drop(stream)`. -/
def knock (env : ProxyEnv) (code : String) : Connection Unit := do
  connectTarget env
  authenticate env code

section knock

variable {env proxy : ProxyEnv} {code : String} {client adb : Incoming UInt8 IoError}

/-- The proxy gets the pair code, whatever it answers. -/
theorem knock_sends_code (henv : env.Undisturbed) (code : String)
    (client toHub : Incoming UInt8 IoError) :
    ((knock env code).on (.start client toHub)).2.target.written =
      packetBytes (utf8 (authService code)) := by
  obtain ⟨c₁, hconnect, hw₁⟩ := on_connectTarget henv.connects (.start client toHub)
  have hnone : c₁.target.written = [] := congrArg Wires.targetOut hw₁
  unfold knock
  rw [Effect.on_bind_ok hconnect, target_written_authenticate henv, hnone, List.nil_append]

/-- The pair code as the command sends it is what `Dial` describes. -/
theorem knock_eq (henv : env.Undisturbed) (code : String) (client toHub : Incoming UInt8 IoError) :
    ((knock env code).on (.start client toHub)).1.mapError IoError.text =
      (authenticateStream (Dial.hearing toHub).upstream code).map fun _ => () := by
  have hstart : SameBackend (Dial.hearing toHub).upstream
      { ProxyConn.start client toHub with connected := true } := ⟨rfl, rfl, rfl⟩
  have hconnect : (connectTarget env).on (.start client toHub) =
      (.ok (), { ProxyConn.start client toHub with connected := true }) := by
    unfold connectTarget
    rw [Effect.on_act, henv.connects]
  have hanswer := authenticate_answer henv hstart code
  unfold knock
  rw [Effect.on_bind_ok hconnect, hanswer.mapError_eq]
  rcases authenticateStream (Dial.hearing toHub).upstream code with e | u
  · rfl
  · rfl

/-- **The proxy lets its own code in**, and tells every other one that it is not. -/
theorem knock_answered (henv : env.Undisturbed)
    (hwrites : ∀ peer written bytes, proxy.writeFault peer written bytes = none)
    (hproxy : validatePairCode proxy.pairCode = .ok ()) (hcode : validatePairCode code = .ok ())
    (e : Paired (knock env code) proxy client adb) :
    ((authenticateStream e.dial.upstream code).map fun _ => ()) =
      if code = proxy.pairCode then .ok () else .error "unauthorized" := by
  have hfirst : e.toRight.items = packetBytes (utf8 (authService code)) ++ [] := by
    rw [e.toRight_items, knock_sends_code henv, List.append_nil]
  obtain ⟨c₁, hconnect, hw₁⟩ := on_connectTarget henv.connects (.start client e.toLeft)
  have hheard : ((knock env code).on (.start client e.toLeft)).1.mapError IoError.text =
      if code = proxy.pairCode then .ok () else .error "unauthorized" := by
    unfold knock
    rw [Effect.on_bind_ok hconnect]
    by_cases hsame : code = proxy.pairCode
    · subst hsame
      obtain ⟨more, hokay⟩ := client_written_of_admitted hwrites hproxy hfirst adb
      have hanswer : c₁.wires.targetIn = okayStatus ++ more := by
        rw [hw₁]
        exact e.toLeft_items.trans hokay
      obtain ⟨c₂, hauth, -⟩ := on_authenticate_okay henv proxy.pairCode hanswer
      rw [hauth, if_pos rfl]
      rfl
    · obtain ⟨c, houtcome, hfail, -, -⟩ := proxy_refuses hwrites hcode hsame hfirst adb
      have hanswer : c₁.wires.targetIn = failStatus ++ packetBytes (utf8 "unauthorized") ++ [] := by
        rw [hw₁, List.append_nil]
        refine e.toLeft_items.trans ?_
        rw [houtcome]
        exact hfail
      obtain ⟨c₂, hauth, -⟩ :=
        on_authenticate_fail henv code "unauthorized" (by decide +kernel) hanswer
      rw [hauth, if_neg hsame]
      rfl
  rw [← hheard]
  exact (knock_eq henv code client e.toLeft).symm

end knock

/-! ## The command -/

/-- After pairing there is a backend with this name, address and pair code. -/
theorem upsertBackend_mem (cfg : HubConfig) (backend : BackendConfig) :
    ∃ b ∈ (cfg.upsertBackend backend).backends, b.name = backend.name ∧ b.addr = backend.addr ∧
      b.pairCode = backend.pairCode := by
  have hmid : ∀ {l r : List BackendConfig} {b : BackendConfig}, b ∈ l ++ b :: r :=
    fun {l r b} => List.mem_append_right l (List.mem_cons_self)
  unfold HubConfig.upsertBackend
  split
  · rename_i backends hupdate
    obtain ⟨l, b, r, -, -, hb, rfl⟩ := updateFirst_eq_some_iff.mp hupdate
    exact ⟨_, hmid, of_decide_eq_true hb, rfl, rfl⟩
  · split
    · rename_i backends hupdate
      obtain ⟨l, b, r, -, -, hb, rfl⟩ := updateFirst_eq_some_iff.mp hupdate
      exact ⟨_, hmid, rfl, of_decide_eq_true hb, rfl⟩
    · exact ⟨backend, List.mem_append_right _ (List.mem_singleton_self _), rfl, rfl, rfl⟩

section command

variable {fmt : ConfigFormat} {env proxy : ProxyEnv} {code text : String} {name option : Option String}
  {addr : SocketAddr} {client adb client' adb' : Incoming UInt8 IoError}
  {draws : Fin pairCodeLen → Fin pairAlphabet.length}

/-- What is added by the command. -/
theorem pairedBackend_eq (henv : env.Undisturbed)
    (hwrites : ∀ peer written bytes, proxy.writeFault peer written bytes = none)
    (hproxy : validatePairCode proxy.pairCode = .ok ()) (hcode : validatePairCode code = .ok ())
    (haddr : fmt.net.parseAddr text = .ok addr) (name : Option String)
    (auth : Paired (knock env code) proxy client adb)
    (probe : Paired (queryBackend env (some code) proxyVersionService) proxy client' adb') :
    pairedBackend fmt text code name auth.dial probe.dial =
      if code = proxy.pairCode then
        .ok ⟨name.getD (fmt.net.defaultBackendName addr), addr, some code, true⟩
      else .error "unauthorized" := by
  have hauth := knock_answered henv hwrites hproxy hcode auth
  have hprobe := paired_probe henv hwrites hproxy hcode probe
  unfold pairedBackend
  rw [haddr, hcode, hprobe]
  show ((authenticateStream auth.dial.upstream code) >>= _) = _
  by_cases hsame : code = proxy.pairCode
  · rw [if_pos hsame] at hauth ⊢
    rcases hstream : authenticateStream auth.dial.upstream code with e | u
    · rw [hstream] at hauth
      cases hauth
    · rw [if_pos hsame]
      rfl
  · rw [if_neg hsame] at hauth ⊢
    rcases hstream : authenticateStream auth.dial.upstream code with e | u
    · rw [hstream] at hauth
      obtain rfl := Except.error.inj hauth
      rw [if_neg hsame]
      rfl
    · rw [hstream] at hauth
      cases hauth

/-- **Pairing.** In every exchange of `adb-hub pair` with a running proxy the configuration is
changed iff the code that was typed is the one the proxy runs with, and it then has a backend of the
name and the address with this code; otherwise the reason is told.
Source: `bin/adb-hub.rs`, `run_pair`; `main.rs` -/
theorem pair_command (hstart : proxyPairCode option draws = .ok proxy.pairCode)
    (henv : env.Undisturbed)
    (hwrites : ∀ peer written bytes, proxy.writeFault peer written bytes = none)
    (haddr : fmt.net.parseAddr text = .ok addr) (name : Option String)
    (auth : Paired (knock env code) proxy client adb)
    (probe : Paired (queryBackend env (some code) proxyVersionService) proxy client' adb')
    (cfg : HubConfig) :
    (code = proxy.pairCode → ∃ cfg',
      (HubEdit.pair text code name auth.dial probe.dial).apply fmt cfg = .ok cfg' ∧
        ∃ b ∈ cfg'.backends, b.name = name.getD (fmt.net.defaultBackendName addr) ∧
          b.addr = addr ∧ b.pairCode = some proxy.pairCode) ∧
      (code ≠ proxy.pairCode →
        (HubEdit.pair text code name auth.dial probe.dial).apply fmt cfg =
          (validatePairCode code).bind fun _ => .error "unauthorized") := by
  have hproxy := validatePairCode_proxy hstart
  have happly : (HubEdit.pair text code name auth.dial probe.dial).apply fmt cfg =
      (pairedBackend fmt text code name auth.dial probe.dial >>= fun backend =>
        .ok (cfg.upsertBackend backend)) := rfl
  rw [happly]
  constructor
  · rintro rfl
    rw [pairedBackend_eq henv hwrites hproxy hproxy haddr name auth probe, if_pos rfl]
    exact ⟨_, rfl, upsertBackend_mem cfg
      ⟨name.getD (fmt.net.defaultBackendName addr), addr, some proxy.pairCode, true⟩⟩
  · intro hne
    rcases hcode : validatePairCode code with reason | _
    · have hrefused : pairedBackend fmt text code name auth.dial probe.dial = .error reason := by
        unfold pairedBackend
        rw [haddr, hcode]
        rfl
      rw [hrefused]
      rfl
    · rw [pairedBackend_eq henv hwrites hproxy hcode haddr name auth probe, if_neg hne]
      rfl

end command

/-- The command knocks at the office. -/
def knockExchange : Paired (knock (.undisturbed "") "ABCD1234") lentOffice (sends []) (sends []) where
  toLeft := ⟨[utf8 "OK", utf8 "AY"], none⟩
  toRight := ⟨[utf8 "000dauth:ABCD1", utf8 "234"], none⟩
  toLeft_items := by decide +kernel
  toRight_items := by decide +kernel

theorem office_paired :
    ∃ cfg', (HubEdit.pair "127.0.0.1:5037" "ABCD1234" (some "office") knockExchange.dial
        probeExchange.dial).apply (.std (fun _ => .ok {}) fun _ => .ok "") .localOnly = .ok cfg' ∧
      ∃ b ∈ cfg'.backends, b.name = "office" ∧ b.addr = .loopback 5037 ∧
        b.pairCode = some lentOffice.pairCode := by
  have henv : (ProxyEnv.undisturbed "").Undisturbed := ⟨rfl, fun _ _ _ => rfl, rfl⟩
  have hstart : proxyPairCode (some "ABCD1234") (fun _ => ⟨0, by decide⟩) =
      .ok lentOffice.pairCode := by decide +kernel
  exact (pair_command hstart henv (fun _ _ _ => rfl) parse_defaultListen (some "office")
    knockExchange probeExchange .localOnly).1 rfl

end AdbHub
