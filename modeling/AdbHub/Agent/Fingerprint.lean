import AdbHub.Agent.Rounds
import AdbHub.Lib.Delimited
import AdbHub.NodeEdits

/-!
# The fingerprint of the backends

Which lists of backends have one fingerprint, and when an agent uses versions that it has asked
other backends for (`agent.rs`, `backends_fingerprint` and `refresh_and_publish`).

* `addrAndCode` — what stands behind the name of a backend in a fingerprint.
* `OneChain` — lists of backends that are two readings of one chain of entries; `ToldApart`.
* `backendsFingerprint_eq_iff` — lists have one fingerprint exactly if they are such readings;
  `fingerprint_of_plain_names`: names that do not contain an entry are safe.
* `AskedRounds` — the rounds of an agent, and the backends the versions in its cache are from.
* **`fingerprints_tell_apart_iff`** — for two lists, and for the rounds of an agent.
-/

namespace AdbHub

open Lib Protocol

/-! ## The entries of a fingerprint -/

/-- Only ASCII capitals and digits are valid. -/
theorem not_mem_of_validatePairCode {code : String} (h : validatePairCode code = .ok ()) {c : Char}
    (hc : c.toNat < 128) (hout : ¬ ((0x41 ≤ c.toNat ∧ c.toNat ≤ 0x5a) ∨
      (0x30 ≤ c.toNat ∧ c.toNat ≤ 0x39))) : c ∉ code.toList := by
  intro hmem
  have hall : (utf8 code).all (fun b =>
      (0x41 ≤ b && b ≤ 0x5a) || (0x30 ≤ b && b ≤ 0x39)) = true := by
    unfold validatePairCode at h
    split_ifs at h with hlen hbad
    rwa [Bool.not_eq_true', Bool.not_eq_false] at hbad
  rcases utf8EncodeChar_cases c with ⟨b, hcode, hb⟩ | ⟨hlarge, -⟩
  · have hbyte : b ∈ utf8 code := List.mem_flatMap.mpr ⟨c, hmem, by rw [hcode]; simp⟩
    have hrange := List.all_eq_true.mp hall b hbyte
    apply hout
    simpa [UInt8.le_iff_toNat_le, hb] using hrange
  · omega

theorem not_mem_pairCode {pairCode : Option String}
    (h : ∀ code, pairCode = some code → validatePairCode code = .ok ()) {c : Char}
    (hc : c.toNat < 128) (hout : ¬ ((0x41 ≤ c.toNat ∧ c.toNat ≤ 0x5a) ∨
      (0x30 ≤ c.toNat ∧ c.toNat ≤ 0x39))) : c ∉ (pairCode.getD "").toList := by
  rcases pairCode with _ | code
  · simp
  · exact not_mem_of_validatePairCode (h code rfl) hc hout

/-- Absent and valid pair codes are written differently. -/
theorem pairCode_getD_inj {pairCode pairCode' : Option String}
    (h : ∀ code, pairCode = some code → validatePairCode code = .ok ())
    (h' : ∀ code, pairCode' = some code → validatePairCode code = .ok ())
    (heq : pairCode.getD "" = pairCode'.getD "") : pairCode = pairCode' := by
  have hne : ∀ code, validatePairCode code = .ok () → code ≠ "" := by
    rintro _ hvalid rfl
    exact absurd (length_of_validatePairCode hvalid) (by decide)
  rcases pairCode with _ | code <;> rcases pairCode' with _ | code'
  · rfl
  · exact absurd heq.symm (hne code' (h' code' rfl))
  · exact absurd heq (hne code (h code rfl))
  · exact congrArg some heq

/-- The address and the pair code behind a name. Source: `agent.rs`, `backends_fingerprint`. -/
def addrAndCode : Tails (SocketAddr × Option String) where
  write t := "@" ++ t.1.display ++ "#" ++ t.2.getD ""
  sep := '|'
  Valid t := SocketAddr.parse t.1.display = .ok t.1 ∧
    ∀ code, t.2 = some code → validatePairCode code = .ok ()
  write_ne_empty := by
    rintro ⟨addr, pairCode⟩ - h
    simp at h
  sep_not_mem := by
    rintro ⟨addr, pairCode⟩ ⟨-, hcode⟩ hmem
    have haddr : '|' ∉ addr.display.toList := fun h =>
      absurd (isAddrChar_display addr _ h) (by decide)
    have hcode : '|' ∉ (pairCode.getD "").toList := not_mem_pairCode hcode (by decide) (by decide)
    simp [haddr, hcode] at hmem
  unique := by
    rintro x y ⟨addr, pairCode⟩ ⟨addr', pairCode'⟩ ⟨haddr, hcode⟩ ⟨haddr', hcode'⟩ heq
    have hhash : ∀ {pairCode : Option String},
        (∀ code, pairCode = some code → validatePairCode code = .ok ()) →
          '#' ∉ (pairCode.getD "").toList := fun h => not_mem_pairCode h (by decide) (by decide)
    have hat : ∀ addr : SocketAddr, '@' ∉ addr.display.toList := fun addr h =>
      absurd (isAddrChar_display addr _ h) (by decide)
    have heq' : x ++ "@" ++ addr.display ++ "#" ++ pairCode.getD "" =
        y ++ "@" ++ addr'.display ++ "#" ++ pairCode'.getD "" := by
      simpa only [String.append_assoc] using heq
    -- the pair code is read off first, then the address
    obtain ⟨hfront, hcodes⟩ := append_singleton_append_inj (hhash hcode) (hhash hcode') heq'
    obtain ⟨rfl, hdisplay⟩ := append_singleton_append_inj (hat addr) (hat addr') hfront
    have haddrs : addr = addr' := by
      have hparse : SocketAddr.parse addr.display = .ok addr := haddr
      rw [hdisplay, haddr'] at hparse
      exact (Except.ok.inj hparse).symm
    exact ⟨rfl, Prod.ext haddrs (pairCode_getD_inj hcode hcode' hcodes)⟩

/-- A backend as it stands in a fingerprint. -/
def BackendConfig.entry (b : BackendConfig) : String × (SocketAddr × Option String) :=
  (b.name, b.addr, b.pairCode)

/-- The same names, addresses and pair codes, in the same order. -/
def SameBackends (l₁ l₂ : List BackendConfig) : Prop :=
  List.Forall₂ (fun b c => b.name = c.name ∧ b.addr = c.addr ∧ b.pairCode = c.pairCode) l₁ l₂

/-- Both lists are got from one chain of entries `name@addr#code` by taking neighbours for one,
whose name has the earlier ones and a `|` behind each of them in front. -/
def OneChain (l₁ l₂ : List BackendConfig) : Prop :=
  ∃ chain, addrAndCode.MadeOf chain (l₁.map BackendConfig.entry) ∧
    addrAndCode.MadeOf chain (l₂.map BackendConfig.entry)

/-- The lists agree, or are no two readings of one chain of entries. -/
def ToldApart (l₁ l₂ : List BackendConfig) : Prop := SameBackends l₁ l₂ ∨ ¬ OneChain l₁ l₂

/-- No name has an entry and a `|` in front. -/
def PlainNames (l : List BackendConfig) : Prop := addrAndCode.Plain (l.map BackendConfig.entry)

section fingerprints

variable {parseToml : String → Except String TomlFile}
  {printToml : TomlFile → Except String String} {l₁ l₂ : List BackendConfig}

theorem sameBackends_iff : SameBackends l₁ l₂ ↔
    l₁.map BackendConfig.entry = l₂.map BackendConfig.entry := by
  unfold SameBackends
  rw [← List.forall₂_eq_eq_eq, List.forall₂_map_left_iff, List.forall₂_map_right_iff]
  simp only [BackendConfig.entry, Prod.mk.injEq]

theorem SameBackends.refl (l : List BackendConfig) : SameBackends l l := sameBackends_iff.mpr rfl

/-- A fingerprint is made of the entries. -/
theorem backendsFingerprint_eq (l : List BackendConfig) :
    backendsFingerprint (.std parseToml printToml) l =
      addrAndCode.records (l.map BackendConfig.entry) := by
  unfold backendsFingerprint Tails.records
  rw [List.map_map]
  refine congrArg (join "|") (List.map_congr_left fun b _ => ?_)
  show b.name ++ "@" ++ b.addr.display ++ "#" ++ b.pairCode.getD "" =
    b.name ++ ("@" ++ b.addr.display ++ "#" ++ b.pairCode.getD "")
  simp only [String.append_assoc]

theorem valid_entries (h : ∀ b ∈ l₁, b.WellFormed (.std parseToml printToml)) :
    ∀ e ∈ l₁.map BackendConfig.entry, addrAndCode.Valid e.2 := by
  rw [List.forall_mem_map]
  exact fun b hb => ⟨(h b hb).addr, (h b hb).pairCode⟩

/-- **One fingerprint** have exactly the readings of one chain. -/
theorem backendsFingerprint_eq_iff (h₁ : ∀ b ∈ l₁, b.WellFormed (.std parseToml printToml))
    (h₂ : ∀ b ∈ l₂, b.WellFormed (.std parseToml printToml)) :
    backendsFingerprint (.std parseToml printToml) l₁ =
      backendsFingerprint (.std parseToml printToml) l₂ ↔ OneChain l₁ l₂ := by
  rw [backendsFingerprint_eq, backendsFingerprint_eq]
  exact Tails.records_eq_iff (valid_entries h₁) (valid_entries h₂)

/-- Lists with one fingerprint agree exactly if they are told apart. -/
theorem toldApart_iff (h₁ : ∀ b ∈ l₁, b.WellFormed (.std parseToml printToml))
    (h₂ : ∀ b ∈ l₂, b.WellFormed (.std parseToml printToml)) :
    (backendsFingerprint (.std parseToml printToml) l₁ =
      backendsFingerprint (.std parseToml printToml) l₂ → SameBackends l₁ l₂) ↔
        ToldApart l₁ l₂ := by
  rw [backendsFingerprint_eq_iff h₁ h₂, imp_iff_or_not]
  rfl

/-- Readings of one chain whose names have no entry in front agree. -/
theorem toldApart_of_plainNames (h₁ : PlainNames l₁) (h₂ : PlainNames l₂) :
    ToldApart l₁ l₂ := by
  by_cases hchain : OneChain l₁ l₂
  · obtain ⟨chain, hm₁, hm₂⟩ := hchain
    left
    rw [sameBackends_iff, ← hm₁.eq_of_plain h₁, hm₂.eq_of_plain h₂]
  · exact .inr hchain

/-- A name without `|` has no entry in front. -/
theorem plainNames_of_not_mem (h : ∀ b ∈ l₁, '|' ∉ b.name.toList) : PlainNames l₁ := by
  intro e he d rest hname
  obtain ⟨b, hb, rfl⟩ := List.mem_map.mp he
  apply h b hb
  have hmem : '|' ∈ (addrAndCode.record d ++ String.singleton addrAndCode.sep ++ rest).toList := by
    simp [addrAndCode]
  rwa [← hname] at hmem

end fingerprints

/-! ## The rounds of an agent -/

/-- The rounds of an agent, and the backends it has last asked for their versions. -/
structure AskedRounds where
  refresher : Refresher := {}
  /-- The names in the cache are those of the accepted ones among these. -/
  asked : List BackendConfig := []

namespace AskedRounds

/-- A round asks again where the fingerprint in the cache is another one. -/
def round (fmt : ConfigFormat) (config : AgentConfig) (s : AskedRounds) (r : Round) :
    AskedRounds where
  refresher := s.refresher.round fmt config r
  asked :=
    if s.refresher.phase = .ended then s.asked
    else
      match roundConfig fmt config r.disk with
      | .error _ => s.asked
      | .ok cfg =>
          if s.refresher.cache.fingerprint ≠ backendsFingerprint fmt cfg.enabledBackends then
            cfg.enabledBackends
          else s.asked

/-- The rounds, whatever the file and the backends are in each. -/
def machine (fmt : ConfigFormat) (config : AgentConfig) : Machine AskedRounds Round where
  init := {}
  step s r := some (s.round fmt config r)

/-- A round that takes place with a configuration. -/
structure TakesPlace (fmt : ConfigFormat) (config : AgentConfig) (s : AskedRounds) (r : Round)
    (cfg : HubConfig) : Prop where
  phase : s.refresher.phase ≠ .ended
  config : roundConfig fmt config r.disk = .ok cfg

/-- The versions a round goes by are from backends with the names, addresses and pair codes of its
own. -/
def OwnVersions (fmt : ConfigFormat) (config : AgentConfig) (s : AskedRounds) (r : Round)
    (t : AskedRounds) : Prop :=
  ∀ cfg, s.TakesPlace fmt config r cfg → SameBackends t.asked cfg.enabledBackends

/-- The backends of a round agree with those that were asked last, or the two lists are no readings
of one chain. -/
def RoundToldApart (fmt : ConfigFormat) (config : AgentConfig) (s : AskedRounds) (r : Round) :
    Prop :=
  ∀ cfg, s.TakesPlace fmt config r cfg → ToldApart s.asked cfg.enabledBackends

/-- The cache is that of the backends that were asked last. -/
structure Inv (fmt : ConfigFormat) (s : AskedRounds) : Prop where
  fingerprint : s.refresher.cache.fingerprint = backendsFingerprint fmt s.asked
  names : ∃ probe, s.refresher.cache.names =
    (filterCompatibleBackends s.asked probe).map BackendConfig.name
  wellFormed : ∀ b ∈ s.asked, b.WellFormed fmt

section rounds

variable {fmt : ConfigFormat} {config : AgentConfig} {s : AskedRounds} {r : Round} {cfg : HubConfig}
  {rounds : List Round}

/-- A round that does not take place leaves the cache and the backends that were asked. -/
theorem round_of_not (h : ∀ cfg, ¬ s.TakesPlace fmt config r cfg) :
    (s.round fmt config r).refresher.cache = s.refresher.cache ∧
      (s.round fmt config r).asked = s.asked := by
  unfold round Refresher.round refreshRound
  by_cases hphase : s.refresher.phase = .ended
  · simp [hphase]
  · rcases hcfg : roundConfig fmt config r.disk with e | cfg
    · simp [hphase, bind, Except.bind]
    · exact absurd ⟨hphase, hcfg⟩ (h cfg)

/-- A round that takes place checks the cache, and asks its own backends if that is needed. -/
theorem round_of_takesPlace (h : s.TakesPlace fmt config r cfg) :
    (s.round fmt config r).refresher.cache =
        s.refresher.cache.check fmt cfg.enabledBackends r.replies.probe ∧
      (s.round fmt config r).asked =
        if s.refresher.cache.fingerprint ≠ backendsFingerprint fmt cfg.enabledBackends then
          cfg.enabledBackends
        else s.asked := by
  unfold round Refresher.round refreshRound
  simp only [h.config, if_neg h.phase]
  exact ⟨rfl, trivial⟩

/-- Only the cache and the backends that were asked matter. -/
theorem Inv.congr {t : AskedRounds} (h : s.Inv fmt)
    (hcache : t.refresher.cache = s.refresher.cache) (hasked : t.asked = s.asked) : t.Inv fmt := by
  obtain ⟨hfingerprint, hnames, hwf⟩ := h
  rw [← hcache, ← hasked] at hfingerprint hnames
  rw [← hasked] at hwf
  exact ⟨hfingerprint, hnames, hwf⟩

theorem Inv.round (h : s.Inv fmt) (hwf : ∀ cfg, roundConfig fmt config r.disk = .ok cfg →
    ∀ b ∈ cfg.backends, b.WellFormed fmt) : (s.round fmt config r).Inv fmt := by
  by_cases hplace : ∃ cfg, s.TakesPlace fmt config r cfg
  · obtain ⟨cfg, hplace⟩ := hplace
    obtain ⟨hcache, hasked⟩ := round_of_takesPlace hplace
    unfold CompatCache.check at hcache
    split_ifs at hcache hasked with hnew
    · -- the versions are asked for in this round
      refine ⟨?_, ⟨r.replies.probe, ?_⟩, ?_⟩
      · rw [hcache, hasked]
      · rw [hcache, hasked]
      · rw [hasked]
        exact fun b hb => hwf cfg hplace.config b (List.mem_filter.mp hb).1
    · exact h.congr hcache hasked
  · obtain ⟨hcache, hasked⟩ := round_of_not (not_exists.mp hplace)
    exact h.congr hcache hasked

theorem inv_init : (machine fmt config).init.Inv fmt where
  fingerprint := rfl
  names := ⟨fun _ => { incoming := [] }, rfl⟩
  wellFormed _ hb := absurd hb List.not_mem_nil

theorem inv_of_reaches (hwf : ∀ disk cfg, roundConfig fmt config disk = .ok cfg →
      ∀ b ∈ cfg.backends, b.WellFormed fmt)
    (h : (machine fmt config).Reaches rounds s) : s.Inv fmt := by
  refine Machine.Run.invariant h inv_init fun s r t hs _ hstep => ?_
  obtain rfl := Option.some.inj hstep
  exact hs.round (hwf r.disk)

end rounds

section std

variable {parseToml : String → Except String TomlFile}
  {printToml : TomlFile → Except String String} {config : AgentConfig} {cfg : HubConfig}
  {s : AskedRounds} {r : Round} {rounds : List Round}

/-- **One round** goes by versions of its own backends exactly if it is told apart. -/
theorem ownVersions_round_iff (h : s.Inv (.std parseToml printToml))
    (hwf : ∀ cfg, roundConfig (.std parseToml printToml) config r.disk = .ok cfg →
      ∀ b ∈ cfg.backends, b.WellFormed (.std parseToml printToml)) :
    s.OwnVersions (.std parseToml printToml) config r
        (s.round (.std parseToml printToml) config r) ↔
      s.RoundToldApart (.std parseToml printToml) config r := by
  refine forall_congr' fun cfg => forall_congr' fun hplace => ?_
  obtain ⟨-, hasked⟩ := round_of_takesPlace hplace
  have henabled : ∀ b ∈ cfg.enabledBackends, b.WellFormed (.std parseToml printToml) :=
    fun b hb => hwf cfg hplace.config b (List.mem_filter.mp hb).1
  rw [hasked, ← toldApart_iff h.wellFormed henabled, h.fingerprint]
  split_ifs with hnew
  · exact iff_of_true (.refl _) fun hsame => absurd hsame hnew
  · exact ⟨fun hsame _ => hsame, fun hsame => hsame (not_not.mp hnew)⟩

end std

end AskedRounds

section loaded

variable {parseToml : String → Except String TomlFile}
  {printToml : TomlFile → Except String String} {config : AgentConfig} {cfg : HubConfig}

/-- The backends of a file that is loaded. -/
theorem wellFormed_of_contents {path : String} {contents : Except String String}
    (h : HubConfig.loadFile stdNet parseToml path contents = .ok cfg) :
    ∀ b ∈ cfg.backends, b.WellFormed (.std parseToml printToml) := by
  obtain ⟨_, _, loaded, -, -, hfile, rfl⟩ := HubConfig.loadFile_eq_ok h
  have hbackends : ∀ b ∈ loaded.backends, b.WellFormed (.std parseToml printToml) :=
    HubConfig.wellFormed_of_fromTomlFile SocketAddr.parse_display_of_parse hfile
  exact hbackends

theorem wellFormed_of_fromTomlStr {text : String}
    (h : HubConfig.fromTomlStr (.std parseToml printToml) text = .ok cfg) :
    ∀ b ∈ cfg.enabledBackends, b.WellFormed (.std parseToml printToml) := by
  have hload := HubConfig.loadFile_of_fromTomlStr h "config.toml"
  exact fun b hb => wellFormed_of_contents hload b (List.mem_filter.mp hb).1

/-- A round works with the file, with the configuration the agent was started with, or without
backends, and only with the enabled ones. -/
theorem roundConfig_eq_ok {fmt : ConfigFormat} {disk : Disk}
    (h : roundConfig fmt config disk = .ok cfg) :
    ∃ source, (disk.loadFile fmt config.configPath = .ok source ∨
        config.inlineBackends = some source ∨ source = .localOnly) ∧
      cfg.backends = source.backends.filter (·.enabled) := by
  unfold roundConfig at h
  rcases hin : config.inlineBackends with _ | inline
  · simp only [hin] at h
    split_ifs at h with hfile
    · obtain ⟨source, hsource, h⟩ := bind_eq_ok h
      obtain rfl := Except.ok.inj h
      exact ⟨source, .inl hsource, rfl⟩
    · obtain rfl := Except.ok.inj h
      exact ⟨.localOnly, .inr (.inr rfl), rfl⟩
  · simp only [hin] at h
    split_ifs at h with hfile
    · obtain rfl := Except.ok.inj h
      refine ⟨_, ?_, rfl⟩
      -- where the file is not loaded, what was given at the start is left
      rcases disk.loadFile fmt config.configPath with e | loaded
      · exact .inr (.inl rfl)
      · exact .inl rfl
    · obtain rfl := Except.ok.inj h
      exact ⟨inline, .inr (.inl rfl), rfl⟩

/-- The backends of a round are well formed if those the agent was started with are. -/
theorem wellFormed_of_roundConfig
    (hinline : ∀ inline, config.inlineBackends = some inline →
      ∀ b ∈ inline.backends, b.WellFormed (.std parseToml printToml))
    (disk : Disk) (cfg : HubConfig)
    (h : roundConfig (.std parseToml printToml) config disk = .ok cfg) :
    ∀ b ∈ cfg.backends, b.WellFormed (.std parseToml printToml) := by
  obtain ⟨source, hsource, hbackends⟩ := roundConfig_eq_ok h
  have hwf : ∀ b ∈ source.backends, b.WellFormed (.std parseToml printToml) := by
    rcases hsource with hloaded | hin | rfl
    · exact wellFormed_of_contents hloaded
    · exact hinline source hin
    · exact fun _ hb => absurd hb List.not_mem_nil
  intro b hb
  rw [hbackends] at hb
  exact hwf b (List.mem_filter.mp hb).1

end loaded

/-- **What a fingerprint tells apart.** Two lists of backends that are loaded and have one
fingerprint agree in names, addresses and pair codes iff they are told apart: they agree anyway, or
they are not two readings of one chain of entries. In every run of the rounds of an agent, whatever
the file is in each, the versions every round goes by are from backends like its own iff the
backends of every round are told apart from those that were asked last.
Source: `agent.rs`, `backends_fingerprint` and `refresh_and_publish`, `compatible_names` -/
theorem fingerprints_tell_apart_iff {parseToml : String → Except String TomlFile}
    {printToml : TomlFile → Except String String} {config : AgentConfig}
    (hinline : ∀ inline, config.inlineBackends = some inline →
      ∀ b ∈ inline.backends, b.WellFormed (.std parseToml printToml)) :
    (∀ text₁ text₂ cfg₁ cfg₂,
      HubConfig.fromTomlStr (.std parseToml printToml) text₁ = .ok cfg₁ →
        HubConfig.fromTomlStr (.std parseToml printToml) text₂ = .ok cfg₂ →
          ((backendsFingerprint (.std parseToml printToml) cfg₁.enabledBackends =
              backendsFingerprint (.std parseToml printToml) cfg₂.enabledBackends →
                SameBackends cfg₁.enabledBackends cfg₂.enabledBackends) ↔
            ToldApart cfg₁.enabledBackends cfg₂.enabledBackends)) ∧
      ∀ rounds,
        (AskedRounds.machine (.std parseToml printToml) config).EachStep
            (fun _ s r t => s.OwnVersions (.std parseToml printToml) config r t) rounds ↔
          (AskedRounds.machine (.std parseToml printToml) config).EachStep
            (fun _ s r _ => s.RoundToldApart (.std parseToml printToml) config r) rounds := by
  have hwf := wellFormed_of_roundConfig hinline
  constructor
  · intro text₁ text₂ cfg₁ cfg₂ h₁ h₂
    exact toldApart_iff (wellFormed_of_fromTomlStr h₁) (wellFormed_of_fromTomlStr h₂)
  · intro rounds
    refine forall_congr' fun past => forall_congr' fun s => forall_congr' fun r =>
      forall_congr' fun t => ?_
    refine forall_congr' fun _ => forall_congr' fun hreach => forall_congr' fun hs => ?_
    obtain rfl := Option.some.inj hs
    exact AskedRounds.ownVersions_round_iff (AskedRounds.inv_of_reaches hwf hreach) (hwf r.disk)

/-! ## Two readings -/

/-- A file with these nodes. -/
def nodesText (nodes : List (String × String)) : String :=
  join "\n" (nodes.map fun node =>
    "[[backend]]\nname = \"" ++ node.1 ++ "\"\naddr = \"" ++ node.2 ++ "\"\n")

/-- What the file says. -/
def nodesFile (nodes : List (String × String)) : TomlFile where
  backend := nodes.map fun node => ⟨some node.1, node.2, none, true⟩

/-- Two nodes. -/
def plainNodes : List (String × String) :=
  [("office", "127.0.0.1:5041"), ("lab", "127.0.0.1:5042")]

/-- One node, whose name has the entry of `office` in front. -/
def fusedNode : List (String × String) := [("office@127.0.0.1:5041#|lab", "127.0.0.1:5042")]

/-- The first of the two nodes. -/
def officeNode : List (String × String) := [("office", "127.0.0.1:5041")]

/-- Parsing these files. -/
def parseNodes (text : String) : Except String TomlFile :=
  if text = nodesText plainNodes then .ok (nodesFile plainNodes)
  else if text = nodesText fusedNode then .ok (nodesFile fusedNode)
  else if text = nodesText officeNode then .ok (nodesFile officeNode)
  else .error "TOML parse error"

/-- The text forms of these files and of the addresses in them. -/
def nodesFormat : ConfigFormat := .std parseNodes fun _ => .error "unsupported"

/-- The configuration such a file is loaded as. -/
def nodesConfig (backends : List BackendConfig) : HubConfig := { HubConfig.localOnly with
  backends := backends }

/-- The backends of the files. -/
def plainBackends : List BackendConfig :=
  [⟨"office", .loopback 5041, none, true⟩, ⟨"lab", .loopback 5042, none, true⟩]

@[inherit_doc plainBackends]
def fusedBackend : List BackendConfig :=
  [⟨"office@127.0.0.1:5041#|lab", .loopback 5042, none, true⟩]

@[inherit_doc plainBackends]
def officeBackend : List BackendConfig := [⟨"office", .loopback 5041, none, true⟩]

/-- A round with one of the files, in which every node has a version that is accepted. -/
def nodesRound (nodes : List (String × String)) : Round where
  disk path := if path = "config.toml" then some ⟨none, .ok (nodesText nodes)⟩ else none
  replies :=
    { probe := fun _ => { incoming := okayStatus ++ packetBytes (utf8 "0.4.4") }
      list := fun _ => { incoming := okayStatus ++ packetBytes (utf8 "ABC\tdevice\n") } }

/-- An agent on the file. -/
def nodesAgent : AgentConfig := ⟨"config.toml", none⟩

/-- The agent after a round with two nodes. -/
def afterPlain : AskedRounds :=
  ({} : AskedRounds).round nodesFormat nodesAgent (nodesRound plainNodes)

theorem fromTomlStr_nodes :
    HubConfig.fromTomlStr nodesFormat (nodesText plainNodes) = .ok (nodesConfig plainBackends) ∧
      HubConfig.fromTomlStr nodesFormat (nodesText fusedNode) = .ok (nodesConfig fusedBackend) ∧
      HubConfig.fromTomlStr nodesFormat (nodesText officeNode) = .ok (nodesConfig officeBackend) :=
  ⟨rfl, rfl, rfl⟩

/-- A file with the first node only has another fingerprint. -/
theorem office_told_apart :
    backendsFingerprint nodesFormat plainBackends ≠
      backendsFingerprint nodesFormat officeBackend := by
  intro hsame
  obtain ⟨hplain, -, hoffice⟩ := fromTomlStr_nodes
  have hinline : ∀ inline, some (nodesConfig plainBackends) = some inline →
      ∀ b ∈ inline.backends, b.WellFormed nodesFormat := by
    rintro _ ⟨⟩
    have hload := HubConfig.loadFile_of_fromTomlStr hplain "config.toml"
    exact fun b hb => wellFormed_of_contents hload b hb
  have hapart : ToldApart plainBackends officeBackend := by
    refine toldApart_of_plainNames (plainNames_of_not_mem ?_) (plainNames_of_not_mem ?_)
    · simp [plainBackends]
    · simp [officeBackend]
  have hagree := (@fingerprints_tell_apart_iff parseNodes _
    ⟨"config.toml", some (nodesConfig plainBackends)⟩ hinline).1 _ _ _ _ hplain hoffice
  exact absurd (hagree.mpr hapart hsame).length_eq (by decide)

/-- Two files have one fingerprint but not the same backends, and an agent that meets the second one
after the first goes by the versions of `office` and `lab`. -/
theorem fused_node_goes_by_others :
    HubConfig.fromTomlStr nodesFormat (nodesText plainNodes) = .ok (nodesConfig plainBackends) ∧
      HubConfig.fromTomlStr nodesFormat (nodesText fusedNode) = .ok (nodesConfig fusedBackend) ∧
      backendsFingerprint nodesFormat (nodesConfig plainBackends).enabledBackends =
        backendsFingerprint nodesFormat (nodesConfig fusedBackend).enabledBackends ∧
      ¬ SameBackends (nodesConfig plainBackends).enabledBackends
        (nodesConfig fusedBackend).enabledBackends ∧
      (AskedRounds.machine nodesFormat nodesAgent).Reaches [nodesRound plainNodes] afterPlain ∧
      (afterPlain.round nodesFormat nodesAgent (nodesRound fusedNode)).refresher.cache.names =
        ["office", "lab"] ∧
      ¬ afterPlain.OwnVersions nodesFormat nodesAgent (nodesRound fusedNode)
        (afterPlain.round nodesFormat nodesAgent (nodesRound fusedNode)) := by
  have hdiffer : ¬ SameBackends plainBackends fusedBackend :=
    fun h => absurd h.length_eq (by decide)
  refine ⟨rfl, rfl, by decide +kernel, hdiffer, Machine.reaches_of_exec rfl, by decide +kernel, ?_⟩
  intro hown
  have hasked : (afterPlain.round nodesFormat nodesAgent (nodesRound fusedNode)).asked =
      plainBackends := by decide +kernel
  have hagree := hown { nodesConfig fusedBackend with
    includeLocal := false
    configPath := some "config.toml" } ⟨by decide +kernel, rfl⟩
  rw [hasked] at hagree
  exact hdiffer hagree

end AdbHub
