import AdbHub.HubEdit

/-!
# Editing the nodes of a configuration

What `adb-hub node disable` and `adb-hub pair` make of the backends, where names or addresses may
occur more than once (`config.rs`, `bin/adb-hub.rs`).

* `updateFirst_eq_some_iff` — the first match is changed and nothing else.
* `lookup_backendFlags_concat` — of several entries of a name the last one gives the flag.
* **`takenOut_iff`** — disabling a node takes it out iff every further entry of its name is
  disabled already.
* **`upsertKeeps_iff`** — pairing a node keeps names and addresses distinct iff no other entry than
  the one of its name has its address.
-/

namespace AdbHub

open Lib

/-! ## The first match -/

theorem updateFirst_eq_some_iff {α : Type} {p : α → Bool} {f : α → α} {xs ys : List α} :
    updateFirst p f xs = some ys ↔
      ∃ l x r, xs = l ++ x :: r ∧ (∀ y ∈ l, p y = false) ∧ p x = true ∧ ys = l ++ f x :: r := by
  induction xs generalizing ys with
  | nil => simp [updateFirst]
  | cons a xs ih =>
      unfold updateFirst
      constructor
      · intro h
        split_ifs at h with ha
        · obtain rfl := Option.some.inj h
          exact ⟨[], a, xs, rfl, by simp, ha, rfl⟩
        · obtain ⟨zs, hzs, rfl⟩ := Option.map_eq_some_iff.mp h
          obtain ⟨l, x, r, rfl, hl, hx, rfl⟩ := ih.mp hzs
          refine ⟨a :: l, x, r, rfl, fun y hy => ?_, hx, rfl⟩
          rcases List.mem_cons.mp hy with rfl | hy
          · simpa using ha
          · exact hl y hy
      · rintro ⟨l, x, r, hxs, hl, hx, rfl⟩
        rcases l with _ | ⟨b, l⟩
        · obtain ⟨rfl, rfl⟩ := List.cons.inj hxs
          rw [if_pos hx]
          rfl
        · rw [List.cons_append] at hxs
          obtain ⟨rfl, rfl⟩ := List.cons.inj hxs
          have ha : p a = false := hl a List.mem_cons_self
          have hrest : updateFirst p f (l ++ x :: r) = some (l ++ f x :: r) :=
            ih.mpr ⟨l, x, r, rfl, fun y hy => hl y (List.mem_cons_of_mem _ hy), hx, rfl⟩
          rw [if_neg (by simp [ha]), hrest]
          rfl

theorem updateFirst_eq_none_iff {α : Type} {p : α → Bool} {f : α → α} {xs : List α} :
    updateFirst p f xs = none ↔ ∀ x ∈ xs, p x = false := by
  induction xs with
  | nil => simp [updateFirst]
  | cons a xs ih =>
      unfold updateFirst
      rcases ha : p a with _ | _
      · simp [ha, ih]
      · simp [ha]

/-! ## Disabling a node -/

/-- Of several entries of a name the last one counts. -/
theorem lookup_backendFlags_concat (backends : List BackendConfig) (b : BackendConfig)
    (name : String) :
    (backendFlags (backends ++ [b])).lookup name =
      if b.name = name then some b.enabled else (backendFlags backends).lookup name := by
  unfold backendFlags
  rw [List.foldl_append, List.foldl_cons, List.foldl_nil]
  split_ifs with hname
  · rw [hname, AList.lookup_insert]
  · exact AList.lookup_insert_ne (Ne.symm hname)

/-- Where all entries of a name are disabled, the policy has the name disabled. -/
theorem lookup_backendFlags_disabled {backends : List BackendConfig} {name : String}
    (hsome : ∃ b ∈ backends, b.name = name)
    (hall : ∀ b ∈ backends, b.name = name → b.enabled = false) :
    (backendFlags backends).lookup name = some false := by
  induction backends using List.reverseRecOn with
  | nil => simp at hsome
  | append_singleton backends b ih =>
      rw [lookup_backendFlags_concat]
      split_ifs with hname
      · rw [hall b (by simp) hname]
      · refine ih ?_ fun c hc => hall c (List.mem_append_left _ hc)
        obtain ⟨c, hc, hcname⟩ := hsome
        rcases List.mem_append.mp hc with hc | hc
        · exact ⟨c, hc, hcname⟩
        · obtain rfl := List.mem_singleton.mp hc
          exact absurd hcname hname

namespace HubConfig

/-- Source: `config.rs`, `from_toml_str`. -/
def fromTomlStr (fmt : ConfigFormat) (text : String) : Except ConfigError HubConfig := do
  let parsed ← (fmt.parseToml text).mapError .toml
  fromTomlFile fmt.net parsed

variable {fmt : ConfigFormat} {cfg cfg' : HubConfig} {text saved path name : String}

/-- A file is read as its text. -/
theorem loadFile_of_fromTomlStr (h : fromTomlStr fmt text = .ok cfg) (path : String) :
    loadFile fmt.net fmt.parseToml path (.ok text) = .ok { cfg with configPath := some path } := by
  unfold fromTomlStr at h
  unfold loadFile
  rcases hparsed : fmt.parseToml text with e | parsed
  · simp [hparsed, bind, Except.bind, Except.mapError] at h
  · simp only [hparsed, bind, Except.bind, Except.mapError] at h
    simp only [hparsed, h, bind, Except.bind, Except.mapError]
    rfl

/-- The node is out: it is not polled, and once the configuration is saved and loaded again, the
policy has it disabled and lets none of its devices through. The other backends are as before. -/
structure TakenOut (fmt : ConfigFormat) (path : String) (cfg cfg' : HubConfig)
    (saved name : String) : Prop where
  notPolled : ∀ b ∈ cfg'.enabledBackends, b.name ≠ name
  reloaded : ∃ loaded, loadFile fmt.net fmt.parseToml path (.ok saved) = .ok loaded ∧
    loaded.policy.backendEnabled name = false ∧
    ∀ snap, ∀ d ∈ (loaded.policy.filterSnapshot snap).devices, d.backendName ≠ name
  others : List.Forall₂ (fun b b' => b'.name = b.name ∧ (b.name ≠ name → b' = b))
    cfg.backends cfg'.backends

/-- Every entry of the name but the first one is disabled. -/
def FurtherDisabled (backends : List BackendConfig) (name : String) : Prop :=
  ∀ (i j : ℕ) (b c : BackendConfig), i < j → backends[i]? = some b → backends[j]? = some c →
    b.name = name → c.name = name → c.enabled = false

/-- The entries behind the first one of the name are the further ones. -/
theorem furtherDisabled_iff {l r : List BackendConfig} {x : BackendConfig}
    (hl : ∀ y ∈ l, y.name ≠ name) (hx : x.name = name) :
    FurtherDisabled (l ++ x :: r) name ↔ ∀ c ∈ r, c.name = name → c.enabled = false := by
  constructor
  · intro h c hc hname
    obtain ⟨j, hj⟩ := List.mem_iff_getElem?.mp hc
    refine h l.length (l.length + (j + 1)) x c (by omega) (by simp) ?_ hx hname
    rw [List.getElem?_append_right (by omega), Nat.add_sub_cancel_left, List.getElem?_cons_succ, hj]
  · intro h i j b c hij hi hj hb hc
    have hli : l.length ≤ i := by
      by_contra hlt
      rw [List.getElem?_append_left (by omega)] at hi
      exact hl b (List.mem_of_getElem? hi) hb
    obtain ⟨k, rfl⟩ := Nat.exists_eq_add_of_lt (Nat.lt_of_le_of_lt hli hij)
    rw [List.getElem?_append_right (by omega),
      show l.length + k + 1 - l.length = k + 1 by omega, List.getElem?_cons_succ] at hj
    exact h c (List.mem_of_getElem? hj) hc

/-- **Disabling a node takes it out, exactly.** If the `toml` crate parses what it prints: for every
accepted configuration and every name, a `node disable` that succeeds takes the node out iff every
further entry of its name is disabled already.
Source: `config.rs`, `set_backend_enabled`; `README.md`, "none of its devices appear" -/
theorem takenOut_iff {parseToml : String → Except String TomlFile}
    {printToml : TomlFile → Except String String}
    (htoml : ∀ file text, printToml file = .ok text → parseToml text = .ok file)
    (hcfg : fromTomlStr (.std parseToml printToml) text = .ok cfg)
    (hset : cfg.setBackendEnabled name false = .ok cfg')
    (hsaved : cfg'.toTomlString (.std parseToml printToml) = .ok saved) :
    TakenOut (.std parseToml printToml) path cfg cfg' saved name ↔
      FurtherDisabled cfg.backends name := by
  have hfmt := ConfigFormat.std_reparses (htoml _ _)
  have hwf : cfg.WellFormed (.std parseToml printToml) := by
    have hload := (wellFormed_of_loadFile hfmt (loadFile_of_fromTomlStr hcfg path)).1
    exact ⟨hload.listen, hload.port, hload.ports, hload.pollInterval, hload.backends⟩
  obtain ⟨hwf', hsource⟩ := hwf.setBackendEnabled hset
  obtain ⟨loaded, hloaded, hsame⟩ := (loadFile_saved_iff hfmt hwf' hsaved path).mpr hsource
  -- the first entry of the name is changed, the others are not
  obtain ⟨l, x, r, hbackends, hl, hx, hbackends'⟩ : ∃ l x r, cfg.backends = l ++ x :: r ∧
      (∀ y ∈ l, y.name ≠ name) ∧ x.name = name ∧
        cfg'.backends = l ++ { x with enabled := false } :: r := by
    unfold setBackendEnabled at hset
    split at hset
    · rename_i backends hupdate
      obtain rfl := Except.ok.inj hset
      obtain ⟨l, x, r, hxs, hl, hx, hys⟩ := updateFirst_eq_some_iff.mp hupdate
      exact ⟨l, x, r, hxs, fun y hy => by simpa using hl y hy, by simpa using hx, hys⟩
    · cases hset
  rw [hbackends, furtherDisabled_iff hl hx]
  constructor
  · rintro ⟨hnot, -, -⟩ c hc hname
    by_contra henabled
    refine hnot c (List.mem_filter.mpr ⟨?_, by simpa using henabled⟩) hname
    rw [hbackends']
    exact List.mem_append_right _ (List.mem_cons_of_mem _ hc)
  · intro hfurther
    have hdisabled : ∀ b ∈ cfg'.backends, b.name = name → b.enabled = false := by
      intro b hb hname
      rw [hbackends'] at hb
      rcases List.mem_append.mp hb with hb | hb
      · exact absurd hname (hl b hb)
      · rcases List.mem_cons.mp hb with rfl | hb
        · rfl
        · exact hfurther b hb hname
    have hflag : loaded.policy.backendEnabled name = false := by
      have hmem : { x with enabled := false } ∈ cfg'.backends := by rw [hbackends']; simp
      unfold policy HubPolicySnapshot.backendEnabled
      rw [hsame.backends, lookup_backendFlags_disabled ⟨_, hmem, hx⟩ hdisabled]
      rfl
    refine ⟨fun b hb hname => ?_, ⟨loaded, hloaded, hflag, fun snap d hd hname => ?_⟩, ?_⟩
    · obtain ⟨hmem, henabled⟩ := List.mem_filter.mp hb
      rw [hdisabled b hmem hname] at henabled
      cases henabled
    · have hpass := (List.mem_filter.mp hd).2
      rw [hname, hflag] at hpass
      cases hpass
    · rw [hbackends, hbackends']
      have hsame : ∀ bs : List BackendConfig,
          List.Forall₂ (fun b b' => b'.name = b.name ∧ (b.name ≠ name → b' = b)) bs bs :=
        fun bs => List.forall₂_same.mpr fun _ _ => ⟨rfl, fun _ => rfl⟩
      exact List.rel_append (hsame l) (.cons ⟨rfl, fun hne => absurd hx hne⟩ (hsame r))

end HubConfig

/-- A file with a node `office` and two nodes `lab`. -/
def threeText : String :=
  "[[backend]]\nname = \"office\"\naddr = \"127.0.0.1:5040\"\n\n" ++
    "[[backend]]\nname = \"lab\"\naddr = \"127.0.0.1:5041\"\n\n" ++
    "[[backend]]\nname = \"lab\"\naddr = \"127.0.0.1:5042\"\n"

/-- What the file says, with these flags of the first two nodes. -/
def threeFile (office lab : Bool) : TomlFile where
  backend :=
    [⟨some "office", "127.0.0.1:5040", none, office⟩, ⟨some "lab", "127.0.0.1:5041", none, lab⟩,
     ⟨some "lab", "127.0.0.1:5042", none, true⟩]

/-- What is saved after one of the first two nodes is disabled. -/
def threeSaved (office lab : Bool) : String :=
  "listen = \"127.0.0.1:5037\"\npoll_interval_ms = 1000\nadb_version = 41\n" ++
    "include_local = true\nlocal_adb_port = 5039\ndevice = []\n\n" ++
    "[[backend]]\nname = \"office\"\naddr = \"127.0.0.1:5040\"\n" ++
    (if office then "\n" else "enabled = false\n\n") ++
    "[[backend]]\nname = \"lab\"\naddr = \"127.0.0.1:5041\"\n" ++
    (if lab then "\n" else "enabled = false\n\n") ++
    "[[backend]]\nname = \"lab\"\naddr = \"127.0.0.1:5042\"\n"

/-- Parsing these texts. -/
def parseThree (text : String) : Except String TomlFile :=
  if text = threeText then .ok (threeFile true true)
  else if text = threeSaved true false then .ok (threeFile true false)
  else if text = threeSaved false true then .ok (threeFile false true)
  else .error "TOML parse error"

/-- Printing what is saved. -/
def printThree (file : TomlFile) : Except String String :=
  if file = threeFile true false then .ok (threeSaved true false)
  else if file = threeFile false true then .ok (threeSaved false true)
  else .error "unsupported"

theorem parseThree_printThree (file : TomlFile) (text : String)
    (h : printThree file = .ok text) : parseThree text = .ok file := by
  unfold printThree at h
  split_ifs at h with hlab hoffice
  · obtain rfl := Except.ok.inj h
    rw [hlab]
    decide +kernel
  · obtain rfl := Except.ok.inj h
    rw [hoffice]
    decide +kernel

/-- What is loaded from them. -/
def threeConfig (office lab : Bool) : HubConfig :=
  { HubConfig.localOnly with
    backends :=
      [⟨"office", .loopback 5040, none, office⟩, ⟨"lab", .loopback 5041, none, lab⟩,
       ⟨"lab", .loopback 5042, none, true⟩] }

theorem fromTomlFile_three (office lab : Bool) :
    HubConfig.fromTomlFile stdNet (threeFile office lab) = .ok (threeConfig office lab) := by
  have hoffice : SocketAddr.parse "127.0.0.1:5040" = .ok (.loopback 5040) := by decide +kernel
  have hlab : SocketAddr.parse "127.0.0.1:5041" = .ok (.loopback 5041) := by decide +kernel
  have hlab' : SocketAddr.parse "127.0.0.1:5042" = .ok (.loopback 5042) := by decide +kernel
  have hbackends : HubConfig.readBackends stdNet 0 (threeFile office lab).backend =
      .ok (threeConfig office lab).backends := by
    simp only [threeFile, HubConfig.readBackends, HubConfig.readBackend, stdNet, hoffice, hlab,
      hlab', Except.mapError, bind, Except.bind, Option.getD_some]
    rfl
  have hlisten : stdNet.parseAddr (threeFile office lab).listen = .ok (.loopback 5037) := by
    have htext : (threeFile office lab).listen = "127.0.0.1:5037" := rfl
    rw [htext]
    exact parse_defaultListen
  unfold HubConfig.fromTomlFile
  simp only [hlisten, hbackends, Except.mapError, bind, Except.bind]
  rfl

theorem fromTomlStr_three :
    HubConfig.fromTomlStr (.std parseThree printThree) threeText = .ok (threeConfig true true) := by
  have hparse : parseThree threeText = .ok (threeFile true true) := if_pos rfl
  unfold HubConfig.fromTomlStr
  simp only [ConfigFormat.std, hparse, Except.mapError, bind, Except.bind]
  exact fromTomlFile_three true true

/-- The node `office`, whose name occurs once, is taken out. -/
theorem office_takenOut :
    HubConfig.TakenOut (.std parseThree printThree) "config.toml" (threeConfig true true)
      (threeConfig false true) (threeSaved false true) "office" := by
  have hsaved : (threeConfig false true).toTomlString (.std parseThree printThree) =
      .ok (threeSaved false true) := by decide +kernel
  refine (HubConfig.takenOut_iff parseThree_printThree fromTomlStr_three rfl hsaved).mpr ?_
  have honly : ∀ c ∈ (threeConfig true true).backends.tail, c.name = "office" →
      c.enabled = false := by decide
  exact (HubConfig.furtherDisabled_iff (l := []) (by simp) rfl).mpr honly

/-- Disabling `lab` leaves the second node of that name: it is polled and its device is shown. -/
theorem second_lab_stays :
    (∀ file text, printThree file = .ok text → parseThree text = .ok file) ∧
      HubConfig.fromTomlStr (.std parseThree printThree) threeText =
        .ok (threeConfig true true) ∧
      (threeConfig true true).setBackendEnabled "lab" false = .ok (threeConfig true false) ∧
      (threeConfig true false).toTomlString (.std parseThree printThree) =
        .ok (threeSaved true false) ∧
      (threeConfig true false).enabledBackends.map BackendConfig.name = ["office", "lab"] ∧
      (threeConfig true false).policy.backendEnabled "lab" = true ∧
      ((threeConfig true false).policy.filterSnapshot (mergeDeviceLists
        [(⟨"lab", .loopback 5042, none, true⟩, "XYZ\tdevice\n")])).serials = ["XYZ"] ∧
      ¬ HubConfig.TakenOut (.std parseThree printThree) "config.toml" (threeConfig true true)
        (threeConfig true false) (threeSaved true false) "lab" := by
  refine ⟨parseThree_printThree, fromTomlStr_three, rfl, by decide +kernel, by decide,
    by decide +kernel, by decide +kernel, fun h => ?_⟩
  have hpolled : ⟨"lab", .loopback 5042, none, true⟩ ∈
      (threeConfig true false).enabledBackends := by decide
  exact h.notPolled _ hpolled rfl

/-! ## Pairing a node -/

namespace HubConfig

/-- The entry shares neither the name nor the address with the backend. -/
def Apart (backend b : BackendConfig) : Prop := b.name ≠ backend.name ∧ b.addr ≠ backend.addr

instance (backend : BackendConfig) : DecidablePred (Apart backend) :=
  fun b => inferInstanceAs (Decidable (b.name ≠ backend.name ∧ b.addr ≠ backend.addr))

/-- The entry is the backend, up to the flag. -/
def Lists (backend b : BackendConfig) : Prop :=
  b.name = backend.name ∧ b.addr = backend.addr ∧ b.pairCode = backend.pairCode

instance (backend : BackendConfig) : DecidablePred (Lists backend) :=
  fun b => inferInstanceAs
    (Decidable (b.name = backend.name ∧ b.addr = backend.addr ∧ b.pairCode = backend.pairCode))

/-- What is kept when a backend is added or updated: names and addresses are distinct, one entry is
the backend, the entries there were keep their flags, and those that have to do with the backend in
no way stay as and where they were. -/
structure UpsertKeeps (backends backends' : List BackendConfig) (backend : BackendConfig) :
    Prop where
  names : (backends'.map BackendConfig.name).Nodup
  addrs : (backends'.map BackendConfig.addr).Nodup
  once : backends'.countP (Lists backend) = 1
  enabled : ∀ (i : ℕ) (b b' : BackendConfig), backends[i]? = some b → backends'[i]? = some b' →
    b'.enabled = b.enabled
  others : backends'.filter (Apart backend) = backends.filter (Apart backend)

/-- The entry of the backend's name, if there is one, is the only one that may have its address. -/
def AddrIsOwn (backends : List BackendConfig) (backend : BackendConfig) : Prop :=
  ∀ b ∈ backends, ∀ c ∈ backends, b.name = backend.name → c.addr = backend.addr → b = c

/-- Changing one entry into the backend keeps what is to be kept, if the others are apart from
it. -/
theorem upsertKeeps_of_replaced {l r : List BackendConfig} {b b' backend : BackendConfig}
    (hnames : ((l ++ b :: r).map BackendConfig.name).Nodup)
    (haddrs : ((l ++ b :: r).map BackendConfig.addr).Nodup)
    (hb : ¬ Apart backend b) (hb' : Lists backend b') (henabled : b'.enabled = b.enabled)
    (hothers : ∀ c ∈ l ++ r, Apart backend c) :
    UpsertKeeps (l ++ b :: r) (l ++ b' :: r) backend := by
  have hperm : ∀ x : BackendConfig, (l ++ x :: r).Perm (x :: (l ++ r)) := fun _ =>
    List.perm_middle
  have hapart : ∀ c ∈ l ++ r, ¬ Lists backend c := fun c hc hlists =>
    (hothers c hc).1 hlists.1
  rw [((hperm b).map _).nodup_iff, List.map_cons, List.nodup_cons] at hnames haddrs
  refine ⟨?_, ?_, ?_, ?_, ?_⟩
  · rw [((hperm b').map _).nodup_iff, List.map_cons, List.nodup_cons, hb'.1]
    refine ⟨fun hmem => ?_, hnames.2⟩
    obtain ⟨c, hc, hname⟩ := List.mem_map.mp hmem
    exact (hothers c hc).1 hname
  · rw [((hperm b').map _).nodup_iff, List.map_cons, List.nodup_cons, hb'.2.1]
    refine ⟨fun hmem => ?_, haddrs.2⟩
    obtain ⟨c, hc, haddr⟩ := List.mem_map.mp hmem
    exact (hothers c hc).2 haddr
  · rw [(hperm b').countP_eq, List.countP_cons_of_pos (by simpa using hb'),
      List.countP_eq_zero.mpr (by simpa using hapart)]
  · intro i c c' hi hi'
    rcases Nat.lt_trichotomy i l.length with hlt | rfl | hgt
    · rw [List.getElem?_append_left hlt] at hi hi'
      rw [Option.some.inj (hi.symm.trans hi')]
    · rw [List.getElem?_append_right (Nat.le_refl _), Nat.sub_self] at hi hi'
      obtain rfl := Option.some.inj hi
      obtain rfl := Option.some.inj hi'
      exact henabled
    · obtain ⟨k, rfl⟩ := Nat.exists_eq_add_of_lt hgt
      rw [List.getElem?_append_right (by omega),
        show l.length + k + 1 - l.length = k + 1 by omega, List.getElem?_cons_succ] at hi hi'
      rw [Option.some.inj (hi.symm.trans hi')]
  · have hnot : ¬ Apart backend b' := fun h => h.1 hb'.1
    rw [List.filter_append, List.filter_append, List.filter_cons_of_neg (by simpa using hnot),
      List.filter_cons_of_neg (by simpa using hb)]

/-- Adding the backend keeps what is to be kept, if all others are apart from it. -/
theorem upsertKeeps_of_added {backends : List BackendConfig} {backend : BackendConfig}
    (hnames : (backends.map BackendConfig.name).Nodup)
    (haddrs : (backends.map BackendConfig.addr).Nodup)
    (hothers : ∀ c ∈ backends, Apart backend c) :
    UpsertKeeps backends (backends ++ [backend]) backend := by
  have hapart : ∀ c ∈ backends, ¬ Lists backend c := fun c hc hlists =>
    (hothers c hc).1 hlists.1
  refine ⟨?_, ?_, ?_, ?_, ?_⟩
  · rw [List.map_append, List.map_singleton, ← List.concat_eq_append]
    refine hnames.concat fun hmem => ?_
    obtain ⟨c, hc, hname⟩ := List.mem_map.mp hmem
    exact (hothers c hc).1 hname
  · rw [List.map_append, List.map_singleton, ← List.concat_eq_append]
    refine haddrs.concat fun hmem => ?_
    obtain ⟨c, hc, haddr⟩ := List.mem_map.mp hmem
    exact (hothers c hc).2 haddr
  · rw [List.countP_append, List.countP_eq_zero.mpr (by simpa using hapart)]
    simp [Lists]
  · intro i c c' hi hi'
    rw [List.getElem?_append_left (List.getElem?_eq_some_iff.mp hi).1] at hi'
    rw [Option.some.inj (hi.symm.trans hi')]
  · rw [List.filter_append]
    simp [Apart]

/-- **What pairing keeps, exactly.** Where the names and the addresses of the backends are distinct,
adding or updating a backend keeps them so, lists it once, keeps the flags and leaves the other
entries alone iff no other entry than the one of its name has its address.
Source: `config.rs`, `upsert_backend` -/
theorem upsertKeeps_iff {cfg : HubConfig} (hnames : (cfg.backends.map BackendConfig.name).Nodup)
    (haddrs : (cfg.backends.map BackendConfig.addr).Nodup) (backend : BackendConfig) :
    UpsertKeeps cfg.backends (cfg.upsertBackend backend).backends backend ↔
      AddrIsOwn cfg.backends backend := by
  unfold upsertBackend
  split
  · rename_i backends hupdate
    obtain ⟨l, b, r, hbackends, -, hb, rfl⟩ := updateFirst_eq_some_iff.mp hupdate
    have hbname : b.name = backend.name := by simpa using hb
    dsimp only
    rw [hbackends] at hnames haddrs ⊢
    have hsplit : ∀ x : BackendConfig, (l ++ x :: r).Perm (x :: (l ++ r)) := fun _ =>
      List.perm_middle
    have hfresh : ∀ c ∈ l ++ r, c.name ≠ backend.name := by
      rw [((hsplit b).map _).nodup_iff, List.map_cons, List.nodup_cons, hbname] at hnames
      exact fun c hc hname => hnames.1 (List.mem_map.mpr ⟨c, hc, hname⟩)
    constructor
    · -- an entry of this address that is not the one of the name would have it, too
      intro h c hc d hd hcname hdaddr
      have hc : c = b := by
        rcases List.mem_cons.mp ((hsplit b).mem_iff.mp hc) with hcb | hc
        · exact hcb
        · exact absurd hcname (hfresh c hc)
      rcases List.mem_cons.mp ((hsplit b).mem_iff.mp hd) with hdb | hd
      · rw [hc, hdb]
      · have hnodup := h.addrs
        rw [((hsplit _).map _).nodup_iff, List.map_cons, List.nodup_cons] at hnodup
        exact absurd (List.mem_map.mpr ⟨d, hd, hdaddr⟩) hnodup.1
    · intro hown
      refine upsertKeeps_of_replaced hnames haddrs (fun h => h.1 hbname) ⟨hbname, rfl, rfl⟩ rfl
        fun c hc => ⟨hfresh c hc, fun haddr => ?_⟩
      have hmem : c ∈ l ++ b :: r := (hsplit b).mem_iff.mpr (List.mem_cons_of_mem _ hc)
      have hbc := hown b (by simp) c hmem hbname haddr
      exact hfresh c hc (hbc ▸ hbname)
  · rename_i hnone
    have hfresh : ∀ c ∈ cfg.backends, c.name ≠ backend.name := by
      simpa using updateFirst_eq_none_iff.mp hnone
    have hown : AddrIsOwn cfg.backends backend := fun b hb _ _ hname _ => absurd hname (hfresh b hb)
    refine iff_of_true ?_ hown
    split
    · rename_i backends hupdate
      obtain ⟨l, b, r, hbackends, -, hb, rfl⟩ := updateFirst_eq_some_iff.mp hupdate
      have hbaddr : b.addr = backend.addr := by simpa using hb
      dsimp only
      rw [hbackends] at hnames haddrs hfresh ⊢
      have hsplit : (l ++ b :: r).Perm (b :: (l ++ r)) := List.perm_middle
      refine upsertKeeps_of_replaced hnames haddrs (fun h => h.2 hbaddr) ⟨rfl, hbaddr, rfl⟩ rfl
        fun c hc => ⟨hfresh c (hsplit.mem_iff.mpr (List.mem_cons_of_mem _ hc)), fun haddr => ?_⟩
      rw [(hsplit.map _).nodup_iff, List.map_cons, List.nodup_cons, hbaddr] at haddrs
      exact haddrs.1 (List.mem_map.mpr ⟨c, hc, haddr⟩)
    · rename_i hnone'
      have hfresh' : ∀ c ∈ cfg.backends, c.addr ≠ backend.addr := by
        simpa using updateFirst_eq_none_iff.mp hnone'
      exact upsertKeeps_of_added hnames haddrs fun c hc => ⟨hfresh c hc, hfresh' c hc⟩

end HubConfig

/-- Two nodes at two addresses. -/
def twoNodes : HubConfig :=
  { HubConfig.localOnly with
    backends :=
      [⟨"office", .loopback 5041, some "AAAA1111", true⟩,
       ⟨"lab", .loopback 5042, some "BBBB2222", false⟩] }

/-- A node that was disabled gets another name and another code at its address. -/
theorem node_renamed :
    HubConfig.UpsertKeeps twoNodes.backends
      (twoNodes.upsertBackend ⟨"shop", .loopback 5042, some "CCCC3333", true⟩).backends
      ⟨"shop", .loopback 5042, some "CCCC3333", true⟩ :=
  (HubConfig.upsertKeeps_iff (by decide) (by decide) _).mpr (by unfold HubConfig.AddrIsOwn; decide)

/-- The node of one name is paired at the address of the other one: the address is there twice, and
once with the code it had before. -/
theorem address_listed_twice :
    (twoNodes.backends.map BackendConfig.name).Nodup ∧
      (twoNodes.backends.map BackendConfig.addr).Nodup ∧
      (twoNodes.upsertBackend ⟨"office", .loopback 5042, some "CCCC3333", true⟩).backends =
        [⟨"office", .loopback 5042, some "CCCC3333", true⟩,
         ⟨"lab", .loopback 5042, some "BBBB2222", false⟩] ∧
      ¬ HubConfig.UpsertKeeps twoNodes.backends
        (twoNodes.upsertBackend ⟨"office", .loopback 5042, some "CCCC3333", true⟩).backends
        ⟨"office", .loopback 5042, some "CCCC3333", true⟩ := by
  refine ⟨by decide, by decide, by decide, fun h => ?_⟩
  exact absurd h.addrs (by decide)

end AdbHub
