import AdbHub.HubConfig
import AdbHub.Lib.NumberText

/-!
# The text of socket addresses

How the standard library writes and reads a `SocketAddr` (`Display` and `FromStr` of
`std::net`), and the backend name that is made of one (`config.rs`, `default_backend_name`).

* `SocketAddr.display` — IPv4 addresses with four decimal parts; IPv6 addresses with the longest
  run of zero groups left out, or with an IPv4 address at the end.
* `SocketAddr.parse` — every such text, and the other forms of it.
* **`SocketAddr.parse_display`** — what is written of an address is read as this address; only the
  flow information is not written.
* `isAddrChar_display` — the characters an address is written with.
-/

namespace AdbHub

open Lib

/-! ## Writing -/

/-- The four parts of an IPv4 address. Source: `Ipv4Addr::octets`. -/
def octets (ip : BitVec 32) : List ℕ :=
  [ip.toNat / 2 ^ 24, ip.toNat / 2 ^ 16 % 256, ip.toNat / 2 ^ 8 % 256, ip.toNat % 256]

/-- The eight groups of an IPv6 address. Source: `Ipv6Addr::segments`. -/
def segments (ip : BitVec 128) : List ℕ :=
  [ip.toNat / 2 ^ 112, ip.toNat / 2 ^ 96 % 65536, ip.toNat / 2 ^ 80 % 65536,
    ip.toNat / 2 ^ 64 % 65536, ip.toNat / 2 ^ 48 % 65536, ip.toNat / 2 ^ 32 % 65536,
    ip.toNat / 2 ^ 16 % 65536, ip.toNat % 65536]

/-- Numerals with a separator between them. -/
def separated (radix : ℕ) (sep : Char) : List ℕ → List Char
  | [] => []
  | [n] => Nat.toDigits radix n
  | n :: m :: rest => Nat.toDigits radix n ++ sep :: separated radix sep (m :: rest)

/-- Start and length of the first longest run of zeros; `current` is the run that is going on at
index `i`. Source: `Display for Ipv6Addr`, `zeroes`. -/
def longestZeros : ℕ → (ℕ × ℕ) → (ℕ × ℕ) → List ℕ → ℕ × ℕ
  | _, longest, _, [] => longest
  | i, longest, current, segment :: rest =>
      if segment = 0 then
        let current := (if current.2 = 0 then i else current.1, current.2 + 1)
        longestZeros (i + 1) (if longest.2 < current.2 then current else longest) current rest
      else longestZeros (i + 1) longest (0, 0) rest

/-- Source: `Display for Ipv4Addr`. -/
def displayIpv4 (ip : BitVec 32) : List Char := separated 10 '.' (octets ip)

/-- Source: `Display for Ipv6Addr`. -/
def displayIpv6 (ip : BitVec 128) : List Char :=
  if ip.toNat / 2 ^ 32 = 0xffff then
    "::ffff:".toList ++ displayIpv4 (BitVec.ofNat 32 ip.toNat)
  else
    let zeros := longestZeros 0 (0, 0) (0, 0) (segments ip)
    if 1 < zeros.2 then
      separated 16 ':' ((segments ip).take zeros.1) ++ "::".toList ++
        separated 16 ':' ((segments ip).drop (zeros.1 + zeros.2))
    else separated 16 ':' (segments ip)

/-- Source: `Display for SocketAddr`. -/
def SocketAddr.displayChars : SocketAddr → List Char
  | .v4 ip port => displayIpv4 ip ++ ':' :: Nat.toDigits 10 port.toNat
  | .v6 ip port _ scopeId =>
      '[' :: displayIpv6 ip ++
        (if scopeId = 0 then [] else '%' :: Nat.toDigits 10 scopeId.toNat) ++
          ']' :: ':' :: Nat.toDigits 10 port.toNat

/-- Source: `Display for SocketAddr`. -/
def SocketAddr.display (addr : SocketAddr) : String := String.ofList addr.displayChars

/-! ## Reading -/

/-- Source: `core::net`, `read_given_char`. -/
def readGiven (c : Char) : List Char → Option (List Char)
  | [] => none
  | d :: s => if d = c then some s else none

/-- Source: `core::net`, `read_separator`. -/
def readSeparator {α : Type} (sep : Char) (i : ℕ) (inner : List Char → Option (α × List Char))
    (s : List Char) : Option (α × List Char) :=
  if i = 0 then inner s else (readGiven sep s).bind inner

/-- The parts from number `i` on. Source: `core::net`, `read_ipv4_addr`. -/
def readOctets : ℕ → ℕ → List Char → Option (List ℕ × List Char)
  | 0, _, s => some ([], s)
  | more + 1, i, s => do
      let (part, s) ← readSeparator '.' i (readNumber 10 (some 3) false 256) s
      let (parts, s) ← readOctets more (i + 1) s
      some (part :: parts, s)

/-- Source: `core::net`, `read_ipv4_addr`. -/
def readIpv4 (s : List Char) : Option (BitVec 32 × List Char) :=
  (readOctets 4 0 s).map fun (parts, s) => (BitVec.ofNat 32 (positional 256 parts), s)

/-- At most `more` groups from number `i` on, whether they end in an IPv4 address, and what follows.
Source: `core::net`, `read_groups`. -/
def readGroups : ℕ → ℕ → List Char → List ℕ × Bool × List Char
  | 0, _, s => ([], false, s)
  | more + 1, i, s =>
      -- an IPv4 address takes two groups
      match if more = 0 then none else readSeparator ':' i readIpv4 s with
      | some (ip, s) => ([ip.toNat / 65536, ip.toNat % 65536], true, s)
      | none =>
          match readSeparator ':' i (readNumber 16 (some 4) true 65536) s with
          | some (group, s) =>
              let (groups, ipv4, s) := readGroups more (i + 1) s
              (group :: groups, ipv4, s)
          | none => ([], false, s)

/-- Source: `core::net`, `read_ipv6_addr`. -/
def readIpv6 (s : List Char) : Option (BitVec 128 × List Char) :=
  let (head, ipv4, s) := readGroups 8 0 s
  if head.length = 8 then some (BitVec.ofNat 128 (positional 65536 head), s)
  else if ipv4 then none
  else do
    let s ← readGiven ':' s
    let s ← readGiven ':' s
    let (tail, _, s) := readGroups (8 - (head.length + 1)) 0 s
    let zeros := List.replicate (8 - head.length - tail.length) 0
    some (BitVec.ofNat 128 (positional 65536 (head ++ zeros ++ tail)), s)

/-- Source: `core::net`, `read_port`. -/
def readPort (s : List Char) : Option (UInt16 × List Char) := do
  let s ← readGiven ':' s
  let (port, s) ← readNumber 10 none true (2 ^ 16) s
  some (UInt16.ofNat port, s)

/-- Source: `core::net`, `read_scope_id`. -/
def readScopeId (s : List Char) : Option (UInt32 × List Char) := do
  let s ← readGiven '%' s
  let (scopeId, s) ← readNumber 10 none true (2 ^ 32) s
  some (UInt32.ofNat scopeId, s)

/-- Source: `core::net`, `read_socket_addr_v4`. -/
def readSocketAddrV4 (s : List Char) : Option (SocketAddr × List Char) := do
  let (ip, s) ← readIpv4 s
  let (port, s) ← readPort s
  some (.v4 ip port, s)

/-- Source: `core::net`, `read_socket_addr_v6`. -/
def readSocketAddrV6 (s : List Char) : Option (SocketAddr × List Char) := do
  let s ← readGiven '[' s
  let (ip, s) ← readIpv6 s
  let (scopeId, s) := (readScopeId s).getD (0, s)
  let s ← readGiven ']' s
  let (port, s) ← readPort s
  some (.v6 ip port 0 scopeId, s)

/-- Source: `FromStr for SocketAddr`. -/
def SocketAddr.parse (text : String) : Except String SocketAddr :=
  match (readSocketAddrV4 text.toList).orElse fun _ => readSocketAddrV6 text.toList with
  | some (addr, []) => .ok addr
  | _ => .error "invalid socket address syntax"

/-- Source: `config.rs`, `default_backend_name`. -/
def defaultBackendName : SocketAddr → String
  | .v4 ip port => String.ofList (displayIpv4 ip ++ '_' :: Nat.toDigits 10 port.toNat)
  | .v6 ip port _ _ =>
      String.ofList ((displayIpv6 ip ++ '_' :: Nat.toDigits 10 port.toNat).map fun c =>
        if c = ':' then '_' else c)

/-- The text forms of the standard library. -/
def stdNet : NetText := ⟨SocketAddr.parse, defaultBackendName⟩

/-- Source: `config.rs`, `default_listen`. -/
theorem parse_defaultListen : SocketAddr.parse "127.0.0.1:5037" = .ok (.loopback 5037) := by
  decide +kernel

example : (SocketAddr.v6 1 5038 0 3).display = "[::1%3]:5038" := by decide +kernel

/-! ## Numbers -/

theorem positional_octets (ip : BitVec 32) : positional 256 (octets ip) = ip.toNat := by
  have hlt := ip.isLt
  simp only [octets, positional, List.reverse_cons, List.reverse_nil, List.nil_append,
    List.cons_append, Nat.ofDigits_cons, Nat.ofDigits_nil]
  omega

theorem octets_lt (ip : BitVec 32) : ∀ part ∈ octets ip, part < 256 := by
  have hlt := ip.isLt
  intro part hpart
  simp only [octets, List.mem_cons, List.not_mem_nil, or_false] at hpart
  rcases hpart with rfl | rfl | rfl | rfl <;> omega

theorem positional_segments (ip : BitVec 128) : positional 65536 (segments ip) = ip.toNat := by
  have hlt := ip.isLt
  simp only [segments, positional, List.reverse_cons, List.reverse_nil, List.nil_append,
    List.cons_append, Nat.ofDigits_cons, Nat.ofDigits_nil]
  omega

theorem segments_lt (ip : BitVec 128) : ∀ segment ∈ segments ip, segment < 65536 := by
  have hlt := ip.isLt
  intro segment hsegment
  simp only [segments, List.mem_cons, List.not_mem_nil, or_false] at hsegment
  rcases hsegment with rfl | rfl | rfl | rfl | rfl | rfl | rfl | rfl <;> omega

/-! ## Reading what was written -/

section reading

variable {radix : ℕ} {sep : Char} {parts groups : List ℕ} {cs rest : List Char}

/-- Numerals with a separator before each of them. -/
def prefixed (radix : ℕ) (sep : Char) (parts : List ℕ) : List Char :=
  parts.flatMap fun n => sep :: Nat.toDigits radix n

theorem separated_cons (radix : ℕ) (sep : Char) (n : ℕ) (parts : List ℕ) :
    separated radix sep (n :: parts) = Nat.toDigits radix n ++ prefixed radix sep parts := by
  induction parts generalizing n with
  | nil => simp [separated, prefixed]
  | cons m parts ih =>
      rw [separated, ih]
      simp [prefixed]

theorem prefixed_cons_append (radix : ℕ) (sep : Char) (n : ℕ) (parts : List ℕ)
    (rest : List Char) : prefixed radix sep (n :: parts) ++ rest =
      sep :: (Nat.toDigits radix n ++ (prefixed radix sep parts ++ rest)) := by
  simp [prefixed]

theorem readSeparator_succ {α : Type} (sep : Char) (i : ℕ)
    (inner : List Char → Option (α × List Char)) (s : List Char) :
    readSeparator sep (i + 1) inner (sep :: s) = inner s := by
  simp [readSeparator, readGiven]

/-- A text does not go on with a digit. -/
def EndsNumber (radix : ℕ) (rest : List Char) : Prop :=
  ∀ c ∈ rest.head?, charDigit radix c = none

theorem endsNumber_cons {c : Char} (hc : charDigit radix c = none) (rest : List Char) :
    EndsNumber radix (c :: rest) := by
  intro d hd
  obtain rfl := Option.some.inj hd
  exact hc

/-- A separator that is no digit ends a number. -/
theorem EndsNumber.prefixed (hrest : EndsNumber radix rest) (hsep : charDigit radix sep = none)
    (parts : List ℕ) : EndsNumber radix (prefixed radix sep parts ++ rest) := by
  rcases parts with _ | ⟨n, parts⟩
  · exact hrest
  · rw [prefixed_cons_append]
    exact endsNumber_cons hsep _

theorem charDigit_dot : charDigit 10 '.' = none := by decide

theorem readNumber_octet {part : ℕ} (hpart : part < 256) (hrest : EndsNumber 10 rest) :
    readNumber 10 (some 3) false 256 (Nat.toDigits 10 part ++ rest) = some (part, rest) := by
  refine readNumber_toDigits (by norm_num) (by norm_num) hpart ?_ hrest
  intro m hm
  obtain rfl := Option.some.inj hm
  exact (Nat.length_toDigits_le_iff (by norm_num) (by norm_num)).mpr (by omega)

/-- Parts of an IPv4 address are read up to a character that is no digit. -/
theorem readOctets_prefixed (hparts : ∀ part ∈ parts, part < 256) (i : ℕ)
    (hrest : EndsNumber 10 rest) :
    readOctets parts.length (i + 1) (prefixed 10 '.' parts ++ rest) = some (parts, rest) := by
  induction parts generalizing i with
  | nil => rfl
  | cons part parts ih =>
      have hread := readNumber_octet (hparts part (List.mem_cons_self ..))
        (hrest.prefixed charDigit_dot parts)
      have hnext := ih (fun p hp => hparts p (List.mem_cons_of_mem _ hp)) (i + 1)
      rw [List.length_cons, readOctets, prefixed_cons_append, readSeparator_succ, hread]
      simp only [Option.bind_eq_bind, Option.bind_some, hnext]

/-- **A written IPv4 address reads back.** -/
theorem readIpv4_display (ip : BitVec 32) (hrest : EndsNumber 10 rest) :
    readIpv4 (displayIpv4 ip ++ rest) = some (ip, rest) := by
  have hread : readOctets 4 0 (displayIpv4 ip ++ rest) = some (octets ip, rest) := by
    obtain ⟨a, b, c, d, hip⟩ : ∃ a b c d, octets ip = [a, b, c, d] := ⟨_, _, _, _, rfl⟩
    have hlt := octets_lt ip
    unfold displayIpv4
    rw [hip] at hlt ⊢
    have hfirst := readNumber_octet (hlt a (List.mem_cons_self ..))
      (hrest.prefixed charDigit_dot [b, c, d])
    have hothers : readOctets 3 1 (prefixed 10 '.' [b, c, d] ++ rest) = some ([b, c, d], rest) :=
      readOctets_prefixed (fun p hp => hlt p (List.mem_cons_of_mem _ hp)) 0 hrest
    rw [separated_cons, List.append_assoc, readOctets]
    show (readNumber 10 (some 3) false 256 _).bind _ = _
    rw [hfirst]
    simp only [Option.bind_eq_bind, Option.bind_some, hothers]
  unfold readIpv4
  rw [hread, Option.map_some]
  dsimp only
  rw [positional_octets, BitVec.ofNat_toNat, BitVec.setWidth_eq]

/-! ### Groups -/

/-- Before something that is no dot and no digit, digits do not end at a dot. -/
theorem head_spanDigits (hcs : '.' ∉ cs) (hrest : EndsNumber radix rest)
    (hdot : rest.head? ≠ some '.') : (spanDigits radix (cs ++ rest)).2.head? ≠ some '.' := by
  induction cs with
  | nil =>
      rcases rest with _ | ⟨c, rest⟩
      · simp [spanDigits]
      · rw [List.nil_append, spanDigits, hrest c rfl]
        exact hdot
  | cons c cs ih =>
      rw [List.cons_append, spanDigits]
      rcases hc : charDigit radix c with _ | d
      · intro h
        obtain rfl : c = '.' := Option.some.inj h
        exact hcs (List.mem_cons_self ..)
      · exact ih fun h => hcs (List.mem_cons_of_mem c h)

/-- An address does not go on with a hexadecimal group or an IPv4 address. -/
structure EndsGroup (rest : List Char) : Prop where
  digit : EndsNumber 16 rest
  dot : rest.head? ≠ some '.'

theorem endsGroup_cons {c : Char} (hc : charDigit 16 c = none) (hdot : c ≠ '.')
    (rest : List Char) : EndsGroup (c :: rest) :=
  ⟨endsNumber_cons hc rest, fun h => hdot (Option.some.inj h)⟩

theorem charDigit_mono {c : Char} (h : charDigit 16 c = none) : charDigit 10 c = none := by
  unfold charDigit at h ⊢
  dsimp only at h ⊢
  split_ifs at h ⊢ <;> simp_all <;> omega

theorem EndsGroup.decimal (h : EndsGroup rest) : EndsNumber 10 rest :=
  fun c hc => charDigit_mono (h.digit c hc)

theorem EndsGroup.prefixed (hrest : EndsGroup rest) (groups : List ℕ) :
    EndsGroup (prefixed 16 ':' groups ++ rest) := by
  refine ⟨hrest.digit.prefixed (by decide) groups, ?_⟩
  rcases groups with _ | ⟨n, groups⟩
  · exact hrest.dot
  · rw [prefixed_cons_append]
    intro h
    exact absurd (Option.some.inj h) (by decide)

theorem dot_not_mem_toDigits (n : ℕ) : '.' ∉ Nat.toDigits 16 n := by
  intro h
  have hdigit := (digits_toDigits (by norm_num) le_rfl n).1 '.' h
  exact absurd hdigit (by decide)

/-- A group is no IPv4 address. -/
theorem readIpv4_group (hcs : '.' ∉ cs) (hrest : EndsGroup rest) : readIpv4 (cs ++ rest) = none := by
  have hhead := head_spanDigits hcs hrest.decimal hrest.dot
  have hsecond : ∀ s : List Char, s.head? ≠ some '.' → readOctets 3 1 s = none := by
    intro s hs
    rcases s with _ | ⟨c, s⟩
    · rfl
    · have hc : c ≠ '.' := fun h => hs (congrArg some h)
      simp [readOctets, readSeparator, readGiven, hc]
  unfold readIpv4
  rw [Option.map_eq_none_iff, readOctets]
  show (readNumber 10 (some 3) false 256 (cs ++ rest)).bind _ = none
  unfold readNumber
  dsimp only
  split_ifs
  · rfl
  · rfl
  · rfl
  · rw [Option.bind_some]
    dsimp only
    rw [hsecond _ hhead]
    rfl
  · rfl

theorem readIpv4_none (hrest : EndsGroup rest) : readIpv4 rest = none := by
  rw [← List.nil_append rest]
  exact readIpv4_group List.not_mem_nil hrest

theorem readNumber_group {group : ℕ} (hgroup : group < 65536) (hrest : EndsGroup rest) :
    readNumber 16 (some 4) true 65536 (Nat.toDigits 16 group ++ rest) = some (group, rest) := by
  refine readNumber_toDigits (by norm_num) le_rfl hgroup ?_ hrest.digit
  intro m hm
  obtain rfl := Option.some.inj hm
  exact (Nat.length_toDigits_le_iff (by norm_num) (by norm_num)).mpr (by omega)

/-- A group is read as one, whether an IPv4 address would fit or not. -/
theorem readGroups_cons {group : ℕ} (hgroup : group < 65536) {s : List Char} {i : ℕ}
    (hsep : ∀ (α : Type) (inner : List Char → Option (α × List Char)),
      readSeparator ':' i inner s = inner (Nat.toDigits 16 group ++ rest))
    (hrest : EndsGroup rest) (more : ℕ) :
    readGroups (more + 1) i s =
      (group :: (readGroups more (i + 1) rest).1, (readGroups more (i + 1) rest).2) := by
  have hnumber := readNumber_group hgroup hrest
  have hipv4 : (if more = 0 then none else readSeparator ':' i readIpv4 s) = none := by
    split_ifs
    · rfl
    · rw [hsep, readIpv4_group (dot_not_mem_toDigits group) hrest]
  rw [readGroups, hipv4]
  dsimp only
  rw [hsep, hnumber]

/-- No further group follows. -/
def NoGroup (i : ℕ) (rest : List Char) : Prop :=
  ∀ more, readGroups more i rest = ([], false, rest)

/-- Groups are read to their end. -/
theorem readGroups_prefixed (hgroups : ∀ group ∈ groups, group < 65536) (hrest : EndsGroup rest)
    {more : ℕ} (hlen : groups.length ≤ more) (i : ℕ)
    (hend : groups.length = more ∨ NoGroup (i + 1 + groups.length) rest) :
    readGroups more (i + 1) (prefixed 16 ':' groups ++ rest) = (groups, false, rest) := by
  induction groups generalizing more i with
  | nil =>
      rcases hend with rfl | hend
      · rfl
      · exact hend more
  | cons group groups ih =>
      obtain ⟨more, rfl⟩ : ∃ m, more = m + 1 := ⟨more - 1, by simp at hlen; omega⟩
      have hnext := ih (fun g hg => hgroups g (List.mem_cons_of_mem _ hg))
        (by simpa using hlen) (i + 1) (by
          rcases hend with hend | hend
          · exact .inl (by simpa using hend)
          · rw [List.length_cons, ← Nat.add_assoc, Nat.add_right_comm _ _ 1] at hend
            exact .inr hend)
      rw [readGroups_cons (hgroups group (List.mem_cons_self ..))
        (fun _ inner => by rw [prefixed_cons_append, readSeparator_succ])
        (hrest.prefixed groups), hnext]

/-- Groups at the start are read to their end. -/
theorem readGroups_separated (hgroups : ∀ group ∈ groups, group < 65536) (hrest : EndsGroup rest)
    {more : ℕ} (hlen : groups.length ≤ more)
    (hend : groups.length = more ∨ NoGroup groups.length rest) :
    readGroups more 0 (separated 16 ':' groups ++ rest) = (groups, false, rest) := by
  rcases groups with _ | ⟨group, groups⟩
  · rcases hend with rfl | hend
    · rfl
    · exact hend more
  · obtain ⟨more, rfl⟩ : ∃ m, more = m + 1 := ⟨more - 1, by simp at hlen; omega⟩
    have hothers := readGroups_prefixed (fun g hg => hgroups g (List.mem_cons_of_mem _ hg)) hrest
      (show groups.length ≤ more by simpa using hlen) 0 (by
        rcases hend with hend | hend
        · exact .inl (by simpa using hend)
        · rw [List.length_cons, Nat.add_comm] at hend
          exact .inr hend)
    rw [separated_cons, List.append_assoc]
    rw [readGroups_cons (hgroups group (List.mem_cons_self ..)) (fun _ _ => rfl)
      (hrest.prefixed groups), hothers]

/-- Nothing that starts a number follows. -/
theorem readNumber_none {maxDigits : Option ℕ} {zeros : Bool} {size : ℕ}
    (hrest : EndsNumber radix rest) : readNumber radix maxDigits zeros size rest = none := by
  unfold readNumber
  rw [show spanDigits radix rest = ([], rest) from
    spanDigits_append (List.forall_mem_nil _) hrest]
  rfl

/-- A text that starts with no digit has no group at its start. -/
theorem noGroup_zero (hrest : EndsGroup rest) : NoGroup 0 rest := by
  intro more
  rcases more with _ | more
  · rfl
  · have hipv4 : readIpv4 rest = none := readIpv4_none hrest
    simp [readGroups, readSeparator, hipv4, readNumber_none hrest.digit]

/-- Without a colon no further group follows. -/
theorem noGroup_succ (hrest : rest.head? ≠ some ':') (i : ℕ) : NoGroup (i + 1) rest := by
  have hgiven : readGiven ':' rest = none := by
    rcases rest with _ | ⟨c, rest⟩
    · rfl
    · have hc : c ≠ ':' := fun h => hrest (congrArg some h)
      simp [readGiven, hc]
  intro more
  rcases more with _ | more
  · rfl
  · simp [readGroups, readSeparator, hgiven]

/-- At two colons no further group follows. -/
theorem noGroup_colons (i : ℕ) (rest : List Char) : NoGroup i (':' :: ':' :: rest) := by
  have hends : EndsGroup (':' :: rest) :=
    endsGroup_cons (by decide) (by decide) _
  have hends' : EndsGroup (':' :: ':' :: rest) :=
    endsGroup_cons (by decide) (by decide) _
  rcases i with _ | i
  · exact noGroup_zero hends'
  · intro more
    rcases more with _ | more
    · rfl
    · have hipv4 : readIpv4 (':' :: rest) = none := readIpv4_none hends
      simp [readGroups, readSeparator, readGiven, hipv4, readNumber_none hends.digit]

/-! ### Zero runs -/

/-- A run of zeros in a list: start and length. -/
structure ZeroRun (l : List ℕ) (run : ℕ × ℕ) : Prop where
  le_length : run.1 + run.2 ≤ l.length
  zero : ∀ i, run.1 ≤ i → i < run.1 + run.2 → l[i]? = some 0

/-- One more zero extends a run that ends before it, or starts one. -/
theorem ZeroRun.extend {l : List ℕ} {run : ℕ × ℕ} {i : ℕ} (h : ZeroRun l run)
    (hend : run.2 ≠ 0 → run.1 + run.2 = i) (hi : l[i]? = some 0) :
    ZeroRun l (if run.2 = 0 then i else run.1, run.2 + 1) := by
  have hlt : i < l.length := (List.getElem?_eq_some_iff.mp hi).1
  by_cases hlen : run.2 = 0
  · rw [if_pos hlen, hlen]
    refine ⟨hlt, fun j hle hj => ?_⟩
    obtain rfl : j = i := by dsimp only at hle hj; omega
    exact hi
  · have hend := hend hlen
    rw [if_neg hlen]
    refine ⟨by dsimp only; omega, fun j hle hj => ?_⟩
    dsimp only at hle hj
    rcases Nat.lt_or_ge j i with hlt | hge
    · exact h.zero j hle (by omega)
    · obtain rfl : j = i := by omega
      exact hi

/-- The run that is found is one. -/
theorem zeroRun_longestZeros {l rest : List ℕ} {i : ℕ} {longest current : ℕ × ℕ}
    (hlongest : ZeroRun l longest) (hcurrent : ZeroRun l current)
    (hend : current.2 ≠ 0 → current.1 + current.2 = i) (hrest : l.drop i = rest) :
    ZeroRun l (longestZeros i longest current rest) := by
  induction rest generalizing i longest current with
  | nil => exact hlongest
  | cons segment rest ih =>
      have hi : l[i]? = some segment := by
        rw [← List.head?_drop, hrest]
        rfl
      have hdrop : l.drop (i + 1) = rest := by
        rw [← List.drop_drop, hrest]
        rfl
      unfold longestZeros
      by_cases hzero : segment = 0
      · rw [if_pos hzero]
        have hext := hcurrent.extend hend (hzero ▸ hi)
        refine ih ?_ hext (fun _ => ?_) hdrop
        · by_cases hlonger : longest.2 < current.2 + 1
          · rwa [if_pos hlonger]
          · rwa [if_neg hlonger]
        · dsimp only
          split_ifs with hlen
          · rw [hlen]
          · rw [← hend hlen, Nat.add_assoc]
      · rw [if_neg hzero]
        exact ih hlongest ⟨Nat.zero_le _, fun j _ hj => absurd hj (Nat.not_lt_zero j)⟩
          (fun h => absurd rfl h) hdrop

/-- A list is what stands before a run of zeros, the zeros, and what stands after them. -/
theorem ZeroRun.split {l : List ℕ} {run : ℕ × ℕ} (h : ZeroRun l run) :
    l.take run.1 ++ List.replicate run.2 0 ++ l.drop (run.1 + run.2) = l := by
  have hzeros : (l.drop run.1).take run.2 = List.replicate run.2 0 := by
    have hle := h.le_length
    refine List.eq_replicate_iff.mpr ⟨?_, fun n hn => ?_⟩
    · rw [List.length_take, List.length_drop]
      omega
    · obtain ⟨i, hi, rfl⟩ := List.getElem_of_mem hn
      have hlt : i < run.2 := by simp at hi; omega
      have := h.zero (run.1 + i) (Nat.le_add_right _ _) (by omega)
      rw [List.getElem_take, List.getElem_drop]
      exact (List.getElem?_eq_some_iff.mp this).2
  rw [← hzeros, ← List.drop_drop, List.append_assoc, List.take_append_drop,
    List.take_append_drop]

/-! ### IPv6 addresses -/

theorem readGiven_cons (c : Char) (s : List Char) : readGiven c (c :: s) = some s := by
  simp [readGiven]

/-- The groups after two colons, with zeros in between. -/
theorem readIpv6_colons {head tail : List ℕ} {ipv4 : Bool} {s : List Char}
    (hhead : ∀ group ∈ head, group < 65536) (hlen : head.length < 8)
    (htail : readGroups (8 - (head.length + 1)) 0 s = (tail, ipv4, rest)) :
    readIpv6 (separated 16 ':' head ++ ':' :: ':' :: s) =
      some (BitVec.ofNat 128
        (positional 65536
          (head ++ List.replicate (8 - head.length - tail.length) 0 ++ tail)), rest) := by
  have hcolons : EndsGroup (':' :: ':' :: s) :=
    endsGroup_cons (by decide) (by decide) _
  have hgroups := readGroups_separated hhead hcolons hlen.le (.inr (noGroup_colons head.length s))
  unfold readIpv6
  rw [hgroups]
  dsimp only
  rw [if_neg hlen.ne]
  simp only [Bool.false_eq_true, if_false, readGiven_cons, Option.bind_eq_bind, Option.bind_some,
    htail]

theorem ofNat_toNat_self {w : ℕ} (ip : BitVec w) : BitVec.ofNat w ip.toNat = ip := by
  rw [BitVec.ofNat_toNat, BitVec.setWidth_eq]

/-- The IPv4 address at the end of an IPv6 address is read as two groups. -/
theorem readGroups_ipv4 (ip : BitVec 32) (hrest : EndsNumber 10 rest) (more : ℕ) (i : ℕ) :
    readGroups (more + 2) (i + 1) (':' :: (displayIpv4 ip ++ rest)) =
      ([ip.toNat / 65536, ip.toNat % 65536], true, rest) := by
  have hipv4 := readIpv4_display ip hrest
  rw [readGroups, if_neg (Nat.succ_ne_zero more), readSeparator_succ, hipv4]

/-- **A written IPv6 address reads back.** -/
theorem readIpv6_display (ip : BitVec 128) (hrest : EndsGroup rest)
    (hcolon : rest.head? ≠ some ':') :
    readIpv6 (displayIpv6 ip ++ rest) = some (ip, rest) := by
  unfold displayIpv6
  dsimp only
  split_ifs with hmapped hzeros
  · -- an IPv4 address is left
    have hdot : EndsGroup (':' :: (displayIpv4 (.ofNat 32 ip.toNat) ++ rest)) :=
      endsGroup_cons (by decide) (by decide) _
    have hgroups : readGroups 7 0
        (Nat.toDigits 16 0xffff ++ ':' :: (displayIpv4 (.ofNat 32 ip.toNat) ++ rest)) =
          ([0xffff, ip.toNat % 2 ^ 32 / 65536, ip.toNat % 2 ^ 32 % 65536], true, rest) := by
      rw [readGroups_cons (by norm_num) (fun _ _ => rfl) hdot,
        readGroups_ipv4 _ hrest.decimal 4 0, BitVec.toNat_ofNat]
    have hread := readIpv6_colons (List.forall_mem_nil _) (by norm_num) hgroups
    have hvalue : positional 65536
        [0, 0, 0, 0, 0, 0xffff, ip.toNat % 2 ^ 32 / 65536, ip.toNat % 2 ^ 32 % 65536] =
          ip.toNat := by
      simp only [positional, List.reverse_cons, List.reverse_nil, List.nil_append,
        List.cons_append, Nat.ofDigits_cons, Nat.ofDigits_nil]
      omega
    have htext : "::ffff:".toList = ':' :: ':' :: (Nat.toDigits 16 0xffff ++ [':']) := by decide
    rw [show List.replicate _ 0 = [0, 0, 0, 0, 0] from rfl, List.nil_append] at hread
    simp only [List.cons_append, List.nil_append] at hread
    rw [hvalue, ofNat_toNat_self] at hread
    rw [htext]
    simpa [separated] using hread
  · have hrun : ZeroRun (segments ip) (longestZeros 0 (0, 0) (0, 0) (segments ip)) := by
      have hempty : ZeroRun (segments ip) (0, 0) :=
        ⟨Nat.zero_le _, fun i _ hi => absurd hi (Nat.not_lt_zero i)⟩
      exact zeroRun_longestZeros hempty hempty (fun h => absurd rfl h) rfl
    obtain ⟨start, len, hsl⟩ : ∃ start len,
        longestZeros 0 (0, 0) (0, 0) (segments ip) = (start, len) := ⟨_, _, rfl⟩
    rw [hsl] at hrun hzeros ⊢
    dsimp only at hzeros ⊢
    have hle : start + len ≤ 8 := hrun.le_length
    have hhead : ((segments ip).take start).length = start :=
      List.length_take_of_le (show start ≤ 8 by omega)
    have htail : ((segments ip).drop (start + len)).length = 8 - (start + len) := List.length_drop
    have hgroups : readGroups (8 - (((segments ip).take start).length + 1)) 0
        (separated 16 ':' ((segments ip).drop (start + len)) ++ rest) =
          ((segments ip).drop (start + len), false, rest) := by
      refine readGroups_separated (fun g hg => segments_lt ip g (List.mem_of_mem_drop hg)) hrest
        (by omega) (.inr ?_)
      rcases hn : ((segments ip).drop (start + len)).length with _ | n
      · exact noGroup_zero hrest
      · exact noGroup_succ hcolon n
    have hread := readIpv6_colons
      (fun g hg => segments_lt ip g (List.mem_of_mem_take hg)) (by omega) hgroups
    have hfill : 8 - start - (8 - (start + len)) = len := by omega
    rw [hhead, htail, hfill, hrun.split, positional_segments, ofNat_toNat_self] at hread
    rw [List.append_assoc, List.append_assoc]
    exact hread
  · have hgroups := readGroups_separated (segments_lt ip) hrest
      (show (segments ip).length ≤ 8 from le_rfl) (.inl rfl)
    unfold readIpv6
    rw [hgroups]
    dsimp only
    rw [if_pos (show (segments ip).length = 8 from rfl), positional_segments, ofNat_toNat_self]

/-! ### Socket addresses -/

theorem readPort_toDigits (port : UInt16) :
    readPort (':' :: Nat.toDigits 10 port.toNat) = some (port, []) := by
  have hread : readNumber 10 none true (2 ^ 16) (Nat.toDigits 10 port.toNat ++ []) =
      some (port.toNat, []) :=
    readNumber_toDigits (by norm_num) (by norm_num) port.toNat_lt (fun m hm => nomatch hm)
      (fun c hc => nomatch hc)
  rw [List.append_nil] at hread
  unfold readPort
  rw [readGiven_cons]
  simp only [Option.bind_eq_bind, Option.bind_some, hread, UInt16.ofNat_toNat]

theorem readScopeId_toDigits (scopeId : UInt32) (hrest : EndsNumber 10 rest) :
    readScopeId ('%' :: (Nat.toDigits 10 scopeId.toNat ++ rest)) = some (scopeId, rest) := by
  have hread : readNumber 10 none true (2 ^ 32) (Nat.toDigits 10 scopeId.toNat ++ rest) =
      some (scopeId.toNat, rest) :=
    readNumber_toDigits (by norm_num) (by norm_num) scopeId.toNat_lt (fun m hm => nomatch hm) hrest
  unfold readScopeId
  rw [readGiven_cons]
  simp only [Option.bind_eq_bind, Option.bind_some, hread, UInt32.ofNat_toNat]

/-- An address without the flow information. -/
def SocketAddr.withoutFlow : SocketAddr → SocketAddr
  | .v4 ip port => .v4 ip port
  | .v6 ip port _ scopeId => .v6 ip port 0 scopeId

theorem readSocketAddrV4_display (ip : BitVec 32) (port : UInt16) :
    readSocketAddrV4 (SocketAddr.v4 ip port).displayChars = some (.v4 ip port, []) := by
  have hcolon : EndsNumber 10 (':' :: Nat.toDigits 10 port.toNat) :=
    endsNumber_cons (by decide) _
  have hip := readIpv4_display ip hcolon
  unfold readSocketAddrV4 SocketAddr.displayChars
  rw [hip]
  simp only [Option.bind_eq_bind, Option.bind_some, readPort_toDigits]

theorem readSocketAddrV6_display (ip : BitVec 128) (port : UInt16) (flowinfo scopeId : UInt32) :
    readSocketAddrV6 (SocketAddr.v6 ip port flowinfo scopeId).displayChars =
      some (.v6 ip port 0 scopeId, []) := by
  have hport := readPort_toDigits port
  have hbracket : EndsNumber 10 (']' :: ':' :: Nat.toDigits 10 port.toNat) :=
    endsNumber_cons (by decide) _
  unfold readSocketAddrV6 SocketAddr.displayChars
  simp only [List.cons_append, List.append_assoc, readGiven_cons, Option.bind_eq_bind,
    Option.bind_some]
  split_ifs with hscope
  · subst hscope
    have hends : EndsGroup (']' :: ':' :: Nat.toDigits 10 port.toNat) :=
      endsGroup_cons (by decide) (by decide) _
    have hip := readIpv6_display ip hends (by simp)
    have hnone : readScopeId (']' :: ':' :: Nat.toDigits 10 port.toNat) = none := by
      simp [readScopeId, readGiven]
    rw [List.nil_append, hip]
    simp only [Option.bind_some, hnone, Option.getD_none, readGiven_cons, hport]
  · have hends : EndsGroup ('%' :: (Nat.toDigits 10 scopeId.toNat ++
        ']' :: ':' :: Nat.toDigits 10 port.toNat)) :=
      endsGroup_cons (by decide) (by decide) _
    have hip := readIpv6_display ip hends (by simp)
    have hread := readScopeId_toDigits scopeId hbracket
    rw [List.cons_append, hip]
    simp only [Option.bind_some, hread, Option.getD_some, readGiven_cons, hport]

/-- **A written socket address reads back**, without its flow information. -/
theorem SocketAddr.parse_display (addr : SocketAddr) :
    SocketAddr.parse addr.display = .ok addr.withoutFlow := by
  unfold SocketAddr.parse SocketAddr.display
  rw [String.toList_ofList]
  rcases addr with ⟨ip, port⟩ | ⟨ip, port, flowinfo, scopeId⟩
  · rw [readSocketAddrV4_display]
    rfl
  · have hnone : readSocketAddrV4 (SocketAddr.v6 ip port flowinfo scopeId).displayChars = none := by
      have hbracket : EndsGroup (SocketAddr.v6 ip port flowinfo scopeId).displayChars :=
        endsGroup_cons (by decide) (by decide) _
      have hip : readIpv4 (SocketAddr.v6 ip port flowinfo scopeId).displayChars = none :=
        readIpv4_none hbracket
      unfold readSocketAddrV4
      rw [hip]
      rfl
    rw [hnone, readSocketAddrV6_display]
    rfl

theorem withoutFlow_of_readV4 {s : List Char} {addr : SocketAddr}
    (h : readSocketAddrV4 s = some (addr, rest)) : addr.withoutFlow = addr := by
  unfold readSocketAddrV4 at h
  rcases hip : readIpv4 s with _ | ⟨ip, s₁⟩
  · simp [hip] at h
  · rcases hport : readPort s₁ with _ | ⟨port, s₂⟩
    · simp [hip, hport] at h
    · simp only [hip, hport, Option.bind_eq_bind, Option.bind_some] at h
      obtain ⟨rfl, rfl⟩ := Prod.mk.inj (Option.some.inj h)
      rfl

theorem withoutFlow_of_readV6 {s : List Char} {addr : SocketAddr}
    (h : readSocketAddrV6 s = some (addr, rest)) : addr.withoutFlow = addr := by
  unfold readSocketAddrV6 at h
  obtain ⟨s₁, -, h⟩ := Option.bind_eq_some_iff.mp h
  obtain ⟨⟨ip, s₂⟩, -, h⟩ := Option.bind_eq_some_iff.mp h
  obtain ⟨s₃, -, h⟩ := Option.bind_eq_some_iff.mp h
  obtain ⟨⟨port, s₄⟩, -, h⟩ := Option.bind_eq_some_iff.mp h
  obtain ⟨rfl, rfl⟩ := Prod.mk.inj (Option.some.inj h)
  rfl

/-- What is read of a text has no flow information. -/
theorem SocketAddr.withoutFlow_of_parse {text : String} {addr : SocketAddr}
    (h : SocketAddr.parse text = .ok addr) : addr.withoutFlow = addr := by
  unfold SocketAddr.parse at h
  rcases hv4 : readSocketAddrV4 text.toList with _ | ⟨addr', s⟩
  · rw [hv4] at h
    rcases hv6 : readSocketAddrV6 text.toList with _ | ⟨addr', s⟩
    · simp [hv6] at h
    · rcases s with _ | ⟨c, s⟩
      · simp only [hv6, Option.orElse_none] at h
        obtain rfl := Except.ok.inj h
        exact withoutFlow_of_readV6 hv6
      · simp [hv6] at h
  · rw [hv4] at h
    rcases s with _ | ⟨c, s⟩
    · obtain rfl := Except.ok.inj h
      exact withoutFlow_of_readV4 hv4
    · simp at h

/-- **What was read once reads back.** -/
theorem SocketAddr.parse_display_of_parse {text : String} {addr : SocketAddr}
    (h : SocketAddr.parse text = .ok addr) : SocketAddr.parse addr.display = .ok addr := by
  rw [parse_display, withoutFlow_of_parse h]

end reading

/-! ## The characters -/

/-- A character that addresses are written with. -/
def IsAddrChar (c : Char) : Prop := (charDigit 16 c).isSome ∨ c ∈ ['.', ':', '[', ']', '%']

instance : DecidablePred IsAddrChar := fun c =>
  inferInstanceAs (Decidable ((charDigit 16 c).isSome ∨ c ∈ ['.', ':', '[', ']', '%']))

theorem isAddrChar_toDigits {radix n : ℕ} (hradix : radix = 10 ∨ radix = 16) :
    ∀ c ∈ Nat.toDigits radix n, IsAddrChar c := by
  intro c hc
  left
  rcases hradix with rfl | rfl
  · have hdigit := (digits_toDigits (by norm_num) (by norm_num) n).1 c hc
    rcases h : charDigit 16 c with _ | d
    · rw [charDigit_mono h] at hdigit
      exact hdigit
    · rfl
  · exact (digits_toDigits (by norm_num) le_rfl n).1 c hc

theorem isAddrChar_separated {radix : ℕ} {sep : Char} (hradix : radix = 10 ∨ radix = 16)
    (hsep : IsAddrChar sep) (parts : List ℕ) : ∀ c ∈ separated radix sep parts, IsAddrChar c := by
  induction parts with
  | nil => simp [separated]
  | cons n parts ih =>
      rcases parts with _ | ⟨m, rest⟩
      · exact isAddrChar_toDigits hradix
      · rw [separated, List.forall_mem_append, List.forall_mem_cons]
        exact ⟨isAddrChar_toDigits hradix, hsep, ih⟩

theorem isAddrChar_displayIpv4 (ip : BitVec 32) : ∀ c ∈ displayIpv4 ip, IsAddrChar c :=
  isAddrChar_separated (.inl rfl) (by decide) _

theorem isAddrChar_displayIpv6 (ip : BitVec 128) : ∀ c ∈ displayIpv6 ip, IsAddrChar c := by
  have hgroups : ∀ groups, ∀ c ∈ separated 16 ':' groups, IsAddrChar c :=
    isAddrChar_separated (.inr rfl) (by decide)
  have hcolon : IsAddrChar ':' := by decide
  have hf : IsAddrChar 'f' := by decide
  have hmapped : ∀ c ∈ "::ffff:".toList, IsAddrChar c := by simp [hcolon, hf]
  have hcolons : ∀ c ∈ "::".toList, IsAddrChar c := by simp [hcolon]
  unfold displayIpv6
  dsimp only
  split_ifs
  · rw [List.forall_mem_append]
    exact ⟨hmapped, isAddrChar_displayIpv4 _⟩
  · rw [List.forall_mem_append, List.forall_mem_append]
    exact ⟨⟨hgroups _, hcolons⟩, hgroups _⟩
  · exact hgroups _

/-- **The characters of a written address.** -/
theorem isAddrChar_display (addr : SocketAddr) : ∀ c ∈ addr.display.toList, IsAddrChar c := by
  have hport : ∀ n, ∀ c ∈ Nat.toDigits 10 n, IsAddrChar c := fun n => isAddrChar_toDigits (.inl rfl)
  unfold SocketAddr.display
  rw [String.toList_ofList]
  rcases addr with ⟨ip, port⟩ | ⟨ip, port, flowinfo, scopeId⟩
  · rw [SocketAddr.displayChars, List.forall_mem_append, List.forall_mem_cons]
    exact ⟨isAddrChar_displayIpv4 ip, by decide, hport _⟩
  · simp only [SocketAddr.displayChars, List.cons_append, List.append_assoc, List.forall_mem_cons,
      List.forall_mem_append]
    refine ⟨by decide, isAddrChar_displayIpv6 ip, ?_, by decide, by decide, hport _⟩
    split_ifs
    · exact List.forall_mem_nil _
    · rw [List.forall_mem_cons]
      exact ⟨by decide, hport _⟩

end AdbHub
