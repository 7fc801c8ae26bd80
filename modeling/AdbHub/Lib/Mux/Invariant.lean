import AdbHub.Lib.Mux.Machine

/-!
# The invariant of multiplexed streams

* `Mux.Owned` — everything that is in use under an id belongs to the last session that took the id.
* `Mux.Requested` — how far each request has come, and what follows from the answer to it.
* `Mux.Announced` — the answer to a request precedes what the worker sends.
* `Mux.Lines` — what was sent is what was got followed by what is on its way, as long as the
  receiver is in its table, and what was got is a prefix of it for ever after.
-/

namespace AdbHub.Lib

namespace Mux

variable {ι β : Type*}

/-! ## The invariant -/

/-- The data of one sender among packets. -/
def dataOf {α : Type*} [DecidableEq α] (a : α) (packets : List (α × Packet ι β)) : List β :=
  (packets.map fun p => if p.1 = a then p.2.chunk else []).flatten

/-- What is in use under an id belongs to the last session that took it. -/
structure Owned (latest : ι → ℕ) (s : Mux ι β) : Prop where
  session : ∀ k, s.Live k → latest (s.id k) = k
  table : ∀ x k, s.table x = some k →
    s.id k = x ∧ latest x = k ∧ s.phase k ≠ .absent ∧ s.phase k ≠ .named
  waiter : ∀ x k, s.waiters x = some k →
    s.id k = x ∧ latest x = k ∧ s.granted k = none ∧ s.phase k ≠ .absent ∧ s.phase k ≠ .named
  busy : ¬ s.Idle → latest (s.id s.serving) = s.serving
  worker : ∀ j, s.worker j = .live → s.request (latest (s.workerId j)) = .served j
  workerTable : ∀ x j, s.workerTable x = some j →
    s.workerId j = x ∧ s.request (latest x) = .served j
  up : ∀ k p, (k, p) ∈ s.up → p.id = s.id k ∧ latest p.id = k ∧ s.phase k ≠ .absent
  result : ∀ p, (none, p) ∈ s.down → ∃ ok, p = .result p.id ok ∧
    (ok = true → s.request (latest p.id) = .accepted ∨ ∃ j, s.request (latest p.id) = .served j) ∧
    (ok = false → s.request (latest p.id) = .refused)
  output : ∀ j p, (some j, p) ∈ s.down →
    p.id = s.workerId j ∧ s.request (latest p.id) = .served j ∧ ∀ ok, p ≠ .result p.id ok

/-- How far each request has come. -/
structure Requested (s : Mux ι β) : Prop where
  early : ∀ k, s.phase k = .absent ∨ s.phase k = .named ∨ s.phase k = .registered →
    s.request k = .unsent
  absent : ∀ k, s.phase k = .absent → s.granted k = none
  sent : ∀ k x, (k, Packet.request x) ∈ s.up → s.request k = .sent
  once : s.up.Pairwise fun p q => p.2 = .request p.2.id → q.2 = .request q.2.id → p.1 ≠ q.1
  data : ∀ k x c, (k, Packet.data x c) ∈ s.up → s.granted k = some true
  busy : ∀ k, s.request k = .taken ∨ s.request k = .accepted → k = s.serving
  served : ∀ k j, s.request k = .served j → s.workerId j = s.id k ∧ s.worker j ≠ .absent
  unique : ∀ k k' j, s.request k = .served j → s.request k' = .served j → k = k'
  yes : ∀ k, s.granted k = some true → s.request k = .accepted ∨ ∃ j, s.request k = .served j
  no : ∀ k, s.granted k = some false → s.request k = .refused

/-- The answer to a request precedes what the worker sends. -/
structure Announced (s : Mux ι β) : Prop where
  accepted : ∀ k, s.request k = .accepted → s.waiters (s.id k) = some k →
    (none, Packet.result (s.id k) true) ∈ s.down
  served : ∀ k j, s.request k = .served j → s.waiters (s.id k) = some k →
    ∃ before after, s.down = before ++ (none, Packet.result (s.id k) true) :: after ∧
      ∀ p ∈ before, p.1 ≠ some j

/-- What every session and worker got, and what is on its way to it. -/
structure Lines (s : Mux ι β) : Prop where
  got : ∀ k j, s.request k = .served j → s.got k <+: s.workerSent j
  /-- While the session is in the table nothing is lost. -/
  down : ∀ k j, s.request k = .served j → s.table (s.id k) = some k →
    s.workerSent j = s.got k ++ dataOf (some j) s.down
  nothing : ∀ k, (∀ j, s.request k ≠ .served j) → s.got k = []
  workerGot : ∀ k j, s.request k = .served j → s.workerGot j <+: s.sent k
  /-- While the worker is in the table nothing is lost. -/
  up : ∀ k j, s.request k = .served j → s.workerTable (s.workerId j) = some j →
    s.sent k = s.workerGot j ++ dataOf k s.up
  pending : ∀ k, (∀ j, s.request k ≠ .served j) → s.sent k = dataOf k s.up
  absent : ∀ j, s.worker j = .absent → s.workerSent j = [] ∧ s.workerGot j = []

/-- What is in use belongs together, and nothing is lost or mixed up. -/
structure Inv (s : Mux ι β) : Prop where
  owned : ∃ latest, s.Owned latest
  requested : s.Requested
  announced : s.Announced
  lines : s.Lines

variable {s t : Mux ι β} {a : MuxAction ι β} {latest : ι → ℕ} {k j : ℕ} {x : ι}

/-- It holds before anything has happened. -/
theorem inv_start (x : ι) : (start x : Mux ι β).Inv where
  owned := ⟨fun _ => 0, by constructor <;> simp [start, Live, Idle]⟩
  requested := by constructor <;> simp [start]
  announced := by constructor <;> simp [start]
  lines := by constructor <;> simp [start, dataOf]

/-! ## What single updates keep -/

theorem Owned.setPhase (ho : s.Owned latest) (hk : s.Live k) {p : SessionPhase}
    (hp : p ≠ .absent ∧ p ≠ .named) :
    Owned latest { s with phase := Function.update s.phase k p } where
  session := by
    have := ho.session
    grind [Live, Function.update_apply]
  table := by
    have := ho.table
    grind [Function.update_apply]
  waiter := by
    have := ho.waiter
    grind [Function.update_apply]
  up := by
    have := ho.up
    grind [Function.update_apply]
  busy := ho.busy
  worker := ho.worker
  workerTable := ho.workerTable
  result := ho.result
  output := ho.output

theorem Owned.pushUp (ho : s.Owned latest) (hk : s.Live k) {p : Packet ι β} (hp : p.id = s.id k) :
    Owned latest { s with up := s.up ++ [(k, p)] } :=
  { ho with
    up := by
      have := ho.up
      have := ho.session k hk
      grind [Live] }

theorem Owned.popUp (ho : s.Owned latest) {p : ℕ × Packet ι β} {rest} (h : s.up = p :: rest) :
    Owned latest { s with up := rest } :=
  { ho with
    up := by
      have := ho.up
      grind }

theorem Owned.popDown (ho : s.Owned latest) {p : Option ℕ × Packet ι β} {rest}
    (h : s.down = p :: rest) : Owned latest { s with down := rest } :=
  { ho with
    result := by
      have := ho.result
      grind
    output := by
      have := ho.output
      grind }

theorem Owned.pushDown (ho : s.Owned latest) (hj : s.worker j = .live) {p : Packet ι β}
    (hid : p.id = s.workerId j) (hp : ∀ ok, p ≠ .result p.id ok) :
    Owned latest { s with down := s.down ++ [(some j, p)] } :=
  { ho with
    result := by
      have := ho.result
      grind
    output := by
      have := ho.output
      have := ho.worker j hj
      grind }

/-- A request that is not decided yet moves on. -/
theorem Owned.setRequest (ho : s.Owned latest) {r : Request}
    (hk : s.request k = .unsent ∨ s.request k = .sent ∨ s.request k = .taken)
    (hr : latest (s.id k) = k ∨ r ≠ .taken ∧ r ≠ .accepted) :
    Owned latest { s with request := Function.update s.request k r } :=
  { ho with
    busy := by
      have := ho.busy
      grind [Idle, Function.update_apply]
    worker := by
      have := ho.worker
      grind [Function.update_apply]
    workerTable := by
      have := ho.workerTable
      grind [Function.update_apply]
    result := by
      have := ho.result
      grind [Function.update_apply]
    output := by
      have := ho.output
      grind [Function.update_apply] }

theorem Owned.setServing (ho : s.Owned latest) (hk : latest (s.id k) = k) :
    Owned latest { s with serving := k } :=
  { ho with busy := fun _ => hk }

/-- The answer to the request of session `k` is sent. -/
theorem Owned.pushResult (ho : s.Owned latest) (hk : latest (s.id k) = k) {ok : Bool}
    (hyes : ok = true → s.request k = .accepted) (hno : ok = false → s.request k = .refused) :
    Owned latest { s with down := s.down ++ [(none, .result (s.id k) ok)] } :=
  { ho with
    result := by
      have := ho.result
      grind [Packet.id]
    output := by
      have := ho.output
      grind }

theorem Owned.endWorker (ho : s.Owned latest) (j : ℕ) :
    Owned latest { s with worker := Function.update s.worker j .gone } :=
  { ho with
    worker := by
      have := ho.worker
      grind [Function.update_apply] }

theorem Owned.exists_worker (ho : s.Owned latest) {w : Option ℕ} {p : Packet ι β} {rest}
    (hdown : s.down = (w, p) :: rest) (hp : ∀ ok, p ≠ .result p.id ok) : ∃ j, w = some j := by
  rcases w with _ | j
  · obtain ⟨ok, hok, -⟩ := ho.result p (by simp [hdown])
    exact absurd hok (hp ok)
  · exact ⟨j, rfl⟩

/-- What arrives from a worker is no answer. -/
theorem Owned.eq_result (ho : s.Owned latest) {w : Option ℕ} {ok : Bool} {rest}
    (hdown : s.down = (w, .result x ok) :: rest) : w = none := by
  rcases w with _ | j
  · rfl
  · exact absurd rfl ((ho.output j (.result x ok) (by simp [hdown])).2.2 ok)

theorem Requested.setPhase (hr : s.Requested) (hk : s.phase k ≠ .absent) {p : SessionPhase}
    (hp : p = .asked ∨ p = .gone ∨ p = .registered ∧ s.phase k = .named) :
    Requested { s with phase := Function.update s.phase k p } :=
  { hr with
    early := by
      have := hr.early
      grind [Function.update_apply]
    absent := by
      have := hr.absent
      grind [Function.update_apply] }

theorem Requested.pushUp (hr : s.Requested) {p : Packet ι β} (hp : ∀ x, p ≠ .request x)
    (hdata : ∀ x c, p = .data x c → s.granted k = some true) :
    Requested { s with up := s.up ++ [(k, p)] } :=
  { hr with
    sent := by
      have := hr.sent
      grind
    once := by
      have := hr.once
      rw [List.pairwise_append]
      grind
    data := by
      have := hr.data
      grind }

theorem Requested.ask (hr : s.Requested) (hk : s.phase k = .registered) :
    Requested { s with
      phase := Function.update s.phase k .asked
      request := Function.update s.request k .sent
      up := s.up ++ [(k, .request (s.id k))] } where
  early := by
    have := hr.early
    grind [Function.update_apply]
  absent := by
    have := hr.absent
    grind [Function.update_apply]
  sent := by
    have := hr.sent
    grind [Function.update_apply]
  once := by
    have := hr.once
    have := hr.sent
    have := hr.early k (.inr (.inr hk))
    rw [List.pairwise_append]
    grind
  data := by
    have := hr.data
    grind
  busy := by
    have := hr.busy
    grind [Function.update_apply]
  served := by
    have := hr.served
    grind [Function.update_apply]
  unique := by
    have := hr.unique
    grind [Function.update_apply]
  yes := by
    have := hr.yes
    have := hr.early k (.inr (.inr hk))
    grind [Function.update_apply]
  no := by
    have := hr.no
    have := hr.early k (.inr (.inr hk))
    grind [Function.update_apply]

theorem Requested.popUp (hr : s.Requested) {p : ℕ × Packet ι β} {rest} (h : s.up = p :: rest) :
    Requested { s with up := rest } :=
  { hr with
    sent := by
      have := hr.sent
      grind
    once := by
      have := hr.once
      grind
    data := by
      have := hr.data
      grind }

/-- The request of session `k` is taken up. -/
theorem Requested.takeRequest (hr : s.Requested) {rest} (hup : s.up = (k, .request x) :: rest)
    (hidle : s.Idle) :
    Requested { s with
      up := rest, request := Function.update s.request k .taken, serving := k } := by
  have hk : s.request k = .sent := hr.sent k x (by simp [hup])
  have hrest : ∀ y, (k, Packet.request y) ∉ rest := by
    intro y hy
    have honce := hr.once
    rw [hup, List.pairwise_cons] at honce
    exact honce.1 _ hy rfl rfl rfl
  have hpop := hr.popUp hup
  exact
    { hpop with
      early := by
        have := hr.early
        grind [Function.update_apply]
      sent := by
        have := hpop.sent
        grind [Function.update_apply]
      busy := by
        have := hr.busy
        grind [Idle, Function.update_apply]
      served := by
        have := hr.served
        grind [Function.update_apply]
      unique := by
        have := hr.unique
        grind [Function.update_apply]
      yes := by
        have := hr.yes
        grind [Function.update_apply]
      no := by
        have := hr.no
        grind [Function.update_apply] }

/-- The request that was taken up is answered or dropped. -/
theorem Requested.settle (hr : s.Requested) (hs : s.request s.serving = .taken) {r : Request}
    (h : r = .accepted ∨ r = .refused) :
    Requested { s with request := Function.update s.request s.serving r } :=
  { hr with
    early := by
      have := hr.early
      grind [Function.update_apply]
    sent := by
      have := hr.sent
      grind [Function.update_apply]
    busy := by
      have := hr.busy
      grind [Function.update_apply]
    served := by
      have := hr.served
      grind [Function.update_apply]
    unique := by
      have := hr.unique
      grind [Function.update_apply]
    yes := by
      have := hr.yes
      grind [Function.update_apply]
    no := by
      have := hr.no
      grind [Function.update_apply] }

theorem Requested.setWorker (hr : s.Requested) {p : WorkerPhase} (h : p ≠ .absent) :
    Requested { s with worker := Function.update s.worker j p } :=
  { hr with
    served := by
      have := hr.served
      grind [Function.update_apply] }

theorem Announced.pushDown (ha : s.Announced) (p : Option ℕ × Packet ι β) :
    Announced { s with down := s.down ++ [p] } where
  accepted := by
    have := ha.accepted
    grind
  served k j hserved hw := by
    obtain ⟨before, after, hdown, hbefore⟩ := ha.served k j hserved hw
    exact ⟨before, after ++ [p], by simp [hdown], hbefore⟩

theorem Announced.setRequest (ha : s.Announced) {r : Request}
    (hr : r ≠ .accepted ∧ ∀ j, r ≠ .served j) :
    Announced { s with request := Function.update s.request k r } where
  accepted := by
    have := ha.accepted
    grind [Function.update_apply]
  served := by
    have := ha.served
    grind [Function.update_apply]

/-- A packet arrives; if it is an answer, nobody waits for it any more. -/
theorem Announced.popDown (ha : s.Announced) {w : Option ℕ} {p : Packet ι β} {rest}
    (hdown : s.down = (w, p) :: rest) (hw : ∀ ok, p = .result p.id ok → s.waiters p.id = none) :
    Announced { s with down := rest } where
  accepted := by
    have := ha.accepted
    grind [Packet.id]
  served k j hserved hwait := by
    obtain ⟨before, after, hsplit, hbefore⟩ := ha.served k j hserved hwait
    rw [hdown] at hsplit
    rcases before with _ | ⟨q, before⟩
    · obtain ⟨hhead, -⟩ := List.cons.inj hsplit
      obtain ⟨-, rfl⟩ := Prod.mk.inj hhead
      have := hw true rfl
      rw [Packet.id, hwait] at this
      simp at this
    · obtain ⟨-, hrest⟩ := List.cons.inj hsplit
      exact ⟨before, after, hrest, fun q hq => hbefore q (List.mem_cons_of_mem _ hq)⟩

/-- No session waits for an answer under the id of what a worker has sent next. -/
theorem Announced.waiters_eq_none (ha : s.Announced) (ho : s.Owned latest) {p : Packet ι β} {rest}
    (hdown : s.down = (some j, p) :: rest) : s.waiters p.id = none := by
  rcases hw : s.waiters p.id with _ | k
  · rfl
  · obtain ⟨hid, hlast, -⟩ := ho.waiter _ _ hw
    obtain ⟨-, hserved, -⟩ := ho.output j p (by simp [hdown])
    rw [hlast] at hserved
    obtain ⟨before, after, hsplit, hbefore⟩ := ha.served k j hserved (by rw [hid, hw])
    rw [hdown] at hsplit
    rcases before with _ | ⟨q, before⟩
    · simp at hsplit
    · obtain ⟨rfl, -⟩ := List.cons.inj hsplit
      exact absurd rfl (hbefore _ List.mem_cons_self)

@[simp] theorem dataOf_nil {α : Type*} [DecidableEq α] (b : α) :
    dataOf b ([] : List (α × Packet ι β)) = [] := rfl

theorem dataOf_cons {α : Type*} [DecidableEq α] (b : α) (p : α × Packet ι β)
    (packets : List (α × Packet ι β)) :
    dataOf b (p :: packets) = (if p.1 = b then p.2.chunk else []) ++ dataOf b packets := rfl

theorem dataOf_append {α : Type*} [DecidableEq α] (b : α) (ps qs : List (α × Packet ι β)) :
    dataOf b (ps ++ qs) = dataOf b ps ++ dataOf b qs := by
  simp [dataOf]

theorem dataOf_eq_nil {α : Type*} [DecidableEq α] {b : α} {packets : List (α × Packet ι β)}
    (h : ∀ p ∈ packets, p.1 ≠ b) : dataOf b packets = [] := by
  unfold dataOf
  rw [List.flatten_eq_nil_iff]
  intro c hc
  obtain ⟨p, hp, rfl⟩ := List.mem_map.mp hc
  rw [if_neg (h p hp)]

theorem Lines.pushUp (hl : s.Lines) {p : Packet ι β} (hp : p.chunk = []) :
    Lines { s with up := s.up ++ [(k, p)] } :=
  { hl with
    up := by
      have := hl.up
      grind [dataOf_append, dataOf_cons, dataOf_nil]
    pending := by
      have := hl.pending
      grind [dataOf_append, dataOf_cons, dataOf_nil] }

theorem Lines.pushDown (hl : s.Lines) {w : Option ℕ} {p : Packet ι β} (hp : p.chunk = []) :
    Lines { s with down := s.down ++ [(w, p)] } :=
  { hl with
    down := by
      have := hl.down
      grind [dataOf_append, dataOf_cons, dataOf_nil] }

/-- A packet that carries no data arrives. -/
theorem Lines.popUp (hl : s.Lines) {p : Packet ι β} {rest} (hup : s.up = (k, p) :: rest)
    (hp : p.chunk = []) : Lines { s with up := rest } :=
  { hl with
    up := by
      have := hl.up
      grind [dataOf_cons]
    pending := by
      have := hl.pending
      grind [dataOf_cons] }

theorem Lines.popDown (hl : s.Lines) {w : Option ℕ} {p : Packet ι β} {rest}
    (hdown : s.down = (w, p) :: rest) (hp : p.chunk = []) : Lines { s with down := rest } :=
  { hl with
    down := by
      have := hl.down
      grind [dataOf_cons] }

/-- A request moves on before a worker serves it. -/
theorem Lines.setRequest (hl : s.Lines) {r : Request} (hk : ∀ j, s.request k ≠ .served j)
    (hr : ∀ j, r ≠ .served j) :
    Lines { s with request := Function.update s.request k r } where
  got := by
    have := hl.got
    grind [Function.update_apply]
  down := by
    have := hl.down
    grind [Function.update_apply]
  nothing := by
    have := hl.nothing
    grind [Function.update_apply]
  workerGot := by
    have := hl.workerGot
    grind [Function.update_apply]
  up := by
    have := hl.up
    grind [Function.update_apply]
  pending := by
    have := hl.pending
    grind [Function.update_apply]
  absent := hl.absent

theorem Lines.endWorker (hl : s.Lines) (j : ℕ) :
    Lines { s with worker := Function.update s.worker j .gone } :=
  { hl with
    absent := by
      have := hl.absent
      grind [Function.update_apply] }

section Preserved

variable [DecidableEq ι]

/-- A session that takes an unused id is the last one to take it. -/
theorem Owned.take (ho : s.Owned latest) (hr : s.Requested) (hu : s.Unused x)
    (hk : s.phase k = .absent) :
    Owned (Function.update latest x k)
      { s with phase := Function.update s.phase k .named, id := Function.update s.id k x } := by
  obtain ⟨u1, u2, u3, u4, u5, u6, u7, u8⟩ := hu
  have hnot : s.request k = .unsent := hr.early k (.inl hk)
  constructor
  · have := ho.session
    grind [Live, Function.update_apply]
  · have := ho.table
    grind [Function.update_apply]
  · have := ho.waiter
    grind [Function.update_apply]
  · have := ho.busy
    grind [Idle, Function.update_apply]
  · have := ho.worker
    grind [Function.update_apply]
  · have := ho.workerTable
    grind [Function.update_apply]
  · have := ho.up
    grind [Function.update_apply]
  · have := ho.result
    grind [Function.update_apply]
  · have := ho.output
    grind [Function.update_apply]

theorem Owned.setTable (ho : s.Owned latest) (hk : s.Live k) (hn : s.phase k ≠ .named) :
    Owned latest { s with table := Function.update s.table (s.id k) (some k) } :=
  { ho with
    table := by
      have := ho.table
      have := ho.session k hk
      grind [Live, Function.update_apply] }

theorem Owned.clearTable (ho : s.Owned latest) (x : ι) :
    Owned latest { s with table := Function.update s.table x none } :=
  { ho with
    table := by
      have := ho.table
      grind [Function.update_apply] }

theorem Owned.setWaiter (ho : s.Owned latest) (hk : s.Live k) (hn : s.phase k ≠ .named)
    (hg : s.granted k = none) :
    Owned latest { s with waiters := Function.update s.waiters (s.id k) (some k) } :=
  { ho with
    waiter := by
      have := ho.waiter
      have := ho.session k hk
      grind [Live, Function.update_apply] }

theorem Owned.clearWaiter (ho : s.Owned latest) (x : ι) :
    Owned latest { s with waiters := Function.update s.waiters x none } :=
  { ho with
    waiter := by
      have := ho.waiter
      grind [Function.update_apply] }

theorem Owned.resolve (ho : s.Owned latest) (x : ι) (ok : Bool) :
    (s.resolve x ok).Owned latest := by
  unfold Mux.resolve
  rcases hw : s.waiters x with _ | k
  · exact ho
  · exact
      { ho with
        waiter := by
          have := ho.waiter
          grind [Function.update_apply] }

theorem Owned.spawn (ho : s.Owned latest) (hr : s.Requested) (hs : s.request s.serving = .accepted)
    (hj : s.worker j = .absent) :
    Owned latest { s with
      request := Function.update s.request s.serving (.served j)
      worker := Function.update s.worker j .live
      workerId := Function.update s.workerId j (s.id s.serving)
      workerTable := Function.update s.workerTable (s.id s.serving) (some j) } := by
  have hlatest : latest (s.id s.serving) = s.serving := ho.busy (by simp [Idle, hs])
  have hnew : ∀ k, s.request k ≠ .served j := fun k hk => (hr.served k j hk).2 hj
  exact
    { ho with
      busy := by
        simp [Idle]
      worker := by
        have := ho.worker
        grind [Function.update_apply]
      workerTable := by
        have := ho.workerTable
        grind [Function.update_apply]
      result := by
        have := ho.result
        grind [Function.update_apply]
      output := by
        have := ho.output
        grind [Function.update_apply] }

theorem Owned.clearWorkerTable (ho : s.Owned latest) (x : ι) :
    Owned latest { s with workerTable := Function.update s.workerTable x none } :=
  { ho with
    workerTable := by
      have := ho.workerTable
      grind [Function.update_apply] }

theorem Requested.spawn (hr : s.Requested) (hs : s.request s.serving = .accepted)
    (hj : s.worker j = .absent) :
    Requested { s with
      request := Function.update s.request s.serving (.served j)
      worker := Function.update s.worker j .live
      workerId := Function.update s.workerId j (s.id s.serving)
      workerTable := Function.update s.workerTable (s.id s.serving) (some j) } where
  early := by
    have := hr.early
    grind [Function.update_apply]
  absent := hr.absent
  sent := by
    have := hr.sent
    grind [Function.update_apply]
  once := hr.once
  data := hr.data
  busy := by
    have := hr.busy
    grind [Function.update_apply]
  served := by
    have := hr.served
    grind [Function.update_apply]
  unique := by
    have := hr.unique
    have := hr.served
    grind [Function.update_apply]
  yes := by
    have := hr.yes
    grind [Function.update_apply]
  no := by
    have := hr.no
    grind [Function.update_apply]

/-- An answer reaches the session that waits for it. -/
theorem Requested.resolve (hr : s.Requested) {ok : Bool}
    (hw : ∀ k, s.waiters x = some k → s.granted k = none ∧ s.phase k ≠ .absent)
    (hyes : ∀ k, s.waiters x = some k → ok = true →
      s.request k = .accepted ∨ ∃ j, s.request k = .served j)
    (hno : ∀ k, s.waiters x = some k → ok = false → s.request k = .refused) :
    (s.resolve x ok).Requested := by
  unfold Mux.resolve
  rcases hx : s.waiters x with _ | k
  · exact hr
  · exact
      { hr with
        absent := by
          have := hr.absent
          grind [Function.update_apply]
        data := by
          have := hr.data
          grind [Function.update_apply]
        yes := by
          have := hr.yes
          grind [Function.update_apply]
        no := by
          have := hr.no
          grind [Function.update_apply] }

theorem Announced.clearWaiter (ha : s.Announced) (x : ι) :
    Announced { s with waiters := Function.update s.waiters x none } where
  accepted := by
    have := ha.accepted
    grind [Function.update_apply]
  served := by
    have := ha.served
    grind [Function.update_apply]

theorem Lines.clearTable (hl : s.Lines) (x : ι) :
    Lines { s with table := Function.update s.table x none } :=
  { hl with
    down := by
      have := hl.down
      grind [Function.update_apply] }

theorem Lines.clearWorkerTable (hl : s.Lines) (x : ι) :
    Lines { s with workerTable := Function.update s.workerTable x none } :=
  { hl with
    up := by
      have := hl.up
      grind [Function.update_apply] }

theorem Lines.resolve (hl : s.Lines) (x : ι) (ok : Bool) : (s.resolve x ok).Lines := by
  unfold Mux.resolve
  split
  · exact hl
  · exact { hl with }

/-- Data of a session arrives. -/
theorem Lines.arriveData_up (hl : s.Lines) (ho : s.Owned latest) (hr : s.Requested) {c : List β}
    {rest} (hup : s.up = (k, .data x c) :: rest) (hidle : s.Idle) :
    ({ s with up := rest }.arriveUp k (.data x c)).Lines := by
  have hmem : (k, Packet.data x c) ∈ s.up := by simp [hup]
  obtain ⟨j, hserved⟩ : ∃ j, s.request k = .served j := by
    rcases hr.yes k (hr.data k x c hmem) with hk | hk
    · obtain rfl := hr.busy k (.inr hk)
      exact absurd hk hidle.2
    · exact hk
  obtain ⟨hid, hlast, -⟩ := ho.up k _ hmem
  have hj := (hr.served k j hserved).1
  have hother : ∀ i, i ≠ k → dataOf i s.up = dataOf i rest := by
    intro i hi
    rw [hup, dataOf_cons, if_neg (Ne.symm hi), List.nil_append]
  have hline := hl.up
  have hpending := hl.pending
  have hunique := hr.unique
  rcases htable : s.workerTable x with _ | i
  · simp only [arriveUp, htable]
    exact
      { hl with
        up := by grind [Packet.id]
        pending := by grind }
  · obtain ⟨hi, hserved'⟩ := ho.workerTable x i htable
    obtain rfl : j = i := by grind [Packet.id]
    have hnow := hline k j hserved (by rw [hi, htable])
    rw [hup, dataOf_cons, if_pos rfl, Packet.chunk, ← List.append_assoc] at hnow
    simp only [arriveUp, htable]
    exact
      { hl with
        workerGot := by
          have := hl.workerGot
          have hprefix : s.workerGot j ++ c <+: s.sent k := ⟨_, hnow.symm⟩
          grind [Function.update_apply]
        up := by grind [Function.update_apply]
        pending := by
          intro i hi
          have hne : i ≠ k := by
            rintro rfl
            exact hi j hserved
          rw [← hother i hne]
          exact hpending i hi
        absent := by
          have := hl.absent
          have := hr.served k j hserved
          grind [Function.update_apply] }

/-- Data of a worker arrives. -/
theorem Lines.arriveData_down (hl : s.Lines) (ho : s.Owned latest) (hr : s.Requested)
    {w : Option ℕ} {c : List β} {rest} (hdown : s.down = (w, .data x c) :: rest) :
    ({ s with down := rest }.arriveDown (.data x c)).Lines := by
  obtain ⟨j, rfl⟩ := ho.exists_worker hdown (by simp)
  obtain ⟨hid, hserved, -⟩ := ho.output j (.data x c) (by simp [hdown])
  have hother : ∀ i, i ≠ j → dataOf (some i) s.down = dataOf (some i) rest := by
    intro i hi
    have hne : some j ≠ some i := fun h => hi (Option.some.inj h).symm
    rw [hdown, dataOf_cons, if_neg hne, List.nil_append]
  have hline := hl.down
  have hunique := hr.unique
  have hids := hr.served
  rcases htable : s.table x with _ | k
  · simp only [arriveDown, htable]
    exact
      { hl with
        down := by grind [Packet.id] }
  · obtain ⟨hk, hlast, -⟩ := ho.table x k htable
    rw [Packet.id, hlast] at hserved
    have hnow := hline k j hserved (by rw [hk, htable])
    rw [hdown, dataOf_cons, if_pos rfl, Packet.chunk, ← List.append_assoc] at hnow
    simp only [arriveDown, htable]
    exact
      { hl with
        got := by
          have := hl.got
          have hprefix : s.got k ++ c <+: s.workerSent j := ⟨_, hnow.symm⟩
          grind [Function.update_apply]
        down := by grind [Function.update_apply]
        nothing := by
          have := hl.nothing
          grind [Function.update_apply] }

end Preserved

end Mux

end AdbHub.Lib
