import HttpExchange.Proofs.Client.Keeping

/-!
Who owns the connections of exchanges that share a pool. In every interleaving an open connection is idle in the
pool or in the hands of one exchange, which talks on it or is about to close it, and never in two places. Nothing is
written on it but requests to the endpoint and in the context it was opened for.
-/
namespace HttpExchange.Sharing
open Exchange (closings)
variable {packing : Packing} {exchanges : List (Exchange Nat)} {s : Sharing} {i : Nat} {party : Party}

/-! ### What is let go of -/

theorem inUse_release (lines : List Line) {closing : List Nat} {l : Nat} (member : l ∈ closing) :
    inUse (uses (release lines closing)) l = false := by
  rw [uses_release, inUse_parted]
  simp [member]

/-- What a cancelled exchange had in its hands is released at once. -/
theorem inUse_after_cancelled (found : s.parties[i]? = some party) {l : Nat} (held : l ∈ party.held) :
    inUse (uses (s.after packing (.cancelled i)).lines) l = false := by
  obtain ⟨-, -, closes⟩ := @closings_of_cancelled packing party s.pool
  simp only [Sharing.after, step?, found, Option.bind_eq_bind, Option.bind_some, Option.getD_some]
  exact inUse_release s.lines (closes.mem_iff.mp held)

/-- The orders of an exchange can be carried out, all of them in turn. -/
theorem run_obey (packing : Packing) (found : s.parties[i]? = some party) :
    let s' := s.run packing (List.replicate party.orders.length (.obey i))
    s'.pool = s.pool ∧ s'.parties = s.parties.set i { party with orders := [] } := by
  obtain ⟨exchange, news, orders⟩ := party
  induction orders generalizing s with
  | nil =>
    obtain ⟨inside, here⟩ := List.getElem?_eq_some_iff.mp found
    refine ⟨rfl, ?_⟩
    show s.parties = s.parties.set i ⟨exchange, news, []⟩
    rw [← here, List.set_getElem_self]
  | cons order rest ih =>
    obtain ⟨inside, -⟩ := List.getElem?_eq_some_iff.mp found
    have first : s.after packing (.obey i) =
        ⟨s.pool, s.parties.set i ⟨exchange, news, rest⟩, obey i exchange.request s.lines order⟩ := by
      simp only [Sharing.after, step?, found, Option.bind_eq_bind, Option.bind_some, Option.getD_some]
    simp only [List.length_cons, List.replicate_succ, Sharing.run, List.foldl_cons, first]
    obtain ⟨pool, parties⟩ := @ih
      ⟨s.pool, s.parties.set i ⟨exchange, news, rest⟩, obey i exchange.request s.lines order⟩
      (List.getElem?_set_self inside)
    exact ⟨pool, parties.trans (List.set_set ..)⟩

/-- What an exchange is about to close is released as soon as its orders are carried out. -/
theorem Kept.inUse_run_obey (kept : Kept exchanges s.pool s.parties (uses s.lines))
    (found : s.parties[i]? = some party) {l : Nat} (closes : l ∈ closings party.orders) :
    inUse (uses (s.run packing (List.replicate party.orders.length (.obey i))).lines) l = false := by
  obtain ⟨pool, parties⟩ := run_obey packing found
  obtain ⟨opened, unpooled, once⟩ := kept.held_once found (List.mem_append_right _ closes)
  have mine : (closings party.orders).count l = 1 ∧ party.exchange.engaged.count l = 0 := by
    have positive := List.count_pos_iff.mpr closes
    rw [Party.held, List.count_append] at once
    omega
  have emptied : ({ party with orders := [] } : Party).held = party.exchange.engaged := List.append_nil _
  have moved := (Replacement.flatMap_set found { party with orders := [] } Party.held).count_eq l
  have before := kept.custody l
  have afterwards := (@Kept.run packing _ _ kept (List.replicate party.orders.length (.obey i))).custody l
  rw [pool, parties, List.count_append] at afterwards
  rw [List.count_append, if_pos opened] at before
  rw [emptied, List.count_append, List.count_append] at moved
  split_ifs at afterwards with still
  · omega
  · exact Bool.eq_false_iff.mpr still

/-! ### Every run -/

/-- The connection of a number was opened and not released. -/
def isOpen (s : Sharing) (l : Nat) : Bool := (s.lines[l]?.bind (·.socket.stream)).isSome

theorem inUse_uses (s : Sharing) (l : Nat) : inUse (uses s.lines) l = s.isOpen l := by
  rw [inUse, isOpen, getElem?_uses]
  cases s.lines[l]? with
  | none => rfl
  | some line => simp [Line.use]

theorem isHealthy_iff {l : Nat} :
    s.isHealthy l = true ↔ ∃ line stream, s.lines[l]? = some line ∧ line.socket.stream = some stream ∧
      if line.socket.secure then stream.peerEnded = true → line.backlog = true
      else stream.peerEnded = false ∧ stream.arrived = [] := by
  rw [Sharing.isHealthy]
  cases s.lines[l]? with
  | none => simp
  | some line =>
    cases here : line.socket.stream with
    | none => simp [Line.isHealthy, here]
    | some stream =>
      cases secure : line.socket.secure <;> cases ended : stream.peerEnded <;>
        simp [Line.isHealthy, Stream.isQuiet, here, secure, ended]

/-- What holds wherever exchanges that share a pool have come, whoever gave up or hung up on the way. -/
structure Exclusive (packing : Packing) (exchanges : List (Exchange Nat)) (s : Sharing) : Prop where
  /-- An open connection is idle, or one exchange talks on it or is about to close it; a released one is nowhere. -/
  places : ∀ l, (s.pool.connections ++ s.parties.flatMap Party.held).count l = if s.isOpen l then 1 else 0
  /-- No endpoint has two idle connections. -/
  keyed : s.pool.Keyed
  /-- An idle connection was opened for its endpoint, in its context. -/
  pooled : ∀ (endpoint : Endpoint) (entry : PoolEntry Nat), (endpoint, entry) ∈ s.pool.entries →
    ∃ line, s.lines[entry.connection]? = some line ∧ line.endpoint = endpoint ∧ line.tlsContext = entry.tlsContext
  /-- A connection that is handed out is the idle one and open. On a plain one the peer has neither said goodbye nor
  sent anything; on a secure one it has not said goodbye, unless something waits in front of the goodbye. -/
  claimed : ∀ (endpoint : Endpoint) (entry : PoolEntry Nat),
    (s.pool.claim s.isHealthy endpoint).entry = some entry ↔
      s.pool.find? endpoint = some entry ∧
        ∃ line stream, s.lines[entry.connection]? = some line ∧ line.socket.stream = some stream ∧
          if endpoint.isSecure then stream.peerEnded = true → line.backlog = true
          else stream.peerEnded = false ∧ stream.arrived = []
  /-- Requests are written only on connections opened for their endpoint, in their context. -/
  asked : ∀ (l : Nat) (line : Line), s.lines[l]? = some line → ∀ (i : Nat) (request : Request),
    (i, request) ∈ line.asked → ∃ x, exchanges[i]? = some x ∧ x.request = request ∧ x.endpoint = line.endpoint ∧
      x.settings.tlsContext = line.tlsContext
  /-- Nothing but these requests is written. -/
  written : ∀ (l : Nat) (line : Line) (stream : Stream), s.lines[l]? = some line → line.socket.stream = some stream →
    stream.written = line.asked.flatMap fun asked => Wire.serialize asked.2
  /-- Once all exchanges are over and have carried out their orders, only idle connections are open. -/
  unleaked : (∀ party ∈ s.parties, party.exchange.result?.isSome ∧ party.orders = []) →
    ∀ l, s.isOpen l = true ↔ l ∈ s.pool.connections
  /-- What was released stays so, whatever happens later. -/
  final : ∀ (more : List Action) (l : Nat), l < s.lines.length → s.isOpen l = false →
    (s.run packing more).isOpen l = false
  /-- What is removed from the pool is released. -/
  removed : ∀ (endpoint : Endpoint) (entry : PoolEntry Nat), s.pool.find? endpoint = some entry →
    (s.after packing (.remove endpoint)).isOpen entry.connection = false
  /-- When the pool is cleared, all of it is released. -/
  cleared : ∀ l ∈ s.pool.connections, (s.after packing .clear).isOpen l = false
  /-- What a cancelled exchange had in its hands is released. -/
  cancelled : ∀ (i : Nat) (party : Party), s.parties[i]? = some party →
    ∀ l ∈ party.held, (s.after packing (.cancelled i)).isOpen l = false
  /-- What an exchange is about to close, which it displaced, found unfit or used up, is released when its orders
  are carried out. -/
  carriedOut : ∀ (i : Nat) (party : Party), s.parties[i]? = some party → ∀ l ∈ closings party.orders,
    (s.run packing (List.replicate party.orders.length (.obey i))).isOpen l = false

theorem Kept.exclusive (kept : Kept exchanges s.pool s.parties (uses s.lines)) : Exclusive packing exchanges s where
  places l := (kept.custody l).trans (by rw [inUse_uses])
  keyed := kept.keyed
  pooled endpoint entry member := by
    obtain ⟨use, here, sameEndpoint, context, -⟩ := kept.pooled endpoint entry member
    obtain ⟨line, found, rfl⟩ := Option.map_eq_some_iff.mp ((getElem?_uses _ _).symm.trans here)
    exact ⟨line, found, sameEndpoint, context⟩
  claimed endpoint entry := by
    rw [Pool.claim_eq_some_iff, isHealthy_iff]
    refine and_congr_right fun idle => ?_
    obtain ⟨use, here, -, -, secure⟩ := kept.pooled endpoint entry (Pool.mem_of_find? idle)
    obtain ⟨line, found, rfl⟩ := Option.map_eq_some_iff.mp ((getElem?_uses _ _).symm.trans here)
    have same : line.socket.secure = endpoint.isSecure := secure
    simp only [found, Option.some.injEq, exists_and_left, exists_eq_left', same]
  asked l line found i request noted :=
    kept.asked line.use (List.mem_map_of_mem (List.mem_of_getElem? found)) i request noted
  written l line stream found here :=
    kept.written line.use (List.mem_map_of_mem (List.mem_of_getElem? found)) stream.written (by simp [Line.use, here])
  unleaked finished l := by
    have nobody : s.parties.flatMap Party.held = [] := List.flatMap_eq_nil_iff.mpr fun party member => by
      obtain ⟨ended, idle⟩ := finished party member
      have silent : party.exchange.engaged = [] :=
        Exchange.engaged_eq_nil fun entry trip talking => by simp [Exchange.result?, talking] at ended
      rw [Party.held, silent, idle]
      rfl
    have once := kept.custody l
    rw [nobody, List.append_nil, inUse_uses] at once
    rw [← List.count_pos_iff, once]
    split_ifs with here <;> simp [here]
  final more l inside released := by
    obtain ⟨later, there, onward⟩ := onward_run packing s more l s.lines[l] (List.getElem?_eq_getElem inside)
    have none : s.lines[l].socket.stream = none := by simpa [isOpen, inside] using released
    simp [isOpen, there, onward.released none]
  removed endpoint entry found := by
    rw [← inUse_uses]
    exact inUse_release s.lines (by simp [Pool.remove, found])
  cleared l member := by
    rw [← inUse_uses]
    exact inUse_release s.lines member
  cancelled i party found l held := by
    rw [← inUse_uses]
    exact inUse_after_cancelled found held
  carriedOut i party found l closes := by
    rw [← inUse_uses]
    exact kept.inUse_run_obey found closes

/-- However exchanges, peers and those who tidy the pool interleave, every connection has one owner. -/
theorem run_exclusive (packing : Packing) (exchanges : List (Exchange Nat)) (actions : List Action) :
    Exclusive packing exchanges ((start exchanges).run packing actions) :=
  ((Kept.start exchanges).run actions).exclusive

/-- A secure connection whose peer has said goodbye after something that nobody read is handed out. -/
theorem not_claimed_unended :
    ¬ ∀ (exchanges : List (Exchange Nat)) (actions : List Action) (endpoint : Endpoint) (entry : PoolEntry Nat),
      let s := (start exchanges).run .standard actions
      (s.pool.claim s.isHealthy endpoint).entry = some entry →
        (s.lines[entry.connection]?.bind (·.socket.stream)).map Stream.peerEnded = some false := by
  let x : Exchange Nat := ⟨.make "https" "a" 443, ⟨1024, .seconds 10, .seconds 30, "default"⟩,
    .make .get "/" "HTTP/1.1" [] [], .starting⟩
  let answer : Bytes := Utf8.encode "HTTP/1.1 200 OK\r\nContent-Length: 0\r\n\r\n"
  intro unended
  have gone := unended [x] [.begin 0, .obey 0, .opened 0, .obey 0, .traffic 0 .written, .react 0, .answered 0 answer,
    .read 0 1024, .react 0, .stirred 0 true, .hungUp 0] x.endpoint ⟨0, 1024, "default"⟩ (by decide +kernel)
  revert gone
  decide +kernel

end HttpExchange.Sharing
