import HttpExchange.Client.Sharing
import HttpExchange.Proofs.Client.Pool

/-!
What an exchange does with connections. One event at a time, it takes the connection of its endpoint out of the
pool, gets a new one, keeps the one it talks on, puts it into the pool or orders it closed (`Step`): whatever was in
the pool or in its hands before is in one of these places afterwards (`Step.custody`).
-/
namespace HttpExchange.Exchange
variable {κ : Type} {packing : Packing} {x : Exchange κ} {pool : Pool κ} {event : Event κ} {outcome : Outcome κ}

/-- All that an exchange does on an event. -/
inductive Step (packing : Packing) (x : Exchange κ) (pool : Pool κ) : Event κ → Outcome κ → Prop
  | ignored {event : Event κ} (unasked : ∀ connection, event = .opened connection → x.stage ≠ .opening)
      (silent : ∀ heard, event = .traffic heard → ∀ entry trip, x.stage ≠ .talking entry trip) :
      Step packing x pool event ⟨x, pool, []⟩
  | asks {healthy : κ → Bool} (starting : x.stage = .starting) (absent : pool.find? x.endpoint = none) :
      Step packing x pool (.begin healthy) ⟨x.moved .opening, pool, [.connect]⟩
  | discards {healthy : κ → Bool} {entry : PoolEntry κ} (starting : x.stage = .starting)
      (found : pool.find? x.endpoint = some entry)
      (unfit : healthy entry.connection = true → entry.tlsContext ≠ x.settings.tlsContext) :
      Step packing x pool (.begin healthy)
        ⟨x.moved .opening, pool.without x.endpoint, [.close entry.connection, .connect]⟩
  | claims {healthy : κ → Bool} {entry : PoolEntry κ} (starting : x.stage = .starting)
      (found : pool.find? x.endpoint = some entry) (sound : healthy entry.connection = true)
      (context : entry.tlsContext = x.settings.tlsContext) :
      Step packing x pool (.begin healthy)
        ⟨x.moved (.talking entry .writing), pool.without x.endpoint,
          [.send entry.connection (Wire.serialize x.request)]⟩
  | opens {connection : κ} (opening : x.stage = .opening) :
      Step packing x pool (.opened connection)
        ⟨x.moved (.talking ⟨connection, x.settings.bufferSize, x.settings.tlsContext⟩ .writing), pool,
          [.send connection (Wire.serialize x.request)]⟩
  | refused {failure : Failure} (opening : x.stage = .opening) :
      Step packing x pool (.openFailed failure) ⟨x.finish (.error failure), pool, []⟩
  | goesOn {heard : RoundTrip.Event} {entry : PoolEntry κ} {trip next : RoundTrip}
      (talking : x.stage = .talking entry trip)
      (onward : trip.step x.settings.readTimeout x.ignoresBody heard = next) (going : next.result? = none) :
      Step packing x pool (.traffic heard) ⟨x.moved (.talking entry next), pool, []⟩
  | fails {heard : RoundTrip.Event} {entry : PoolEntry κ} {trip : RoundTrip} {failure : Failure}
      (talking : x.stage = .talking entry trip)
      (failed : trip.step x.settings.readTimeout x.ignoresBody heard = .ended (.error failure)) :
      Step packing x pool (.traffic heard) ⟨x.finish (.error failure), pool, [.close entry.connection]⟩
  | keeps {heard : RoundTrip.Event} {entry : PoolEntry κ} {trip : RoundTrip} {response : Response}
      (talking : x.stage = .talking entry trip)
      (complete : trip.step x.settings.readTimeout x.ignoresBody heard = .ended (.ok response))
      (stays : response.keepAlive = true) :
      Step packing x pool (.traffic heard)
        ⟨x.finish (ContentCoding.decode packing response), (pool.put x.endpoint entry).pool,
          (pool.put x.endpoint entry).closing.map .close⟩
  | parts {heard : RoundTrip.Event} {entry : PoolEntry κ} {trip : RoundTrip} {response : Response}
      (talking : x.stage = .talking entry trip)
      (complete : trip.step x.settings.readTimeout x.ignoresBody heard = .ended (.ok response))
      (leaves : response.keepAlive = false) :
      Step packing x pool (.traffic heard)
        ⟨x.finish (ContentCoding.decode packing response), pool,
          [.shutdown entry.connection, .close entry.connection]⟩
  | gaveUp {entry : PoolEntry κ} {trip : RoundTrip} (talking : x.stage = .talking entry trip) :
      Step packing x pool .cancelled ⟨x.finish (.error .cancelled), pool, [.close entry.connection]⟩
  | withdrew (early : x.stage = .starting ∨ x.stage = .opening) :
      Step packing x pool .cancelled ⟨x.finish (.error .cancelled), pool, []⟩

theorem step_claim (starting : x.stage = .starting) (healthy : κ → Bool) :
    Step packing x pool (.begin healthy) (x.claim pool healthy) := by
  cases found : pool.find? x.endpoint with
  | none =>
    have asks : x.claim pool healthy = ⟨x.moved .opening, pool, [.connect]⟩ := by simp [claim, Pool.claim, found]
    rw [asks]
    exact .asks starting found
  | some entry =>
    by_cases sound : healthy entry.connection = true
    · by_cases context : entry.tlsContext = x.settings.tlsContext
      · have claims : x.claim pool healthy = ⟨x.moved (.talking entry .writing), pool.without x.endpoint,
            [.send entry.connection (Wire.serialize x.request)]⟩ := by
          simp [claim, Pool.claim, found, sound, context, startTalking]
        rw [claims]
        exact .claims starting found sound context
      · have discards : x.claim pool healthy =
            ⟨x.moved .opening, pool.without x.endpoint, [.close entry.connection, .connect]⟩ := by
          simp [claim, Pool.claim, found, sound, context]
        rw [discards]
        exact .discards starting found fun _ => context
    · have discards : x.claim pool healthy =
          ⟨x.moved .opening, pool.without x.endpoint, [.close entry.connection, .connect]⟩ := by
        simp [claim, Pool.claim, found, sound]
      rw [discards]
      exact .discards starting found fun healthy => absurd healthy sound

theorem step_converse {entry : PoolEntry κ} {trip : RoundTrip} (talking : x.stage = .talking entry trip)
    (heard : RoundTrip.Event) :
    Step packing x pool (.traffic heard) (x.converse packing pool entry trip heard) := by
  unfold converse
  split
  · rename_i response complete
    unfold conclude
    split
    · exact .keeps talking complete ‹_›
    · exact .parts talking complete (Bool.eq_false_iff.mpr ‹_›)
  · rename_i failure failed
    exact .fails talking failed
  · rename_i next unfinished unbroken
    refine .goesOn talking rfl ?_
    cases onward : trip.step x.settings.readTimeout x.ignoresBody heard with
    | writing => rfl
    | reading parser => rfl
    | ended result =>
      cases result with
      | ok response => exact absurd onward (unfinished response)
      | error failure => exact absurd onward (unbroken failure)

/-- What an exchange does is one of these. -/
theorem step_outcome (packing : Packing) (x : Exchange κ) (pool : Pool κ) (event : Event κ) :
    Step packing x pool event (x.step packing pool event) := by
  unfold step
  split
  · exact step_claim ‹_› _
  · exact .opens ‹_›
  · exact .refused ‹_›
  · exact step_converse ‹_› _
  · exact .gaveUp ‹_›
  · exact .withdrew (.inl ‹_›)
  · exact .withdrew (.inr ‹_›)
  · rename_i _ unopened _ unheard _ _ _
    exact .ignored (fun connection opened opening => unopened connection opening opened)
      fun heard event entry trip talking => unheard entry trip heard talking event

/-! ### Custody -/

/-- The connection that an exchange talks on. -/
def engaged (x : Exchange κ) : List κ :=
  match x.stage with
  | .talking entry _ => [entry.connection]
  | _ => []

/-- The connection that an event brings to an exchange that waits for one. -/
def brought (x : Exchange κ) (event : Event κ) : List κ :=
  match x.stage, event with
  | .opening, .opened connection => [connection]
  | _, _ => []

theorem closings_append (first second : List (Command κ)) :
    closings (first ++ second) = closings first ++ closings second := List.filterMap_append

theorem closings_map_close (connections : List κ) : closings (connections.map Command.close) = connections := by
  rw [closings, List.filterMap_map]
  exact List.filterMap_some

theorem engaged_of_talking {entry : PoolEntry κ} {trip : RoundTrip} (talking : x.stage = .talking entry trip) :
    x.engaged = [entry.connection] := by
  rw [engaged, talking]

/-- What an exchange is never changes. -/
theorem Step.same (step : Step packing x pool event outcome) :
    outcome.exchange.endpoint = x.endpoint ∧ outcome.exchange.settings = x.settings ∧
      outcome.exchange.request = x.request := by
  cases step <;> exact ⟨rfl, rfl, rfl⟩

theorem Step.keyed (step : Step packing x pool event outcome) (keyed : pool.Keyed) : outcome.pool.Keyed := by
  cases step with
  | discards => exact Pool.keyed_without keyed _
  | claims => exact Pool.keyed_without keyed _
  | keeps => exact Pool.keyed_put keyed _ _
  | _ => exact keyed

theorem brought_eq_nil (unasked : ∀ connection, event = .opened connection → x.stage ≠ .opening) :
    x.brought event = [] := by
  unfold brought
  split
  · exact absurd ‹_› (unasked _ rfl)
  · rfl

theorem brought_opened (opening : x.stage = .opening) (connection : κ) :
    x.brought (.opened connection) = [connection] := by
  simp only [brought, opening]

theorem engaged_eq_nil (silent : ∀ entry trip, x.stage ≠ .talking entry trip) : x.engaged = [] := by
  unfold engaged
  split
  · exact absurd ‹_› (silent _ _)
  · rfl

/-- Whatever was in the pool or in the hands of the exchange, or came to it, is in the pool, in its hands or to be
closed. -/
theorem Step.custody (step : Step packing x pool event outcome) (keyed : pool.Keyed) :
    (x.brought event ++ x.engaged ++ pool.connections).Perm
      (outcome.exchange.engaged ++ closings outcome.commands ++ outcome.pool.connections) := by
  cases step with
  | ignored unasked silent =>
    rw [brought_eq_nil unasked]
    simp [closings]
  | asks starting absent =>
    rw [brought_eq_nil (by simp), engaged_eq_nil (by simp [starting])]
    exact .refl _
  | discards starting found unfit =>
    rw [brought_eq_nil (by simp), engaged_eq_nil (by simp [starting])]
    exact Pool.connections_of_find? keyed found
  | claims starting found sound context =>
    rw [brought_eq_nil (by simp), engaged_eq_nil (by simp [starting])]
    exact Pool.connections_of_find? keyed found
  | opens opening =>
    rw [brought_opened opening, engaged_eq_nil (by simp [opening])]
    exact .refl _
  | refused opening =>
    rw [brought_eq_nil (by simp), engaged_eq_nil (by simp [opening])]
    exact .refl _
  | goesOn talking onward going =>
    rw [brought_eq_nil (by simp), engaged_of_talking talking]
    exact .refl _
  | fails talking failed =>
    rw [brought_eq_nil (by simp), engaged_of_talking talking]
    exact .refl _
  | @keeps heard entry trip response talking complete stays =>
    rw [brought_eq_nil (by simp), engaged_of_talking talking, closings_map_close]
    exact Pool.connections_put keyed x.endpoint entry
  | parts talking complete leaves =>
    rw [brought_eq_nil (by simp), engaged_of_talking talking]
    exact .refl _
  | gaveUp talking =>
    rw [brought_eq_nil (by simp), engaged_of_talking talking]
    exact .refl _
  | withdrew early =>
    rw [brought_eq_nil (by simp), engaged_eq_nil (by rcases early with early | early <;> simp [early])]
    exact .refl _

/-- What is in the pool was there before, or it is the connection that the exchange talked on. -/
theorem Step.pooled (step : Step packing x pool event outcome) {endpoint : Endpoint} {entry : PoolEntry κ}
    (member : (endpoint, entry) ∈ outcome.pool.entries) :
    (endpoint, entry) ∈ pool.entries ∨
      (endpoint = x.endpoint ∧ ∃ trip heard response, x.stage = .talking entry trip ∧ event = .traffic heard ∧
        trip.step x.settings.readTimeout x.ignoresBody heard = .ended (.ok response)) := by
  cases step with
  | discards => exact .inl (Pool.mem_without.mp member).1
  | claims => exact .inl (Pool.mem_without.mp member).1
  | keeps talking complete stays =>
    rcases Pool.mem_put.mp member with ⟨before, -⟩ | ⟨rfl, rfl⟩
    · exact .inl before
    · exact .inr ⟨rfl, _, _, _, talking, rfl, complete⟩
  | _ => exact .inl member

end HttpExchange.Exchange
