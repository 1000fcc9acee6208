import HttpExchange.Proofs.Client.Ownership

/-!
What a failed exchange leaves behind. Whatever was in the pool before, and whatever peers and other exchanges do, the
connections that it had in its hands are released and idle nowhere once its orders are carried out. There is one
exception: a response that was read whole and keeps its connection puts it into the pool before its body is unpacked,
and it stays there if the body does not unpack.
-/
namespace HttpExchange
open Exchange (closings)

namespace Exchange
variable {κ : Type} {packing : Packing} {x : Exchange κ} {pool : Pool κ} {event : Event κ} {outcome : Outcome κ}

/-- No event that an exchange takes in changes what is idle for other endpoints. -/
theorem Step.without (step : Step packing x pool event outcome) :
    outcome.pool.without x.endpoint = pool.without x.endpoint := by
  cases step with
  | discards => exact Pool.without_without pool x.endpoint
  | claims => exact Pool.without_without pool x.endpoint
  | keeps => exact Pool.without_put pool x.endpoint _
  | _ => rfl

/-- The connection that an exchange talks on stays in its hands or is to be closed, unless a response that was read
whole keeps it. -/
theorem Step.talks (step : Step packing x pool event outcome) {connection : κ} (talks : connection ∈ x.engaged) :
    connection ∈ outcome.exchange.engaged ++ closings outcome.commands ∨
      ∃ heard entry trip response, event = .traffic heard ∧ x.stage = .talking entry trip ∧
        entry.connection = connection ∧
          trip.step x.settings.readTimeout x.ignoresBody heard = .ended (.ok response) ∧ response.keepAlive = true := by
  have silent : ∀ {goal : Prop}, (∀ entry trip, x.stage ≠ .talking entry trip) → goal := by
    intro goal idle
    rw [engaged_eq_nil idle] at talks
    cases talks
  cases step with
  | ignored => exact .inl (List.mem_append_left _ talks)
  | asks starting => exact silent (by simp [starting])
  | discards starting => exact silent (by simp [starting])
  | claims starting => exact silent (by simp [starting])
  | opens opening => exact silent (by simp [opening])
  | refused opening => exact silent (by simp [opening])
  | goesOn talking =>
    rw [engaged_of_talking talking] at talks
    exact .inl (List.mem_append_left _ talks)
  | fails talking =>
    rw [engaged_of_talking talking] at talks
    exact .inl (List.mem_append_right _ talks)
  | keeps talking complete stays =>
    rw [engaged_of_talking talking, List.mem_singleton] at talks
    exact .inr ⟨_, _, _, _, rfl, talking, talks.symm, complete, stays⟩
  | parts talking =>
    rw [engaged_of_talking talking] at talks
    exact .inl (List.mem_append_right _ talks)
  | gaveUp talking =>
    rw [engaged_of_talking talking] at talks
    exact .inl (List.mem_append_right _ talks)
  | withdrew early => exact silent (by rcases early with early | early <;> simp [early])

/-- An exchange that has ended takes in nothing more. -/
theorem step_of_ended {result : Except Failure Response} (ended : x.stage = .ended result) (packing : Packing)
    (pool : Pool κ) (event : Event κ) : x.step packing pool event = ⟨x, pool, []⟩ := by
  unfold step
  simp only [ended]

end Exchange

namespace Sharing
variable {packing : Packing} {s s' : Sharing} {action : Action} {i l : Nat} {party : Party}

/-! ### Places -/

/-- Connections wherever they are: idle, or in the hands of an exchange. -/
def places (s : Sharing) : List Nat := s.pool.connections ++ s.parties.flatMap Party.held

/-- What the exchange of a number has in its hands. -/
def inHands (s : Sharing) (i : Nat) : List Nat := (s.parties[i]?.map Party.held).getD []

/-- Every connection is in one place at most and was opened, and no endpoint has two idle ones. -/
structure Owned (s : Sharing) : Prop where
  keyed : s.pool.Keyed
  once : s.places.Nodup
  known : ∀ l ∈ s.places, l < s.lines.length

/-- A connection that was opened is released and nowhere to be found. -/
structure Gone (s : Sharing) (l : Nat) : Prop where
  released : s.isOpen l = false
  known : l < s.lines.length
  nowhere : l ∉ s.places

theorem inHands_eq (found : s.parties[i]? = some party) : s.inHands i = party.held := by
  rw [inHands, found]
  rfl

theorem mem_places_of_inHands (held : l ∈ s.inHands i) : l ∈ s.places := by
  rw [inHands] at held
  cases found : s.parties[i]? with
  | none => simp [found] at held
  | some party =>
    rw [found] at held
    exact List.mem_append_right _ (List.mem_flatMap.mpr ⟨party, List.mem_of_getElem? found, held⟩)

/-- One exchange and the pool change together. -/
theorem count_places_set (found : s.parties[i]? = some party) (party' : Party) (pool' : Pool Nat) (lines' : List Line)
    (l : Nat) :
    (⟨pool', s.parties.set i party', lines'⟩ : Sharing).places.count l +
        (s.pool.connections.count l + party.held.count l) =
      s.places.count l + (pool'.connections.count l + party'.held.count l) := by
  have moved := (Replacement.flatMap_set found party' Party.held).count_eq l
  simp only [places, List.count_append] at moved ⊢
  omega

/-- An exchange that takes in an event moves connections, and one may come to it. -/
theorem count_places_deliver (keyed : s.pool.Keyed) (found : s.parties[i]? = some party) (event : Exchange.Event Nat)
    (l : Nat) :
    (s.deliver packing i party event).places.count l = s.places.count l + (party.exchange.brought event).count l := by
  have moved := ((Exchange.step_outcome packing party.exchange s.pool event).custody keyed).count_eq l
  have changed := count_places_set found
    ⟨(party.exchange.step packing s.pool event).exchange, none,
      party.orders ++ (party.exchange.step packing s.pool event).commands⟩
    (party.exchange.step packing s.pool event).pool s.lines l
  simp only [Party.held, Exchange.closings_append, List.count_append] at moved changed
  rw [deliver]
  omega

/-- What an action does to places: nothing comes to any of them but a connection that was just opened. -/
theorem Step.places (owned : s.Owned) (step : Step packing s action s') :
    s'.pool.Keyed ∧ ∀ l, s'.places.count l ≤ s.places.count l ∨
      l = s.lines.length ∧ l < s'.lines.length ∧ s'.places.count l ≤ 1 := by
  have delivered : ∀ {i : Nat} {party : Party} {event : Exchange.Event Nat}, s.parties[i]? = some party →
      (∀ connection, event ≠ .opened connection) →
      (s.deliver packing i party event).pool.Keyed ∧
        ∀ l, (s.deliver packing i party event).places.count l ≤ s.places.count l := by
    intro i party event found unasked
    refine ⟨(Exchange.step_outcome packing party.exchange s.pool event).keyed owned.keyed, fun l => ?_⟩
    rw [count_places_deliver owned.keyed found,
      Exchange.brought_eq_nil fun connection asked => absurd asked (unasked connection)]
    exact Nat.le_refl _
  cases step with
  | begin found => exact (delivered found (by simp)).imp_right fun fewer l => .inl (fewer l)
  | @obey i party order rest found orders =>
    refine ⟨owned.keyed, fun l => .inl ?_⟩
    have changed := count_places_set found { party with orders := rest } s.pool
      (Sharing.obey i party.exchange.request s.lines order) l
    have fewer : ({ party with orders := rest } : Party).held.count l ≤ party.held.count l := by
      have split : closings (order :: rest) = closings [order] ++ closings rest := Exchange.closings_append [order] rest
      simp only [Party.held, orders, split, List.count_append]
      omega
    omega
  | @opened i party found opening idle =>
    have keyed := (Exchange.step_outcome packing party.exchange s.pool (.opened s.lines.length)).keyed owned.keyed
    refine ⟨keyed, fun l => ?_⟩
    have changed : _ = s.places.count l + (party.exchange.brought (.opened s.lines.length)).count l :=
      @count_places_deliver packing s i party owned.keyed found (.opened s.lines.length) l
    rw [Exchange.brought_opened opening] at changed
    by_cases new : l = s.lines.length
    · subst new
      have absent : s.places.count s.lines.length = 0 :=
        List.count_eq_zero.mpr fun member => absurd (owned.known _ member) (Nat.lt_irrefl _)
      rw [absent, List.count_singleton_self] at changed
      exact .inr ⟨rfl, by simp [deliver], Nat.le_of_eq changed⟩
    · have other : [s.lines.length].count l = 0 := List.count_eq_zero.mpr (by simpa using new)
      rw [other] at changed
      exact .inl (Nat.le_of_eq changed)
  | openFailed found => exact (delivered found (by simp)).imp_right fun fewer l => .inl (fewer l)
  | @traffic i event party entry trip found =>
    refine ⟨owned.keyed, fun l => .inl ?_⟩
    have changed := count_places_set found { party with news := some event } s.pool s.lines l
    have same : ({ party with news := some event } : Party).held = party.held := rfl
    rw [same] at changed
    exact Nat.le_of_eq (Nat.add_right_cancel changed)
  | @read i count party entry parser line piece socket found =>
    refine ⟨owned.keyed, fun l => .inl ?_⟩
    have changed := count_places_set found { party with news := some (.received piece) } s.pool
      (s.lines.set entry.connection { line with socket }) l
    have same : ({ party with news := some (.received piece) } : Party).held = party.held := rfl
    rw [same] at changed
    exact Nat.le_of_eq (Nat.add_right_cancel changed)
  | react found => exact (delivered found (by simp)).imp_right fun fewer l => .inl (fewer l)
  | @cancelled i party outcome found gaveUp =>
    obtain ⟨pool, engaged, -⟩ := @closings_of_cancelled packing party s.pool
    rw [gaveUp] at pool engaged
    rw [pool]
    refine ⟨owned.keyed, fun l => .inl ?_⟩
    have changed := count_places_set found ⟨outcome.exchange, none, []⟩ s.pool
      (release s.lines (closings (party.orders ++ outcome.commands))) l
    have nothing : (⟨outcome.exchange, none, []⟩ : Party).held = [] := by
      rw [Party.held, engaged]
      rfl
    rw [nothing, List.count_nil] at changed
    omega
  | answered => exact ⟨owned.keyed, fun l => .inl (Nat.le_refl _)⟩
  | hungUp => exact ⟨owned.keyed, fun l => .inl (Nat.le_refl _)⟩
  | stirred => exact ⟨owned.keyed, fun l => .inl (Nat.le_refl _)⟩
  | @remove endpoint =>
    refine ⟨Pool.keyed_without owned.keyed endpoint, fun l => .inl ?_⟩
    have moved := (Pool.connections_remove owned.keyed endpoint).count_eq l
    simp only [Sharing.places, List.count_append] at moved ⊢
    omega
  | clear =>
    refine ⟨Pool.keyed_empty, fun l => .inl ?_⟩
    simp only [Sharing.places, List.count_append]
    exact Nat.add_le_add_right (Nat.zero_le _) _

theorem length_le_of_onward {lines lines' : List Line} (onward : Onward lines lines') :
    lines.length ≤ lines'.length := by
  by_contra shorter
  have last : lines'.length < lines.length := Nat.lt_of_not_le shorter
  obtain ⟨later, there, -⟩ := onward lines'.length lines[lines'.length] (List.getElem?_eq_getElem last)
  rw [List.getElem?_eq_none (Nat.le_refl _)] at there
  cases there

theorem Owned.step (owned : s.Owned) (step : Step packing s action s') : s'.Owned := by
  obtain ⟨keyed, places⟩ := step.places owned
  have longer := length_le_of_onward step.onward
  refine ⟨keyed, List.nodup_iff_count_le_one.mpr fun l => ?_, fun l member => ?_⟩
  · rcases places l with fewer | ⟨-, -, one⟩
    · exact Nat.le_trans fewer (List.nodup_iff_count_le_one.mp owned.once l)
    · exact one
  · rcases places l with fewer | ⟨-, inside, -⟩
    · have positive := List.count_pos_iff.mpr member
      exact Nat.lt_of_lt_of_le (owned.known l (List.count_pos_iff.mp (Nat.lt_of_lt_of_le positive fewer))) longer
    · exact inside

theorem Gone.step (gone : s.Gone l) (owned : s.Owned) (step : Step packing s action s') : s'.Gone l := by
  refine ⟨?_, Nat.lt_of_lt_of_le gone.known (length_le_of_onward step.onward), fun member => ?_⟩
  · have inside := gone.known
    have released := gone.released
    obtain ⟨later, there, onward⟩ := step.onward l s.lines[l] (List.getElem?_eq_getElem inside)
    have none : s.lines[l].socket.stream = none := by simpa [isOpen, inside] using released
    simp [isOpen, there, onward.released none]
  · rcases (step.places owned).2 l with fewer | ⟨new, -, -⟩
    · have positive := List.count_pos_iff.mpr member
      exact gone.nowhere (List.count_pos_iff.mp (Nat.lt_of_lt_of_le positive fewer))
    · exact absurd gone.known (by omega)

/-! ### What is in the hands of an exchange -/

/-- The exchange has what completes its response, and the response keeps the connection. -/
def Keeping (s : Sharing) (i l : Nat) (response : Response) : Prop :=
  ∃ party entry trip heard, s.parties[i]? = some party ∧ party.exchange.stage = .talking entry trip ∧
    entry.connection = l ∧ party.news = some heard ∧
      trip.step party.exchange.settings.readTimeout party.exchange.ignoresBody heard = .ended (.ok response) ∧
        response.keepAlive = true

/-- What an exchange released itself, and had in its hands, is nowhere. -/
theorem Owned.gone (owned : s.Owned) (found : s.parties[i]? = some party) (held : l ∈ party.held) (party' : Party)
    {closing : List Nat} (closes : l ∈ closing) (left : party'.held.count l + 1 ≤ party.held.count l) :
    (⟨s.pool, s.parties.set i party', release s.lines closing⟩ : Sharing).Gone l := by
  have inside := mem_places_of_inHands (inHands_eq found ▸ held)
  have changed := count_places_set found party' s.pool (release s.lines closing) l
  have once := List.nodup_iff_count_le_one.mp owned.once l
  refine ⟨?_, ?_, fun member => ?_⟩
  · rw [← inUse_uses]
    exact inUse_release s.lines closes
  · exact Nat.lt_of_lt_of_le (owned.known l inside) (length_le_of_onward (onward_release s.lines closing))
  · have positive := List.count_pos_iff.mpr member
    omega

/-- A connection in the hands of an exchange stays there, is released, or is kept for its endpoint. -/
theorem Owned.inHands_step (owned : s.Owned) (step : Step packing s action s') (held : l ∈ s.inHands i) :
    l ∈ s'.inHands i ∨ s'.Gone l ∨ action = .react i ∧ ∃ response, s.Keeping i l response := by
  -- Whoever acts, the others keep what they have.
  have elsewhere : ∀ {j : Nat} (party' : Party) (pool' : Pool Nat) (lines' : List Line), j ≠ i →
      l ∈ (⟨pool', s.parties.set j party', lines'⟩ : Sharing).inHands i := by
    intro j party' pool' lines' apart
    rw [inHands, List.getElem?_set_ne apart]
    exact held
  have here : ∀ {party : Party} (party' : Party) (pool' : Pool Nat) (lines' : List Line),
      s.parties[i]? = some party → l ∈ party'.held →
        l ∈ (⟨pool', s.parties.set i party', lines'⟩ : Sharing).inHands i := by
    intro party party' pool' lines' found inside
    obtain ⟨within, -⟩ := List.getElem?_eq_some_iff.mp found
    rw [inHands_eq (s := ⟨pool', s.parties.set i party', lines'⟩) (List.getElem?_set_self within)]
    exact inside
  have delivered : ∀ {j : Nat} {party : Party} {event : Exchange.Event Nat} (lines' : List Line),
      s.parties[j]? = some party →
      l ∈ (({ s with lines := lines' } : Sharing).deliver packing j party event).inHands i ∨
        j = i ∧ ∃ heard entry trip response, event = .traffic heard ∧ party.exchange.stage = .talking entry trip ∧
          entry.connection = l ∧
            trip.step party.exchange.settings.readTimeout party.exchange.ignoresBody heard = .ended (.ok response) ∧
              response.keepAlive = true := by
    intro j party event lines' found
    by_cases same : j = i
    · subst same
      rw [inHands_eq found, Party.held, List.mem_append] at held
      rcases held with talks | closes
      · rcases (Exchange.step_outcome packing party.exchange s.pool event).talks talks with stays | keeps
        · refine .inl (here _ _ _ found ?_)
          rw [Party.held, Exchange.closings_append]
          rcases List.mem_append.mp stays with engaged | closing
          · exact List.mem_append_left _ engaged
          · exact List.mem_append_right _ (List.mem_append_right _ closing)
        · exact .inr ⟨rfl, keeps⟩
      · refine .inl (here _ _ _ found ?_)
        rw [Party.held, Exchange.closings_append]
        exact List.mem_append_right _ (List.mem_append_left _ closes)
    · exact .inl (elsewhere _ _ _ same)
  cases step with
  | begin found =>
    rcases delivered s.lines found with stays | ⟨-, _, _, _, _, traffic, -⟩
    · exact .inl stays
    · cases traffic
  | @obey j party order rest found orders =>
    by_cases same : j = i
    · subst same
      have split : closings party.orders = closings [order] ++ closings rest := by
        rw [orders]
        exact Exchange.closings_append [order] rest
      have counts : party.held.count l =
          ({ party with orders := rest } : Party).held.count l + (closings [order]).count l := by
        simp only [Party.held, split, List.count_append]
        omega
      rw [inHands_eq found] at held
      by_cases closes : l ∈ closings [order]
      · obtain rfl : order = .close l := by
          cases order <;> simp [closings] at closes
          rw [closes]
        have fewer : ({ party with orders := rest } : Party).held.count l + 1 ≤ party.held.count l := by
          simp [counts, closings]
        exact .inr (.inl (owned.gone found held { party with orders := rest } (List.mem_singleton_self l) fewer))
      · refine .inl (here _ _ _ found ?_)
        rw [List.count_eq_zero.mpr closes, Nat.add_zero] at counts
        have positive := List.count_pos_iff.mpr held
        rw [counts] at positive
        exact List.count_pos_iff.mp positive
    · exact .inl (elsewhere _ _ _ same)
  | @opened j party found opening idle =>
    rcases delivered (s.lines ++ [.fresh party.exchange.endpoint party.exchange.settings.tlsContext]) found with
      stays | ⟨-, _, _, _, _, traffic, -⟩
    · exact .inl stays
    · cases traffic
  | openFailed found =>
    rcases delivered s.lines found with stays | ⟨-, _, _, _, _, traffic, -⟩
    · exact .inl stays
    · cases traffic
  | @traffic j event party entry trip found =>
    by_cases same : j = i
    · subst same
      rw [inHands_eq found] at held
      exact .inl (here { party with news := some event } _ _ found held)
    · exact .inl (elsewhere _ _ _ same)
  | @read j count party entry parser line piece socket found =>
    by_cases same : j = i
    · subst same
      rw [inHands_eq found] at held
      exact .inl (here { party with news := some (.received piece) } _ _ found held)
    · exact .inl (elsewhere _ _ _ same)
  | @react j party event found news =>
    rcases delivered s.lines found with stays |
        ⟨rfl, heard, entry, trip, response, traffic, talking, rfl, complete, keeps⟩
    · exact .inl stays
    · cases traffic
      exact .inr (.inr ⟨rfl, response, party, entry, trip, event, found, talking, rfl, news, complete, keeps⟩)
  | @cancelled j party outcome found gaveUp =>
    by_cases same : j = i
    · subst same
      obtain ⟨pool, engaged, closes⟩ := @closings_of_cancelled packing party s.pool
      rw [gaveUp] at pool engaged closes
      rw [inHands_eq found] at held
      have nothing : (⟨outcome.exchange, none, []⟩ : Party).held = [] := by
        rw [Party.held, engaged]
        rfl
      rw [pool]
      refine .inr (.inl (owned.gone found held _ (closes.mem_iff.mp held) ?_))
      rw [nothing, List.count_nil]
      exact List.count_pos_iff.mpr held
    · exact .inl (elsewhere _ _ _ same)
  | answered => exact .inl held
  | hungUp => exact .inl held
  | stirred => exact .inl held
  | remove => exact .inl held
  | clear => exact .inl held

/-! ### Every run -/

theorem run_append (packing : Packing) (s : Sharing) (actions more : List Action) :
    s.run packing (actions ++ more) = (s.run packing actions).run packing more := List.foldl_append

/-- Before anything is done no connection is anywhere, so every run from the start is through such states. -/
theorem owned_start (exchanges : List (Exchange Nat)) : (start exchanges).Owned := by
  have nowhere : (start exchanges).places = [] := by
    rw [places, List.append_eq_nil_iff]
    refine ⟨rfl, List.flatMap_eq_nil_iff.mpr fun party member => ?_⟩
    obtain ⟨x, -, rfl⟩ := List.mem_map.mp member
    rfl
  refine ⟨Pool.keyed_empty, nowhere ▸ List.nodup_nil, fun l member => ?_⟩
  rw [nowhere] at member
  cases member

theorem Owned.after (owned : s.Owned) (packing : Packing) (action : Action) : (s.after packing action).Owned := by
  rcases step_after packing s action with same | step
  · rwa [same]
  · exact owned.step step

theorem Owned.run (owned : s.Owned) (packing : Packing) (actions : List Action) : (s.run packing actions).Owned := by
  induction actions generalizing s with
  | nil => exact owned
  | cons action rest ih => exact ih (owned.after packing action)

theorem Gone.run (gone : s.Gone l) (owned : s.Owned) (packing : Packing) (actions : List Action) :
    (s.run packing actions).Gone l := by
  induction actions generalizing s with
  | nil => exact gone
  | cons action rest ih =>
    refine ih ?_ (owned.after packing action)
    rcases step_after packing s action with same | step
    · rwa [same]
    · exact gone.step owned step

/-- A connection that was in the hands of an exchange is still there, gone, or was kept for its endpoint on the way. -/
theorem Owned.inHands_run (owned : s.Owned) (held : l ∈ s.inHands i) (packing : Packing) (actions : List Action) :
    l ∈ (s.run packing actions).inHands i ∨ (s.run packing actions).Gone l ∨
      ∃ before later response, actions = before ++ .react i :: later ∧ (s.run packing before).Keeping i l response := by
  induction actions generalizing s with
  | nil => exact .inl held
  | cons action rest ih =>
    have onward : l ∈ (s.after packing action).inHands i ∨ (s.after packing action).Gone l ∨
        action = .react i ∧ ∃ response, s.Keeping i l response := by
      rcases step_after packing s action with same | step
      · rw [same]
        exact .inl held
      · exact owned.inHands_step step held
    rcases onward with stays | gone | ⟨rfl, response, keeping⟩
    · rcases ih (owned.after packing action) stays with last | gone | ⟨before, later, response, rfl, keeping⟩
      · exact .inl last
      · exact .inr (.inl gone)
      · exact .inr (.inr ⟨action :: before, later, response, rfl, keeping⟩)
    · exact .inr (.inl (gone.run (owned.after packing action) packing rest))
    · exact .inr (.inr ⟨[], rest, response, rfl, keeping⟩)

/-- What becomes of an exchange: its endpoint stays, and so does its end. -/
structure Lasting (party later : Party) : Prop where
  endpoint : later.exchange.endpoint = party.exchange.endpoint
  ended : ∀ result, party.exchange.stage = .ended result → later.exchange.stage = .ended result

theorem Lasting.refl (party : Party) : Lasting party party := ⟨rfl, fun _ => id⟩

theorem Step.lasting (step : Step packing s action s') (found : s.parties[i]? = some party) :
    ∃ later, s'.parties[i]? = some later ∧ Lasting party later := by
  have delivered : ∀ {j : Nat} {other : Party} {event : Exchange.Event Nat} {pool : Pool Nat}
      {orders : List (Exchange.Command Nat)}, s.parties[j]? = some other →
      ∃ later, (s.parties.set j ⟨(other.exchange.step packing pool event).exchange, none, orders⟩)[i]? = some later ∧
        Lasting party later := by
    intro j other event pool orders there
    refine Replacement.set_related Lasting.refl there ⟨?_, fun result ended => ?_⟩ found
    · exact (Exchange.step_outcome packing other.exchange pool event).same.1
    · rw [Exchange.step_of_ended ended]
      exact ended
  have unmoved : ∀ {j : Nat} {other : Party} (news : Option RoundTrip.Event) (orders : List (Exchange.Command Nat)),
      s.parties[j]? = some other →
      ∃ later, (s.parties.set j ⟨other.exchange, news, orders⟩)[i]? = some later ∧ Lasting party later := by
    intro j other news orders there
    have related : Lasting other ⟨other.exchange, news, orders⟩ := ⟨rfl, fun _ => id⟩
    exact Replacement.set_related Lasting.refl there related found
  cases step with
  | begin there => exact delivered there
  | obey there => exact unmoved _ _ there
  | opened there => exact delivered there
  | openFailed there => exact delivered there
  | traffic there => exact unmoved _ _ there
  | read there => exact unmoved _ _ there
  | react there => exact delivered there
  | cancelled there gaveUp => exact gaveUp ▸ delivered there
  | answered => exact ⟨party, found, .refl party⟩
  | hungUp => exact ⟨party, found, .refl party⟩
  | stirred => exact ⟨party, found, .refl party⟩
  | remove => exact ⟨party, found, .refl party⟩
  | clear => exact ⟨party, found, .refl party⟩

theorem lasting_run (found : s.parties[i]? = some party) (packing : Packing) (actions : List Action) :
    ∃ later, (s.run packing actions).parties[i]? = some later ∧ Lasting party later := by
  induction actions generalizing s party with
  | nil => exact ⟨party, found, .refl party⟩
  | cons action rest ih =>
    obtain ⟨next, there, first⟩ : ∃ next, (s.after packing action).parties[i]? = some next ∧ Lasting party next := by
      rcases step_after packing s action with same | step
      · rw [same]
        exact ⟨party, found, .refl party⟩
      · exact step.lasting found
    obtain ⟨last, here, second⟩ := ih there
    exact ⟨last, here, second.endpoint.trans first.endpoint, fun result ended =>
      second.ended result (first.ended result ended)⟩

/-- A response that is read whole and keeps its connection ends the exchange with what it unpacks to, and the
connection is the idle one of the endpoint. -/
theorem Keeping.after {response : Response} (keeping : s.Keeping i l response) (packing : Packing)
    (found : s.parties[i]? = some party) :
    (∃ later, (s.after packing (.react i)).parties[i]? = some later ∧
        later.exchange.stage = .ended (ContentCoding.decode packing response)) ∧
      ∃ entry, entry.connection = l ∧
        (s.after packing (.react i)).pool.find? party.exchange.endpoint = some entry := by
  obtain ⟨other, entry, trip, heard, there, talking, rfl, news, complete, keeps⟩ := keeping
  obtain rfl := Option.some.inj (there.symm.trans found)
  obtain ⟨inside, -⟩ := List.getElem?_eq_some_iff.mp found
  have moved : s.after packing (.react i) = s.deliver packing i other (.traffic heard) := by
    simp only [Sharing.after, step?, found, news, Option.bind_eq_bind, Option.bind_some, Option.getD_some]
  have outcome : other.exchange.step packing s.pool (.traffic heard) =
      ⟨other.exchange.finish (ContentCoding.decode packing response), (s.pool.put other.exchange.endpoint entry).pool,
        (s.pool.put other.exchange.endpoint entry).closing.map .close⟩ := by
    simp only [Exchange.step, talking, Exchange.converse, complete, Exchange.conclude, keeps, if_true]
    rfl
  rw [moved, deliver, outcome]
  exact ⟨⟨_, List.getElem?_set_self inside, rfl⟩, entry, rfl, Pool.find?_put s.pool other.exchange.endpoint entry⟩

/-! ### Other endpoints -/

/-- The action is one of the exchange of a number or of a peer. -/
def Action.isNear (i : Nat) : Action → Bool
  | .begin j | .obey j | .opened j | .openFailed j _ | .traffic j _ | .read j _ | .react j | .cancelled j => j == i
  | .answered _ _ | .hungUp _ | .stirred _ _ => true
  | .remove _ | .clear => false

/-- All that an exchange and the peers do to the pool is what the exchange makes of an event. -/
theorem Step.near (step : Step packing s action s') (near : action.isNear i) (found : s.parties[i]? = some party) :
    s'.pool = s.pool ∨ ∃ event, s'.pool = (party.exchange.step packing s.pool event).pool := by
  have mine : ∀ {j : Nat} {other : Party}, (j == i) = true → s.parties[j]? = some other → other = party := by
    intro j other same there
    obtain rfl := beq_iff_eq.mp same
    exact Option.some.inj (there.symm.trans found)
  cases step with
  | begin there =>
    obtain rfl := mine near there
    exact .inr ⟨_, rfl⟩
  | obey => exact .inl rfl
  | opened there =>
    obtain rfl := mine near there
    exact .inr ⟨_, rfl⟩
  | openFailed there =>
    obtain rfl := mine near there
    exact .inr ⟨_, rfl⟩
  | traffic => exact .inl rfl
  | read => exact .inl rfl
  | react there =>
    obtain rfl := mine near there
    exact .inr ⟨_, rfl⟩
  | cancelled there gaveUp =>
    obtain rfl := mine near there
    exact .inr ⟨.cancelled, by rw [gaveUp]⟩
  | answered => exact .inl rfl
  | hungUp => exact .inl rfl
  | stirred => exact .inl rfl
  | remove => cases near
  | clear => cases near

theorem without_after (packing : Packing) (near : action.isNear i) (found : s.parties[i]? = some party) :
    (s.after packing action).pool.without party.exchange.endpoint = s.pool.without party.exchange.endpoint := by
  rcases step_after packing s action with same | step
  · rw [same]
  · rcases step.near near found with unchanged | ⟨event, changed⟩
    · rw [unchanged]
    · rw [changed]
      exact (Exchange.step_outcome packing party.exchange s.pool event).without

theorem pool_after_of_ended (packing : Packing) (near : action.isNear i) (found : s.parties[i]? = some party)
    {result : Except Failure Response} (ended : party.exchange.stage = .ended result) :
    (s.after packing action).pool = s.pool := by
  rcases step_after packing s action with same | step
  · rw [same]
  · rcases step.near near found with unchanged | ⟨event, changed⟩
    · exact unchanged
    · rw [changed, Exchange.step_of_ended ended]

/-- What an exchange and the peers do leaves the connections of other endpoints idle as they were. -/
theorem without_run (packing : Packing) {actions : List Action} (near : ∀ action ∈ actions, action.isNear i)
    (found : s.parties[i]? = some party) :
    (s.run packing actions).pool.without party.exchange.endpoint = s.pool.without party.exchange.endpoint := by
  induction actions generalizing s party with
  | nil => rfl
  | cons action rest ih =>
    have first := without_after packing (near action (by simp)) found
    obtain ⟨later, there, lasting⟩ := lasting_run found packing [action]
    have onward := ih (fun action member => near action (by simp [member])) there
    rw [lasting.endpoint] at onward
    exact onward.trans first

theorem pool_run_of_ended (packing : Packing) {actions : List Action} (near : ∀ action ∈ actions, action.isNear i)
    (found : s.parties[i]? = some party) {result : Except Failure Response}
    (ended : party.exchange.stage = .ended result) : (s.run packing actions).pool = s.pool := by
  induction actions generalizing s party with
  | nil => rfl
  | cons action rest ih =>
    have first := pool_after_of_ended packing (near action (by simp)) found ended
    obtain ⟨later, there, lasting⟩ := lasting_run found packing [action]
    exact (ih (fun action member => near action (by simp [member])) there (lasting.ended result ended)).trans first

/-! ### Failures -/

/-- The exchange has a response that was read whole and keeps the connection, but its body does not unpack. -/
def Undecodable (packing : Packing) (s : Sharing) (i l : Nat) (failure : Failure) : Prop :=
  ∃ response, s.Keeping i l response ∧ ContentCoding.decode packing response = .error failure

/-- An exchange had the connection in its hands, in the end or on the way. -/
def HadInHands (packing : Packing) (s : Sharing) (actions : List Action) (i l : Nat) : Prop :=
  ∃ before later, actions = before ++ later ∧ l ∈ (s.run packing before).inHands i

/-- The exchange came to its end with a response that was read whole and keeps the connection, but does not unpack. -/
def LeftIdle (packing : Packing) (s : Sharing) (actions : List Action) (i l : Nat) (failure : Failure) : Prop :=
  ∃ before later, actions = before ++ .react i :: later ∧ (s.run packing before).Undecodable packing i l failure

/-- What a failed exchange leaves, its orders carried out. -/
structure Parted (packing : Packing) (s : Sharing) (actions : List Action) (i : Nat) (endpoint : Endpoint)
    (failure : Failure) : Prop where
  /-- Whatever it had in its hands is released and idle nowhere, unless it was left idle by a body that does not
  unpack. -/
  closed : ∀ l, HadInHands packing s actions i l →
    ((s.run packing actions).isOpen l = false ∧ l ∉ (s.run packing actions).pool.connections) ∨
      LeftIdle packing s actions i l failure
  /-- A body that does not unpack leaves the connection in the pool. -/
  left : ∀ before later l, actions = before ++ .react i :: later →
    (s.run packing before).Undecodable packing i l failure →
      ∃ entry, entry.connection = l ∧
        ((s.run packing before).after packing (.react i)).pool.find? endpoint = some entry
  /-- Nothing that the exchange or a peer does changes what is idle for other endpoints. -/
  others : ∀ before action later, actions = before ++ action :: later → action.isNear i →
    ((s.run packing before).after packing action).pool.without endpoint = (s.run packing before).pool.without endpoint
  /-- With nobody else about, the pool holds for other endpoints what it held before, and the connection is released
  and idle nowhere exactly if it was not left idle. -/
  alone : (∀ action ∈ actions, action.isNear i) →
    (s.run packing actions).pool.without endpoint = s.pool.without endpoint ∧
      ∀ l, HadInHands packing s actions i l →
        (((s.run packing actions).isOpen l = false ∧ l ∉ (s.run packing actions).pool.connections) ↔
          ¬ LeftIdle packing s actions i l failure)

theorem stage_of_result? {x : Exchange Nat} {result : Except Failure Response} (done : x.result? = some result) :
    x.stage = .ended result := by
  unfold Exchange.result? at done
  split at done
  · rename_i other ended
    rw [ended, Option.some.inj done]
  · cases done

/-- What an exchange had in its hands is gone when it has failed, or was left idle. -/
theorem Owned.closed (owned : s.Owned) (packing : Packing) {actions : List Action} {last : Party}
    (began : s.parties[i]? = some party) (found : (s.run packing actions).parties[i]? = some last) {failure : Failure}
    (failed : last.exchange.stage = .ended (.error failure)) (idle : last.orders = [])
    (had : HadInHands packing s actions i l) :
    (s.run packing actions).Gone l ∨ LeftIdle packing s actions i l failure := by
  obtain ⟨before, later, rfl, held⟩ := had
  rcases (owned.run packing before).inHands_run held packing later with stays | gone |
      ⟨between, rest, response, rfl, keeping⟩
  · have silent : last.exchange.engaged = [] := Exchange.engaged_eq_nil fun entry trip talking => by
      rw [failed] at talking
      cases talking
    rw [run_append] at found
    rw [inHands_eq found, Party.held, silent, idle] at stays
    cases stays
  · rw [run_append]
    exact .inl gone
  · refine .inr ⟨before ++ between, rest, by simp, response, ?_, ?_⟩
    · rwa [run_append]
    · -- The end that the exchange came to then is the one it has.
      obtain ⟨other, there, -⟩ := lasting_run began packing (before ++ between)
      rw [run_append] at there
      obtain ⟨⟨ended, here, stage⟩, -⟩ := keeping.after packing there
      obtain ⟨final, ends, lasting⟩ := lasting_run here packing rest
      have same : (s.run packing (before ++ (between ++ .react i :: rest))).parties[i]? = some final := by
        rw [run_append, run_append]
        exact ends
      obtain rfl := Option.some.inj (found.symm.trans same)
      have result := lasting.ended _ stage
      rw [failed] at result
      exact (ExchangeStage.ended.inj result).symm

/-- An exchange that has failed and carried out its orders leaves nothing behind, whatever the pool held before and
whatever others did, unless a response was read whole, keeps its connection and does not unpack. -/
theorem failed_parted (owned : s.Owned) (packing : Packing) (began : s.parties[i]? = some party)
    (actions : List Action) {last : Party} (found : (s.run packing actions).parties[i]? = some last)
    {failure : Failure} (failed : last.exchange.result? = some (.error failure)) (idle : last.orders = []) :
    Parted packing s actions i party.exchange.endpoint failure := by
  have ended := stage_of_result? failed
  have nowhere : ∀ {l}, (s.run packing actions).Gone l →
      (s.run packing actions).isOpen l = false ∧ l ∉ (s.run packing actions).pool.connections :=
    fun gone => ⟨gone.released, fun member => gone.nowhere (List.mem_append_left _ member)⟩
  have left : ∀ before later l, actions = before ++ .react i :: later →
      (s.run packing before).Undecodable packing i l failure →
        ∃ entry, entry.connection = l ∧
          ((s.run packing before).after packing (.react i)).pool.find? party.exchange.endpoint = some entry := by
    rintro before later l rfl ⟨response, keeping, -⟩
    obtain ⟨other, there, lasting⟩ := lasting_run began packing before
    obtain ⟨-, entry, here, idle⟩ := keeping.after packing there
    rw [lasting.endpoint] at idle
    exact ⟨entry, here, idle⟩
  refine ⟨fun l had => ?_, left, ?_, fun near => ⟨without_run packing near began, fun l had => ⟨?_, ?_⟩⟩⟩
  · exact (owned.closed packing began found ended idle had).imp_left nowhere
  · rintro before action later rfl near
    obtain ⟨other, there, lasting⟩ := lasting_run began packing before
    rw [← lasting.endpoint]
    exact without_after packing near there
  · rintro ⟨-, absent⟩ ⟨before, later, rfl, undecodable⟩
    -- The exchange is over, so nothing takes the connection out again.
    obtain ⟨entry, rfl, put⟩ := left before later l rfl undecodable
    obtain ⟨response, keeping, refused⟩ := undecodable
    obtain ⟨other, there, -⟩ := lasting_run began packing before
    obtain ⟨⟨settled, here, stage⟩, -⟩ := keeping.after packing there
    have later_near : ∀ action ∈ later, action.isNear i := fun action member => near action (by simp [member])
    have stays := pool_run_of_ended packing later_near here stage
    rw [run_append] at absent
    refine absent ?_
    show entry.connection ∈
      (((s.run packing before).after packing (.react i)).run packing later).pool.connections
    rw [stays]
    exact List.mem_map_of_mem (Pool.mem_of_find? put)
  · intro unleft
    exact nowhere ((owned.closed packing began found ended idle had).resolve_right unleft)

theorem eq_of_getElem?_map {α : Type} {f : Party → α} {value : α} (there : s.parties[i]?.map f = some value)
    (found : s.parties[i]? = some party) : f party = value := by
  rw [found] at there
  exact Option.some.inj there

/-- Two exchanges have left a connection each, to two endpoints. A third one takes up the second connection, and its
peer answers what is no response: that connection is released, the other one stays. -/
theorem failed_parted_unreadable :
    let visit (host : String) : Exchange Nat := ⟨.make "http" host 80, ⟨1024, .seconds 10, .seconds 30, "default"⟩,
      .make .get "/" "HTTP/1.1" [] [], .starting⟩
    let answer : Bytes := Utf8.encode "HTTP/1.1 200 OK\r\nContent-Length: 0\r\n\r\n"
    let goesWell (i : Nat) : List Action := [.begin i, .obey i, .opened i, .obey i, .traffic i .written, .react i,
      .answered i answer, .read i 1024, .react i]
    let s := (start [visit "b", visit "a", visit "a"]).run .standard (goesWell 0 ++ goesWell 1)
    let actions : List Action := [.begin 2, .obey 2, .traffic 2 .written, .react 2,
      .answered 1 (Utf8.encode "what?\r\n"), .read 2 1024, .react 2, .obey 2]
    let failure : Failure := .parse (.startLine (.statusMalformed "what?"))
    s.Owned ∧ s.pool.connections = [0, 1] ∧ 1 ∈ (s.run .standard (actions.take 1)).inHands 2 ∧
      (s.run .standard actions).parties[2]?.map (fun party => party.exchange.result?) = some (some (.error failure)) ∧
        Parted .standard s actions 2 (visit "a").endpoint failure := by
  intro visit answer goesWell s actions failure
  have owned : s.Owned := (owned_start _).run .standard _
  have result : (s.run .standard actions).parties[2]?.map (fun party => party.exchange.result?) =
      some (some (.error failure)) := by decide +kernel
  have orders : (s.run .standard actions).parties[2]?.map Party.orders = some [] := by decide +kernel
  have waiting : (start [visit "b", visit "a", visit "a"]).parties[2]? = some ⟨visit "a", none, []⟩ := rfl
  obtain ⟨party, began, lasting⟩ := lasting_run waiting .standard (goesWell 0 ++ goesWell 1)
  obtain ⟨last, found, -⟩ := lasting_run began .standard actions
  refine ⟨owned, by decide +kernel, by decide +kernel, result, ?_⟩
  rw [← lasting.endpoint]
  exact failed_parted owned .standard began actions found (eq_of_getElem?_map result found)
    (eq_of_getElem?_map orders found)

/-- A response says that it is packed, and its body is not: the exchange fails, and its connection is open and idle. -/
theorem not_parted_undecodable :
    ¬ ∀ (exchanges : List (Exchange Nat)) (actions : List Action) (i : Nat) (party : Party) (failure : Failure)
      (l : Nat),
      let s := (start exchanges).run .standard actions
      s.parties[i]? = some party → party.exchange.result? = some (.error failure) → party.orders = [] →
        HadInHands .standard (start exchanges) actions i l → s.isOpen l = false ∧ l ∉ s.pool.connections := by
  let x : Exchange Nat := ⟨.make "http" "a" 80, ⟨1024, .seconds 10, .seconds 30, "default"⟩,
    .make .get "/" "HTTP/1.1" [] [], .starting⟩
  let answer : Bytes := Utf8.encode "HTTP/1.1 200 OK\r\nContent-Encoding: gzip\r\nContent-Length: 4\r\n\r\njunk"
  let before : List Action := [.begin 0, .obey 0, .opened 0, .obey 0, .traffic 0 .written, .react 0,
    .answered 0 answer, .read 0 1024]
  let s : Sharing := (start [x]).run .standard (before ++ [.react 0])
  intro parted
  have began : (start [x]).parties[0]? = some ⟨x.moved .starting, none, []⟩ := rfl
  have result : s.parties[0]?.map (fun party => party.exchange.result?) =
      some (some (.error (.decompress (.gzip .cutShort)))) := by decide +kernel
  have orders : s.parties[0]?.map Party.orders = some [] := by decide +kernel
  have held : 0 ∈ ((start [x]).run .standard before).inHands 0 := by decide +kernel
  have stays : s.isOpen 0 = true := by decide +kernel
  obtain ⟨last, found, -⟩ := lasting_run began .standard (before ++ [.react 0])
  have failed : last.exchange.result? = some (.error (.decompress (.gzip .cutShort))) :=
    eq_of_getElem?_map result found
  have idle : last.orders = [] := eq_of_getElem?_map orders found
  have had : HadInHands .standard (start [x]) (before ++ [.react 0]) 0 0 := ⟨before, [.react 0], rfl, held⟩
  have released : s.isOpen 0 = false := (parted _ _ _ _ _ _ found failed idle had).1
  exact Bool.false_ne_true (released.symm.trans stays)

end Sharing
end HttpExchange
