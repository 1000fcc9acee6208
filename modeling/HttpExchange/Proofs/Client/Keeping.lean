import HttpExchange.Proofs.Client.Custody
import HttpExchange.Proofs.Client.Uses
import HttpExchange.Proofs.Replacement

/-!
Who has which connection while exchanges share a pool. What an exchange has in its hands, and what it is about to do,
follows from how far it has come; every action keeps each open connection in one place (`Kept.step`).
-/
namespace HttpExchange
open Exchange (closings)

namespace Party

/-- The connections in the hands of an exchange: the one it talks on, and those it is about to close. -/
def held (party : Party) : List Nat := party.exchange.engaged ++ closings party.orders

/-- What an exchange has ordered and not yet carried out follows from how far it has come, and it learns what
happens on its connection only when nothing is left to be carried out. -/
inductive Regular : Party → Prop
  | starting {x : Exchange Nat} (starting : x.stage = .starting) : Regular ⟨x, none, []⟩
  | connecting {x : Exchange Nat} (opening : x.stage = .opening) (closing : List Nat) :
      Regular ⟨x, none, closing.map .close ++ [.connect]⟩
  | opening {x : Exchange Nat} (opening : x.stage = .opening) : Regular ⟨x, none, []⟩
  | sending {x : Exchange Nat} {entry : PoolEntry Nat} (talking : x.stage = .talking entry .writing) :
      Regular ⟨x, none, [.send entry.connection (Wire.serialize x.request)]⟩
  | talking {x : Exchange Nat} {entry : PoolEntry Nat} {trip : RoundTrip} (talking : x.stage = .talking entry trip)
      (news : Option RoundTrip.Event) : Regular ⟨x, news, []⟩
  | parting {x : Exchange Nat} {result : Except Failure Response} (ended : x.stage = .ended result) (l : Nat) :
      Regular ⟨x, none, [.shutdown l, .close l]⟩
  | ended {x : Exchange Nat} {result : Except Failure Response} (ended : x.stage = .ended result)
      (closing : List Nat) : Regular ⟨x, none, closing.map .close⟩

end Party

namespace Sharing
variable {packing : Packing} {exchanges : List (Exchange Nat)}

/-- What every action keeps. The count over all places says that nothing is held twice and nothing open is lost; that
every exchange talks on a connection of its own endpoint and context is why requests go where they belong. -/
structure Kept (exchanges : List (Exchange Nat)) (pool : Pool Nat) (parties : List Party) (uses : List Line.Use) :
    Prop where
  origin : ∀ (i : Nat) (party : Party), parties[i]? = some party →
    ∃ x, exchanges[i]? = some x ∧ party.exchange.endpoint = x.endpoint ∧ party.exchange.settings = x.settings ∧
      party.exchange.request = x.request
  keyed : pool.Keyed
  custody : ∀ l, (pool.connections ++ parties.flatMap Party.held).count l = if inUse uses l then 1 else 0
  pooled : ∀ (endpoint : Endpoint) (entry : PoolEntry Nat), (endpoint, entry) ∈ pool.entries →
    OpenedFor uses entry.connection endpoint entry.tlsContext
  regular : ∀ party ∈ parties, party.Regular
  talking : ∀ party ∈ parties, ∀ (entry : PoolEntry Nat) (trip : RoundTrip),
    party.exchange.stage = .talking entry trip →
      entry.tlsContext = party.exchange.settings.tlsContext ∧
        OpenedFor uses entry.connection party.exchange.endpoint entry.tlsContext
  asked : ∀ use ∈ uses, ∀ (i : Nat) (request : Request), (i, request) ∈ use.asked →
    ∃ x, exchanges[i]? = some x ∧ x.request = request ∧ x.endpoint = use.endpoint ∧
      x.settings.tlsContext = use.tlsContext
  written : ∀ use ∈ uses, ∀ octets, use.written = some octets →
    octets = use.asked.flatMap fun asked => Wire.serialize asked.2

/-! ### One change -/

namespace Kept
variable {pool pool' : Pool Nat} {parties : List Party} {uses uses' : List Line.Use} {i : Nat} {party : Party}

/-- What an exchange holds is open, and nobody else has it. -/
theorem held_once (kept : Kept exchanges pool parties uses) (found : parties[i]? = some party) {l : Nat}
    (held : l ∈ party.held) : inUse uses l = true ∧ pool.connections.count l = 0 ∧ party.held.count l = 1 := by
  obtain ⟨others, split, -⟩ := Replacement.perm_set found party
  have counted := kept.custody l
  rw [List.count_append, (split.flatMap_right Party.held).count_eq, List.flatMap_cons, List.count_append] at counted
  have positive := List.count_pos_iff.mpr held
  split_ifs at counted with here
  · exact ⟨here, by omega, by omega⟩
  · omega

/-- No two exchanges have the same connection in their hands. -/
theorem held_apart (kept : Kept exchanges pool parties uses) (found : parties[i]? = some party) {j : Nat}
    {other : Party} (there : parties[j]? = some other) (apart : i ≠ j) {l : Nat} (held : l ∈ party.held) :
    l ∉ other.held := by
  intro too
  let emptied : Party := ⟨party.exchange.finish (.error .cancelled), none, []⟩
  have stays : (parties.set i emptied)[j]? = some other := (List.getElem?_set_ne apart).trans there
  have within := List.count_pos_iff.mpr (List.mem_flatMap.mpr ⟨other, List.mem_of_getElem? stays, too⟩)
  have moved := (Replacement.flatMap_set found emptied Party.held).count_eq l
  obtain ⟨opened, -, once⟩ := kept.held_once found held
  have total := kept.custody l
  rw [List.count_append, if_pos opened] at total
  have nothing : emptied.held = [] := rfl
  rw [nothing, List.nil_append, List.count_append] at moved
  omega

/-- One exchange, the pool and the connections change together. -/
theorem become (kept : Kept exchanges pool parties uses) (found : parties[i]? = some party) (party' : Party)
    (same : party'.exchange.endpoint = party.exchange.endpoint ∧ party'.exchange.settings = party.exchange.settings ∧
      party'.exchange.request = party.exchange.request)
    (keyed : pool'.Keyed)
    (custody : ∀ l, pool'.connections.count l + party'.held.count l + (if inUse uses l then 1 else 0) =
      pool.connections.count l + party.held.count l + if inUse uses' l then 1 else 0)
    (opened : ∀ l endpoint tlsContext, OpenedFor uses l endpoint tlsContext → OpenedFor uses' l endpoint tlsContext)
    (pooled : ∀ (endpoint : Endpoint) (entry : PoolEntry Nat), (endpoint, entry) ∈ pool'.entries →
      OpenedFor uses' entry.connection endpoint entry.tlsContext)
    (regular : party'.Regular)
    (talking : ∀ (entry : PoolEntry Nat) (trip : RoundTrip), party'.exchange.stage = .talking entry trip →
      entry.tlsContext = party.exchange.settings.tlsContext ∧
        OpenedFor uses' entry.connection party.exchange.endpoint entry.tlsContext)
    (asked : ∀ use ∈ uses', ∀ (j : Nat) (request : Request), (j, request) ∈ use.asked →
      (∃ old ∈ uses, old.endpoint = use.endpoint ∧ old.tlsContext = use.tlsContext ∧ (j, request) ∈ old.asked) ∨
        (j = i ∧ party.exchange.request = request ∧ party.exchange.endpoint = use.endpoint ∧
          party.exchange.settings.tlsContext = use.tlsContext))
    (written : ∀ use ∈ uses', ∀ octets, use.written = some octets →
      octets = use.asked.flatMap fun asked => Wire.serialize asked.2) :
    Kept exchanges pool' (parties.set i party') uses' where
  origin j other there := by
    by_cases here : i = j
    · subst here
      obtain ⟨inside, -⟩ := List.getElem?_eq_some_iff.mp found
      obtain rfl := Option.some.inj ((List.getElem?_set_self inside).symm.trans there)
      rw [same.1, same.2.1, same.2.2]
      exact kept.origin i party found
    · exact kept.origin j other (by rwa [List.getElem?_set_ne here] at there)
  keyed := keyed
  custody l := by
    have moved := (Replacement.flatMap_set found party' Party.held).count_eq l
    have before := kept.custody l
    have change := custody l
    rw [List.count_append, List.count_append] at moved
    rw [List.count_append] at before ⊢
    omega
  pooled := pooled
  regular other member := by
    rcases List.mem_or_eq_of_mem_set member with before | rfl
    · exact kept.regular other before
    · exact regular
  talking other member entry trip stage := by
    rcases List.mem_or_eq_of_mem_set member with before | rfl
    · obtain ⟨context, opens⟩ := kept.talking other before entry trip stage
      exact ⟨context, opened _ _ _ opens⟩
    · rw [same.1, same.2.1]
      exact talking entry trip stage
  asked use member j request noted := by
    rcases asked use member j request noted with ⟨old, before, endpoint, context, noted⟩ | ⟨rfl, own⟩
    · rw [← endpoint, ← context]
      exact kept.asked old before j request noted
    · obtain ⟨x, there, endpoint, settings, wanted⟩ := kept.origin j party found
      rw [endpoint, settings, wanted] at own
      exact ⟨x, there, own⟩
  written := written

/-- The connections stay as they are. -/
theorem become_same (kept : Kept exchanges pool parties uses) (found : parties[i]? = some party) (party' : Party)
    (same : party'.exchange = party.exchange)
    (held : ∀ l, party'.held.count l = party.held.count l) (regular : party'.Regular) :
    Kept exchanges pool (parties.set i party') uses :=
  kept.become found _ (same ▸ ⟨rfl, rfl, rfl⟩) kept.keyed (fun l => by rw [held]) (fun _ _ _ => id) kept.pooled regular
    (fun entry trip stage => kept.talking party (List.mem_of_getElem? found) entry trip (same ▸ stage))
    (fun use member _ _ noted => .inl ⟨use, member, rfl, rfl, noted⟩) kept.written

/-- Connections of an exchange are released. -/
theorem become_parted (kept : Kept exchanges pool parties uses) (found : parties[i]? = some party) (party' : Party)
    (same : party'.exchange.endpoint = party.exchange.endpoint ∧ party'.exchange.settings = party.exchange.settings ∧
      party'.exchange.request = party.exchange.request) {closing : List Nat}
    (held : ∀ l, party.held.count l = party'.held.count l + closing.count l) (regular : party'.Regular)
    (talking : ∀ (entry : PoolEntry Nat) (trip : RoundTrip), party'.exchange.stage = .talking entry trip →
      ∃ earlier, party.exchange.stage = .talking entry earlier) :
    Kept exchanges pool (parties.set i party') (parted uses closing) := by
  refine kept.become found _ same kept.keyed (fun l => ?_) (fun _ _ _ opened => opened.parted closing)
    (fun endpoint entry member => (kept.pooled endpoint entry member).parted closing) regular
    (fun entry trip stage => ?_) (fun use member j request noted => ?_) fun use member octets written => ?_
  · rw [inUse_parted, held l]
    by_cases closes : l ∈ closing
    · have positive := List.count_pos_iff.mpr closes
      have mine : l ∈ party.held := List.count_pos_iff.mp (by rw [held l]; omega)
      obtain ⟨here, -, once⟩ := kept.held_once found mine
      rw [held l] at once
      simp only [here, closes, not_true_eq_false, decide_false, Bool.and_false, Bool.false_eq_true, if_true, if_false]
      omega
    · rw [List.count_eq_zero.mpr closes]
      simp only [closes, not_false_eq_true, decide_true, Bool.and_true]
      omega
  · obtain ⟨earlier, talked⟩ := talking entry trip stage
    obtain ⟨context, opened⟩ := kept.talking party (List.mem_of_getElem? found) entry earlier talked
    exact ⟨context, opened.parted closing⟩
  · rcases mem_parted member with before | ⟨old, before, rfl⟩
    · exact .inl ⟨use, before, rfl, rfl, noted⟩
    · exact .inl ⟨old, before, rfl, rfl, noted⟩
  · rcases mem_parted member with before | ⟨old, before, rfl⟩
    · exact kept.written use before octets written
    · cases written

/-- Idle connections are released. -/
theorem tidy (kept : Kept exchanges pool parties uses) {closing : List Nat} (keyed : pool'.Keyed)
    (fewer : ∀ pair ∈ pool'.entries, pair ∈ pool.entries)
    (custody : pool.connections.Perm (closing ++ pool'.connections)) :
    Kept exchanges pool' parties (parted uses closing) where
  origin := kept.origin
  keyed := keyed
  custody l := by
    have before := kept.custody l
    rw [List.count_append, custody.count_eq, List.count_append] at before
    rw [inUse_parted, List.count_append]
    by_cases closes : l ∈ closing
    · have positive := List.count_pos_iff.mpr closes
      simp only [closes, not_true_eq_false, decide_false, Bool.and_false, Bool.false_eq_true, if_false]
      split_ifs at before <;> omega
    · rw [List.count_eq_zero.mpr closes] at before
      simp only [closes, not_false_eq_true, decide_true, Bool.and_true]
      omega
  pooled endpoint entry member := (kept.pooled endpoint entry (fewer _ member)).parted closing
  regular := kept.regular
  talking party member entry trip stage := by
    obtain ⟨context, opened⟩ := kept.talking party member entry trip stage
    exact ⟨context, opened.parted closing⟩
  asked use member i request noted := by
    rcases mem_parted member with before | ⟨old, before, rfl⟩
    · exact kept.asked use before i request noted
    · exact kept.asked old before i request noted
  written use member octets written := by
    rcases mem_parted member with before | ⟨old, before, rfl⟩
    · exact kept.written use before octets written
    · cases written

end Kept

/-! ### Every action -/

theorem regular_settled (x : Exchange Nat) : Party.Regular ⟨x, none, []⟩ := by
  cases stage : x.stage with
  | starting => exact .starting stage
  | opening => exact .opening stage
  | talking entry trip => exact .talking stage none
  | ended result => exact .ended stage []

/-- What an exchange orders follows from how far it comes. -/
theorem regular_outcome {x : Exchange Nat} {pool : Pool Nat} {event : Exchange.Event Nat}
    {outcome : Exchange.Outcome Nat} (step : Exchange.Step packing x pool event outcome) :
    Party.Regular ⟨outcome.exchange, none, outcome.commands⟩ := by
  cases step with
  | ignored unasked silent => exact regular_settled x
  | asks starting absent => exact .connecting rfl []
  | @discards healthy entry starting found unfit => exact .connecting rfl [entry.connection]
  | @claims healthy entry starting found sound context =>
    have talking : (x.moved (.talking entry .writing)).stage = .talking entry .writing := rfl
    exact .sending talking
  | @opens connection opening =>
    let entry : PoolEntry Nat := ⟨connection, x.settings.bufferSize, x.settings.tlsContext⟩
    have talking : (x.moved (.talking entry .writing)).stage = .talking entry .writing := rfl
    exact .sending talking
  | refused opening => exact .ended rfl []
  | goesOn talking onward going => exact .talking rfl none
  | @fails heard entry trip failure talking failed => exact .ended rfl [entry.connection]
  | keeps talking complete stays => exact .ended rfl _
  | parts talking complete leaves => exact .parting rfl _
  | @gaveUp entry trip talking => exact .ended rfl [entry.connection]
  | withdrew early => exact .ended rfl []

theorem talks_of_outcome {x : Exchange Nat} {pool : Pool Nat} {event : Exchange.Event Nat}
    {outcome : Exchange.Outcome Nat} (step : Exchange.Step packing x pool event outcome) {entry : PoolEntry Nat}
    {trip : RoundTrip} (talking : outcome.exchange.stage = .talking entry trip) :
    (∃ earlier, x.stage = .talking entry earlier) ∨
      ((x.endpoint, entry) ∈ pool.entries ∧ entry.tlsContext = x.settings.tlsContext) ∨
      (entry.connection ∈ x.brought event ∧ entry.tlsContext = x.settings.tlsContext) := by
  cases step with
  | ignored unasked silent => exact .inl ⟨trip, talking⟩
  | claims starting found sound context =>
    cases talking
    exact .inr (.inl ⟨Pool.mem_of_find? found, context⟩)
  | opens opening =>
    cases talking
    exact .inr (.inr ⟨by simp [Exchange.brought_opened opening], rfl⟩)
  | goesOn talked onward going =>
    cases talking
    exact .inl ⟨_, talked⟩
  | asks => cases talking
  | discards => cases talking
  | refused => cases talking
  | fails => cases talking
  | keeps => cases talking
  | parts => cases talking
  | gaveUp => cases talking
  | withdrew => cases talking

namespace Kept
variable {pool : Pool Nat} {parties : List Party} {uses uses' : List Line.Use} {i : Nat} {party : Party}
  {event : Exchange.Event Nat} {outcome : Exchange.Outcome Nat}

/-- An exchange takes in an event; a connection that it waited for may come with it. -/
theorem deliver (kept : Kept exchanges pool parties uses) (found : parties[i]? = some party) (idle : party.orders = [])
    (step : Exchange.Step packing party.exchange pool event outcome)
    (fresh : ∀ l, (party.exchange.brought event).count l + (if inUse uses l then 1 else 0) =
      if inUse uses' l then 1 else 0)
    (opened : ∀ l endpoint tlsContext, OpenedFor uses l endpoint tlsContext → OpenedFor uses' l endpoint tlsContext)
    (brought : ∀ l ∈ party.exchange.brought event,
      OpenedFor uses' l party.exchange.endpoint party.exchange.settings.tlsContext)
    (same : ∀ use ∈ uses', use ∈ uses ∨ (use.asked = [] ∧ use.written = some [])) :
    Kept exchanges outcome.pool (parties.set i ⟨outcome.exchange, none, party.orders ++ outcome.commands⟩) uses' := by
  have known := kept.talking party (List.mem_of_getElem? found)
  rw [idle, List.nil_append]
  refine kept.become found _ step.same (step.keyed kept.keyed) (fun l => ?_) opened (fun endpoint entry member => ?_)
    (regular_outcome step) (fun entry trip stage => ?_) (fun use member j request noted => ?_)
    fun use member octets written => ?_
  · have moved := (step.custody kept.keyed).count_eq l
    have appears := fresh l
    simp only [List.count_append] at moved
    simp only [Party.held, idle, List.count_append, Exchange.closings, List.filterMap_nil, List.count_nil] at moved ⊢
    omega
  · rcases step.pooled member with before | ⟨rfl, trip, heard, response, talking, -, -⟩
    · exact opened _ _ _ (kept.pooled endpoint entry before)
    · exact opened _ _ _ (known entry trip talking).2
  · rcases talks_of_outcome step stage with ⟨earlier, talked⟩ | ⟨pooled, context⟩ | ⟨came, context⟩
    · obtain ⟨context, opens⟩ := known entry earlier talked
      exact ⟨context, opened _ _ _ opens⟩
    · exact ⟨context, opened _ _ _ (kept.pooled _ entry pooled)⟩
    · exact ⟨context, context ▸ brought _ came⟩
  · rcases same use member with before | ⟨blank, -⟩
    · exact .inl ⟨use, before, rfl, rfl, noted⟩
    · rw [blank] at noted
      cases noted
  · rcases same use member with before | ⟨blank, empty⟩
    · exact kept.written use before octets written
    · rw [empty] at written
      cases written
      rw [blank]
      rfl

/-- An exchange takes in an event that brings no connection. -/
theorem deliver_same (kept : Kept exchanges pool parties uses) (found : parties[i]? = some party)
    (idle : party.orders = []) (unasked : ∀ connection, event ≠ .opened connection) :
    let outcome := party.exchange.step packing pool event
    Kept exchanges outcome.pool (parties.set i ⟨outcome.exchange, none, party.orders ++ outcome.commands⟩) uses := by
  have nothing : party.exchange.brought event = [] :=
    Exchange.brought_eq_nil fun connection asked => absurd asked (unasked connection)
  refine kept.deliver found idle (Exchange.step_outcome packing party.exchange pool event) (fun l => ?_)
    (fun _ _ _ => id) (fun l member => ?_) fun use member => .inl member
  · rw [nothing, List.count_nil, Nat.zero_add]
  · rw [nothing] at member
    cases member

/-- A connection comes to the exchange that waits for it. -/
theorem deliver_opened (kept : Kept exchanges pool parties uses) (found : parties[i]? = some party)
    (idle : party.orders = []) (opening : party.exchange.stage = .opening) :
    let outcome := party.exchange.step packing pool (.opened uses.length)
    Kept exchanges outcome.pool (parties.set i ⟨outcome.exchange, none, party.orders ++ outcome.commands⟩)
      (uses ++ [.fresh party.exchange.endpoint party.exchange.settings.tlsContext]) := by
  have comes := Exchange.brought_opened opening uses.length
  refine kept.deliver found idle (Exchange.step_outcome packing party.exchange pool (.opened uses.length))
    (fun l => ?_) (fun l endpoint tlsContext opened => ?_) (fun l member => ?_) fun use member => ?_
  · rw [comes, inUse, inUse]
    rcases Nat.lt_trichotomy l uses.length with inside | rfl | beyond
    · have other : l ∉ [uses.length] := by simp; omega
      rw [List.getElem?_append_left inside, List.count_eq_zero.mpr other, Nat.zero_add]
    · simp [Line.Use.fresh]
    · have other : l ∉ [uses.length] := by simp; omega
      rw [List.getElem?_eq_none (by omega), List.getElem?_eq_none (by simp; omega), List.count_eq_zero.mpr other]
      rfl
  · obtain ⟨use, here, what⟩ := opened
    obtain ⟨inside, -⟩ := List.getElem?_eq_some_iff.mp here
    exact ⟨use, by rw [List.getElem?_append_left inside, here], what⟩
  · rw [comes] at member
    obtain rfl := List.mem_singleton.mp member
    exact ⟨_, List.getElem?_concat_length, rfl, rfl, rfl⟩
  · rcases List.mem_append.mp member with before | new
    · exact .inl before
    · obtain rfl := List.mem_singleton.mp new
      exact .inr ⟨rfl, rfl⟩

/-- An exchange writes its request on the connection that it talks on. -/
theorem sent (kept : Kept exchanges pool parties uses) (found : parties[i]? = some party) {entry : PoolEntry Nat}
    {trip : RoundTrip} (talking : party.exchange.stage = .talking entry trip) (party' : Party)
    (same : party'.exchange = party.exchange) (held : ∀ l, party'.held.count l = party.held.count l)
    (regular : party'.Regular) {use : Line.Use} (here : uses[entry.connection]? = some use) :
    Kept exchanges pool (parties.set i party')
      (uses.set entry.connection (use.more i party.exchange.request (Wire.serialize party.exchange.request))) := by
  obtain ⟨inside, there⟩ := List.getElem?_eq_some_iff.mp here
  obtain ⟨context, known, knownHere, endpoint, tlsContext, -⟩ :=
    kept.talking party (List.mem_of_getElem? found) entry trip talking
  obtain rfl : use = known := Option.some.inj (here.symm.trans knownHere)
  have stays : ∀ l, inUse (uses.set entry.connection (use.more i party.exchange.request
      (Wire.serialize party.exchange.request))) l = inUse uses l := fun l => by
    rw [inUse, inUse, List.getElem?_set, if_pos inside]
    split
    · rename_i mine
      rw [← mine, here]
      simp [Line.Use.more]
    · rfl
  have opened : ∀ l endpoint tlsContext, OpenedFor uses l endpoint tlsContext → OpenedFor (uses.set entry.connection
      (use.more i party.exchange.request (Wire.serialize party.exchange.request))) l endpoint tlsContext := by
    rintro l _ _ ⟨other, found, rfl, rfl, secure⟩
    by_cases mine : entry.connection = l
    · subst mine
      obtain rfl : use = other := Option.some.inj (here.symm.trans found)
      exact ⟨_, List.getElem?_set_self inside, rfl, rfl, secure⟩
    · exact ⟨other, by rw [List.getElem?_set_ne mine, found], rfl, rfl, secure⟩
  refine kept.become found _ (same ▸ ⟨rfl, rfl, rfl⟩) kept.keyed (fun l => by rw [held, stays]) opened
    (fun endpoint entry member => opened _ _ _ (kept.pooled endpoint entry member)) regular
    (fun entry trip stage => ?_) (fun other member j request noted => ?_) fun other member octets written => ?_
  · obtain ⟨context, opens⟩ := kept.talking party (List.mem_of_getElem? found) entry trip (same ▸ stage)
    exact ⟨context, opened _ _ _ opens⟩
  · rcases List.mem_or_eq_of_mem_set member with before | rfl
    · exact .inl ⟨other, before, rfl, rfl, noted⟩
    · rcases List.mem_append.mp noted with earlier | now
      · exact .inl ⟨use, List.mem_of_getElem? here, rfl, rfl, earlier⟩
      · obtain ⟨rfl, rfl⟩ := Prod.mk.inj (List.mem_singleton.mp now)
        exact .inr ⟨rfl, rfl, endpoint.symm, context.symm.trans tlsContext.symm⟩
  · rcases List.mem_or_eq_of_mem_set member with before | rfl
    · exact kept.written other before octets written
    · obtain ⟨earlier, before, rfl⟩ := Option.map_eq_some_iff.mp written
      rw [kept.written use (List.mem_of_getElem? here) earlier before]
      simp [Line.Use.more]

end Kept

section
variable {s s' : Sharing} {i : Nat} {party : Party}

theorem orders_of_starting (regular : party.Regular) (starting : party.exchange.stage = .starting) :
    party.orders = [] := by
  cases regular with
  | starting => rfl
  | connecting opening => cases starting.symm.trans opening
  | opening => rfl
  | sending talking => cases starting.symm.trans talking
  | talking => rfl
  | parting ended => cases starting.symm.trans ended
  | ended ended => cases starting.symm.trans ended

theorem orders_of_news (regular : party.Regular) {event : RoundTrip.Event} (news : party.news = some event) :
    party.orders = [] := by
  cases regular with
  | talking => rfl
  | _ => cases news

/-- What an exchange holds is to be closed when it gives up. -/
theorem closings_of_cancelled (party : Party) (pool : Pool Nat) :
    let outcome := party.exchange.step packing pool .cancelled
    outcome.pool = pool ∧ outcome.exchange.engaged = [] ∧
      party.held.Perm (closings (party.orders ++ outcome.commands)) := by
  intro outcome
  have step := Exchange.step_outcome packing party.exchange pool .cancelled
  have left : outcome.pool = pool ∧ outcome.exchange.engaged = [] ∧
      closings outcome.commands = party.exchange.engaged := by
    simp only [outcome, Exchange.step]
    cases stage : party.exchange.stage <;> simp [Exchange.engaged, Exchange.finish, Exchange.moved, closings, stage]
  refine ⟨left.1, left.2.1, ?_⟩
  rw [Exchange.closings_append, left.2.2]
  exact List.perm_append_comm

/-- An exchange releases a connection that it was to close. -/
theorem Kept.closed (kept : Kept exchanges s.pool s.parties (uses s.lines)) (found : s.parties[i]? = some party)
    {l : Nat} {rest : List (Exchange.Command Nat)} (orders : party.orders = .close l :: rest)
    (regular : Party.Regular { party with orders := rest }) :
    Kept exchanges s.pool (s.parties.set i { party with orders := rest }) (uses (s.lines.modify l .release)) := by
  have released : uses (s.lines.modify l .release) = parted (uses s.lines) [l] := uses_release s.lines [l]
  rw [released]
  refine kept.become_parted found { party with orders := rest } ⟨rfl, rfl, rfl⟩ (fun m => ?_) regular
    fun entry trip talking => ⟨trip, talking⟩
  have held : party.held = party.exchange.engaged ++ l :: closings rest := by
    rw [Party.held, orders]
    rfl
  have after : ({ party with orders := rest } : Party).held = party.exchange.engaged ++ closings rest := rfl
  rw [held, after, List.count_append, List.count_append, List.count_cons, List.count_singleton]
  omega

/-- An exchange carries out the first of its orders. -/
theorem Kept.obey (kept : Kept exchanges s.pool s.parties (uses s.lines)) (found : s.parties[i]? = some party)
    {order : Exchange.Command Nat} {rest : List (Exchange.Command Nat)} (orders : party.orders = order :: rest) :
    Kept exchanges s.pool (s.parties.set i { party with orders := rest })
      (uses (Sharing.obey i party.exchange.request s.lines order)) := by
  have regular := kept.regular party (List.mem_of_getElem? found)
  cases regular with
  | starting => cases orders
  | @connecting x opening closing =>
    cases closing with
    | nil =>
      cases orders
      exact kept.become_same found _ rfl (fun l => rfl) (.opening opening)
    | cons l closing =>
      cases orders
      exact kept.closed found rfl (.connecting opening closing)
  | opening => cases orders
  | @sending x entry talking =>
    cases orders
    obtain ⟨-, use, here, -⟩ := kept.talking _ (List.mem_of_getElem? found) entry .writing talking
    obtain ⟨line, there, rfl⟩ := Option.map_eq_some_iff.mp ((getElem?_uses _ _).symm.trans here)
    rw [Sharing.obey, uses_modify_of_getElem? there]
    rcases line.use_ask i x.request (Wire.serialize x.request) with same | more
    · have unchanged : (uses s.lines).set entry.connection line.use = uses s.lines := by
        obtain ⟨inside, what⟩ := List.getElem?_eq_some_iff.mp here
        rw [← what, List.set_getElem_self]
      rw [same, unchanged]
      exact kept.become_same found ⟨x, none, []⟩ rfl (fun l => rfl) (.talking talking none)
    · rw [more]
      exact kept.sent found talking ⟨x, none, []⟩ rfl (fun l => rfl) (.talking talking none) here
  | talking => cases orders
  | parting ended l =>
    cases orders
    rw [Sharing.obey, uses_modify Line.use_shutdown]
    exact kept.become_same found _ rfl (fun l => rfl) (.ended ended [l])
  | ended ended closing =>
    cases closing with
    | nil => cases orders
    | cons l closing =>
      cases orders
      exact kept.closed found rfl (.ended ended closing)

/-- An exchange learns what happened on its connection. -/
theorem Kept.learn {parties : List Party} {lines : List Line} {pool : Pool Nat}
    (kept : Kept exchanges pool parties (uses lines)) (found : parties[i]? = some party)
    {entry : PoolEntry Nat} {trip : RoundTrip} (talking : party.exchange.stage = .talking entry trip)
    (idle : party.orders = []) (event : RoundTrip.Event) :
    Kept exchanges pool (parties.set i { party with news := some event }) (uses lines) := by
  refine kept.become_same found _ rfl (fun l => rfl) ?_
  rw [idle]
  exact .talking talking (some event)

/-- Every action keeps every connection where it belongs. -/
theorem Kept.step (kept : Kept exchanges s.pool s.parties (uses s.lines)) {action : Action}
    (step : Step packing s action s') : Kept exchanges s'.pool s'.parties (uses s'.lines) := by
  cases step with
  | begin found starting =>
    have regular := kept.regular _ (List.mem_of_getElem? found)
    exact kept.deliver_same found (orders_of_starting regular starting) (by simp)
  | obey found orders => exact kept.obey found orders
  | @opened i party found opening idle =>
    have onward := @Kept.deliver_opened packing _ _ _ _ _ _ kept found idle opening
    have grown : uses (s.lines ++ [.fresh party.exchange.endpoint party.exchange.settings.tlsContext]) =
        uses s.lines ++ [.fresh party.exchange.endpoint party.exchange.settings.tlsContext] :=
      List.map_append
    rw [← grown, uses, List.length_map] at onward
    exact onward
  | openFailed found opening idle => exact kept.deliver_same found idle (by simp)
  | traffic found talking idle unheard outside => exact kept.learn found talking idle _
  | read found talking idle unheard here reads =>
    have same := uses_set here (Line.use_read reads)
    exact Kept.learn (same ▸ kept) found talking idle _
  | react found news =>
    have regular := kept.regular _ (List.mem_of_getElem? found)
    exact kept.deliver_same found (orders_of_news regular news) (by simp)
  | @cancelled i party outcome found gaveUp =>
    have step := Exchange.step_outcome packing party.exchange s.pool .cancelled
    obtain ⟨pool, engaged, held⟩ := @closings_of_cancelled packing party s.pool
    rw [gaveUp] at step pool engaged held
    rw [uses_release, pool]
    refine kept.become_parted found _ step.same (fun l => ?_) (regular_settled _) fun entry trip talking => ?_
    · rw [held.count_eq, Party.held, engaged]
      simp [Exchange.closings]
    · rw [Exchange.engaged_of_talking talking] at engaged
      cases engaged
  | answered found answers =>
    rw [uses_set found (Line.use_answer answers)]
    exact kept
  | hungUp =>
    rw [uses_modify Line.use_hangUp]
    exact kept
  | @stirred l backlog =>
    have same := @uses_modify s.lines (fun line => { line with backlog }) (fun line => rfl) l
    exact same ▸ kept
  | remove =>
    rw [uses_release]
    exact kept.tidy (Pool.keyed_without kept.keyed _) (fun pair member => (Pool.mem_without.mp member).1)
      (Pool.connections_remove kept.keyed _)
  | clear =>
    rw [uses_release]
    exact kept.tidy Pool.keyed_empty (fun _ member => absurd member List.not_mem_nil)
      (by rw [Pool.connections]; exact (List.append_nil _) ▸ .refl _)

theorem Kept.start (exchanges : List (Exchange Nat)) :
    Kept exchanges (start exchanges).pool (start exchanges).parties (uses (start exchanges).lines) where
  origin i party found := by
    rw [Sharing.start, List.getElem?_map] at found
    obtain ⟨x, there, rfl⟩ := Option.map_eq_some_iff.mp found
    exact ⟨x, there, rfl, rfl, rfl⟩
  keyed := Pool.keyed_empty
  custody l := by
    have nobody : (Sharing.start exchanges).parties.flatMap Party.held = [] :=
      List.flatMap_eq_nil_iff.mpr fun party member => by
        obtain ⟨x, -, rfl⟩ := List.mem_map.mp member
        rfl
    rw [nobody]
    rfl
  pooled := nofun
  regular party member := by
    obtain ⟨x, -, rfl⟩ := List.mem_map.mp member
    exact .starting rfl
  talking party member entry trip talking := by
    obtain ⟨x, -, rfl⟩ := List.mem_map.mp member
    cases talking
  asked := nofun
  written := nofun

theorem Kept.after (kept : Kept exchanges s.pool s.parties (uses s.lines)) (action : Action) :
    let s' := s.after packing action
    Kept exchanges s'.pool s'.parties (uses s'.lines) := by
  rcases step_after packing s action with same | step
  · exact same.symm ▸ kept
  · exact kept.step step

/-- Every run keeps every connection where it belongs. -/
theorem Kept.run (kept : Kept exchanges s.pool s.parties (uses s.lines)) (actions : List Action) :
    let s' := s.run packing actions
    Kept exchanges s'.pool s'.parties (uses s'.lines) := by
  induction actions generalizing s with
  | nil => exact kept
  | cons action rest ih => exact ih (kept.after action)

end

end Sharing
end HttpExchange
