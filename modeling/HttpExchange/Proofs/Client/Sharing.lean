import HttpExchange.Client.Sharing
import HttpExchange.Proofs.Client.Pool
import HttpExchange.Proofs.Replacement

/-!
What the actions of exchanges that share a pool do. All that is possible is listed once (`Step`), and so is what
the operations on a connection leave.
-/
namespace HttpExchange

namespace Line

/-- What is read has arrived, and the rest stays. -/
theorem read_eq {socket read : Socket} {size : Nat} {piece : Bytes}
    (reads : socket.read size = .ok (some (piece, read))) :
    ∃ stream, socket.stream = some stream ∧ piece = stream.arrived.take size ∧
      read = { socket with stream := some { stream with arrived := stream.arrived.drop size } } := by
  unfold Socket.read at reads
  split at reads
  · cases reads
  · rename_i stream here
    split at reads
    · cases reads
    · cases reads
      exact ⟨stream, here, rfl, rfl⟩

/-- The connection after a request was written on it. -/
def told (line : Line) (stream : Stream) (exchange : Nat) (request : Request) (octets : Bytes) : Line :=
  { line with
    socket := { line.socket with stream := some { stream with written := stream.written ++ octets } }
    asked := line.asked ++ [(exchange, request)] }

/-- A request is written whole on a connection that was not said goodbye on. -/
theorem ask_of_lasting {line : Line} {stream : Stream} (here : line.socket.stream = some stream)
    (lasting : stream.ended = false) (exchange : Nat) (request : Request) (octets : Bytes) :
    line.ask exchange request octets = line.told stream exchange request octets := by
  simp [ask, Socket.write, here, lasting, told]

/-- A request is written whole, or the socket does not take it. -/
theorem ask_cases (line : Line) (exchange : Nat) (request : Request) (octets : Bytes) :
    line.ask exchange request octets = line ∨
      ∃ stream, line.socket.stream = some stream ∧
        line.ask exchange request octets = line.told stream exchange request octets := by
  cases here : line.socket.stream with
  | none => exact .inl (by simp [ask, Socket.write, here])
  | some stream =>
    cases lasting : stream.ended with
    | false => exact .inr ⟨stream, rfl, ask_of_lasting here lasting ..⟩
    | true =>
      by_cases empty : octets = []
      · exact .inr ⟨stream, rfl, by simp [ask, Socket.write, here, empty, told]⟩
      · exact .inl (by simp [ask, Socket.write, here, lasting, empty])

/-- A peer sends on a connection that is open and on which it has not said goodbye. -/
theorem answer?_eq_some {line other : Line} {octets : Bytes} (answers : line.answer? octets = some other) :
    ∃ stream, line.socket.stream = some stream ∧
      other = { line with
        socket := { line.socket with stream := some { stream with arrived := stream.arrived ++ octets } }
        came := line.came ++ octets } := by
  obtain ⟨stream, here, accepted⟩ := Option.bind_eq_some_iff.mp answers
  split at accepted
  · cases accepted
  · rename_i going
    cases accepted
    exact ⟨stream, here, by simp only [Stream.arrive, if_neg going]⟩

/-- What becomes of a connection: it stays what it was opened for, what was asked on it remains, and once it is
released it is so for good. -/
structure Onward (line later : Line) : Prop where
  endpoint : later.endpoint = line.endpoint
  tlsContext : later.tlsContext = line.tlsContext
  asked : line.asked <+: later.asked
  released : line.socket.stream = none → later.socket.stream = none

theorem Onward.refl (line : Line) : line.Onward line := ⟨rfl, rfl, List.prefix_refl _, id⟩

theorem Onward.trans {line next later : Line} (first : line.Onward next) (second : next.Onward later) :
    line.Onward later where
  endpoint := second.endpoint.trans first.endpoint
  tlsContext := second.tlsContext.trans first.tlsContext
  asked := first.asked.trans second.asked
  released none := second.released (first.released none)

/-- A connection of which only the stream changes, if it has one. -/
theorem onward_of_stream (line : Line) (socket : Socket) (backlog : Bool) (came : Bytes)
    (released : line.socket.stream = none → socket.stream = none) :
    line.Onward { line with socket, backlog, came } := ⟨rfl, rfl, List.prefix_refl _, released⟩

theorem onward_hangUp (line : Line) : line.Onward line.hangUp :=
  onward_of_stream line _ line.backlog line.came fun none => by simp [none]

theorem onward_shutdown (line : Line) : line.Onward line.shutdown :=
  onward_of_stream line _ line.backlog line.came fun none => by simp [Socket.shutdown, none]

theorem onward_release (line : Line) : line.Onward line.release :=
  onward_of_stream line _ line.backlog line.came fun _ => rfl

theorem onward_ask (line : Line) (exchange : Nat) (request : Request) (octets : Bytes) :
    line.Onward (line.ask exchange request octets) := by
  rcases line.ask_cases exchange request octets with same | ⟨stream, here, told⟩
  · exact same.symm ▸ .refl line
  · rw [told]
    exact ⟨rfl, rfl, List.prefix_append _ _, fun none => by simp [none] at here⟩

end Line

namespace Sharing
variable {packing : Packing} {s s' : Sharing} {action : Action}

theorem getElem?_release (lines : List Line) (closing : List Nat) (l : Nat) :
    (release lines closing)[l]? = lines[l]?.map fun line => if l ∈ closing then line.release else line := by
  induction closing generalizing lines with
  | nil => simp [release]
  | cons m rest ih =>
    rw [release, List.foldl_cons]
    refine (ih _).trans ?_
    rw [List.getElem?_modify]
    cases lines[l]? with
    | none => rfl
    | some line =>
      by_cases here : l = m
      · subst here
        by_cases later : l ∈ rest <;> simp [later, Line.release, Socket.close]
      · simp [here, Ne.symm here]

/-- Connections stay in their places, whatever becomes of them there. -/
def Onward (lines lines' : List Line) : Prop :=
  ∀ (l : Nat) (line : Line), lines[l]? = some line → ∃ later, lines'[l]? = some later ∧ line.Onward later

theorem Onward.refl (lines : List Line) : Onward lines lines := fun _ line here => ⟨line, here, .refl line⟩

theorem Onward.trans {lines next later : List Line} (first : Onward lines next) (second : Onward next later) :
    Onward lines later := fun l line here => by
  obtain ⟨between, there, onward⟩ := first l line here
  obtain ⟨last, found, further⟩ := second l between there
  exact ⟨last, found, onward.trans further⟩

theorem onward_modify (lines : List Line) (l : Nat) {change : Line → Line}
    (onward : ∀ line : Line, line.Onward (change line)) : Onward lines (lines.modify l change) :=
  fun _ _ => Replacement.modify_related Line.Onward.refl onward l

theorem onward_set {lines : List Line} {l : Nat} {old new : Line} (found : lines[l]? = some old)
    (onward : old.Onward new) : Onward lines (lines.set l new) :=
  fun _ _ => Replacement.set_related Line.Onward.refl found onward

theorem onward_release (lines : List Line) (closing : List Nat) : Onward lines (release lines closing) :=
  fun m line here => by
    rw [getElem?_release, here]
    refine ⟨_, rfl, ?_⟩
    split
    · exact line.onward_release
    · exact .refl line

theorem onward_obey (exchange : Nat) (request : Request) (lines : List Line) (order : Exchange.Command Nat) :
    Onward lines (obey exchange request lines order) := by
  cases order with
  | connect => exact .refl lines
  | send l octets => exact onward_modify lines l fun line => line.onward_ask exchange request octets
  | shutdown l => exact onward_modify lines l Line.onward_shutdown
  | close l => exact onward_modify lines l Line.onward_release

/-- All that an action can do. -/
inductive Step (packing : Packing) (s : Sharing) : Action → Sharing → Prop
  | begin {i : Nat} {party : Party} (found : s.parties[i]? = some party)
      (starting : party.exchange.stage = .starting) :
      Step packing s (.begin i) (s.deliver packing i party (.begin s.isHealthy))
  | obey {i : Nat} {party : Party} {order : Exchange.Command Nat} {rest : List (Exchange.Command Nat)}
      (found : s.parties[i]? = some party) (orders : party.orders = order :: rest) :
      Step packing s (.obey i)
        ⟨s.pool, s.parties.set i { party with orders := rest }, obey i party.exchange.request s.lines order⟩
  | opened {i : Nat} {party : Party} (found : s.parties[i]? = some party)
      (opening : party.exchange.stage = .opening) (idle : party.orders = []) :
      Step packing s (.opened i)
        ({ s with lines := s.lines ++ [Line.fresh party.exchange.endpoint party.exchange.settings.tlsContext] }.deliver
          packing i party (.opened s.lines.length))
  | openFailed {i : Nat} {failure : Failure} {party : Party} (found : s.parties[i]? = some party)
      (opening : party.exchange.stage = .opening) (idle : party.orders = []) :
      Step packing s (.openFailed i failure) (s.deliver packing i party (.openFailed failure))
  | traffic {i : Nat} {event : RoundTrip.Event} {party : Party} {entry : PoolEntry Nat} {trip : RoundTrip}
      (found : s.parties[i]? = some party) (talking : party.exchange.stage = .talking entry trip)
      (idle : party.orders = []) (unheard : party.news = none) (outside : isOutside event = true) :
      Step packing s (.traffic i event) (s.learn i party event)
  | read {i count : Nat} {party : Party} {entry : PoolEntry Nat} {parser : Parser StatusLine} {line : Line}
      {piece : Bytes} {socket : Socket} (found : s.parties[i]? = some party)
      (talking : party.exchange.stage = .talking entry (.reading parser)) (idle : party.orders = [])
      (unheard : party.news = none) (here : s.lines[entry.connection]? = some line)
      (reads : line.socket.read (min (max count 1) entry.bufferSize) = .ok (some (piece, socket))) :
      Step packing s (.read i count)
        ({ s with lines := s.lines.set entry.connection { line with socket } }.learn i party (.received piece))
  | react {i : Nat} {party : Party} {event : RoundTrip.Event} (found : s.parties[i]? = some party)
      (news : party.news = some event) : Step packing s (.react i) (s.deliver packing i party (.traffic event))
  | cancelled {i : Nat} {party : Party} {outcome : Exchange.Outcome Nat} (found : s.parties[i]? = some party)
      (gaveUp : party.exchange.step packing s.pool .cancelled = outcome) :
      Step packing s (.cancelled i)
        ⟨outcome.pool, s.parties.set i ⟨outcome.exchange, none, []⟩,
          release s.lines (Exchange.closings (party.orders ++ outcome.commands))⟩
  | answered {l : Nat} {octets : Bytes} {line other : Line} (found : s.lines[l]? = some line)
      (answers : line.answer? octets = some other) :
      Step packing s (.answered l octets) { s with lines := s.lines.set l other }
  | hungUp {l : Nat} : Step packing s (.hungUp l) { s with lines := s.lines.modify l .hangUp }
  | stirred {l : Nat} {backlog : Bool} :
      Step packing s (.stirred l backlog) { s with lines := s.lines.modify l fun line => { line with backlog } }
  | remove {endpoint : Endpoint} :
      Step packing s (.remove endpoint)
        ⟨(s.pool.remove endpoint).pool, s.parties, release s.lines (s.pool.remove endpoint).closing⟩
  | clear : Step packing s .clear ⟨.empty, s.parties, release s.lines s.pool.connections⟩

/-- What an action does is one of these. -/
theorem step_of_step? (possible : s.step? packing action = some s') : Step packing s action s' := by
  cases action with
  | begin i =>
    simp only [step?, Option.bind_eq_bind, Option.bind_eq_some_iff] at possible
    obtain ⟨party, found, possible⟩ := possible
    split at possible
    · cases possible
      exact .begin found ‹_›
    · cases possible
  | obey i =>
    simp only [step?, Option.bind_eq_bind, Option.bind_eq_some_iff] at possible
    obtain ⟨party, found, possible⟩ := possible
    split at possible
    · cases possible
      exact .obey found ‹_›
    · cases possible
  | opened i =>
    simp only [step?, Option.bind_eq_bind, Option.bind_eq_some_iff] at possible
    obtain ⟨party, found, possible⟩ := possible
    split at possible
    · cases possible
      exact .opened found ‹_› ‹_›
    · cases possible
  | openFailed i failure =>
    simp only [step?, Option.bind_eq_bind, Option.bind_eq_some_iff] at possible
    obtain ⟨party, found, possible⟩ := possible
    split at possible
    · cases possible
      exact .openFailed found ‹_› ‹_›
    · cases possible
  | traffic i event =>
    simp only [step?, Option.bind_eq_bind, Option.bind_eq_some_iff] at possible
    obtain ⟨party, found, possible⟩ := possible
    split at possible
    · rename_i entry trip talking idle unheard
      split at possible
      · cases possible
        exact .traffic found talking idle unheard ‹_›
      · cases possible
    · cases possible
  | read i count =>
    simp only [step?, read?, Option.bind_eq_bind, Option.bind_eq_some_iff] at possible
    obtain ⟨party, found, possible⟩ := possible
    split at possible
    · rename_i entry parser talking idle unheard
      obtain ⟨line, here, possible⟩ := Option.bind_eq_some_iff.mp possible
      split at possible
      · cases possible
        exact .read found talking idle unheard here ‹_›
      · cases possible
    · cases possible
  | react i =>
    simp only [step?, Option.bind_eq_bind, Option.bind_eq_some_iff, Option.some.injEq] at possible
    obtain ⟨party, found, event, news, rfl⟩ := possible
    exact .react found news
  | cancelled i =>
    simp only [step?, Option.bind_eq_bind, Option.bind_eq_some_iff, Option.some.injEq] at possible
    obtain ⟨party, found, rfl⟩ := possible
    exact .cancelled found rfl
  | answered l octets =>
    simp only [step?, Option.bind_eq_bind, Option.bind_eq_some_iff, Option.some.injEq] at possible
    obtain ⟨line, found, other, answers, rfl⟩ := possible
    exact .answered found answers
  | hungUp l =>
    cases possible
    exact .hungUp
  | stirred l backlog =>
    cases possible
    exact .stirred
  | remove endpoint =>
    cases possible
    exact .remove
  | clear =>
    cases possible
    exact .clear

/-- No action gives a connection to another endpoint, takes back what was asked, or opens what was released. -/
theorem Step.onward (step : Step packing s action s') : Onward s.lines s'.lines := by
  cases step with
  | begin => exact .refl _
  | @obey i party order => exact onward_obey i party.exchange.request s.lines order
  | opened =>
    intro l line here
    obtain ⟨inside, -⟩ := List.getElem?_eq_some_iff.mp here
    exact ⟨line, (List.getElem?_append_left inside).trans here, .refl line⟩
  | openFailed => exact .refl _
  | traffic => exact .refl _
  | @read i count party entry parser line piece socket found talking idle unheard here reads =>
    obtain ⟨stream, there, -, rfl⟩ := Line.read_eq reads
    exact onward_set here (line.onward_of_stream _ line.backlog line.came fun none => by simp [none] at there)
  | react => exact .refl _
  | cancelled => exact onward_release s.lines _
  | @answered l octets line other found answers =>
    obtain ⟨stream, there, rfl⟩ := Line.answer?_eq_some answers
    exact onward_set found (line.onward_of_stream _ line.backlog _ fun none => by simp [none] at there)
  | @hungUp l => exact onward_modify s.lines l Line.onward_hangUp
  | @stirred l backlog =>
    exact onward_modify s.lines l fun line => line.onward_of_stream line.socket backlog line.came id
  | remove => exact onward_release s.lines _
  | clear => exact onward_release s.lines _

/-- What an action leaves is what it does, or the same as before. -/
theorem step_after (packing : Packing) (s : Sharing) (action : Action) :
    s.after packing action = s ∨ Step packing s action (s.after packing action) := by
  cases possible : s.step? packing action with
  | none => exact .inl (by simp only [Sharing.after, possible, Option.getD_none])
  | some s' =>
    have same : s.after packing action = s' := by simp only [Sharing.after, possible, Option.getD_some]
    exact .inr (same ▸ step_of_step? possible)

theorem onward_run (packing : Packing) (s : Sharing) (actions : List Action) :
    Onward s.lines (s.run packing actions).lines := by
  induction actions generalizing s with
  | nil => exact .refl _
  | cons action rest ih =>
    refine Onward.trans ?_ (ih (s.after packing action))
    rcases step_after packing s action with same | step
    · exact same.symm ▸ .refl _
    · exact step.onward

end Sharing
end HttpExchange
