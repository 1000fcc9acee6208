import HttpExchange.Proofs.Server.Framing
import HttpExchange.Proofs.Server.Reading
import HttpExchange.Server.Conversation

/-!
Requests on one connection do not touch each other. A peer that sends a request, waits for the answer and sends
the next one is answered each time as if the connection were new, whatever the size of the reads and however the
octets come in: what a conversation has heard so far is described by its octets alone (`Heard`), and behind an
answer that keeps it open nothing of it is left.
-/
namespace HttpExchange.Conversation
open Connection (Answer Verdict verdict)

/-! ### Lock step -/

/-- The peer sends octets in fragments, each as soon as the one before is read, and reads what comes back. -/
def ask (packing : Packing) (respond : Request → Response) (size : Nat) (c : Conversation) (fragments : List Bytes) :
    Bytes × Conversation :=
  (fragments.foldl (fun c fragment => (c.hear fragment).settle packing respond size) c).readAll

/-- What comes back when the peer sends one string after the other, the next one only behind the answer to the one
before, each time with whether the connection is over then. -/
def lockStep (packing : Packing) (respond : Request → Response) (size : Nat) (c : Conversation) :
    List (List Bytes) → List (Bytes × Bool)
  | [] => []
  | fragments :: rest =>
    let (answer, c) := c.ask packing respond size fragments
    (answer, c.isOver) :: if answer = [] ∨ c.isOver then [] else c.lockStep packing respond size rest

/-- What comes back from a new connection, with whether it is over then. -/
def alone (packing : Packing) (respond : Request → Response) (size : Nat) (fragments : List Bytes) : Bytes × Bool :=
  let (answer, c) := fresh.ask packing respond size fragments
  (answer, c.isOver)

/-- Answers up to the first string that is not answered or ends the connection. -/
def upToEnd : List (Bytes × Bool) → List (Bytes × Bool)
  | [] => []
  | (answer, ends) :: rest => (answer, ends) :: if answer = [] ∨ ends then [] else upToEnd rest

/-- A string of which no proper part completes a request. -/
def Unsurplused (s : Bytes) : Prop :=
  ∀ n < s.length, ((Parser.fresh : Parser RequestLine).feed (s.take n)).1 ≠ .ok .complete

instance (s : Bytes) : Decidable (Unsurplused s) :=
  inferInstanceAs (Decidable (∀ n < s.length, ((Parser.fresh : Parser RequestLine).feed (s.take n)).1 ≠ .ok .complete))

theorem Unsurplused.prefix {s more : Bytes} (whole : Unsurplused (s ++ more)) : Unsurplused s := by
  intro n inside
  have part := whole n (by rw [List.length_append]; omega)
  rwa [List.take_append_of_le_length (by omega)] at part

/-- Nothing comes behind a request in its string. -/
theorem Unsurplused.eq_nil {packing : Packing} {s more : Bytes} {request : Request} (whole : Unsurplused (s ++ more))
    (asked : verdict packing s = .asked request) : more = [] := by
  by_contra proper
  refine whole s.length ?_ ?_
  · have long := List.length_pos_iff.mpr proper
    rw [List.length_append]
    omega
  · rw [List.take_left]
    exact Connection.complete_of_asked asked

/-! ### What is heard -/

/-- A conversation with a peer that neither says goodbye nor breaks it off, and with workers that answer. -/
def plain (connection : Connection) (inbox outbox : Bytes) (request : Option Request)
    (outcome : Option (Option Failure)) : Conversation :=
  ⟨connection, inbox, outbox, false, false, false, false, request, outcome⟩

/-- A conversation that waits for more behind pieces of a request, nothing of which is answered. -/
inductive Waits (heard : Bytes) : Conversation → Prop
  | intro {c : Connection} {pieces : List Bytes} (all : pieces.flatten = heard) (stage : c.stage = .reading)
      (waits : Parser.fresh.feedAll pieces = (.ok .needMore, c.parser)) : Waits heard (plain c [] [] none none)

/-- A conversation behind an answer: ready for the next request with a fresh reader, or over. -/
inductive Answered (answer : Answer) : Conversation → Prop
  | ready {c : Connection} (keeps : answer.keepAlive = true) (stage : c.stage = .reading) (parser : c.parser = .fresh) :
      Answered answer (plain c [] answer.octets none none)
  | closed {c : Connection} (inbox : Bytes) (closes : answer.keepAlive = false) (stage : c.stage = .closed) :
      Answered answer (plain c inbox answer.octets none (some none))

/-- A conversation that has heard octets since its reader was fresh, and did what they ask for. -/
def Heard (packing : Packing) (respond : Request → Response) (heard : Bytes) (c : Conversation) : Prop :=
  match (verdict packing heard).answer? respond with
  | none => Waits heard c
  | some answer => Answered answer c

variable {packing : Packing} {respond : Request → Response} {size : Nat}

theorem Waits.heard {heard : Bytes} {c : Conversation} (waits : Waits heard c) : Heard packing respond heard c := by
  obtain ⟨rfl, stage, fed⟩ := waits
  rw [Heard, Connection.verdict_of_feedAll packing fed]
  exact .intro rfl stage fed

/-- Octets behind those that settle the answer change nothing. -/
theorem Answered.heard {answer : Answer} {c : Conversation} (answered : Answered answer c) {heard : Bytes}
    (given : (verdict packing heard).answer? respond = some answer) (more : Bytes) :
    Heard packing respond (heard ++ more) c := by
  have settled : verdict packing heard ≠ .unfinished := by
    intro unfinished
    rw [unfinished] at given
    cases given
  rw [Heard, Connection.verdict_append settled, given]
  exact answered

/-! ### Running on -/

theorem settleFor_of_rest {c : Conversation} (rest : c.next? respond size = none) (fuel : Nat) :
    c.settleFor packing respond size fuel = c := by
  cases fuel with
  | zero => rfl
  | succ fuel => rw [settleFor, rest]

theorem settleFor_succ {c d : Conversation} {event : Connection.Event} (next : c.next? respond size = some (event, d))
    (fuel : Nat) :
    c.settleFor packing respond size (fuel + 1) = (d.take packing event).settleFor packing respond size fuel := by
  rw [settleFor, next]

theorem Waits.rest {heard : Bytes} {c : Conversation} (waits : Waits heard c) : c.next? respond size = none := by
  obtain ⟨-, stage, -⟩ := waits
  simp [plain, next?, stage]

theorem Answered.rest {answer : Answer} {c : Conversation} (answered : Answered answer c) :
    c.next? respond size = none := by
  cases answered with
  | ready _ stage _ => simp [plain, next?, stage]
  | closed inbox _ stage => simp [plain, next?, stage]

/-- An answer is written, and the connection goes on with a fresh reader or ends. -/
theorem settleFor_writing {c : Connection} (answer : Answer) (stage : c.stage = .writing answer.octets)
    (keeps : c.keepAlive = answer.keepAlive) {inbox : Bytes} (read : answer.keepAlive = true → inbox = []) (fuel : Nat) :
    Answered answer ((plain c inbox answer.octets none none).settleFor packing respond size (fuel + 1)) := by
  have next : (plain c inbox answer.octets none none).next? respond size =
      some (.written, plain c inbox answer.octets none none) := by
    simp [plain, next?, stage]
  have stepped : c.step packing .written =
      if c.keepAlive then ({ c with stage := .reading, parser := .fresh }, []) else c.shutDown := by
    unfold Connection.step
    rw [stage]
    rfl
  have answered : Answered answer ((plain c inbox answer.octets none none).take packing .written) := by
    cases stays : answer.keepAlive with
    | true =>
      rw [take, plain, stepped, keeps, stays, read stays]
      exact .ready stays rfl rfl
    | false =>
      rw [take, plain, stepped, keeps, stays]
      exact .closed inbox stays rfl
  rw [settleFor_succ next, settleFor_of_rest answered.rest]
  exact answered

/-- A request that is handed out is answered. -/
theorem settleFor_queued {c : Connection} {request : Request} (stage : c.stage = .queued)
    (keeps : c.keepAlive = request.keepAlive) (head : c.headOnly = decide (request.start.method = .head))
    {inbox : Bytes} (read : request.keepAlive = true → inbox = []) (fuel : Nat) :
    Answered (.reply request (respond request))
      ((plain c inbox [] (some request) none).settleFor packing respond size (fuel + 2)) := by
  have next : (plain c inbox [] (some request) none).next? respond size =
      some (.replied (respond request), plain c inbox [] none none) := by
    simp [plain, next?, stage]
  have stepped : c.step packing (.replied (respond request)) =
      c.startWriting (Answer.reply request (respond request)).octets := by
    rw [Connection.step_replied stage, keeps, head]
    rfl
  have taken : (plain c inbox [] none none).take packing (.replied (respond request)) =
      plain { c with stage := .writing (Answer.reply request (respond request)).octets } inbox
        (Answer.reply request (respond request)).octets none none := by
    rw [take, plain, stepped]
    rfl
  rw [settleFor_succ next, taken]
  exact settleFor_writing (c := { c with stage := .writing (Answer.reply request (respond request)).octets })
    (.reply request (respond request)) rfl keeps read fuel

/-- What is there is read up to a size, and the conversation goes on with what the connection makes of it. -/
theorem settleFor_received {c : Connection} (stage : c.stage = .reading) {data : Bytes} (more : data ≠ []) (fuel : Nat) :
    (plain c data [] none none).settleFor packing respond size (fuel + 1) =
      ((c.read packing (data.take size)).2.foldl obey
        (plain (c.read packing (data.take size)).1 (data.drop size) [] none none)).settleFor packing respond size fuel := by
  have next : (plain c data [] none none).next? respond size =
      some (.received (data.take size), plain c (data.drop size) [] none none) := by
    simp [plain, next?, stage, more]
  have stepped : c.step packing (.received (data.take size)) = c.read packing (data.take size) := by
    unfold Connection.step
    rw [stage]
  rw [settleFor_succ next, take, plain, stepped]
  rfl

/-- Reads of any size take in what is there, answer what it completes and come to rest. -/
theorem settleFor_reading (positive : 0 < size) {c : Connection} {pieces : List Bytes} (stage : c.stage = .reading)
    (waits : Parser.fresh.feedAll pieces = (.ok .needMore, c.parser)) (data : Bytes)
    (whole : Unsurplused (pieces.flatten ++ data)) {fuel : Nat} (enough : data.length + 2 ≤ fuel) :
    Heard packing respond (pieces.flatten ++ data)
      ((plain c data [] none none).settleFor packing respond size fuel) := by
  induction fuel generalizing c pieces data with
  | zero => omega
  | succ fuel ih =>
    rcases eq_or_ne data [] with rfl | more
    · have waiting : Waits (pieces.flatten ++ []) (plain c [] [] none none) :=
        .intro (List.append_nil _).symm stage waits
      rw [settleFor_of_rest waiting.rest]
      exact waiting.heard
    · have long := List.length_pos_iff.mpr more
      have nonempty : data.take size ≠ [] := by simp [more]; omega
      have shorter : (data.drop size).length < data.length := by rw [List.length_drop]; omega
      have regrouped : pieces.flatten ++ data = (pieces ++ [data.take size]).flatten ++ data.drop size := by
        rw [List.flatten_append, List.flatten_singleton, List.append_assoc, List.take_append_drop]
      obtain ⟨parser, goesOn⟩ := Connection.read_verdict packing waits nonempty
      -- Every read takes an octet at least, and an answer takes two events more.
      obtain ⟨fuel, rfl⟩ := Nat.exists_eq_add_of_le' (show 2 ≤ fuel by omega)
      rw [regrouped] at whole ⊢
      rw [settleFor_received stage more]
      cases judged : verdict packing (pieces ++ [data.take size]).flatten with
      | unfinished =>
        simp only [judged] at goesOn
        rw [goesOn.2]
        exact ih (c := { c with parser }) stage goesOn.1 (data.drop size) whole (by omega)
      | refused =>
        simp only [judged] at goesOn
        rw [goesOn]
        refine Answered.heard (settleFor_writing .fault ?_ ?_ ?_ (fuel + 1)) (by rw [judged]; rfl) _
        · rfl
        · rfl
        · simp [Answer.keepAlive]
      | asked request =>
        simp only [judged] at goesOn
        -- The request is complete, so nothing of the string is left to be read.
        have read : data.drop size = [] := whole.eq_nil judged
        rw [goesOn]
        refine Answered.heard (settleFor_queued ?_ ?_ ?_ (fun _ => read) fuel) (by rw [judged]; rfl) _
        · rfl
        · rfl
        · rfl

/-! ### Strings -/

/-- Behind its answer a conversation does nothing more for a string. -/
theorem Answered.hear {answer : Answer} {c : Conversation} (answered : Answered answer c) {fragment : Bytes}
    (read : answer.keepAlive = true → fragment = []) :
    Answered answer ((c.hear fragment).settle packing respond size) := by
  have heard : Answered answer (c.hear fragment) := by
    cases answered with
    | ready keeps stage parser =>
      rw [read keeps]
      exact .ready keeps stage parser
    | closed inbox closes stage => exact .closed (inbox ++ fragment) closes stage
  rw [settle, settleFor_of_rest heard.rest]
  exact heard

/-- A conversation that did what the octets so far ask for does so for the next fragment too. -/
theorem Heard.hear {heard fragment : Bytes} {c : Conversation} (done : Heard packing respond heard c)
    (whole : Unsurplused (heard ++ fragment)) :
    Heard packing respond (heard ++ fragment) ((c.hear fragment).settle packing respond size) := by
  cases judged : verdict packing heard with
  | unfinished =>
    rw [Heard, judged] at done
    obtain ⟨rfl, stage, waits⟩ := done
    have positive : 0 < max size 1 := by omega
    exact settleFor_reading positive stage waits fragment whole
      (by simp only [plain, Conversation.hear, List.nil_append]; omega)
  | refused =>
    rw [Heard, judged] at done
    exact (Answered.hear done fun keeps => by cases keeps).heard (by rw [judged]; rfl) fragment
  | asked request =>
    rw [Heard, judged] at done
    exact (Answered.hear done fun _ => whole.eq_nil judged).heard (by rw [judged]; rfl) fragment

theorem Heard.hearAll {heard : Bytes} {c : Conversation} (done : Heard packing respond heard c)
    (fragments : List Bytes) (whole : Unsurplused (heard ++ fragments.flatten)) :
    Heard packing respond (heard ++ fragments.flatten)
      (fragments.foldl (fun c fragment => (c.hear fragment).settle packing respond size) c) := by
  induction fragments generalizing heard c with
  | nil => simpa using done
  | cons fragment rest ih =>
    rw [List.flatten_cons, ← List.append_assoc] at whole ⊢
    exact ih (done.hear whole.prefix) whole

/-- What comes back for a string, with whether the connection is over then. -/
def reply (packing : Packing) (respond : Request → Response) (s : Bytes) : Bytes × Bool :=
  match (verdict packing s).answer? respond with
  | none => ([], false)
  | some answer => (answer.octets, !answer.keepAlive)

/-- A conversation at the begin of a request, whatever came before. -/
inductive Idle : Conversation → Prop
  | intro {c : Connection} (stage : c.stage = .reading) (parser : c.parser = .fresh) : Idle (plain c [] [] none none)

/-- The peer reads the answer to a string, and a connection that is open behind it is at the begin of a request. -/
theorem Heard.readAll {s : Bytes} {c : Conversation} (done : Heard packing respond s c) :
    c.readAll.1 = (reply packing respond s).1 ∧ c.readAll.2.isOver = (reply packing respond s).2 ∧
      (¬ ((reply packing respond s).1 = [] ∨ (reply packing respond s).2 = true) → Idle c.readAll.2) := by
  unfold Heard at done
  unfold reply
  cases judged : (verdict packing s).answer? respond with
  | none =>
    rw [judged] at done
    obtain ⟨-, stage, -⟩ := done
    exact ⟨rfl, by simp [Conversation.readAll, isOver, plain, stage], fun goesOn => absurd (.inl rfl) goesOn⟩
  | some answer =>
    rw [judged] at done
    cases done with
    | ready keeps stage parser =>
      exact ⟨rfl, by simp [Conversation.readAll, isOver, plain, stage, keeps], fun _ => .intro stage parser⟩
    | closed inbox closes stage =>
      exact ⟨rfl, by simp [Conversation.readAll, isOver, plain, stage, closes],
        fun goesOn => absurd (.inr (by simp [closes])) goesOn⟩

/-- Whatever came before, a string is heard from its begin. -/
theorem Idle.hearAll {c : Conversation} (idle : Idle c) (packing : Packing) (respond : Request → Response) (size : Nat)
    {fragments : List Bytes} (whole : Unsurplused fragments.flatten) :
    Heard packing respond fragments.flatten
      (fragments.foldl (fun c fragment => (c.hear fragment).settle packing respond size) c) := by
  have start : Waits [] c := by
    obtain ⟨stage, parser⟩ := idle
    exact .intro List.flatten_nil stage (by rw [parser]; rfl)
  exact start.heard.hearAll fragments whole

theorem Idle.lockStep {c : Conversation} (idle : Idle c) (cut : List (List Bytes))
    (whole : ∀ fragments ∈ cut, Unsurplused fragments.flatten) :
    c.lockStep packing respond size cut = upToEnd (cut.map fun fragments => reply packing respond fragments.flatten) := by
  induction cut generalizing c with
  | nil => rfl
  | cons fragments rest ih =>
    obtain ⟨answer, ends, goesOn⟩ := (idle.hearAll packing respond size (whole fragments (by simp))).readAll
    rw [Conversation.lockStep, List.map_cons, upToEnd]
    simp only [ask, answer, ends]
    by_cases closes : (reply packing respond fragments.flatten).1 = [] ∨ (reply packing respond fragments.flatten).2 = true
    · rw [if_pos closes, if_pos closes]
    · rw [if_neg closes, if_neg closes, ih (goesOn closes) fun later member => whole later (by simp [member])]

theorem idle_fresh : Idle fresh := .intro rfl rfl

/-- Alone on a new connection, a string is answered as it is. -/
theorem alone_eq (packing : Packing) (respond : Request → Response) (size : Nat) {fragments : List Bytes}
    (whole : Unsurplused fragments.flatten) :
    alone packing respond size fragments = reply packing respond fragments.flatten := by
  obtain ⟨answer, ends, -⟩ := (idle_fresh.hearAll packing respond size whole).readAll
  exact Prod.ext answer ends

/-- Strings in lock step, none of which has more behind the request that it completes, are answered the same
whatever the size of the reads and however the octets come in, up to the same end; and each of them is answered as
on a new connection. -/
theorem lockStep_isolated (packing : Packing) (respond : Request → Response) (strings : List Bytes)
    (unsurplused : ∀ s ∈ strings, Unsurplused s) (size other : Nat) (cut otherCut : List (List Bytes))
    (whole : cut.map List.flatten = strings) (otherWhole : otherCut.map List.flatten = strings) :
    fresh.lockStep packing respond size cut = fresh.lockStep packing respond other otherCut ∧
      fresh.lockStep packing respond size cut = upToEnd (otherCut.map (alone packing respond other)) := by
  have answers (size : Nat) (cut : List (List Bytes)) (whole : cut.map List.flatten = strings) :
      fresh.lockStep packing respond size cut = upToEnd (strings.map (reply packing respond)) := by
    rw [idle_fresh.lockStep cut fun fragments member => unsurplused _ (whole ▸ List.mem_map_of_mem member), ← whole,
      List.map_map]
    rfl
  have each : otherCut.map (alone packing respond other) = strings.map (reply packing respond) := by
    rw [← otherWhole, List.map_map]
    refine List.map_congr_left fun fragments member => ?_
    exact alone_eq packing respond other (unsurplused _ (otherWhole ▸ List.mem_map_of_mem member))
  rw [answers size cut whole, answers other otherCut otherWhole, each]
  exact ⟨rfl, rfl⟩

/-- A head and then nonsense, read octet by octet, against reads of seven octets: the fault goes out with its body. -/
theorem lockStep_isolated_head :
    let head := Utf8.encode "HEAD / HTTP/1.1\r\nContent-Length:0\r\n\r\n"
    let nonsense := Utf8.encode "x\r\n"
    let echo (request : Request) : Response := ⟨⟨.ok, "OK", "HTTP/1.1"⟩, ⟨[]⟩, none, Utf8.encode request.start.target⟩
    let cut := [[head.take 9, head.drop 9], [nonsense]]
    let otherCut := [[head], [nonsense.take 2, nonsense.drop 2]]
    fresh.lockStep .standard echo 7 otherCut =
        [(Utf8.encode "HTTP/1.1 200 OK\r\nConnection: Keep-Alive\r\nContent-Length: 1\r\n\r\n", false),
          (Connection.Answer.fault.octets, true)] ∧
      fresh.lockStep .standard echo 0 cut = fresh.lockStep .standard echo 7 otherCut ∧
      fresh.lockStep .standard echo 0 cut = upToEnd (otherCut.map (alone .standard echo 7)) := by
  intro head nonsense echo cut otherCut
  refine ⟨by decide +kernel, ?_⟩
  exact lockStep_isolated .standard echo [head, nonsense] (by decide +kernel) 0 7 cut otherCut (by decide +kernel)
    (by decide +kernel)

end HttpExchange.Conversation
