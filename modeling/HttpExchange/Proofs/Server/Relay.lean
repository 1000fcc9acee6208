import HttpExchange.Proofs.Server.LifeCycle
import HttpExchange.Proofs.Server.Workers
import HttpExchange.Server.Relay

/-!
What becomes of the requests of many connections. Each of them is one job, which is in one place; a job that was
taken is answered once, whatever the service does. A connection hears nothing but the reply to the request it
handed out last, while it waits for it: a reply goes to the slip of its own job, and only the connection that wrote
the slip can receive it (`Attended`), as long as it waits (`Orderly.held`).
-/
namespace HttpExchange

namespace Router

/-- What the response to a request may be, by what the routes and the service do. -/
inductive Answers (packing : Packing) (router : Router Service) (request : Request) : Response → Prop
  | unrouted (absent : router.resolve request.decodedPath = none) : Answers packing router request .notFound
  | failed {service : Service} {arguments : List String}
      (found : router.resolve request.decodedPath = some (service, arguments))
      (fails : service request arguments = none) : Answers packing router request .internalError
  | served {service : Service} {arguments : List String} {response : Response}
      (found : router.resolve request.decodedPath = some (service, arguments))
      (gives : service request arguments = some response) :
      Answers packing router request (ContentCoding.compress packing request response)

end Router

namespace Connection

theorem run_concat (packing : Packing) (c : Connection) (events : List Event) (event : Event) :
    c.run packing (events ++ [event]) =
      (((c.run packing events).1.step packing event).1,
        (c.run packing events).2 ++ ((c.run packing events).1.step packing event).2) := by
  induction events generalizing c with
  | nil => simp [run]
  | cons first rest ih =>
    rw [List.cons_append, run_cons, run_cons, ih]
    simp only [List.append_assoc]

/-- A connection came to something else than waiting for a reply, and handed out nothing. -/
def MovedOn (outcome : Connection × List Effect) : Prop :=
  outcome.2.filterMap Effect.job? = [] ∧ outcome.1.stage ≠ .queued

/-- A connection handed out a request and waits for the reply. -/
def Dispatched (outcome : Connection × List Effect) : Prop :=
  ∃ (d : Connection) (request : Request), outcome = (d, [.enqueue request]) ∧ d.stage = .queued

theorem movedOn_fault (c : Connection) (response : Response) : MovedOn (c.fault response) :=
  ⟨rfl, Stage.noConfusion⟩

theorem movedOn_startWriting (c : Connection) (octets : Bytes) : MovedOn (c.startWriting octets) :=
  ⟨rfl, Stage.noConfusion⟩

theorem movedOn_finish (c : Connection) (failure : Option Failure) : MovedOn (c.finish failure) :=
  ⟨rfl, Stage.noConfusion⟩

theorem movedOn_shutDown (c : Connection) : MovedOn c.shutDown := ⟨rfl, Stage.noConfusion⟩

theorem accept_cases (packing : Packing) (c : Connection) :
    Dispatched (c.accept packing) ∨ MovedOn (c.accept packing) := by
  unfold accept
  rcases c.parser.take with ⟨_ | request, parser⟩
  · exact .inr (movedOn_fault _ _)
  · simp only
    split
    · exact .inr (movedOn_fault _ _)
    · exact .inl ⟨_, _, rfl, rfl⟩

theorem read_cases (packing : Packing) {c : Connection} (reading : c.stage = .reading) (piece : Bytes) :
    Dispatched (c.read packing piece) ∨ MovedOn (c.read packing piece) := by
  unfold read
  by_cases empty : piece = []
  · rw [if_pos empty]
    exact .inr (movedOn_finish c none)
  · rw [if_neg empty]
    rcases c.parser.feed piece with ⟨_ | _ | _, parser⟩
    · exact .inr (movedOn_fault _ _)
    · exact .inr ⟨rfl, fun queued => Stage.noConfusion (reading.symm.trans queued)⟩
    · exact accept_cases packing _

/-- A connection that reads may hand out a request and wait for the reply. In every other case it hands out
nothing, and waits only if it did before. -/
theorem step_cases (packing : Packing) (c : Connection) (event : Event) :
    (c.stage = .reading ∧ Dispatched (c.step packing event)) ∨ MovedOn (c.step packing event) ∨
      c.step packing event = (c, []) := by
  unfold step
  split
  · exact .inr (.inr rfl)
  · exact .inr (.inl (movedOn_finish c none))
  · rename_i reading
    rcases read_cases packing reading _ with dispatched | moved
    · exact .inl ⟨reading, dispatched⟩
    · exact .inr (.inl moved)
  · exact .inr (.inl (movedOn_finish c _))
  · exact .inr (.inl (movedOn_startWriting c _))
  · exact .inr (.inl (movedOn_shutDown _))
  · split
    · exact .inr (.inl ⟨rfl, Stage.noConfusion⟩)
    · exact .inr (.inl (movedOn_shutDown c))
  · exact .inr (.inl (movedOn_finish c _))
  · exact .inr (.inr rfl)

end Connection

namespace Relay
open Connection (Event Effect)
variable {packing : Packing} {routers : Nat → Router Service} {r : Relay}

/-! ### Slips and jobs -/

/-- Which connection handed out which request, in turn. -/
def letters (slips : List Slip) : List (Nat × Request) := slips.map fun slip => (slip.connection, slip.request)

/-- The requests that one connection handed out. -/
def lettersOf (c : Nat) (letters : List (Nat × Request)) : List Request :=
  letters.filterMap fun letter => if letter.1 = c then some letter.2 else none

/-- The jobs that go with slips. -/
def jobsOf (letters : List (Nat × Request)) : List Job := letters.mapIdx fun n letter => ⟨n, letter.2⟩

theorem getElem?_letters (slips : List Slip) (n : Nat) :
    (letters slips)[n]? = slips[n]?.map fun slip => (slip.connection, slip.request) := List.getElem?_map

theorem jobsOf_concat (letters : List (Nat × Request)) (c : Nat) (request : Request) :
    jobsOf (letters ++ [(c, request)]) = jobsOf letters ++ [⟨letters.length, request⟩] := List.mapIdx_concat

theorem mem_jobsOf {letters : List (Nat × Request)} {job : Job} :
    job ∈ jobsOf letters ↔ ∃ c, letters[job.slip]? = some (c, job.request) := by
  rw [jobsOf, List.mem_mapIdx]
  constructor
  · rintro ⟨n, inside, rfl⟩
    exact ⟨letters[n].1, List.getElem?_eq_getElem inside⟩
  · rintro ⟨c, found⟩
    obtain ⟨inside, here⟩ := List.getElem?_eq_some_iff.mp found
    exact ⟨job.slip, inside, by rw [here]⟩

theorem lettersOf_append (c : Nat) (letters more : List (Nat × Request)) :
    lettersOf c (letters ++ more) = lettersOf c letters ++ lettersOf c more := List.filterMap_append

theorem lettersOf_own (c : Nat) (request : Request) : lettersOf c [(c, request)] = [request] := by
  simp [lettersOf]

theorem lettersOf_other {c d : Nat} (other : d ≠ c) (request : Request) : lettersOf c [(d, request)] = [] := by
  simp [lettersOf, other]

theorem getElem?_onReply (slips : List Slip) (n : Nat) (change : OneShot Response → OneShot Response) (m : Nat) :
    (onReply slips n change)[m]? =
      slips[m]?.map fun slip => if n = m then { slip with reply := change slip.reply } else slip :=
  List.getElem?_modify ..

@[simp] theorem letters_onReply (slips : List Slip) (n : Nat) (change : OneShot Response → OneShot Response) :
    letters (onReply slips n change) = letters slips := by
  refine List.ext_getElem? fun m => ?_
  rw [getElem?_letters, getElem?_letters, getElem?_onReply, Option.map_map]
  refine congrArg (fun view => slips[m]?.map view) (funext fun slip => ?_)
  rw [Function.comp_apply]
  split <;> rfl

/-- Nobody replies to what was dropped. -/
theorem getElem?_abandon (jobs : List Job) (slips : List Slip) (m : Nat) :
    (jobs.foldl (fun slips job => onReply slips job.slip .abandon) slips)[m]? =
      slips[m]?.map fun slip =>
        if m ∈ jobs.map Job.slip then { slip with reply := slip.reply.abandon } else slip := by
  induction jobs generalizing slips with
  | nil => simp
  | cons job rest ih =>
    rw [List.foldl_cons, ih, getElem?_onReply, Option.map_map]
    refine congrArg (fun view => slips[m]?.map view) (funext fun slip => ?_)
    rw [Function.comp_apply, List.map_cons]
    by_cases here : job.slip = m <;> by_cases later : m ∈ rest.map Job.slip <;>
      simp [here, later, eq_comm (a := m)]

@[simp] theorem letters_abandon (jobs : List Job) (slips : List Slip) :
    letters (jobs.foldl (fun slips job => onReply slips job.slip .abandon) slips) = letters slips := by
  induction jobs generalizing slips with
  | nil => rfl
  | cons job rest ih => rw [List.foldl_cons, ih, letters_onReply]

/-! ### What holds of slips and connections -/

/-- The job of a slip is outstanding, was handled or was dropped, and the channel says no more than that. -/
inductive Fits (packing : Packing) (routers : Nat → Router Service) (w : Workers Job) (n : Nat) (slip : Slip) : Prop
  | outstanding (member : ⟨n, slip.request⟩ ∈ w.queue.items ++ w.inHands)
      (reply : slip.reply = .waiting ∨ slip.reply = .deserted)
  | handled (member : ⟨n, slip.request⟩ ∈ w.handled)
      (reply : slip.reply = .sent ((routers n).respond packing slip.request) ∨ slip.reply = .settled)
  | dropped (member : ⟨n, slip.request⟩ ∈ w.dropped) (reply : slip.reply = .abandoned ∨ slip.reply = .settled)

/-- A connection that heard what is said here waited for it, and it was said of the request that the connection
handed out last: the reply to the job of that request, or that the job was dropped. -/
def Answered (packing : Packing) (routers : Nat → Router Service) (letters : List (Nat × Request)) (w : Workers Job)
    (c : Nat) (before : List Event) (event : Event) : Prop :=
  ∃ n request, letters[n]? = some (c, request) ∧ (Connection.fresh.run packing before).1.stage = .queued ∧
    (Connection.fresh.run packing before).2.filterMap Effect.job? = lettersOf c (letters.take (n + 1)) ∧
    ((event = .replied ((routers n).respond packing request) ∧ ⟨n, request⟩ ∈ w.handled) ∨
      (event = .unanswered ∧ ⟨n, request⟩ ∈ w.dropped))

/-- A connection is where its history brought it, its slips are the requests it handed out, it waits for the last
of them if for any, and it heard nothing but replies to its own requests. -/
structure Attended (packing : Packing) (routers : Nat → Router Service) (letters : List (Nat × Request))
    (w : Workers Job) (c : Nat) (post : Post) : Prop where
  connection : post.connection = (Connection.fresh.run packing post.heard).1
  handedOut : (Connection.fresh.run packing post.heard).2.filterMap Effect.job? = lettersOf c letters
  waits : post.connection.stage = .queued ↔ post.slip.isSome
  last : ∀ n, post.slip = some n → ∃ request, letters[n]? = some (c, request) ∧
    lettersOf c (letters.take (n + 1)) = lettersOf c letters
  answered : ∀ before event after, post.heard = before ++ event :: after → event.isReply = true →
    Answered packing routers letters w c before event

/-- The slip that a connection waits for. -/
def awaitedBy (posts : List Post) (c : Nat) : Option Nat := posts[c]?.bind Post.slip

theorem awaitedBy_set {posts : List Post} {c : Nat} {old : Post} (found : posts[c]? = some old) (post : Post)
    (d : Nat) : awaitedBy (posts.set c post) d = if c = d then post.slip else awaitedBy posts d := by
  obtain ⟨inside, -⟩ := List.getElem?_eq_some_iff.mp found
  rw [awaitedBy, awaitedBy, List.getElem?_set, if_pos inside]
  split <;> rfl

/-- What every action keeps. -/
structure Orderly (packing : Packing) (routers : Nat → Router Service) (r : Relay) : Prop where
  ledger : ∃ taken, Workers.Ledger (jobsOf (letters r.slips)) taken r.workers
  replies : r.replies = r.workers.handled.map fun job => (job.slip, (routers job.slip).respond packing job.request)
  fits : ∀ (n : Nat) (slip : Slip), r.slips[n]? = some slip → Fits packing routers r.workers n slip
  held : ∀ (n : Nat) (slip : Slip), r.slips[n]? = some slip →
    (slip.reply.isAwaited = true ↔ awaitedBy r.posts slip.connection = some n)
  posts : ∀ (c : Nat) (post : Post), r.posts[c]? = some post →
    Attended packing routers (letters r.slips) r.workers c post

theorem Fits.mono {w w' : Workers Job} {n : Nat} {slip : Slip} (fits : Fits packing routers w n slip)
    (outstanding : ∀ job ∈ w.queue.items ++ w.inHands, job ∈ w'.queue.items ++ w'.inHands)
    (handled : ∀ job ∈ w.handled, job ∈ w'.handled) (dropped : ∀ job ∈ w.dropped, job ∈ w'.dropped) :
    Fits packing routers w' n slip := by
  cases fits with
  | outstanding member reply => exact .outstanding (outstanding _ member) reply
  | handled member reply => exact .handled (handled _ member) reply
  | dropped member reply => exact .dropped (dropped _ member) reply

/-- One who lets go of a channel is told no more. -/
theorem Fits.desert {w : Workers Job} {n : Nat} {slip : Slip} (fits : Fits packing routers w n slip) :
    Fits packing routers w n { slip with reply := slip.reply.desert } := by
  have both {channel : OneShot Response} : slip.reply = channel → slip.reply.desert = channel.desert :=
    congrArg OneShot.desert
  cases fits with
  | outstanding member reply => exact .outstanding member (.inr (reply.elim both both))
  | handled member reply => exact .handled member (.inr (reply.elim both both))
  | dropped member reply => exact .dropped member (.inr (reply.elim both both))

theorem Answered.mono {more : List (Nat × Request)} {letters : List (Nat × Request)} {w w' : Workers Job} {c : Nat}
    {before : List Event} {event : Event} (answered : Answered packing routers letters w c before event)
    (handled : ∀ job ∈ w.handled, job ∈ w'.handled) (dropped : ∀ job ∈ w.dropped, job ∈ w'.dropped) :
    Answered packing routers (letters ++ more) w' c before event := by
  obtain ⟨n, request, found, queued, last, said⟩ := answered
  obtain ⟨inside, -⟩ := List.getElem?_eq_some_iff.mp found
  refine ⟨n, request, ?_, queued, ?_, said.imp (.imp_right (handled _)) (.imp_right (dropped _))⟩
  · rw [List.getElem?_append_left inside, found]
  · rw [last, List.take_append_of_le_length inside]

theorem Attended.mono {letters : List (Nat × Request)} {w w' : Workers Job} {c : Nat} {post : Post}
    (attended : Attended packing routers letters w c post) {more : List (Nat × Request)}
    (others : lettersOf c more = [])
    (handled : ∀ job ∈ w.handled, job ∈ w'.handled) (dropped : ∀ job ∈ w.dropped, job ∈ w'.dropped) :
    Attended packing routers (letters ++ more) w' c post where
  connection := attended.connection
  handedOut := by rw [attended.handedOut, lettersOf_append, others, List.append_nil]
  waits := attended.waits
  last n slip := by
    obtain ⟨request, found, last⟩ := attended.last n slip
    obtain ⟨inside, -⟩ := List.getElem?_eq_some_iff.mp found
    refine ⟨request, by rw [List.getElem?_append_left inside, found], ?_⟩
    rw [List.take_append_of_le_length inside, last, lettersOf_append, others, List.append_nil]
  answered before event after heard reply := (attended.answered before event after heard reply).mono handled dropped

/-! ### The workers -/

section
variable {action : Workers.Action Job} {workers : Workers Job}

/-- What the workers do leaves the connections alone, and everybody who waits. -/
theorem Orderly.ofWork (orderly : Orderly packing routers r) (step : Workers.Step r.workers action workers)
    (unoffered : action.offered? = none) {slips : List Slip} {replies : List (Nat × Response)}
    (same : letters slips = letters r.slips)
    (awaited : ∀ (n : Nat) (slip : Slip), slips[n]? = some slip → ∃ old, r.slips[n]? = some old ∧
      slip.connection = old.connection ∧ slip.reply.isAwaited = old.reply.isAwaited)
    (given : replies = workers.handled.map fun job => (job.slip, (routers job.slip).respond packing job.request))
    (fits : ∀ (n : Nat) (slip : Slip), slips[n]? = some slip → Fits packing routers workers n slip) :
    Orderly packing routers { r with workers, slips, replies } where
  ledger := by
    obtain ⟨taken, ledger⟩ := orderly.ledger
    have onward := ledger.step step
    rw [unoffered] at onward
    exact ⟨_, same ▸ (List.append_nil _) ▸ onward⟩
  replies := given
  fits := fits
  held n slip found := by
    obtain ⟨old, before, connection, awaited⟩ := awaited n slip found
    rw [connection, awaited]
    exact orderly.held n old before
  posts c post found := by
    have kept : Attended packing routers (letters r.slips ++ []) workers c post :=
      (orderly.posts c post found).mono rfl step.remains.1 step.remains.2
    rw [List.append_nil] at kept
    exact same ▸ kept

/-- Where no slip changes. -/
theorem Orderly.ofWork_same (orderly : Orderly packing routers r) (step : Workers.Step r.workers action workers)
    (unoffered : action.offered? = none) (handled : workers.handled = r.workers.handled)
    (outstanding : ∀ job ∈ r.workers.queue.items ++ r.workers.inHands,
      job ∈ workers.queue.items ++ workers.inHands) :
    Orderly packing routers { r with workers } :=
  orderly.ofWork step unoffered rfl (fun _ slip found => ⟨slip, found, rfl, rfl⟩) (handled ▸ orderly.replies)
    fun n slip found => (orderly.fits n slip found).mono outstanding step.remains.1 step.remains.2

/-- What waits or is in somebody's hands is the job of its slip. -/
theorem Orderly.eq_of_outstanding (orderly : Orderly packing routers r) {job : Job} {slip : Slip}
    (member : job ∈ r.workers.queue.items ++ r.workers.inHands) (found : r.slips[job.slip]? = some slip) :
    (⟨job.slip, slip.request⟩ : Job) = job := by
  obtain ⟨taken, ledger⟩ := orderly.ledger
  have mine : job ∈ jobsOf (letters r.slips) := by
    refine ledger.places.mem_iff.mpr ?_
    rw [List.append_assoc]
    exact List.mem_append_left _ member
  obtain ⟨c, written⟩ := mem_jobsOf.mp mine
  rw [getElem?_letters, found] at written
  obtain ⟨-, request⟩ : slip.connection = c ∧ slip.request = job.request := by simpa using written
  rw [request]

/-- One who finishes sends his reply to the channel of his own job. -/
theorem Orderly.finish (orderly : Orderly packing routers r) {i : Nat} {job : Job}
    (handles : r.workers.workers[i]? = some (.handling job)) :
    Orderly packing routers
      { r with
        workers := { r.workers.become i .waiting with handled := r.workers.handled ++ [job] }
        slips := onReply r.slips job.slip (·.send ((routers job.slip).respond packing job.request))
        replies := r.replies ++ [(job.slip, (routers job.slip).respond packing job.request)] } := by
  have step := Workers.Step.finish handles
  have hands : ∀ other ∈ r.workers.inHands, other = job ∨ other ∈ (r.workers.become i .waiting).inHands := by
    intro other member
    have kept := (Workers.inHands_become handles .waiting).mem_iff (a := other)
    simpa [Worker.item?, member, or_comm] using kept
  have held : job ∈ r.workers.queue.items ++ r.workers.inHands :=
    List.mem_append_right _ (List.mem_flatMap.mpr ⟨_, List.mem_of_getElem? handles, List.mem_singleton_self job⟩)
  refine orderly.ofWork step rfl (letters_onReply ..) (fun n slip found => ?_) ?_ fun n slip found => ?_
  · rw [getElem?_onReply] at found
    obtain ⟨old, before, rfl⟩ := Option.map_eq_some_iff.mp found
    refine ⟨old, before, ?_⟩
    split
    · exact ⟨rfl, OneShot.isAwaited_send ..⟩
    · exact ⟨rfl, rfl⟩
  · rw [orderly.replies, List.map_append]
    rfl
  · rw [getElem?_onReply] at found
    obtain ⟨old, before, rfl⟩ := Option.map_eq_some_iff.mp found
    have fits := orderly.fits n old before
    by_cases own : job.slip = n
    · rw [if_pos own]
      subst own
      have mine := orderly.eq_of_outstanding held before
      have sends {channel : OneShot Response} {response : Response} :
          old.reply = channel → old.reply.send response = channel.send response := congrArg _
      cases fits with
      | outstanding member reply =>
        refine .handled (List.mem_append_right _ (List.mem_singleton.mpr mine)) (reply.imp (fun waiting => ?_) sends)
        rw [waiting, ← mine]
        rfl
      | handled member reply => exact .handled (List.mem_append_left _ member) (reply.imp sends sends)
      | dropped member reply => exact .dropped member (reply.imp sends sends)
    · rw [if_neg own]
      cases fits with
      | outstanding member reply =>
        refine .outstanding ?_ reply
        rcases List.mem_append.mp member with waits | held
        · exact List.mem_append_left _ waits
        · rcases hands _ held with same | held
          · exact absurd (congrArg Job.slip same).symm own
          · exact List.mem_append_right _ held
      | handled member reply => exact .handled (List.mem_append_left _ member) reply
      | dropped member reply => exact .dropped member reply

/-- Who waits for what is dropped learns that nobody will reply. -/
theorem Orderly.clear (orderly : Orderly packing routers r) (running : r.workers.closing = .running) :
    Orderly packing routers
      { r with
        workers := { r.workers with
          queue := .empty, closing := .cleared, dropped := r.workers.dropped ++ r.workers.queue.items }
        slips := r.workers.queue.items.foldl (fun slips job => onReply slips job.slip .abandon) r.slips } := by
  refine orderly.ofWork (.clear running) rfl (letters_abandon ..) (fun n slip found => ?_) orderly.replies
    fun n slip found => ?_
  · rw [getElem?_abandon] at found
    obtain ⟨old, before, rfl⟩ := Option.map_eq_some_iff.mp found
    refine ⟨old, before, ?_⟩
    split
    · exact ⟨rfl, OneShot.isAwaited_abandon _⟩
    · exact ⟨rfl, rfl⟩
  · rw [getElem?_abandon] at found
    obtain ⟨old, before, rfl⟩ := Option.map_eq_some_iff.mp found
    have fits := orderly.fits n old before
    by_cases waits : n ∈ r.workers.queue.items.map Job.slip
    · rw [if_pos waits]
      have dropped : (⟨n, old.request⟩ : Job) ∈ r.workers.dropped ++ r.workers.queue.items := by
        obtain ⟨job, member, rfl⟩ := List.mem_map.mp waits
        rw [orderly.eq_of_outstanding (List.mem_append_left _ member) before]
        exact List.mem_append_right _ member
      have abandons {channel : OneShot Response} : old.reply = channel → old.reply.abandon = channel.abandon :=
        congrArg _
      cases fits with
      | outstanding member reply => exact .dropped dropped (reply.imp abandons abandons)
      | handled member reply => exact .handled member (reply.imp abandons abandons)
      | dropped member reply => exact .dropped dropped (reply.imp abandons abandons)
    · rw [if_neg waits]
      cases fits with
      | outstanding member reply =>
        refine .outstanding ?_ reply
        rcases List.mem_append.mp member with queued | held
        · exact absurd (List.mem_map_of_mem queued) waits
        · exact held
      | handled member reply => exact .handled member reply
      | dropped member reply => exact .dropped (List.mem_append_left _ member) reply

/-- Whatever is done among the workers keeps the order. -/
theorem Orderly.attend (orderly : Orderly packing routers r) (step : Workers.Step r.workers action workers)
    (unoffered : action.offered? = none) : Orderly packing routers (r.attend packing routers workers action) := by
  cases step with
  | enqueue item => cases unoffered
  | @take i item queue waits first =>
    refine orderly.ofWork_same (.take waits first) rfl rfl fun job member => ?_
    have kept := (Workers.inHands_become waits (.handling item)).mem_iff (a := job)
    rw [Queue.items_of_dequeue? first] at member
    show job ∈ queue.items ++ (r.workers.become i (.handling item)).inHands
    simp only [Worker.item?, Option.toList, List.nil_append, List.mem_append] at kept member ⊢
    rw [kept]
    rwa [or_assoc, or_left_comm] at member
  | @takeSign i queue waits first =>
    refine orderly.ofWork_same (.takeSign waits first) rfl rfl fun job member => ?_
    have kept := (Workers.inHands_become waits .leaving).mem_iff (a := job)
    rw [Queue.items_of_dequeue? first] at member
    show job ∈ queue.items ++ (r.workers.become i .leaving).inHands
    rw [List.mem_append] at member ⊢
    exact member.imp_right kept.mpr
  | finish handles =>
    simp only [Relay.attend, handles]
    exact orderly.finish handles
  | @leave i leaves =>
    refine orderly.ofWork_same (.leave leaves) rfl rfl fun job member => ?_
    have kept := (Workers.inHands_become leaves .gone).mem_iff (a := job)
    show job ∈ (r.workers.queue.push none).items ++ (r.workers.become i .gone).inHands
    rw [Queue.items_push_none]
    rw [List.mem_append] at member ⊢
    exact member.imp_right kept.mpr
  | clear running => exact orderly.clear running
  | signal cleared =>
    refine orderly.ofWork_same (.signal cleared) rfl rfl fun job member => ?_
    show job ∈ (r.workers.queue.push none).items ++ r.workers.inHands
    rwa [Queue.items_push_none]
  | join signalled gone => exact orderly.ofWork_same (.join signalled gone) rfl rfl fun job => id

end

/-! ### The connections -/

section
variable {c : Nat} {post : Post} {event : Event}

/-- A connection that takes in an event is where its longer history brings it. -/
theorem Attended.heard {lettersThen : List (Nat × Request)} {w : Workers Job}
    (attended : Attended packing routers lettersThen w c post) (more : List (Nat × Request)) (w' : Workers Job)
    (slip : Option Nat) (handled : ∀ job ∈ w.handled, job ∈ w'.handled)
    (dropped : ∀ job ∈ w.dropped, job ∈ w'.dropped)
    (said : event.isReply = true → Answered packing routers lettersThen w c post.heard event)
    (gives : (post.connection.step packing event).2.filterMap Effect.job? = lettersOf c more)
    (waits : (post.connection.step packing event).1.stage = .queued ↔ slip.isSome)
    (last : ∀ n, slip = some n → ∃ request, (lettersThen ++ more)[n]? = some (c, request) ∧
      lettersOf c ((lettersThen ++ more).take (n + 1)) = lettersOf c (lettersThen ++ more)) :
    Attended packing routers (lettersThen ++ more) w' c
      ⟨(post.connection.step packing event).1, post.heard ++ [event], slip⟩ where
  connection := by rw [Connection.run_concat, ← attended.connection]
  handedOut := by
    rw [Connection.run_concat, ← attended.connection, List.filterMap_append, attended.handedOut, gives,
      lettersOf_append]
  waits := waits
  last := last
  answered before here after heard reply := by
    rcases Replacement.concat_eq_append_cons heard with ⟨rfl, rfl⟩ | ⟨rest, earlier⟩
    · exact (said reply).mono handled dropped
    · exact (attended.answered before here rest earlier reply).mono handled dropped

theorem hear_dispatched {d : Connection} {request : Request}
    (steps : post.connection.step packing event = (d, [.enqueue request])) :
    r.hear packing c post event =
      { r with
        workers := { r.workers with queue := r.workers.queue.enqueue ⟨r.slips.length, request⟩ }
        posts := r.posts.set c ⟨d, post.heard ++ [event], some r.slips.length⟩
        slips := r.slips ++ [⟨c, request, .waiting⟩] } := by
  rw [hear, steps]

theorem hear_other (none : (post.connection.step packing event).2.filterMap Effect.job? = []) :
    r.hear packing c post event =
      if (post.connection.step packing event).1.stage = .queued then
        { r with posts := r.posts.set c ⟨(post.connection.step packing event).1, post.heard ++ [event], post.slip⟩ }
      else
        { r with
          posts := r.posts.set c ⟨(post.connection.step packing event).1, post.heard ++ [event], Option.none⟩
          slips := post.slip.elim r.slips fun n => onReply r.slips n .desert } := by
  unfold hear
  split
  · rename_i d request steps
    rw [steps] at none
    cases none
  · rename_i d effects _ steps
    simp only [steps]

/-- A connection hands out a request and waits for the reply. -/
theorem Orderly.dispatched (orderly : Orderly packing routers r) (found : r.posts[c]? = some post)
    (reading : post.connection.stage = .reading) {d : Connection} {request : Request}
    (steps : post.connection.step packing event = (d, [.enqueue request])) (queued : d.stage = .queued)
    (said : event.isReply = true → Answered packing routers (letters r.slips) r.workers c post.heard event) :
    Orderly packing routers
      { r with
        workers := { r.workers with queue := r.workers.queue.enqueue ⟨r.slips.length, request⟩ }
        posts := r.posts.set c ⟨d, post.heard ++ [event], some r.slips.length⟩
        slips := r.slips ++ [⟨c, request, .waiting⟩] } := by
  have attended := orderly.posts c post found
  have idle : post.slip = none := by
    refine Option.not_isSome_iff_eq_none.mp fun waits => ?_
    cases reading.symm.trans (attended.waits.mpr waits)
  have written : letters (r.slips ++ [⟨c, request, .waiting⟩]) = letters r.slips ++ [(c, request)] :=
    List.map_append
  have counted : (letters r.slips).length = r.slips.length := List.length_map _
  exact {
    ledger := by
      obtain ⟨taken, ledger⟩ := orderly.ledger
      refine ⟨taken, ?_⟩
      have onward := ledger.step (.enqueue ⟨r.slips.length, request⟩)
      rw [written, jobsOf_concat, counted]
      exact (List.append_nil taken) ▸ onward
    replies := orderly.replies
    fits := fun n slip here => by
      rcases Replacement.concat_cases here with ⟨-, before⟩ | ⟨rfl, rfl⟩
      · refine (orderly.fits n slip before).mono (fun job member => ?_) (fun job => id) fun job => id
        show job ∈ (r.workers.queue.enqueue ⟨r.slips.length, request⟩).items ++ r.workers.inHands
        rw [Queue.items_enqueue, List.append_assoc]
        exact List.mem_append.mpr ((List.mem_append.mp member).imp_right (List.mem_append_right _))
      · refine .outstanding (List.mem_append_left _ ?_) (.inl rfl)
        show _ ∈ (r.workers.queue.enqueue ⟨r.slips.length, request⟩).items
        rw [Queue.items_enqueue]
        exact List.mem_append_right _ (List.mem_singleton_self _)
    held := fun n slip here => by
      rw [awaitedBy_set found]
      rcases Replacement.concat_cases here with ⟨inside, before⟩ | ⟨rfl, rfl⟩
      · rw [orderly.held n slip before]
        by_cases mine : c = slip.connection
        · rw [if_pos mine, ← mine, awaitedBy, found]
          exact iff_of_false (by simp [idle]) (by simp; omega)
        · rw [if_neg mine]
      · simp [OneShot.isAwaited]
    posts := fun e other here => by
      rw [written]
      rcases Replacement.set_cases here with ⟨rfl, rfl⟩ | ⟨apart, before⟩
      · have heard := attended.heard [(e, request)]
          { r.workers with queue := r.workers.queue.enqueue ⟨r.slips.length, request⟩ } (some r.slips.length)
          (fun job => id) (fun job => id) said
        rw [steps] at heard
        refine heard (lettersOf_own e request).symm (iff_of_true queued rfl) fun n last => ?_
        cases last
        rw [← counted]
        exact ⟨request, List.getElem?_concat_length, by rw [List.take_of_length_le (by simp)]⟩
      · exact (orderly.posts e other before).mono (lettersOf_other apart.symm request) (fun job => id) fun job => id }

/-- Lets go of a channel, if there is one to let go of. -/
theorem getElem?_desert (slips : List Slip) (slip? : Option Nat) (n : Nat) :
    (slip?.elim slips fun n => onReply slips n .desert)[n]? =
      slips[n]?.map fun slip => if slip? = some n then { slip with reply := slip.reply.desert } else slip := by
  cases slip? with
  | none => simp
  | some m =>
    rw [Option.elim_some, getElem?_onReply]
    simp only [Option.some.injEq]

theorem letters_desert (slips : List Slip) (slip? : Option Nat) :
    letters (slip?.elim slips fun n => onReply slips n .desert) = letters slips := by
  cases slip? with
  | none => rfl
  | some n => exact letters_onReply slips n .desert

/-- A connection that does not wait lets go of the channel it may have waited for. -/
theorem Orderly.moved (orderly : Orderly packing routers r) (found : r.posts[c]? = some post)
    (none : (post.connection.step packing event).2.filterMap Effect.job? = [])
    (moved : (post.connection.step packing event).1.stage ≠ .queued)
    (said : event.isReply = true → Answered packing routers (letters r.slips) r.workers c post.heard event) :
    Orderly packing routers
      { r with
        posts := r.posts.set c ⟨(post.connection.step packing event).1, post.heard ++ [event], Option.none⟩
        slips := post.slip.elim r.slips fun n => onReply r.slips n .desert } := by
  have attended := orderly.posts c post found
  have same := letters_desert r.slips post.slip
  exact {
    ledger := same ▸ orderly.ledger
    replies := orderly.replies
    fits := fun n slip here => by
      rw [getElem?_desert] at here
      obtain ⟨old, before, rfl⟩ := Option.map_eq_some_iff.mp here
      split
      · exact (orderly.fits n old before).desert
      · exact orderly.fits n old before
    held := fun n slip here => by
      rw [getElem?_desert] at here
      obtain ⟨old, before, rfl⟩ := Option.map_eq_some_iff.mp here
      rw [awaitedBy_set found]
      have held := orderly.held n old before
      by_cases mine : post.slip = some n
      · obtain ⟨request, written, -⟩ := attended.last n mine
        rw [getElem?_letters, before] at written
        obtain ⟨own, -⟩ : old.connection = c ∧ old.request = request := by simpa using written
        rw [if_pos mine, if_pos own.symm]
        exact iff_of_false (by simp) nofun
      · rw [if_neg mine]
        by_cases own : c = old.connection
        · rw [if_pos own]
          rw [← own, awaitedBy, found] at held
          exact iff_of_false (fun awaited => mine (held.mp awaited)) nofun
        · rw [if_neg own]
          exact held
    posts := fun e other here => by
      rw [same]
      rcases Replacement.set_cases here with ⟨rfl, rfl⟩ | ⟨-, before⟩
      · have heard := attended.heard [] r.workers Option.none (fun job => id)
          (fun job => id) said
        rw [List.append_nil] at heard
        exact heard none (iff_of_false moved Bool.false_ne_true) nofun
      · exact orderly.posts e other before }

/-- An event that a connection does not wait for changes nothing but its history. -/
theorem Orderly.ignored (orderly : Orderly packing routers r) (found : r.posts[c]? = some post)
    (ignores : post.connection.step packing event = (post.connection, []))
    (said : event.isReply = true → Answered packing routers (letters r.slips) r.workers c post.heard event) :
    Orderly packing routers
      { r with posts := r.posts.set c ⟨post.connection, post.heard ++ [event], post.slip⟩ } := by
  have attended := orderly.posts c post found
  exact {
    ledger := orderly.ledger
    replies := orderly.replies
    fits := orderly.fits
    held := fun n slip here => by
      rw [awaitedBy_set found, orderly.held n slip here]
      split
      · rename_i own
        rw [← own, awaitedBy, found]
        rfl
      · rfl
    posts := fun e other here => by
      rcases Replacement.set_cases here with ⟨rfl, rfl⟩ | ⟨-, before⟩
      · have heard := attended.heard [] r.workers post.slip (fun job => id)
          (fun job => id) said
        rw [ignores, List.append_nil] at heard
        exact heard rfl attended.waits attended.last
      · exact orderly.posts e other before }

/-- Whatever a connection takes in keeps the order, as long as a reply is one to its own request. -/
theorem Orderly.hear (orderly : Orderly packing routers r) (found : r.posts[c]? = some post)
    (said : event.isReply = true → Answered packing routers (letters r.slips) r.workers c post.heard event) :
    Orderly packing routers (r.hear packing c post event) := by
  rcases Connection.step_cases packing post.connection event with
    ⟨reading, d, request, steps, queued⟩ | ⟨none, moved⟩ | ignores
  · rw [hear_dispatched steps]
    exact orderly.dispatched found reading steps queued said
  · rw [hear_other none, if_neg moved]
    exact orderly.moved found none moved said
  · have none : (post.connection.step packing event).2.filterMap Effect.job? = [] := by rw [ignores]; rfl
    rw [hear_other none]
    split
    · rw [ignores]
      exact orderly.ignored found ignores said
    · rename_i moved
      exact orderly.moved found none moved said

end

/-! ### Every run -/

theorem step?_work {action : Workers.Action Job} (unoffered : action.offered? = none) :
    r.step? packing routers (.work action) =
      (r.workers.step? action).map fun workers => r.attend packing routers workers action := by
  cases action <;> first | rfl | cases unoffered

/-- What a connection receives was said of the request that it handed out last. -/
theorem Orderly.answered (orderly : Orderly packing routers r) {c n : Nat} {post : Post} {slip : Slip}
    {reply : Option Response} (found : r.posts[c]? = some post) (waits : post.slip = some n)
    (here : r.slips[n]? = some slip) (received : slip.reply.received? = some reply) :
    Answered packing routers (letters r.slips) r.workers c post.heard (.ofReply reply) := by
  have attended := orderly.posts c post found
  have queued := attended.waits.mpr (Option.isSome_iff_exists.mpr ⟨n, waits⟩)
  obtain ⟨request, written, last⟩ := attended.last n waits
  obtain ⟨-, rfl⟩ : slip.connection = c ∧ slip.request = request := by
    rw [getElem?_letters, here] at written
    simpa using written
  refine ⟨n, slip.request, written, attended.connection ▸ queued, attended.handedOut.trans last.symm, ?_⟩
  cases orderly.fits n slip here with
  | outstanding member channel =>
    rcases channel with channel | channel <;> rw [channel] at received <;> cases received
  | handled member channel =>
    rcases channel with channel | channel <;> rw [channel] at received <;> cases received
    exact .inl ⟨rfl, member⟩
  | dropped member channel =>
    rcases channel with channel | channel <;> rw [channel] at received <;> cases received
    exact .inr ⟨rfl, member⟩

/-- Every action keeps the order. -/
theorem Orderly.step (orderly : Orderly packing routers r) {action : Action} {r' : Relay}
    (possible : r.step? packing routers action = some r') : Orderly packing routers r' := by
  cases action with
  | happens c event =>
    simp only [step?] at possible
    split at possible
    · cases possible
    · rename_i outside
      obtain ⟨post, found, rfl⟩ := Option.map_eq_some_iff.mp possible
      exact orderly.hear found fun reply => absurd reply outside
  | receive c =>
    simp only [step?, Option.bind_eq_bind, Option.bind_eq_some_iff, Option.some.injEq] at possible
    obtain ⟨post, found, n, waits, slip, here, reply, received, rfl⟩ := possible
    exact orderly.hear found fun _ => orderly.answered found waits here received
  | work action =>
    cases offered : action.offered? with
    | some job =>
      cases action <;> cases offered
      cases possible
    | none =>
      rw [step?_work offered] at possible
      obtain ⟨workers, acted, rfl⟩ := Option.map_eq_some_iff.mp possible
      exact orderly.attend (Workers.step_of_step? acted) offered

theorem Orderly.run (orderly : Orderly packing routers r) (actions : List Action) :
    Orderly packing routers (r.run packing routers actions) := by
  induction actions generalizing r with
  | nil => exact orderly
  | cons action rest ih =>
    refine ih ?_
    show Orderly packing routers ((r.step? packing routers action).getD r)
    cases possible : r.step? packing routers action with
    | none => exact orderly
    | some r' => exact orderly.step possible

end Relay
end HttpExchange
