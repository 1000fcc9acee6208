import HttpExchange.Server.Connection
import HttpExchange.Proofs.Wire

/-!
Where the responses of a connection end. What goes out is settled by the request that was handed out last; the
one who asked finds the end of the response where it is written, except behind a response that has a body
although its status excludes one.
-/
namespace HttpExchange
open HttpExchange.Parser (headLimit lengthBound)

theorem Headers.wireSafe_set {h : Headers} (safe : h.WireSafe) {name value : String}
    (field : Field.WireSafe ⟨name, value⟩) : (h.set name value).WireSafe where
  distinct := Headers.distinct_set safe.distinct name value
  fields other member := by
    rcases (Headers.mem_put safe.distinct).mp member with rfl | ⟨old, -⟩
    · exact field
    · exact safe.fields other old

namespace Connection
open Wire (Readable readLine headBack)

/-- The request that was handed to the workers last. -/
def lastEnqueued (effects : List Effect) : Option Request :=
  (effects.filterMap fun
    | .enqueue request => some request
    | _ => none).getLast?

/-- A connection that waits for a worker answers the request it handed out last. -/
def Settled (c : Connection) (effects : List Effect) : Prop :=
  c.stage = .queued → ∃ request, lastEnqueued effects = some request ∧ c.keepAlive = request.keepAlive ∧
    c.headOnly = decide (request.start.method = .head)

/-! ### Runs -/

theorem accept_queued {packing : Packing} {c : Connection} (queued : (c.accept packing).1.stage = .queued) :
    ∃ (d : Connection) (request : Request), c.accept packing = d.dispatch request := by
  unfold accept at queued ⊢
  cases taken : c.parser.take.1 with
  | none => simp [taken, fault, startWriting] at queued
  | some request =>
    cases unpacked : ContentCoding.decode packing request with
    | error failure => simp [taken, unpacked, fault, startWriting] at queued
    | ok request =>
      simp only [taken, unpacked]
      exact ⟨_, request, rfl⟩

theorem read_queued {packing : Packing} {c : Connection} {piece : Bytes} (reading : c.stage = .reading)
    (queued : (c.read packing piece).1.stage = .queued) :
    ∃ (d : Connection) (request : Request), c.read packing piece = d.dispatch request := by
  unfold read at queued ⊢
  by_cases empty : piece = []
  · simp [empty, finish] at queued
  · rw [if_neg empty] at queued ⊢
    generalize c.parser.feed piece = fed at queued ⊢
    rcases fed with ⟨_ | _ | _, parser⟩
    · simp [fault, startWriting] at queued
    · simp [reading] at queued
    · exact accept_queued queued

/-- A connection comes to wait for a worker by handing out a request, and waits on through events that do not
concern it. -/
theorem step_queued {packing : Packing} {c : Connection} {event : Event}
    (queued : (c.step packing event).1.stage = .queued) :
    c.step packing event = (c, []) ∨
      ∃ (d : Connection) (request : Request), c.step packing event = d.dispatch request := by
  unfold step at queued ⊢
  split at queued
  · exact .inl rfl
  · simp [finish] at queued
  · rename_i reading
    exact .inr (read_queued reading queued)
  · simp [finish] at queued
  · simp [startWriting] at queued
  · simp [shutDown] at queued
  · split at queued
    · simp at queued
    · simp [shutDown] at queued
  · simp [finish] at queued
  · exact .inl rfl

/-- One event keeps what a waiting connection answers settled. -/
theorem Settled.step {c : Connection} {effects : List Effect} (settled : c.Settled effects) (packing : Packing)
    (event : Event) : (c.step packing event).1.Settled (effects ++ (c.step packing event).2) := by
  intro queued
  rcases step_queued queued with same | ⟨d, request, dispatched⟩
  · rw [same] at queued ⊢
    rw [List.append_nil]
    exact settled queued
  · rw [dispatched]
    exact ⟨request, by simp [dispatch, lastEnqueued], rfl, rfl⟩

theorem Settled.run {c : Connection} {effects : List Effect} (settled : c.Settled effects) (packing : Packing)
    (events : List Event) : (c.run packing events).1.Settled (effects ++ (c.run packing events).2) := by
  induction events generalizing c effects with
  | nil => simpa [Connection.run] using settled
  | cons event rest ih => simpa [Connection.run] using ih (settled.step packing event)

/-- Whatever happens to a connection, it answers the request it handed out last. -/
theorem settled_run (packing : Packing) (events : List Event) :
    (fresh.run packing events).1.Settled (fresh.run packing events).2 := by
  have start : fresh.Settled [] := fun queued => by simp [fresh] at queued
  exact start.run packing events

/-! ### The end of a response -/

/-- What a connection adds to a response is as safe as the rest. -/
theorem wireSafe_finishResponse (keepAlive : Bool) {response : Response} (headers : response.headers.WireSafe) :
    (finishResponse keepAlive response).headers.WireSafe := by
  refine Headers.wireSafe_set headers ?_
  cases keepAlive <;> decide +kernel

theorem get?_connection (keepAlive : Bool) (response : Response) :
    (finishResponse keepAlive response).headers.get? "Connection" =
      some (if keepAlive then "Keep-Alive" else "Close") :=
  Headers.get?_set _ _ _

theorem octets_ne_nil (headOnly : Bool) (response : Response) : octets headOnly response ≠ [] := by
  unfold octets
  split_ifs
  · exact Wire.head_ne_nil response
  · exact Wire.serialize_ne_nil response

theorem step_replied {c : Connection} (queued : c.stage = .queued) (packing : Packing) (response : Response) :
    c.step packing (.replied response) =
      c.startWriting (octets c.headOnly (finishResponse c.keepAlive response)) := by
  unfold step
  rw [queued]

/-- The one who asked without a body to come finds the end of every response; any other one finds it unless the
response has a body that its status excludes. -/
theorem framed_octets_iff {headOnly : Bool} {response : Response} (headers : response.headers.WireSafe)
    (line : response.start.WireSafe) (fits : (Wire.head response).length ≤ headLimit)
    (length : response.body.length < lengthBound) :
    Framed StatusLine headOnly (octets headOnly response) ↔
      headOnly = true ∨ response.start.status.isBodiless = false ∨ response.body = [] := by
  have readable := Wire.readable_response headers line fits length
  cases headOnly with
  | true =>
    have unbodied : ¬ Parser.Bodied true (headBack response (readLine response.start)) := fun bodied => by
      simpa using bodied.1
    exact iff_of_true (readable.framed_head unbodied) (.inl rfl)
  | false =>
    rw [octets, if_neg (by decide), readable.framed_serialize_iff, Wire.mayHaveBody_readLine]
    simp

/-- Whatever came before, the response to the request that was handed out last is framed for the one who asked
exactly if the request was for a head, the status allows a body or there is no body. -/
theorem framed_reply_iff (packing : Packing) (events : List Event) (request : Request) (response : Response)
    (queued : (fresh.run packing events).1.stage = .queued)
    (asked : lastEnqueued (fresh.run packing events).2 = some request)
    (headers : response.headers.WireSafe) (line : response.start.WireSafe)
    (fits : (Wire.head (finishResponse request.keepAlive response)).length ≤ headLimit)
    (length : response.body.length < lengthBound) :
    ∃ sent, ((fresh.run packing events).1.step packing (.replied response)).2 = [.send sent] ∧
      (finishResponse request.keepAlive response).headers.get? "Connection" =
        some (if request.keepAlive then "Keep-Alive" else "Close") ∧
      (Framed StatusLine (request.start.method = .head) sent ↔
        request.start.method = .head ∨ response.start.status.isBodiless = false ∨ response.body = []) := by
  obtain ⟨other, last, keepAlive, headOnly⟩ := settled_run packing events queued
  obtain rfl : request = other := Option.some.inj (asked.symm.trans last)
  refine ⟨octets (request.start.method = .head) (finishResponse request.keepAlive response), ?_,
    get?_connection _ _, ?_⟩
  · rw [step_replied queued, keepAlive, headOnly]
    rfl
  · rw [framed_octets_iff (wireSafe_finishResponse _ headers) line fits length, decide_eq_true_eq]
    rfl

/-- A page asked for on a connection that stays open is framed. -/
theorem framed_reply_page :
    let asked := Utf8.encode "GET /page HTTP/1.1\r\nContent-Length: 0\r\n\r\n"
    let page : Response := ⟨⟨.ok, "OK", "HTTP/1.1"⟩, ⟨[⟨"Content-Type", "text/plain"⟩]⟩, none, [104, 105]⟩
    ∃ sent, ((fresh.run .standard [.received asked]).1.step .standard (.replied page)).2 = [.send sent] ∧
      Framed StatusLine false sent := by
  obtain ⟨sent, sends, -, framed⟩ := framed_reply_iff .standard
    [.received (Utf8.encode "GET /page HTTP/1.1\r\nContent-Length: 0\r\n\r\n")]
    ⟨⟨.get, "/page", "HTTP/1.1"⟩, ⟨[⟨"Content-Length", "0"⟩]⟩, some 0, []⟩
    ⟨⟨.ok, "OK", "HTTP/1.1"⟩, ⟨[⟨"Content-Type", "text/plain"⟩]⟩, none, [104, 105]⟩ (by decide +kernel)
    (by decide +kernel) (by decide +kernel) (by decide +kernel) (by decide +kernel) (by decide)
  exact ⟨sent, sends, framed.mpr (.inr (.inl (by decide)))⟩

/-- A body behind a status that excludes one is left over on a connection that stays open: the one who asked is
done before it, with every part of the response in place. -/
theorem not_framed_reply_noContent :
    let c := (fresh.run .standard [.received (Utf8.encode "GET /gone HTTP/1.1\r\nContent-Length: 0\r\n\r\n")]).1
    let response : Response :=
      ⟨⟨.noContent, "No Content", "HTTP/1.1"⟩, ⟨[⟨"Content-Type", "text/plain"⟩]⟩, none, [120]⟩
    (c.stage = .queued ∧ c.headOnly = false ∧ response.headers.WireSafe ∧ response.start.WireSafe ∧
      (Wire.head (finishResponse c.keepAlive response)).length ≤ headLimit ∧
      (finishResponse c.keepAlive response).headers.get? "Connection" = some "Keep-Alive") ∧
    ∃ sent, (c.step .standard (.replied response)).2 = [.send sent] ∧ ¬ Framed StatusLine false sent := by
  refine ⟨by decide +kernel, Utf8.encode
    "HTTP/1.1 204 No Content\r\nContent-Type: text/plain\r\nConnection: Keep-Alive\r\nContent-Length: 1\r\n\r\nx",
    by decide +kernel, fun framed => ?_⟩
  have early := framed.2 (Utf8.encode
    "HTTP/1.1 204 No Content\r\nContent-Type: text/plain\r\nConnection: Keep-Alive\r\nContent-Length: 1\r\n\r\n")
  exact early (by decide +kernel) (by decide +kernel) (by decide +kernel)

end Connection
end HttpExchange
