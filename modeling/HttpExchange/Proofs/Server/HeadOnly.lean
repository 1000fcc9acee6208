import HttpExchange.Proofs.ContentCoding.Lossless
import HttpExchange.Proofs.Server.LifeCycle

/-!
What is answered to those who ask for a head. The method is known once the request is read, but only the workers'
answers heed it: the fault for a body that does not unpack is sent whole. So a response goes out without its body
exactly if the body of the request unpacks (`run_bodiless_iff`).
-/
namespace HttpExchange.Connection
open HttpExchange.Parser (headLimit lengthBound)

/-- The request that octets complete, when a reader begins with them. -/
def completed? (heard : Bytes) : Option Request :=
  match Parser.outcome (Parser.fresh.feed heard) with
  | (.ok .complete, .done request) => request
  | _ => none

/-- A request that was read is handed out if its body unpacks, and refused else. -/
theorem verdict_of_completed {heard : Bytes} {request : Request} (completed : completed? heard = some request)
    (packing : Packing) :
    verdict packing heard =
      match ContentCoding.decode packing request with
      | .ok unpacked => .asked unpacked
      | .error _ => .refused := by
  unfold completed? at completed
  split at completed
  · rename_i read
    rw [verdict, read, completed]
    rfl
  · cases completed

/-- What is asked is a request that was read, with its body unpacked. -/
theorem completed_of_asked {packing : Packing} {heard : Bytes} {unpacked : Request}
    (asked : verdict packing heard = .asked unpacked) :
    ∃ request, completed? heard = some request ∧ ContentCoding.decode packing request = .ok unpacked := by
  unfold verdict judge at asked
  split at asked
  · cases asked
  · rename_i request read
    refine ⟨request, by rw [completed?, read], ?_⟩
    split at asked
    · rename_i other unpacks
      rw [unpacks, Verdict.asked.inj asked]
    · cases asked
  · cases asked

/-- Unpacking leaves the start line alone. -/
theorem start_of_decode {packing : Packing} {request unpacked : Request}
    (unpacks : ContentCoding.decode packing request = .ok unpacked) : unpacked.start = request.start := by
  have unpacking := ContentCoding.unpacking_held packing request
  have decodes := unpacking.decodes
  rw [unpacks] at decodes
  cases result : (ContentCoding.held packing request).1 with
  | error failure =>
    rw [result] at decodes
    cases decodes
  | ok _ =>
    rw [result] at decodes
    rw [Except.ok.inj decodes]
    exact unpacking.start

/-! ### Responses without their bodies -/

/-- A response that goes out without its body. -/
structure Bodiless (octets : Bytes) (response : Response) : Prop where
  /-- All that is missing is the body. -/
  missing : octets ++ response.body = Wire.serialize response
  /-- The last header announces its length, and a blank line is the end. -/
  announced : ∃ before,
    octets = before ++ Wire.line ("Content-Length: " ++ Text.decimal response.body.length) ++ Bytes.crlf
  /-- Whoever asked for the head finds this end. -/
  framed : response.headers.WireSafe → response.start.WireSafe → octets.length ≤ headLimit →
    response.body.length < lengthBound → Framed StatusLine true octets

theorem bodiless_head (response : Response) : Bodiless (Wire.head response) response where
  missing := rfl
  announced := ⟨_, rfl⟩
  framed headers line fits length :=
    (@framed_octets_iff true response headers line fits length).mpr (.inl rfl)

/-- A response that goes out whole goes out without its body only if there is none. -/
theorem not_bodiless_serialize {response : Response} (body : response.body ≠ []) :
    ¬ Bodiless (Wire.serialize response) response := fun bodiless =>
  body (List.self_eq_append_right.mp bodiless.missing.symm)

/-- A request for a head that is answered is answered without a body if its own body unpacks, and only then. -/
theorem Cycle.Lawful.bodiless_iff {packing : Packing} {cycle : Cycle} (lawful : cycle.Lawful packing)
    {request : Request} (completed : completed? cycle.pieces.flatten = some request)
    (head : request.start.method = .head) {answer : Answer} {transfer : Transfer}
    (answered : cycle.course = .answered answer transfer) :
    Bodiless answer.octets answer.response ↔ ∃ unpacked, ContentCoding.decode packing request = .ok unpacked := by
  have judged := lawful.judged
  rw [answered, verdict_of_completed completed] at judged
  cases unpacks : ContentCoding.decode packing request with
  | ok unpacked =>
    rw [unpacks] at judged
    refine iff_of_true ?_ ⟨unpacked, rfl⟩
    cases answer with
    | fault => cases judged
    | reply asked response =>
      obtain rfl : asked = unpacked := Verdict.asked.inj judged
      have same : asked.start.method = .head := by rw [start_of_decode unpacks, head]
      have sent : (Answer.reply asked response).octets = Wire.head (finishResponse asked.keepAlive response) := by
        rw [Answer.octets, octets, if_pos (decide_eq_true same)]
      rw [sent]
      exact bodiless_head _
  | error failure =>
    rw [unpacks] at judged
    refine iff_of_false ?_ (by simp)
    cases answer with
    | reply asked response => cases judged
    | fault => exact not_bodiless_serialize (by decide +kernel)

/-- Whatever happens to a connection, its life falls into cycles, and what it answers in one of them to a request for
a head ends with the blank line behind the headers, the length of the missing body announced, exactly if the body of
the request unpacks. -/
theorem run_bodiless_iff (packing : Packing) (events : List Event) :
    ∃ earlier last, LifeCycle packing (fresh.heeded packing events) (fresh.run packing events).2
        (fresh.run packing events).1 earlier last ∧
      ∀ cycle ∈ earlier ++ [last], ∀ request, completed? cycle.pieces.flatten = some request →
        request.start.method = .head → ∀ answer transfer, cycle.course = .answered answer transfer →
          .send answer.octets ∈ (fresh.run packing events).2 ∧
            (Bodiless answer.octets answer.response ↔
              ∃ unpacked, ContentCoding.decode packing request = .ok unpacked) := by
  obtain ⟨-, earlier, last, life⟩ := run_lifeCycle packing events
  refine ⟨earlier, last, life, fun cycle member request completed head answer transfer answered => ⟨?_, ?_⟩⟩
  · rw [life.done]
    refine List.mem_flatMap.mpr ⟨cycle, member, ?_⟩
    simp [Cycle.effects, Cycle.work, answered, Course.answer?]
  · exact (life.lawful cycle member).bodiless_iff completed head answered

/-- A page whose head is asked for. Its answer goes out without its body. -/
theorem run_bodiless_iff_page :
    let asked := Utf8.encode "HEAD /page HTTP/1.1\r\nContent-Length: 0\r\n\r\n"
    let page : Response := ⟨⟨.ok, "OK", "HTTP/1.1"⟩, ⟨[⟨"Content-Type", "text/plain"⟩]⟩, none, Utf8.encode "hello"⟩
    let head := Utf8.encode
      "HTTP/1.1 200 OK\r\nContent-Type: text/plain\r\nConnection: Keep-Alive\r\nContent-Length: 5\r\n\r\n"
    ∃ answer : Answer, answer.octets = head ∧ .send head ∈ (fresh.run .standard [.received asked, .replied page]).2 ∧
      Bodiless head answer.response := by
  intro asked page head
  let request : Request := ⟨⟨.head, "/page", "HTTP/1.1"⟩, ⟨[⟨"Content-Length", "0"⟩]⟩, some 0, []⟩
  obtain ⟨earlier, last, life, answers⟩ := run_bodiless_iff .standard [.received asked, .replied page]
  have did : (fresh.run .standard [.received asked, .replied page]).2 = [.enqueue request, .send head] := by
    decide +kernel
  have output : (earlier ++ [last]).filterMap (fun cycle => cycle.course.answer?.map Answer.octets) = [head] := by
    rw [← life.output, did]
    rfl
  have jobs : (earlier ++ [last]).filterMap (fun cycle => cycle.course.request?) = [request] := by
    rw [← life.jobs, did]
    rfl
  obtain ⟨cycle, member, sent⟩ := List.mem_filterMap.mp (output ▸ List.mem_singleton_self head)
  obtain ⟨answer, there, same⟩ := Option.map_eq_some_iff.mp sent
  have answered : ∃ transfer, cycle.course = .answered answer transfer := by
    cases course : cycle.course <;> simp [course, Course.answer?] at there
    exact ⟨_, by rw [there]⟩
  obtain ⟨transfer, answered⟩ := answered
  cases answer with
  | fault => exact absurd same (by decide +kernel)
  | reply unpacked response =>
    have handedOut : cycle.course.request? = some unpacked := by rw [answered]; rfl
    obtain rfl : unpacked = request :=
      List.mem_singleton.mp (jobs ▸ List.mem_filterMap.mpr ⟨cycle, member, handedOut⟩)
    obtain ⟨read, completed, unpacks⟩ := completed_of_asked ((life.asked cycle member _).mp handedOut)
    have method : read.start.method = .head := by rw [← start_of_decode unpacks]
    obtain ⟨went, bodiless⟩ := answers cycle member read completed method _ transfer answered
    rw [same] at went bodiless
    exact ⟨_, same, went, bodiless.mpr ⟨_, unpacks⟩⟩

/-- A body that does not unpack. The request for a head is answered with a fault, body and all. -/
theorem not_bodiless_undecodable :
    let asked := Utf8.encode "HEAD / HTTP/1.1\r\nContent-Encoding: gzip\r\nContent-Length: 4\r\n\r\njunk"
    let head := Utf8.encode "HTTP/1.1 400 Bad Request\r\nConnection: Close\r\nContent-Length: 15\r\n\r\n"
    let sent := head ++ Utf8.encode "400 Bad Request"
    (completed? asked).map (fun request => request.start.method) = some .head ∧
      (fresh.run .standard [.received asked]).2 = [.send sent] ∧
      Wire.serialize (finishResponse false Response.badRequest) = sent ∧
      ¬ Bodiless sent (finishResponse false Response.badRequest) := by
  refine ⟨by decide +kernel, by decide +kernel, by decide +kernel, fun bodiless => ?_⟩
  exact absurd bodiless.missing (by decide +kernel)

end HttpExchange.Connection
