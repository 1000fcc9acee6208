import HttpExchange.Proofs.ContentCoding
import HttpExchange.Proofs.Text.Blank

/-!
Packing loses nothing. A message is unpacked in place or not at all; what was unpacked announces no packing, so
unpacking it again changes nothing. A response is packed at most once, for the one who takes it, and unpacks to
the body that it had. All that other headers say stays, in its order.
-/
namespace HttpExchange.ContentCoding
open Headers (named put)
open Text (asciiLower decimal sameIgnoringCase splitAt splitWhere_eq_splitOnP trim)
variable {S : Type}

/-! ### Unpacking in place -/

/-- A message that is changed in place. What was changed before a failure stays changed. -/
abbrev Changing (S : Type) := ExceptT Failure (StateM (Message S))

/-- Puts a body in place that was unpacked: the header that announced the packing goes first. -/
def install (unpacked : Except UnpackFault Bytes) : Changing S Unit := do
  let body ← MonadExcept.ofExcept (unpacked.mapError .decompress)
  modify fun m => { m with headers := m.headers.erase "Content-Encoding" }
  modify fun m => m.setBody body

/-- Unpacks the body of a message where it stands. -/
def decodeInPlace (packing : Packing) : Changing S Unit := do
  let m ← get
  match announced m.headers with
  | .gzip => install (packing.gunzip m.body)
  | .deflate => install (packing.inflate m.body)
  | .untouched => return

/-- What is held of a message after it was unpacked where it stands, and whether that went well. -/
def held (packing : Packing) (m : Message S) : Except Failure Unit × Message S := (decodeInPlace packing).run.run m

theorem run_install (unpacking : Except UnpackFault Bytes) (m : Message S) :
    (install unpacking).run.run m = match unpacking with
      | .ok body => (.ok (), unpacked m body)
      | .error fault => (.error (.decompress fault), m) := by
  cases unpacking <;> rfl

/-- A message is held as it unpacks, and after a failure as it was. -/
theorem held_eq (packing : Packing) (m : Message S) :
    held packing m = match decode packing m with
      | .ok read => (.ok (), read)
      | .error failure => (.error failure, m) := by
  have run : held packing m = (match announced m.headers with
      | .gzip => install (packing.gunzip m.body)
      | .deflate => install (packing.inflate m.body)
      | .untouched => return : Changing S Unit).run.run m := rfl
  rw [run, decode_eq]
  cases announced m.headers with
  | untouched => rfl
  | gzip =>
    rw [run_install]
    cases packing.gunzip m.body <;> rfl
  | deflate =>
    rw [run_install]
    cases packing.inflate m.body <;> rfl

/-! ### What unpacking changes -/

/-- A field that says neither how the body is packed nor how long it is. -/
def isOther (field : Field) : Bool := !named "Content-Encoding" field && !named "Content-Length" field

/-- The fields other than those that packing may change, in their order. -/
def others (m : Message S) : List Field := m.headers.fields.filter isOther

theorem others_setBody (m : Message S) (body : Bytes) : others (m.setBody body) = others m := by
  refine Headers.filter_put_of_dropped ⟨"Content-Length", decimal body.length⟩ (fun field same => ?_) m.headers.fields
  have same : named "Content-Length" field = true := same
  simp [isOther, same]

theorem others_unpacked (m : Message S) (body : Bytes) : others (unpacked m body) = others m := by
  rw [unpacked, others_setBody, others, others, Headers.erase, List.filter_filter]
  refine List.filter_congr fun field _ => ?_
  cases coding : named "Content-Encoding" field <;> simp [isOther, coding]

/-- The length of the body is declared once, and as it is. -/
structure LengthDeclared (m : Message S) : Prop where
  contentLength : m.contentLength = some m.body.length
  field : m.headers.fields.filter (named "Content-Length") = [⟨"Content-Length", decimal m.body.length⟩]

theorem lengthDeclared_setBody (m : Message S) (body : Bytes) : LengthDeclared (m.setBody body) where
  contentLength := rfl
  field := Headers.filter_named_put ⟨"Content-Length", decimal body.length⟩ m.headers.fields

/-- Nothing announces that a body is packed once it was unpacked. -/
theorem get?_unpacked (m : Message S) (body : Bytes) : (unpacked m body).headers.get? "Content-Encoding" = none := by
  rw [unpacked, Message.setBody, Headers.get?_set_of_ne (by decide), Headers.get?_eq_none_iff]
  refine List.any_eq_false.mpr fun field member => ?_
  have kept := (List.mem_filter.mp member).2
  simpa using kept

/-- What is left of a message that was unpacked in place. -/
structure Unpacking (packing : Packing) (m : Message S) (result : Except Failure Unit) (left : Message S) : Prop where
  /-- The message becomes what it unpacks to. -/
  decodes : decode packing m = result.map fun _ => left
  /-- It fails exactly if the coding that is announced is known and the body does not unpack in it, -/
  fails : ∀ failure, result = .error failure ↔ ∃ fault, failure = .decompress fault ∧
    (announced m.headers = .gzip ∧ packing.gunzip m.body = .error fault ∨
      announced m.headers = .deflate ∧ packing.inflate m.body = .error fault)
  /-- and then the message is as it was. -/
  whole : ∀ failure, result = .error failure → left = m
  /-- Neither the start line -/
  start : left.start = m.start
  /-- nor other fields change. -/
  others : others left = others m
  /-- What is announced in no known coding stays as it is. -/
  untouched : announced m.headers = .untouched → left = m
  /-- A body that unpacks takes the place of the packed one, -/
  body : result = .ok () → (announced m.headers = .gzip → packing.gunzip m.body = .ok left.body) ∧
    (announced m.headers = .deflate → packing.inflate m.body = .ok left.body)
  /-- with its length declared and no coding announced. -/
  plain : result = .ok () → announced m.headers ≠ .untouched →
    left.headers.contains "Content-Encoding" = false ∧ LengthDeclared left
  /-- Nothing is left to unpack. -/
  again : result = .ok () → decode packing left = .ok left

/-- A body that was unpacked in some way takes the place of the packed one. -/
theorem unpacking_of_ok {packing : Packing} {m : Message S} {body : Bytes}
    (unpacks : announced m.headers = .gzip ∧ packing.gunzip m.body = .ok body ∨
      announced m.headers = .deflate ∧ packing.inflate m.body = .ok body) :
    Unpacking packing m (.ok ()) (unpacked m body) where
  decodes := by
    rcases unpacks with ⟨coding, unpacks⟩ | ⟨coding, unpacks⟩
    · rw [decode_of_gzip coding, unpacks]
      rfl
    · rw [decode_of_deflate coding, unpacks]
      rfl
  fails failure := by
    rcases unpacks with ⟨coding, unpacks⟩ | ⟨coding, unpacks⟩ <;> simp [coding, unpacks]
  whole _ failed := by cases failed
  start := rfl
  others := others_unpacked m body
  untouched coding := by
    rcases unpacks with ⟨other, -⟩ | ⟨other, -⟩ <;> simp [coding] at other
  body _ := by
    have same : (unpacked m body).body = body := rfl
    rcases unpacks with ⟨coding, unpacks⟩ | ⟨coding, unpacks⟩ <;> simp [coding, unpacks, same]
  plain _ _ := ⟨Headers.get?_eq_none_iff.mp (get?_unpacked m body), lengthDeclared_setBody _ body⟩
  again _ := by
    have none : announced (unpacked m body).headers = .untouched := by
      rw [announced, get?_unpacked, Option.map_none, Option.getD_none]
    exact decode_of_untouched none packing

/-- A body that does not unpack is left packed. -/
theorem unpacking_of_error {packing : Packing} {m : Message S} {fault : UnpackFault}
    (fails : announced m.headers = .gzip ∧ packing.gunzip m.body = .error fault ∨
      announced m.headers = .deflate ∧ packing.inflate m.body = .error fault) :
    Unpacking packing m (.error (.decompress fault)) m where
  decodes := by
    rcases fails with ⟨coding, fails⟩ | ⟨coding, fails⟩
    · rw [decode_of_gzip coding, fails]
      rfl
    · rw [decode_of_deflate coding, fails]
      rfl
  fails failure := by
    rcases fails with ⟨coding, fails⟩ | ⟨coding, fails⟩ <;> simp [coding, fails, eq_comm]
  whole _ _ := rfl
  start := rfl
  others := rfl
  untouched _ := rfl
  body unpacks := by cases unpacks
  plain unpacks := by cases unpacks
  again unpacks := by cases unpacks

theorem unpacking_of_untouched {m : Message S} (untouched : announced m.headers = .untouched) (packing : Packing) :
    Unpacking packing m (.ok ()) m where
  decodes := decode_of_untouched untouched packing
  fails failure := by simp [untouched]
  whole _ _ := rfl
  start := rfl
  others := rfl
  untouched _ := rfl
  body _ := by simp [untouched]
  plain _ known := absurd untouched known
  again _ := decode_of_untouched untouched packing

theorem unpacking_held (packing : Packing) (m : Message S) :
    Unpacking packing m (held packing m).1 (held packing m).2 := by
  rw [held_eq]
  cases coding : announced m.headers with
  | untouched =>
    rw [decode_of_untouched coding]
    exact unpacking_of_untouched coding packing
  | gzip =>
    rw [decode_of_gzip coding]
    cases unpacks : packing.gunzip m.body with
    | error fault => exact unpacking_of_error (.inl ⟨coding, unpacks⟩)
    | ok body => exact unpacking_of_ok (.inl ⟨coding, unpacks⟩)
  | deflate =>
    rw [decode_of_deflate coding]
    cases unpacks : packing.inflate m.body with
    | error fault => exact unpacking_of_error (.inr ⟨coding, unpacks⟩)
    | ok body => exact unpacking_of_ok (.inr ⟨coding, unpacks⟩)

/-! ### Who takes packed bodies -/

/-- The client says that it takes gzip: of the items between the commas of what it accepts one starts with that word
in some letter case, white space around it aside. -/
def TakesGzip (request : Request) : Prop :=
  ∃ codings item word rest, request.headers.get? "Accept-Encoding" = some codings ∧
    item ∈ codings.toList.splitOn ',' ∧ trim (.ofList item) = word ++ rest ∧ sameIgnoringCase word "gzip" = true

theorem toList_asciiLower (s : String) : (asciiLower s).toList = s.toList.map Char.toLower := String.toList_ofList

theorem sameIgnoringCase_gzip_iff {word : String} :
    sameIgnoringCase word "gzip" = true ↔ word.toList.map Char.toLower = "gzip".toList := by
  have lower : asciiLower "gzip" = "gzip" := by decide +kernel
  rw [sameIgnoringCase, beq_iff_eq, lower, ← toList_asciiLower, String.toList_inj]

theorem isGzipCoding_iff {coding : String} :
    Request.isGzipCoding coding = true ↔
      ∃ word rest, trim coding = word ++ rest ∧ sameIgnoringCase word "gzip" = true := by
  rw [Request.isGzipCoding, List.isPrefixOf_iff_prefix, toList_asciiLower, List.prefix_map_iff]
  constructor
  · rintro ⟨word, ⟨rest, split⟩, same⟩
    refine ⟨.ofList word, .ofList rest, ?_, ?_⟩
    · rw [← String.ofList_append, split, String.ofList_toList]
    · rw [sameIgnoringCase_gzip_iff, String.toList_ofList, ← same]
  · rintro ⟨word, rest, split, same⟩
    exact ⟨word.toList, ⟨rest.toList, by rw [split, String.toList_append]⟩, (sameIgnoringCase_gzip_iff.mp same).symm⟩

theorem acceptsGzip_iff {request : Request} : request.acceptsGzip = true ↔ TakesGzip request := by
  unfold Request.acceptsGzip TakesGzip
  cases accepted : request.headers.get? "Accept-Encoding" with
  | none => simp
  | some codings =>
    have items : splitAt ',' codings = (codings.toList.splitOn ',').map .ofList :=
      congrArg (List.map String.ofList) (splitWhere_eq_splitOnP _ _)
    simp only [items, List.any_map, List.any_eq_true, Function.comp_apply, isGzipCoding_iff]
    constructor
    · rintro ⟨item, member, word, rest, split, same⟩
      exact ⟨codings, item, word, rest, rfl, member, split, same⟩
    · rintro ⟨_, item, word, rest, ⟨⟩, member, split, same⟩
      exact ⟨item, member, word, rest, split, same⟩

/-! ### Packing at most once -/

/-- A response that announces no coding is changed exactly if it is packed. -/
theorem compress_ne_self_iff {packing : Packing} {request : Request} {r : Response}
    (plain : r.headers.contains "Content-Encoding" = false) :
    compress packing request r ≠ r ↔ 1400 < r.body.length ∧ TakesGzip request := by
  rw [← acceptsGzip_iff]
  constructor
  · intro changed
    by_contra other
    exact changed (compress_of_not_packs (fun packs => other ⟨packs.1, packs.2.1⟩) packing)
  · rintro ⟨long, accepted⟩ same
    have announces := (get?_compress packing request r).1 ⟨long, accepted, plain⟩
    rw [same, Headers.get?_eq_none_iff.mpr plain] at announces
    cases announces

theorem others_compress (packing : Packing) (request : Request) (r : Response) :
    others (compress packing request r) = others r := by
  by_cases packs : Packs request r
  · rw [compress_of_packs packs, others_setBody]
    refine Headers.filter_put_of_dropped ⟨"Content-Encoding", "gzip"⟩ (fun field same => ?_) r.headers.fields
    have same : named "Content-Encoding" field = true := same
    simp [isOther, same]
  · rw [compress_of_not_packs packs]

/-- A response that announces a coding is left alone, in whatever letter case the header is written. -/
theorem compress_of_encoded {request : Request} {r : Response} {field : Field} (member : field ∈ r.headers.fields)
    (same : named "Content-Encoding" field = true) (packing : Packing) : compress packing request r = r := by
  refine compress_of_not_packs (fun packs => ?_) packing
  have encoded : r.headers.contains "Content-Encoding" = true := List.any_eq_true.mpr ⟨field, member, same⟩
  rw [packs.2.2] at encoded
  cases encoded

theorem compress_compress (packing : Packing) (request : Request) (r : Response) :
    compress packing request (compress packing request r) = compress packing request r := by
  by_cases packs : Packs request r
  · refine compress_of_not_packs (fun again => ?_) packing
    have encoded := Headers.get?_eq_none_iff.mpr again.2.2
    rw [(get?_compress packing request r).1 packs] at encoded
    cases encoded
  · rw [compress_of_not_packs packs, compress_of_not_packs packs]

/-- A response that announced no coding unpacks to the body that it had. -/
theorem decode_compress {packing : Packing} (lossless : ∀ body, packing.gunzip (packing.gzip body) = .ok body)
    (request : Request) {r : Response} (plain : r.headers.contains "Content-Encoding" = false) :
    ∃ left, decode packing (compress packing request r) = .ok left ∧ left.body = r.body ∧ left.start = r.start ∧
      others left = others r := by
  by_cases packs : Packs request r
  · have body : (compress packing request r).body = packing.gzip r.body := by
      rw [compress_of_packs packs]
      rfl
    refine ⟨unpacked (compress packing request r) r.body, ?_, rfl, start_compress packing request r, ?_⟩
    · rw [decode_of_gzip (announced_compress packs packing), body, lossless]
      rfl
    · rw [others_unpacked, others_compress]
  · have none : announced r.headers = .untouched := by
      rw [announced, Headers.get?_eq_none_iff.mpr plain, Option.map_none, Option.getD_none]
    rw [compress_of_not_packs packs]
    exact ⟨r, decode_of_untouched none packing, rfl, rfl, rfl⟩

/-- What packing makes of a response for the one who asked. -/
structure PackedOnce (packing : Packing) (request : Request) (r packed : Response) : Prop where
  /-- A response that announces no coding changes exactly if its body is long and the one who asked takes gzip; -/
  changed : r.headers.contains "Content-Encoding" = false →
    (packed ≠ r ↔ 1400 < r.body.length ∧ TakesGzip request)
  /-- then its body is packed, which it announces, and its length is declared. -/
  gzip : packed ≠ r → packed.body = packing.gzip r.body ∧ packed.headers.get? "Content-Encoding" = some "gzip" ∧
    LengthDeclared packed
  /-- One that announces a coding already, in whatever letter case, does not change. -/
  encoded : ∀ field ∈ r.headers.fields, sameIgnoringCase field.name "Content-Encoding" = true → packed = r
  /-- Status, reason and version stay, -/
  start : packed.start = r.start
  /-- and so do other fields. -/
  others : others packed = others r
  /-- Packing again changes nothing. -/
  again : compress packing request packed = packed
  /-- Unpacking brings the body back, and all else. -/
  restored : r.headers.contains "Content-Encoding" = false → ∃ left, decode packing packed = .ok left ∧
    left.body = r.body ∧ left.start = r.start ∧ ContentCoding.others left = ContentCoding.others r

theorem packedOnce_compress {packing : Packing} (lossless : ∀ body, packing.gunzip (packing.gzip body) = .ok body)
    (request : Request) (r : Response) : PackedOnce packing request r (compress packing request r) where
  changed plain := compress_ne_self_iff plain
  gzip changed := by
    have packs : Packs request r := by
      by_contra other
      exact changed (compress_of_not_packs other packing)
    refine ⟨?_, (get?_compress packing request r).1 packs, ?_⟩
    · rw [compress_of_packs packs]
      rfl
    · rw [compress_of_packs packs]
      exact lengthDeclared_setBody _ _
  encoded _ member same := compress_of_encoded member same packing
  start := start_compress packing request r
  others := others_compress packing request r
  again := compress_compress packing request r
  restored plain := decode_compress lossless request plain

/-- Whatever unpacks and however, every message is unpacked in place, whole and once, or is left as it was. Where
what was packed with gzip unpacks again, every response is packed at most once, and nothing of it is lost. -/
theorem coding_lossless (packing : Packing) :
    (∀ (S : Type) (m : Message S), Unpacking packing m (held packing m).1 (held packing m).2) ∧
      ((∀ body, packing.gunzip (packing.gzip body) = .ok body) →
        ∀ (request : Request) (r : Response), PackedOnce packing request r (compress packing request r)) :=
  ⟨fun _ m => unpacking_held packing m, fun lossless request r => packedOnce_compress lossless request r⟩

/-- A long page with a stale length is packed for the one who takes gzip among others, and unpacks again. -/
theorem coding_lossless_page :
    let page : Response :=
      ⟨⟨.ok, "OK", "HTTP/1.1"⟩, ⟨[⟨"content-length", "7"⟩, ⟨"Date", "now"⟩]⟩, none, List.replicate 1401 97⟩
    let packed : Bytes := [31, 139, 8, 0, 0, 0, 0, 0, 0, 255, 237, 192, 49, 1, 0, 0, 0, 194, 160, 172, 235, 95, 194, 22,
      94, 80, 0, 92, 13, 61, 137, 27, 44, 121, 5, 0, 0]
    let packing : Packing :=
      { gzip := fun body => if body = page.body then packed else 0 :: body
        gunzip := fun bytes => if bytes = packed then .ok page.body else .ok bytes.tail
        inflate := fun _ => .error (.zlib .corrupt) }
    let request : Request := .make .get "/" "HTTP/1.1" [⟨"accept-encoding", "br, GZip;q=0.5"⟩] []
    (∀ body, packing.gunzip (packing.gzip body) = .ok body) ∧ compress packing request page ≠ page ∧
      (∃ left, decode packing (compress packing request page) = .ok left ∧ left.body = page.body) ∧
      Unpacking packing (compress packing request page) (held packing (compress packing request page)).1
        (held packing (compress packing request page)).2 := by
  intro page packed packing request
  have lossless : ∀ body, packing.gunzip (packing.gzip body) = .ok body := by
    intro body
    by_cases long : body = page.body
    · simp [packing, long]
    · simp [packing, long, packed]
  have takes : TakesGzip request := acceptsGzip_iff.mp (by decide +kernel)
  have long : 1400 < (List.replicate 1401 (97 : UInt8)).length := by
    rw [List.length_replicate]
    decide
  have once := (coding_lossless packing).2 lossless request page
  have plain : page.headers.contains "Content-Encoding" = false := by decide +kernel
  obtain ⟨left, unpacks, body, -, -⟩ := once.restored plain
  exact ⟨lossless, (once.changed plain).mpr ⟨long, takes⟩, ⟨left, unpacks, body⟩,
    (coding_lossless packing).1 _ _⟩

end HttpExchange.ContentCoding
