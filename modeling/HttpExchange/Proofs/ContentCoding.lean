import HttpExchange.ContentCoding
import HttpExchange.Proofs.Headers

/-!
What packing and unpacking make of a message. A message announces how its body is packed; one that announces
nothing known is left as it is, and an empty body unpacks in no known way.
-/
namespace HttpExchange.ContentCoding
variable {S : Type}

/-- The coding that the headers of a message announce. -/
def announced (headers : Headers) : Coding :=
  ((headers.get? "Content-Encoding").map Coding.ofText).getD .untouched

/-- A body is unpacked as the headers announce. -/
theorem decode_eq (packing : Packing) (m : Message S) :
    decode packing m = match announced m.headers with
      | .untouched => .ok m
      | .gzip => ((packing.gunzip m.body).mapError .decompress).map (unpacked m)
      | .deflate => ((packing.inflate m.body).mapError .decompress).map (unpacked m) := by
  unfold announced decode
  cases (m.headers.get? "Content-Encoding").map Coding.ofText with
  | none => rfl
  | some coding => cases coding <;> rfl

theorem decode_of_untouched {m : Message S} (untouched : announced m.headers = .untouched) (packing : Packing) :
    decode packing m = .ok m := by
  rw [decode_eq, untouched]

theorem decode_of_gzip {m : Message S} (gzip : announced m.headers = .gzip) (packing : Packing) :
    decode packing m = ((packing.gunzip m.body).mapError .decompress).map (unpacked m) := by
  rw [decode_eq, gzip]

theorem decode_of_deflate {m : Message S} (deflate : announced m.headers = .deflate) (packing : Packing) :
    decode packing m = ((packing.inflate m.body).mapError .decompress).map (unpacked m) := by
  rw [decode_eq, deflate]

/-! ### Empty bodies -/

/-- Unpacking fails where nothing was packed. -/
theorem map_unpacked_ne_ok {unpacking : Except UnpackFault Bytes} (fails : ∀ body, unpacking ≠ .ok body)
    (m read : Message S) : (unpacking.mapError Failure.decompress).map (unpacked m) ≠ .ok read := by
  cases unpacking with
  | ok body => exact absurd rfl (fails body)
  | error fault => exact fun same => by cases same

/-- If no packed stream is empty, an empty body is read exactly if it is not said to be packed. -/
theorem decode_empty_iff {packing : Packing} (gunzip : ∀ body, packing.gunzip [] ≠ .ok body)
    (inflate : ∀ body, packing.inflate [] ≠ .ok body) {m : Message S} (empty : m.body = []) :
    (∃ read, decode packing m = .ok read ∧ read.start = m.start ∧ read.body = []) ↔
      announced m.headers = .untouched := by
  constructor
  · rintro ⟨read, decoded, -⟩
    cases coding : announced m.headers with
    | untouched => rfl
    | gzip =>
      rw [decode_of_gzip coding, empty] at decoded
      exact absurd decoded (map_unpacked_ne_ok gunzip m read)
    | deflate =>
      rw [decode_of_deflate coding, empty] at decoded
      exact absurd decoded (map_unpacked_ne_ok inflate m read)
  · intro untouched
    exact ⟨m, decode_of_untouched untouched packing, rfl, empty⟩

/-- No stream in the gzip format is empty. -/
theorem gunzip_nil : Packing.standard.gunzip [] = .error (.gzip .cutShort) := by decide +kernel

/-- No stream in the zlib format is empty. -/
theorem inflate_nil : Packing.standard.inflate [] = .error (.zlib .truncated) := by decide +kernel

/-! ### Packing -/

/-- A response that is packed: long enough, not packed yet, and for a client that takes it. -/
def Packs (request : Request) (response : Response) : Prop :=
  threshold < response.body.length ∧ request.acceptsGzip = true ∧
    response.headers.contains "Content-Encoding" = false

theorem compress_of_packs {request : Request} {response : Response} (packs : Packs request response)
    (packing : Packing) :
    compress packing request response =
      Message.setBody { response with headers := response.headers.set "Content-Encoding" "gzip" }
        (packing.gzip response.body) := by
  obtain ⟨long, accepted, plain⟩ := packs
  rw [compress, if_neg]
  simp [accepted, plain, long]

theorem compress_of_not_packs {request : Request} {response : Response} (leaves : ¬ Packs request response)
    (packing : Packing) : compress packing request response = response := by
  rw [compress, if_pos]
  unfold Packs at leaves
  by_contra other
  simp only [not_or, not_le, Bool.not_eq_true', Bool.not_eq_true] at other
  exact leaves ⟨other.1, by simpa using other.2.1, other.2.2⟩

theorem start_compress (packing : Packing) (request : Request) (response : Response) :
    (compress packing request response).start = response.start := by
  unfold compress
  split_ifs <;> rfl

/-- A response that is packed announces it, and every other one what it announced before. -/
theorem get?_compress (packing : Packing) (request : Request) (response : Response) :
    (Packs request response → (compress packing request response).headers.get? "Content-Encoding" = some "gzip") ∧
      (¬ Packs request response → (compress packing request response).headers = response.headers) := by
  constructor
  · intro packs
    rw [compress_of_packs packs]
    exact (Headers.get?_set_of_ne (by decide) _ _).trans (Headers.get?_set _ _ _)
  · intro leaves
    rw [compress_of_not_packs leaves]

theorem announced_compress {request : Request} {response : Response} (packs : Packs request response)
    (packing : Packing) : announced (compress packing request response).headers = .gzip := by
  have named : Coding.ofText "gzip" = .gzip := by decide +kernel
  rw [announced, (get?_compress packing request response).1 packs, Option.map_some, named, Option.getD_some]

end HttpExchange.ContentCoding
