import HttpExchange.Client.Session
import HttpExchange.Proofs.Headers.Merge
import HttpExchange.Proofs.Url

/-!
The headers of a request as it is sent: those of the session with those of the request set over them, the host that
the URL names if neither does, and the length of the body.
-/
namespace HttpExchange.ClientRequest
open Text (sameIgnoringCase)
open Headers (Distinct named overridden)

/-- The host of a URL as a header gives it: the port follows if the text gives one that the scheme does not imply. -/
def Addresses (text : String) (u : Url) (address : String) : Prop :=
  ∃ host, u.hostText? = some host ∧
    (∀ p, Url.writtenPort? text = some p → Url.defaultPort? u.scheme ≠ some p → address = host ++ ":" ++ Text.decimal p) ∧
    ((∀ p, Url.writtenPort? text = some p → Url.defaultPort? u.scheme = some p) → address = host)

/-- The field, but for a length, which is declared anew. -/
def relengthed (length : Nat) (field : Field) : Field :=
  if named "Content-Length" field then ⟨"Content-Length", Text.decimal length⟩ else field

/-- What is sent of a request in a session, its URL being at the address given. -/
structure Merged (address : String) (session : Headers) (r : ClientRequest) (sent : Request) : Prop where
  distinct : Distinct sent.headers.fields
  /-- A value of the request goes before that of the session. -/
  value : ∀ name, ¬ sameIgnoringCase name "Host" → ¬ sameIgnoringCase name "Content-Length" →
    sent.headers.get? name = (r.headers.get? name).or (session.get? name)
  host : sent.headers.get? "Host" = some (((r.headers.get? "Host").or (session.get? "Host")).getD address)
  /-- The length of the body is declared once, whoever declared one before. -/
  length : sent.headers.fields.filter (named "Content-Length") = [⟨"Content-Length", Text.decimal r.body.length⟩]
  declared : sent.contentLength = some r.body.length ∧ sent.body = r.body
  /-- The session's fields stand first, each as the request overrides it, then those that are new in the request; a
  length among them stays in its place. -/
  order : sent.headers.fields =
    (session.fields.map (overridden r.headers.fields) ++
      r.headers.fields.filter fun field => !session.contains field.name).map (relengthed r.body.length) ++
    (if r.headers.contains "Host" || session.contains "Host" then [] else [⟨"Host", address⟩]) ++
    if r.headers.contains "Content-Length" || session.contains "Content-Length" then []
    else [⟨"Content-Length", Text.decimal r.body.length⟩]
  /-- Sending leaves the session its headers. -/
  kept : ∀ {κ : Type} (packing : Packing) (s : Session κ) (x : Exchange κ) (event : Exchange.Event κ),
    s.headers = session → (s.step packing x event).2.1.headers = session

/-- The host header of a URL that was read names its host, and its port as far as that is needed. -/
theorem addresses_hostHeader {text : String} {u : Url} (read : Url.ofText text = .ok u)
    (web : u.scheme = "http" ∨ u.scheme = "https") : Addresses text u (hostHeader u) := by
  obtain ⟨hosted, ported⟩ := Url.ofText_ok read web
  obtain ⟨host, found⟩ := Option.isSome_iff_exists.mp hosted
  refine ⟨host.toText, by rw [Url.hostText?, found, Option.map_some], fun p written distinct => ?_, fun implied => ?_⟩
  · have given : u.port = some p := (ported p).mpr ⟨written, distinct⟩
    rw [hostHeader, Url.hostText?, found, given, Option.map_some, Option.getD_some, Option.map_some, Option.getD_some,
      ← String.append_assoc]
  · have none : u.port = .none := by
      by_contra given
      obtain ⟨p, given⟩ := Option.ne_none_iff_exists'.mp given
      obtain ⟨written, distinct⟩ := (ported p).mp given
      exact distinct (implied p written)
    rw [hostHeader, Url.hostText?, found, none, Option.map_some, Option.getD_some, Option.map_none, Option.getD_none,
      String.append_empty]

section
variable {session : Headers} {r : ClientRequest}

theorem mergedHeaders_eq (session : Headers) (r : ClientRequest) :
    r.mergedHeaders session = if (session.setAll r.headers.fields).contains "Host" then session.setAll r.headers.fields
      else (session.setAll r.headers.fields).set "Host" (hostHeader r.url) := rfl

theorem headers_toRequest (session : Headers) (r : ClientRequest) :
    (r.toRequest session).headers = (r.mergedHeaders session).set "Content-Length" (Text.decimal r.body.length) := rfl

theorem distinct_mergedHeaders (distinct : Distinct session.fields) : Distinct (r.mergedHeaders session).fields := by
  have merged := Headers.distinct_setAll distinct r.headers.fields
  rw [mergedHeaders_eq]
  split_ifs
  · exact merged
  · exact Headers.distinct_set merged _ _

theorem get?_mergedHeaders_of_ne (own : Distinct r.headers.fields) {name : String}
    (apart : ¬ sameIgnoringCase name "Host") :
    (r.mergedHeaders session).get? name = (r.headers.get? name).or (session.get? name) := by
  rw [Text.sameIgnoringCase_comm, Bool.not_eq_true] at apart
  rw [mergedHeaders_eq]
  split_ifs
  · exact Headers.get?_setAll own session name
  · rw [Headers.get?_set_of_ne apart]
    exact Headers.get?_setAll own session name

theorem host_mergedHeaders (own : Distinct r.headers.fields) : (r.mergedHeaders session).get? "Host" =
    some (((r.headers.get? "Host").or (session.get? "Host")).getD (hostHeader r.url)) := by
  have merged := Headers.get?_setAll own session "Host"
  rw [mergedHeaders_eq]
  split_ifs with known
  · rw [Headers.contains_eq_isSome, Option.isSome_iff_exists] at known
    obtain ⟨value, found⟩ := known
    have given : (r.headers.get? "Host").or (session.get? "Host") = some value := by rw [← found, merged]
    rw [found, given, Option.getD_some]
  · rw [Bool.not_eq_true, ← Headers.get?_eq_none_iff, merged] at known
    have none : (r.headers.get? "Host").or (session.get? "Host") = .none := known
    rw [Headers.get?_set, none, Option.getD_none]

theorem fields_mergedHeaders (distinct : Distinct session.fields) (own : Distinct r.headers.fields) :
    (r.mergedHeaders session).fields = session.fields.map (overridden r.headers.fields) ++
      (r.headers.fields.filter fun field => !session.contains field.name) ++
      if r.headers.contains "Host" || session.contains "Host" then [] else [⟨"Host", hostHeader r.url⟩] := by
  have merged := Headers.fields_setAll distinct own
  have known : (session.setAll r.headers.fields).contains "Host" =
      (r.headers.contains "Host" || session.contains "Host") := Headers.contains_setAll own session "Host"
  rw [mergedHeaders_eq, ← known]
  by_cases hosted : (session.setAll r.headers.fields).contains "Host"
  · rw [if_pos hosted, if_pos hosted, merged, List.append_nil]
  · have set := Headers.fields_set (Headers.distinct_setAll distinct r.headers.fields) ⟨"Host", hostHeader r.url⟩
    rw [if_neg hosted, if_neg hosted, set, if_neg hosted, merged]

theorem contains_length_mergedHeaders (own : Distinct r.headers.fields) :
    (r.mergedHeaders session).contains "Content-Length" =
      (r.headers.contains "Content-Length" || session.contains "Content-Length") := by
  have apart : ¬ sameIgnoringCase "Content-Length" "Host" := by decide
  rw [Headers.contains_eq_isSome, get?_mergedHeaders_of_ne own apart, Option.isSome_or,
    ← Headers.contains_eq_isSome, ← Headers.contains_eq_isSome]

/-- Declaring a length replaces the one that is there, or comes last. -/
theorem fields_set_length {h : Headers} (distinct : Distinct h.fields) (length : Nat) :
    (h.set "Content-Length" (Text.decimal length)).fields = h.fields.map (relengthed length) ++
      if h.contains "Content-Length" then [] else [⟨"Content-Length", Text.decimal length⟩] := by
  have set := Headers.fields_set distinct ⟨"Content-Length", Text.decimal length⟩
  by_cases declared : h.contains "Content-Length"
  · rw [set, if_pos declared, if_pos declared, List.append_nil]
    rfl
  · have unchanged : h.fields.map (relengthed length) = h.fields := by
      refine (List.map_congr_left fun field member => if_neg fun same => ?_).trans (List.map_id _)
      exact declared (Headers.contains_iff.mpr ⟨field, member, same⟩)
    rw [set, if_neg declared, if_neg declared, unchanged]

theorem fields_toRequest (distinct : Distinct session.fields) (own : Distinct r.headers.fields) :
    (r.toRequest session).headers.fields =
      (session.fields.map (overridden r.headers.fields) ++
        r.headers.fields.filter fun field => !session.contains field.name).map (relengthed r.body.length) ++
      (if r.headers.contains "Host" || session.contains "Host" then [] else [⟨"Host", hostHeader r.url⟩]) ++
      if r.headers.contains "Content-Length" || session.contains "Content-Length" then []
      else [⟨"Content-Length", Text.decimal r.body.length⟩] := by
  -- A host that comes from the URL is no length.
  have unnamed (hosted : Bool) : (if hosted then [] else [⟨"Host", hostHeader r.url⟩]).map (relengthed r.body.length) =
      if hosted then [] else [(⟨"Host", hostHeader r.url⟩ : Field)] := by
    have other : sameIgnoringCase "Host" "Content-Length" = false := by decide
    have apart : named "Content-Length" ⟨"Host", hostHeader r.url⟩ = false := other
    cases hosted
    · rw [if_neg Bool.false_ne_true, List.map_singleton, relengthed, apart]
      rfl
    · rfl
  rw [headers_toRequest, fields_set_length (distinct_mergedHeaders distinct), contains_length_mergedHeaders own,
    fields_mergedHeaders distinct own, List.map_append, unnamed]

/-- Whatever headers a session and a request have, what is sent has the merged ones. -/
theorem merged_toRequest {text : String} (distinct : Distinct session.fields) (own : Distinct r.headers.fields)
    (read : Url.ofText text = .ok r.url) (web : r.url.scheme = "http" ∨ r.url.scheme = "https") :
    ∃ address, Addresses text r.url address ∧ Merged address session r (r.toRequest session) := by
  have merged := distinct_mergedHeaders (r := r) distinct
  refine ⟨hostHeader r.url, addresses_hostHeader read web, ?_⟩
  exact {
    distinct := Headers.distinct_set merged _ _
    value := by
      intro name unhosted undeclared
      rw [Text.sameIgnoringCase_comm, Bool.not_eq_true] at undeclared
      rw [headers_toRequest, Headers.get?_set_of_ne undeclared]
      exact get?_mergedHeaders_of_ne own unhosted
    host := by
      have apart : sameIgnoringCase "Content-Length" "Host" = false := by decide
      rw [headers_toRequest, Headers.get?_set_of_ne apart]
      exact host_mergedHeaders own
    length := Headers.filter_named_put ⟨"Content-Length", Text.decimal r.body.length⟩ _
    declared := ⟨rfl, rfl⟩
    order := fields_toRequest distinct own
    kept := fun packing s x event same => same }

end

/-- Headers that overlap in another letter case, one of them a length, and a port that the scheme does not imply. -/
theorem merged_toRequest_overlapping :
    let url : Url := ⟨"http", true, "", some (.address6 [0, 0, 0, 0, 0, 0, 0, 1]), some 8080, "/x", none, none⟩
    let session : Headers := ⟨[⟨"Accept", "*/*"⟩, ⟨"content-length", "7"⟩]⟩
    let r : ClientRequest := ⟨.post, url, ⟨[⟨"Via", "me"⟩, ⟨"ACCEPT", "text/plain"⟩]⟩, [104, 105], ⟨none, none, none, none⟩⟩
    (Distinct session.fields ∧ Distinct r.headers.fields ∧ Url.ofText "http://[::1]:8080/x" = .ok r.url ∧
      r.url.scheme = "http") ∧
      ∃ address, Addresses "http://[::1]:8080/x" r.url address ∧ Merged address session r (r.toRequest session) := by
  intro url session r
  have distinct : Distinct session.fields := by decide +kernel
  have own : Distinct r.headers.fields := by decide +kernel
  have read : Url.ofText "http://[::1]:8080/x" = .ok r.url := rfl
  exact ⟨⟨distinct, own, read, rfl⟩, merged_toRequest distinct own read (.inl rfl)⟩

/-- A length that the request overrides is not sent as the request spells it. -/
theorem overridden_length_respelled :
    let url : Url := ⟨"http", true, "", some (.address6 [0, 0, 0, 0, 0, 0, 0, 1]), none, "/", none, none⟩
    let session : Headers := ⟨[⟨"content-length", "1"⟩]⟩
    let r : ClientRequest := ⟨.get, url, ⟨[⟨"CONTENT-LENGTH", "2"⟩]⟩, [], ⟨none, none, none, none⟩⟩
    Distinct session.fields ∧ Distinct r.headers.fields ∧ Url.ofText "http://[::1]/" = .ok r.url ∧
      ¬ ∀ field ∈ session.fields, ∀ own ∈ r.headers.fields, named field.name own →
        ∃ sent ∈ (r.toRequest session).headers.fields, sent.name = own.name := by
  intro url session r
  refine ⟨by decide +kernel, by decide +kernel, rfl, ?_⟩
  decide +kernel

end HttpExchange.ClientRequest
