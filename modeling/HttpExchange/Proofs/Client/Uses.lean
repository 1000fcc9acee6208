import HttpExchange.Proofs.Client.Sharing

/-!
What connections are to those who use them: what each was opened for, which requests were written on it, and whether
it was released. Nothing that peers do changes that.
-/
namespace HttpExchange

/-- What a connection is to those who use it, whatever its peer does: what it was opened for, which exchanges wrote
which requests on it, and all octets that were written, unless it was released. -/
structure Line.Use where
  endpoint : Endpoint
  tlsContext : String
  secure : Bool
  asked : List (Nat × Request)
  written : Option Bytes

namespace Line

/-- The use of a connection. -/
def use (line : Line) : Use :=
  ⟨line.endpoint, line.tlsContext, line.socket.secure, line.asked, line.socket.stream.map Stream.written⟩

/-- The use of a connection on which one more request was written. -/
def Use.more (use : Use) (exchange : Nat) (request : Request) (octets : Bytes) : Use :=
  { use with asked := use.asked ++ [(exchange, request)], written := use.written.map (· ++ octets) }

/-- The use of a connection that was just opened. -/
def Use.fresh (endpoint : Endpoint) (tlsContext : String) : Use :=
  ⟨endpoint, tlsContext, endpoint.isSecure, [], some []⟩

@[simp] theorem use_hangUp (line : Line) : line.hangUp.use = line.use := by
  rcases line with ⟨_, _, ⟨_, _ | stream⟩, _, _, _⟩ <;> rfl

@[simp] theorem use_shutdown (line : Line) : line.shutdown.use = line.use := by
  rcases line with ⟨_, _, ⟨_, _ | stream⟩, _, _, _⟩ <;> rfl

@[simp] theorem use_release (line : Line) : line.release.use = { line.use with written := none } := rfl

theorem use_answer {line other : Line} {octets : Bytes} (answers : line.answer? octets = some other) :
    other.use = line.use := by
  obtain ⟨stream, here, rfl⟩ := answer?_eq_some answers
  simp [use, here]

theorem use_read {line : Line} {socket : Socket} {size : Nat} {piece : Bytes}
    (reads : line.socket.read size = .ok (some (piece, socket))) : ({ line with socket } : Line).use = line.use := by
  obtain ⟨stream, here, -, rfl⟩ := read_eq reads
  simp [use, here]

/-- Whatever is written on a connection is noted. -/
theorem use_ask (line : Line) (exchange : Nat) (request : Request) (octets : Bytes) :
    (line.ask exchange request octets).use = line.use ∨
      (line.ask exchange request octets).use = line.use.more exchange request octets := by
  rcases line.ask_cases exchange request octets with same | ⟨stream, here, asked⟩
  · exact .inl (congrArg use same)
  · refine .inr ?_
    rw [asked]
    simp only [use, told, Use.more, here, Option.map_some]

end Line

namespace Sharing

/-- The use of all connections. -/
def uses (lines : List Line) : List Line.Use := lines.map Line.use

/-- The connection of a number was opened and not released. -/
def inUse (uses : List Line.Use) (l : Nat) : Bool := (uses[l]?.bind Line.Use.written).isSome

/-- The connection of a number was opened for an endpoint in a context. -/
def OpenedFor (uses : List Line.Use) (l : Nat) (endpoint : Endpoint) (tlsContext : String) : Prop :=
  ∃ use, uses[l]? = some use ∧ use.endpoint = endpoint ∧ use.tlsContext = tlsContext ∧ use.secure = endpoint.isSecure

theorem getElem?_uses (lines : List Line) (l : Nat) : (uses lines)[l]? = lines[l]?.map Line.use := List.getElem?_map

theorem uses_modify {lines : List Line} {change : Line → Line} (same : ∀ line, (change line).use = line.use)
    (l : Nat) : uses (lines.modify l change) = uses lines := by
  refine List.ext_getElem? fun m => ?_
  rw [getElem?_uses, getElem?_uses, List.getElem?_modify]
  cases lines[m]? with
  | none => rfl
  | some line => by_cases here : l = m <;> simp [here, same]

theorem uses_modify_of_getElem? {lines : List Line} {l : Nat} {line : Line} (found : lines[l]? = some line)
    (change : Line → Line) : uses (lines.modify l change) = (uses lines).set l (change line).use := by
  refine List.ext_getElem? fun m => ?_
  obtain ⟨inside, -⟩ := List.getElem?_eq_some_iff.mp found
  rw [getElem?_uses, List.getElem?_modify, List.getElem?_set, getElem?_uses]
  by_cases here : l = m
  · subst here
    obtain rfl := Option.some.inj ((List.getElem?_eq_getElem inside).symm.trans found)
    simp [uses, inside]
  · simp [here]

theorem uses_set {lines : List Line} {l : Nat} {old : Line} (found : lines[l]? = some old) {line : Line}
    (same : line.use = old.use) : uses (lines.set l line) = uses lines := by
  obtain ⟨inside, rfl⟩ := List.getElem?_eq_some_iff.mp found
  rw [uses, List.map_set, same, ← List.getElem_map Line.use (h := by simpa using inside), List.set_getElem_self]
  rfl

/-- The use of connections some of which are released. -/
def parted (uses : List Line.Use) (closing : List Nat) : List Line.Use :=
  uses.mapIdx fun l use => if l ∈ closing then { use with written := none } else use

theorem getElem?_parted (uses : List Line.Use) (closing : List Nat) (l : Nat) :
    (parted uses closing)[l]? =
      uses[l]?.map fun use => if l ∈ closing then { use with written := none } else use := List.getElem?_mapIdx

theorem uses_release (lines : List Line) (closing : List Nat) :
    uses (release lines closing) = parted (uses lines) closing := by
  refine List.ext_getElem? fun m => ?_
  rw [getElem?_parted, getElem?_uses, getElem?_uses, getElem?_release]
  cases lines[m]? with
  | none => rfl
  | some line => by_cases closes : m ∈ closing <;> simp [closes]

theorem inUse_parted (uses : List Line.Use) (closing : List Nat) (l : Nat) :
    inUse (parted uses closing) l = (inUse uses l && decide (l ∉ closing)) := by
  rw [inUse, inUse, getElem?_parted]
  cases uses[l]? with
  | none => rfl
  | some use => by_cases member : l ∈ closing <;> simp [member]

theorem OpenedFor.parted {uses : List Line.Use} {l : Nat} {endpoint : Endpoint} {tlsContext : String}
    (opened : OpenedFor uses l endpoint tlsContext) (closing : List Nat) :
    OpenedFor (parted uses closing) l endpoint tlsContext := by
  obtain ⟨use, found, what⟩ := opened
  refine ⟨_, by rw [getElem?_parted, found]; rfl, ?_⟩
  split <;> exact what

theorem mem_parted {uses : List Line.Use} {closing : List Nat} {use : Line.Use} (member : use ∈ parted uses closing) :
    use ∈ uses ∨ ∃ old ∈ uses, use = { old with written := none } := by
  obtain ⟨l, inside, rfl⟩ := List.mem_mapIdx.mp member
  split
  · exact .inr ⟨_, List.getElem_mem inside, rfl⟩
  · exact .inl (List.getElem_mem inside)

end Sharing
end HttpExchange
