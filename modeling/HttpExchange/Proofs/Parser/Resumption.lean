import HttpExchange.Proofs.Parser.Refusal

/-!
A search for the end of a line goes on where it stopped. The octets that were searched hold no line end, and the last
octet of an unfinished line is not one of them, so that a CR there meets an LF that comes first in the next piece.
A reader that begins its search anew before every call therefore fares the same.
-/
namespace HttpExchange.Parser
variable {S : Type}
open Bytes (LineEndAt)

/-- What a reader may rely on that does not search again what it has searched. -/
structure Resumable (p : Parser S) : Prop where
  within : p.scanned ≤ p.pending.length
  /-- No line ends among the octets that were searched. -/
  endless : ∀ i < p.scanned, ¬ LineEndAt p.pending i
  /-- Whatever comes, the search finds what a search from the start finds. -/
  resumed : ∀ data, (p.pending ++ data).lineEnd? p.scanned = (p.pending ++ data).lineEnd? 0
  /-- A line end is found that was cut between CR and LF. -/
  cut : ∀ data, p.pending.lineEnd? 0 = none → p.pending.getLast? = some 13 → data.head? = some 10 →
    (p.pending ++ data).lineEnd? p.scanned = some (p.pending.length - 1)

/-- A line that is cut between CR and LF ends there. -/
theorem lineEnd?_of_cut {pending data : Bytes} (none : pending.lineEnd? 0 = none) (last : pending.getLast? = some 13)
    (first : data.head? = some 10) : (pending ++ data).lineEnd? 0 = some (pending.length - 1) := by
  have nonempty : 0 < pending.length := by
    cases pending with
    | nil => cases last
    | cons b rest => simp
  rw [List.getLast?_eq_getElem?] at last
  rw [List.head?_eq_getElem?] at first
  refine Bytes.lineEnd?_eq_some_iff.mpr ⟨Nat.zero_le _, ⟨?_, ?_⟩, ?_⟩
  · rw [List.getElem?_append_left (by omega)]
    exact last
  · rw [List.getElem?_append_right (by omega), show pending.length - 1 + 1 - pending.length = 0 by omega]
    exact first
  · intro j _ before ends
    rw [Bytes.lineEndAt_append data (by omega)] at ends
    exact Bytes.lineEnd?_eq_none_iff.mp none j (Nat.zero_le j) ends

theorem Searched.resumable {p : Parser S} (searched : p.Searched) : p.Resumable := by
  have resumed : ∀ data, (p.pending ++ data).lineEnd? p.scanned = (p.pending ++ data).lineEnd? 0 := by
    intro data
    exact (searched.extended data).lineEnd?
  constructor
  · by_contra beyond
    have := searched.inside p.pending.length (by omega)
    omega
  · exact searched.none
  · exact resumed
  · intro data none last first
    rw [resumed data]
    exact lineEnd?_of_cut none last first

variable [StartLine S]

theorem feed_resumed {p : Parser S} (searched : p.Searched) (data : Bytes) :
    ((p.resumedFrom 0).feed data).1 = (p.feed data).1 ∧
      ((p.resumedFrom 0).feed data).2.resumedFrom 0 = (p.feed data).2.resumedFrom 0 := by
  by_cases finished : ∃ m, p.awaiting = .done m
  · obtain ⟨m, state⟩ := finished
    rw [feed_of_done state, feed_of_done (p := p.resumedFrom 0) state]
    exact ⟨rfl, rfl⟩
  · have unfinished : ∀ m, p.awaiting ≠ .done m := fun m state => finished ⟨m, state⟩
    rw [feed_of_not_done unfinished, feed_of_not_done (p := p.resumedFrom 0) unfinished]
    exact advance_resumed (searched.extended data)

theorem called_resumed {p : Parser S} (searched : p.Searched) (call : Call) :
    ((p.resumedFrom 0).called call).resumedFrom 0 = (p.called call).resumedFrom 0 := by
  cases call with
  | feed data => exact (feed_resumed searched data).2
  | ignore flag => rfl
  | take =>
    simp only [called, take, resumedFrom_awaiting]
    split <;> rfl
  | reset => rfl

/-- The reader behind calls in turn that begins its search anew before each of them. -/
def restartedAll (p : Parser S) (calls : List Call) : Parser S :=
  calls.foldl (fun p call => (p.called call).resumedFrom 0) (p.resumedFrom 0)

theorem calledAll_resumed {p : Parser S} (searched : p.Searched) (calls : List Call) :
    p.restartedAll calls = (p.calledAll calls).resumedFrom 0 := by
  induction calls generalizing p with
  | nil => rfl
  | cons call rest ih =>
    rw [restartedAll, List.foldl_cons, called_resumed searched]
    exact ih (searched.called call)

/-- Whatever is called on a reader, it may go on with its search where it stopped, and it is where the reader is that
begins every search anew, and answers as that one does. -/
theorem resumable_calledAll (calls : List Call) :
    let p := (fresh : Parser S).calledAll calls
    let restarted := (fresh : Parser S).restartedAll calls
    p.Resumable ∧ restarted = p.resumedFrom 0 ∧ restarted.take.1 = p.take.1 ∧
      ∀ data, (restarted.feed data).1 = (p.feed data).1 := by
  have start : (fresh : Parser S).Searched := .of_scanned_zero rfl
  have searched := start.calledAll calls
  have same := calledAll_resumed start calls
  refine ⟨searched.resumable, same, ?_, ?_⟩
  · rw [same]
    simp only [take, resumedFrom_awaiting]
    split <;> rfl
  · intro data
    rw [same]
    exact (feed_resumed searched data).1

/-- A CR that comes last is searched again. -/
example : ((fresh : Parser StatusLine).calledAll [.feed [72, 84, 13]]).scanned = 2 := by decide +kernel

end HttpExchange.Parser
