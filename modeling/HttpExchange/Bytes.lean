/-!
Octet strings, and the line ends that cut them: the first CR LF of a string and what stands
before it.
-/
namespace HttpExchange

/-- A string of octets, as read from and written to a connection. -/
abbrev Bytes := List UInt8

namespace Bytes

/-- The line end of every head line. -/
def crlf : Bytes := [13, 10]

/-- The position of the first CR LF, counted from `n`. -/
def lineEndFrom (n : Nat) : Bytes → Option Nat
  | [] => none
  | b :: rest => if b = 13 ∧ rest.head? = some 10 then some n else lineEndFrom (n + 1) rest

/-- The position of the first CR LF that starts at or after `start`. -/
def lineEnd? (bytes : Bytes) (start : Nat) : Option Nat := lineEndFrom start (bytes.drop start)

theorem lineEndFrom_lt {n i : Nat} {bytes : Bytes} (h : lineEndFrom n bytes = some i) :
    i + 1 < n + bytes.length := by
  induction bytes generalizing n with
  | nil => simp [lineEndFrom] at h
  | cons b rest ih =>
    unfold lineEndFrom at h
    split at h
    · rename_i found
      cases rest with
      | nil => simp at found
      | cons c more => simp at h; simp; omega
    · have := ih h; simp; omega

theorem lineEnd?_lt {bytes : Bytes} {start i : Nat} (h : bytes.lineEnd? start = some i) :
    i + 1 < bytes.length := by
  have bound := lineEndFrom_lt h
  simp only [List.length_drop] at bound
  by_cases inside : start ≤ bytes.length
  · omega
  · simp [lineEnd?, List.drop_eq_nil_of_le (by omega : bytes.length ≤ start), lineEndFrom] at h

/-- Cuts a string into pieces of `max size 1` octets, the last one shorter. -/
def pieces (size : Nat) (bytes : Bytes) : List Bytes :=
  go [] bytes
where
  /-- Collects the pieces, the last one found first. -/
  go (found : List Bytes) (bytes : Bytes) : List Bytes :=
    match bytes with
    | [] => found.reverse
    | b :: rest => go ((b :: rest).take (max size 1) :: found) ((b :: rest).drop (max size 1))
  termination_by bytes.length
  decreasing_by simp only [List.length_drop, List.length_cons]; omega

end Bytes
end HttpExchange
