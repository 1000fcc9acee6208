import HttpExchange.Text.Basic

/-!
Spans of time and their text: a number in the largest unit in which it is one or more, with as many
places as it needs.
-/
namespace HttpExchange

/-- A span of time in nanoseconds. -/
structure Duration where
  nanoseconds : Nat
  deriving Repr, DecidableEq

namespace Duration

def seconds (n : Nat) : Duration := ⟨n * 1000000000⟩

def milliseconds (n : Nat) : Duration := ⟨n * 1000000⟩

/-- The units above the nanosecond, the largest first, by the places they leave behind the point. -/
def units : List (Nat × String) := [(9, "s"), (6, "ms"), (3, "µs")]

/-- The digits of a fraction of `places` places, without zeros at its end. -/
def fractionDigits (places n : Nat) : List Char :=
  let digits := Nat.toDigits 10 n
  (((List.replicate (places - digits.length) '0' ++ digits).reverse).dropWhile (· = '0')).reverse

/-- The span as text. -/
def toText (d : Duration) : String :=
  match units.find? fun (places, _) => Nat.pow 10 places ≤ d.nanoseconds with
  | none => Text.decimal d.nanoseconds ++ "ns"
  | some (places, unit) =>
    let whole := Text.decimal (d.nanoseconds / Nat.pow 10 places)
    let part := d.nanoseconds % Nat.pow 10 places
    if part = 0 then whole ++ unit else whole ++ "." ++ .ofList (fractionDigits places part) ++ unit

end Duration
end HttpExchange
