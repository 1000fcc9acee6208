import HttpExchange.Bytes

/-!
Where octets stood before. Each place is chained to the last place before it whose three octets have
the same hash; a chain is followed for a bounded number of steps to the longest earlier occurrence of
what stands at a place.
-/
namespace HttpExchange.Compression

/-- How far back an occurrence may lie. -/
def windowSize : Nat := 32768

/-- The greatest length of an occurrence. -/
def maxLength : Nat := 258

/-- The chains of places. A place is kept modulo 65536, and zero is the end of a chain, so that a place
divisible by 65536 is never found. -/
structure Chains where
  /-- The last place of each hash. -/
  newest : Array Nat
  /-- For each place, modulo the window, the place before it in its chain. -/
  older : Array Nat

namespace Chains

def empty : Chains := ⟨.replicate windowSize 0, .replicate windowSize 0⟩

/-- The hash of the three octets at a place. -/
def hashAt (data : Array UInt8) (place : Nat) : Nat :=
  let octet (i : Nat) : Nat := ((data[place + i]?).getD 0).toNat
  Nat.xor (Nat.xor (octet 0 * 1024) (octet 1 * 32)) (octet 2) % windowSize

/-- Puts a place at the head of its chain. -/
def add (data : Array UInt8) : Chains → Nat → Chains
  | ⟨newest, older⟩, place =>
    let hash := hashAt data place
    let last := (newest[hash]?).getD 0
    ⟨newest.setIfInBounds hash (place % 65536), older.setIfInBounds (place % windowSize) last⟩

/-- Takes in `k` octets from the octet `i` on: each one completes the three octets of a place. -/
def load (data : Array UInt8) : Nat → Nat → Chains → Chains
  | 0, _, chains => chains
  | k + 1, i, chains => load data k (i + 1) (if 2 ≤ i then chains.add data (i - 2) else chains)

end Chains

/-- How many octets agree from two places on, up to a bound. -/
def agreement (data : Array UInt8) (i j : Nat) : Nat → Nat
  | 0 => 0
  | k + 1 =>
    match data[i]?, data[j]? with
    | some a, some b => if a = b then agreement data (i + 1) (j + 1) k + 1 else 0
    | _, _ => 0

/-- An earlier occurrence of octets. -/
structure Occurrence where
  distance : Nat
  length : Nat
  deriving Repr, DecidableEq

/-- A place whose octets are looked for, how far back they may stand and how many may be taken. -/
structure Site where
  data : Array UInt8
  chains : Chains
  place : Nat
  reach : Nat
  limit : Nat

/-- How a few steps along a chain come out. -/
inductive Walk
  | ended
  | passed (slot : Nat)
  | found (slot distance : Nat)
  deriving Repr, DecidableEq

namespace Site

/-- Goes on along the chain, `k` places at most, to one within reach where the octet after the first
`length` ones and the octet before it agree with those at the site. -/
def walk (site : Site) (length : Nat) : Nat → Nat → Walk
  | 0, slot => .passed slot
  | k + 1, slot =>
    let older := (site.chains.older[slot]?).getD 0
    let distance := (site.place % 65536 + 65536 - older) % 65536
    if older = 0 ∨ site.reach < distance then .ended
    else if agreement site.data (site.place - distance + length - 1) (site.place + length - 1) 2 = 2 then
      .found (older % windowSize) distance
    else site.walk length k (older % windowSize)

/-- The longest occurrence among those of `k` walks and the best one so far, of which `length` is the
length; one that cannot be longer ends the search. -/
def search (site : Site) : Nat → Nat → Nat → Option Occurrence → Option Occurrence
  | 0, _, _, best => best
  | k + 1, slot, length, best =>
    match site.walk length 3 slot with
    | .ended => best
    | .passed slot => site.search k slot length best
    | .found slot distance =>
      if distance = 0 then best
      else
        let agreed := agreement site.data (site.place - distance) site.place site.limit
        if agreed < 2 ∨ agreed ≤ length then site.search k slot length best
        else if agreed = site.limit then some ⟨distance, agreed⟩
        else site.search k slot agreed (some ⟨distance, agreed⟩)

/-- An occurrence of more than `least` octets. There are fewer walks if much is already found. -/
def longer? (site : Site) (least : Nat) : Option Occurrence :=
  if site.limit ≤ least then none
  else site.search (if 32 ≤ least then 11 else 43) (site.place % windowSize) least none

end Site
end HttpExchange.Compression
