import HttpExchange.Compression.Lookback

/-!
Octet strings as literals and repetitions of what stands before them, cut into blocks. A repetition is
held back for one octet: if a longer one starts at the next place, it is given up for a literal.
-/
namespace HttpExchange.Compression

/-- A literal octet, or a repetition of `length` octets from `distance` octets back. -/
inductive Token
  | literal (octet : UInt8)
  | copy (length distance : Nat)
  deriving Repr, DecidableEq

namespace Token

def octets : Token → Nat
  | literal _ => 1
  | copy length _ => length

/-- How much room a token takes before it is coded. -/
def room : Token → Nat
  | literal _ => 1
  | copy _ _ => 3

end Token

/-- A repetition that is held back, with the octet at its place. -/
structure Held where
  octet : UInt8
  occurrence : Occurrence

/-- What is settled at a place: tokens, how far to go on, and what is held back. -/
structure Choice where
  tokens : List Token
  advance : Nat
  held : Option Held

/-- The repetition of an occurrence. -/
def Occurrence.token (found : Occurrence) : Token := .copy found.length found.distance

/-- Settles what to do with an occurrence that is found at a place, if any, and with one held back
from the place before, if any. A long occurrence is taken at once. -/
def choose (octet : UInt8) (held : Option Held) (found : Option Occurrence) : Choice :=
  match held, found with
  | none, none => ⟨[.literal octet], 1, none⟩
  | none, some found =>
    if 128 ≤ found.length then ⟨[found.token], found.length, none⟩ else ⟨[], 1, some ⟨octet, found⟩⟩
  | some held, none => ⟨[held.occurrence.token], held.occurrence.length - 1, none⟩
  | some held, some found =>
    if 128 ≤ found.length then ⟨[.literal held.octet, found.token], found.length, none⟩
    else ⟨[.literal held.octet], 1, some ⟨octet, found⟩⟩

/-- Tokens that are coded together, the place of their first octet, how many octets they stand for, and
whether these octets are still at hand to be stored as they are. -/
structure Block where
  tokens : List Token
  start : Nat
  octets : Nat
  storable : Bool

/-- How far the tokens of an octet string are found. -/
structure Progress where
  place : Nat
  loaded : Nat
  /-- How many octets before the place may be referred to. -/
  behind : Nat
  held : Option Held
  /-- The tokens of the block that is being made, the last one first. -/
  tokens : List Token
  count : Nat
  room : Nat
  octets : Nat
  start : Nat
  /-- The blocks that are made, the last one first. -/
  blocks : List Block

namespace Progress

/-- Before the first octet. -/
def initial : Progress := ⟨0, 0, 0, none, [], 0, 0, 0, 0, []⟩

/-- Takes in octets up to the greatest length of an occurrence ahead of the place. -/
def lookAhead (size : Nat) (p : Progress) : Progress :=
  let loaded := min (p.place + maxLength) size
  { p with loaded, behind := min (windowSize - (loaded - p.place)) p.behind }

/-- The occurrence at the place that is longer than the one held back. Three octets from far away are
not worth a repetition. -/
def occurrence? (data : Array UInt8) (chains : Chains) (p : Progress) : Option Occurrence :=
  let site : Site := ⟨data, chains, p.place, p.behind, min maxLength (p.loaded - p.place)⟩
  let least := match p.held with
    | none => 2
    | some held => held.occurrence.length
  (site.longer? least).filter fun found =>
    !(found.length = 3 ∧ 8192 ≤ found.distance) && p.place % windowSize != found.distance

/-- Adds a token to the block that is being made. -/
def add (p : Progress) (token : Token) : Progress :=
  { p with
    tokens := token :: p.tokens
    count := p.count + 1
    room := p.room + token.room
    octets := p.octets + token.octets }

/-- Goes on as settled. -/
def follow (p : Progress) (choice : Choice) : Progress :=
  let p := choice.tokens.foldl add p
  { p with
    place := p.place + choice.advance
    behind := min (p.behind + choice.advance) windowSize
    held := choice.held }

/-- The block that is being made. -/
def block (p : Progress) : Block :=
  ⟨p.tokens.reverse, p.start, p.octets, p.place - p.start ≤ p.behind⟩

/-- The room that the tokens of the block take, with one flag for each. -/
def filled (p : Progress) : Nat := 1 + p.room + p.count / 8

/-- A block ends when there is no more room, or when it is long and its tokens take hardly less room
than its octets. -/
def isFull (p : Progress) : Bool :=
  65528 < p.filled || (31744 < p.octets && p.octets ≤ p.filled * 115 / 128)

/-- Starts a new block if this one is full. -/
def cut (p : Progress) : Progress :=
  if p.isFull then
    { p with
      tokens := []
      count := 0
      room := 0
      octets := 0
      start := p.start + p.octets
      blocks := p.block :: p.blocks }
  else p

end Progress

/-- The blocks of an octet string from a place on, in at most `fuel` steps, the last one first. -/
def blocksFrom (data : Array UInt8) : Nat → Chains → Progress → List Block
  | 0, _, p => p.block :: p.blocks
  | fuel + 1, chains, p =>
    match data[p.place]? with
    | none => p.block :: p.blocks
    | some octet =>
      let ahead := p.lookAhead data.size
      let chains := chains.load data (ahead.loaded - p.loaded) p.loaded
      let choice := choose octet ahead.held (ahead.occurrence? data chains)
      blocksFrom data fuel chains (ahead.follow choice).cut

/-- The blocks of an octet string; there is always one. Each step goes on by one octet at least. -/
def blocksOf (data : Array UInt8) : List Block := (blocksFrom data data.size .empty .initial).reverse

end HttpExchange.Compression
