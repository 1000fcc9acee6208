import HttpExchange.Text.CaseFolding
import HttpExchange.Text.Property

/-!
Sets of characters as patterns write them: ranges, named classes, and what differs from a member
only in case.
-/
namespace HttpExchange.Regex

/-- A set of characters, by their numbers. -/
abbrev CharSet := Text.Runs

namespace CharSet

def ofChar (c : Char) : CharSet := .single c.toNat

def between (first last : Char) : CharSet := .range first.toNat last.toNat

def ascii : CharSet := .range 0 0x7F

/-- The set with what folds like a member, where both are ASCII. -/
def asciiFolded (s : CharSet) : CharSet := s.union ((Text.foldedRuns (s.inter ascii)).inter ascii)

/-- Decimal digits, white space and characters of words, of all scripts. -/
def anyDigit : CharSet := Text.Property.digit
def anyBlank : CharSet := Text.Property.blank
def anyWord : CharSet := Text.Property.word

def digit (unicode : Bool) : CharSet := if unicode then anyDigit else between '0' '9'

def space (unicode : Bool) : CharSet := if unicode then anyBlank else .ofText "9-D 20"

def word (unicode : Bool) : CharSet := if unicode then anyWord else .ofText "30-39 41-5A 5F 61-7A"

/-- The sets that have a name between `[:` and `:]`. -/
def ofAsciiName? (name : String) : Option CharSet :=
  match name with
  | "alnum" => some (.ofText "30-39 41-5A 61-7A")
  | "alpha" => some (.ofText "41-5A 61-7A")
  | "ascii" => some ascii
  | "blank" => some (.ofText "9 20")
  | "cntrl" => some (.ofText "0-1F 7F")
  | "digit" => some (between '0' '9')
  | "graph" => some (between '!' '~')
  | "lower" => some (between 'a' 'z')
  | "print" => some (between ' ' '~')
  | "punct" => some (.ofText "21-2F 3A-40 5B-60 7B-7E")
  | "space" => some (space false)
  | "upper" => some (between 'A' 'Z')
  | "word" => some (word false)
  | "xdigit" => some (.ofText "30-39 41-46 61-66")
  | _ => none

end CharSet
end HttpExchange.Regex
