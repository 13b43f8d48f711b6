/-
  Numeric addresses of hosts: four octets with dots between them, or eight groups of hexadecimal
  digits with colons between them. In the second form one row of zero groups may be left out, the last
  two groups may be given as four octets, and a scope may follow a percent sign.
-/
import PageCompiler.Text.Hex
import PageCompiler.Text.Split

namespace PageCompiler.Service.Address

/-- A number up to 255 without leading zeros. -/
def isOctet (text : Text) : Bool :=
  let value := text.foldl (fun value digit => value * 10 + (digit.code - 48)) 0
  !text.isEmpty && text.length ≤ 3 && text.all (·.isDigit)
    && (text.length = 1 || text.head? ≠ some (.char '0')) && value ≤ 255

def isVersion4 (text : Text) : Bool :=
  let octets := Text.splitAt '.' text
  octets.length = 4 && octets.all isOctet

/-- One to four hexadecimal digits. -/
def isGroup (text : Text) : Bool :=
  !text.isEmpty && text.length ≤ 4 && text.all fun digit => (Text.hexValue? digit).isSome

/-- A group that stands for any other. -/
def zeroGroup : Text := "0"

/-- The groups of an address, with two groups for octets at the end. Nothing stands between the
    colons of a row that is left out, or outside of one at either end. -/
def groups? (text : Text) : Option (List Text) :=
  let groups := Text.splitAt ':' text
  match groups.getLast? with
  | none => none
  | some last =>
      if !last.contains '.' then some groups
      else if isVersion4 last then some (groups.dropLast ++ List.replicate 2 zeroGroup)
      else none

/-- The groups on one side of a row that is left out; an empty side is a single empty group. -/
def side (groups : List Text) : List Text := if groups = [[]] then [] else groups

/-- The places of the empty groups that are neither the first nor the last one. -/
def gaps (groups : List Text) : List Nat :=
  (List.range (groups.length - 1)).filter fun place => 0 < place && groups[place]? = some []

/-- Eight groups, or fewer with one gap. A gap at one end makes nine. -/
def areGroups (groups : List Text) : Bool :=
  groups.length ≤ 9 &&
    match gaps groups with
    | [] => groups.length = 8 && groups.all isGroup
    | [gap] =>
        let given := side (groups.take gap) ++ side (groups.drop (gap + 1))
        given.length ≤ 7 && given.all isGroup
    | _ => false

/-- The scope after the first percent sign is not empty and has no further one. -/
def isScope : Text → Bool
  | [] => true
  | _ :: scope => !scope.isEmpty && !scope.contains '%'

def isVersion6 (text : Text) : Bool :=
  match text.span (· ≠ .char '%') with
  | (address, scope) => (groups? address).any areGroups && isScope scope

end PageCompiler.Service.Address
