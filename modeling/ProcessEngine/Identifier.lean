import ProcessEngine.Data.KeyOrder
import ProcessEngine.Json.Decode
import ProcessEngine.Text.Numeral

/-!
# Identifiers

Instances, fibers and incidents are named by 128-bit identifiers, a type for each
kind so that they cannot be confused. An `IdSupply` yields identifiers in a fixed
order and never the same twice.
-/

namespace ProcessEngine

/-- What an identifier names. -/
inductive IdentifierKind where
  | processInstance
  | fiber
  | incident
deriving DecidableEq, Repr

/-- An identifier of something of a kind. -/
structure Identifier (kind : IdentifierKind) where
  /-- The identifier as a number of 128 bits. -/
  number : Nat
deriving DecidableEq, Repr, Inhabited

/-- Names a process instance. -/
abbrev InstanceId := Identifier .processInstance

/-- Names a fiber. -/
abbrev FiberId := Identifier .fiber

/-- Names an incident. -/
abbrev IncidentId := Identifier .incident

namespace Identifier

variable {kind : IdentifierKind}

instance : Ord (Identifier kind) := ⟨compareOn Identifier.number⟩
instance : Std.TransOrd (Identifier kind) :=
  inferInstanceAs (Std.TransCmp (compareOn Identifier.number))
instance : Std.LawfulEqOrd (Identifier kind) :=
  lawfulEqCmp_compareOn Identifier.number (fun left right same => by
    cases left; cases right; cases same; rfl)

/-- The text of an identifier: 32 lower-case digits in five groups. -/
def render (identifier : Identifier kind) : String :=
  let digits := Text.hexadecimal 32 identifier.number
  let part (start length : Nat) := (digits.drop start).take length
  String.ofList (part 0 8 ++ '-' :: part 8 4 ++ '-' :: part 12 4 ++ '-' :: part 16 4 ++
    '-' :: part 20 12)

/-- The number that five groups of digits between dashes name. -/
def groups? (characters : List Char) : Option Nat :=
  if characters.length = 36 ∧
      [8, 13, 18, 23].all (fun index => characters[index]? == some '-') then
    Text.hexadecimal? (characters.filter (fun character => character != '-')) >>= fun number =>
      if (characters.filter (fun character => character != '-')).length = 32 then some number
      else none
  else none

/-- Reads an identifier: 32 digits of either case, alone or in groups, and the groups also in
braces or after `urn:uuid:`, of either case too. -/
def parse? (text : String) : Option (Identifier kind) :=
  let characters := text.toList
  let number? :=
    if characters.length = 32 then Text.hexadecimal? characters
    else if characters.length = 36 then groups? characters
    else if characters.length = 38 ∧ characters.head? = some '\x7b' ∧
        characters.getLast? = some '\x7d' then
      groups? ((characters.drop 1).take 36)
    else if (characters.take 9).map Char.toLower = "urn:uuid:".toList then
      groups? (characters.drop 9)
    else none
  number?.map Identifier.mk

instance : JsonCodec (Identifier kind) where
  encode identifier := .text identifier.render
  reader := Decode.text parse?

end Identifier

/-- A supply of identifiers that were not used before. -/
structure IdSupply where
  /-- The number of the next identifier. -/
  next : Nat
deriving DecidableEq, Repr, Inhabited

namespace IdSupply

/-- Draws the next identifier. -/
def draw (supply : IdSupply) {kind : IdentifierKind} : Identifier kind × IdSupply :=
  (⟨supply.next⟩, ⟨supply.next + 1⟩)

end IdSupply

end ProcessEngine
