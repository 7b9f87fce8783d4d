import Courier.Url.Host

/-!
# Addresses of hosts

The addresses that are known without asking anybody: numeric ones, and that of the machine itself.
-/

namespace Courier

/-- The address of a host: an IPv4 address as a number, or the eight pieces of an IPv6 address. -/
inductive Address
  | ipv4 (number : Nat)
  | ipv6 (pieces : List Nat)
  deriving DecidableEq, Repr, Inhabited

namespace Address

/-- The address by which a machine reaches itself. -/
def loopback : Address := .ipv4 (127 * Nat.pow 2 24 + 1)

/-- The address of a host that is given as a number or by the name of the machine itself. An IPv6
    address may stand between brackets. -/
def ofHost? (host : String) : Option Address :=
  let name := host.toList.map Char.toLower
  if name = "localhost".toList then some loopback
  else if name.getLast? = some '.' then none
  else
    let bare := match name with
      | '[' :: rest => if rest.getLast? = some ']' then rest.dropLast else name
      | name => name
    ((Url.Host.ipv4? name).map ipv4).or ((Url.Host.ipv6? bare).map ipv6)

/-- Whether an address belongs to every machine: one by which it reaches itself, or one that stands
    for all its own. -/
def isOwn : Address → Bool
  | .ipv4 number => number = 0 ∨ number / Nat.pow 2 24 = 127
  | .ipv6 pieces => pieces.take 7 = List.replicate 7 0 ∧ pieces.getLast?.any (· ≤ 1)

end Address

end Courier
